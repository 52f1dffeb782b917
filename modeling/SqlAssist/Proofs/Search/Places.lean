import SqlAssist.Proofs.Search

/-! # Every place where a pattern reads

A search goes on behind each hit, so it can miss places that lie inside a hit. When no place lies
inside what was read at another one, nothing is missed: the hits are all the places, from left to
right. -/
namespace SqlAssist.Pattern

variable {α : Type} {pattern : Pattern α}

/-- The places of a text, which `before` stands in front of, where the pattern reads something,
whether or not they lie inside what was read at an earlier one. -/
def placesFrom (pattern : Pattern α) : Option Char → Text → List (Hit α)
  | _, [] => []
  | before, c :: t =>
    match pattern before (c :: t) with
    | some (value, rest) => ⟨c :: t, value, rest⟩ :: placesFrom pattern (some c) t
    | none => placesFrom pattern (some c) t

/-- All places where the pattern reads something. -/
def places (pattern : Pattern α) (t : Text) : List (Hit α) := placesFrom pattern none t

theorem placesFrom_of_none {before : Option Char} {c : Char} {t : Text}
    (h : pattern before (c :: t) = none) :
    placesFrom pattern before (c :: t) = placesFrom pattern (some c) t := by
  simp [placesFrom, h]

theorem placesFrom_of_some {before : Option Char} {c : Char} {t : Text} {value : α} {rest : Text}
    (h : pattern before (c :: t) = some (value, rest)) :
    placesFrom pattern before (c :: t) =
      ⟨c :: t, value, rest⟩ :: placesFrom pattern (some c) t := by
  simp [placesFrom, h]

theorem getLast?_cons_or (c : Char) (x : Text) (before : Option Char) :
    (c :: x).getLast?.or before = x.getLast?.or (some c) := by
  cases x with
  | nil => rfl
  | cons d x => rfl

/-- The pattern reads the hit behind `x`, when `before` stands in front of `x`. -/
def ReadsBehind (pattern : Pattern α) (before : Option Char) (x : Text) (hit : Hit α) : Prop :=
  hit.here ≠ [] ∧ pattern (x.getLast?.or before) hit.here = some (hit.value, hit.rest)

theorem exists_of_mem_placesFrom {before : Option Char} {t : Text} {hit : Hit α}
    (h : hit ∈ placesFrom pattern before t) :
    ∃ x, t = x ++ hit.here ∧ ReadsBehind pattern before x hit := by
  induction t generalizing before with
  | nil => cases h
  | cons c t ih =>
    have hlater (h : hit ∈ placesFrom pattern (some c) t) :
        ∃ x, c :: t = x ++ hit.here ∧ ReadsBehind pattern before x hit := by
      obtain ⟨x, rfl, hne, hread⟩ := ih h
      exact ⟨c :: x, rfl, hne, by rwa [getLast?_cons_or]⟩
    cases hp : pattern before (c :: t) with
    | none =>
      rw [placesFrom_of_none hp] at h
      exact hlater h
    | some found =>
      obtain ⟨value, rest⟩ := found
      rw [placesFrom_of_some hp] at h
      rcases List.mem_cons.mp h with rfl | h
      · exact ⟨[], rfl, List.cons_ne_nil c t, hp⟩
      · exact hlater h

theorem mem_placesFrom_of_readsBehind {before : Option Char} {x : Text} {hit : Hit α}
    (h : ReadsBehind pattern before x hit) : hit ∈ placesFrom pattern before (x ++ hit.here) := by
  induction x generalizing before with
  | nil =>
    obtain ⟨here, value, rest⟩ := hit
    obtain ⟨hne, hread⟩ := h
    obtain ⟨c, t, rfl⟩ := List.exists_cons_of_ne_nil hne
    have hplaces : placesFrom pattern before (c :: t) =
        ⟨c :: t, value, rest⟩ :: placesFrom pattern (some c) t := placesFrom_of_some hread
    rw [List.nil_append, hplaces]
    exact List.mem_cons_self
  | cons c x ih =>
    have hmem : hit ∈ placesFrom pattern (some c) (x ++ hit.here) := by
      apply ih
      obtain ⟨hne, hread⟩ := h
      rw [getLast?_cons_or] at hread
      exact ⟨hne, hread⟩
    rw [List.cons_append]
    cases hp : pattern before (c :: (x ++ hit.here)) with
    | none => rwa [placesFrom_of_none hp]
    | some found =>
      rw [placesFrom_of_some hp]
      exact List.mem_cons_of_mem _ hmem

theorem exists_placesFrom_append (pattern : Pattern α) (before : Option Char) (x y : Text) :
    ∃ l, placesFrom pattern before (x ++ y) = l ++ placesFrom pattern (x.getLast?.or before) y := by
  induction x generalizing before with
  | nil => exact ⟨[], rfl⟩
  | cons c x ih =>
    obtain ⟨l, hl⟩ := ih (some c)
    rw [getLast?_cons_or, List.cons_append]
    cases hp : pattern before (c :: (x ++ y)) with
    | none => exact ⟨l, by rw [placesFrom_of_none hp, hl]⟩
    | some found => exact ⟨⟨_, _, _⟩ :: l, by rw [placesFrom_of_some hp, hl, List.cons_append]⟩

/-- Of two places the later one is a place of what follows the first character of the earlier one. -/
theorem pairwise_placesFrom {R : Hit α → Hit α → Prop} {before : Option Char} {t : Text}
    (h : ∀ x c y value rest, t = x ++ c :: y →
      pattern (x.getLast?.or before) (c :: y) = some (value, rest) →
        ∀ hit ∈ placesFrom pattern (some c) y, R ⟨c :: y, value, rest⟩ hit) :
    (placesFrom pattern before t).Pairwise R := by
  induction t generalizing before with
  | nil => exact .nil
  | cons c t ih =>
    have htail : (placesFrom pattern (some c) t).Pairwise R := by
      apply ih
      intro x d y value rest ht hread
      refine h (c :: x) d y value rest (by rw [ht]; rfl) ?_
      rwa [getLast?_cons_or]
    cases hp : pattern before (c :: t) with
    | none => rwa [placesFrom_of_none hp]
    | some found =>
      obtain ⟨value, rest⟩ := found
      rw [placesFrom_of_some hp]
      exact .cons (h [] c t value rest rfl hp) htail

theorem pairwise_start_places (pattern : Pattern α) (t : Text) :
    (pattern.places t).Pairwise fun hit later => hit.start t < later.start t := by
  apply pairwise_placesFrom
  intro x c y value rest ht _ later hlater
  obtain ⟨x', rfl, _⟩ := exists_of_mem_placesFrom hlater
  have hc := c.utf8Size_pos
  simp only [Hit.start, ht, Text.size_append, Text.size_cons]
  omega

theorem firstFrom?_eq_head?_placesFrom (pattern : Pattern α) (before : Option Char) (t : Text) :
    firstFrom? pattern before t = (placesFrom pattern before t).head? := by
  induction t generalizing before with
  | nil => rfl
  | cons c t ih =>
    cases hp : pattern before (c :: t) with
    | none => rw [placesFrom_of_none hp, ← ih, firstFrom?, hp]
    | some found => rw [placesFrom_of_some hp, firstFrom?, hp, List.head?_cons]

/-- A pattern occurs in a text when there is a place where it reads something. -/
theorem occurs_iff {t : Text} :
    pattern.occurs t = true ↔
      ∃ x y found, t = x ++ y ∧ y ≠ [] ∧ pattern x.getLast? y = some found := by
  rw [occurs, first?, firstFrom?_eq_head?_placesFrom]
  constructor
  · intro h
    obtain ⟨hit, hhead⟩ := Option.isSome_iff_exists.mp h
    obtain ⟨x, ht, hne, hread⟩ := exists_of_mem_placesFrom (List.mem_of_head? hhead)
    rw [Option.or_none] at hread
    exact ⟨x, hit.here, _, ht, hne, hread⟩
  · rintro ⟨x, y, ⟨value, rest⟩, rfl, hne, hread⟩
    have hmem : (⟨y, value, rest⟩ : Hit α) ∈ placesFrom pattern none (x ++ y) :=
      mem_placesFrom_of_readsBehind ⟨hne, by rwa [Option.or_none]⟩
    rw [List.isSome_head?]
    exact List.ne_nil_of_mem hmem

theorem mem_placesFrom_of_mem_hitsFrom {before : Option Char} {skip : Nat} {t : Text} {hit : Hit α}
    (h : hit ∈ hitsFrom pattern before skip t) : hit ∈ placesFrom pattern before t := by
  induction t generalizing before skip with
  | nil => simp at h
  | cons c t ih =>
    have hlater {skip' : Nat} (h : hit ∈ hitsFrom pattern (some c) skip' t) :
        hit ∈ placesFrom pattern before (c :: t) := by
      cases hp : pattern before (c :: t) with
      | none =>
        rw [placesFrom_of_none hp]
        exact ih h
      | some found =>
        rw [placesFrom_of_some hp]
        exact List.mem_cons_of_mem _ (ih h)
    cases skip with
    | succ skip => exact hlater h
    | zero =>
      cases hp : pattern before (c :: t) with
      | none =>
        rw [hitsFrom_of_none hp] at h
        exact hlater h
      | some found =>
        rw [hitsFrom_of_some hp] at h
        rcases List.mem_cons.mp h with rfl | h
        · rw [placesFrom_of_some hp]
          exact List.mem_cons_self
        · exact hlater h

theorem exists_of_mem_hits {t : Text} {hit : Hit α} (h : hit ∈ pattern.hits t) :
    ∃ x, t = x ++ hit.here ∧ pattern x.getLast? hit.here = some (hit.value, hit.rest) := by
  obtain ⟨x, ht, _, hread⟩ := exists_of_mem_placesFrom (mem_placesFrom_of_mem_hitsFrom h)
  rw [Option.or_none] at hread
  exact ⟨x, ht, hread⟩

/-- No place begins in the first `n` characters of the text. -/
def IsClear (pattern : Pattern α) (before : Option Char) (n : Nat) (t : Text) : Prop :=
  ∀ x y, t = x ++ y → x.length < n → pattern (x.getLast?.or before) y = none

/-- No place begins inside what is read at another one. -/
def NoOverlap (pattern : Pattern α) (before : Option Char) (t : Text) : Prop :=
  ∀ x c y value rest, t = x ++ c :: y →
    pattern (x.getLast?.or before) (c :: y) = some (value, rest) →
      IsClear pattern (some c) (y.length - rest.length) y

theorem NoOverlap.tail {before : Option Char} {c : Char} {t : Text}
    (h : NoOverlap pattern before (c :: t)) : NoOverlap pattern (some c) t := by
  intro x d y value rest ht hread
  refine h (c :: x) d y value rest (by rw [ht]; rfl) ?_
  rwa [getLast?_cons_or]

theorem IsClear.tail {before : Option Char} {n : Nat} {c : Char} {t : Text}
    (h : IsClear pattern before (n + 1) (c :: t)) : IsClear pattern (some c) n t := by
  intro x y ht hx
  have hnone := h (c :: x) y (by rw [ht]; rfl) (by simpa using hx)
  rwa [getLast?_cons_or] at hnone

/-- Where no place begins in a front part, the search goes on behind it, less what it skips there. -/
theorem IsClear.hitsFrom_append {before : Option Char} {x y : Text}
    (h : IsClear pattern before x.length (x ++ y)) (skip : Nat) :
    hitsFrom pattern before skip (x ++ y) =
      hitsFrom pattern (x.getLast?.or before) (skip - x.length) y := by
  induction x generalizing before skip with
  | nil => rfl
  | cons c x ih =>
    rw [getLast?_cons_or, List.cons_append]
    cases skip with
    | succ skip =>
      rw [hitsFrom_skip, ih h.tail, List.length_cons, Nat.add_sub_add_right]
    | zero =>
      have hnone : pattern before (c :: (x ++ y)) = none :=
        h [] (c :: (x ++ y)) rfl (Nat.zero_lt_succ _)
      rw [hitsFrom_of_none hnone, ih h.tail, Nat.zero_sub, Nat.zero_sub]

/-- Where no places overlap, the search finds all of them. -/
theorem NoOverlap.hitsFrom_eq {before : Option Char} {skip : Nat} {t : Text}
    (h : NoOverlap pattern before t) (hskip : IsClear pattern before skip t) :
    hitsFrom pattern before skip t = placesFrom pattern before t := by
  induction t generalizing before skip with
  | nil => rw [hitsFrom_nil, placesFrom]
  | cons c t ih =>
    cases skip with
    | succ skip =>
      have hnone : pattern before (c :: t) = none := hskip [] (c :: t) rfl (Nat.zero_lt_succ skip)
      rw [hitsFrom_skip, placesFrom_of_none hnone]
      exact ih h.tail hskip.tail
    | zero =>
      cases hp : pattern before (c :: t) with
      | none =>
        rw [hitsFrom_of_none hp, placesFrom_of_none hp]
        exact ih h.tail (fun _ _ _ hlt => absurd hlt (Nat.not_lt_zero _))
      | some found =>
        obtain ⟨value, rest⟩ := found
        rw [hitsFrom_of_some hp, placesFrom_of_some hp, ih h.tail (h [] c t value rest rfl hp)]

theorem NoOverlap.hits_eq {t : Text} (h : NoOverlap pattern none t) :
    pattern.hits t = pattern.places t :=
  h.hitsFrom_eq fun _ _ _ hlt => absurd hlt (Nat.not_lt_zero _)

end SqlAssist.Pattern
