import SqlAssist.Search

/-! # Where a search can hit

Every hit lies at the beginning of an end part of the text, and its pattern read it there. White
space is never read as the beginning of a word, and a line break in front of a text is like the
beginning of the text: patterns that begin with a word have the same hits with it and without it. -/
namespace SqlAssist

open Character

theorem Text.size_le_of_suffix {s t : Text} (h : s <:+ t) : Text.size s ≤ Text.size t := by
  obtain ⟨r, rfl⟩ := h
  rw [Text.size_append]
  omega

theorem Text.size_lt_of_suffix {s t : Text} (h : s <:+ t) (hlen : s.length < t.length) :
    Text.size s < Text.size t := by
  obtain ⟨u, rfl⟩ := h
  have hne : u ≠ [] := by
    rintro rfl
    simp at hlen
  have hpos := Text.size_pos_of_ne_nil hne
  rw [Text.size_append]
  omega

theorem Text.trimStart_suffix (t : Text) : Text.trimStart t <:+ t := List.dropWhile_suffix _

theorem Text.skipBlanks?_suffix {t rest : Text} (h : Text.skipBlanks? t = some rest) :
    rest <:+ t := by
  cases t with
  | nil => cases h
  | cons c t =>
    simp only [Text.skipBlanks?] at h
    split at h
    · obtain rfl := Option.some.inj h
      exact (Text.trimStart_suffix t).trans (List.suffix_cons c t)
    · cases h

theorem readWord?_suffix {word t rest : Text} (h : readWord? word t = some rest) : rest <:+ t := by
  induction word generalizing t with
  | nil =>
    rw [readWord?_nil] at h
    obtain rfl := Option.some.inj h
    exact List.suffix_refl _
  | cons w word ih =>
    cases t with
    | nil => cases h
    | cons c t =>
      simp only [readWord?] at h
      split at h
      · exact (ih h).trans (List.suffix_cons c t)
      · cases h

theorem exists_of_readWord? {word t rest : Text} (h : readWord? word t = some rest) :
    ∃ x, t = x ++ rest ∧ x.map foldLetter = word := by
  induction word generalizing t with
  | nil =>
    rw [readWord?_nil] at h
    obtain rfl := Option.some.inj h
    exact ⟨[], rfl, rfl⟩
  | cons w word ih =>
    cases t with
    | nil => cases h
    | cons c t =>
      simp only [readWord?] at h
      split at h
      · rename_i hc
        obtain ⟨x, rfl, rfl⟩ := ih h
        exact ⟨c :: x, rfl, by rw [List.map_cons, hc]⟩
      · cases h

namespace Pattern

variable {α : Type} {pattern : Pattern α}

theorem mem_hitsFrom {before : Option Char} {skip : Nat} {t : Text} {hit : Hit α}
    (h : hit ∈ hitsFrom pattern before skip t) :
    hit.here <:+ t ∧ ∃ left, pattern left hit.here = some (hit.value, hit.rest) := by
  induction t generalizing before skip with
  | nil => simp at h
  | cons c t ih =>
    have hlater {skip' : Nat} (h : hit ∈ hitsFrom pattern (some c) skip' t) :
        hit.here <:+ c :: t ∧ ∃ left, pattern left hit.here = some (hit.value, hit.rest) :=
      (ih h).imp_left fun hs => hs.trans (List.suffix_cons c t)
    cases skip with
    | succ skip => exact hlater h
    | zero =>
      cases hp : pattern before (c :: t) with
      | none => rw [hitsFrom_of_none hp] at h; exact hlater h
      | some found =>
        obtain ⟨value, rest⟩ := found
        rw [hitsFrom_of_some hp] at h
        rcases List.mem_cons.mp h with rfl | h
        · exact ⟨List.suffix_refl _, before, hp⟩
        · exact hlater h

/-- A hit lies in the text, and the pattern read it. -/
theorem mem_hits {t : Text} {hit : Hit α} (h : hit ∈ pattern.hits t) :
    hit.here <:+ t ∧ ∃ left, pattern left hit.here = some (hit.value, hit.rest) :=
  mem_hitsFrom h

theorem hits_eq_nil {t : Text}
    (h : ∀ left here, here <:+ t → pattern left here = none) : pattern.hits t = [] := by
  refine List.eq_nil_iff_forall_not_mem.mpr fun hit hmem => ?_
  obtain ⟨hs, left, hp⟩ := mem_hits hmem
  rw [h left hit.here hs] at hp
  cases hp

theorem hitsFrom_eq_cons {before : Option Char} {t : Text} {value : α} {rest : Text} (hne : t ≠ [])
    (h : pattern before t = some (value, rest)) :
    ∃ more, hitsFrom pattern before 0 t = ⟨t, value, rest⟩ :: more := by
  obtain ⟨c, t, rfl⟩ := List.exists_cons_of_ne_nil hne
  exact ⟨_, hitsFrom_of_some h⟩

/-- Where nothing is read in a front part, the search begins behind it. -/
theorem hitsFrom_append {before : Option Char} {x y : Text}
    (h : ∀ left s, s ≠ [] → s <:+ x → pattern left (s ++ y) = none) :
    hitsFrom pattern before 0 (x ++ y) = hitsFrom pattern (x.getLast?.or before) 0 y := by
  induction x generalizing before with
  | nil => rfl
  | cons c x ih =>
    have hlast : (c :: x).getLast?.or before = x.getLast?.or (some c) := by
      cases x with
      | nil => rfl
      | cons d x => rfl
    have hfirst : pattern before (c :: (x ++ y)) = none :=
      h before (c :: x) (List.cons_ne_nil c x) (List.suffix_refl _)
    have htail : hitsFrom pattern (some c) 0 (x ++ y) =
        hitsFrom pattern (x.getLast?.or (some c)) 0 y :=
      ih fun left s hne hs => h left s hne (hs.trans (List.suffix_cons c x))
    rw [List.cons_append, hitsFrom_of_none hfirst, htail, hlast]

/-- The pattern reads nothing at a line break, and a line break to the left is like no character. -/
structure IgnoresNewline (pattern : Pattern α) : Prop where
  at_newline : ∀ left t, pattern left ('\n' :: t) = none
  behind_newline : ∀ t, pattern (some '\n') t = pattern none t

theorem IgnoresNewline.hits_cons (h : IgnoresNewline pattern) (t : Text) :
    pattern.hits ('\n' :: t) = pattern.hits t := by
  rw [hits, hitsFrom_of_none (h.at_newline none t), hits]
  cases t with
  | nil => simp
  | cons c t => simp only [hitsFrom, h.behind_newline]

theorem IgnoresNewline.first?_cons (h : IgnoresNewline pattern) (t : Text) :
    pattern.first? ('\n' :: t) = pattern.first? t := by
  have heq := congrArg List.head? (h.hits_cons t)
  rwa [hits, hits, head?_hitsFrom, head?_hitsFrom] at heq

theorem IgnoresNewline.last?_cons (h : IgnoresNewline pattern) (t : Text) :
    pattern.last? ('\n' :: t) = pattern.last? t := by
  rw [last?, h.hits_cons, last?]

theorem here_suffix_of_last? {t : Text} {hit : Hit α} (h : pattern.last? t = some hit) :
    hit.here <:+ t :=
  (mem_hits (List.mem_of_getLast? h)).1

end Pattern

theorem foldLetter_of_isBlank {c : Char} (h : isBlank c = true) : foldLetter c = c := by
  have hs : c ≠ 'ſ' := by rintro rfl; revert h; decide
  have hk : c ≠ '\u212A' := by rintro rfl; revert h; decide
  have hupper : ¬ (c.val ≥ 'A'.val ∧ c.val ≤ 'Z'.val) := by
    rintro ⟨hlo, hhi⟩
    have hlo' : 65 ≤ c.toNat := hlo
    have hhi' : c.toNat ≤ 90 := hhi
    simp [isBlank, blanks, Ranges.contains, Ranges.covers] at h
    omega
  rw [foldLetter, if_neg hs, if_neg hk]
  exact dif_neg hupper

theorem readWord?_of_isBlank {w c : Char} {word t : Text} (hw : isBlank w = false)
    (hc : isBlank c = true) : readWord? (w :: word) (c :: t) = none := by
  rw [readWord?, foldLetter_of_isBlank hc, if_neg]
  rintro rfl
  rw [hc] at hw
  cases hw

theorem noWord_newline : noWord (some '\n') = noWord none := by decide

end SqlAssist
