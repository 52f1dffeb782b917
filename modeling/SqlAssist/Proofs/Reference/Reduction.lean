import Mathlib.Data.List.Pairwise
import Mathlib.Data.List.Permutation
import Mathlib.Data.List.Sort
import SqlAssist.Proofs.Reference.Written
import SqlAssist.Proofs.Stability

/-! # The widest spans

The reduction keeps one reference for each span that lies in no wider one, and of several references
with that span it keeps the first: the sort is stable, and a reference is dropped only for one that
is kept already. So the spans that are kept do not depend on the order of the references, what is kept
is not reduced any further, and where no reference lies in another one, all are kept. -/
namespace SqlAssist.Reference

/-- Keeping one more reference covers it and what was covered before. -/
theorem exists_contains_keep {kept : List Reference} {reference other : Reference}
    (h : (∃ r ∈ kept, r.contains other = true) ∨ reference = other) :
    ∃ r ∈ keep kept reference, r.contains other = true := by
  cases hany : kept.any (·.contains reference) with
  | true =>
    rw [keep_of_contained hany]
    rcases h with hold | rfl
    · exact hold
    · exact List.any_eq_true.mp hany
  | false =>
    rw [keep_of_not_contained hany]
    rcases h with ⟨r, hr, hcontains⟩ | rfl
    · exact ⟨r, List.mem_append_left _ hr, hcontains⟩
    · exact ⟨reference, by simp, contains_refl reference⟩

theorem exists_contains_foldl_keep {kept l : List Reference} {other : Reference}
    (h : (∃ r ∈ kept, r.contains other = true) ∨ other ∈ l) :
    ∃ r ∈ l.foldl keep kept, r.contains other = true := by
  induction l generalizing kept with
  | nil => simpa using h
  | cons next l ih =>
    apply ih
    rcases h with hold | hmem
    · exact Or.inl (exists_contains_keep (Or.inl hold))
    · rcases List.mem_cons.mp hmem with rfl | hmem
      · exact Or.inl (exists_contains_keep (Or.inr rfl))
      · exact Or.inr hmem

/-- Every reference lies in one that is kept. -/
theorem exists_contains_reduce {l : List Reference} {other : Reference} (h : other ∈ l) :
    ∃ r ∈ reduce l, r.contains other = true :=
  exists_contains_foldl_keep (Or.inr (List.mem_mergeSort.mpr h))

/-- Neither reference lies in the other. -/
def IsApart (r s : Reference) : Prop := r.contains s = false ∧ s.contains r = false

instance : Std.Symm IsApart := ⟨fun _ _ h => h.symm⟩

theorem isApart_of_isBefore {r s : Reference} (h : r.IsBefore s) : r.IsApart s := by
  obtain ⟨hstart, hstop⟩ := h
  constructor
  · simp [contains, Nat.not_le.mpr hstop]
  · simp [contains, Nat.not_le.mpr hstart]

theorem eq_of_contains_of_mem_reduce {l : List Reference} {r s : Reference} (hr : r ∈ reduce l)
    (hs : s ∈ reduce l) (h : r.contains s = true) : r = s := by
  by_contra hne
  have hapart := ((pairwise_reduce l).imp isApart_of_isBefore).forall hr hs hne
  rw [hapart.1] at h
  cases h

theorem contains_of_mem_reduce {l : List Reference} {r s : Reference} (hr : r ∈ reduce l)
    (hs : s ∈ l) (h : s.contains r = true) : r.contains s = true := by
  obtain ⟨k, hk, hks⟩ := exists_contains_reduce hs
  obtain rfl : k = r := eq_of_contains_of_mem_reduce hk hr (contains_trans hks h)
  exact hks

instance : Std.Irrefl IsBefore := ⟨fun _ h => Nat.lt_irrefl _ h.1⟩

instance : Std.Antisymm IsBefore := ⟨fun _ _ h h' => absurd h'.1 (Nat.lt_asymm h.1)⟩

/-- References that can be put in order are kept, once each and in this order. -/
theorem reduce_eq_of_mem_iff {l ordered : List Reference} (h : ∀ r, r ∈ l ↔ r ∈ ordered)
    (hordered : ordered.Pairwise IsBefore) : reduce l = ordered := by
  apply List.Pairwise.eq_of_mem_iff (pairwise_reduce l) hordered
  intro r
  constructor
  · intro hr
    exact (h r).mp (mem_of_mem_reduce hr)
  · intro hr
    obtain ⟨k, hk, hcontains⟩ := exists_contains_reduce ((h r).mpr hr)
    have hk' : k ∈ ordered := (h k).mp (mem_of_mem_reduce hk)
    by_cases heq : k = r
    · rwa [heq] at hk
    · have hapart := (hordered.imp isApart_of_isBefore).forall hk' hr heq
      rw [hapart.1] at hcontains
      cases hcontains

def span (reference : Reference) : Nat × Nat := (reference.start, reference.stop)

/-- No reference of the list has a span that properly contains that of `reference`. -/
def IsWidest (l : List Reference) (reference : Reference) : Prop :=
  ∀ other ∈ l, other.contains reference = true → other.span = reference.span

theorem span_eq_iff {r s : Reference} :
    r.span = s.span ↔ r.start = s.start ∧ r.length = s.length := by
  simp only [span, stop, Prod.mk.injEq]
  omega

theorem contains_congr_right {r s s' : Reference} (h : s.span = s'.span) :
    r.contains s = r.contains s' := by
  obtain ⟨hstart, hstop⟩ := Prod.mk.inj h
  rw [contains, contains, hstart, hstop]

theorem span_eq_of_contains {r s : Reference} (h : r.contains s = true) (h' : s.contains r = true) :
    r.span = s.span := by
  simp only [contains, Bool.and_eq_true, decide_eq_true_eq] at h h'
  exact Prod.ext (Nat.le_antisymm h.1 h'.1) (Nat.le_antisymm h'.2 h.2)

/-- Sorting leaves references with the same span in their order. -/
theorem filter_span_mergeSort (l : List Reference) (place : Nat × Nat) :
    (l.mergeSort precedes).filter (·.span = place) = l.filter (·.span = place) := by
  apply filter_mergeSort precedes_trans precedes_total
  intro r _ s _ hplace hplace'
  have hspan : r.span = s.span := (of_decide_eq_true hplace).trans (of_decide_eq_true hplace').symm
  obtain ⟨hstart, hlength⟩ := span_eq_iff.mp hspan
  exact precedes_iff.mpr (Or.inr ⟨hstart, Nat.le_of_eq hlength.symm⟩)

theorem find?_span_mergeSort (l : List Reference) (place : Nat × Nat) :
    (l.mergeSort precedes).find? (·.span = place) = l.find? (·.span = place) := by
  rw [← List.head?_filter, filter_span_mergeSort, List.head?_filter]

/-- What is kept of the references seen so far: they all lie in one that is kept, and one that is
kept is the first with its span. -/
structure Keeps (seen kept : List Reference) : Prop where
  covers : ∀ s ∈ seen, ∃ r ∈ kept, r.contains s = true
  first : ∀ r ∈ kept, seen.find? (·.span = r.span) = some r

theorem Keeps.nil : Keeps [] [] where
  covers := by simp
  first := by simp

/-- A reference that no kept one contains is the first with its span. -/
theorem Keeps.find?_eq_none {seen kept : List Reference} (h : Keeps seen kept)
    {reference : Reference} (hnot : kept.any (·.contains reference) = false) :
    seen.find? (·.span = reference.span) = none := by
  rw [List.find?_eq_none]
  intro s hs hspan
  obtain ⟨r, hr, hcontains⟩ := h.covers s hs
  rw [contains_congr_right (of_decide_eq_true hspan)] at hcontains
  exact absurd hcontains (List.any_eq_false.mp hnot r hr)

theorem Keeps.keep {seen kept : List Reference} (h : Keeps seen kept) (reference : Reference) :
    Keeps (seen ++ [reference]) (keep kept reference) where
  covers := by
    intro s hs
    apply exists_contains_keep
    rcases List.mem_append.mp hs with hs | hs
    · exact Or.inl (h.covers s hs)
    · exact Or.inr (List.mem_singleton.mp hs).symm
  first := by
    have hold : ∀ r ∈ kept, (seen ++ [reference]).find? (·.span = r.span) = some r := by
      intro r hr
      rw [List.find?_append, h.first r hr, Option.some_or]
    intro r hr
    cases hany : kept.any (·.contains reference) with
    | true =>
      rw [keep_of_contained hany] at hr
      exact hold r hr
    | false =>
      rw [keep_of_not_contained hany] at hr
      rcases List.mem_append.mp hr with hr | hr
      · exact hold r hr
      · obtain rfl := List.mem_singleton.mp hr
        rw [List.find?_append, h.find?_eq_none hany, Option.none_or]
        simp

theorem Keeps.foldl_keep {seen kept : List Reference} (h : Keeps seen kept) (l : List Reference) :
    Keeps (seen ++ l) (l.foldl Reference.keep kept) := by
  induction l generalizing seen kept with
  | nil => simpa using h
  | cons next l ih =>
    have hnext := ih (h.keep next)
    rwa [List.append_assoc, List.singleton_append] at hnext

theorem find?_span_of_mem_reduce {l : List Reference} {r : Reference} (h : r ∈ reduce l) :
    l.find? (·.span = r.span) = some r := by
  have hkeeps := Keeps.nil.foldl_keep (l.mergeSort precedes)
  rw [← find?_span_mergeSort]
  exact hkeeps.first r h

theorem isWidest_of_mem_reduce {l : List Reference} {r : Reference} (h : r ∈ reduce l) :
    IsWidest l r := by
  intro s hs hcontains
  exact span_eq_of_contains hcontains (contains_of_mem_reduce h hs hcontains)

theorem exists_span_eq_of_isWidest {l : List Reference} {r : Reference} (hr : r ∈ l)
    (h : IsWidest l r) : ∃ k ∈ reduce l, k.span = r.span := by
  obtain ⟨k, hk, hcontains⟩ := exists_contains_reduce hr
  exact ⟨k, hk, h k (mem_of_mem_reduce hk) hcontains⟩

theorem mem_reduce_iff {l : List Reference} {r : Reference} :
    r ∈ reduce l ↔ l.find? (·.span = r.span) = some r ∧ IsWidest l r := by
  constructor
  · intro h
    exact ⟨find?_span_of_mem_reduce h, isWidest_of_mem_reduce h⟩
  · rintro ⟨hfirst, hwidest⟩
    obtain ⟨k, hk, hspan⟩ := exists_span_eq_of_isWidest (List.mem_of_find?_eq_some hfirst) hwidest
    have hkfirst := find?_span_of_mem_reduce hk
    rw [hspan, hfirst] at hkfirst
    rwa [Option.some.inj hkfirst]

/-- The spans that are kept depend only on which references there are. -/
theorem span_mem_reduce_of_subset {l l' : List Reference} (h : ∀ r, r ∈ l ↔ r ∈ l')
    {place : Nat × Nat} (hplace : place ∈ (reduce l).map span) :
    place ∈ (reduce l').map span := by
  obtain ⟨r, hr, rfl⟩ := List.mem_map.mp hplace
  have hwidest : IsWidest l' r := fun s hs => isWidest_of_mem_reduce hr s ((h s).mpr hs)
  obtain ⟨k, hk, hspan⟩ :=
    exists_span_eq_of_isWidest ((h r).mp (mem_of_mem_reduce hr)) hwidest
  exact List.mem_map.mpr ⟨k, hk, hspan⟩

theorem map_span_reduce_eq {l l' : List Reference} (h : ∀ r, r ∈ l ↔ r ∈ l') :
    (reduce l).map span = (reduce l').map span := by
  have hirrefl : Std.Irrefl (fun p q : Nat × Nat => p.1 < q.1) := ⟨fun p => Nat.lt_irrefl p.1⟩
  have hantisymm : Std.Antisymm (fun p q : Nat × Nat => p.1 < q.1) :=
    ⟨fun p q hpq hqp => absurd hqp (Nat.lt_asymm hpq)⟩
  have hordered (l : List Reference) : ((reduce l).map span).Pairwise (fun p q => p.1 < q.1) :=
    List.pairwise_map.mpr ((pairwise_reduce l).imp And.left)
  apply (hordered l).eq_of_mem_iff (hordered l')
  intro place
  exact ⟨span_mem_reduce_of_subset h, span_mem_reduce_of_subset fun r => (h r).symm⟩

theorem reduce_reduce (l : List Reference) : reduce (reduce l) = reduce l :=
  reduce_eq_of_mem_iff (fun _ => Iff.rfl) (pairwise_reduce l)

/-- The references in `kept` are those of `l` with the widest spans. -/
structure AreWidest (l kept : List Reference) : Prop where
  /-- For each span that lies in no wider one, the first reference with that span. -/
  mem_iff : ∀ r, r ∈ kept ↔ l.find? (·.span = r.span) = some r ∧ IsWidest l r
  covers : ∀ s ∈ l, ∃ r ∈ kept, r.contains s = true
  ordered : kept.Pairwise IsBefore

/-- The reduction keeps the references with the widest spans. In another order the references have
the same spans left, and a second reduction changes nothing. -/
theorem areWidest_reduce (l : List Reference) :
    AreWidest l (reduce l) ∧
      (∀ l', l'.Perm l → (reduce l').map span = (reduce l).map span) ∧
      reduce (reduce l) = reduce l := by
  refine ⟨⟨fun r => mem_reduce_iff, fun s => exists_contains_reduce, pairwise_reduce l⟩, ?_,
    reduce_reduce l⟩
  intro l' hperm
  exact map_span_reduce_eq fun r => hperm.mem_iff

/-- Equal spans, an empty one, shared starts, shared ends and a partial overlap, and the same
references backwards. -/
theorem areWidest_reduce_mixed :
    let named (table : String) (start length : Nat) : Reference :=
      ⟨none, table.toList, start, length, false⟩
    let l := [named "inner" 18 5, named "front" 14 3, named "first" 14 9, named "second" 14 9,
      named "empty" 23 0, named "across" 20 6]
    l.reverse.Perm l ∧ reduce l = [named "first" 14 9, named "across" 20 6] ∧
      AreWidest l [named "first" 14 9, named "across" 20 6] ∧
      (reduce l.reverse).map span = [(14, 23), (20, 26)] ∧ reduce (reduce l) = reduce l := by
  intro named l
  have hreduce : reduce l = [named "first" 14 9, named "across" 20 6] := by cbv
  obtain ⟨hwidest, hperm, hagain⟩ := areWidest_reduce l
  refine ⟨l.reverse_perm, hreduce, hreduce ▸ hwidest, ?_, hagain⟩
  rw [hperm l.reverse l.reverse_perm, hreduce]
  rfl

end SqlAssist.Reference
