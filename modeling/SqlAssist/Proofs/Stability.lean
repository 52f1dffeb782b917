import Mathlib.Data.Finset.Card
import Mathlib.Data.Finset.Dedup
import SqlAssist.Scope

/-! # Sorting and removing repeats

Lists are ordered by a stable sort and lose the repeats of a key, of which the first is kept. Both
leave elements in the order in which they stood: sorting does so for those that may precede each
other, and removing repeats for all that are kept. -/
namespace SqlAssist

/-- Sorting leaves elements in their order where each of them may precede the others. -/
theorem filter_mergeSort {α : Type} {le : α → α → Bool}
    (trans : ∀ a b c, le a b = true → le b c = true → le a c = true)
    (total : ∀ a b, (le a b || le b a) = true) (p : α → Bool) (l : List α)
    (h : ∀ a ∈ l, ∀ b ∈ l, p a = true → p b = true → le a b = true) :
    (l.mergeSort le).filter p = l.filter p := by
  have hsorted : (l.filter p).Pairwise (fun a b => le a b = true) := by
    apply List.pairwise_of_forall_mem_list
    intro a ha b hb
    have ha := List.mem_filter.mp ha
    have hb := List.mem_filter.mp hb
    exact h a ha.1 b hb.1 ha.2 hb.2
  have hsub : (l.filter p).Sublist (l.mergeSort le) :=
    List.sublist_mergeSort trans total hsorted List.filter_sublist
  have hfilter := hsub.filter p
  rw [List.filter_filter] at hfilter
  simp only [Bool.and_self] at hfilter
  have hperm := (List.mergeSort_perm l le).filter p
  exact (hfilter.eq_of_length hperm.length_eq.symm).symm

theorem distinctBy_map {α β γ : Type} [BEq γ] (f : α → β) (key : β → γ) (l : List α) :
    distinctBy key (l.map f) = (distinctBy (fun a => key (f a)) l).map f := by
  induction l with
  | nil => rfl
  | cons a l ih =>
    rw [List.map_cons, distinctBy, ih, distinctBy, List.map_cons, List.filter_map]
    rfl

section distinctBy

variable {α β : Type} [BEq β] {key : α → β} {l : List α} {a : α}

theorem mem_of_mem_distinctBy (h : a ∈ distinctBy key l) : a ∈ l := by
  induction l with
  | nil => cases h
  | cons first l ih =>
    rcases List.mem_cons.mp h with rfl | h
    · exact List.mem_cons_self
    · exact List.mem_cons_of_mem _ (ih ((List.mem_filter.mp h).1))

/-- An element is kept when its key differs from the keys of all that come before it. -/
theorem distinctBy_eq_filter_zipIdx (key : α → β) (l : List α) :
    distinctBy key l = (l.zipIdx.filter fun found =>
      (l.take found.2).all fun earlier => key found.1 != key earlier).map Prod.fst := by
  induction l with
  | nil => rfl
  | cons a l ih =>
    rw [distinctBy, ih, List.zipIdx_cons, List.zipIdx_succ, List.filter_cons_of_pos (by simp),
      List.map_cons, List.filter_map, List.filter_filter, List.filter_map, List.map_map]
    rfl

variable [LawfulBEq β]

theorem eq_append_of_mem_distinctBy (h : a ∈ distinctBy key l) :
    ∃ before after, l = before ++ a :: after ∧ ∀ b ∈ before, key b ≠ key a := by
  induction l with
  | nil => cases h
  | cons first l ih =>
    rcases List.mem_cons.mp h with rfl | h
    · exact ⟨[], l, rfl, by simp⟩
    · obtain ⟨hmem, hkey⟩ := List.mem_filter.mp h
      obtain ⟨before, after, rfl, hbefore⟩ := ih hmem
      refine ⟨first :: before, after, rfl, ?_⟩
      intro b hb
      rcases List.mem_cons.mp hb with rfl | hb
      · exact Ne.symm (bne_iff_ne.mp hkey)
      · exact hbefore b hb

theorem find?_of_mem_distinctBy (h : a ∈ distinctBy key l) :
    l.find? (fun b => key b == key a) = some a := by
  obtain ⟨before, after, rfl, hbefore⟩ := eq_append_of_mem_distinctBy h
  have hnone : before.find? (fun b => key b == key a) = none := by
    apply List.find?_eq_none.mpr
    intro b hb heq
    exact hbefore b hb (beq_iff_eq.mp heq)
  rw [List.find?_append, hnone, Option.none_or]
  exact List.find?_cons_of_pos (beq_self_eq_true (key a))

/-- The kept elements stand in the order in which their keys first occur. -/
theorem pairwise_findIdx_distinctBy (key : α → β) (l : List α) :
    (distinctBy key l).Pairwise fun a b =>
      l.findIdx (fun c => key c == key a) < l.findIdx (fun c => key c == key b) := by
  induction l with
  | nil => exact .nil
  | cons first l ih =>
    have hnext {a : α} (ha : a ∈ (distinctBy key l).filter fun b => key b != key first) :
        (first :: l).findIdx (fun c => key c == key a) =
          l.findIdx (fun c => key c == key a) + 1 := by
      have hne : key first ≠ key a := Ne.symm (bne_iff_ne.mp (List.mem_filter.mp ha).2)
      rw [List.findIdx_cons, beq_eq_false_iff_ne.mpr hne]
      rfl
    rw [distinctBy, List.pairwise_cons]
    constructor
    · intro b hb
      rw [hnext hb, List.findIdx_cons, beq_self_eq_true]
      exact Nat.succ_pos _
    · apply (ih.sublist List.filter_sublist).imp_of_mem
      intro a b ha hb hlt
      rw [hnext ha, hnext hb]
      omega

theorem nodup_map_distinctBy (key : α → β) (l : List α) : ((distinctBy key l).map key).Nodup := by
  induction l with
  | nil => exact List.nodup_nil
  | cons a l ih =>
    rw [distinctBy, List.map_cons, List.nodup_cons]
    constructor
    · intro hmem
      obtain ⟨b, hb, hkey⟩ := List.mem_map.mp hmem
      exact bne_iff_ne.mp (List.mem_filter.mp hb).2 hkey
    · exact ih.sublist (List.filter_sublist.map key)

theorem mem_map_distinctBy_iff {k : β} : k ∈ (distinctBy key l).map key ↔ k ∈ l.map key := by
  induction l with
  | nil => rfl
  | cons a l ih =>
    rw [distinctBy, List.map_cons, List.mem_cons, List.map_cons, List.mem_cons, ← ih]
    by_cases hk : k = key a
    · exact iff_of_true (Or.inl hk) (Or.inl hk)
    · simp only [hk, false_or, List.mem_map, List.mem_filter, bne_iff_ne]
      constructor
      · rintro ⟨b, ⟨hb, _⟩, rfl⟩
        exact ⟨b, hb, rfl⟩
      · rintro ⟨b, hb, rfl⟩
        exact ⟨b, ⟨hb, hk⟩, rfl⟩

theorem length_distinctBy [DecidableEq β] :
    (distinctBy key l).length = (l.map key).toFinset.card := by
  rw [← List.length_map key, ← List.toFinset_card_of_nodup (nodup_map_distinctBy key l)]
  congr 1
  ext k
  rw [List.mem_toFinset, List.mem_toFinset, mem_map_distinctBy_iff]

theorem distinctBy_eq_self (h : (l.map key).Nodup) : distinctBy key l = l := by
  induction l with
  | nil => rfl
  | cons a l ih =>
    obtain ⟨hnot, htail⟩ := List.nodup_cons.mp h
    rw [distinctBy, ih htail, List.filter_eq_self.mpr]
    intro b hb
    rw [bne_iff_ne]
    intro heq
    exact hnot (List.mem_map.mpr ⟨b, hb, heq⟩)

end distinctBy

end SqlAssist
