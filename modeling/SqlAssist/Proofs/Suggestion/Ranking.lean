import SqlAssist.Proofs.Stability
import SqlAssist.Proofs.Text
import SqlAssist.Suggestion

/-! # Ranking

Ranking looks at two keys. Suggestions that insert the same text as the same kind are repeats, of
which the first one counts; what is left is ordered by kind and by the label whatever its case, and
both steps leave suggestions in their order otherwise. The limit cuts the end off, and numbering
changes nothing but the sort texts. So a smaller limit gives a front part, and ranked suggestions
are ranked already. -/
namespace SqlAssist.Suggestion

/-- What tells suggestions apart. -/
def key (s : Suggestion) : SuggestionKind × Text := (s.kind, s.insertText)

/-- What suggestions are ordered by. -/
def heading (s : Suggestion) : SuggestionKind × Text := (s.kind, Text.lower s.label)

/-- The first of each key, in order: what is cut off and numbered. -/
def ordered (l : List Suggestion) : List Suggestion := (distinctBy key l).mergeSort precedes

/-- What ranking makes of a list of suggestions, by the keys of its members and their places. -/
structure IsRanking (l : List Suggestion) (limit : Nat) (ranked : List Suggestion) : Prop where
  nodup : (ranked.map key).Nodup
  first : ∀ s ∈ ranked, ∃ t, l.find? (·.key == s.key) = some t ∧
    s = { t with sortText := s.sortText }
  ascending : ranked.Pairwise fun s t => s.kind.order < t.kind.order ∨
    s.kind = t.kind ∧ ¬ Text.ByteLt (Text.lower t.label) (Text.lower s.label)
  stable : ranked.Pairwise fun s t => s.heading = t.heading →
    l.findIdx (·.key == s.key) < l.findIdx (·.key == t.key)
  length_eq : ranked.length = min limit (l.map key).toFinset.card

variable {l : List Suggestion} {s t : Suggestion} {limit n : Nat}

theorem precedes_iff : s.precedes t = true ↔ s.kind.order < t.kind.order ∨
    s.kind = t.kind ∧ ¬ Text.ByteLt (Text.lower t.label) (Text.lower s.label) := by
  simp only [precedes, Bool.or_eq_true, Bool.and_eq_true, decide_eq_true_eq, beq_iff_eq,
    Text.le_iff_not_byteLt]

theorem precedes_trans (r s t : Suggestion) (h : r.precedes s = true) (h' : s.precedes t = true) :
    r.precedes t = true := by
  simp only [precedes, Bool.or_eq_true, Bool.and_eq_true, decide_eq_true_eq, beq_iff_eq] at h h' ⊢
  rcases h with h | ⟨heq, h⟩
  · rcases h' with h' | ⟨heq', _⟩
    · exact Or.inl (Nat.lt_trans h h')
    · exact Or.inl (heq' ▸ h)
  · rcases h' with h' | ⟨heq', h'⟩
    · exact Or.inl (heq ▸ h')
    · exact Or.inr ⟨heq.trans heq', Text.le_trans h h'⟩

theorem precedes_total (s t : Suggestion) : (s.precedes t || t.precedes s) = true := by
  simp only [precedes, Bool.or_eq_true, Bool.and_eq_true, decide_eq_true_eq, beq_iff_eq]
  rcases Nat.lt_trichotomy s.kind.order t.kind.order with hlt | heq | hgt
  · exact Or.inl (Or.inl hlt)
  · have hkind := SuggestionKind.order_injective heq
    have hlabel := Text.le_total (Text.lower s.label) (Text.lower t.label)
    rcases Bool.or_eq_true_iff.mp hlabel with h | h
    · exact Or.inl (Or.inr ⟨hkind, h⟩)
    · exact Or.inr (Or.inr ⟨hkind.symm, h⟩)
  · exact Or.inr (Or.inl hgt)

theorem precedes_of_heading_eq (h : s.heading = t.heading) : s.precedes t = true := by
  obtain ⟨hkind, hlabel⟩ := Prod.mk.inj h
  rw [precedes, hkind, hlabel, Text.le_refl, beq_self_eq_true, Bool.and_true, Bool.or_true]

theorem mem_distinctBy_of_mem_ordered (h : s ∈ ordered l) : s ∈ distinctBy key l :=
  List.mem_mergeSort.mp h

theorem nodup_ordered (l : List Suggestion) : ((ordered l).map key).Nodup := by
  have hperm := (List.mergeSort_perm (distinctBy key l) precedes).map key
  exact hperm.nodup_iff.mpr (nodup_map_distinctBy key l)

theorem length_ordered (l : List Suggestion) : (ordered l).length = (l.map key).toFinset.card := by
  rw [ordered, List.length_mergeSort, length_distinctBy]

theorem pairwise_precedes_ordered (l : List Suggestion) :
    (ordered l).Pairwise fun s t => s.precedes t = true :=
  List.pairwise_mergeSort precedes_trans precedes_total _

theorem pairwise_findIdx_ordered (l : List Suggestion) :
    (ordered l).Pairwise fun s t => s.heading = t.heading →
      l.findIdx (·.key == s.key) < l.findIdx (·.key == t.key) := by
  apply List.pairwise_iff_forall_sublist.mpr
  intro s t hsub hheading
  have hfilter := hsub.filter (fun u => decide (u.heading = s.heading))
  have hsame : (ordered l).filter (fun u => decide (u.heading = s.heading)) =
      (distinctBy key l).filter (fun u => decide (u.heading = s.heading)) := by
    apply filter_mergeSort precedes_trans precedes_total
    intro u _ v _ hu hv
    exact precedes_of_heading_eq ((of_decide_eq_true hu).trans (of_decide_eq_true hv).symm)
  have hpair : [s, t].filter (fun u => decide (u.heading = s.heading)) = [s, t] := by
    simp only [hheading, List.filter_cons, decide_true, if_true, List.filter_nil]
  rw [hsame, hpair] at hfilter
  have hdistinct := hfilter.trans List.filter_sublist
  exact List.pairwise_iff_forall_sublist.mp (pairwise_findIdx_distinctBy key l) hdistinct

theorem exists_of_mem_number (h : s ∈ number n l) :
    ∃ t ∈ l, s = { t with sortText := s.sortText } := by
  induction l generalizing n with
  | nil => cases h
  | cons t l ih =>
    rcases List.mem_cons.mp h with rfl | h
    · exact ⟨t, List.mem_cons_self, rfl⟩
    · obtain ⟨u, hu, heq⟩ := ih h
      exact ⟨u, List.mem_cons_of_mem t hu, heq⟩

theorem length_number (n : Nat) (l : List Suggestion) : (number n l).length = l.length := by
  induction l generalizing n with
  | nil => rfl
  | cons s l ih => rw [number, List.length_cons, ih, List.length_cons]

theorem number_take (n m : Nat) (l : List Suggestion) :
    number n (l.take m) = (number n l).take m := by
  induction l generalizing n m with
  | nil => rw [List.take_nil, number, List.take_nil]
  | cons s l ih =>
    cases m with
    | zero => rfl
    | succ m => rw [List.take_succ_cons, number, ih, number, List.take_succ_cons]

/-- What does not depend on the sort texts is the same for the numbered suggestions. -/
theorem map_number {α : Type} {f : Suggestion → α} (hf : ∀ s t, f { s with sortText := t } = f s)
    (n : Nat) (l : List Suggestion) : (number n l).map f = l.map f := by
  induction l generalizing n with
  | nil => rfl
  | cons s l ih => rw [number, List.map_cons, hf, ih, List.map_cons]

theorem pairwise_number {r : Suggestion → Suggestion → Prop}
    (hr : ∀ s t u v, r s t → r { s with sortText := u } { t with sortText := v })
    (h : l.Pairwise r) : (number n l).Pairwise r := by
  induction l generalizing n with
  | nil => exact .nil
  | cons s l ih =>
    have h := List.pairwise_cons.mp h
    apply List.pairwise_cons.mpr
    constructor
    · intro t ht
      obtain ⟨u, hu, heq⟩ := exists_of_mem_number ht
      rw [heq]
      exact hr s u _ _ (h.1 u hu)
    · exact ih h.2

theorem number_number (n : Nat) (l : List Suggestion) : number n (number n l) = number n l := by
  induction l generalizing n with
  | nil => rfl
  | cons s l ih => rw [number, number, ih]

theorem rank_eq_number (l : List Suggestion) (limit : Nat) :
    rank l limit = number 0 ((ordered l).take limit) := rfl

theorem map_key_rank (l : List Suggestion) (limit : Nat) :
    (rank l limit).map key = ((ordered l).map key).take limit := by
  rw [rank_eq_number, map_number (fun _ _ => rfl), List.map_take]

theorem nodup_map_key_rank (l : List Suggestion) (limit : Nat) :
    ((rank l limit).map key).Nodup := by
  rw [map_key_rank]
  exact (nodup_ordered l).sublist (List.take_sublist limit _)

theorem length_rank (l : List Suggestion) (limit : Nat) :
    (rank l limit).length = min limit (l.map key).toFinset.card := by
  rw [rank_eq_number, length_number, List.length_take, length_ordered]

theorem mem_distinctBy_of_mem_rank (h : s ∈ rank l limit) :
    ∃ t ∈ distinctBy key l, s = { t with sortText := s.sortText } := by
  obtain ⟨t, ht, heq⟩ := exists_of_mem_number h
  exact ⟨t, mem_distinctBy_of_mem_ordered (List.mem_of_mem_take ht), heq⟩

/-- A ranked suggestion is one of those that were ranked, but for its sort text. -/
theorem exists_of_mem_rank (h : s ∈ rank l limit) :
    ∃ t ∈ l, s = { t with sortText := s.sortText } := by
  obtain ⟨t, ht, heq⟩ := mem_distinctBy_of_mem_rank h
  exact ⟨t, mem_of_mem_distinctBy ht, heq⟩

theorem pairwise_precedes_rank (l : List Suggestion) (limit : Nat) :
    (rank l limit).Pairwise fun s t => s.precedes t = true := by
  apply pairwise_number (fun _ _ _ _ h => h)
  exact (pairwise_precedes_ordered l).sublist (List.take_sublist limit _)

theorem rank_eq_take_rank {m : Nat} (h : m ≤ limit) : rank l m = (rank l limit).take m := by
  rw [rank_eq_number, rank_eq_number, ← number_take, List.take_take, Nat.min_eq_left h]

theorem rank_rank (l : List Suggestion) (limit : Nat) :
    rank (rank l limit) limit = rank l limit := by
  have hlength : (rank l limit).length ≤ limit := by
    rw [length_rank]
    exact Nat.min_le_left _ _
  have hordered : ordered (rank l limit) = rank l limit := by
    rw [ordered, distinctBy_eq_self (nodup_map_key_rank l limit),
      List.mergeSort_of_pairwise (pairwise_precedes_rank l limit)]
  rw [rank_eq_number, hordered, List.take_of_length_le hlength, rank_eq_number l, number_number]

/-- Ranking keeps the first of each key, in the order of their headings and otherwise in the order of
the list; the limit cuts this off, and ranking again changes nothing. -/
theorem isRanking_rank (l : List Suggestion) (limit : Nat) :
    IsRanking l limit (rank l limit) ∧ (∀ m ≤ limit, rank l m = (rank l limit).take m) ∧
      rank (rank l limit) limit = rank l limit := by
  refine ⟨?ranking, fun m hm => rank_eq_take_rank hm, rank_rank l limit⟩
  constructor
  case nodup => exact nodup_map_key_rank l limit
  case first =>
    intro s hs
    obtain ⟨t, ht, heq⟩ := mem_distinctBy_of_mem_rank hs
    have hkey : s.key = t.key := by rw [heq]; rfl
    rw [hkey]
    exact ⟨t, find?_of_mem_distinctBy ht, heq⟩
  case ascending => exact (pairwise_precedes_rank l limit).imp precedes_iff.mp
  case stable =>
    apply pairwise_number (fun _ _ _ _ h => h)
    exact (pairwise_findIdx_ordered l).sublist (List.take_sublist limit _)
  case length_eq => exact length_rank l limit

/-- Two columns whose labels differ in case, the first one offered twice, between keywords. -/
def namesakes : List Suggestion :=
  [keyword "WHERE".toList, ofLabel .column "b".toList, ofLabel .column "B".toList,
    keyword "AND".toList, ofLabel .column "A".toList,
    (ofLabel .column "b".toList).withDetail "int".toList]

theorem ordered_namesakes : ordered namesakes =
    [ofLabel .column "A".toList, ofLabel .column "b".toList, ofLabel .column "B".toList,
      keyword "AND".toList, keyword "WHERE".toList] := by
  have hdistinct : distinctBy key namesakes = namesakes.take 5 := by decide
  rw [ordered, hdistinct]
  simp +decide [namesakes, List.mergeSort, List.MergeSort.Internal.splitInTwo]

theorem isRanking_rank_namesakes :
    2 ≤ 4 ∧ (rank namesakes 4).map label = ["A", "b", "B", "AND"].map String.toList ∧
      rank namesakes 2 = (rank namesakes 4).take 2 ∧ IsRanking namesakes 4 (rank namesakes 4) := by
  have hle : 2 ≤ 4 := by omega
  have hlabels : (rank namesakes 4).map label = ["A", "b", "B", "AND"].map String.toList := by
    rw [rank_eq_number, ordered_namesakes]
    decide
  have hranking := isRanking_rank namesakes 4
  exact ⟨hle, hlabels, hranking.2.1 2 hle, hranking.1⟩

end SqlAssist.Suggestion
