import SqlAssist.Proofs.Clause.Precedence

/-! # The clause of a query

The clauses of a query follow each other in a fixed order. While a query is written in this order,
the last of its keywords decides the clause: the tests on the other keywords fail or come later. -/
namespace SqlAssist

open Keyword

namespace Keyword

/-- The place of a keyword among the clauses of a query. Keywords of other statements come last. -/
def rank : Keyword → Nat
  | .select => 0
  | .fromTable => 1
  | .join | .on => 2
  | .whereFilter => 3
  | .groupBy => 4
  | .havingFilter => 5
  | .orderBy => 6
  | .insert | .update | .set | .values => 7

def laterClauses : List Keyword := [.whereFilter, .groupBy, .havingFilter, .orderBy]

/-- The keywords of a query with a number of joins and some later clauses. -/
def ofQuery (joins : Nat) (later : List Keyword) : List Keyword :=
  .select :: .fromTable :: ((List.replicate joins [.join, .on]).flatten ++ later)

/-- Some keywords of a query from its beginning on, with each later clause there or left out. -/
def IsRegular (l : List Keyword) : Prop :=
  l ≠ [] ∧ ∃ joins later, List.Sublist later laterClauses ∧ l <+: ofQuery joins later

section comesLast

variable {l : List Keyword} {keyword last : Keyword} {others : List Keyword}

theorem comesLast_iff_of_pairwise (hl : l.Pairwise fun a b => rank a ≤ rank b)
    (hne : ∀ other ∈ others, rank other ≠ rank keyword) :
    comesLast l keyword others = true ↔
      keyword ∈ l ∧ ∀ other ∈ others, other ∈ l → rank other < rank keyword := by
  induction l using List.reverseRecOn with
  | nil => simp [comesLast_nil]
  | append_singleton l last ih =>
    obtain ⟨hinit, _, hlast⟩ := List.pairwise_append.mp hl
    have hle {a : Keyword} (ha : a ∈ l ++ [last]) : rank a ≤ rank last := by
      rcases List.mem_append.mp ha with ha | ha
      · exact hlast a ha last List.mem_cons_self
      · rw [List.mem_singleton.mp ha]
    rw [comesLast_concat]
    split
    · rename_i heq
      subst heq
      refine iff_of_true rfl ⟨by simp, fun other hother hmem => ?_⟩
      exact lt_of_le_of_ne (hle hmem) (hne other hother)
    · rename_i hdifferent
      split
      · rename_i hmem
        refine iff_of_false Bool.false_ne_true fun ⟨hkeyword, hsmaller⟩ => ?_
        have hlt := hsmaller last hmem (by simp)
        have hkeyword := hle hkeyword
        omega
      · rename_i hnot
        rw [ih hinit]
        simp only [List.mem_append, List.mem_singleton]
        constructor
        · rintro ⟨hkeyword, hsmaller⟩
          refine ⟨Or.inl hkeyword, fun other hother hmem => ?_⟩
          rcases hmem with hmem | rfl
          · exact hsmaller other hother hmem
          · exact absurd hother hnot
        · rintro ⟨hkeyword, hsmaller⟩
          refine ⟨hkeyword.resolve_right (Ne.symm hdifferent), fun other hother hmem => ?_⟩
          exact hsmaller other hother (Or.inl hmem)

/-- A keyword comes last exactly if it is the last of all, when otherwise one of the others is. -/
theorem comesLast_eq_decide (h : l.getLast? = some last)
    (hothers : last ≠ keyword → keyword ∈ l → last ∈ others) :
    comesLast l keyword others = decide (last = keyword) := by
  by_cases heq : last = keyword
  · rw [decide_eq_true heq]
    exact comesLast_of_getLast? (heq ▸ h)
  · rw [decide_eq_false heq]
    by_cases hmem : keyword ∈ l
    · exact comesLast_of_getLast?_mem h (hothers heq hmem) heq
    · exact comesLast_of_not_mem hmem

end comesLast

namespace IsRegular

variable {l : List Keyword} {keyword last : Keyword}

theorem rank_of_mem_joins {joins : Nat}
    (h : keyword ∈ (List.replicate joins [Keyword.join, .on]).flatten) : rank keyword = 2 := by
  obtain ⟨pair, hpair, hkeyword⟩ := List.mem_flatten.mp h
  rw [List.eq_of_mem_replicate hpair] at hkeyword
  have hall : ∀ keyword ∈ [Keyword.join, .on], rank keyword = 2 := by decide
  exact hall keyword hkeyword

theorem rank_of_mem_laterClauses (h : keyword ∈ laterClauses) :
    2 < rank keyword ∧ rank keyword < 7 := by
  have hall : ∀ keyword ∈ laterClauses, 2 < rank keyword ∧ rank keyword < 7 := by decide
  exact hall keyword h

theorem rank_of_mem_append {joins : Nat} {later : List Keyword}
    (hlater : List.Sublist later laterClauses)
    (h : keyword ∈ (List.replicate joins [Keyword.join, .on]).flatten ++ later) :
    2 ≤ rank keyword ∧ rank keyword < 7 := by
  rcases List.mem_append.mp h with h | h
  · rw [rank_of_mem_joins h]
    decide
  · exact ⟨(rank_of_mem_laterClauses (hlater.subset h)).1.le,
      (rank_of_mem_laterClauses (hlater.subset h)).2⟩

theorem pairwise_ofQuery {joins : Nat} {later : List Keyword}
    (h : List.Sublist later laterClauses) :
    (ofQuery joins later).Pairwise fun a b => rank a ≤ rank b := by
  refine .cons (fun b _ => Nat.zero_le _) (.cons (fun b hb => ?_) ?_)
  · exact Nat.le_of_succ_le (rank_of_mem_append h hb).1
  · refine List.pairwise_append.mpr ⟨?_, List.Pairwise.sublist h (by decide), fun a ha b hb => ?_⟩
    · refine List.pairwise_of_forall_mem_list fun a ha b hb => ?_
      rw [rank_of_mem_joins ha, rank_of_mem_joins hb]
    · rw [rank_of_mem_joins ha]
      exact (rank_of_mem_laterClauses (h.subset hb)).1.le

theorem pairwise (h : IsRegular l) : l.Pairwise fun a b => rank a ≤ rank b := by
  obtain ⟨_, joins, later, hlater, hprefix⟩ := h
  exact (pairwise_ofQuery hlater).sublist hprefix.sublist

theorem rank_le (h : IsRegular l) (hlast : l.getLast? = some last) (hmem : keyword ∈ l) :
    rank keyword ≤ rank last := by
  obtain ⟨init, rfl⟩ := List.getLast?_eq_some_iff.mp hlast
  obtain ⟨_, _, hle⟩ := List.pairwise_append.mp h.pairwise
  rcases List.mem_append.mp hmem with hmem | hmem
  · exact hle keyword hmem last List.mem_cons_self
  · rw [List.mem_singleton.mp hmem]

theorem eq_or_exists (h : IsRegular l) : l = [.select] ∨ ∃ joins later tail,
    List.Sublist later laterClauses ∧
      l = .select :: .fromTable :: tail ∧
        tail <+: (List.replicate joins [.join, .on]).flatten ++ later := by
  obtain ⟨hne, joins, later, hlater, hprefix⟩ := h
  obtain rfl | ⟨rest, rfl, hrest⟩ := List.prefix_cons_iff.mp hprefix
  · exact absurd rfl hne
  · obtain rfl | ⟨tail, rfl, htail⟩ := List.prefix_cons_iff.mp hrest
    · exact Or.inl rfl
    · exact Or.inr ⟨joins, later, tail, hlater, rfl, htail⟩

theorem rank_lt (h : IsRegular l) (hmem : keyword ∈ l) : rank keyword < 7 := by
  obtain rfl | ⟨joins, later, tail, hlater, rfl, htail⟩ := h.eq_or_exists
  · rw [List.mem_singleton.mp hmem]
    decide
  · rcases List.mem_cons.mp hmem with rfl | hmem
    · decide
    · rcases List.mem_cons.mp hmem with rfl | hmem
      · decide
      · exact (rank_of_mem_append hlater (htail.subset hmem)).2

theorem fromTable_mem (h : IsRegular l) (hmem : keyword ∈ l) (hne : keyword ≠ .select) :
    .fromTable ∈ l := by
  obtain rfl | ⟨joins, later, tail, hlater, rfl, htail⟩ := h.eq_or_exists
  · exact absurd (List.mem_singleton.mp hmem) hne
  · simp

theorem fromTable_not_mem_iff (h : IsRegular l) (hlast : l.getLast? = some last) :
    .fromTable ∉ l ↔ last = .select := by
  constructor
  · intro hnot
    by_contra hne
    exact hnot (h.fromTable_mem (List.mem_of_getLast? hlast) hne)
  · rintro rfl hmem
    exact absurd (h.rank_le hlast hmem) (by decide)

theorem join_mem (h : IsRegular l) (hmem : .on ∈ l) : .join ∈ l := by
  obtain rfl | ⟨joins, later, tail, hlater, rfl, htail⟩ := h.eq_or_exists
  · simp at hmem
  · have hon : Keyword.on ∈ tail := by simpa using hmem
    cases joins with
    | zero => exact absurd (hlater.subset (htail.subset hon)) (by decide)
    | succ joins =>
      rw [List.replicate_succ, List.flatten_cons, List.append_assoc, List.cons_append] at htail
      obtain rfl | ⟨rest, rfl, _⟩ := List.prefix_cons_iff.mp htail
      · cases hon
      · simp

theorem comesLast_eq (h : IsRegular l) {other : Keyword} (hne : rank other ≠ rank keyword) :
    comesLast l keyword [other] =
      decide (keyword ∈ l ∧ (other ∈ l → rank other < rank keyword)) := by
  rw [Bool.eq_iff_iff, decide_eq_true_iff, comesLast_iff_of_pairwise h.pairwise (by simpa using hne)]
  simp

section tests

variable {t : Text} (h : IsRegular (inText t))
include h

theorem goesOn_set : goesOn t .set = false := by
  have hnot : .update ∉ inText t := fun hmem => absurd (h.rank_lt hmem) (by decide)
  rw [goesOn, decide_eq_false hnot, Bool.false_and]

theorem goesOn_whereFilter : goesOn t .whereFilter = decide (.whereFilter ∈ inText t) := by
  have hset : .set ∉ inText t := fun hmem => absurd (h.rank_lt hmem) (by decide)
  rw [goesOn, h.comesLast_eq (by decide), h.comesLast_eq (by decide), h.comesLast_eq (by decide)]
  simp [rank, hset]

variable (hlast : (inText t).getLast? = some last)
include hlast

theorem comesLast_of_later {others : List Keyword}
    (hothers : ∀ other, rank keyword ≤ rank other → rank other < 7 → other ≠ keyword →
      other ∈ others) :
    comesLast (inText t) keyword others = decide (last = keyword) := by
  refine comesLast_eq_decide hlast fun hne hmem => ?_
  exact hothers last (h.rank_le hlast hmem) (h.rank_lt (List.mem_of_getLast? hlast)) hne

theorem goesOn_on : goesOn t .on = decide (last = .on) := by
  have htest : comesLast (inText t) .on
      [.join, .whereFilter, .groupBy, .orderBy, .havingFilter] = decide (last = .on) :=
    h.comesLast_of_later hlast fun other => by cases other <;> decide
  rw [goesOn, htest, Bool.and_eq_right_iff_imp]
  intro heq
  have hmem := List.mem_of_getLast? hlast
  rw [of_decide_eq_true heq] at hmem
  exact decide_eq_true (h.join_mem hmem)

theorem goesOn_orderBy
    (hopen : last = .orderBy →
      (standingOneOf orderByEnds).occurs (Keyword.orderBy.behindLastIn t) = false) :
    goesOn t .orderBy = decide (last = .orderBy) := by
  have htest : comesLast (inText t) .orderBy [.whereFilter, .groupBy, .havingFilter, .select] =
      decide (last = .orderBy) :=
    h.comesLast_of_later hlast fun other => by cases other <;> decide
  rw [goesOn, htest, Bool.and_eq_left_iff_imp]
  intro heq
  rw [hopen (of_decide_eq_true heq)]
  rfl

theorem goesOn_groupBy : goesOn t .groupBy = decide (last = .groupBy) :=
  h.comesLast_of_later hlast fun other => by cases other <;> decide

theorem goesOn_havingFilter : goesOn t .havingFilter = decide (last = .havingFilter) :=
  h.comesLast_of_later hlast fun other => by cases other <;> decide

theorem goesOn_select : goesOn t .select = decide (last = .select) := by
  have hmem := List.mem_of_getLast? hlast
  rw [goesOn, h.comesLast_eq (by decide), decide_eq_decide, ← h.fromTable_not_mem_iff hlast]
  constructor
  · rintro ⟨_, hnot⟩ hfrom
    exact absurd (hnot hfrom) (by decide)
  · intro hnot
    rw [(h.fromTable_not_mem_iff hlast).mp hnot] at hmem
    exact ⟨hmem, fun hfrom => absurd hfrom hnot⟩

theorem goesOn_fromTable : goesOn t .fromTable = decide (last ≠ .select) := by
  rw [goesOn, h.comesLast_eq (by decide), decide_eq_decide, ne_eq, ← h.fromTable_not_mem_iff hlast,
    not_not]
  exact and_iff_left fun _ => by decide

/-- In a regular query the last keyword is the first one whose clause goes on; a JOIN goes with its
FROM. -/
theorem find?_precedence
    (hopen : last = .orderBy →
      (standingOneOf orderByEnds).occurs (Keyword.orderBy.behindLastIn t) = false) :
    precedence.find? (goesOn t) = some (if last = .join then .fromTable else last) := by
  have hmem := List.mem_of_getLast? hlast
  have hwhere (hlt : rank last < rank .whereFilter) : .whereFilter ∉ inText t :=
    fun hmem => absurd (h.rank_le hlast hmem) (Nat.not_le.mpr hlt)
  have hrank := h.rank_lt hmem
  simp only [precedence, List.find?_cons, h.goesOn_on hlast, h.goesOn_orderBy hlast hopen,
    h.goesOn_groupBy hlast, h.goesOn_havingFilter hlast, h.goesOn_set, h.goesOn_whereFilter,
    h.goesOn_select hlast, h.goesOn_fromTable hlast]
  cases last with
  | insert | update | set | values => exact absurd hrank (by decide)
  | on | orderBy | groupBy | havingFilter => rfl
  | whereFilter => simp [hmem]
  | select | fromTable | join => simp [hwhere (by decide)]

end tests

end IsRegular

end Keyword

/-- In a regular query the last keyword governs: it gives the context, and whatever depends on the
text, a complete target or a condition that awaits an operator, is looked for behind it. -/
theorem analyze_of_isRegular {t : Text} (hplain : Text.IsPlain t)
    (hjoin : Typing.joinTail.occurs (Text.lastLine t) = false) (h : IsRegular (inText t))
    (hopen : ∀ hit ∈ occurrences t, hit.value = .orderBy →
      (standingOneOf orderByEnds).occurs hit.rest = false) :
    ∃ hit, (occurrences t).getLast? = some hit ∧
      analyze t (Text.lastLine t) = hit.value.contextBehind hit.rest := by
  have hne : occurrences t ≠ [] := fun hnil => h.1 (List.map_eq_nil_iff.mpr hnil)
  obtain ⟨hit, hhit⟩ := Option.isSome_iff_exists.mp (List.getLast?_isSome.mpr hne)
  obtain ⟨hlast, hrest⟩ := of_getLast?_occurrences hhit
  refine ⟨hit, hhit, ?_⟩
  have hfind := h.find?_precedence hlast fun heq => by
    rw [← heq, hrest]
    exact hopen hit (List.mem_of_getLast? hhit) heq
  have hinsert : .insert ∉ inText t := fun hmem => absurd (h.rank_lt hmem) (by decide)
  have hon (htail : Typing.onTail.occurs (Text.lastLine t) = true) : goesOn t .on = true := by
    rw [h.goesOn_on hlast]
    rw [getLast?_inText_of_onTail htail] at hlast
    exact decide_eq_true (Option.some.inj hlast).symm
  rw [hplain.analyze_eq, classify_eq_find? hinsert hjoin hon, hfind, Option.elim_some, ← hrest]
  by_cases heq : hit.value = .join
  · rw [if_pos heq, heq]
    exact context_fromTable_of_join (heq ▸ hlast)
  · rw [if_neg heq]
    exact context_of_getLast? hlast heq

theorem analyze_of_isRegular_order :
    let t := "SELECT x FROM a JOIN b ON y = z\nWHERE x > 1 ORDER\tBY x, ".toList
    Text.IsPlain t ∧ Typing.joinTail.occurs (Text.lastLine t) = false ∧ IsRegular (inText t) ∧
      (∀ hit ∈ occurrences t, hit.value = .orderBy →
        (standingOneOf orderByEnds).occurs hit.rest = false) ∧
      ∃ hit, (occurrences t).getLast? = some hit ∧
        analyze t (Text.lastLine t) = hit.value.contextBehind hit.rest := by
  intro t
  have hplain : Text.IsPlain t := by decide +kernel
  have hjoin : Typing.joinTail.occurs (Text.lastLine t) = false := by decide +kernel
  have hinText : inText t = ofQuery 1 [.whereFilter, .orderBy] := by decide +kernel
  have h : IsRegular (inText t) := by
    rw [hinText]
    exact ⟨List.cons_ne_nil _ _, 1, _, by decide, List.prefix_refl _⟩
  have hopen : ∀ hit ∈ occurrences t, hit.value = .orderBy →
      (standingOneOf orderByEnds).occurs hit.rest = false := by decide +kernel
  exact ⟨hplain, hjoin, h, hopen, analyze_of_isRegular hplain hjoin h hopen⟩

end SqlAssist
