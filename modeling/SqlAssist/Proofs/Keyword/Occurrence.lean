import Mathlib.Data.List.Induction
import SqlAssist.Clause
import SqlAssist.Proofs.Keyword

/-! # The order of the keywords

All governing keywords of a text, in the order of the text, say which of several keywords comes last.
The landmarks say it by offsets: the last occurrence of each keyword is looked for on its own, and
the offsets are compared. Both answers are the same. -/
namespace SqlAssist

def governing : Pattern Keyword := fun before t =>
  Keyword.all.findSome? fun keyword =>
    (keyword.pattern before t).map fun found => (keyword, found.2)

namespace Keyword

def occurrences (t : Text) : List (Hit Keyword) := governing.places t

/-- The governing keywords of a text, in the order of the text. -/
def inText (t : Text) : List Keyword := (occurrences t).map Hit.value

/-- Whether, of a keyword and some others, that keyword comes last in a list. -/
def comesLast (l : List Keyword) (keyword : Keyword) (others : List Keyword) : Bool :=
  (l.filter fun member => member == keyword || others.contains member).getLast? == some keyword

theorem governing_eq_some_iff {left : Option Char} {t rest : Text} {keyword : Keyword} :
    governing left t = some (keyword, rest) ↔ keyword.pattern left t = some ((), rest) := by
  constructor
  · intro h
    obtain ⟨other, _, hother⟩ := List.exists_of_findSome?_eq_some h
    obtain ⟨⟨⟨⟩, behind⟩, hread, heq⟩ := Option.map_eq_some_iff.mp hother
    obtain ⟨rfl, rfl⟩ := Prod.mk.inj heq
    exact hread
  · intro h
    have hsome : (governing left t).isSome := by
      refine List.findSome?_isSome_iff.mpr ⟨keyword, keyword.mem_all, ?_⟩
      rw [h]
      rfl
    obtain ⟨⟨other, behind⟩, hfound⟩ := Option.isSome_iff_exists.mp hsome
    obtain ⟨found, _, hother⟩ := List.exists_of_findSome?_eq_some hfound
    obtain ⟨⟨⟨⟩, behind⟩, hread, heq⟩ := Option.map_eq_some_iff.mp hother
    obtain ⟨rfl, rfl⟩ := Prod.mk.inj heq
    obtain rfl := eq_of_pattern h hread
    rw [hfound, (Prod.mk.inj (Option.some.inj (h.symm.trans hread))).2]

/-- No keyword stands where the left neighbour is a part of a word, or white space begins. -/
theorem governing_eq_none {left : Option Char} {t : Text}
    (h : noWord left = false ∨ ∃ c ∈ t.head?, Character.isBlank c = true) :
    governing left t = none := by
  refine Option.eq_none_iff_forall_ne_some.mpr fun found hfound => ?_
  have hread := governing_eq_some_iff.mp hfound
  rcases h with hleft | ⟨c, hc, hblank⟩
  · rw [(exists_of_pattern hread).1] at hleft
    cases hleft
  · rw [not_isBlank_head? hread c hc] at hblank
    cases hblank

theorem placesFrom_governing_of_isBlank {t : Text} (h : Text.isBlank t = true)
    (before : Option Char) : governing.placesFrom before t = [] := by
  induction t generalizing before with
  | nil => rfl
  | cons c t ih =>
    obtain ⟨hc, ht⟩ := Bool.and_eq_true_iff.mp (List.all_cons.symm.trans h)
    rw [Pattern.placesFrom_of_none (governing_eq_none (Or.inr ⟨c, rfl, hc⟩)), ih ht]

/-- The places of one keyword are its occurrences among those of all keywords. -/
theorem placesFrom_pattern (keyword : Keyword) (before : Option Char) (t : Text) :
    keyword.pattern.placesFrom before t =
      ((governing.placesFrom before t).filter (·.value = keyword)).map fun hit =>
        ⟨hit.here, (), hit.rest⟩ := by
  induction t generalizing before with
  | nil => rfl
  | cons c t ih =>
    cases hread : governing before (c :: t) with
    | none =>
      have hnone : keyword.pattern before (c :: t) = none := by
        refine Option.eq_none_iff_forall_ne_some.mpr fun found hfound => ?_
        rw [governing_eq_some_iff.mpr hfound] at hread
        cases hread
      rw [Pattern.placesFrom_of_none hnone, Pattern.placesFrom_of_none hread, ih]
    | some found =>
      obtain ⟨other, rest⟩ := found
      have hother := governing_eq_some_iff.mp hread
      rw [Pattern.placesFrom_of_some hread]
      by_cases heq : other = keyword
      · rw [← heq, Pattern.placesFrom_of_some hother, heq, ih]
        simp
      · have hnone : keyword.pattern before (c :: t) = none := by
          refine Option.eq_none_iff_forall_ne_some.mpr fun found hfound => ?_
          exact heq (eq_of_pattern hother hfound)
        rw [Pattern.placesFrom_of_none hnone, ih]
        simp [heq]

/-- What a search for a keyword finds last is its last occurrence. -/
theorem last?_pattern (keyword : Keyword) (t : Text) :
    keyword.pattern.last? t =
      ((occurrences t).filter (·.value = keyword)).getLast?.map fun hit =>
        ⟨hit.here, (), hit.rest⟩ := by
  rw [Pattern.last?, hits_eq_places, Pattern.places, placesFrom_pattern, List.getLast?_map]
  rfl

theorem lastIn_eq (keyword : Keyword) (t : Text) :
    keyword.lastIn t =
      ((occurrences t).filter (·.value = keyword)).getLast?.map (Hit.start · t) := by
  rw [lastIn, last?_pattern, Option.map_map]
  rfl

theorem isSome_lastIn (keyword : Keyword) (t : Text) :
    (keyword.lastIn t).isSome = decide (keyword ∈ inText t) := by
  rw [lastIn_eq, Option.isSome_map, Bool.eq_iff_iff, List.getLast?_isSome, decide_eq_true_iff,
    ne_eq, List.filter_eq_nil_iff]
  simp [inText]

theorem pairwise_occurrences (t : Text) :
    (occurrences t).Pairwise fun hit later => hit.start t < later.start t :=
  governing.pairwise_start_places t

/-- What stands from the last keyword of a text on, and behind it. -/
theorem of_getLast?_occurrences {t : Text} {hit : Hit Keyword}
    (h : (occurrences t).getLast? = some hit) :
    (inText t).getLast? = some hit.value ∧ hit.value.behindLastIn t = hit.rest := by
  obtain ⟨init, hinit⟩ := List.getLast?_eq_some_iff.mp h
  constructor
  · rw [inText, List.getLast?_map, h, Option.map_some]
  · rw [behindLastIn, last?_pattern, hinit, List.filter_append]
    simp

theorem fromLastIn?_of_not_mem {keyword : Keyword} {t : Text} (h : keyword ∉ inText t) :
    keyword.fromLastIn? t = none := by
  have hnone : (occurrences t).filter (·.value = keyword) = [] := by
    refine List.filter_eq_nil_iff.mpr fun hit hhit hvalue => ?_
    exact h (of_decide_eq_true hvalue ▸ List.mem_map_of_mem hhit)
  rw [fromLastIn?, last?_pattern, hnone]
  rfl

section comesLast

variable {l : List Keyword} {keyword last : Keyword} {others : List Keyword}

theorem comesLast_nil : comesLast [] keyword others = false := rfl

theorem comesLast_concat :
    comesLast (l ++ [last]) keyword others =
      if last = keyword then true else if last ∈ others then false
        else comesLast l keyword others := by
  unfold comesLast
  rw [List.filter_append]
  split
  · rename_i h
    simp [h]
  · rename_i hne
    split
    · rename_i hmem
      simp [hmem, hne]
    · rename_i hnot
      simp [hne, hnot]

theorem comesLast_of_getLast? (h : l.getLast? = some keyword) :
    comesLast l keyword others = true := by
  obtain ⟨init, rfl⟩ := List.getLast?_eq_some_iff.mp h
  rw [comesLast_concat, if_pos rfl]

theorem comesLast_of_getLast?_mem (h : l.getLast? = some last) (hmem : last ∈ others)
    (hne : last ≠ keyword) : comesLast l keyword others = false := by
  obtain ⟨init, rfl⟩ := List.getLast?_eq_some_iff.mp h
  rw [comesLast_concat, if_neg hne, if_pos hmem]

theorem mem_of_comesLast (h : comesLast l keyword others = true) : keyword ∈ l :=
  (List.mem_filter.mp (List.mem_of_getLast? (beq_iff_eq.mp h))).1

theorem comesLast_of_not_mem (h : keyword ∉ l) : comesLast l keyword others = false :=
  Bool.eq_false_iff.mpr fun hlast => h (mem_of_comesLast hlast)

theorem comesLast_iff_forall (hne : others ≠ []) :
    comesLast l keyword others = true ↔ ∀ other ∈ others, comesLast l keyword [other] = true := by
  induction l using List.reverseRecOn with
  | nil =>
    obtain ⟨other, hother⟩ := List.exists_mem_of_ne_nil others hne
    simp only [comesLast_nil, Bool.false_eq_true, false_iff]
    exact fun hall => hall other hother
  | append_singleton l last ih =>
    simp only [comesLast_concat, List.mem_singleton]
    by_cases hkeyword : last = keyword
    · simp [hkeyword]
    · by_cases hmem : last ∈ others
      · simp only [hkeyword, hmem, if_true, if_false, Bool.false_eq_true, false_iff]
        intro hall
        simpa using hall last hmem
      · simp only [hkeyword, hmem, if_false, ih]
        refine forall₂_congr fun other hother => ?_
        rw [if_neg]
        rintro rfl
        exact hmem hother

end comesLast

/-- Among hits that start further and further on, offsets tell which of two keywords comes last. -/
theorem occursBehind_eq_comesLast {start : Hit Keyword → Nat} {l : List (Hit Keyword)}
    (hl : l.Pairwise fun hit later => start hit < start later) {a b : Keyword} (hne : a ≠ b) :
    occursBehind ((l.filter (·.value = a)).getLast?.map start)
        ((l.filter (·.value = b)).getLast?.map start) =
      comesLast (l.map Hit.value) a [b] := by
  induction l using List.reverseRecOn with
  | nil => rfl
  | append_singleton l last ih =>
    obtain ⟨hinit, _, hlast⟩ := List.pairwise_append.mp hl
    have hlatest (keyword : Keyword) : ((l ++ [last]).filter (·.value = keyword)).getLast? =
        if last.value = keyword then some last
          else (l.filter (·.value = keyword)).getLast? := by
      rw [List.filter_append]
      split <;> simp [*]
    have hbefore {keyword : Keyword} {n : Nat}
        (hn : (l.filter (·.value = keyword)).getLast?.map start = some n) : n < start last := by
      obtain ⟨hit, hhit, rfl⟩ := Option.map_eq_some_iff.mp hn
      exact hlast hit (List.mem_of_mem_filter (List.mem_of_getLast? hhit)) last (by simp)
    rw [hlatest, hlatest, List.map_append, List.map_singleton, comesLast_concat]
    by_cases ha : last.value = a
    · have hb : last.value ≠ b := by rwa [ha]
      rw [if_pos ha, if_neg hb, if_pos ha, Option.map_some]
      cases hfront : (l.filter (·.value = b)).getLast?.map start with
      | none => rfl
      | some n => exact decide_eq_true (hbefore hfront)
    · by_cases hb : last.value = b
      · rw [if_neg ha, if_pos hb, if_neg ha, if_pos (List.mem_singleton.mpr hb), Option.map_some]
        cases hfront : (l.filter (·.value = a)).getLast?.map start with
        | none => rfl
        | some n => exact decide_eq_false (Nat.lt_asymm (hbefore hfront))
      · rw [if_neg ha, if_neg hb, if_neg ha, if_neg (mt List.mem_singleton.mp hb)]
        exact ih hinit

/-- Whether the last occurrence of a keyword is behind those of some others. -/
theorem isBehind_lastIn {t : Text} {keyword : Keyword} {others : List Keyword} (hne : others ≠ [])
    (hnot : keyword ∉ others) :
    Landmarks.isBehind (fun keyword => keyword.lastIn t) keyword others =
      comesLast (inText t) keyword others := by
  rw [Bool.eq_iff_iff, comesLast_iff_forall hne, Landmarks.isBehind, List.all_eq_true]
  refine forall₂_congr fun other hother => ?_
  have hdifferent : keyword ≠ other := by
    rintro rfl
    exact hnot hother
  rw [lastIn_eq, lastIn_eq, occursBehind_eq_comesLast (pairwise_occurrences t) hdifferent, inText]

end Keyword

end SqlAssist
