import Mathlib.Algebra.Group.Nat.Defs
import Mathlib.Data.List.ProdSigma
import SqlAssist.Proofs.Alias
import SqlAssist.Proofs.Completion.Locality
import SqlAssist.Proofs.Identifier.Quoting
import SqlAssist.Proofs.Suggestion.Ranking

/-! # Sort texts

Ranked suggestions are numbered in their order, and editors sort them by the bytes of these numbers.
Numbers with the same count of digits are ordered as their texts are. There are four digits at least,
so this holds up to the number 9999; the next one is written with five, and its text comes before
that of 9999. -/
namespace SqlAssist

open Text Suggestion

namespace Text

variable {s t : Text}

theorem ofDigitChars_lt_pow_length (h : ∀ c ∈ t, c.isDigit = true) :
    Nat.ofDigitChars 10 t 0 < 10 ^ t.length := by
  induction t with
  | nil => exact Nat.one_pos
  | cons c t ih =>
    have hdigit := (Char.isDigit_iff_toNat.mp (h c List.mem_cons_self)).2
    have htail := ih fun d hd => h d (List.mem_cons_of_mem c hd)
    have hfirst : 10 * 0 + (c.toNat - '0'.toNat) ≤ 9 := by
      have hnine : '9'.toNat = '0'.toNat + 9 := rfl
      omega
    have hmul := Nat.mul_le_mul_left (10 ^ t.length) hfirst
    rw [Nat.ofDigitChars_cons, Nat.ofDigitChars_eq_ofDigitChars_zero, List.length_cons,
      Nat.pow_succ]
    omega

/-- Of two texts with the same count of digits, that of the smaller number is the smaller one. -/
theorem byteLt_of_ofDigitChars_lt (hs : ∀ c ∈ s, c.isDigit = true)
    (ht : ∀ c ∈ t, c.isDigit = true) (hlength : s.length = t.length)
    (hlt : Nat.ofDigitChars 10 s 0 < Nat.ofDigitChars 10 t 0) : ByteLt s t := by
  induction s generalizing t with
  | nil =>
    obtain rfl := List.length_eq_zero_iff.mp hlength.symm
    exact absurd hlt (Nat.lt_irrefl _)
  | cons c s ih =>
    cases t with
    | nil => cases hlength
    | cons d t =>
      replace hlength : s.length = t.length := Nat.succ.inj hlength
      have hsTail : ∀ a ∈ s, a.isDigit = true := fun a ha => hs a (List.mem_cons_of_mem c ha)
      have htTail : ∀ a ∈ t, a.isDigit = true := fun a ha => ht a (List.mem_cons_of_mem d ha)
      rw [Nat.ofDigitChars_cons, Nat.ofDigitChars_eq_ofDigitChars_zero, Nat.ofDigitChars_cons,
        Nat.ofDigitChars_eq_ofDigitChars_zero (l := t), hlength] at hlt
      apply byteLt_cons_cons_iff.mpr
      rcases Nat.lt_trichotomy c.toNat d.toNat with hcd | hcd | hcd
      · exact Or.inl hcd
      · obtain rfl := Char.toNat_inj.mp hcd
        exact Or.inr ⟨rfl, ih hsTail htTail hlength (Nat.lt_of_add_lt_add_left hlt)⟩
      · have hd := (Char.isDigit_iff_toNat.mp (ht d List.mem_cons_self)).1
        have hbound := ofDigitChars_lt_pow_length htTail
        have hmul := Nat.mul_le_mul_left (10 ^ t.length)
          (show 10 * 0 + (d.toNat - '0'.toNat) + 1 ≤ 10 * 0 + (c.toNat - '0'.toNat) by omega)
        rw [Nat.mul_add] at hmul
        omega

end Text

namespace Suggestion

variable {l : List Suggestion} {m n limit : Nat}

theorem isDigit_of_mem_sortNumber {c : Char} (h : c ∈ sortNumber n) : c.isDigit = true := by
  rcases List.mem_append.mp h with h | h
  · obtain rfl := List.eq_of_mem_replicate h
    rfl
  · exact Nat.isDigit_of_mem_toDigits (by omega) (by omega) h

theorem length_sortNumber (h : n < 10000) : (sortNumber n).length = 4 := by
  have hdigits : (Text.ofNat n).length ≤ 4 :=
    (Nat.length_toDigits_le_iff (by omega) (by omega)).mpr h
  rw [sortNumber, List.length_append, List.length_replicate]
  omega

theorem ofDigitChars_sortNumber (n : Nat) : Nat.ofDigitChars 10 (sortNumber n) 0 = n := by
  rw [sortNumber, Nat.ofDigitChars_append, Nat.ofDigitChars_replicate_zero, Nat.mul_zero]
  exact Nat.ofDigitChars_ten_toDigits

theorem byteLt_sortNumber (hmn : m < n) (hn : n < 10000) :
    ByteLt (sortNumber m) (sortNumber n) := by
  apply byteLt_of_ofDigitChars_lt
  · exact fun _ h => isDigit_of_mem_sortNumber h
  · exact fun _ h => isDigit_of_mem_sortNumber h
  · rw [length_sortNumber hn, length_sortNumber (Nat.lt_trans hmn hn)]
  · rwa [ofDigitChars_sortNumber, ofDigitChars_sortNumber]

theorem map_sortText_number (n : Nat) (l : List Suggestion) :
    (number n l).map sortText = (List.range' n l.length).map sortNumber := by
  induction l generalizing n with
  | nil => rfl
  | cons s l ih => rw [number, List.map_cons, ih, List.length_cons, List.range'_succ, List.map_cons]

theorem map_sortText_rank (l : List Suggestion) (limit : Nat) :
    (rank l limit).map sortText = (List.range (rank l limit).length).map sortNumber := by
  rw [rank_eq_number, map_sortText_number, length_number, List.range_eq_range']

theorem pairwise_byteLt_sortNumber (h : n ≤ 10000) :
    ((List.range n).map sortNumber).Pairwise ByteLt := by
  apply List.pairwise_map.mpr
  apply List.pairwise_lt_range.imp_of_mem
  intro i j _ hj hij
  have hj := List.mem_range.mp hj
  exact byteLt_sortNumber hij (by omega)

/-- The texts of the first `n` numbers ascend as long as 10000, whose text is smaller than that of
9999, is not among them. -/
theorem pairwise_byteLt_sortNumber_iff :
    ((List.range n).map sortNumber).Pairwise ByteLt ↔ n ≤ 10000 := by
  refine ⟨?_, pairwise_byteLt_sortNumber⟩
  intro hpairwise
  by_contra hlarge
  have hlength : (List.range n).length = n := List.length_range
  have hbreak := List.pairwise_iff_getElem.mp (List.pairwise_map.mp hpairwise) 9999 10000
    (by omega) (by omega) (by omega)
  rw [List.getElem_range, List.getElem_range] at hbreak
  exact absurd hbreak (by decide)

end Suggestion

/-- The sort texts of the first ten thousand suggestions ascend, and those of all suggestions do so
exactly if there are no more. -/
theorem complete_pairwise_sortText_iff (document : Text) (position : Position) (snapshot : Snapshot)
    (settings : Settings) :
    let sortTexts :=
      (complete document position snapshot settings).suggestions.map Suggestion.sortText
    (sortTexts.take 10000).Pairwise ByteLt ∧
      (sortTexts.Pairwise ByteLt ↔ sortTexts.length ≤ 10000) := by
  intro sortTexts
  obtain ⟨n, hn⟩ : ∃ n, sortTexts = (List.range n).map sortNumber :=
    ⟨_, map_sortText_rank _ settings.maxSuggestions⟩
  rw [hn, List.length_map, List.length_range, ← List.map_take, List.take_range]
  exact ⟨pairwise_byteLt_sortNumber (Nat.min_le_left _ _), pairwise_byteLt_sortNumber_iff⟩

def aliasLetters : List Char :=
  ['a', 'b', 'c', 'd', 'e', 'f', 'g', 'h', 'i', 'j', 'k', 'l', 'm', 'n', 'o', 'p', 'q', 'r', 's',
    't', 'u', 'v', 'w', 'x', 'y', 'z']

/-- A query over one table, named once for each letter, up to what it is ordered by. -/
def selfJoin : Text :=
  "SELECT * FROM ".toList ++ Text.join ", ".toList (aliasLetters.map fun letter => ['T', ' ', letter])
    ++ " ORDER BY ".toList

def numberedColumn (n : Nat) : Column := .ofType ('c' :: Text.ofNat n) "t".toList

def wideTable : Table := ⟨"s".toList, "T".toList, (List.range 385).map numberedColumn⟩

def selfJoined : List ScopedTable :=
  aliasLetters.map fun letter => ⟨"s".toList, "T".toList, [letter], true⟩

def wideColumns : List Suggestion :=
  (aliasLetters ×ˢ List.range 385).map fun pair =>
    ofColumn (numberedColumn pair.2) wideTable (some [pair.1])

theorem nodup_map_key_wideColumns : (wideColumns.map key).Nodup := by
  have hquote : ∀ letter ∈ aliasLetters, Identifier.quote [letter] = [letter] :=
    Text.forall_of_all (by decide +kernel)
  have hpairs : (aliasLetters ×ˢ List.range 385).Nodup :=
    List.Nodup.product (by decide) List.nodup_range
  rw [wideColumns, List.map_map]
  apply hpairs.map_on
  rintro ⟨letter, i⟩ hi ⟨other, j⟩ hj heq
  have hletter := (List.pair_mem_product.mp hi).1
  have hother := (List.pair_mem_product.mp hj).1
  have htext : Identifier.quote [letter] ++ '.' :: Identifier.quote ('c' :: Text.ofNat i) =
      Identifier.quote [other] ++ '.' :: Identifier.quote ('c' :: Text.ofNat j) :=
    (Prod.mk.inj heq).2
  rw [hquote letter hletter, hquote other hother] at htext
  obtain ⟨rfl, hrest⟩ := List.cons.inj htext
  have hname := congrArg Identifier.strip (List.cons.inj hrest).2
  rw [Identifier.strip_quote, Identifier.strip_quote] at hname
  rw [Text.ofNat_injective (List.cons.inj hname).2]

theorem columnsInScope_selfJoined :
    columnsInScope selfJoined { tables := [wideTable] } true = wideColumns := by
  have hqualifies : qualifies selfJoined true = true := rfl
  have hfind : Snapshot.find? { tables := [wideTable] } (some "s".toList) "T".toList =
      some wideTable := by decide +kernel
  have hcolumns : wideTable.columns = (List.range 385).map numberedColumn := rfl
  rw [columnsInScope, hqualifies]
  simp only [selfJoined, List.flatMap_map, hfind, if_true, hcolumns, List.map_map]
  simp only [wideColumns, SProd.sprod, List.product, List.map_flatMap, List.map_map]
  rfl

theorem complete_selfJoin (limit : Nat) :
    (complete selfJoin (Position.ofOffset selfJoin (Text.size selfJoin)) { tables := [wideTable] }
        { maxSuggestions := limit }).suggestions = rank wideColumns limit := by
  have hcurrent : Statement.current selfJoin = selfJoin := by decide +kernel
  have hline : Text.lastLine selfJoin = selfJoin := by decide +kernel
  have hquery : (Statement.containing selfJoin (Text.size selfJoin)).text = selfJoin := by
    decide +kernel
  have hclause : classify (mask selfJoin) selfJoin = ⟨.orderBy, .high⟩ := by decide +kernel
  have hmember : Completion.memberAccess.first? selfJoin = none := by decide +kernel
  have hscope : Scope.tablesInScope selfJoin { tables := [wideTable] } = selfJoined := by
    decide +kernel
  have hparts := Completion.complete_append_eq_ofParts selfJoin [] { tables := [wideTable] }
    { maxSuggestions := limit }
  rw [List.append_nil, hcurrent, hline, hquery] at hparts
  rw [hparts]
  simp only [Completion.ofParts, hclause, hmember, Completion.forClause, hscope,
    columnsInScope_selfJoined]

theorem length_rank_wideColumns : (rank wideColumns 20000).length = 10010 := by
  have hkeys : (wideColumns.map key).length = 10010 := by
    rw [wideColumns, List.length_map, List.length_map, List.length_product, List.length_range]
    rfl
  rw [length_rank, List.toFinset_card_of_nodup nodup_map_key_wideColumns, hkeys]
  rfl

/-- With more suggestions than there are numbers of four digits, two of them stand in the wrong order
by their sort texts. -/
theorem complete_not_pairwise_sortText :
    let sortTexts := (complete selfJoin (Position.ofOffset selfJoin (Text.size selfJoin))
      { tables := [wideTable] } { maxSuggestions := 20000 }).suggestions.map Suggestion.sortText
    sortTexts[9999]? = some "9999".toList ∧ sortTexts[10000]? = some "10000".toList ∧
      ¬ sortTexts.Pairwise ByteLt := by
  intro sortTexts
  have hnumbers : sortTexts = (List.range 10010).map sortNumber := by
    have hranked : sortTexts = (rank wideColumns 20000).map sortText :=
      congrArg (List.map sortText) (complete_selfJoin 20000)
    rw [hranked, map_sortText_rank, length_rank_wideColumns]
  rw [hnumbers, pairwise_byteLt_sortNumber_iff, List.getElem?_map, List.getElem?_map,
    List.getElem?_range (by omega), List.getElem?_range (by omega)]
  exact ⟨rfl, rfl, by omega⟩

end SqlAssist
