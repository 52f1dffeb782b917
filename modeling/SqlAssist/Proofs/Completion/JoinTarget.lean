import SqlAssist.Proofs.Alias
import SqlAssist.Proofs.Identifier.Qualified
import SqlAssist.Proofs.LetterCase.Reading
import SqlAssist.Proofs.Scope.Alias
import SqlAssist.Proofs.Scope.Item
import SqlAssist.Proofs.Scope.Neighbours
import SqlAssist.Proofs.Text
import SqlAssist.Suggestion

/-! # What is offered behind JOIN is read back

A name of ASCII characters without closing brackets and number signs is read to its end as it is
written. Behind JOIN a related table is offered with an alias. When names are ordinary, the inserted
text is read as it was meant: the first table in scope is the related one, known by that alias. The
alias is written as a name, so it is not read as a keyword, as AS in particular, nor as a part of the
table's name. -/
namespace SqlAssist

open Character Identifier Suggestion

namespace Character

variable {c : Char}

theorem isSettled_of_ascii (h : c.toNat < 128) : isSettled c = true := by
  have hnew : newcomers.contains c = false := Ranges.covers_cons_of_lt (by omega)
  rw [isSettled, hnew, Bool.not_false]

/-- The alphabetic characters of ASCII are its letters. -/
theorem isAlphabetic_of_ascii (h : c.toNat < 128) : isAlphabetic c = isLetter c := by
  have hnumber : isLetterNumber c = false := Ranges.covers_cons_of_lt (by omega)
  have hother : otherAlphabetic.contains c = false := Ranges.covers_cons_of_lt (by omega)
  rw [isAlphabetic, hnumber, hother, Bool.or_false, Bool.or_false]

theorem findShift_between {n : Nat} {first second : Shift} {shifts : List Shift}
    (hfirst : first.covers n = false) (hsecond : n < second.first) :
    findShift n (first :: second :: shifts) = none := by
  simp [findShift, hfirst, hsecond]

theorem lower_of_ascii (h : c.toNat < 128) : lower c = [c.toLower] := by
  by_cases hcapital : c.toNat ∈ capitals
  · have hall : ∀ n ∈ capitals, lower (Char.ofNat n) = [(Char.ofNat n).toLower] := by decide
    have hc := hall c.toNat hcapital
    rwa [Char.ofNat_toNat] at hc
  · have hsame : c.toLower = c := (toLower_eq_or_mem_capitals c).resolve_right hcapital
    have hdotted : c ≠ dottedCapitalI := by
      rintro rfl
      exact absurd h (by decide)
    have hcovers : (⟨0x41, 0x5A, 1, 32⟩ : Shift).covers c.toNat = false := by
      refine Bool.eq_false_iff.mpr fun hcovers => hcapital ?_
      simp only [Shift.covers, Bool.and_eq_true, decide_eq_true_eq] at hcovers
      exact List.mem_range'.mpr ⟨c.toNat - 65, by omega, by omega⟩
    have habove : c.toNat < 0xC0 := by omega
    have hshift : findShift c.toNat lowerShifts = none := findShift_between hcovers habove
    rw [lower, if_neg hdotted, hshift, hsame]

end Character

theorem foldLetter_of_ascii {c : Char} (h : c.toNat < 128) : foldLetter c = c.toLower := by
  have hlong : c ≠ 'ſ' := by
    rintro rfl
    exact absurd h (by decide)
  have hkelvin : c ≠ '\u212A' := by
    rintro rfl
    exact absurd h (by decide)
  rw [foldLetter, if_neg hlong, if_neg hkelvin]

namespace Identifier

/-- A name of ASCII characters, not empty, without closing brackets and number signs. -/
structure IsOrdinary (name : Text) : Prop where
  ne_nil : name ≠ []
  isAscii : Text.isAscii name = true
  not_mem_bracket : ']' ∉ name
  not_mem_sign : '#' ∉ name

instance (name : Text) : Decidable (IsOrdinary name) :=
  decidable_of_iff (name ≠ [] ∧ Text.isAscii name = true ∧ ']' ∉ name ∧ '#' ∉ name)
    ⟨fun h => ⟨h.1, h.2.1, h.2.2.1, h.2.2.2⟩, fun h => ⟨h.1, h.2, h.3, h.4⟩⟩

theorem isOrdinary_iff {name : Text} :
    IsOrdinary name ↔ name ≠ [] ∧ ∀ c ∈ name, c.toNat < 128 ∧ c ≠ ']' ∧ c ≠ '#' := by
  constructor
  · rintro ⟨hne, hascii, hbracket, hsign⟩
    refine ⟨hne, fun c hc => ⟨?_, ?_, ?_⟩⟩
    · exact of_decide_eq_true (List.all_eq_true.mp hascii c hc)
    · exact fun heq => hbracket (heq ▸ hc)
    · exact fun heq => hsign (heq ▸ hc)
  · rintro ⟨hne, hall⟩
    refine ⟨hne, ?_, fun hmem => (hall _ hmem).2.1 rfl, fun hmem => (hall _ hmem).2.2 rfl⟩
    exact List.all_eq_true.mpr fun c hc => decide_eq_true (hall c hc).1

theorem isNameStart_of_isAlphabetic {c : Char} (hc : c.toNat < 128)
    (h : isAlphabetic c = true) : Letters.folded.isNameStart c = true := by
  rw [isAlphabetic_of_ascii hc] at h
  simp [Letters.isNameStart, Letters.isLetter, isSettledLetter, isSettled_of_ascii hc, h]

theorem isNamePart_of_isAlphanumeric {c : Char} (hc : c.toNat < 128)
    (h : isAlphanumeric c = true) : Letters.folded.isNamePart c = true := by
  rcases Bool.or_eq_true_iff.mp h with halpha | hnumber
  · exact Letters.isNamePart_of_isNameStart (isNameStart_of_isAlphabetic hc halpha)
  · simp [Letters.isNamePart, isSettledNumber, isSettled_of_ascii hc, hnumber]

namespace IsOrdinary

variable {name : Text}

theorem ordinary (h : IsOrdinary name) : ∀ c ∈ name, c.toNat < 128 ∧ c ≠ ']' ∧ c ≠ '#' :=
  (isOrdinary_iff.mp h).2

/-- An ordinary name that needs no brackets is a plain name. -/
theorem isPlain (h : IsOrdinary name) (hword : isPlainWord name = true) :
    IsPlain .folded name := by
  obtain ⟨c, t, rfl⟩ := List.exists_cons_of_ne_nil h.ne_nil
  obtain ⟨hc, _, hsign⟩ := h.ordinary c List.mem_cons_self
  have hsigns : ∀ d ∈ ['_', '$', '@', '#'], Letters.folded.isNamePart d = true :=
    Text.forall_of_all (by decide)
  refine ⟨0, c, t, rfl, by omega, ?_, ?_⟩
  · simp only [isPlainWord, Bool.and_eq_true, Bool.or_eq_true, beq_iff_eq] at hword
    rcases hword.1 with (halpha | rfl) | heq
    · exact isNameStart_of_isAlphabetic hc halpha
    · decide
    · exact absurd heq hsign
  · intro d hd
    have hmem : d ∈ c :: t := List.mem_cons_of_mem c hd
    rcases isAlphanumeric_of_mem_isPlainWord hword hmem with halnum | hother
    · exact isNamePart_of_isAlphanumeric (h.ordinary d hmem).1 halnum
    · exact hsigns d hother

theorem readsBack (h : IsOrdinary name) : ReadsBack name :=
  ⟨h.not_mem_bracket, (isWritten_quote_iff h.ne_nil h.not_mem_bracket).mpr h.isPlain⟩

end IsOrdinary

end Identifier

theorem Alias.isOrdinary_unique {name : Text} (h : IsOrdinary name) (taken : List Text) :
    IsOrdinary (Alias.unique (Alias.ofName name) taken) := by
  have hdigits : ∀ c ∈ Text.digits, c.toNat < 128 ∧ c ≠ ']' ∧ c ≠ '#' :=
    Text.forall_of_all (by decide)
  refine isOrdinary_iff.mpr
    ⟨Alias.unique_ne_nil (Alias.ofName_ne_nil name) taken, fun c hc => ?_⟩
  rcases Alias.of_mem_unique_ofName hc with rfl | hdigit | ⟨d, hd, hcd⟩
  · decide
  · exact hdigits c hdigit
  · obtain ⟨hascii, hbracket, hsign⟩ := h.ordinary d hd
    rw [lower_of_ascii hascii] at hcd
    obtain rfl := List.mem_singleton.mp hcd
    refine ⟨?_, ?_, ?_⟩
    · simpa [hascii] using ascii_toLower d
    · rwa [ne_eq, toLower_eq_iff (by decide)]
    · rwa [ne_eq, toLower_eq_iff (by decide)]

namespace Item

variable {joined : Text}

theorem map_foldLetter_ne_as (h : IsOrdinary joined) (hstop : isAliasStopWord joined = false) :
    joined.map foldLetter ≠ "as".toList := by
  intro hfold
  have hlower : joined.map foldLetter = joined.map Char.toLower :=
    List.map_congr_left fun c hc => foldLetter_of_ascii (h.ordinary c hc).1
  have hmem : "as".toList ∈ aliasStopWords := by decide
  have has : isAliasStopWord joined = true :=
    List.any_eq_true.mpr ⟨_, hmem, Text.eqIgnoreCase_iff.mpr (by rw [← hlower, hfold]; rfl)⟩
  rw [hstop] at has
  cases has

theorem exists_listFrom_eq_cons (name : ObjectName) {t : Text} (h : isCall t = false) :
    ∃ more, listFrom name t = ⟨name, (readAlias t).1⟩ :: more := by
  unfold listFrom
  rw [if_neg (by simp [h])]
  split
  · exact ⟨_, rfl⟩
  · exact ⟨[], rfl⟩

/-- The first item of a query that begins with JOIN, a table and an alias. -/
theorem exists_ofQuery_join {table : Table} (htable : table.ReadsBack) (h : IsOrdinary joined)
    (hstop : isAliasStopWord joined = false) {tail : Text} (htail : EndsName (mask tail)) :
    ∃ more, ofQuery ("JOIN ".toList ++ (qualifiedName table ++ ' ' :: quote joined ++ tail)) =
      ⟨⟨some table.schema, table.name⟩, some joined⟩ :: more := by
  have hjoin : Inert "JOIN ".toList := inert_of_not_mem_openers (Text.forall_of_all (by decide))
  have hspace : Inert [' '] := inert_of_not_mem_openers (Text.forall_of_all (by decide))
  have hmask : mask ("JOIN ".toList ++ (qualifiedName table ++ ' ' :: quote joined ++ tail)) =
      "JOIN ".toList ++ (qualifiedName table ++ ' ' :: (quote joined ++ mask tail)) := by
    have hfront := hspace.append (inert_quote h.readsBack.not_mem)
    rw [hjoin.mask_append, List.append_assoc, htable.inert.mask_append]
    exact congrArg (fun t => "JOIN ".toList ++ (qualifiedName table ++ t)) (hfront.mask_append tail)
  have hends : EndsName (' ' :: (quote joined ++ mask tail)) := .of_head? (by decide) rfl
  have hhit : anchored (ObjectName.read? .folded) none
      ("JOIN ".toList ++ (qualifiedName table ++ ' ' :: (quote joined ++ mask tail))) =
      some ((⟨some table.schema, table.name⟩, _), ' ' :: (quote joined ++ mask tail)) :=
    anchored_eq_some_iff.mpr
      ⟨(readAnchor?_append noWord_none htable.isTight _).2, htable.objectName_read? hends⟩
  obtain ⟨later, hhits⟩ := Pattern.hitsFrom_eq_cons (by simp) hhit
  obtain ⟨more, hlist⟩ := exists_listFrom_eq_cons ⟨some table.schema, table.name⟩
    (not_isCall_quote h.readsBack (mask tail))
  have halias := readAlias_quote h.readsBack hstop htail
    fun hfold => absurd hfold (map_foldLetter_ne_as h hstop)
  rw [ofQuery, hmask, Pattern.hits, hhits, List.flatMap_cons, hlist, halias]
  exact ⟨_, rfl⟩

end Item

/-- A join inserts the qualified name, the alias, and a condition if there is one. -/
theorem exists_insertText_joinOf (taken : List Text) (related : RelatedTable) :
    ∃ tail, EndsName (mask tail) ∧ (joinOf taken related).insertText =
      qualifiedName related.table ++
        ' ' :: quote (Alias.unique (Alias.ofName related.table.name) taken) ++ tail := by
  cases hrelation : related.relation? with
  | none =>
    refine ⟨[], Or.inl mask_nil, ?_⟩
    simp [joinOf, hrelation, withInsertText]
  | some relation =>
    have hon : Inert " ON ".toList := inert_of_not_mem_openers (Text.forall_of_all (by decide))
    refine ⟨" ON ".toList ++ relation.condition
      (Alias.unique (Alias.ofName related.table.name) taken), ?_, ?_⟩
    · rw [hon.mask_append]
      exact .of_head? (c := ' ') (by decide) rfl
    · simp only [joinOf, hrelation, withDetail, ofLabel, List.append_assoc]

/-- A table that a key leads to is the first of its name in the snapshot. -/
theorem Scope.find?_of_mem_related {inQuery : List ScopedTable} {snapshot : Snapshot}
    {related : RelatedTable} (h : related ∈ Scope.related inQuery snapshot)
    (hrelation : related.relation?.isSome) :
    related.table ∈ snapshot.tables ∧
      snapshot.find? (some related.table.schema) related.table.name = some related.table := by
  obtain ⟨member, _, hneighbour⟩ := exists_mem_neighbours h hrelation
  obtain ⟨_, _, _, _, _, far, _, _, hleads, _, rfl⟩ := mem_neighbours_iff.mp hneighbour
  have hfind : snapshot.findTable? (some far.schema) far.table = some _ := hleads.find?_far
  exact ⟨List.mem_of_find?_eq_some hfind,
    Snapshot.find?_self (Snapshot.find?_of_findTable? hfind)⟩

theorem eq_joinOf_of_mem_zip {offered : List RelatedTable} {inQuery : List ScopedTable}
    {related : RelatedTable} {suggestion : Suggestion}
    (h : (related, suggestion) ∈ offered.zip (joins offered inQuery)) :
    related ∈ offered ∧ suggestion = joinOf (inQuery.map ScopedTable.knownAs) related := by
  induction offered with
  | nil => cases h
  | cons first offered ih =>
    rcases List.mem_cons.mp h with heq | hlater
    · obtain ⟨rfl, rfl⟩ := Prod.mk.inj heq
      exact ⟨List.mem_cons_self, rfl⟩
    · obtain ⟨hmem, hsuggestion⟩ := ih hlater
      exact ⟨List.mem_cons_of_mem first hmem, hsuggestion⟩

/-- What is offered behind JOIN for a table that a key leads to: the alias is new and an alias, and
the inserted text puts the table in scope under it. -/
theorem tables_of_mem_joins (inQuery : List ScopedTable) (snapshot : Snapshot)
    (h : ∀ table ∈ snapshot.tables, IsOrdinary table.schema ∧ IsOrdinary table.name) :
    let offered := Scope.related inQuery snapshot
    ∀ related suggestion, (related, suggestion) ∈ offered.zip (joins offered inQuery) →
      related.relation?.isSome →
      let taken := inQuery.map ScopedTable.knownAs
      let joined := Alias.unique (Alias.ofName related.table.name) taken
      joined ≠ [] ∧ isAliasStopWord joined = false ∧
        (∀ member ∈ inQuery, Text.lower joined ≠ Text.lower member.knownAs) ∧
        (Scope.tables ("JOIN ".toList ++ suggestion.insertText) snapshot).head? =
          some ⟨related.table.schema, related.table.name, joined, true⟩ := by
  intro offered related suggestion hpair hrelation taken joined
  obtain ⟨hmem, rfl⟩ := eq_joinOf_of_mem_zip hpair
  obtain ⟨htable, hfind⟩ := Scope.find?_of_mem_related hmem hrelation
  obtain ⟨hschema, hname⟩ := h related.table htable
  obtain ⟨hnew, hstop⟩ := Alias.isFree_iff.mp (Alias.unique_spec _ taken).1
  have hjoined : IsOrdinary joined := Alias.isOrdinary_unique hname taken
  obtain ⟨tail, htail, hinsert⟩ := exists_insertText_joinOf taken related
  obtain ⟨more, hitems⟩ := Item.exists_ofQuery_join ⟨hschema.readsBack, hname.readsBack⟩ hjoined
    hstop htail
  refine ⟨hjoined.ne_nil, hstop, ?_, ?_⟩
  · intro member hmember
    exact hnew member.knownAs (List.mem_map_of_mem hmember)
  · have hresolve : Scope.resolve? snapshot
        ⟨⟨some related.table.schema, related.table.name⟩, some joined⟩ =
          some ⟨related.table.schema, related.table.name, joined, true⟩ :=
      Scope.resolve?_eq_some_iff.mpr ⟨related.table, hfind, rfl⟩
    rw [hinsert, Scope.tables, hitems, List.filterMap_cons_some hresolve, distinctBy]
    rfl

/-- A table whose alias is in use and gets a number, in a schema that is written in brackets. -/
theorem tables_of_mem_joins_numbered :
    let orders : Table := ⟨"dbo".toList, "Orders".toList, []⟩
    let items : Table := ⟨"sales [old".toList, "Order_Items".toList, []⟩
    let key : ForeignKey :=
      { fromSchema := items.schema, fromTable := items.name, fromColumn := "OrderId".toList
        toSchema := orders.schema, toTable := orders.name, toColumn := "Id".toList }
    let snapshot : Snapshot := { tables := [orders, items], foreignKeys := [key] }
    let inQuery : List ScopedTable := [⟨orders.schema, orders.name, "OI".toList, true⟩]
    let offered := Scope.related inQuery snapshot
    let related : RelatedTable := ⟨items, some ⟨key, "OI".toList, .incoming⟩⟩
    let suggestion := joinOf ["OI".toList] related
    (∀ table ∈ snapshot.tables, IsOrdinary table.schema ∧ IsOrdinary table.name) ∧
      (related, suggestion) ∈ offered.zip (joins offered inQuery) ∧
      suggestion.insertText = "[sales [old].Order_Items oi2 ON oi2.OrderId = OI.Id".toList ∧
      (Scope.tables ("JOIN ".toList ++ suggestion.insertText) snapshot).head? =
        some ⟨items.schema, items.name, "oi2".toList, true⟩ := by
  intro orders items key snapshot inQuery offered related suggestion
  have h : ∀ table ∈ snapshot.tables, IsOrdinary table.schema ∧ IsOrdinary table.name := by
    decide
  have hpair : (related, suggestion) ∈ offered.zip (joins offered inQuery) := by decide
  have hjoined : Alias.unique (Alias.ofName items.name) ["OI".toList] = "oi2".toList := by
    decide
  obtain ⟨_, _, _, hhead⟩ := tables_of_mem_joins inQuery snapshot h related suggestion hpair rfl
  refine ⟨h, hpair, by decide, hhead.trans ?_⟩
  exact congrArg (fun joined => some (⟨items.schema, items.name, joined, true⟩ : ScopedTable))
    hjoined

end SqlAssist
