import Mathlib.Data.List.Infix
import SqlAssist.Proofs.Completion.Locality
import SqlAssist.Proofs.Identifier.Qualified
import SqlAssist.Proofs.Reference.Reduction
import SqlAssist.Proofs.Suggestion.Ranking
import SqlAssist.Proofs.Validation.Independence

/-! # What is offered behind FROM is known

Behind FROM the tables and views of the snapshot are offered by their qualified names. When such a
name is inserted, one form of reference reads it to the end of the text. Other readings, of what a
bracketed name holds, lie inside it and are reduced away. So the table is looked up by its own name,
and nothing is reported. -/
namespace SqlAssist

open Character Identifier Suggestion

namespace NameForm

variable {table : Table} {readFirst : Text → Option (Text × Text)} {name : ObjectName} {rest : Text}

theorem eq_of_readQualified? (h : table.ReadsBack) (hfirst : IsSpecialCase readFirst)
    (hread : readQualified? readFirst (qualifiedName table) = some (name, rest)) :
    name = ⟨some table.schema, table.name⟩ := by
  simp only [readQualified?, Option.bind_eq_bind, Option.bind_eq_some_iff, Prod.exists] at hread
  obtain ⟨x, behind, hx, dotted, hdot, y, rest', hy, heq⟩ := hread
  obtain ⟨hschema, hname⟩ := h.read?_parts
  obtain ⟨rfl, rfl⟩ := Prod.mk.inj (Option.some.inj ((hfirst _ _ hx).symm.trans hschema))
  obtain rfl := (List.cons.inj (Text.skipChar?_eq_some_iff.mp hdot)).2
  obtain ⟨rfl, rfl⟩ := Prod.mk.inj (Option.some.inj (hy.symm.trans hname))
  obtain ⟨rfl, _⟩ := Prod.mk.inj (Option.some.inj heq)
  rw [strip_quote, strip_quote]

theorem stops_of_readLone? (h : table.ReadsBack) (hfirst : IsSpecialCase readFirst)
    (hread : readLone? readFirst (qualifiedName table) = some (name, rest)) :
    name.qualifier = none ∧ rest.head? = some '.' := by
  simp only [readLone?, Option.bind_eq_bind, Option.bind_eq_some_iff, Prod.exists] at hread
  obtain ⟨x, behind, hx, heq⟩ := hread
  obtain ⟨hschema, _⟩ := h.read?_parts
  obtain ⟨rfl, rfl⟩ := Prod.mk.inj (Option.some.inj ((hfirst _ _ hx).symm.trans hschema))
  obtain ⟨rfl, rfl⟩ := Prod.mk.inj (Option.some.inj heq)
  exact ⟨rfl, rfl⟩

/-- A form reads the whole qualified name, or the schema alone and stops at the dot. -/
theorem of_read?_qualifiedName (h : table.ReadsBack) {form : NameForm}
    (hread : form.read? (qualifiedName table) = some (name, rest)) :
    name = ⟨some table.schema, table.name⟩ ∨ (name.qualifier = none ∧ rest.head? = some '.') := by
  cases form with
  | bracketedQualified => exact Or.inl (eq_of_readQualified? h isSpecialCase_readBracketed? hread)
  | plainQualified => exact Or.inl (eq_of_readQualified? h isSpecialCase_readPlain? hread)
  | bracketed => exact Or.inr (stops_of_readLone? h isSpecialCase_readBracketed? hread)
  | plain => exact Or.inr (stops_of_readLone? h isSpecialCase_readPlain? hread)

theorem readQualified?_qualifiedName (h : table.ReadsBack)
    (hfirst : readFirst (qualifiedName table) =
      some (quote table.schema, '.' :: quote table.name)) :
    readQualified? readFirst (qualifiedName table) =
      some (⟨some table.schema, table.name⟩, []) := by
  simp only [readQualified?, hfirst, Text.skipChar?, if_true, h.read?_parts.2, Option.bind_eq_bind,
    Option.bind_some, strip_quote, Option.pure_def]

/-- One of the qualified forms reads the qualified name to its end. -/
theorem exists_read?_qualifiedName (h : table.ReadsBack) :
    ∃ form ∈ all, form.read? (qualifiedName table) =
      some (⟨some table.schema, table.name⟩, []) := by
  rcases Option.or_eq_some_iff.mp h.read?_parts.1 with hbracketed | ⟨_, hplain⟩
  · exact ⟨.bracketedQualified, by decide, readQualified?_qualifiedName h hbracketed⟩
  · exact ⟨.plainQualified, by decide, readQualified?_qualifiedName h hplain⟩

end NameForm

theorem suffix_append_cases {s x y : Text} (h : s <:+ x ++ y) :
    (∃ r, r ≠ [] ∧ r <:+ x ∧ s = r ++ y) ∨ s <:+ y := by
  obtain ⟨u, hu⟩ := h
  rcases List.append_eq_append_iff.mp hu with ⟨r, rfl, rfl⟩ | ⟨r, _, rfl⟩
  · cases r with
    | nil => exact Or.inr (List.suffix_refl _)
    | cons c r => exact Or.inl ⟨c :: r, List.cons_ne_nil c r, List.suffix_append _ _, rfl⟩
  · exact Or.inr (List.suffix_append _ _)

/-- The anchor of the text that a table is inserted into is the FROM at its end. -/
theorem readAnchor?_in_front {s : Text} (hne : s ≠ []) (hs : s <:+ "SELECT * FROM ".toList) :
    s = "FROM ".toList ∨ ∀ left y, readAnchor? left (s ++ y) = none := by
  have hall : ∀ s ∈ "SELECT * FROM ".toList.tails,
      s = "FROM ".toList ∨ s.head?.map foldLetter ∉ [some 'f', some 'j'] := by
    decide
  rcases hall s ((List.mem_tails _ _).mpr hs) with hfrom | hother
  · exact Or.inl hfrom
  · obtain ⟨c, t, rfl⟩ := List.exists_cons_of_ne_nil hne
    exact Or.inr fun left y => readAnchor?_cons_eq_none (by simpa using hother) left (t ++ y)

namespace Candidate

variable {table : Table}

/-- A candidate of the inserted text is the table itself or lies inside its name. -/
theorem of_mem_collect_from (h : table.ReadsBack) {candidate : Candidate}
    (hmem : candidate ∈ collect ("SELECT * FROM ".toList ++ qualifiedName table)) :
    Text.size "SELECT * FROM ".toList < candidate.reference.start ∨
      (candidate.reference.schema = some table.schema ∧
        candidate.reference.table = table.name) := by
  obtain ⟨form, _, hform⟩ := List.mem_flatMap.mp hmem
  obtain ⟨⟨here, ⟨name, named⟩, rest⟩, hhits, hhit⟩ := List.mem_filterMap.mp hform
  obtain ⟨hhere, left, hpattern⟩ := Pattern.mem_hits hhits
  obtain ⟨hanchor, hread⟩ := anchored_eq_some_iff.mp hpattern
  obtain ⟨hlone, _, rfl⟩ := ofHit?_eq_some_iff.mp hhit
  simp only at hhere hanchor hread
  rcases suffix_append_cases hhere with ⟨s, hne, hs, rfl⟩ | hinside
  · rcases readAnchor?_in_front hne hs with rfl | hnone
    · have hleft : noWord left = true := by
        cases hword : noWord left with
        | true => rfl
        | false => simp [readAnchor?, hword] at hanchor
      have hnamed := (readAnchor?_append hleft h.isTight []).1
      rw [List.append_nil, hanchor] at hnamed
      obtain rfl := Option.some.inj hnamed
      rcases NameForm.of_read?_qualifiedName h hread with rfl | hdot
      · exact Or.inr ⟨rfl, rfl⟩
      · exact absurd hdot hlone
    · rw [hnone] at hanchor
      cases hanchor
  · have hsize := Text.size_lt_of_suffix (readAnchor?_suffix hanchor) (readAnchor?_length hanchor)
    have hle := Text.size_le_of_suffix hinside
    refine Or.inl ?_
    simp only [Text.size_append]
    omega

/-- The whole name is a candidate. -/
theorem exists_mem_collect_from (h : table.ReadsBack) :
    ∃ candidate ∈ collect ("SELECT * FROM ".toList ++ qualifiedName table),
      candidate.reference.start = Text.size "SELECT * FROM ".toList ∧
        candidate.reference.stop =
          Text.size ("SELECT * FROM ".toList ++ qualifiedName table) := by
  obtain ⟨form, hform, hread⟩ := NameForm.exists_read?_qualifiedName h
  have hspace : noWord (some ' ') = true := by decide
  have hanchor := (readAnchor?_append hspace h.isTight []).1
  rw [List.append_nil] at hanchor
  have hhit : anchored form.read? (some ' ') ("FROM ".toList ++ qualifiedName table) =
      some ((⟨some table.schema, table.name⟩, qualifiedName table), []) :=
    anchored_eq_some_iff.mpr ⟨hanchor, hread⟩
  have hbefore : ∀ c ∈ "SELECT * ".toList, foldLetter c ∉ ['f', 'j'] :=
    Text.forall_of_all (by decide)
  have hhits : (⟨"FROM ".toList ++ qualifiedName table,
      (⟨some table.schema, table.name⟩, qualifiedName table), []⟩ : Hit (ObjectName × Text)) ∈
      (anchored form.read?).hits ("SELECT * ".toList ++ ("FROM ".toList ++ qualifiedName table)) := by
    have hlast : "SELECT * ".toList.getLast?.or none = some ' ' := by decide
    obtain ⟨more, hmore⟩ := Pattern.hitsFrom_eq_cons (by simp) hhit
    rw [Pattern.hits, hitsFrom_anchored_append _ hbefore, hlast, hmore]
    exact List.mem_cons_self
  refine ⟨_, List.mem_flatMap.mpr ⟨form, hform, List.mem_filterMap.mpr ⟨_, hhits, rfl⟩⟩, ?_, ?_⟩
  · simp only [Text.size_append]
    omega
  · simp only [Reference.stop, Text.size_append, Text.size_nil]
    omega

end Candidate

/-- Only the table itself is referred to. -/
theorem eq_of_mem_references_from {table : Table} (h : table.ReadsBack) {reference : Reference}
    (hmem : reference ∈ references ("SELECT * FROM ".toList ++ qualifiedName table)) :
    reference.schema = some table.schema ∧ reference.table = table.name := by
  obtain ⟨candidate, hcandidate, rfl⟩ := List.mem_map.mp (Reference.mem_of_mem_reduce hmem)
  rcases Candidate.of_mem_collect_from h hcandidate with hinside | htable
  · obtain ⟨whole, hwhole, hstart, hstop⟩ := Candidate.exists_mem_collect_from h
    have hle := Candidate.stop_le_of_mem_collect hcandidate
    have hcontains : whole.reference.contains candidate.reference = true := by
      simp only [Reference.contains, Bool.and_eq_true, decide_eq_true_eq]
      omega
    have hback := Reference.contains_of_mem_reduce hmem (List.mem_map_of_mem hwhole) hcontains
    simp only [Reference.contains, Bool.and_eq_true, decide_eq_true_eq] at hback
    omega
  · exact htable

theorem Reference.isKnown_of_mem_objects {snapshot : Snapshot} {object : SchemaObject}
    (hobject : object ∈ snapshot.objects) {reference : Reference}
    (hschema : reference.schema = some object.table.schema)
    (htable : reference.table = object.table.name) (commonTables : List Text) :
    reference.isKnown commonTables snapshot = true := by
  have hfound : (snapshot.findObject? reference.schema reference.table).isSome = true := by
    rw [hschema, htable, Snapshot.findObject?, List.find?_isSome]
    exact ⟨object, hobject, object.table.isNamed_self⟩
  simp [isKnown, hfound]

/-- Nothing is reported of a statement that names an object of the snapshot behind FROM. -/
theorem validate_from_qualifiedName {snapshot : Snapshot} {object : SchemaObject}
    (hobject : object ∈ snapshot.objects) (h : object.table.ReadsBack) :
    validate ("SELECT * FROM ".toList ++ qualifiedName object.table) snapshot = [] := by
  cases hempty : snapshot.isEmpty with
  | true => simp [validate, hempty]
  | false =>
    have hfront : Inert "SELECT * FROM ".toList := inert_of_not_mem_openers (Text.forall_of_all (by decide))
    have hinert := hfront.append h.inert
    rw [validate_eq_flatMap_segments hempty, Statement.segments_eq_place, hinert.texts_eq]
    refine List.flatMap_eq_nil_iff.mpr fun statement hstatement => ?_
    obtain rfl := List.mem_singleton.mp hstatement
    refine List.map_eq_nil_iff.mpr (List.filter_eq_nil_iff.mpr fun reference hmem => ?_)
    simp only [hinert.mask_eq] at hmem
    obtain ⟨hschema, htable⟩ := eq_of_mem_references_from h hmem
    simp [Reference.isKnown_of_mem_objects hobject hschema htable]

/-- Behind FROM the objects of the snapshot are offered. -/
theorem exists_object_of_mem_complete_from {snapshot : Snapshot} {settings : Settings}
    {suggestion : Suggestion}
    (h : suggestion ∈ (complete "SELECT * FROM ".toList
      (Position.ofOffset "SELECT * FROM ".toList (Text.size "SELECT * FROM ".toList)) snapshot
      settings).suggestions) :
    ∃ object ∈ snapshot.objects, suggestion.insertText = qualifiedName object.table := by
  have hline : Text.lastLine "SELECT * FROM ".toList = "SELECT * FROM ".toList := by decide
  have hcurrent : Statement.current "SELECT * FROM ".toList = "SELECT * FROM ".toList := by
    decide +kernel
  have hclause : classify (mask "SELECT * FROM ".toList) "SELECT * FROM ".toList =
      ⟨.fromTable, .high⟩ := by
    decide +kernel
  have hmember : Completion.memberAccess.first? "SELECT * FROM ".toList = none := by decide
  have hparts := Completion.complete_append_eq_ofParts "SELECT * FROM ".toList [] snapshot settings
  rw [List.append_nil, hcurrent, hline] at hparts
  rw [hparts] at h
  simp only [Completion.ofParts, hclause, hmember, Completion.forClause] at h
  obtain ⟨offered, hoffered, heq⟩ := exists_of_mem_rank h
  obtain ⟨object, hobject, rfl⟩ := List.mem_map.mp hoffered
  refine ⟨object, (List.mem_filter.mp hobject).1, ?_⟩
  rw [heq]
  rfl

/-- What is offered behind FROM is accepted where it is inserted. -/
theorem validate_of_mem_complete_from (snapshot : Snapshot) (settings : Settings)
    (h : ∀ object ∈ snapshot.objects,
      IsNameable object.table.schema ∧ IsNameable object.table.name) :
    let document := "SELECT * FROM ".toList
    let position := Position.ofOffset document (Text.size document)
    ∀ suggestion ∈ (complete document position snapshot settings).suggestions,
      validate (document ++ suggestion.insertText) snapshot = [] := by
  intro document position suggestion hsuggestion
  obtain ⟨object, hobject, hinsert⟩ := exists_object_of_mem_complete_from hsuggestion
  obtain ⟨hschema, hname⟩ := h object hobject
  rw [hinsert]
  exact validate_from_qualifiedName hobject ⟨hschema.readsBack, hname.readsBack⟩

/-- A table whose schema holds an anchor and an opening bracket, and whose name holds another anchor,
a semicolon and dashes. -/
theorem validate_of_mem_complete_from_odd_names :
    let snapshot : Snapshot :=
      { tables := [⟨"c JOIN [d".toList, "a FROM x; --b".toList, []⟩], views := [] }
    let document := "SELECT * FROM ".toList
    let position := Position.ofOffset document (Text.size document)
    let suggestions := (complete document position snapshot {}).suggestions
    (∀ object ∈ snapshot.objects,
        IsNameable object.table.schema ∧ IsNameable object.table.name) ∧
      suggestions.map Suggestion.insertText = ["[c JOIN [d].[a FROM x; --b]".toList] ∧
      ∀ suggestion ∈ suggestions, validate (document ++ suggestion.insertText) snapshot = [] := by
  intro snapshot document position suggestions
  have h : ∀ object ∈ snapshot.objects,
      IsNameable object.table.schema ∧ IsNameable object.table.name := by decide
  exact ⟨h, by decide +kernel, validate_of_mem_complete_from snapshot {} h⟩

end SqlAssist
