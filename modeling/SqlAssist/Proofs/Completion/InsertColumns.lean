import Mathlib.Data.List.Infix
import SqlAssist.Proofs.Clause.Precedence
import SqlAssist.Proofs.Completion.Locality
import SqlAssist.Proofs.Identifier.Qualified
import SqlAssist.Proofs.Search.Break

/-! # The columns offered in the list of an INSERT

Behind INSERT INTO, the name of a table and an opening parenthesis the columns of a table are listed.
Names that hold no keyword leave INSERT the only keyword of such a text. The table is looked up by its
name alone: of several objects that answer to the name, in whichever schemas, the columns of the first
are offered. -/
namespace SqlAssist

open Character Identifier Keyword

/-- A statement up to the parenthesis that opens its list of columns. -/
def insertInto (written : Text) : Text := "INSERT INTO ".toList ++ (written ++ " (".toList)

theorem insertInto_eq (written : Text) :
    insertInto written = "INSERT INTO ".toList ++ (written ++ " (".toList) := rfl

namespace Keyword

variable {t : Text}

/-- In front of a break every keyword is read as at the end of a text. -/
theorem breaksAt_governing {z : Text} (hz : noWord (Text.trimStart z).head? = true) :
    governing.BreaksAt z := by
  intro left t ht
  rw [governing, governing, List.map_findSome?]
  refine congrArg (List.findSome? · all) (funext fun keyword => ?_)
  have hne : keyword.words ≠ [] := keyword.words_eq ▸ List.cons_ne_nil _ _
  have hbreak : keyword.pattern.BreaksAt z :=
    breaksAt_standingWords
      (readWords?_append hne keyword.nil_not_mem_words keyword.areLettered_words hz)
      (noWord_head?_of_trimStart hz)
  rw [hbreak left t ht, Function.comp_apply, Option.map_map, Option.map_map]
  rfl

theorem governing_congr_left {left left' : Option Char} (h : noWord left = noWord left')
    (t : Text) : governing left t = governing left' t := by
  simp only [governing, pattern, standingWords, h]

theorem governing_eq_none_of_firstWord (h : ∀ keyword ∈ all, keyword.opening ≠ firstWord t)
    (left : Option Char) : governing left t = none := by
  refine Option.eq_none_iff_forall_ne_some.mpr fun ⟨keyword, rest⟩ hread => ?_
  exact h keyword keyword.mem_all (opening_eq_firstWord (governing_eq_some_iff.mp hread))

theorem firstWord_append {x : Text} (hx : ∃ c ∈ x, isWord c = false) (y : Text) :
    firstWord (x ++ y) = firstWord x := by
  induction x with
  | nil => simp at hx
  | cons c x ih =>
    cases hc : isWord c with
    | false => simp [firstWord, hc]
    | true =>
      have hlater : ∃ d ∈ x, isWord d = false := by
        obtain ⟨d, hd, hword⟩ := hx
        rcases List.mem_cons.mp hd with rfl | hd
        · rw [hc] at hword
          cases hword
        · exact ⟨d, hd, hword⟩
      have htail := ih hlater
      simp only [firstWord] at htail
      simp [firstWord, hc, htail]

/-- No keyword begins with a character that is no part of words. -/
theorem placesFrom_governing_cons {c : Char} (hc : isWord c = false) (before : Option Char)
    (t : Text) : governing.placesFrom before (c :: t) = governing.places t := by
  have hfirst : firstWord (c :: t) = [] := by
    rw [firstWord, List.takeWhile_cons_of_neg (by simp [hc])]
    rfl
  have hnone : governing before (c :: t) = none :=
    governing_eq_none_of_firstWord (fun keyword _ => hfirst ▸ keyword.opening_ne_nil) before
  have hleft : noWord (some c) = noWord none := by simp [noWord, hc]
  rw [Pattern.placesFrom_of_none hnone, Pattern.placesFrom_congr_left (governing_congr_left hleft),
    Pattern.places]

theorem places_governing_of_inText (h : inText t = []) : governing.places t = [] :=
  List.map_eq_nil_iff.mp h

theorem places_qualified_name {schema name : Text} (hschema : inText schema = [])
    (hname : inText name = []) :
    governing.places (schema ++ '.' :: (name ++ " (".toList)) = [] := by
  have hname' : governing.places (name ++ " (".toList) = [] := by
    have hbreak : governing.BreaksAt " (".toList := breaksAt_governing (by decide)
    have hend : governing.placesFrom (name.getLast?.or none) " (".toList = [] :=
      placesFrom_governing_cons (by decide) _ _
    rw [Pattern.places, hbreak.placesFrom_append, ← Pattern.places,
      places_governing_of_inText hname, hend]
    rfl
  have hbreak : governing.BreaksAt ('.' :: (name ++ " (".toList)) := breaksAt_governing rfl
  rw [Pattern.places, hbreak.placesFrom_append, ← Pattern.places,
    places_governing_of_inText hschema, placesFrom_governing_cons (by decide), hname']
  rfl

/-- Behind INSERT INTO a text without keywords adds none. -/
theorem occurrences_insert_into (h : governing.places t = []) :
    occurrences ("INSERT INTO ".toList ++ t) =
      [⟨"INSERT INTO ".toList ++ t, .insert, " INTO ".toList ++ t⟩] := by
  have hread : governing none ('I' :: ("NSERT INTO ".toList ++ t)) =
      some (.insert, " INTO ".toList ++ t) := by
    have hword := readWord?_append "INSERT".toList (" INTO ".toList ++ t)
    rw [show "INSERT".toList.map foldLetter = "insert".toList by decide] at hword
    have hstands : noWord (" INTO ".toList ++ t).head? = true := by
      have hspace : noWord (some ' ') = true := by decide
      exact hspace
    exact governing_eq_some_iff.mpr (standingWords_eq_some_iff.mpr ⟨rfl, hstands, hword⟩)
  have hclear : ∀ left s, s ≠ [] → s <:+ "NSERT INTO ".toList → governing left (s ++ t) = none := by
    intro left s hne hs
    have hall : "NSERT INTO ".toList.tails.all (fun s => s.isEmpty ||
        (s.any fun c => !isWord c) && all.all fun keyword => keyword.opening != firstWord s) =
          true := by
      decide +kernel
    have htail := List.all_eq_true.mp hall s ((List.mem_tails _ _).mpr hs)
    simp only [Bool.or_eq_true, List.isEmpty_iff, hne, false_or, Bool.and_eq_true, List.any_eq_true,
      Bool.not_eq_true', List.all_eq_true, bne_iff_ne] at htail
    obtain ⟨hsign, hother⟩ := htail
    refine governing_eq_none_of_firstWord ?_ left
    rwa [firstWord_append hsign]
  have hlast : "NSERT INTO ".toList.getLast?.or (some 'I') = some ' ' := by decide
  have hspace : noWord (some ' ') = noWord none := by decide
  have hbehind : governing.placesFrom (some 'I') ("NSERT INTO ".toList ++ t) = [] := by
    rw [Pattern.placesFrom_append_of_none hclear, hlast,
      Pattern.placesFrom_congr_left (governing_congr_left hspace)]
    exact h
  change governing.placesFrom none ('I' :: ("NSERT INTO ".toList ++ t)) = _
  rw [Pattern.placesFrom_of_some hread, hbehind]
  rfl

end Keyword

namespace Typing

theorem mem_inText_of_joinTail {t : Text} (h : joinTail.occurs t = true) : .join ∈ inText t := by
  obtain ⟨x, y, _, rfl, hne, hread⟩ := Pattern.occurs_iff.mp h
  unfold joinTail at hread
  split at hread
  · rename_i htest
    obtain ⟨hleft, hjoin⟩ := Bool.and_eq_true_iff.mp htest
    obtain ⟨rest, hword, hrest⟩ := (Option.any_eq_true _ _).mp hjoin
    have hend : noWord rest.head? = true := by
      rcases Bool.or_eq_true_iff.mp hrest with hnil | hgap
      · rw [eq_of_beq hnil]
        rfl
      · obtain ⟨behind, hbehind, _⟩ := (Option.any_eq_true _ _).mp hgap
        exact noWord_head?_of_skipBlanks? hbehind
    have hkeyword : governing x.getLast? y = some (.join, rest) :=
      governing_eq_some_iff.mpr (standingWords_eq_some_iff.mpr ⟨hleft, hend, hword⟩)
    have hmem : (⟨y, .join, rest⟩ : Hit Keyword) ∈ occurrences (x ++ y) :=
      Pattern.mem_placesFrom_of_readsBehind ⟨hne, by rwa [Option.or_none]⟩
    exact List.mem_map_of_mem hmem
  · cases hread

/-- The list is that of the named table, whatever the spelling of its name. -/
theorem insertColumnList?_insertInto {name : ObjectName} {written : Text}
    (h : name.Spelled written) : insertColumnList? (insertInto written) = some name.name := by
  have hinsert : behindWord? "insert".toList (insertInto written) =
      some ("INTO ".toList ++ (written ++ " (".toList)) := rfl
  have hinto : behindWord? "into".toList ("INTO ".toList ++ (written ++ " (".toList)) =
      some (written ++ " (".toList) := Text.skipBlanks?_of_isTight h.isTight _
  have hread : ObjectName.read? .folded (written ++ " (".toList) = some (name, " (".toList) :=
    h.read?_append ⟨' ', rfl, isBlank_space⟩
  have hopen : isOpenList " (".toList = true := by decide
  rw [insertColumnList?, hinsert, Option.bind_some, hinto, Option.bind_some, columnListOf?, hread,
    Option.filter_some, if_pos hopen]
  rfl

end Typing

/-- Where INSERT is the only keyword, an open list of columns decides the clause. -/
theorem classify_of_occurrences_insert {t line table : Text} {hit : Hit Keyword}
    (h : occurrences t = [hit]) (hvalue : hit.value = .insert)
    (hjoin : Typing.joinTail.occurs line = false) (hon : Typing.onTail.occurs line = false)
    (hlist : Typing.insertColumnList? hit.here = some table) :
    classify t line = ⟨.insertColumns table, .high⟩ := by
  have hkeywords : inText t = [.insert] := by
    rw [inText, h, List.map_singleton, hvalue]
  have hfrom : Keyword.insert.fromLastIn? t = some hit.here := by
    rw [fromLastIn?, last?_pattern, h, List.filter_cons_of_pos (by simp [hvalue])]
    rfl
  unfold classify
  dsimp only
  repeat rw [isBehind_lastIn (by decide) (by decide)]
  repeat rw [isSome_lastIn]
  rw [hjoin, hon, hkeywords, hfrom, Option.bind_some, hlist]
  rfl

/-- In a statement on one line, without another keyword, the columns of the named table are listed. -/
theorem classify_insertInto {name : ObjectName} {written : Text} (hspelled : name.Spelled written)
    (hkeywords : governing.places (written ++ " (".toList) = [])
    (hline : Text.lastLine (insertInto written) = insertInto written) :
    classify (insertInto written) (insertInto written) = ⟨.insertColumns name.name, .high⟩ := by
  have hoccurrences : occurrences (insertInto written) =
      [⟨insertInto written, .insert, " INTO ".toList ++ (written ++ " (".toList)⟩] :=
    occurrences_insert_into hkeywords
  have htext : inText (insertInto written) = [.insert] := by
    rw [inText, hoccurrences]
    rfl
  have hjoin : Typing.joinTail.occurs (insertInto written) = false := by
    refine Bool.eq_false_iff.mpr fun htail => ?_
    have hmem := Typing.mem_inText_of_joinTail htail
    rw [htext] at hmem
    cases List.mem_singleton.mp hmem
  have hon : Typing.onTail.occurs (insertInto written) = false := by
    refine Bool.eq_false_iff.mpr fun htail => ?_
    rw [← hline] at htail
    have hlast := getLast?_inText_of_onTail htail
    rw [htext] at hlast
    cases hlast
  exact classify_of_occurrences_insert hoccurrences rfl hjoin hon
    (Typing.insertColumnList?_insertInto hspelled)

namespace Completion

/-- No member is being typed at the end of a text that ends in a sign other than a dot. -/
theorem memberAccess_first?_eq_none {t : Text} {sign : Char} (hlast : sign ∈ t.getLast?)
    (hpart : Letters.exact.isNamePart sign = false) (hdot : sign ≠ '.') :
    memberAccess.first? t = none := by
  rw [← Option.not_isSome_iff_eq_none, ← Pattern.occurs, Pattern.occurs_iff]
  rintro ⟨x, y, found, rfl, hne, hread⟩
  obtain ⟨⟨name, rest⟩, hfilter, _⟩ := Option.map_eq_some_iff.mp hread
  obtain ⟨hname, hmember⟩ := Option.filter_eq_some_iff.mp hfilter
  obtain ⟨member, hskip, hall⟩ := (Option.any_eq_true _ _).mp hmember
  obtain rfl := Text.skipChar?_eq_some_iff.mp hskip
  have hend : sign ∈ ('.' :: member).getLast? := by
    rwa [← Identifier.read?_append hname, ← List.append_assoc,
      List.getLast?_append_of_ne_nil _ (List.cons_ne_nil '.' member)] at hlast
  rcases List.mem_cons.mp (List.mem_of_getLast? hend) with heq | hmem
  · exact hdot heq
  · rw [List.all_eq_true.mp hall sign hmem] at hpart
    cases hpart

end Completion

section text

variable {letters : Letters} {name written : Text}

theorem inert_of_isPlain (h : IsPlain letters name) : Inert name := by
  have hopeners : ∀ c ∈ openers, letters.isNamePart c = false := by
    cases letters <;> exact Text.forall_of_all (by decide)
  exact inert_of_not_mem_openers fun c hc hopener =>
    not_mem_of_isPlain_of_not_isNamePart h (hopeners c hopener) hc

theorem inert_insertInto (h : Inert written) : Inert (insertInto written) := by
  have hfront : Inert "INSERT INTO ".toList :=
    inert_of_not_mem_openers (Text.forall_of_all (by decide))
  have hback : Inert " (".toList := inert_of_not_mem_openers (Text.forall_of_all (by decide))
  exact hfront.append (h.append hback)

end text

/-- The columns of the table that is found by its name alone. -/
theorem complete_insertInto {name : ObjectName} {written : Text} (hspelled : name.Spelled written)
    (hinert : Inert written) (hnewline : '\n' ∉ written)
    (hkeywords : governing.places (written ++ " (".toList) = []) (snapshot : Snapshot)
    (settings : Settings) :
    complete (insertInto written)
        (Position.ofOffset (insertInto written) (Text.size (insertInto written))) snapshot
        settings =
      ⟨⟨.insertColumns name.name, .high⟩,
        Suggestion.rank ((snapshot.find? none name.name).elim [] Suggestion.columnsOf)
          settings.maxSuggestions⟩ := by
  have hcopied := inert_insertInto hinert
  have htexts : Statement.texts (insertInto written) = [] ++ [insertInto written] :=
    hcopied.texts_eq
  have hcurrent := Statement.current_eq_of_texts htexts
  have hline : Text.lastLine (insertInto written) = insertInto written := by
    refine Text.lastLine_of_not_mem ?_
    simp only [insertInto_eq, List.mem_append, not_or]
    exact ⟨by decide, hnewline, by decide⟩
  have hclause := classify_insertInto hspelled hkeywords hline
  have hlast : '(' ∈ (insertInto written).getLast? := by
    rw [insertInto_eq, ← List.append_assoc, List.getLast?_append_of_ne_nil _ (by decide)]
    rfl
  have hmember : Completion.memberAccess.first? (insertInto written) = none :=
    Completion.memberAccess_first?_eq_none hlast (by decide) (by decide)
  have hparts := Completion.complete_append_eq_ofParts (insertInto written) [] snapshot settings
  rw [List.append_nil, hcurrent, hline] at hparts
  rw [hparts]
  simp only [Completion.ofParts, hcopied.mask_eq, hclause, hmember, Completion.forClause]
  cases snapshot.find? none name.name <;> rfl

theorem Snapshot.find?_none_eq (snapshot : Snapshot) (name : Text) :
    snapshot.find? none name =
      (snapshot.objects.find? fun other => namesMatch other.table.name name).map
        SchemaObject.table := by
  simp only [find?, findObject?, Table.isNamed, qualifierMatches, Bool.and_true]

/-- The columns offered for the list of an INSERT are those of the first object that answers to the
name, whatever its schema. -/
theorem complete_insertColumns {snapshot : Snapshot} {settings : Settings} {object : SchemaObject}
    (hobject : object ∈ snapshot.objects) (hschema : IsPlain .exact object.table.schema)
    (hname : IsPlain .exact object.table.name)
    (hkeywords : inText object.table.schema = [] ∧ inText object.table.name = []) :
    let document := "INSERT INTO ".toList ++ object.table.schema ++ ".".toList ++
      object.table.name ++ " (".toList
    let completion :=
      complete document (Position.ofOffset document (Text.size document)) snapshot settings
    completion.context = ⟨.insertColumns object.table.name, .high⟩ ∧
      ∃ first, snapshot.objects.find? (fun other =>
          namesMatch other.table.name object.table.name) = some first ∧
        completion.suggestions =
          Suggestion.rank (Suggestion.columnsOf first.table) settings.maxSuggestions := by
  intro document completion
  obtain ⟨hschemaKeywords, hnameKeywords⟩ := hkeywords
  have hspelled : ObjectName.Spelled ⟨some object.table.schema, object.table.name⟩
      (object.table.schema ++ '.' :: object.table.name) := by
    have h := ObjectName.Spelled.qualified (Or.inr (isPlain_folded hschema))
      (Or.inr (isPlain_folded hname))
    rwa [strip_of_not_mem (not_mem_of_isPlain hschema),
      strip_of_not_mem (not_mem_of_isPlain hname)] at h
  have hinert : Inert (object.table.schema ++ '.' :: object.table.name) := by
    have hdot : Inert ['.'] := inert_of_not_mem_openers (Text.forall_of_all (by decide))
    exact (inert_of_isPlain hschema).append (hdot.append (inert_of_isPlain hname))
  have hnewline : '\n' ∉ object.table.schema ++ '.' :: object.table.name := by
    have hsign : Letters.exact.isNamePart '\n' = false := by decide
    simp [not_mem_of_isPlain_of_not_isNamePart hschema hsign,
      not_mem_of_isPlain_of_not_isNamePart hname hsign]
  have hnone : governing.places (object.table.schema ++ '.' :: object.table.name ++ " (".toList) =
      [] := by
    rw [List.append_assoc]
    exact places_qualified_name hschemaKeywords hnameKeywords
  have happend (front back : Text) :
      front ++ object.table.schema ++ ['.'] ++ object.table.name ++ back =
        front ++ (object.table.schema ++ '.' :: object.table.name ++ back) := by
    simp
  have hdocument : document = insertInto (object.table.schema ++ '.' :: object.table.name) :=
    happend "INSERT INTO ".toList " (".toList
  have hcompletion := complete_insertInto hspelled hinert hnewline hnone snapshot settings
  rw [← hdocument, Snapshot.find?_none_eq] at hcompletion
  obtain ⟨first, hfirst⟩ : ∃ first, snapshot.objects.find? (fun other =>
      namesMatch other.table.name object.table.name) = some first :=
    Option.isSome_iff_exists.mp
      (List.find?_isSome.mpr ⟨object, hobject, namesMatch_refl object.table.name⟩)
  rw [hfirst] at hcompletion
  exact ⟨congrArg Completion.context hcompletion, first, hfirst,
    congrArg Completion.suggestions hcompletion⟩

theorem complete_insertColumns_namesake :
    let named : SchemaObject :=
      ⟨⟨"sales".toList, "Users".toList, [.ofType "Region".toList "text".toList]⟩, false⟩
    let snapshot : Snapshot :=
      { tables := [⟨"dbo".toList, "users".toList, [.ofType "Id".toList "int".toList]⟩,
          named.table] }
    let document := "INSERT INTO ".toList ++ named.table.schema ++ ".".toList ++
      named.table.name ++ " (".toList
    let completion :=
      complete document (Position.ofOffset document (Text.size document)) snapshot {}
    (named ∈ snapshot.objects ∧ IsPlain .exact named.table.schema ∧
      IsPlain .exact named.table.name ∧
      inText named.table.schema = [] ∧ inText named.table.name = []) ∧
      completion.context = ⟨.insertColumns named.table.name, .high⟩ ∧
      ∃ first, snapshot.objects.find? (fun other =>
          namesMatch other.table.name named.table.name) = some first ∧
        completion.suggestions =
          Suggestion.rank (Suggestion.columnsOf first.table) ({} : Settings).maxSuggestions := by
  intro named snapshot document completion
  have hobject : named ∈ snapshot.objects := by decide +kernel
  have hschema : IsPlain .exact named.table.schema := by decide +kernel
  have hname : IsPlain .exact named.table.name := by decide +kernel
  have hkeywords : inText named.table.schema = [] ∧ inText named.table.name = [] := by
    decide +kernel
  exact ⟨⟨hobject, hschema, hname, hkeywords⟩,
    complete_insertColumns hobject hschema hname hkeywords⟩

/-- Of two tables with one name, in different schemas, the columns of the one that is not named are
offered. -/
theorem complete_insertColumns_ne_columnsOf_named :
    let named : SchemaObject :=
      ⟨⟨"sales".toList, "Users".toList, [.ofType "Region".toList "text".toList]⟩, false⟩
    let snapshot : Snapshot :=
      { tables := [⟨"dbo".toList, "Users".toList, [.ofType "Id".toList "int".toList]⟩,
          named.table] }
    let document := "INSERT INTO sales.Users (".toList
    let completion :=
      complete document (Position.ofOffset document (Text.size document)) snapshot {}
    (named ∈ snapshot.objects ∧
      (snapshot.objects.Pairwise fun object other =>
        namesMatch object.table.schema other.table.schema = false) ∧
      IsPlain .exact named.table.schema ∧ IsPlain .exact named.table.name ∧
      inText named.table.schema = [] ∧ inText named.table.name = []) ∧
      completion.suggestions.map Suggestion.label = ["Id".toList] ∧
      completion.suggestions ≠ Suggestion.rank (Suggestion.columnsOf named.table) 100 := by
  decide +kernel

end SqlAssist
