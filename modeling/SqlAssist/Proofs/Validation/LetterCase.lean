import SqlAssist.Proofs.CommonTable
import SqlAssist.Proofs.LetterCase.Reference
import SqlAssist.Proofs.LetterCase.Scan
import SqlAssist.Proofs.Position
import SqlAssist.Proofs.Validation.Independence

/-! # The case of ASCII letters does not count

A folded statement defines the same common tables, whose names are given in full lower case, and names
of the snapshot are compared without the case of ASCII letters. So the unknown references of a folded
script are the folded unknown references of the script, at the same places. Two scripts that differ in
this case have the same folding, so their markers are at the same places and their messages differ in
this case at most. -/
namespace SqlAssist

open Character Text

namespace CommonTable

theorem behindWith?_folded (statement : Text) :
    behindWith? (folded statement) = (behindWith? statement).map folded := by
  simp only [behindWith?, trimStart_folded, readWord?_folded]
  cases readWord? "with".toList (trimStart statement) with
  | none => rfl
  | some rest =>
    simp only [Option.map_some, Option.filter_some, head?_folded, noWord_map_toLower]
    split <;> rfl

theorem isParenthesis_toLower (c : Char) :
    (decide (c.toLower ≠ '(') && decide (c.toLower ≠ ')')) =
      (decide (c ≠ '(') && decide (c ≠ ')')) := by
  simp

theorem behindColumns?_folded (t : Text) :
    behindColumns? (folded t) = (behindColumns? t).map folded := by
  by_cases hhead : t.head? = some '('
  · obtain ⟨t, rfl⟩ := List.head?_eq_some_iff.mp hhead
    have hdrop := dropWhile_folded (p := fun c => c ≠ '(' && c ≠ ')') isParenthesis_toLower t
    have hfolded : folded ('(' :: t) = '(' :: folded t := rfl
    rw [hfolded, behindColumns?_cons, hdrop, skipChar?_folded (by decide), behindColumns?_cons]
  · have hfolded : (folded t).head? ≠ some '(' := by simpa using hhead
    rw [behindColumns?_of_head? hhead, behindColumns?_of_head? hfolded]
    rfl

theorem behindGap_folded (t : Text) :
    behindGap (folded t) = Prod.map id folded (behindGap t) := by
  simp only [behindGap, trimStart_folded, behindColumns?_folded, length_folded]
  cases behindColumns? (trimStart t) with
  | none => rfl
  | some rest => simp

theorem opening?_folded (last : Char) (t : Text) :
    opening? last.toLower (folded t) = (opening? last t).map folded := by
  have hlast : noWord (some last.toLower) = noWord (some last) := noWord_map_toLower (some last)
  simp only [opening?, behindGap_folded, Prod.map, id_eq, hlast, readWord?_folded]
  split
  · cases readWord? "as".toList (behindGap t).2 with
    | none => rfl
    | some rest =>
      simp only [Option.map_some, Option.filter_some, trimStart_folded,
        head?_folded_beq (x := '(') (by decide)]
      split <;> rfl
  · rfl

theorem shorten?_folded (least : Nat) (reversed rest : Text) :
    shorten? least (folded reversed) (folded rest) =
      (shorten? least reversed rest).map (Prod.map folded folded) := by
  induction reversed generalizing rest with
  | nil => rfl
  | cons c reversed ih =>
    simp only [folded_cons, shorten?, length_folded, opening?_folded]
    split
    · rfl
    · cases opening? c rest with
      | none => exact ih (c :: rest)
      | some opened => simp

theorem readHead?_folded (t : Text) :
    readHead? (folded t) = (readHead? t).map (Prod.map folded folded) := by
  simp only [readHead?, trimStart_folded, Identifier.readBracketed?_folded]
  cases Identifier.readBracketed? (trimStart t) with
  | some found =>
    obtain ⟨name, rest⟩ := found
    have hopening : opening? ']' (folded rest) = (opening? ']' rest).map folded :=
      opening?_folded ']' rest
    simp only [Option.map_some, Prod.map, hopening, Option.map_map]
    rfl
  | none =>
    simp only [Option.map_none, Identifier.readPlain?_folded, Identifier.temporaryMark_folded,
      Option.bind_eq_bind]
    cases Identifier.readPlain? .folded (trimStart t) with
    | none => rfl
    | some found =>
      simp only [Option.map_some, Option.bind_some, Prod.map, length_folded, reverse_folded,
        shorten?_folded]

theorem next?_folded (opened : Text) : next? (folded opened) = (next? opened).map folded := by
  simp only [next?, Parenthesis.closing?_folded]
  cases Parenthesis.closing? opened with
  | none => rfl
  | some closed =>
    simp only [Option.map_some, Option.bind_some, tail_folded, trimStart_folded,
      skipChar?_folded (x := ',') (by decide)]

theorem namesFrom_folded (t : Text) : namesFrom (folded t) = namesFrom t := by
  induction hn : t.length using Nat.strongRecOn generalizing t with
  | ind n ih =>
    have hhead := readHead?_folded t
    cases h : readHead? t with
    | none =>
      rw [h] at hhead
      rw [namesFrom_of_none h, namesFrom_of_none hhead]
    | some found =>
      obtain ⟨name, opened⟩ := found
      rw [h] at hhead
      rw [namesFrom_of_some h, namesFrom_of_some hhead, Identifier.strip_folded, lower_folded,
        next?_folded]
      cases hnext : next? opened with
      | none => rfl
      | some rest =>
        have hshort := readHead?_length h
        have hshorter := next?_length hnext
        exact congrArg (_ :: ·) (ih rest.length (by omega) rest rfl)

/-- A folded statement defines the same names. -/
@[simp] theorem names_folded (statement : Text) : names (folded statement) = names statement := by
  rw [names, behindWith?_folded, names]
  cases behindWith? statement with
  | none => rfl
  | some rest => simp only [Option.map_some, namesFrom_folded]

end CommonTable

theorem namesMatch_folded (a b : Text) : namesMatch a (folded b) = namesMatch a b := by
  have hcase : eqIgnoreCase a (folded b) = eqIgnoreCase a b :=
    congrArg (folded a == ·) (folded_folded b)
  rw [namesMatch, hcase, lower_folded, namesMatch]

theorem qualifierMatches_folded (schema : Text) (qualifier : Option Text) :
    qualifierMatches schema (qualifier.map folded) = qualifierMatches schema qualifier := by
  cases qualifier with
  | none => rfl
  | some qualifier => exact namesMatch_folded schema qualifier

namespace Reference

theorem isKnown_folded (reference : Reference) (commonTables : List Text) (snapshot : Snapshot) :
    reference.folded.isKnown commonTables snapshot = reference.isKnown commonTables snapshot := by
  simp only [isKnown, folded, Option.isNone_map, lower_folded, Snapshot.findObject?,
    Snapshot.hasFunction, Table.isNamed, Routine.isNamed, namesMatch_folded,
    qualifierMatches_folded]

end Reference

theorem Statement.unknownReferences_folded (statement : Statement) (snapshot : Snapshot) :
    statement.folded.unknownReferences snapshot =
      (statement.unknownReferences snapshot).map Reference.folded := by
  simp only [unknownReferences, folded, mask_folded, CommonTable.names_folded, references_folded,
    List.filter_map]
  refine congrArg (List.map _) (List.filter_congr fun reference _ => ?_)
  rw [Function.comp_apply, Reference.isKnown_folded]

def Marker.folded (marker : Marker) : Marker :=
  { marker with message := Text.folded marker.message }

theorem Position.ofOffset_folded (t : Text) (n : Nat) : ofOffset (folded t) n = ofOffset t n := by
  have hsteps : List.Forall₂ SameStep (folded t) t := by
    rw [folded, List.forall₂_map_left_iff, List.forall₂_same]
    exact fun c _ => ⟨utf8Size_toLower c, toLower_eq_iff (by decide) c⟩
  exact ofOffset_of_forall₂ hsteps n

theorem Reference.folded_marker (reference : Reference) (script : Text) (start : Nat) :
    (reference.folded.marker (Text.folded script) start).folded =
      (reference.marker script start).folded := by
  simp only [marker, Marker.folded, Position.ofOffset_folded, folded_append]
  simp only [folded, folded_folded]
  rfl

theorem Statement.markers_folded (statement : Statement) (script : Text) (snapshot : Snapshot) :
    (statement.folded.markers (Text.folded script) snapshot).map Marker.folded =
      (statement.markers script snapshot).map Marker.folded := by
  rw [markers, unknownReferences_folded, markers, List.map_map, List.map_map, List.map_map]
  exact List.map_congr_left fun reference _ => reference.folded_marker script statement.start

theorem validate_folded (script : Text) (snapshot : Snapshot) :
    (validate (folded script) snapshot).map Marker.folded =
      (validate script snapshot).map Marker.folded := by
  cases hempty : snapshot.isEmpty with
  | true => simp [validate, hempty]
  | false =>
    rw [validate_eq_flatMap_segments hempty, validate_eq_flatMap_segments hempty,
      Statement.segments_folded, List.flatMap_map, List.map_flatMap, List.map_flatMap]
    exact List.flatMap_congr fun statement _ => statement.markers_folded script snapshot

/-- The markers are at the same places, and their messages are equal up to the case of ASCII
letters. -/
structure Marker.EqIgnoreCase (marker other : Marker) : Prop where
  severity : marker.severity = other.severity
  start : marker.start = other.start
  stop : marker.stop = other.stop
  message : Text.eqIgnoreCase marker.message other.message = true

theorem Marker.eqIgnoreCase_of_folded_eq {marker other : Marker}
    (h : marker.folded = other.folded) : marker.EqIgnoreCase other := by
  obtain ⟨hseverity, hmessage, hstart, hstop⟩ := Marker.mk.inj h
  exact ⟨hseverity, hstart, hstop, Text.eqIgnoreCase_iff.mpr hmessage⟩

/-- Scripts that are equal up to the case of ASCII letters have the same markers up to that case. -/
theorem validate_eqIgnoreCase (script other : Text) (snapshot : Snapshot)
    (h : Text.eqIgnoreCase script other = true) :
    List.Forall₂ Marker.EqIgnoreCase (validate script snapshot) (validate other snapshot) := by
  have hfolded : folded script = folded other := Text.eqIgnoreCase_iff.mp h
  have hmarkers : (validate script snapshot).map Marker.folded =
      (validate other snapshot).map Marker.folded := by
    rw [← validate_folded script, hfolded, validate_folded other]
  rw [← List.forall₂_eq_eq_eq, List.forall₂_map_left_iff, List.forall₂_map_right_iff] at hmarkers
  exact hmarkers.imp fun _ _ => Marker.eqIgnoreCase_of_folded_eq

/-- A common table whose name has a letter that is not ASCII, and an unknown table behind it. -/
theorem validate_eqIgnoreCase_common_table :
    let script := "WITH Ωa AS (SELECT 1) SELECT * FROM ΩA;\nSELECT 1 FROM [Löst]".toList
    let other := "with ΩA as (select 1) select * from Ωa;\nselect 1 from [lösT]".toList
    let snapshot : Snapshot := { tables := [⟨"dbo".toList, "Users".toList, []⟩] }
    Text.eqIgnoreCase script other = true ∧
      (validate script snapshot).map (fun marker => (marker.message, marker.start)) =
        [("Invalid object name 'Löst'.".toList, ⟨2, 15⟩)] ∧
      List.Forall₂ Marker.EqIgnoreCase (validate script snapshot) (validate other snapshot) := by
  intro script other snapshot
  have h : Text.eqIgnoreCase script other = true := by decide
  exact ⟨h, by decide +kernel, validate_eqIgnoreCase script other snapshot h⟩

end SqlAssist
