import SqlAssist.Proofs.Mask.Alignment
import SqlAssist.Proofs.Reference.Written
import SqlAssist.Proofs.Statement.Placement
import SqlAssist.Proofs.Statement.Splitting
import SqlAssist.Proofs.Validation.Independence

/-! # What markers point at

References are searched in the masked text of a statement, and because a name has no white space at
its edges, they lie between characters of the script itself. So a script and the script with its
comments blanked give the same messages about the same bytes; the columns can differ only where a
comment holds characters of more than one byte. The ends of a marker lead to two offsets inside one of
the statements, and between them the script, comments apart, writes the name that the message quotes.
The markers come in the order of the text. -/
namespace SqlAssist

open Identifier Token

namespace Statement

theorem unknownReferences_masked (statement : Statement) (snapshot : Snapshot) :
    statement.masked.unknownReferences snapshot = statement.unknownReferences snapshot := by
  simp only [unknownReferences, masked, mask_mask]

theorem isSlice_mask_of_mem_segments {script : Text} {statement : Statement}
    (h : statement ∈ segments script) :
    Text.IsSlice (mask script) statement.start statement.stop (mask statement.text) := by
  have hmem : statement.masked ∈ segments (mask script) := by
    rw [segments_mask]
    exact List.mem_map_of_mem h
  have hslice := isSlice_of_mem_segments hmem
  rwa [stop_masked] at hslice

end Statement

/-- An unknown reference is written in the masked script, at its place in its statement. -/
theorem Statement.exists_written {script : Text} {statement : Statement} {snapshot : Snapshot}
    {reference : Reference} (hs : statement ∈ segments script)
    (h : reference ∈ statement.unknownReferences snapshot) :
    ∃ written, Text.IsSlice (mask script) (statement.start + reference.start)
        (statement.start + reference.stop) written ∧
      ObjectName.Spelled ⟨reference.schema, reference.table⟩ written := by
  obtain ⟨written, hslice, hspelled⟩ := isWrittenIn_of_mem_references (List.mem_of_mem_filter h)
  exact ⟨written, (isSlice_mask_of_mem_segments hs).trans hslice, hspelled⟩

theorem Statement.isBoundary_of_mem_unknownReferences {script : Text} {statement : Statement}
    {snapshot : Snapshot} {reference : Reference} (hs : statement ∈ segments script)
    (h : reference ∈ statement.unknownReferences snapshot) :
    Text.IsBoundary script (statement.start + reference.start) ∧
      Text.IsBoundary script (statement.start + reference.stop) := by
  obtain ⟨written, hslice, hspelled⟩ := exists_written hs h
  exact isBoundary_of_isSlice_mask hslice hspelled.isTight

theorem Reference.toOffset_marker_start (reference : Reference) {script : Text} {start : Nat}
    (h : Text.IsBoundary script (start + reference.start)) :
    Position.toOffset script (reference.marker script start).start = start + reference.start :=
  Position.toOffset_ofOffset h

theorem Reference.toOffset_marker_stop (reference : Reference) {script : Text} {start : Nat}
    (h : Text.IsBoundary script (start + reference.stop)) :
    Position.toOffset script (reference.marker script start).stop = start + reference.stop :=
  Position.toOffset_ofOffset h

/-- The markers, each of a script of its own, say the same about the same bytes. -/
structure Marker.Agrees (script other : Text) (marker marker' : Marker) : Prop where
  severity : marker.severity = marker'.severity
  message : marker.message = marker'.message
  start : Position.toOffset script marker.start = Position.toOffset other marker'.start
  stop : Position.toOffset script marker.stop = Position.toOffset other marker'.stop

theorem Reference.agrees_marker (reference : Reference) {script other : Text} {start : Nat}
    (hstart : Text.IsBoundary script (start + reference.start))
    (hstop : Text.IsBoundary script (start + reference.stop))
    (hstart' : Text.IsBoundary other (start + reference.start))
    (hstop' : Text.IsBoundary other (start + reference.stop)) :
    Marker.Agrees script other (reference.marker script start) (reference.marker other start) where
  severity := rfl
  message := rfl
  start := by
    rw [reference.toOffset_marker_start hstart, reference.toOffset_marker_start hstart']
  stop := by
    rw [reference.toOffset_marker_stop hstop, reference.toOffset_marker_stop hstop']

namespace Statement

theorem markers_masked (statement : Statement) (script : Text) (snapshot : Snapshot) :
    statement.masked.markers (mask script) snapshot =
      (statement.unknownReferences snapshot).map (·.marker (mask script) statement.start) := by
  rw [markers, unknownReferences_masked]
  rfl

/-- The markers of a segment and of the masked segment agree one by one. -/
theorem forall₂_markers_masked {script : Text} {statement : Statement}
    (hs : statement ∈ segments script) (snapshot : Snapshot) :
    List.Forall₂ (Marker.Agrees script (mask script)) (statement.markers script snapshot)
      (statement.masked.markers (mask script) snapshot) := by
  rw [markers_masked, markers, List.forall₂_map_left_iff, List.forall₂_map_right_iff,
    List.forall₂_same]
  intro reference hmem
  obtain ⟨hstart, hstop⟩ := isBoundary_of_mem_unknownReferences hs hmem
  obtain ⟨written, hslice, _⟩ := exists_written hs hmem
  exact reference.agrees_marker hstart hstop hslice.isBoundary_start hslice.isBoundary_stop

theorem markers_masked_of_ascii {script : Text} (h : commentsAreAscii script = true)
    (statement : Statement) (snapshot : Snapshot) :
    statement.masked.markers (mask script) snapshot = statement.markers script snapshot := by
  have hplaces (n : Nat) : Position.ofOffset (mask script) n = Position.ofOffset script n :=
    (Position.ofOffset_of_forall₂ (forall₂_mask h) n).symm
  rw [markers_masked, markers]
  refine List.map_congr_left fun reference _ => ?_
  simp only [Reference.marker, hplaces]

end Statement

theorem validate_mask_eq_flatMap {snapshot : Snapshot} (h : snapshot.isEmpty = false)
    (script : Text) :
    validate (mask script) snapshot =
      (Statement.segments script).flatMap (·.masked.markers (mask script) snapshot) := by
  rw [validate_eq_flatMap_segments h, Statement.segments_mask, List.flatMap_map]

/-- Blanking the comments of a script changes neither the messages nor the bytes they are about, and
nothing at all when the comments are ASCII. -/
theorem validate_agrees_mask (script : Text) (snapshot : Snapshot) :
    List.Forall₂ (Marker.Agrees script (mask script)) (validate script snapshot)
        (validate (mask script) snapshot) ∧
      (commentsAreAscii script = true →
        validate (mask script) snapshot = validate script snapshot) := by
  cases hempty : snapshot.isEmpty with
  | true => simp [validate, hempty]
  | false =>
    rw [validate_eq_flatMap_segments hempty, validate_mask_eq_flatMap hempty]
    constructor
    · have hsame : List.Forall₂ (fun statement other => statement = other ∧
          statement ∈ Statement.segments script) (Statement.segments script)
          (Statement.segments script) :=
        List.forall₂_same.mpr fun statement hs => ⟨rfl, hs⟩
      refine List.rel_flatMap hsame ?_
      rintro statement _ ⟨rfl, hs⟩
      exact Statement.forall₂_markers_masked hs snapshot
    · intro hascii
      exact List.flatMap_congr fun statement _ =>
        Statement.markers_masked_of_ascii hascii statement snapshot

/-- A comment with a semicolon and a reference in it, in the middle of a statement. -/
theorem validate_agrees_mask_ascii :
    let script := "SELECT 1 /* ; FROM Gone */\nFROM Lost -- x".toList
    let snapshot : Snapshot := { tables := [⟨"dbo".toList, "Users".toList, []⟩] }
    commentsAreAscii script = true ∧ (validate script snapshot).map Marker.start = [⟨2, 6⟩] ∧
      validate (mask script) snapshot = validate script snapshot :=
  have h : commentsAreAscii "SELECT 1 /* ; FROM Gone */\nFROM Lost -- x".toList = true := by
    decide +kernel
  ⟨h, by decide +kernel, (validate_agrees_mask _ _).2 h⟩

/-- The message quotes the last identifier of what is written: one, or two joined by a dot. -/
def Marker.Quotes (marker : Marker) (written : Text) : Prop :=
  ∃ last, IsWritten .folded last ∧
    (written = last ∨ ∃ first, IsWritten .folded first ∧ written = first ++ '.' :: last) ∧
    marker.message = "Invalid object name '".toList ++ strip last ++ "'.".toList

/-- The marker is about the part of the script from `start` up to `stop`. -/
structure Marker.PointsAt (marker : Marker) (script : Text) (start stop : Nat) : Prop where
  start_lt_stop : start < stop
  stop_le_size : stop ≤ Text.size script
  isBoundary_start : Text.IsBoundary script start
  isBoundary_stop : Text.IsBoundary script stop
  statement : ∃ statement ∈ Statement.split script, statement.start ≤ start ∧ stop ≤ statement.stop
  quotes : ∃ written, Text.IsSlice (mask script) start stop written ∧ marker.Quotes written

theorem Reference.quotes_marker {reference : Reference} {written : Text}
    (h : ObjectName.Spelled ⟨reference.schema, reference.table⟩ written) (script : Text)
    (start : Nat) : (reference.marker script start).Quotes written := by
  obtain ⟨schema, table, first, length, temporary⟩ := reference
  simp only at h
  cases h with
  | lone hx => exact ⟨written, hx, Or.inl rfl, rfl⟩
  | @qualified x y hx hy => exact ⟨y, hy, Or.inr ⟨x, hx, rfl⟩, rfl⟩

theorem Text.IsTight.size_pos {t : Text} (h : Text.IsTight t) : 0 < Text.size t := by
  obtain ⟨⟨c, rest, rfl, _⟩, _⟩ := h
  exact Text.size_pos_of_ne_nil (List.cons_ne_nil c rest)

namespace Statement

theorem start_lt_stop_of_mem_unknownReferences {script : Text} {statement : Statement}
    {snapshot : Snapshot} {reference : Reference} (hs : statement ∈ segments script)
    (h : reference ∈ statement.unknownReferences snapshot) :
    statement.start + reference.start < statement.start + reference.stop := by
  obtain ⟨written, ⟨_, _, _, _, hstop⟩, hspelled⟩ := exists_written hs h
  have hpos := hspelled.isTight.size_pos
  omega

/-- The marker of an unknown reference points at the reference. -/
theorem pointsAt_marker {script : Text} {statement : Statement} {snapshot : Snapshot}
    {reference : Reference} (hsplit : statement ∈ split script)
    (h : reference ∈ statement.unknownReferences snapshot) :
    (reference.marker script statement.start).PointsAt script (statement.start + reference.start)
      (statement.start + reference.stop) := by
  have hs := mem_segments_of_mem_split hsplit
  obtain ⟨hstart, hstop⟩ := isBoundary_of_mem_unknownReferences hs h
  obtain ⟨written, hslice, hspelled⟩ := exists_written hs h
  have hle := stop_le_of_mem_unknownReferences h
  have hsize := stop_le_of_mem_segments hs
  exact {
    start_lt_stop := start_lt_stop_of_mem_unknownReferences hs h
    stop_le_size := by omega
    isBoundary_start := hstart
    isBoundary_stop := hstop
    statement := ⟨statement, hsplit, by omega, hle⟩
    quotes := ⟨written, hslice, Reference.quotes_marker hspelled script statement.start⟩ }

end Statement

def Marker.IsBefore (marker next : Marker) : Prop :=
  marker.start.precedes next.start = true ∧ marker.stop.precedes next.stop = true

namespace Statement

theorem isBefore_marker {script : Text} {statement other : Statement} {snapshot : Snapshot}
    {reference reference' : Reference} (hs : statement ∈ segments script)
    (h : reference ∈ statement.unknownReferences snapshot) (hs' : other ∈ segments script)
    (h' : reference' ∈ other.unknownReferences snapshot)
    (hstart : statement.start + reference.start < other.start + reference'.start)
    (hstop : statement.start + reference.stop < other.start + reference'.stop) :
    (reference.marker script statement.start).IsBefore
      (reference'.marker script other.start) := by
  obtain ⟨hfirst, hlast⟩ := isBoundary_of_mem_unknownReferences hs h
  obtain ⟨hfirst', hlast'⟩ := isBoundary_of_mem_unknownReferences hs' h'
  exact ⟨Position.ofOffset_precedes hfirst hfirst' hstart,
    Position.ofOffset_precedes hlast hlast' hstop⟩

/-- The markers of one statement come in the order of the text. -/
theorem pairwise_markers {script : Text} {statement : Statement} (hs : statement ∈ segments script)
    (snapshot : Snapshot) : (statement.markers script snapshot).Pairwise Marker.IsBefore := by
  have hpair : (statement.unknownReferences snapshot).Pairwise Reference.IsBefore :=
    (pairwise_references _).filter _
  refine List.pairwise_map.mpr (hpair.imp_of_mem ?_)
  rintro reference reference' hmem hmem' ⟨hstart, hstop⟩
  exact isBefore_marker hs hmem hs hmem' (by omega) (by omega)

theorem isBefore_of_stop_lt {script : Text} {statement other : Statement} {snapshot : Snapshot}
    (hs : statement ∈ segments script) (hs' : other ∈ segments script)
    (hlt : statement.stop < other.start) {marker next : Marker}
    (h : marker ∈ statement.markers script snapshot)
    (h' : next ∈ other.markers script snapshot) : marker.IsBefore next := by
  obtain ⟨reference, hmem, rfl⟩ := List.mem_map.mp h
  obtain ⟨reference', hmem', rfl⟩ := List.mem_map.mp h'
  have hle := stop_le_of_mem_unknownReferences hmem
  have hwidth := start_lt_stop_of_mem_unknownReferences hs hmem
  have hwidth' := start_lt_stop_of_mem_unknownReferences hs' hmem'
  exact isBefore_marker hs hmem hs' hmem' (by omega) (by omega)

theorem pairwise_split (script : Text) :
    (split script).Pairwise (fun statement next => statement.stop < next.start) :=
  (pairwise_place 0 _).sublist (split_prefix_segments script).sublist

end Statement

theorem pairwise_validate (script : Text) (snapshot : Snapshot) :
    (validate script snapshot).Pairwise Marker.IsBefore := by
  unfold validate
  split
  · exact .nil
  · refine List.pairwise_flatMap.mpr ⟨?_, ?_⟩
    · intro statement hs
      exact Statement.pairwise_markers (Statement.mem_segments_of_mem_split hs) snapshot
    · refine (Statement.pairwise_split script).imp_of_mem ?_
      intro statement other hs hs' hlt marker h next h'
      exact Statement.isBefore_of_stop_lt (Statement.mem_segments_of_mem_split hs)
        (Statement.mem_segments_of_mem_split hs') hlt h h'

/-- Every marker points at the name it quotes, and the markers are in the order of the text. -/
theorem validate_pointsAt (script : Text) (snapshot : Snapshot) :
    (∀ marker ∈ validate script snapshot,
        marker.PointsAt script (Position.toOffset script marker.start)
          (Position.toOffset script marker.stop)) ∧
      (validate script snapshot).Pairwise Marker.IsBefore := by
  refine ⟨?_, pairwise_validate script snapshot⟩
  intro marker hmarker
  unfold validate at hmarker
  split at hmarker
  · cases hmarker
  · obtain ⟨statement, hsplit, hmem⟩ := List.mem_flatMap.mp hmarker
    obtain ⟨reference, href, rfl⟩ := List.mem_map.mp hmem
    have hpoints := Statement.pointsAt_marker hsplit href
    rw [reference.toOffset_marker_start hpoints.isBoundary_start,
      reference.toOffset_marker_stop hpoints.isBoundary_stop]
    exact hpoints

/-- Two unknown tables, the first behind a comment with letters of two bytes. -/
theorem validate_pointsAt_two_statements :
    let script := "SELECT 1 /* größe */ FROM dbo.[Lost]; SELECT 2 FROM Ghost".toList
    let snapshot : Snapshot := { tables := [⟨"dbo".toList, "Users".toList, []⟩] }
    let lost : Marker := ⟨.error, "Invalid object name 'Lost'.".toList, ⟨1, 27⟩, ⟨1, 37⟩⟩
    let ghost : Marker := ⟨.error, "Invalid object name 'Ghost'.".toList, ⟨1, 53⟩, ⟨1, 58⟩⟩
    validate script snapshot = [lost, ghost] ∧ lost.PointsAt script 28 38 ∧
      lost.IsBefore ghost :=
  have h : validate "SELECT 1 /* größe */ FROM dbo.[Lost]; SELECT 2 FROM Ghost".toList
      { tables := [⟨"dbo".toList, "Users".toList, []⟩] } =
      [⟨.error, "Invalid object name 'Lost'.".toList, ⟨1, 27⟩, ⟨1, 37⟩⟩,
        ⟨.error, "Invalid object name 'Ghost'.".toList, ⟨1, 53⟩, ⟨1, 58⟩⟩] := by decide +kernel
  have hall := validate_pointsAt "SELECT 1 /* größe */ FROM dbo.[Lost]; SELECT 2 FROM Ghost".toList
    { tables := [⟨"dbo".toList, "Users".toList, []⟩] }
  ⟨h, hall.1 _ (by rw [h]; simp), by rw [h] at hall; simpa using hall.2⟩

end SqlAssist
