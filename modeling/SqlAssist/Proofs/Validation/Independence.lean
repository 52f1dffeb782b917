import Mathlib.Data.List.Basic
import SqlAssist.Proofs.Mask.Scan
import SqlAssist.Proofs.Position
import SqlAssist.Proofs.Reference.Written
import SqlAssist.Proofs.Statement.Segments
import SqlAssist.Validation

/-! # Statements are checked independently

The markers of a script are those of its segments, blank or not, and the markers of a segment depend
on its text and its place alone. So the markers of two scripts with a semicolon between them are
those of the first script and, moved behind it, those of the second. -/
namespace SqlAssist

open Token

/-- The place in a script that begins with `a` and a semicolon, for a place in what follows them. -/
def Position.behindStatement (a : Text) (position : Position) : Position :=
  ⟨position.line + a.count '\n',
    if position.line = 1 then position.column + (Text.lastLine a).length + 1
    else position.column⟩

def Marker.behindStatement (a : Text) (marker : Marker) : Marker :=
  { marker with
    start := marker.start.behindStatement a
    stop := marker.stop.behindStatement a }

def Statement.markers (statement : Statement) (script : Text) (snapshot : Snapshot) :
    List Marker :=
  (statement.unknownReferences snapshot).map (·.marker script statement.start)

theorem Statement.markers_of_isBlank {statement : Statement}
    (h : Text.isBlank statement.text = true) (script : Text) (snapshot : Snapshot) :
    statement.markers script snapshot = [] := by
  simp [markers, unknownReferences, mask_of_isBlank h, references_of_isBlank h]

theorem Statement.flatMap_dropBlankLast {α : Type} {f : Statement → List α}
    (hf : ∀ statement, Text.isBlank statement.text = true → f statement = [])
    (l : List Statement) : (dropBlankLast l).flatMap f = l.flatMap f := by
  fun_induction dropBlankLast l with
  | case1 => rfl
  | case2 statement h => simp [hf statement h]
  | case3 statement h => rfl
  | case4 statement next rest ih => rw [List.flatMap_cons, ih, ← List.flatMap_cons]

theorem validate_eq_flatMap_segments {snapshot : Snapshot} (h : snapshot.isEmpty = false)
    (script : Text) :
    validate script snapshot =
      (Statement.segments script).flatMap (·.markers script snapshot) := by
  rw [validate, h, Statement.split]
  exact Statement.flatMap_dropBlankLast
    (fun statement hblank => statement.markers_of_isBlank hblank script snapshot) _

theorem Position.behindStatement_eq_behind (a : Text) (position : Position) :
    position.behindStatement a = position.behind (a ++ [';']) := by
  have hline : (a ++ [';']).count '\n' = a.count '\n' := by
    rw [List.count_append]
    rfl
  have hcolumn : (Text.lastLine (a ++ [';'])).length = (Text.lastLine a).length + 1 := by
    rw [Text.lastLine_append_of_not_mem a (by decide), List.length_append]
    rfl
  rw [behindStatement, behind, hline, hcolumn, Nat.add_assoc]

theorem Position.ofOffset_behindStatement (a b : Text) (n : Nat) :
    ofOffset (a ++ ';' :: b) (Text.size a + 1 + n) = (ofOffset b n).behindStatement a := by
  have hsize : Text.size (a ++ [';']) = Text.size a + 1 := by
    rw [Text.size_append]
    rfl
  rw [behindStatement_eq_behind, ← ofOffset_append_add, hsize, List.append_assoc]
  rfl

theorem Statement.stop_le_of_mem_unknownReferences {statement : Statement} {snapshot : Snapshot}
    {reference : Reference} (h : reference ∈ statement.unknownReferences snapshot) :
    statement.start + reference.stop ≤ statement.stop := by
  have hle := stop_le_of_mem_references (List.mem_of_mem_filter h)
  rw [size_mask] at hle
  exact Nat.add_le_add_left hle _

/-- What follows a script does not move the markers of its segments. -/
theorem Statement.markers_append_of_mem_segments {a : Text} {statement : Statement}
    (h : statement ∈ segments a) (b : Text) (snapshot : Snapshot) :
    statement.markers (a ++ b) snapshot = statement.markers a snapshot := by
  have hstop := stop_le_of_mem_segments h
  refine List.map_congr_left fun reference hmem => ?_
  have hle := stop_le_of_mem_unknownReferences hmem
  have hstart : reference.start ≤ reference.stop := Nat.le_add_right _ _
  simp only [Reference.marker,
    Position.ofOffset_append_of_le (show statement.start + reference.start ≤ Text.size a by omega),
    Position.ofOffset_append_of_le (show statement.start + reference.stop ≤ Text.size a by omega)]

theorem Statement.markers_moved (statement : Statement) (a b : Text) (snapshot : Snapshot) :
    (statement.moved (Text.size a + 1)).markers (a ++ ';' :: b) snapshot =
      (statement.markers b snapshot).map (Marker.behindStatement a) := by
  have hoffset (n : Nat) :
      statement.start + (Text.size a + 1) + n = Text.size a + 1 + (statement.start + n) := by
    omega
  rw [markers, markers, List.map_map]
  refine List.map_congr_left fun reference _ => ?_
  simp only [Reference.marker, moved, hoffset, Position.ofOffset_behindStatement,
    Function.comp_apply, Marker.behindStatement]

/-- Checking two scripts with a semicolon between them checks each of them on its own. -/
theorem validate_append_semicolon (a b : Text) (snapshot : Snapshot) (h : Closed a) :
    validate (a ++ ';' :: b) snapshot =
      validate a snapshot ++ (validate b snapshot).map (Marker.behindStatement a) := by
  cases hempty : snapshot.isEmpty with
  | true => simp [validate, hempty]
  | false =>
    rw [validate_eq_flatMap_segments hempty, validate_eq_flatMap_segments hempty,
      validate_eq_flatMap_segments hempty, Statement.segments_append_of_closed h,
      List.flatMap_append, List.flatMap_map, List.map_flatMap]
    congr 1
    · exact List.flatMap_congr fun statement hmem =>
        Statement.markers_append_of_mem_segments hmem _ snapshot
    · exact List.flatMap_congr fun statement _ => statement.markers_moved a b snapshot

/-- A semicolon in a literal, a line break before the separating one, and an unknown table on either
side of it. -/
theorem validate_append_semicolon_two_lines :
    let a := "SELECT 'x;y'\nFROM Lost".toList
    let b := " SELECT * FROM Ghost".toList
    let snapshot : Snapshot := { tables := [⟨"dbo".toList, "Users".toList, []⟩] }
    Closed a ∧ (validate a snapshot).map Marker.start = [⟨2, 6⟩] ∧
      (validate b snapshot).map Marker.start = [⟨1, 16⟩] ∧
      validate (a ++ ';' :: b) snapshot =
        validate a snapshot ++ (validate b snapshot).map (Marker.behindStatement a) :=
  have h : Closed "SELECT 'x;y'\nFROM Lost".toList := by unfold Closed; decide +kernel
  ⟨h, by decide +kernel, by decide +kernel, validate_append_semicolon _ _ _ h⟩

end SqlAssist
