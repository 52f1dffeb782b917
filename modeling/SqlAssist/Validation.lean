import SqlAssist.CommonTable
import SqlAssist.Reference
import SqlAssist.Script
import SqlAssist.Snapshot.Basic
import SqlAssist.Text

/-! # Checking a script against a snapshot

Every table that a statement of the script names must be temporary, a common table of the same
statement, or known to the snapshot as a table, view or function. The others are marked. -/
namespace SqlAssist

inductive Severity where
  | error
  | warning
  | info
deriving DecidableEq, Repr

def Severity.label : Severity → Text
  | .error => "error".toList
  | .warning => "warning".toList
  | .info => "info".toList

/-- A message about the part of a script from `start` up to, and not including, `stop`. -/
structure Marker where
  severity : Severity
  message : Text
  start : Position
  stop : Position
deriving DecidableEq, Repr

def Marker.span (marker : Marker) : Text :=
  marker.start.display ++ '-' :: marker.stop.display

/-- Whether a reference needs no entry in the snapshot or has one. `commonTables` are the names, in
lower case, that the statement defines itself; a qualified name never means one of them. -/
def Reference.isKnown (reference : Reference) (commonTables : List Text) (snapshot : Snapshot) :
    Bool :=
  reference.isTemporary ||
    (reference.schema.isNone && commonTables.contains (Text.lower reference.table)) ||
    (snapshot.findObject? reference.schema reference.table).isSome ||
    snapshot.hasFunction reference.schema reference.table

/-- The marker for an unknown reference of a statement that begins at `start` in `script`. -/
def Reference.marker (reference : Reference) (script : Text) (start : Nat) : Marker :=
  { severity := .error
    message := "Invalid object name '".toList ++ reference.table ++ "'.".toList
    start := Position.ofOffset script (start + reference.start)
    stop := Position.ofOffset script (start + reference.stop) }

/-- The unknown references of a statement. Comments are blanked before it is searched. -/
def Statement.unknownReferences (statement : Statement) (snapshot : Snapshot) : List Reference :=
  let masked := mask statement.text
  let commonTables := CommonTable.names masked
  (references masked).filter (fun reference => !reference.isKnown commonTables snapshot)

/-- The markers of a script, in the order of the text. Nothing is reported against a snapshot that
has not been loaded. -/
def validate (script : Text) (snapshot : Snapshot) : List Marker :=
  if snapshot.isEmpty then []
  else
    (Statement.split script).flatMap fun statement =>
      (statement.unknownReferences snapshot).map (·.marker script statement.start)

end SqlAssist
