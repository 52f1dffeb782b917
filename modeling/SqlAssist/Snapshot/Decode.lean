import SqlAssist.Json.Reader
import SqlAssist.Snapshot.Basic

/-! # Reading snapshots

A snapshot is delivered as JSON. Keys that are not known are skipped; lists, truth values and sizes
may be left out. -/
namespace SqlAssist

open Json

def required {α : Type} (key : Text) : Option α → Except Text α
  | some a => .ok a
  | none => .error key

namespace Column

structure Parts where
  name : Option Text := none
  dataType : Option Text := none
  nullable : Option Bool := none
  isPrimaryKey : Option Bool := none
  isForeignKey : Option Bool := none
  maxLength : Option (Option Int32) := none
  precision : Option (Option UInt8) := none
  scale : Option (Option UInt8) := none

def fields : List (RecordField Parts) :=
  [.of "name".toList Parts.name (fun p v => { p with name := some v }) readString,
   .of "type".toList Parts.dataType (fun p v => { p with dataType := some v }) readString,
   .of "nullable".toList Parts.nullable (fun p v => { p with nullable := some v }) readBool,
   .of "isPrimaryKey".toList Parts.isPrimaryKey (fun p v => { p with isPrimaryKey := some v })
    readBool,
   .of "isForeignKey".toList Parts.isForeignKey (fun p v => { p with isForeignKey := some v })
    readBool,
   .of "maxLength".toList Parts.maxLength (fun p v => { p with maxLength := some v })
    (readOptional readInt32),
   .of "precision".toList Parts.precision (fun p v => { p with precision := some v })
    (readOptional readUInt8),
   .of "scale".toList Parts.scale (fun p v => { p with scale := some v }) (readOptional readUInt8)]

def ofParts (parts : Parts) : Except Text Column := do
  let name ← required "name".toList parts.name
  let dataType ← required "type".toList parts.dataType
  return {
    name
    dataType
    nullable := parts.nullable.getD false
    isPrimaryKey := parts.isPrimaryKey.getD false
    isForeignKey := parts.isForeignKey.getD false
    maxLength := parts.maxLength.getD none
    precision := parts.precision.getD none
    scale := parts.scale.getD none }

def shape : Shape Column Parts := ⟨"ColumnInfo".toList, fields, {}, ofParts⟩

end Column

namespace Table

structure Parts where
  schema : Option Text := none
  name : Option Text := none
  columns : Option (List Column) := none

def fields : List (RecordField Parts) :=
  [.of "schema".toList Parts.schema (fun p v => { p with schema := some v }) readString,
   .of "name".toList Parts.name (fun p v => { p with name := some v }) readString,
   .of "columns".toList Parts.columns (fun p v => { p with columns := some v })
    (readList Column.shape.read)]

def ofParts (parts : Parts) : Except Text Table := do
  let schema ← required "schema".toList parts.schema
  let name ← required "name".toList parts.name
  return { schema, name, columns := parts.columns.getD [] }

def shape : Shape Table Parts := ⟨"TableInfo".toList, fields, {}, ofParts⟩

end Table

namespace ForeignKey

structure Parts where
  fromSchema : Option Text := none
  fromTable : Option Text := none
  fromColumn : Option Text := none
  toSchema : Option Text := none
  toTable : Option Text := none
  toColumn : Option Text := none
  constraintName : Option (Option Text) := none

def fields : List (RecordField Parts) :=
  [.of "fromSchema".toList Parts.fromSchema (fun p v => { p with fromSchema := some v }) readString,
   .of "fromTable".toList Parts.fromTable (fun p v => { p with fromTable := some v }) readString,
   .of "fromColumn".toList Parts.fromColumn (fun p v => { p with fromColumn := some v }) readString,
   .of "toSchema".toList Parts.toSchema (fun p v => { p with toSchema := some v }) readString,
   .of "toTable".toList Parts.toTable (fun p v => { p with toTable := some v }) readString,
   .of "toColumn".toList Parts.toColumn (fun p v => { p with toColumn := some v }) readString,
   .of "constraintName".toList Parts.constraintName (fun p v => { p with constraintName := some v })
    (readOptional readString)]

def ofParts (parts : Parts) : Except Text ForeignKey := do
  let fromSchema ← required "fromSchema".toList parts.fromSchema
  let fromTable ← required "fromTable".toList parts.fromTable
  let fromColumn ← required "fromColumn".toList parts.fromColumn
  let toSchema ← required "toSchema".toList parts.toSchema
  let toTable ← required "toTable".toList parts.toTable
  let toColumn ← required "toColumn".toList parts.toColumn
  return {
    fromSchema
    fromTable
    fromColumn
    toSchema
    toTable
    toColumn
    constraintName := parts.constraintName.getD none }

def shape : Shape ForeignKey Parts := ⟨"ForeignKeyInfo".toList, fields, {}, ofParts⟩

end ForeignKey

namespace Routine

structure Parts where
  schema : Option Text := none
  name : Option Text := none

def fields : List (RecordField Parts) :=
  [.of "schema".toList Parts.schema (fun p v => { p with schema := some v }) readString,
   .of "name".toList Parts.name (fun p v => { p with name := some v }) readString]

def ofParts (parts : Parts) : Except Text Routine := do
  let schema ← required "schema".toList parts.schema
  let name ← required "name".toList parts.name
  return { schema, name }

def shape : Shape Routine Parts := ⟨"RoutineInfo".toList, fields, {}, ofParts⟩

end Routine

namespace Snapshot

structure Parts where
  tables : Option (List Table) := none
  views : Option (List Table) := none
  foreignKeys : Option (List ForeignKey) := none
  procedures : Option (List Routine) := none
  functions : Option (List Routine) := none

def fields : List (RecordField Parts) :=
  [.of "tables".toList Parts.tables (fun p v => { p with tables := some v })
    (readList Table.shape.read),
   .of "views".toList Parts.views (fun p v => { p with views := some v })
    (readList Table.shape.read),
   .of "foreignKeys".toList Parts.foreignKeys (fun p v => { p with foreignKeys := some v })
    (readList ForeignKey.shape.read),
   .of "storedProcedures".toList Parts.procedures (fun p v => { p with procedures := some v })
    (readList Routine.shape.read),
   .of "functions".toList Parts.functions (fun p v => { p with functions := some v })
    (readList Routine.shape.read)]

def ofParts (parts : Parts) : Except Text Snapshot :=
  .ok {
    tables := parts.tables.getD []
    views := parts.views.getD []
    foreignKeys := parts.foreignKeys.getD []
    procedures := parts.procedures.getD []
    functions := parts.functions.getD [] }

def shape : Shape Snapshot Parts := ⟨"DatabaseSchema".toList, fields, {}, ofParts⟩

def decode (t : Text) : Except Fault Snapshot := readWhole shape.read t

end Snapshot

def decodeMessage (m : Mismatch) : Text := "Invalid schema snapshot: ".toList ++ m.message

end SqlAssist
