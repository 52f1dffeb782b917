import SqlAssist.Json.Basic
import SqlAssist.Snapshot.Basic

/-! # Writing snapshots

Snapshots are written as JSON objects with all their fields; sizes of columns and names of
constraints that are not known are left out. -/
namespace SqlAssist

open Json

def Column.encode (column : Column) : Text :=
  writeObject
    ([("name".toList, writeText column.name), ("type".toList, writeText column.dataType),
      ("nullable".toList, writeBool column.nullable),
      ("isPrimaryKey".toList, writeBool column.isPrimaryKey),
      ("isForeignKey".toList, writeBool column.isForeignKey)] ++
      optionalMember "maxLength".toList (fun n => Text.ofInt n.toInt) column.maxLength ++
      optionalMember "precision".toList (fun n => Text.ofNat n.toNat) column.precision ++
      optionalMember "scale".toList (fun n => Text.ofNat n.toNat) column.scale)

def Table.encode (table : Table) : Text :=
  writeObject
    [("schema".toList, writeText table.schema), ("name".toList, writeText table.name),
     ("columns".toList, writeList Column.encode table.columns)]

def ForeignKey.encode (key : ForeignKey) : Text :=
  writeObject
    ([("fromSchema".toList, writeText key.fromSchema),
      ("fromTable".toList, writeText key.fromTable),
      ("fromColumn".toList, writeText key.fromColumn),
      ("toSchema".toList, writeText key.toSchema),
      ("toTable".toList, writeText key.toTable),
      ("toColumn".toList, writeText key.toColumn)] ++
      optionalMember "constraintName".toList writeText key.constraintName)

def Routine.encode (routine : Routine) : Text :=
  writeObject
    [("schema".toList, writeText routine.schema), ("name".toList, writeText routine.name)]

def Snapshot.encode (snapshot : Snapshot) : Text :=
  writeObject
    [("tables".toList, writeList Table.encode snapshot.tables),
     ("views".toList, writeList Table.encode snapshot.views),
     ("foreignKeys".toList, writeList ForeignKey.encode snapshot.foreignKeys),
     ("storedProcedures".toList, writeList Routine.encode snapshot.procedures),
     ("functions".toList, writeList Routine.encode snapshot.functions)]

end SqlAssist
