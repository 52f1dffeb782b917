import SqlAssist.Text

/-! # Snapshots of a database

What is known of a database: its tables, views, foreign keys and routines. Names are equal when they
differ in the case of ASCII letters only; a name that is not ASCII is moreover compared by its full
lower case, and as the first of the two names decides, the comparison is not symmetric. Tables are
looked at before views, and of several objects that answer to a name the first one is meant. -/
namespace SqlAssist

/-- Whether the name `a` answers to `b`. -/
def namesMatch (a b : Text) : Bool :=
  Text.eqIgnoreCase a b || (!Text.isAscii a && Text.lower a == Text.lower b)

theorem namesMatch_refl (a : Text) : namesMatch a a = true := by
  simp [namesMatch]

structure Column where
  name : Text
  dataType : Text
  nullable : Bool := false
  isPrimaryKey : Bool := false
  isForeignKey : Bool := false
  maxLength : Option Int32 := none
  precision : Option UInt8 := none
  scale : Option UInt8 := none
deriving DecidableEq, Repr

namespace Column

def ofType (name dataType : Text) : Column := { name, dataType, nullable := true }

def asPrimaryKey (column : Column) : Column :=
  { column with isPrimaryKey := true, nullable := false }

def asForeignKey (column : Column) : Column := { column with isForeignKey := true }

def withArguments (column : Column) (arguments : Text) : Text :=
  column.dataType ++ '(' :: arguments ++ [')']

/-- The type as it is shown: with its length, where minus one stands for the longest there is, or
else with its precision and a scale above zero. -/
def describe (column : Column) : Text :=
  let precise :=
    match column.precision, column.scale with
    | some p, some s =>
      if 0 < s then column.withArguments (Text.ofNat p.toNat ++ ',' :: Text.ofNat s.toNat)
      else column.withArguments (Text.ofNat p.toNat)
    | some p, none => column.withArguments (Text.ofNat p.toNat)
    | none, _ => column.dataType
  match column.maxLength with
  | some length =>
    if length.toInt = -1 then column.withArguments "max".toList
    else if 0 < length.toInt then column.withArguments (Text.ofInt length.toInt)
    else precise
  | none => precise

end Column

structure Table where
  schema : Text
  name : Text
  columns : List Column := []
deriving DecidableEq, Repr

/-- Whether a schema answers to a qualifier; a missing qualifier is answered by every schema. -/
def qualifierMatches (schema : Text) : Option Text → Bool
  | none => true
  | some qualifier => namesMatch schema qualifier

namespace Table

/-- Whether the table answers to a name with an optional qualifier. -/
def isNamed (table : Table) (qualifier : Option Text) (name : Text) : Bool :=
  namesMatch table.name name && qualifierMatches table.schema qualifier

def column? (table : Table) (name : Text) : Option Column :=
  table.columns.find? (fun column => namesMatch column.name name)

def fullName (table : Table) : Text := table.schema ++ '.' :: table.name

theorem isNamed_self (table : Table) : table.isNamed (some table.schema) table.name = true := by
  simp [isNamed, qualifierMatches, namesMatch_refl]

end Table

/-- A foreign key of one column, from the column that refers to the column referred to. -/
structure ForeignKey where
  fromSchema : Text
  fromTable : Text
  fromColumn : Text
  toSchema : Text
  toTable : Text
  toColumn : Text
  constraintName : Option Text := none
deriving DecidableEq, Repr

namespace ForeignKey

def startsAt (key : ForeignKey) (table : Table) : Bool :=
  table.isNamed (some key.fromSchema) key.fromTable

def endsAt (key : ForeignKey) (table : Table) : Bool :=
  table.isNamed (some key.toSchema) key.toTable

def display (key : ForeignKey) : Text :=
  match key.constraintName with
  | some name => name
  | none =>
    Text.join ['.'] [key.fromSchema, key.fromTable, key.fromColumn] ++ " -> ".toList ++
      Text.join ['.'] [key.toSchema, key.toTable, key.toColumn]

end ForeignKey

structure Routine where
  schema : Text
  name : Text
deriving DecidableEq, Repr

/-- Whether the routine answers to a name with an optional qualifier. -/
def Routine.isNamed (routine : Routine) (qualifier : Option Text) (name : Text) : Bool :=
  namesMatch routine.name name && qualifierMatches routine.schema qualifier

structure SchemaObject where
  table : Table
  isView : Bool
deriving DecidableEq, Repr

structure Snapshot where
  tables : List Table := []
  views : List Table := []
  foreignKeys : List ForeignKey := []
  procedures : List Routine := []
  functions : List Routine := []
deriving DecidableEq, Repr

namespace Snapshot

def empty : Snapshot := {}

/-- Whether neither a table nor a view is known: the structure has not been loaded yet. -/
def isEmpty (snapshot : Snapshot) : Bool := snapshot.tables.isEmpty && snapshot.views.isEmpty

/-- Tables first, then views. -/
def objects (snapshot : Snapshot) : List SchemaObject :=
  snapshot.tables.map (⟨·, false⟩) ++ snapshot.views.map (⟨·, true⟩)

/-- The first table that answers to a name. -/
def findTable? (snapshot : Snapshot) (qualifier : Option Text) (name : Text) : Option Table :=
  snapshot.tables.find? (·.isNamed qualifier name)

def findObject? (snapshot : Snapshot) (qualifier : Option Text) (name : Text) :
    Option SchemaObject :=
  snapshot.objects.find? (·.table.isNamed qualifier name)

/-- The first table or view that answers to a name, without which of the two it is. -/
def find? (snapshot : Snapshot) (qualifier : Option Text) (name : Text) : Option Table :=
  (snapshot.findObject? qualifier name).map SchemaObject.table

def hasFunction (snapshot : Snapshot) (qualifier : Option Text) (name : Text) : Bool :=
  snapshot.functions.any (·.isNamed qualifier name)

def addTable (snapshot : Snapshot) (table : Table) : Snapshot :=
  { snapshot with tables := snapshot.tables ++ [table] }

def addView (snapshot : Snapshot) (view : Table) : Snapshot :=
  { snapshot with views := snapshot.views ++ [view] }

def addForeignKey (snapshot : Snapshot) (key : ForeignKey) : Snapshot :=
  { snapshot with foreignKeys := snapshot.foreignKeys ++ [key] }

def addFunction (snapshot : Snapshot) (function : Routine) : Snapshot :=
  { snapshot with functions := snapshot.functions ++ [function] }

theorem find?_of_findTable? {snapshot : Snapshot} {qualifier : Option Text} {name : Text}
    {table : Table} (h : snapshot.findTable? qualifier name = some table) :
    snapshot.find? qualifier name = some table := by
  have hfirst : (snapshot.tables.map (SchemaObject.mk · false)).find?
      (·.table.isNamed qualifier name) = some ⟨table, false⟩ := by
    rw [List.find?_map]
    exact congrArg (Option.map (SchemaObject.mk · false)) h
  rw [find?, findObject?, objects, List.find?_append, hfirst, Option.some_or, Option.map_some]

end Snapshot

end SqlAssist
