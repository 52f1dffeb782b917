import SqlAssist.Reference
import SqlAssist.Script
import SqlAssist.Search
import SqlAssist.Snapshot.Basic

/-! # Tables in scope

An item is a table name with an optional alias; behind FROM and JOIN a list of items separated by
commas is followed as far as it goes. The tables in scope are those of a snapshot that the items of a
query name, and foreign keys lead from them to tables that can be joined next. -/
namespace SqlAssist

structure Item where
  name : ObjectName
  alias? : Option Text
deriving DecidableEq, Repr

namespace Item

/-- Reads the name behind white space and an optional AS. When nothing can be read behind AS, it is
read as the name itself. -/
def readAliasName? (t : Text) : Option (Text × Text) := do
  let named ← Text.skipBlanks? t
  let behindAs := (readWord? "as".toList named).bind Text.skipBlanks?
  (behindAs.bind (Identifier.read? .folded)).or (Identifier.read? .folded named)

/-- The alias that a text begins with, and the text behind it. Words that cannot be aliases are not
read. -/
def readAlias (t : Text) : Option Text × Text :=
  match readAliasName? t with
  | some (name, rest) =>
    if isAliasStopWord name then (none, t) else (some (Identifier.strip name), rest)
  | none => (none, t)

def readNext? (t : Text) : Option (ObjectName × Text) := do
  let rest ← Text.skipChar? ',' (Text.trimStart t)
  ObjectName.read? .exact (Text.trimStart rest)

theorem readAliasName?_length {t name rest : Text} (h : readAliasName? t = some (name, rest)) :
    rest.length < t.length := by
  simp only [readAliasName?, Option.bind_eq_bind, Option.bind_eq_some_iff,
    Option.or_eq_some_iff] at h
  obtain ⟨named, hn, h⟩ := h
  have h1 := Text.skipBlanks?_length hn
  rcases h with ⟨behind, ⟨word, hw, hb⟩, hr⟩ | ⟨_, hr⟩
  · have h2 := readWord?_length hw
    have h3 := Text.skipBlanks?_length hb
    have h4 := Identifier.read?_length hr
    omega
  · have h2 := Identifier.read?_length hr
    omega

theorem readAlias_length (t : Text) : (readAlias t).2.length ≤ t.length := by
  unfold readAlias
  split
  · rename_i h
    have := readAliasName?_length h
    split
    · simp
    · simp
      omega
  · simp

theorem readNext?_length {t rest : Text} {name : ObjectName} (h : readNext? t = some (name, rest)) :
    rest.length < t.length := by
  simp only [readNext?, Option.bind_eq_bind, Option.bind_eq_some_iff] at h
  obtain ⟨behind, hs, h⟩ := h
  have h1 := Text.trimStart_length_le t
  rw [Text.skipChar?_eq_some_iff] at hs
  rw [hs] at h1
  have h2 := ObjectName.read?_length h
  have h3 := Text.trimStart_length_le behind
  simp at h1
  omega

/-- The items of a list whose first name is `name` and which goes on with `rest`. A name in front of
an argument list is a function and ends the list. -/
def listFrom (name : ObjectName) (rest : Text) : List Item :=
  if isCall rest then []
  else
    match _h : readNext? (readAlias rest).2 with
    | some (next, behind) => ⟨name, (readAlias rest).1⟩ :: listFrom next behind
    | none => [⟨name, (readAlias rest).1⟩]
termination_by rest.length
decreasing_by
  have h1 := readNext?_length _h
  have h2 := readAlias_length rest
  omega

/-- Every item behind a FROM or JOIN of a query. Comments are blanked first. -/
def ofQuery (query : Text) : List Item :=
  ((anchored (ObjectName.read? .folded)).hits (mask query)).flatMap fun hit =>
    listFrom hit.value.1 hit.rest

end Item

/-- A table of the snapshot that a query names. Without an alias it is known by its name. -/
structure ScopedTable where
  schema : Text
  table : Text
  knownAs : Text
  hasAlias : Bool
deriving DecidableEq, Repr

/-- The elements of a list whose key no earlier element has. -/
def distinctBy {α β : Type} [BEq β] (key : α → β) : List α → List α
  | [] => []
  | a :: l => a :: (distinctBy key l).filter (fun b => key b != key a)

namespace Scope

/-- The table that an item stands for. -/
def resolve? (snapshot : Snapshot) (item : Item) : Option ScopedTable :=
  (snapshot.find? item.name.qualifier item.name.name).map fun table =>
    { schema := table.schema
      table := table.name
      knownAs := item.alias?.getD table.name
      hasAlias := item.alias?.isSome }

/-- The tables of the snapshot that a query names, in the order of the query. Of several with the
same alias the first one counts. -/
def tables (query : Text) (snapshot : Snapshot) : List ScopedTable :=
  distinctBy (fun table => Text.lower table.knownAs)
    ((Item.ofQuery query).filterMap (resolve? snapshot))

/-- The table or view that an alias stands for in a query: what the first item with that alias
names, or else what answers to the alias itself. -/
def tableOfAlias? (query name : Text) (snapshot : Snapshot) : Option Table :=
  let name := Identifier.strip name
  let item? := (Item.ofQuery query).find? fun item => item.alias?.any (namesMatch · name)
  (item?.bind fun item => snapshot.find? item.name.qualifier item.name.name).or
    (snapshot.find? none name)

def updateName : Pattern ObjectName := fun before t =>
  if noWord before then
    ((readWord? "update".toList t).bind Text.skipBlanks?).bind (ObjectName.read? .folded)
  else none

/-- The table that a query updates: a table of that name, or what the name is an alias of. -/
def updateTarget? (query : Text) (snapshot : Snapshot) : Option Table := do
  let hit ← updateName.first? query
  (snapshot.findTable? hit.value.qualifier hit.value.name).or
    (tableOfAlias? query hit.value.name snapshot)

def tablesInScope (query : Text) (snapshot : Snapshot) : List ScopedTable :=
  match tables query snapshot with
  | [] =>
    ((updateTarget? query snapshot).map fun table =>
      ({ schema := table.schema, table := table.name, knownAs := table.name, hasAlias := false } :
        ScopedTable)).toList
  | found => found

end Scope

inductive Direction where
  | outgoing
  | incoming
deriving DecidableEq, Repr

def Direction.label : Direction → Text
  | .outgoing => "references".toList
  | .incoming => "referenced by".toList

/-- How a table is joined to one of the query, which is known as `knownAs` there. -/
structure Relation where
  key : ForeignKey
  knownAs : Text
  direction : Direction
deriving DecidableEq, Repr

structure RelatedTable where
  table : Table
  relation? : Option Relation
deriving DecidableEq, Repr

namespace Relation

def joinedColumn (relation : Relation) : Text :=
  match relation.direction with
  | .outgoing => relation.key.toColumn
  | .incoming => relation.key.fromColumn

def queryColumn (relation : Relation) : Text :=
  match relation.direction with
  | .outgoing => relation.key.fromColumn
  | .incoming => relation.key.toColumn

def condition (relation : Relation) (joined : Text) : Text :=
  Identifier.quote joined ++ '.' :: Identifier.quote relation.joinedColumn ++ " = ".toList ++
    Identifier.quote relation.knownAs ++ '.' :: Identifier.quote relation.queryColumn

end Relation

namespace Scope

/-- Whether a table answers to one of the tables of the query. -/
def isInQuery (tables : List ScopedTable) (table : Table) : Bool :=
  tables.any fun member => table.isNamed (some member.schema) member.table

/-- The other end of a key that starts or ends at `table`. A key that does both is followed from
its start. -/
def follow? (snapshot : Snapshot) (table : Table) (key : ForeignKey) :
    Option (Table × Direction) :=
  if key.startsAt table then
    (snapshot.findTable? (some key.toSchema) key.toTable).map (·, .outgoing)
  else if key.endsAt table then
    (snapshot.findTable? (some key.fromSchema) key.fromTable).map (·, .incoming)
  else none

/-- The tables that keys lead to from one table of the query, outside the query. -/
def neighbours (tables : List ScopedTable) (snapshot : Snapshot) (member : ScopedTable) :
    List RelatedTable :=
  match snapshot.find? (some member.schema) member.table with
  | none => []
  | some table =>
    snapshot.foreignKeys.filterMap fun key =>
      match follow? snapshot table key with
      | some (other, direction) =>
        if isInQuery tables other then none
        else some ⟨other, some ⟨key, member.knownAs, direction⟩⟩
      | none => none

/-- The tables to offer for a join. Without any that a key leads to, every table outside the query
is offered. -/
def related (tables : List ScopedTable) (snapshot : Snapshot) : List RelatedTable :=
  match tables.flatMap (neighbours tables snapshot) with
  | [] =>
    (snapshot.tables.filter fun table => !isInQuery tables table).map (⟨·, none⟩)
  | found => found

end Scope

end SqlAssist
