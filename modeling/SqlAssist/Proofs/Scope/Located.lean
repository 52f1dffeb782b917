import Mathlib.Data.List.Basic
import SqlAssist.Proofs.Scope.Alias
import SqlAssist.Proofs.Snapshot.Lookup
import SqlAssist.Suggestion

/-! # Tables in scope are looked up again

A table in scope carries the schema and the name of the object that its item resolved to, and not
the object. Whoever needs the object looks it up again under that name: the columns in scope and the
neighbours of the query do. Since a resolved object stays resolved under its own name, they get the
object at the very place that the item resolved to, also where the snapshot holds an equal one. -/
namespace SqlAssist.Scope

/-- A table in scope, with the place of the object that its item resolved to. -/
structure Located (snapshot : Snapshot) where
  member : ScopedTable
  place : Fin snapshot.objects.length

def Located.table {snapshot : Snapshot} (located : Located snapshot) : Table :=
  snapshot.objects[located.place].table

def locate? (snapshot : Snapshot) (item : Item) : Option (Located snapshot) :=
  (snapshot.objectPlace? item.name.qualifier item.name.name).map fun place =>
    let table := (snapshot.objects.get place).table
    { member :=
        { schema := table.schema
          table := table.name
          knownAs := item.alias?.getD table.name
          hasAlias := item.alias?.isSome }
      place := place }

/-- The tables that a query names, with their places. Of several with the same alias the first one
counts. -/
def located (query : Text) (snapshot : Snapshot) : List (Located snapshot) :=
  distinctBy (fun found => Text.lower found.member.knownAs)
    ((Item.ofQuery query).filterMap (locate? snapshot))

/-- The tables outside the query that keys lead to from `table`, which is known as `knownAs`. -/
def followed (tables : List ScopedTable) (snapshot : Snapshot) (knownAs : Text) (table : Table) :
    List RelatedTable :=
  snapshot.foreignKeys.filterMap fun key =>
    match follow? snapshot table key with
    | some (other, direction) =>
      if isInQuery tables other then none else some ⟨other, some ⟨key, knownAs, direction⟩⟩
    | none => none

variable {query : Text} {snapshot : Snapshot} {item : Item} {found : Located snapshot}

theorem resolve?_eq_map_locate? :
    resolve? snapshot item = (locate? snapshot item).map Located.member := by
  rw [resolve?, Snapshot.find?_eq_map_place, locate?, Option.map_map, Option.map_map]
  rfl

theorem tables_eq_map_located :
    tables query snapshot = (located query snapshot).map Located.member := by
  have hresolve : resolve? snapshot = fun item => (locate? snapshot item).map Located.member :=
    funext fun _ => resolve?_eq_map_locate?
  rw [tables, hresolve, ← List.map_filterMap, distinctBy_map, located]

theorem flatMap_tables {α : Type} (f : ScopedTable → List α) :
    (tables query snapshot).flatMap f =
      (located query snapshot).flatMap fun found => f found.member := by
  rw [tables_eq_map_located, List.flatMap_map]

theorem exists_item_of_mem_located (h : found ∈ located query snapshot) :
    ∃ item ∈ Item.ofQuery query, locate? snapshot item = some found := by
  obtain ⟨front, back, hsplit, _⟩ := eq_append_of_mem_distinctBy h
  refine List.mem_filterMap.mp ?_
  rw [hsplit]
  exact List.mem_append_right front List.mem_cons_self

theorem of_locate?_eq_some (h : locate? snapshot item = some found) :
    snapshot.objectPlace? item.name.qualifier item.name.name = some found.place ∧
      found.member.schema = found.table.schema ∧ found.member.table = found.table.name := by
  obtain ⟨place, hplace, rfl⟩ := Option.map_eq_some_iff.mp h
  exact ⟨hplace, rfl, rfl⟩

theorem objectPlace?_of_mem_located (h : found ∈ located query snapshot) :
    snapshot.objectPlace? (some found.member.schema) found.member.table = some found.place := by
  obtain ⟨item, _, hitem⟩ := exists_item_of_mem_located h
  obtain ⟨hplace, hschema, htable⟩ := of_locate?_eq_some hitem
  rw [hschema, htable]
  exact Snapshot.objectPlace?_self hplace

theorem find?_of_mem_located (h : found ∈ located query snapshot) :
    snapshot.find? (some found.member.schema) found.member.table = some found.table := by
  rw [Snapshot.find?_eq_map_place, objectPlace?_of_mem_located h]
  rfl

theorem columnsInScope_eq_flatMap_located (qualify : Bool) :
    Suggestion.columnsInScope (tables query snapshot) snapshot qualify =
      (located query snapshot).flatMap fun found =>
        found.table.columns.map fun column => Suggestion.ofColumn column found.table
          (if Suggestion.qualifies (tables query snapshot) qualify then some found.member.knownAs
            else none) := by
  rw [Suggestion.columnsInScope, flatMap_tables]
  refine List.flatMap_congr fun found hfound => ?_
  rw [find?_of_mem_located hfound]

theorem flatMap_neighbours_eq_flatMap_located (others : List ScopedTable) :
    (tables query snapshot).flatMap (neighbours others snapshot) =
      (located query snapshot).flatMap fun found =>
        followed others snapshot found.member.knownAs found.table := by
  rw [flatMap_tables]
  refine List.flatMap_congr fun found hfound => ?_
  rw [neighbours, find?_of_mem_located hfound]
  rfl

/-- The tables in scope are looked up again as the objects that their items resolved to. -/
structure StaysResolved (query : Text) (snapshot : Snapshot) : Prop where
  tables_eq : tables query snapshot = (located query snapshot).map Located.member
  /-- Each comes from an item, and its place is that of the object the item names. -/
  resolved : ∀ found ∈ located query snapshot, ∃ item ∈ Item.ofQuery query,
    resolve? snapshot item = some found.member ∧
      snapshot.objectPlace? item.name.qualifier item.name.name = some found.place
  /-- Under its own qualified name the object at that place is found. -/
  found_again : ∀ found ∈ located query snapshot,
    snapshot.objectPlace? (some found.member.schema) found.member.table = some found.place
  columns : ∀ qualify, Suggestion.columnsInScope (tables query snapshot) snapshot qualify =
    (located query snapshot).flatMap fun found =>
      found.table.columns.map fun column => Suggestion.ofColumn column found.table
        (if Suggestion.qualifies (tables query snapshot) qualify then some found.member.knownAs
          else none)
  related : related (tables query snapshot) snapshot =
    match (located query snapshot).flatMap fun found =>
      followed (tables query snapshot) snapshot found.member.knownAs found.table with
    | [] => (snapshot.tables.filter fun table => !isInQuery (tables query snapshot) table).map
        (⟨·, none⟩)
    | entries => entries

/-- Answering to a name is reflexive and transitive. So what a look-up finds stays found under its
own qualified name, and the tables in scope are looked up again as what their items resolved to. -/
theorem staysResolved (query : Text) (snapshot : Snapshot) :
    (∀ a, namesMatch a a = true) ∧
      (∀ a b c, namesMatch a b = true → namesMatch b c = true → namesMatch a c = true) ∧
      snapshot.StaysFound ∧ StaysResolved query snapshot := by
  refine ⟨namesMatch_refl, fun _ _ _ => namesMatch_trans, snapshot.staysFound, ?_⟩
  exact {
    tables_eq := tables_eq_map_located
    resolved := by
      intro found hfound
      obtain ⟨item, hmem, hitem⟩ := exists_item_of_mem_located hfound
      refine ⟨item, hmem, ?_, (of_locate?_eq_some hitem).1⟩
      rw [resolve?_eq_map_locate?, hitem, Option.map_some]
    found_again := fun _ => objectPlace?_of_mem_located
    columns := columnsInScope_eq_flatMap_located
    related := by
      have hentries : (tables query snapshot).flatMap (neighbours (tables query snapshot) snapshot) =
          (located query snapshot).flatMap fun found =>
            followed (tables query snapshot) snapshot found.member.knownAs found.table :=
        flatMap_neighbours_eq_flatMap_located _
      exact hentries ▸ rfl }

end SqlAssist.Scope
