import SqlAssist.Proofs.Identifier
import SqlAssist.Proofs.Reference.Written
import SqlAssist.Proofs.Snapshot.Lookup
import SqlAssist.Proofs.Stability
import SqlAssist.Scope

/-! # Tables and their aliases

The tables in scope and the table behind an alias are read from the same items of a query, but in
different ways: one resolves every item and then keeps the first of each name, the other takes the
first item with the alias and then resolves it. The main result says when the two agree on the name
that a table in scope is known by. -/
namespace SqlAssist

theorem ObjectName.not_mem_of_read? {letters : Letters} {t rest : Text} {name : ObjectName}
    (h : ObjectName.read? letters t = some (name, rest)) : ']' ∉ name.name := by
  simp only [read?, Option.bind_eq_bind, Option.bind_eq_some_iff, Prod.exists] at h
  obtain ⟨first, behind, hfirst, h⟩ := h
  have hlone := (Identifier.isWritten_of_read? hfirst).not_mem_strip
  split at h
  · split at h
    · rename_i hsecond
      obtain ⟨rfl, _⟩ := Prod.mk.inj (Option.some.inj h)
      exact (Identifier.isWritten_of_read? hsecond).not_mem_strip
    · obtain ⟨rfl, _⟩ := Prod.mk.inj (Option.some.inj h)
      exact hlone
  · obtain ⟨rfl, _⟩ := Prod.mk.inj (Option.some.inj h)
    exact hlone

namespace Item

/-- Neither the name nor the alias of the item holds a closing bracket. -/
structure IsBare (item : Item) : Prop where
  notMem_name : ']' ∉ item.name.name
  notMem_alias : ∀ a ∈ item.alias?, ']' ∉ a

theorem isWritten_of_readAliasName? {t name rest : Text}
    (h : readAliasName? t = some (name, rest)) : Identifier.IsWritten .folded name := by
  simp only [readAliasName?, Option.bind_eq_bind, Option.bind_eq_some_iff,
    Option.or_eq_some_iff] at h
  obtain ⟨named, _, ⟨behind, _, hread⟩ | ⟨_, hread⟩⟩ := h
  · exact Identifier.isWritten_of_read? hread
  · exact Identifier.isWritten_of_read? hread

theorem not_mem_of_readAlias {t a : Text} (h : a ∈ (readAlias t).1) : ']' ∉ a := by
  unfold readAlias at h
  split at h
  · rename_i name rest hread
    split at h
    · cases h
    · obtain rfl := Option.some.inj h
      exact (isWritten_of_readAliasName? hread).not_mem_strip
  · cases h

theorem not_mem_of_readNext? {t rest : Text} {name : ObjectName}
    (h : readNext? t = some (name, rest)) : ']' ∉ name.name := by
  simp only [readNext?, Option.bind_eq_bind, Option.bind_eq_some_iff] at h
  obtain ⟨_, _, hread⟩ := h
  exact ObjectName.not_mem_of_read? hread

theorem isBare_readAlias {name : ObjectName} (hname : ']' ∉ name.name) (rest : Text) :
    IsBare ⟨name, (readAlias rest).1⟩ :=
  ⟨hname, fun _ halias => not_mem_of_readAlias halias⟩

theorem isBare_of_mem_listFrom {name : ObjectName} {rest : Text} {item : Item}
    (hname : ']' ∉ name.name) (h : item ∈ listFrom name rest) : item.IsBare := by
  fun_induction listFrom name rest with
  | case1 name rest hcall => cases h
  | case2 name rest hcall next behind hnext ih =>
    rcases List.mem_cons.mp h with rfl | h
    · exact isBare_readAlias hname rest
    · exact ih (not_mem_of_readNext? hnext) h
  | case3 name rest hcall hnext =>
    obtain rfl := List.mem_singleton.mp h
    exact isBare_readAlias hname rest

theorem isBare_of_mem_ofQuery {query : Text} {item : Item} (h : item ∈ ofQuery query) :
    item.IsBare := by
  obtain ⟨hit, hhit, hmem⟩ := List.mem_flatMap.mp h
  obtain ⟨_, left, hread⟩ := Pattern.mem_hits hhit
  obtain ⟨_, hname⟩ := anchored_eq_some_iff.mp hread
  exact isBare_of_mem_listFrom (ObjectName.not_mem_of_read? hname) hmem

def goesBy (name : Text) (item : Item) : Bool := item.alias?.any (namesMatch · name)

theorem goesBy_iff {name : Text} {item : Item} :
    item.goesBy name = true ↔ ∃ a, item.alias? = some a ∧ namesMatch a name = true := by
  cases h : item.alias? with
  | none => simp [goesBy, h]
  | some a => simp [goesBy, h]

end Item

namespace Scope

variable {query : Text} {snapshot : Snapshot} {t : ScopedTable} {item : Item}

theorem resolve?_eq_some_iff :
    resolve? snapshot item = some t ↔
      ∃ table, snapshot.find? item.name.qualifier item.name.name = some table ∧
        t = ⟨table.schema, table.name, item.alias?.getD table.name, item.alias?.isSome⟩ := by
  simp only [resolve?, Option.map_eq_some_iff, eq_comm (a := t)]

/-- A table in scope comes from an item that resolves to it, and no earlier item resolves to a table
known by the same name. -/
theorem exists_item_of_mem_tables (h : t ∈ tables query snapshot) :
    ∃ before item after, Item.ofQuery query = before ++ item :: after ∧
      resolve? snapshot item = some t ∧
      ∀ other ∈ before, ∀ u, resolve? snapshot other = some u →
        Text.lower u.knownAs ≠ Text.lower t.knownAs := by
  obtain ⟨kept, rest, hsplit, hkey⟩ := eq_append_of_mem_distinctBy h
  obtain ⟨front, back, hitems, rfl, hback⟩ := List.filterMap_eq_append_iff.mp hsplit
  obtain ⟨skipped, item, after, rfl, hskipped, hitem, _⟩ := List.filterMap_eq_cons_iff.mp hback
  refine ⟨front ++ skipped, item, after, by rw [hitems, List.append_assoc], hitem, ?_⟩
  intro other hother u hu
  rcases List.mem_append.mp hother with hfront | hskip
  · exact hkey u (List.mem_filterMap.mpr ⟨other, hfront, hu⟩)
  · rw [hskipped other hskip] at hu
    cases hu

/-- What the first item with a name as its alias stands for. -/
def aliased? (query name : Text) (snapshot : Snapshot) : Option Table :=
  ((Item.ofQuery query).find? (Item.goesBy name)).bind fun item =>
    snapshot.find? item.name.qualifier item.name.name

theorem tableOfAlias?_of_not_mem {name : Text} (h : ']' ∉ name) :
    tableOfAlias? query name snapshot =
      (aliased? query name snapshot).or (snapshot.find? none name) := by
  simp only [tableOfAlias?, Identifier.strip_of_not_mem h]
  rfl

theorem not_mem_knownAs (hbare : item.IsBare) (h : resolve? snapshot item = some t) :
    ']' ∉ t.knownAs := by
  obtain ⟨table, hfind, rfl⟩ := resolve?_eq_some_iff.mp h
  cases halias : item.alias? with
  | some a => exact hbare.notMem_alias a halias
  | none =>
    have hname := (Table.isNamed_iff.mp (Snapshot.isNamed_of_find? hfind)).1
    exact not_mem_of_namesMatch hname hbare.notMem_name

/-- An item in front of which nothing resolves to its name is found by its alias, if anything is. -/
theorem aliased?_eq_of_isSome {before after : List Item} {name : Text}
    (hitems : Item.ofQuery query = before ++ item :: after) (hgoes : item.goesBy name = true)
    (hbefore : ∀ other ∈ before, ∀ u, resolve? snapshot other = some u →
      Text.lower u.knownAs ≠ Text.lower name)
    (h : (aliased? query name snapshot).isSome) :
    aliased? query name snapshot = snapshot.find? item.name.qualifier item.name.name := by
  unfold aliased? at h ⊢
  rw [hitems, List.find?_append] at h ⊢
  cases hfirst : before.find? (Item.goesBy name) with
  | none => rw [Option.none_or, List.find?_cons_of_pos hgoes, Option.bind_some]
  | some other =>
    rw [hfirst, Option.some_or, Option.bind_some] at h
    obtain ⟨table, hfind⟩ := Option.isSome_iff_exists.mp h
    obtain ⟨a, halias, hmatch⟩ := Item.goesBy_iff.mp (List.find?_some hfirst)
    have hlower := lower_eq_of_namesMatch hmatch
    have hresolve := resolve?_eq_some_iff.mpr ⟨table, hfind, rfl⟩
    rw [halias] at hresolve
    exact absurd hlower (hbefore other (List.mem_of_find?_eq_some hfirst) _ hresolve)

/-- How a table in scope, `table` in the snapshot, is reached by the name it is known by. -/
structure Reached (query : Text) (snapshot : Snapshot) (t : ScopedTable) (table : Table) :
    Prop where
  found : snapshot.find? (some t.schema) t.table = some table
  /-- Its alias reaches it, if the first item with that alias stands for anything. -/
  of_alias : t.hasAlias = true → (aliased? query t.knownAs snapshot).isSome →
    tableOfAlias? query t.knownAs snapshot = some table
  /-- Without an alias its name reaches the first object of that name, if no alias is meant. This is
  the table itself just when it is in the same schema. -/
  of_name : t.hasAlias = false → aliased? query t.knownAs snapshot = none →
    ∃ first, tableOfAlias? query t.knownAs snapshot = some first ∧
      (first = table ↔ namesMatch first.schema t.schema = true)
  alias_first : tableOfAlias? query t.knownAs snapshot =
    (aliased? query t.knownAs snapshot).or (snapshot.find? none t.knownAs)

/-- How every table in scope is reached: by its alias, unless an earlier item with that alias is not
in the snapshot; by its name, unless an alias or an object of another schema takes it. -/
theorem exists_reached (h : t ∈ tables query snapshot) :
    ∃ table, Reached query snapshot t table := by
  obtain ⟨before, item, after, hitems, hresolve, hbefore⟩ := exists_item_of_mem_tables h
  have hbare : item.IsBare := Item.isBare_of_mem_ofQuery (by rw [hitems]; simp)
  have hreads : tableOfAlias? query t.knownAs snapshot =
      (aliased? query t.knownAs snapshot).or (snapshot.find? none t.knownAs) :=
    tableOfAlias?_of_not_mem (not_mem_knownAs hbare hresolve)
  obtain ⟨table, hfind, rfl⟩ := resolve?_eq_some_iff.mp hresolve
  refine ⟨table, Snapshot.find?_self hfind, ?_, ?_, hreads⟩
  · intro hexplicit hsome
    obtain ⟨a, halias⟩ := Option.isSome_iff_exists.mp hexplicit
    have hgoes : item.goesBy (item.alias?.getD table.name) = true := by
      refine Item.goesBy_iff.mpr ⟨a, halias, ?_⟩
      rw [halias]
      exact namesMatch_refl a
    rw [hreads, aliased?_eq_of_isSome hitems hgoes hbefore hsome, hfind, Option.some_or]
  · intro hbareName hnone
    have halias : item.alias? = none := by simpa using hbareName
    obtain ⟨first, hfirst, hiff⟩ := Snapshot.exists_find?_none hfind
    refine ⟨first, ?_, hiff⟩
    rw [hreads, hnone, Option.none_or, halias]
    exact hfirst

/-- An alias of a table whose schema is not the first one with that name, and a table without an
alias behind it. -/
theorem exists_reached_two_schemas :
    let query := "SELECT * FROM sales.Users [s], Orders".toList
    let snapshot : Snapshot :=
      { tables := [⟨"dbo".toList, "Users".toList, []⟩, ⟨"dbo".toList, "Orders".toList, []⟩,
          ⟨"sales".toList, "Users".toList, []⟩] }
    let users : ScopedTable := ⟨"sales".toList, "Users".toList, "s".toList, true⟩
    let orders : ScopedTable := ⟨"dbo".toList, "Orders".toList, "Orders".toList, false⟩
    (users ∈ tables query snapshot ∧ (aliased? query users.knownAs snapshot).isSome ∧
        ∃ table, Reached query snapshot users table) ∧
      orders ∈ tables query snapshot ∧ aliased? query orders.knownAs snapshot = none ∧
        ∃ table, Reached query snapshot orders table := by
  refine ⟨⟨?_, ?_, exists_reached ?_⟩, ?_, ?_, exists_reached ?_⟩
  all_goals decide +kernel

/-- Every table in scope is reached by the name it is known by. -/
def ReachesAll (query : Text) (snapshot : Snapshot) : Prop :=
  ∀ t ∈ tables query snapshot,
    tableOfAlias? query t.knownAs snapshot = snapshot.find? (some t.schema) t.table

instance (query : Text) (snapshot : Snapshot) : Decidable (ReachesAll query snapshot) :=
  inferInstanceAs (Decidable (∀ t ∈ tables query snapshot,
    tableOfAlias? query t.knownAs snapshot = snapshot.find? (some t.schema) t.table))

/-- A table is missed when an earlier item with its alias is not in the snapshot, when its name is
the alias of another table, and when an object of its name comes first in another schema. -/
theorem not_reachesAll :
    let snapshot : Snapshot :=
      { tables := [⟨"dbo".toList, "Users".toList, []⟩, ⟨"dbo".toList, "Orders".toList, []⟩,
          ⟨"sales".toList, "Users".toList, []⟩] }
    ¬ ReachesAll "SELECT * FROM Ghost x JOIN Users x".toList snapshot ∧
      ¬ ReachesAll "SELECT * FROM Users JOIN Orders Users".toList snapshot ∧
      ¬ ReachesAll "SELECT * FROM sales.Users".toList snapshot := by
  decide +kernel

end Scope

end SqlAssist
