import SqlAssist.Proofs.Text
import SqlAssist.Snapshot.Basic

/-! # Looking a name up

Answering to a name is transitive, although it is not symmetric. Therefore what a snapshot finds under
any name, it also finds under that object's own qualified name. As a snapshot can hold the same object
twice, what a look-up finds is told by its place: the object that is found first under some name is
also the first one under its own qualified name. -/
namespace SqlAssist

theorem lower_eq_of_namesMatch {a b : Text} (h : namesMatch a b = true) :
    Text.lower a = Text.lower b := by
  rcases Bool.or_eq_true_iff.mp h with hcase | hfull
  · exact Text.lower_eq_of_eqIgnoreCase hcase
  · exact eq_of_beq (Bool.and_eq_true_iff.mp hfull).2

theorem namesMatch_trans {a b c : Text} (hab : namesMatch a b = true)
    (hbc : namesMatch b c = true) : namesMatch a c = true := by
  have hlower : Text.lower a = Text.lower c :=
    (lower_eq_of_namesMatch hab).trans (lower_eq_of_namesMatch hbc)
  cases hascii : Text.isAscii a with
  | false => simp [namesMatch, hascii, hlower]
  | true =>
    have hab' : Text.eqIgnoreCase a b = true := by simpa [namesMatch, hascii] using hab
    have hb : Text.isAscii b = true := by rw [← Text.isAscii_eq_of_eqIgnoreCase hab', hascii]
    have hbc' : Text.eqIgnoreCase b c = true := by simpa [namesMatch, hb] using hbc
    have hac : Text.eqIgnoreCase a c = true :=
      Text.eqIgnoreCase_iff.mpr
        ((Text.eqIgnoreCase_iff.mp hab').trans (Text.eqIgnoreCase_iff.mp hbc'))
    rw [namesMatch, hac, Bool.true_or]

theorem not_mem_of_namesMatch {a b : Text} (h : namesMatch a b = true) (hb : ']' ∉ b) :
    ']' ∉ a := by
  rwa [← Text.closeBracket_mem_lower_iff, lower_eq_of_namesMatch h,
    Text.closeBracket_mem_lower_iff]

theorem qualifierMatches_trans {a b : Text} {qualifier : Option Text}
    (hab : namesMatch a b = true) (hb : qualifierMatches b qualifier = true) :
    qualifierMatches a qualifier = true := by
  cases qualifier with
  | none => rfl
  | some qualifier => exact namesMatch_trans hab hb

namespace Table

theorem isNamed_iff {table : Table} {qualifier : Option Text} {name : Text} :
    table.isNamed qualifier name = true ↔
      namesMatch table.name name = true ∧ qualifierMatches table.schema qualifier = true :=
  Bool.and_eq_true_iff

/-- What answers to a table's qualified name answers to every name that the table answers to. -/
theorem isNamed_trans {a b : Table} {qualifier : Option Text} {name : Text}
    (hab : a.isNamed (some b.schema) b.name = true) (hb : b.isNamed qualifier name = true) :
    a.isNamed qualifier name = true := by
  obtain ⟨hname, hschema⟩ := isNamed_iff.mp hab
  obtain ⟨hname', hschema'⟩ := isNamed_iff.mp hb
  exact isNamed_iff.mpr
    ⟨namesMatch_trans hname hname', qualifierMatches_trans hschema hschema'⟩

end Table

/-- The first element with a property is also the first with a stronger one that it has. -/
theorem find?_of_imp {α : Type} {l : List α} {p q : α → Bool} {a : α}
    (h : l.find? p = some a) (ha : q a = true) (himp : ∀ b, q b = true → p b = true) :
    l.find? q = some a := by
  obtain ⟨_, s, r, hl, hs⟩ := List.find?_eq_some_iff_append.mp h
  refine List.find?_eq_some_iff_append.mpr ⟨ha, s, r, hl, ?_⟩
  intro b hb
  have hp := hs b hb
  cases hq : q b with
  | false => rfl
  | true =>
    rw [himp b hq] at hp
    cases hp

namespace Snapshot

theorem find?_eq (snapshot : Snapshot) (qualifier : Option Text) (name : Text) :
    snapshot.find? qualifier name =
      (snapshot.tables ++ snapshot.views).find? (·.isNamed qualifier name) := by
  rw [find?, findObject?, objects, List.find?_append, List.find?_append, List.find?_map,
    List.find?_map]
  simp only [Function.comp_def]
  cases snapshot.tables.find? (·.isNamed qualifier name) with
  | some table => rfl
  | none => cases snapshot.views.find? (·.isNamed qualifier name) <;> rfl

theorem isNamed_of_find? {snapshot : Snapshot} {qualifier : Option Text} {name : Text}
    {table : Table} (h : snapshot.find? qualifier name = some table) :
    table.isNamed qualifier name = true := by
  rw [find?_eq] at h
  exact List.find?_some (p := fun object => Table.isNamed object qualifier name) h

/-- What is found under some name is found under its own qualified name. -/
theorem find?_self {snapshot : Snapshot} {qualifier : Option Text} {name : Text} {table : Table}
    (h : snapshot.find? qualifier name = some table) :
    snapshot.find? (some table.schema) table.name = some table := by
  have hnamed := isNamed_of_find? h
  rw [find?_eq] at h ⊢
  exact find?_of_imp h table.isNamed_self fun b hb => Table.isNamed_trans hb hnamed

/-- A table that is found under some name has a first namesake in the snapshot. It is the table
itself just when it is in the same schema. -/
theorem exists_find?_none {snapshot : Snapshot} {qualifier : Option Text} {name : Text}
    {table : Table} (h : snapshot.find? qualifier name = some table) :
    ∃ first, snapshot.find? none table.name = some first ∧
      (first = table ↔ namesMatch first.schema table.schema = true) := by
  have hself := find?_self h
  rw [find?_eq] at hself
  have hnamed : table.isNamed none table.name = true :=
    Table.isNamed_iff.mpr ⟨namesMatch_refl table.name, rfl⟩
  have hsome : (snapshot.find? none table.name).isSome := by
    rw [find?_eq]
    exact List.find?_isSome.mpr ⟨table, List.mem_of_find?_eq_some hself, hnamed⟩
  obtain ⟨first, hfirst⟩ := Option.isSome_iff_exists.mp hsome
  refine ⟨first, hfirst, ?_, ?_⟩
  · rintro rfl
    exact namesMatch_refl first.schema
  · intro hschema
    have hname := (Table.isNamed_iff.mp (isNamed_of_find? hfirst)).1
    have hqualifies : first.isNamed (some table.schema) table.name = true :=
      Table.isNamed_iff.mpr ⟨hname, hschema⟩
    rw [find?_eq] at hfirst
    have hqualified := find?_of_imp (q := (·.isNamed (some table.schema) table.name)) hfirst
      hqualifies fun b hb => Table.isNamed_iff.mpr ⟨(Table.isNamed_iff.mp hb).1, rfl⟩
    exact Option.some.inj (hqualified.symm.trans hself)

end Snapshot

theorem findFinIdx?_of_imp {α : Type} {l : List α} {p q : α → Bool} {place : Fin l.length}
    (h : l.findFinIdx? p = some place) (hplace : q l[place] = true)
    (himp : ∀ a, q a = true → p a = true) : l.findFinIdx? q = some place := by
  obtain ⟨_, hbefore⟩ := List.findFinIdx?_eq_some_iff.mp h
  refine List.findFinIdx?_eq_some_iff.mpr ⟨hplace, fun earlier hearlier hq => ?_⟩
  exact hbefore earlier hearlier (himp _ hq)

namespace Snapshot

variable {snapshot : Snapshot} {qualifier : Option Text} {name : Text}

/-- The place of the first table that answers to a name. -/
def tablePlace? (snapshot : Snapshot) (qualifier : Option Text) (name : Text) :
    Option (Fin snapshot.tables.length) :=
  snapshot.tables.findFinIdx? (·.isNamed qualifier name)

/-- The place, among the tables and views, of the first object that answers to a name. -/
def objectPlace? (snapshot : Snapshot) (qualifier : Option Text) (name : Text) :
    Option (Fin snapshot.objects.length) :=
  snapshot.objects.findFinIdx? (·.table.isNamed qualifier name)

theorem findTable?_eq_map_place :
    snapshot.findTable? qualifier name =
      (snapshot.tablePlace? qualifier name).map (snapshot.tables[·]) :=
  List.find?_eq_map_findFinIdx?_getElem

theorem findObject?_eq_map_place :
    snapshot.findObject? qualifier name =
      (snapshot.objectPlace? qualifier name).map (snapshot.objects[·]) :=
  List.find?_eq_map_findFinIdx?_getElem

theorem find?_eq_map_place :
    snapshot.find? qualifier name =
      (snapshot.objectPlace? qualifier name).map (snapshot.objects[·].table) := by
  rw [find?, findObject?_eq_map_place, Option.map_map]
  rfl

theorem tablePlace?_self {place : Fin snapshot.tables.length}
    (h : snapshot.tablePlace? qualifier name = some place) :
    snapshot.tablePlace? (some snapshot.tables[place].schema) snapshot.tables[place].name =
      some place := by
  have hnamed := (List.findFinIdx?_eq_some_iff.mp h).1
  exact findFinIdx?_of_imp h (Table.isNamed_self _) fun _ hother => Table.isNamed_trans hother hnamed

theorem objectPlace?_self {place : Fin snapshot.objects.length}
    (h : snapshot.objectPlace? qualifier name = some place) :
    snapshot.objectPlace? (some snapshot.objects[place].table.schema)
      snapshot.objects[place].table.name = some place := by
  have hnamed := (List.findFinIdx?_eq_some_iff.mp h).1
  exact findFinIdx?_of_imp h (Table.isNamed_self _) fun _ hother => Table.isNamed_trans hother hnamed

/-- What the look-ups of a snapshot find stays found under its own qualified name. -/
structure StaysFound (snapshot : Snapshot) : Prop where
  findObject?_eq : ∀ qualifier name, snapshot.findObject? qualifier name =
    (snapshot.objectPlace? qualifier name).map (snapshot.objects[·])
  /-- That object has the same place under its own qualified name. -/
  object : ∀ qualifier name place, snapshot.objectPlace? qualifier name = some place →
    snapshot.objectPlace? (some snapshot.objects[place].table.schema)
      snapshot.objects[place].table.name = some place
  findTable?_eq : ∀ qualifier name, snapshot.findTable? qualifier name =
    (snapshot.tablePlace? qualifier name).map (snapshot.tables[·])
  table : ∀ qualifier name place, snapshot.tablePlace? qualifier name = some place →
    snapshot.tablePlace? (some snapshot.tables[place].schema) snapshot.tables[place].name =
      some place

theorem staysFound (snapshot : Snapshot) : snapshot.StaysFound where
  findObject?_eq _ _ := findObject?_eq_map_place
  object _ _ _ := objectPlace?_self
  findTable?_eq _ _ := findTable?_eq_map_place
  table _ _ _ := tablePlace?_self

end Snapshot

end SqlAssist
