import SqlAssist.Scope

/-! # Neighbours in the key graph

The tables offered for a join are the neighbours of the tables of the query in the graph of foreign
keys. A key has two ends, each with a table and a column. It is followed from the end that is in the
query to the other one, and the condition of the join equates the columns of its two ends, each on
its own side. -/
namespace SqlAssist

/-- One end of a foreign key. -/
structure KeyEnd where
  schema : Text
  table : Text
  column : Text
deriving DecidableEq, Repr

namespace ForeignKey

def referring (key : ForeignKey) : KeyEnd := ⟨key.fromSchema, key.fromTable, key.fromColumn⟩

def referred (key : ForeignKey) : KeyEnd := ⟨key.toSchema, key.toTable, key.toColumn⟩

end ForeignKey

def KeyEnd.isAt (keyEnd : KeyEnd) (table : Table) : Bool :=
  table.isNamed (some keyEnd.schema) keyEnd.table

def KeyEnd.find? (keyEnd : KeyEnd) (snapshot : Snapshot) : Option Table :=
  snapshot.findTable? (some keyEnd.schema) keyEnd.table

namespace Scope

/-- The key leads from the table `object` at its end `near` to the table `other` at its end `far`.
From its start a key is followed to its target, from its target only if it does not start there. -/
inductive Leads (snapshot : Snapshot) (key : ForeignKey) (object : Table) :
    KeyEnd → KeyEnd → Direction → Table → Prop where
  | outgoing {other : Table} (hstart : key.referring.isAt object = true)
      (hother : key.referred.find? snapshot = some other) :
      Leads snapshot key object key.referring key.referred .outgoing other
  | incoming {other : Table} (hstart : key.referring.isAt object = false)
      (hend : key.referred.isAt object = true)
      (hother : key.referring.find? snapshot = some other) :
      Leads snapshot key object key.referred key.referring .incoming other

variable {tables : List ScopedTable} {snapshot : Snapshot} {member : ScopedTable}
  {object other : Table} {key : ForeignKey} {near far : KeyEnd} {direction : Direction}
  {entry : RelatedTable}

theorem follow?_eq_some_iff :
    follow? snapshot object key = some (other, direction) ↔
      ∃ near far, Leads snapshot key object near far direction other := by
  have hstarts : key.startsAt object = key.referring.isAt object := rfl
  have hends : key.endsAt object = key.referred.isAt object := rfl
  constructor
  · intro h
    unfold follow? at h
    split at h
    · rename_i hstart
      obtain ⟨found, hfind, heq⟩ := Option.map_eq_some_iff.mp h
      obtain ⟨rfl, rfl⟩ := Prod.mk.inj heq
      exact ⟨_, _, .outgoing (hstarts ▸ hstart) hfind⟩
    · rename_i hstart
      split at h
      · rename_i hend
        obtain ⟨found, hfind, heq⟩ := Option.map_eq_some_iff.mp h
        obtain ⟨rfl, rfl⟩ := Prod.mk.inj heq
        exact ⟨_, _, .incoming (by rwa [hstarts, Bool.not_eq_true] at hstart) (hends ▸ hend) hfind⟩
      · cases h
  · rintro ⟨near, far, hleads⟩
    cases hleads with
    | outgoing hstart hother =>
      rw [follow?, hstarts, if_pos hstart]
      exact Option.map_eq_some_iff.mpr ⟨other, hother, rfl⟩
    | incoming hstart hend hother =>
      rw [follow?, hstarts, hends, if_neg (by simp [hstart]), if_pos hend]
      exact Option.map_eq_some_iff.mpr ⟨other, hother, rfl⟩

theorem Leads.find?_far (h : Leads snapshot key object near far direction other) :
    far.find? snapshot = some other := by
  cases h with
  | outgoing _ hother => exact hother
  | incoming _ _ hother => exact hother

/-- The condition of a join equates the columns at the two ends of the key, the far one on the side
of the table that is joined. -/
theorem Leads.condition_eq (h : Leads snapshot key object near far direction other)
    (knownAs joined : Text) :
    (⟨key, knownAs, direction⟩ : Relation).condition joined =
      Identifier.quote joined ++ '.' :: Identifier.quote far.column ++ " = ".toList ++
        Identifier.quote knownAs ++ '.' :: Identifier.quote near.column := by
  cases h <;> rfl

/-- The entries that a table of the query contributes. -/
theorem mem_neighbours_iff :
    entry ∈ neighbours tables snapshot member ↔
      ∃ object, snapshot.find? (some member.schema) member.table = some object ∧
        ∃ key ∈ snapshot.foreignKeys, ∃ near far direction other,
          Leads snapshot key object near far direction other ∧ isInQuery tables other = false ∧
            entry = ⟨other, some ⟨key, member.knownAs, direction⟩⟩ := by
  unfold neighbours
  cases hfind : snapshot.find? (some member.schema) member.table with
  | none => simp
  | some object =>
    simp only [List.mem_filterMap, Option.some.injEq, exists_eq_left']
    refine exists_congr fun key => and_congr_right fun _ => ?_
    constructor
    · intro h
      split at h
      · rename_i other direction hfollow
        split at h
        · cases h
        · rename_i hoffered
          obtain ⟨near, far, hleads⟩ := follow?_eq_some_iff.mp hfollow
          exact ⟨near, far, direction, other, hleads, Bool.eq_false_iff.mpr hoffered,
            (Option.some.inj h).symm⟩
      · cases h
    · rintro ⟨near, far, direction, other, hleads, hoffered, rfl⟩
      rw [follow?_eq_some_iff.mpr ⟨near, far, hleads⟩]
      simp only [hoffered, Bool.false_eq_true, if_false]

/-- The neighbours are offered, or all other tables if there are none. -/
theorem related_eq_or (tables : List ScopedTable) (snapshot : Snapshot) :
    (related tables snapshot = tables.flatMap (neighbours tables snapshot) ∧
        related tables snapshot ≠ []) ∨
      (tables.flatMap (neighbours tables snapshot) = [] ∧
        related tables snapshot =
          (snapshot.tables.filter fun table => !isInQuery tables table).map (⟨·, none⟩)) := by
  unfold related
  split
  · rename_i hnone
    exact Or.inr ⟨hnone, rfl⟩
  · rename_i hsome
    exact Or.inl ⟨rfl, hsome⟩

theorem isInQuery_eq_false_iff :
    isInQuery tables object = false ↔
      ∀ member ∈ tables, object.isNamed (some member.schema) member.table = false := by
  simp [isInQuery]

theorem exists_mem_neighbours (h : entry ∈ related tables snapshot)
    (hrelation : entry.relation?.isSome) :
    ∃ member ∈ tables, entry ∈ neighbours tables snapshot member := by
  rcases related_eq_or tables snapshot with ⟨heq, _⟩ | ⟨_, heq⟩
  · rw [heq] at h
    exact List.mem_flatMap.mp h
  · rw [heq] at h
    obtain ⟨table, _, rfl⟩ := List.mem_map.mp h
    cases hrelation

theorem mem_related_of_mem_neighbours (hmember : member ∈ tables)
    (h : entry ∈ neighbours tables snapshot member) : entry ∈ related tables snapshot := by
  have hmem : entry ∈ tables.flatMap (neighbours tables snapshot) :=
    List.mem_flatMap.mpr ⟨member, hmember, h⟩
  rcases related_eq_or tables snapshot with ⟨heq, _⟩ | ⟨hnone, _⟩
  · rwa [heq]
  · rw [hnone] at hmem
    cases hmem

theorem relation?_isSome_of_mem_neighbours (h : entry ∈ neighbours tables snapshot member) :
    entry.relation?.isSome := by
  obtain ⟨_, _, _, _, _, _, _, _, _, _, rfl⟩ := mem_neighbours_iff.mp h
  rfl

theorem isInQuery_of_mem_related (h : entry ∈ related tables snapshot) :
    isInQuery tables entry.table = false := by
  rcases related_eq_or tables snapshot with ⟨heq, _⟩ | ⟨_, heq⟩
  · rw [heq] at h
    obtain ⟨member, _, hneighbour⟩ := List.mem_flatMap.mp h
    obtain ⟨_, _, _, _, _, _, _, _, _, hoffered, rfl⟩ := mem_neighbours_iff.mp hneighbour
    exact hoffered
  · rw [heq] at h
    obtain ⟨table, hmem, rfl⟩ := List.mem_map.mp h
    simpa using (List.mem_filter.mp hmem).2

/-- Either all entries have a relation, or none has one and all other tables are offered. -/
theorem relation?_isSome_or (tables : List ScopedTable) (snapshot : Snapshot) :
    ((∀ entry ∈ related tables snapshot, entry.relation?.isSome) ∧
        related tables snapshot ≠ []) ∨
      related tables snapshot =
        (snapshot.tables.filter fun table => !isInQuery tables table).map (⟨·, none⟩) := by
  rcases related_eq_or tables snapshot with ⟨heq, hne⟩ | ⟨_, heq⟩
  · refine Or.inl ⟨fun entry hmem => ?_, hne⟩
    rw [heq] at hmem
    obtain ⟨member, _, hneighbour⟩ := List.mem_flatMap.mp hmem
    exact relation?_isSome_of_mem_neighbours hneighbour
  · exact Or.inr heq

/-- The entry joins the table `far` of a key to the table `member` of the query, which the end
`near` of the key is at. -/
structure Joins (snapshot : Snapshot) (member : ScopedTable) (key : ForeignKey) (near far : KeyEnd)
    (entry : RelatedTable) : Prop where
  mem : key ∈ snapshot.foreignKeys
  ends : (near = key.referring ∧ far = key.referred) ∨ (near = key.referred ∧ far = key.referring)
  /-- One end is the object that the table of the query stands for. -/
  near_at : ∃ object, snapshot.find? (some member.schema) member.table = some object ∧
    near.isAt object = true
  /-- The entry is the table of the snapshot that answers to the other end. -/
  far_at : far.find? snapshot = some entry.table
  /-- The condition equates the column of the entry's end, on the side of the alias it is joined
  under, with the column of the other end, on the side of the table of the query. -/
  relation : ∃ relation, entry.relation? = some relation ∧ relation.key = key ∧
    relation.knownAs = member.knownAs ∧
      ∀ joined, relation.condition joined =
        Identifier.quote joined ++ '.' :: Identifier.quote far.column ++ " = ".toList ++
          Identifier.quote member.knownAs ++ '.' :: Identifier.quote near.column

theorem Leads.joins (h : Leads snapshot key object near far direction other)
    (hkey : key ∈ snapshot.foreignKeys)
    (hobject : snapshot.find? (some member.schema) member.table = some object) :
    Joins snapshot member key near far ⟨other, some ⟨key, member.knownAs, direction⟩⟩ where
  mem := hkey
  ends := by
    cases h with
    | outgoing => exact Or.inl ⟨rfl, rfl⟩
    | incoming => exact Or.inr ⟨rfl, rfl⟩
  near_at := by
    cases h with
    | outgoing hstart _ => exact ⟨object, hobject, hstart⟩
    | incoming _ hend _ => exact ⟨object, hobject, hend⟩
  far_at := h.find?_far
  relation := ⟨_, rfl, rfl, rfl, h.condition_eq member.knownAs⟩

/-- What is offered for a join follows the keys of the snapshot. -/
structure FollowsKeys (tables : List ScopedTable) (snapshot : Snapshot) : Prop where
  outside : ∀ entry ∈ related tables snapshot, ∀ member ∈ tables,
    entry.table.isNamed (some member.schema) member.table = false
  sound : ∀ entry ∈ related tables snapshot, entry.relation?.isSome →
    ∃ member ∈ tables, ∃ key near far, Joins snapshot member key near far entry
  outgoing : ∀ member ∈ tables, ∀ object,
    snapshot.find? (some member.schema) member.table = some object →
      ∀ key ∈ snapshot.foreignKeys, key.startsAt object = true →
        ∀ other, snapshot.findTable? (some key.toSchema) key.toTable = some other →
          (∀ q ∈ tables, other.isNamed (some q.schema) q.table = false) →
            ∃ entry ∈ related tables snapshot, entry.table = other ∧
              Joins snapshot member key key.referring key.referred entry
  /-- Every key that ends at a table of the query and does not start there is followed. -/
  incoming : ∀ member ∈ tables, ∀ object,
    snapshot.find? (some member.schema) member.table = some object →
      ∀ key ∈ snapshot.foreignKeys, key.startsAt object = false → key.endsAt object = true →
        ∀ other, snapshot.findTable? (some key.fromSchema) key.fromTable = some other →
          (∀ q ∈ tables, other.isNamed (some q.schema) q.table = false) →
            ∃ entry ∈ related tables snapshot, entry.table = other ∧
              Joins snapshot member key key.referred key.referring entry
  unmixed : ∀ entry ∈ related tables snapshot, entry.relation? = none →
    ∀ other ∈ related tables snapshot, other.relation? = none
  fallback : (∀ entry ∈ related tables snapshot, entry.relation? = none) →
    related tables snapshot =
      (snapshot.tables.filter fun table =>
        tables.all fun q => !table.isNamed (some q.schema) q.table).map (⟨·, none⟩)

/-- A neighbour of a table of the query is offered, and joined along the key. -/
theorem Leads.exists_mem_related (h : Leads snapshot key object near far direction other)
    (hmember : member ∈ tables)
    (hobject : snapshot.find? (some member.schema) member.table = some object)
    (hkey : key ∈ snapshot.foreignKeys)
    (hother : ∀ q ∈ tables, other.isNamed (some q.schema) q.table = false) :
    ∃ entry ∈ related tables snapshot, entry.table = other ∧
      Joins snapshot member key near far entry := by
  refine ⟨⟨other, some ⟨key, member.knownAs, direction⟩⟩, ?_, rfl, h.joins hkey hobject⟩
  apply mem_related_of_mem_neighbours hmember
  exact mem_neighbours_iff.mpr ⟨object, hobject, key, hkey, near, far, direction, other, h,
    isInQuery_eq_false_iff.mpr hother, rfl⟩

/-- The tables offered for a join are the neighbours of the query in the key graph, joined the right
way round, or all other tables if it has none. -/
theorem followsKeys (tables : List ScopedTable) (snapshot : Snapshot) :
    FollowsKeys tables snapshot where
  outside _ hentry := isInQuery_eq_false_iff.mp (isInQuery_of_mem_related hentry)
  sound entry hentry hrelation := by
    obtain ⟨member, hmember, hneighbour⟩ := exists_mem_neighbours hentry hrelation
    obtain ⟨object, hobject, key, hkey, near, far, direction, other, hleads, _, rfl⟩ :=
      mem_neighbours_iff.mp hneighbour
    exact ⟨member, hmember, key, near, far, hleads.joins hkey hobject⟩
  outgoing member hmember object hobject key hkey hstart other hfind hother :=
    (Leads.outgoing hstart hfind).exists_mem_related hmember hobject hkey hother
  incoming member hmember object hobject key hkey hstart hend other hfind hother :=
    (Leads.incoming hstart hend hfind).exists_mem_related hmember hobject hkey hother
  unmixed entry hentry hnone other hother := by
    rcases relation?_isSome_or tables snapshot with ⟨hall, _⟩ | heq
    · have hsome := hall entry hentry
      rw [hnone] at hsome
      cases hsome
    · rw [heq] at hother
      obtain ⟨table, _, rfl⟩ := List.mem_map.mp hother
      rfl
  fallback hall := by
    rcases relation?_isSome_or tables snapshot with ⟨hsome, hne⟩ | heq
    · obtain ⟨entry, rest, hcons⟩ := List.exists_cons_of_ne_nil hne
      have hmem : entry ∈ related tables snapshot := by rw [hcons]; exact List.mem_cons_self
      have hentry := hsome entry hmem
      rw [hall entry hmem] at hentry
      cases hentry
    · rw [heq]
      simp only [isInQuery, List.not_any_eq_all_not]

end Scope

end SqlAssist
