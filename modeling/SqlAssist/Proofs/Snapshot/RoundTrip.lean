import SqlAssist.Proofs.Json.Scalar
import SqlAssist.Proofs.Text
import SqlAssist.Snapshot.Decode
import SqlAssist.Snapshot.Encode

/-! # Snapshots survive their JSON text

An array of values that are read back is read back, and so is an object whose members fill the parts
of a record one after another: every member has a known key that was not given before, and a value
that is read into the parts. So every record of a snapshot is read back from the object it is written
as, members that are left out included, and decoding undoes encoding. -/
namespace SqlAssist

namespace Json

theorem length_le_length_flatMap_comma (ts : List Text) :
    ts.length ≤ (ts.flatMap ([','] ++ ·)).length := by
  induction ts with
  | nil => exact Nat.le_refl 0
  | cons t ts ih =>
    simp only [List.flatMap_cons, List.length_append, List.length_cons, List.length_nil]
    omega

section

variable {α : Type} {read : Reader α} {write : α → Text}

theorem endsValue_elements (write : α → Text) (as : List α) (rest : Text) :
    EndsValue ((as.map write).flatMap ([','] ++ ·) ++ ']' :: rest) := by
  cases as with
  | nil => exact endsValue_cons (Or.inr (Or.inl rfl)) _
  | cons a as => exact endsValue_cons (Or.inl rfl) _

theorem readElementsIn_flatMap {as : List α} (h : ∀ a ∈ as, ReadsBack read (write a) a)
    (rest : Text) (steps : Nat) (hsteps : as.length < steps) :
    readElementsIn read steps ((as.map write).flatMap ([','] ++ ·) ++ ']' :: rest) =
      .ok (as, rest) := by
  induction as generalizing steps with
  | nil =>
    obtain ⟨steps, rfl⟩ := Nat.exists_eq_add_one_of_ne_zero (Nat.ne_of_gt hsteps)
    rfl
  | cons a as ih =>
    obtain ⟨steps, rfl⟩ :=
      Nat.exists_eq_add_one_of_ne_zero (Nat.ne_of_gt (Nat.zero_lt_of_lt hsteps))
    have ha := h a List.mem_cons_self
    have htail := ih (fun b hb => h b (List.mem_cons_of_mem a hb)) steps (by simpa using hsteps)
    have hread := ha.reads _ (endsValue_elements write as rest)
    have hspace := ha.skipSpace_append ((as.map write).flatMap ([','] ++ ·) ++ ']' :: rest)
    obtain ⟨c, t, hopen, _, hbracket, _⟩ := ha.opens
    rw [List.map_cons, List.flatMap_cons, List.append_assoc, List.append_assoc, List.cons_append,
      List.nil_append, readElementsIn, skipSpace_cons (by decide)]
    simp only [hspace]
    rw [hopen, List.cons_append] at hread ⊢
    split
    · rename_i heq; cases heq
    · rename_i heq; exact absurd (List.cons.inj heq).1 hbracket
    · simp only [hread, bind, Except.bind, htail]
      rfl

theorem readsBack_writeList {as : List α} (h : ∀ a ∈ as, ReadsBack read (write a) a) :
    ReadsBack (readList read) (writeList write as) as where
  opens := ⟨'[', _, rfl, by decide, by decide, by decide⟩
  reads rest _ := by
    rw [writeList, List.append_assoc, List.cons_append, List.cons_append, List.nil_append, readList,
      skipSpace_cons (by decide)]
    cases as with
    | nil => rfl
    | cons a as =>
      have ha := h a List.mem_cons_self
      have hlength := length_le_length_flatMap_comma (as.map write)
      have htail := readElementsIn_flatMap (fun b hb => h b (List.mem_cons_of_mem a hb)) rest
        ((as.map write).flatMap ([','] ++ ·) ++ ']' :: rest).length
        (by simp only [List.length_append, List.length_cons, List.length_map] at hlength ⊢; omega)
      have hread := ha.reads _ (endsValue_elements write as rest)
      have hspace := ha.skipSpace_append ((as.map write).flatMap ([','] ++ ·) ++ ']' :: rest)
      obtain ⟨c, t, hopen, _, hbracket, _⟩ := ha.opens
      rw [List.map_cons, Text.join_cons_eq_append, List.append_assoc]
      simp only [hspace]
      rw [hopen, List.cons_append] at hread ⊢
      split
      · rename_i heq; cases heq
      · rename_i heq; exact absurd (List.cons.inj heq).1 hbracket
      · simp only [hread, bind, Except.bind, htail]
        rfl

end

namespace Shape

variable {α β γ : Type} {shape : Shape α β} {parts parts' next : β} {members : List Member}

/-- Reading the members one after another takes the first parts to the last ones. -/
inductive Collects (shape : Shape α β) : β → List Member → β → Prop where
  | nil (parts : β) : Collects shape parts [] parts
  | cons {parts next parts' : β} {key value : Text} {members : List Member}
    {field : RecordField β} (hfield : shape.fields.find? (·.key == key) = some field)
    (hnew : field.isSet parts = false)
    (hread : ∀ rest, EndsValue rest → field.read parts (value ++ rest) = .ok (next, rest))
    (tail : Collects shape next members parts') :
    Collects shape parts ((key, value) :: members) parts'

/-- A member whose value is read back fills its part. -/
theorem Collects.member {key value : Text} {get : β → Option γ} {set : β → γ → β}
    {read : Reader γ} {v : γ}
    (hfield : shape.fields.find? (·.key == key) = some (.of key get set read))
    (hnew : get parts = none) (hread : ReadsBack read value v)
    (tail : Collects shape (set parts v) members parts') :
    Collects shape parts ((key, value) :: members) parts' := by
  refine .cons hfield ?_ (fun rest hrest => ?_) tail
  · simp only [RecordField.of, hnew, Option.isSome_none]
  · simp only [RecordField.of, hread.reads rest hrest, bind, Except.bind]
    rfl

/-- An optional member fills its part when it is there. -/
theorem Collects.optional (next : β) {key : Text} {get : β → Option (Option γ)} {set : β → Option γ → β}
    {read : Reader γ} {write : γ → Text} {v? : Option γ}
    (hfield : shape.fields.find? (·.key == key) = some (.of key get set (readOptional read)))
    (hnew : get parts = none) (hread : ∀ v, ReadsBack read (write v) v)
    (hnext : next = v?.elim parts fun v => set parts (some v))
    (tail : Collects shape next members parts') :
    Collects shape parts (optionalMember key write v? ++ members) parts' := by
  subst hnext
  cases v? with
  | none => exact tail
  | some v => exact .member hfield hnew (hread v).optional tail

theorem writeMember_append (member : Member) (rest : Text) :
    writeMember member ++ rest =
      '"' :: (member.1.flatMap writeChar ++ '"' :: ':' :: (member.2 ++ rest)) := by
  rw [writeMember, List.append_assoc, writeText_append, List.cons_append]

theorem endsValue_members (members : List Member) (rest : Text) :
    EndsValue ((members.map writeMember).flatMap ([','] ++ ·) ++ '\x7d' :: rest) := by
  cases members with
  | nil => exact endsValue_cons (Or.inr (Or.inr rfl)) _
  | cons member members => exact endsValue_cons (Or.inl rfl) _

theorem readMember_append {key value : Text} {field : RecordField β}
    (hfield : shape.fields.find? (·.key == key) = some field) (hnew : field.isSet parts = false)
    {rest : Text} (hread : field.read parts (value ++ rest) = .ok (next, rest)) :
    shape.readMember parts (key.flatMap writeChar ++ '"' :: ':' :: (value ++ rest)) =
      .ok (next, rest) := by
  have hcolon : skipColon (':' :: (value ++ rest)) = .ok (value ++ rest) := rfl
  rw [readMember, readQuoted_flatMap]
  simp only [bind, Except.bind, hfield, hnew, hcolon, hread]
  rfl

theorem Collects.readMembersIn_flatMap (h : Collects shape parts members parts') (rest : Text)
    (steps : Nat) (hsteps : members.length < steps) :
    shape.readMembersIn steps parts
        ((members.map writeMember).flatMap ([','] ++ ·) ++ '\x7d' :: rest) =
      .ok (parts', rest) := by
  induction h generalizing steps with
  | nil parts =>
    obtain ⟨steps, rfl⟩ := Nat.exists_eq_add_one_of_ne_zero (Nat.ne_of_gt hsteps)
    rfl
  | @cons parts next parts' key value members field hfield hnew hread tail ih =>
    obtain ⟨steps, rfl⟩ :=
      Nat.exists_eq_add_one_of_ne_zero (Nat.ne_of_gt (Nat.zero_lt_of_lt hsteps))
    have hmember := readMember_append hfield hnew (hread _ (endsValue_members members rest))
    have hspace (t : Text) : skipSpace ('"' :: t) = '"' :: t := skipSpace_cons (by decide) t
    rw [List.map_cons, List.flatMap_cons, List.append_assoc, List.append_assoc, List.cons_append,
      List.nil_append, writeMember_append, readMembersIn, skipSpace_cons (by decide)]
    simp only [hspace, hmember, bind, Except.bind]
    exact ih steps (by simpa using hsteps)

theorem Collects.readObject_join (h : Collects shape shape.start members parts') (rest : Text) :
    shape.readObject (Text.join [','] (members.map writeMember) ++ '\x7d' :: rest) =
      .ok (parts', rest) := by
  cases h with
  | nil => rfl
  | @cons _ next _ key value members field hfield hnew hread tail =>
    have hmember := readMember_append hfield hnew (hread _ (endsValue_members members rest))
    have hlength := length_le_length_flatMap_comma (members.map writeMember)
    have hmembers := tail.readMembersIn_flatMap rest
      ((members.map writeMember).flatMap ([','] ++ ·) ++ '\x7d' :: rest).length
      (by simp only [List.length_append, List.length_cons, List.length_map] at hlength ⊢; omega)
    rw [List.map_cons, Text.join_cons_eq_append, List.append_assoc, writeMember_append, readObject,
      skipSpace_cons (by decide)]
    simp only [hmember, bind, Except.bind, hmembers]

/-- A record is read back from the object of its members. -/
theorem Collects.readsBack (parts' : β) {a : α} (h : Collects shape shape.start members parts')
    (hbuild : shape.build parts' = .ok a) : ReadsBack shape.read (writeObject members) a where
  opens := ⟨'\x7b', _, rfl, by decide, by decide, by decide⟩
  reads rest _ := by
    rw [writeObject, List.append_assoc, List.cons_append, List.cons_append, List.nil_append, read,
      skipSpace_cons (by decide)]
    simp only [h.readObject_join rest, bind, Except.bind, hbuild]
    rfl

end Shape

theorem ReadsBack.readWhole {α : Type} {read : Reader α} {written : Text} {value : α}
    (h : ReadsBack read written value) : readWhole read written = .ok value := by
  have hread := h.reads [] endsValue_nil
  rw [List.append_nil] at hread
  simp only [Json.readWhole, hread, bind, Except.bind]
  rfl

end Json

open Json

namespace Column

/-- The parts of a column when those of its members that are always there have been read. -/
def requiredParts (column : Column) : Parts :=
  { name := some column.name
    dataType := some column.dataType
    nullable := some column.nullable
    isPrimaryKey := some column.isPrimaryKey
    isForeignKey := some column.isForeignKey }

def allParts (column : Column) : Parts :=
  { column.requiredParts with
    maxLength := column.maxLength.map some
    precision := column.precision.map some
    scale := column.scale.map some }

theorem ofParts_allParts (column : Column) : ofParts column.allParts = .ok column := by
  obtain ⟨name, dataType, nullable, isPrimaryKey, isForeignKey, maxLength, precision, scale⟩ := column
  cases maxLength <;> cases precision <;> cases scale <;> rfl

theorem collects_sizes (column : Column) :
    shape.Collects column.requiredParts
      (optionalMember "maxLength".toList (fun n => Text.ofInt n.toInt) column.maxLength ++
        (optionalMember "precision".toList (fun n => Text.ofNat n.toNat) column.precision ++
          (optionalMember "scale".toList (fun n => Text.ofNat n.toNat) column.scale ++ [])))
      column.allParts := by
  refine .optional { column.requiredParts with maxLength := column.maxLength.map some }
    rfl rfl readsBack_int32 (by cases column.maxLength <;> rfl) ?_
  refine .optional { column.requiredParts with
      maxLength := column.maxLength.map some, precision := column.precision.map some }
    rfl rfl readsBack_uint8 (by cases column.precision <;> rfl) ?_
  exact .optional column.allParts rfl rfl readsBack_uint8
    (by rw [allParts]; cases column.scale <;> rfl) (.nil _)

theorem readsBack_encode (column : Column) : ReadsBack shape.read column.encode column := by
  refine Shape.Collects.readsBack column.allParts ?_ column.ofParts_allParts
  rw [List.append_assoc, List.append_assoc, ← List.append_nil (optionalMember "scale".toList _ _)]
  exact .member rfl rfl (readsBack_writeText column.name)
    (.member rfl rfl (readsBack_writeText column.dataType)
      (.member rfl rfl (readsBack_writeBool column.nullable)
        (.member rfl rfl (readsBack_writeBool column.isPrimaryKey)
          (.member rfl rfl (readsBack_writeBool column.isForeignKey)
            column.collects_sizes))))

end Column

theorem Table.readsBack_encode (table : Table) : ReadsBack shape.read table.encode table := by
  have hcolumns : ReadsBack (readList Column.shape.read) (writeList Column.encode table.columns)
      table.columns :=
    readsBack_writeList fun column _ => column.readsBack_encode
  refine Shape.Collects.readsBack
    ⟨some table.schema, some table.name, some table.columns⟩ ?_ rfl
  exact .member rfl rfl (readsBack_writeText table.schema)
    (.member rfl rfl (readsBack_writeText table.name) (.member rfl rfl hcolumns (.nil _)))

theorem Routine.readsBack_encode (routine : Routine) :
    ReadsBack shape.read routine.encode routine := by
  refine Shape.Collects.readsBack ⟨some routine.schema, some routine.name⟩ ?_ rfl
  exact .member rfl rfl (readsBack_writeText routine.schema)
    (.member rfl rfl (readsBack_writeText routine.name) (.nil _))

namespace ForeignKey

def allParts (key : ForeignKey) : Parts :=
  { fromSchema := some key.fromSchema
    fromTable := some key.fromTable
    fromColumn := some key.fromColumn
    toSchema := some key.toSchema
    toTable := some key.toTable
    toColumn := some key.toColumn
    constraintName := key.constraintName.map some }

theorem ofParts_allParts (key : ForeignKey) : ofParts key.allParts = .ok key := by
  obtain ⟨fromSchema, fromTable, fromColumn, toSchema, toTable, toColumn, constraintName⟩ := key
  cases constraintName <;> rfl

theorem readsBack_encode (key : ForeignKey) : ReadsBack shape.read key.encode key := by
  refine Shape.Collects.readsBack key.allParts ?_ key.ofParts_allParts
  rw [← List.append_nil (optionalMember _ _ _)]
  refine .member rfl rfl (readsBack_writeText key.fromSchema)
    (.member rfl rfl (readsBack_writeText key.fromTable)
      (.member rfl rfl (readsBack_writeText key.fromColumn)
        (.member rfl rfl (readsBack_writeText key.toSchema)
          (.member rfl rfl (readsBack_writeText key.toTable)
            (.member rfl rfl (readsBack_writeText key.toColumn) ?_)))))
  exact .optional key.allParts rfl rfl readsBack_writeText
    (by rw [allParts]; cases key.constraintName <;> rfl) (.nil _)

end ForeignKey

namespace Snapshot

theorem readsBack_encode (snapshot : Snapshot) : ReadsBack shape.read snapshot.encode snapshot := by
  have htables (tables : List Table) :
      ReadsBack (readList Table.shape.read) (writeList Table.encode tables) tables :=
    readsBack_writeList fun table _ => table.readsBack_encode
  have hkeys : ReadsBack (readList ForeignKey.shape.read)
      (writeList ForeignKey.encode snapshot.foreignKeys) snapshot.foreignKeys :=
    readsBack_writeList fun key _ => key.readsBack_encode
  have hroutines (routines : List Routine) :
      ReadsBack (readList Routine.shape.read) (writeList Routine.encode routines) routines :=
    readsBack_writeList fun routine _ => routine.readsBack_encode
  refine Shape.Collects.readsBack
    ⟨some snapshot.tables, some snapshot.views, some snapshot.foreignKeys,
      some snapshot.procedures, some snapshot.functions⟩ ?_ rfl
  exact .member rfl rfl (htables snapshot.tables)
    (.member rfl rfl (htables snapshot.views)
      (.member rfl rfl hkeys
        (.member rfl rfl (hroutines snapshot.procedures)
          (.member rfl rfl (hroutines snapshot.functions) (.nil _)))))

/-- Decoding the JSON text of a snapshot gives the snapshot. -/
theorem decode_encode (snapshot : Snapshot) : decode snapshot.encode = .ok snapshot :=
  snapshot.readsBack_encode.readWhole

end Snapshot

end SqlAssist
