import SqlAssist.Proofs.Identifier
import SqlAssist.Proofs.Search
import SqlAssist.Reference

/-! # References in the text

A reference lies inside the statement it was found in and covers a name as the statement writes it:
one identifier, or two with a dot between them, and the table it names is the last of them without its
brackets. The references of a statement come in the order of the text: of two of them, the later one
starts later and ends later. -/
namespace SqlAssist

open Character Identifier

namespace Reference

theorem mem_foldl_keep {reference : Reference} {kept l : List Reference}
    (h : reference ∈ l.foldl keep kept) : reference ∈ kept ∨ reference ∈ l := by
  induction l generalizing kept with
  | nil => exact Or.inl h
  | cons next l ih =>
    rcases ih h with hkept | hl
    · unfold keep at hkept
      split at hkept
      · exact Or.inl hkept
      · rcases List.mem_append.mp hkept with hkept | hnext
        · exact Or.inl hkept
        · exact Or.inr (by simp [List.mem_singleton.mp hnext])
    · exact Or.inr (by simp [hl])

theorem mem_of_mem_reduce {reference : Reference} {l : List Reference}
    (h : reference ∈ reduce l) : reference ∈ l := by
  rcases mem_foldl_keep h with hnil | hsorted
  · cases hnil
  · exact List.mem_mergeSort.mp hsorted

end Reference

theorem readAnchor?_suffix {left : Option Char} {t named : Text}
    (h : readAnchor? left t = some named) : named <:+ t := by
  unfold readAnchor? at h
  split at h
  · obtain ⟨behind, hword, hblanks⟩ := Option.bind_eq_some_iff.mp h
    have hbehind : behind <:+ t := by
      rcases Option.or_eq_some_iff.mp hword with hfrom | ⟨_, hjoin⟩
      · exact readWord?_suffix hfrom
      · exact readWord?_suffix hjoin
    exact (Text.skipBlanks?_suffix hblanks).trans hbehind
  · cases h

theorem readAnchor?_length {left : Option Char} {t named : Text}
    (h : readAnchor? left t = some named) : named.length < t.length := by
  unfold readAnchor? at h
  split at h
  · obtain ⟨behind, hword, hblanks⟩ := Option.bind_eq_some_iff.mp h
    have hshort := Text.skipBlanks?_length hblanks
    have hbehind : behind.length ≤ t.length := by
      rcases Option.or_eq_some_iff.mp hword with hfrom | ⟨_, hjoin⟩
      · exact (readWord?_suffix hfrom).length_le
      · exact (readWord?_suffix hjoin).length_le
    omega
  · cases h

theorem anchored_eq_some_iff {α : Type} {read : Text → Option (α × Text)} {left : Option Char}
    {t named rest : Text} {value : α} :
    anchored read left t = some ((value, named), rest) ↔
      readAnchor? left t = some named ∧ read named = some (value, rest) := by
  simp only [anchored, Option.bind_eq_bind, Option.bind_eq_some_iff, Prod.exists, Option.pure_def,
    Option.some.injEq, Prod.mk.injEq]
  constructor
  · rintro ⟨named, hanchor, value, rest, hread, ⟨rfl, rfl⟩, rfl⟩
    exact ⟨hanchor, hread⟩
  · rintro ⟨hanchor, hread⟩
    exact ⟨named, hanchor, value, rest, hread, ⟨rfl, rfl⟩, rfl⟩

theorem readAnchor?_of_isBlank {t : Text} (h : t.head?.all isBlank = true) (left : Option Char) :
    readAnchor? left t = none := by
  have hword (w : Char) (word : Text) (hw : isBlank w = false) :
      readWord? (w :: word) t = none := by
    cases t with
    | nil => rfl
    | cons c t => exact readWord?_of_isBlank hw h
  have hfrom : readWord? "from".toList t = none := hword 'f' "rom".toList (by decide)
  have hjoin : readWord? "join".toList t = none := hword 'j' "oin".toList (by decide)
  rw [readAnchor?, hfrom, hjoin, Option.or_none, Option.bind_none, ite_self]

/-- An anchor begins with the first letter of FROM or JOIN. -/
theorem readAnchor?_cons_eq_none {c : Char} (h : foldLetter c ∉ ['f', 'j']) (left : Option Char)
    (t : Text) : readAnchor? left (c :: t) = none := by
  have hword (w : Char) (word : Text) (hw : w ∈ ['f', 'j']) :
      readWord? (w :: word) (c :: t) = none := by
    rw [readWord?, if_neg]
    rintro rfl
    exact h hw
  have hfrom : readWord? "from".toList (c :: t) = none := hword 'f' "rom".toList (by decide)
  have hjoin : readWord? "join".toList (c :: t) = none := hword 'j' "oin".toList (by decide)
  rw [readAnchor?, hfrom, hjoin, Option.or_none, Option.bind_none, ite_self]

theorem hitsFrom_anchored_append {α : Type} (read : Text → Option (α × Text)) {x : Text}
    (h : ∀ c ∈ x, foldLetter c ∉ ['f', 'j']) (before : Option Char) (y : Text) :
    (anchored read).hitsFrom before 0 (x ++ y) =
      (anchored read).hitsFrom (x.getLast?.or before) 0 y := by
  refine Pattern.hitsFrom_append fun left s hne hs => ?_
  obtain ⟨c, t, rfl⟩ := List.exists_cons_of_ne_nil hne
  have hc := h c (hs.subset List.mem_cons_self)
  simp only [List.cons_append, anchored, readAnchor?_cons_eq_none hc left]
  rfl

/-- A name behind an anchor is searched for in the same way with a line break in front. -/
theorem ignoresNewline_anchored {α : Type} (read : Text → Option (α × Text)) :
    (anchored read).IgnoresNewline where
  at_newline left t := by
    simp only [anchored, readAnchor?_of_isBlank (t := '\n' :: t) (by simp) left]
    rfl
  behind_newline t := by simp only [anchored, readAnchor?, noWord_newline]

namespace Candidate

/-- When a hit is a candidate, and which one. -/
theorem ofHit?_eq_some_iff {form : NameForm} {statement here named rest : Text} {name : ObjectName}
    {candidate : Candidate} :
    ofHit? form statement ⟨here, (name, named), rest⟩ = some candidate ↔
      ¬ (name.qualifier = none ∧ rest.head? = some '.') ∧ isCall rest = false ∧
        candidate =
          { form
            reference :=
              { schema := name.qualifier
                table := name.name
                start := Text.size statement - Text.size named
                length := Text.size named - Text.size rest
                isTemporary := name.name.head? == some '#' } } := by
  have hlone : (name.qualifier.isNone && rest.head? == some '.') = true ↔
      name.qualifier = none ∧ rest.head? = some '.' := by
    rw [Bool.and_eq_true, Option.isNone_iff_eq_none, beq_iff_eq]
  simp only [ofHit?, hlone]
  split
  · rename_i hdot
    simp [hdot]
  · rename_i hdot
    cases hcall : isCall rest with
    | true => simp
    | false => simp [hdot, eq_comm]

theorem stop_le_of_ofHit? {form : NameForm} {statement : Text} {hit : Hit (ObjectName × Text)}
    {candidate : Candidate} (h : ofHit? form statement hit = some candidate)
    (hs : hit.value.2 <:+ statement) : candidate.reference.stop ≤ Text.size statement := by
  obtain ⟨here, ⟨name, named⟩, rest⟩ := hit
  have hle : Text.size named ≤ Text.size statement := Text.size_le_of_suffix hs
  obtain ⟨_, _, rfl⟩ := ofHit?_eq_some_iff.mp h
  simp only [Reference.stop]
  omega

theorem stop_le_of_mem_collect {statement : Text} {candidate : Candidate}
    (h : candidate ∈ collect statement) : candidate.reference.stop ≤ Text.size statement := by
  obtain ⟨form, _, hform⟩ := List.mem_flatMap.mp h
  obtain ⟨hit, hmem, hhit⟩ := List.mem_filterMap.mp hform
  obtain ⟨hhere, left, hread⟩ := Pattern.mem_hits hmem
  obtain ⟨hanchor, _⟩ := anchored_eq_some_iff.mp hread
  exact stop_le_of_ofHit? hhit ((readAnchor?_suffix hanchor).trans hhere)

theorem collect_of_isBlank {statement : Text} (h : Text.isBlank statement = true) :
    collect statement = [] := by
  have hhits (form : NameForm) : (anchored form.read?).hits statement = [] := by
    refine Pattern.hits_eq_nil fun left here hs => ?_
    have hblank : here.head?.all isBlank = true := by
      cases here with
      | nil => rfl
      | cons c here => exact List.all_eq_true.mp h c (hs.subset (by simp))
    simp only [anchored, readAnchor?_of_isBlank hblank left]
    rfl
  simp [collect, ofForm, hhits]

end Candidate

theorem stop_le_of_mem_references {statement : Text} {reference : Reference}
    (h : reference ∈ references statement) : reference.stop ≤ Text.size statement := by
  obtain ⟨candidate, hmem, rfl⟩ := List.mem_map.mp (Reference.mem_of_mem_reduce h)
  exact Candidate.stop_le_of_mem_collect hmem

theorem references_of_isBlank {statement : Text} (h : Text.isBlank statement = true) :
    references statement = [] := by
  rw [references, Candidate.collect_of_isBlank h]
  simp [Reference.reduce]

/-- How a statement writes a name: an identifier, or two with a dot between them. -/
inductive ObjectName.Spelled : ObjectName → Text → Prop where
  | lone {x : Text} (hx : IsWritten .folded x) : Spelled ⟨none, strip x⟩ x
  | qualified {x y : Text} (hx : IsWritten .folded x) (hy : IsWritten .folded y) :
    Spelled ⟨some (strip x), strip y⟩ (x ++ '.' :: y)

theorem ObjectName.Spelled.isTight {name : ObjectName} {written : Text}
    (h : name.Spelled written) : Text.IsTight written := by
  cases h with
  | lone hx => exact hx.isTight
  | @qualified x y hx hy =>
    obtain ⟨⟨c, rest, hfirst, hc⟩, _⟩ := hx.isTight
    obtain ⟨_, init, d, hlast, hd⟩ := hy.isTight
    refine ⟨⟨c, rest ++ '.' :: y, by rw [hfirst]; rfl, hc⟩, x ++ '.' :: init, d, ?_, hd⟩
    rw [hlast]
    simp

namespace NameForm

/-- The reader splits an identifier off the front of a text. -/
def ReadsIdentifier (readFirst : Text → Option (Text × Text)) : Prop :=
  ∀ t x rest, readFirst t = some (x, rest) → t = x ++ rest ∧ IsWritten .folded x

theorem readsIdentifier_readBracketed? : ReadsIdentifier readBracketed? := by
  intro t x rest h
  exact ⟨(readBracketed?_append h).symm, Or.inl (isBracketed_of_readBracketed? h)⟩

theorem readsIdentifier_readPlain? : ReadsIdentifier (readPlain? .folded) := by
  intro t x rest h
  exact ⟨(readPlain?_append h).symm, Or.inr (isPlain_of_readPlain? h)⟩

theorem spelled_of_readQualified? {readFirst : Text → Option (Text × Text)}
    (hread : ReadsIdentifier readFirst) {t rest : Text} {name : ObjectName}
    (h : readQualified? readFirst t = some (name, rest)) :
    ∃ written, t = written ++ rest ∧ name.Spelled written := by
  simp only [readQualified?, Option.bind_eq_bind, Option.bind_eq_some_iff, Prod.exists] at h
  obtain ⟨x, behind, hfirst, dotted, hdot, y, rest', hy, h⟩ := h
  obtain ⟨rfl, hx⟩ := hread _ _ _ hfirst
  obtain rfl := Text.skipChar?_eq_some_iff.mp hdot
  obtain rfl := read?_append hy
  obtain ⟨rfl, rfl⟩ := Prod.mk.inj (Option.some.inj h)
  exact ⟨x ++ '.' :: y, by simp, .qualified hx (isWritten_of_read? hy)⟩

theorem spelled_of_readLone? {readFirst : Text → Option (Text × Text)}
    (hread : ReadsIdentifier readFirst) {t rest : Text} {name : ObjectName}
    (h : readLone? readFirst t = some (name, rest)) :
    ∃ written, t = written ++ rest ∧ name.Spelled written := by
  simp only [readLone?, Option.bind_eq_bind, Option.bind_eq_some_iff, Prod.exists] at h
  obtain ⟨x, behind, hfirst, h⟩ := h
  obtain ⟨rfl, hx⟩ := hread _ _ _ hfirst
  obtain ⟨rfl, rfl⟩ := Prod.mk.inj (Option.some.inj h)
  exact ⟨x, rfl, .lone hx⟩

theorem spelled_of_read? {form : NameForm} {t rest : Text} {name : ObjectName}
    (h : form.read? t = some (name, rest)) :
    ∃ written, t = written ++ rest ∧ name.Spelled written := by
  cases form with
  | bracketedQualified => exact spelled_of_readQualified? readsIdentifier_readBracketed? h
  | plainQualified => exact spelled_of_readQualified? readsIdentifier_readPlain? h
  | bracketed => exact spelled_of_readLone? readsIdentifier_readBracketed? h
  | plain => exact spelled_of_readLone? readsIdentifier_readPlain? h

end NameForm

/-- The statement writes the name of the reference at the place of the reference. -/
def Reference.IsWrittenIn (reference : Reference) (statement : Text) : Prop :=
  ∃ written, Text.IsSlice statement reference.start reference.stop written ∧
    ObjectName.Spelled ⟨reference.schema, reference.table⟩ written

namespace Candidate

theorem isWrittenIn_of_ofHit? {form : NameForm} {statement before written rest here : Text}
    {name : ObjectName} {candidate : Candidate}
    (hs : statement = before ++ (written ++ rest)) (hname : name.Spelled written)
    (h : ofHit? form statement ⟨here, (name, written ++ rest), rest⟩ = some candidate) :
    candidate.reference.IsWrittenIn statement := by
  obtain ⟨_, _, rfl⟩ := ofHit?_eq_some_iff.mp h
  refine ⟨written, ⟨before, rest, by simpa using hs, ?_, ?_⟩, hname⟩
  · simp only [hs, Text.size_append]
    omega
  · simp only [Reference.stop, Text.size_append]
    omega

theorem isWrittenIn_of_mem_collect {statement : Text} {candidate : Candidate}
    (h : candidate ∈ collect statement) : candidate.reference.IsWrittenIn statement := by
  obtain ⟨form, _, hform⟩ := List.mem_flatMap.mp h
  obtain ⟨⟨here, ⟨name, named⟩, rest⟩, hmem, hhit⟩ := List.mem_filterMap.mp hform
  obtain ⟨hhere, left, hread⟩ := Pattern.mem_hits hmem
  obtain ⟨hanchor, hname⟩ := anchored_eq_some_iff.mp hread
  simp only at hname hhere
  obtain ⟨written, rfl, hspelled⟩ := NameForm.spelled_of_read? hname
  obtain ⟨before, hbefore⟩ := (readAnchor?_suffix hanchor).trans hhere
  exact isWrittenIn_of_ofHit? hbefore.symm hspelled hhit

end Candidate

/-- Every reference is written in the statement where it says. -/
theorem isWrittenIn_of_mem_references {statement : Text} {reference : Reference}
    (h : reference ∈ references statement) : reference.IsWrittenIn statement := by
  obtain ⟨candidate, hmem, rfl⟩ := List.mem_map.mp (Reference.mem_of_mem_reduce h)
  exact Candidate.isWrittenIn_of_mem_collect hmem

namespace Reference

theorem precedes_iff {r s : Reference} :
    r.precedes s = true ↔ r.start < s.start ∨ r.start = s.start ∧ s.length ≤ r.length := by
  simp [precedes]

theorem precedes_trans (r s t : Reference) (h : r.precedes s = true) (h' : s.precedes t = true) :
    r.precedes t = true := by
  rw [precedes_iff] at h h' ⊢
  omega

theorem precedes_total (r s : Reference) : (r.precedes s || s.precedes r) = true := by
  rw [Bool.or_eq_true, precedes_iff, precedes_iff]
  omega

def IsBefore (r s : Reference) : Prop := r.start < s.start ∧ r.stop < s.stop

/-- What comes later and is not contained starts later and ends later. -/
theorem isBefore_of_not_contains {r s : Reference} (h : r.precedes s = true)
    (hc : r.contains s = false) : r.IsBefore s := by
  have houtside : ¬ (r.start ≤ s.start ∧ s.stop ≤ r.stop) := by simpa [contains] using hc
  rw [precedes_iff] at h
  simp only [stop] at houtside
  simp only [IsBefore, stop]
  omega

/-- Keeping one more reference keeps the order. -/
theorem pairwise_keep {kept : List Reference} {reference : Reference}
    (hkept : kept.Pairwise IsBefore) (h : ∀ r ∈ kept, r.precedes reference = true) :
    (keep kept reference).Pairwise IsBefore := by
  cases hany : kept.any (·.contains reference) with
  | true =>
    rw [keep_of_contained hany]
    exact hkept
  | false =>
    rw [keep_of_not_contained hany]
    refine List.pairwise_append.mpr ⟨hkept, List.pairwise_singleton _ _, ?_⟩
    intro r hr s hs
    obtain rfl := List.mem_singleton.mp hs
    have hc : r.contains s = false := by simpa using List.any_eq_false.mp hany r hr
    exact isBefore_of_not_contains (h r hr) hc

theorem pairwise_foldl_keep {kept l : List Reference} (hkept : kept.Pairwise IsBefore)
    (hl : l.Pairwise (fun r s => r.precedes s = true))
    (h : ∀ r ∈ kept, ∀ s ∈ l, r.precedes s = true) : (l.foldl keep kept).Pairwise IsBefore := by
  induction l generalizing kept with
  | nil => exact hkept
  | cons next l ih =>
    obtain ⟨hnext, hl⟩ := List.pairwise_cons.mp hl
    apply ih (pairwise_keep hkept fun r hr => h r hr next List.mem_cons_self) hl
    intro r hr s hs
    have hmem : r ∈ [next].foldl keep kept := hr
    rcases mem_foldl_keep hmem with hold | hnew
    · exact h r hold s (List.mem_cons_of_mem _ hs)
    · obtain rfl := List.mem_singleton.mp hnew
      exact hnext s hs

/-- Reduced references come in the order of the text, by their starts and by their ends. -/
theorem pairwise_reduce (l : List Reference) : (reduce l).Pairwise IsBefore := by
  have hsorted := List.pairwise_mergeSort precedes_trans precedes_total l
  exact pairwise_foldl_keep .nil hsorted (by simp)

end Reference

theorem pairwise_references (statement : Text) :
    (references statement).Pairwise Reference.IsBefore :=
  Reference.pairwise_reduce _

end SqlAssist
