import SqlAssist.Proofs.Identifier.Quoting
import SqlAssist.Proofs.Mask.Scan
import SqlAssist.Proofs.Reference.Written
import SqlAssist.Suggestion

/-! # Table names as they are inserted

A text is inert when it holds neither a comment nor a terminator and leaves nothing open: whatever
follows it, masking copies it and it stays in one segment. Names are inert as they are written. A
table is named by its schema, if it is given, and its name; when both are read to their end, they are
read as a whole behind FROM and JOIN, by every reader of table names. -/
namespace SqlAssist

open Character Identifier Statement Suggestion Token

/-- The text is copied by masking and not cut, in front of any text. -/
structure Inert (x : Text) : Prop where
  mask_append : ∀ t, mask (x ++ t) = x ++ mask t
  texts_append : ∀ t, texts (x ++ t) = (texts t).modifyHead (x ++ ·)

namespace Inert

theorem mask_eq {x : Text} (h : Inert x) : mask x = x := by
  have hx := h.mask_append []
  rwa [mask_nil, List.append_nil] at hx

theorem texts_eq {x : Text} (h : Inert x) : texts x = [x] := by
  have hx := h.texts_append []
  rwa [texts_nil, List.modifyHead_cons, List.append_nil] at hx

theorem append {x y : Text} (hx : Inert x) (hy : Inert y) : Inert (x ++ y) where
  mask_append t := by rw [List.append_assoc, hx.mask_append, hy.mask_append, List.append_assoc]
  texts_append t := by
    have hcompose : (x ++ ·) ∘ (y ++ ·) = (x ++ y ++ ·) :=
      funext fun t => (List.append_assoc x y t).symm
    rw [List.append_assoc, hx.texts_append, hy.texts_append, List.modifyHead_modifyHead, hcompose]

end Inert

def openers : List Char := ['\'', '"', '[', ';', '-', '/']

theorem region?_cons_of_not_mem_openers {c : Char} (h : c ∉ openers) (t : Text) :
    region? (c :: t) = none := by
  have hne : ∀ d ∈ openers, c ≠ d := by
    rintro d hd rfl
    exact h hd
  rw [region?_eq_none_iff, opening?_cons_eq_none_iff]
  refine ⟨⟨hne _ (by decide), hne _ (by decide), hne _ (by decide), hne _ (by decide)⟩, ?_, ?_⟩
  · exact fun hp => hne '-' (by decide) (List.cons_prefix_cons.mp hp).1.symm
  · exact fun hp => hne '/' (by decide) (List.cons_prefix_cons.mp hp).1.symm

theorem inert_of_not_mem_openers {x : Text} (h : ∀ c ∈ x, c ∉ openers) : Inert x := by
  induction x with
  | nil =>
    refine ⟨fun t => rfl, fun t => ?_⟩
    obtain ⟨first, others, ht⟩ := exists_texts_cons t
    rw [List.nil_append, ht]
    rfl
  | cons c x ih =>
    have hc (t : Text) : region? (c :: t) = none :=
      region?_cons_of_not_mem_openers (h c List.mem_cons_self) t
    have hx := ih fun d hd => h d (List.mem_cons_of_mem c hd)
    constructor
    · intro t
      rw [List.cons_append, mask_cons_of_code (hc _), hx.mask_append, List.cons_append]
    · intro t
      rw [List.cons_append, texts_of_code (hc _), hx.texts_append, List.modifyHead_modifyHead]
      rfl

theorem region?_brackets {body : Text} (h : ']' ∉ body) (t : Text) :
    region? ('[' :: body ++ [']'] ++ t) = some (⟨.bracketed, '[' :: body ++ [']']⟩, t) := by
  refine region?_eq_some_iff.mpr ⟨by simp, rfl, body ++ [']'], rfl, Or.inl ⟨?_, ?_⟩⟩
  · exact List.suffix_append body [']']
  · rw [List.dropLast_concat]
    exact fun hpart => h (hpart.subset List.mem_cons_self)

theorem inert_brackets {body : Text} (h : ']' ∉ body) : Inert ('[' :: body ++ [']']) where
  mask_append t := mask_of_region (region?_brackets h t)
  texts_append t := texts_of_other (region?_brackets h t) rfl

theorem inert_quote {name : Text} (h : ']' ∉ name) : Inert (Identifier.quote name) := by
  cases hword : Identifier.isPlainWord name with
  | false =>
    rw [Identifier.quote_of_not_isPlainWord hword]
    exact inert_brackets h
  | true =>
    have hopeners : ∀ c ∈ openers, isAlphanumeric c = false ∧ c ∉ ['_', '$', '@', '#'] :=
      Text.forall_of_all (by decide)
    rw [Identifier.quote_of_isPlainWord hword]
    refine inert_of_not_mem_openers fun c hc hopener => ?_
    obtain ⟨halnum, hsign⟩ := hopeners c hopener
    rcases Identifier.isAlphanumeric_of_mem_isPlainWord hword hc with hword | hmem
    · rw [halnum] at hword
      cases hword
    · exact hsign hmem

namespace Identifier

/-- The name holds no closing bracket and is in one of the two spellings as it is written. -/
structure ReadsBack (name : Text) : Prop where
  not_mem : ']' ∉ name
  isWritten : IsWritten .folded (quote name)

theorem ReadsBack.isPlain {name : Text} (h : ReadsBack name) (hword : isPlainWord name = true) :
    IsPlain .folded name := by
  have hwritten := h.isWritten
  rw [quote_of_isPlainWord hword] at hwritten
  exact hwritten.resolve_left (not_isBracketed_of_not_mem h.not_mem)

theorem isNameStart_folded {c : Char} (h : Letters.exact.isNameStart c = true) :
    Letters.folded.isNameStart c = true := by
  simp only [Letters.isNameStart, Letters.isLetter, Bool.or_eq_true] at h ⊢
  rcases h with (hletter | hfolded) | hunderscore
  · exact Or.inl (Or.inl hletter)
  · cases hfolded
  · exact Or.inr hunderscore

theorem isNamePart_folded {c : Char} (h : Letters.exact.isNamePart c = true) :
    Letters.folded.isNamePart c = true := by
  simp only [Letters.isNamePart, Bool.or_eq_true] at h ⊢
  rcases h with (((hstart | hnumber) | hdollar) | hat) | hsign
  · exact Or.inl (Or.inl (Or.inl (Or.inl (isNameStart_folded hstart))))
  · exact Or.inl (Or.inl (Or.inl (Or.inr hnumber)))
  · exact Or.inl (Or.inl (Or.inr hdollar))
  · exact Or.inl (Or.inr hat)
  · exact Or.inr hsign

theorem isPlain_folded {name : Text} (h : IsPlain .exact name) : IsPlain .folded name := by
  obtain ⟨n, first, rest, rfl, hn, hfirst, hrest⟩ := h
  exact ⟨n, first, rest, rfl, hn, isNameStart_folded hfirst,
    fun c hc => isNamePart_folded (hrest c hc)⟩

/-- A name that is not empty, holds no closing bracket, and is plain or written in brackets. -/
structure IsNameable (name : Text) : Prop where
  ne_nil : name ≠ []
  not_mem : ']' ∉ name
  plain_or_bracketed : IsPlain .exact name ∨ quote name = '[' :: name ++ [']']

instance (name : Text) : Decidable (IsNameable name) :=
  decidable_of_iff
    (name ≠ [] ∧ ']' ∉ name ∧ (IsPlain .exact name ∨ quote name = '[' :: name ++ [']']))
    ⟨fun h => ⟨h.1, h.2.1, h.2.2⟩, fun h => ⟨h.1, h.2, h.3⟩⟩

theorem IsNameable.isWritten {name : Text} (h : IsNameable name) (letters : Letters) :
    IsWritten letters (quote name) := by
  refine (isWritten_quote_iff h.ne_nil h.not_mem).mpr fun hword => ?_
  rcases h.plain_or_bracketed with hplain | hbracketed
  · cases letters with
    | exact => exact hplain
    | folded => exact isPlain_folded hplain
  · rw [quote_of_isPlainWord hword] at hbracketed
    have hmem : ']' ∈ name := by
      rw [hbracketed]
      simp
    exact absurd hmem h.not_mem

theorem IsNameable.readsBack {name : Text} (h : IsNameable name) : ReadsBack name :=
  ⟨h.not_mem, h.isWritten .folded⟩

/-- The readers of one spelling agree with the reader of both. -/
theorem read?_of_readBracketed? {letters : Letters} {t : Text} {found : Text × Text}
    (h : readBracketed? t = some found) : read? letters t = some found := by
  rw [read?, h, Option.some_or]

theorem read?_of_readPlain? {letters : Letters} {t : Text} {found : Text × Text}
    (h : readPlain? letters t = some found) : read? letters t = some found := by
  obtain ⟨name, rest⟩ := found
  have hhead := head?_ne_bracket_of_isPlain (isPlain_of_readPlain? h) rest
  rw [readPlain?_append h] at hhead
  rw [read?, readBracketed?_of_head? hhead, Option.none_or, h]

end Identifier

namespace NameForm

def IsSpecialCase (readFirst : Text → Option (Text × Text)) : Prop :=
  ∀ t found, readFirst t = some found → Identifier.read? .folded t = some found

theorem isSpecialCase_readBracketed? : IsSpecialCase readBracketed? :=
  fun _ _ h => read?_of_readBracketed? h

theorem isSpecialCase_readPlain? : IsSpecialCase (readPlain? .folded) :=
  fun _ _ h => read?_of_readPlain? h

end NameForm

namespace ObjectName

def parts (name : ObjectName) : List Text := name.qualifier.toList ++ [name.name]

/-- A table name as it is written. -/
def written (name : ObjectName) : Text :=
  match name.qualifier with
  | none => quote name.name
  | some schema => quote schema ++ '.' :: quote name.name

variable {name : ObjectName}

theorem inert_written (h : ∀ part ∈ name.parts, ']' ∉ part) : Inert name.written := by
  obtain ⟨qualifier, name⟩ := name
  have hname : Inert (quote name) := inert_quote (h name (by simp [parts]))
  cases qualifier with
  | none => exact hname
  | some schema =>
    have hdot : Inert ['.'] := inert_of_not_mem_openers (Text.forall_of_all (by decide))
    have hall := (inert_quote (h schema (by simp [parts]))).append (hdot.append hname)
    exact hall

theorem isTight_written (h : ∀ part ∈ name.parts, IsWritten .folded (quote part)) :
    Text.IsTight name.written := by
  obtain ⟨qualifier, name⟩ := name
  have hname := h name (by simp [parts])
  cases qualifier with
  | none => exact hname.isTight
  | some schema => exact (Spelled.qualified (h schema (by simp [parts])) hname).isTight

/-- A table name is read back, as long as what follows it is no further part of it. -/
theorem read?_written {letters : Letters} (h : ∀ part ∈ name.parts, IsWritten letters (quote part))
    {rest : Text} (hrest : EndsName rest) (hdot : name.qualifier = none → rest.head? ≠ some '.') :
    read? letters (name.written ++ rest) = some (name, rest) := by
  obtain ⟨qualifier, name⟩ := name
  have hname : Identifier.read? letters (quote name ++ rest) = some (quote name, rest) :=
    (h name (by simp [parts])).read?_append (hrest.not_isNamePart letters)
  cases qualifier with
  | none =>
    simp only [written, read?, hname, Option.bind_eq_bind, Option.bind_some, strip_quote]
    split
    · exact absurd rfl (hdot rfl)
    · rfl
  | some schema =>
    have hends : EndsName ('.' :: (quote name ++ rest)) := .of_head? (by decide) rfl
    have hschema : Identifier.read? letters (quote schema ++ '.' :: (quote name ++ rest)) =
        some (quote schema, '.' :: (quote name ++ rest)) :=
      (h schema (by simp [parts])).read?_append (hends.not_isNamePart letters)
    simp only [written, List.append_assoc, List.cons_append, read?, hschema, hname,
      Option.bind_eq_bind, Option.bind_some, strip_quote, Option.pure_def]

end ObjectName

/-- Both parts of the qualified name of the table are read to their end. -/
structure Table.ReadsBack (table : Table) : Prop where
  schema : Identifier.ReadsBack table.schema
  name : Identifier.ReadsBack table.name

namespace Table.ReadsBack

variable {table : Table}

theorem parts (h : table.ReadsBack) :
    ∀ part ∈ (⟨some table.schema, table.name⟩ : ObjectName).parts, Identifier.ReadsBack part := by
  simp only [ObjectName.parts, Option.toList_some, List.cons_append, List.nil_append,
    List.forall_mem_cons]
  exact ⟨h.schema, h.name, by simp⟩

theorem inert (h : table.ReadsBack) : Inert (qualifiedName table) :=
  ObjectName.inert_written fun part hpart => (h.parts part hpart).not_mem

theorem isTight (h : table.ReadsBack) : Text.IsTight (qualifiedName table) :=
  ObjectName.isTight_written fun part hpart => (h.parts part hpart).isWritten

theorem read?_parts (h : table.ReadsBack) :
    Identifier.read? .folded (qualifiedName table) =
        some (quote table.schema, '.' :: quote table.name) ∧
      Identifier.read? .folded (quote table.name) = some (quote table.name, []) := by
  have hends : EndsName ('.' :: quote table.name) := .of_head? (by decide) rfl
  have hname : Identifier.read? .folded (quote table.name ++ []) = some (quote table.name, []) :=
    h.name.isWritten.read?_append (by simp)
  rw [List.append_nil] at hname
  exact ⟨h.schema.isWritten.read?_append (hends.not_isNamePart .folded), hname⟩

/-- The qualified name is read as a whole. -/
theorem objectName_read? (h : table.ReadsBack) {rest : Text} (hrest : EndsName rest) :
    ObjectName.read? .folded (qualifiedName table ++ rest) =
      some (⟨some table.schema, table.name⟩, rest) := by
  have hwritten := fun part hpart => (h.parts part hpart).isWritten
  exact ObjectName.read?_written hwritten hrest (by simp)

end Table.ReadsBack

theorem Text.trimStart_of_isTight {x : Text} (h : Text.IsTight x) (t : Text) :
    Text.trimStart (x ++ t) = x ++ t := by
  obtain ⟨⟨c, rest, rfl, hc⟩, _⟩ := h
  rw [List.cons_append, Text.trimStart, List.dropWhile_cons_of_neg (by simp [hc])]

theorem Text.skipBlanks?_of_isTight {x : Text} (h : Text.IsTight x) (t : Text) :
    Text.skipBlanks? (' ' :: (x ++ t)) = some (x ++ t) := by
  rw [Text.skipBlanks?, if_pos isBlank_space, Text.trimStart_of_isTight h]

theorem readAnchor?_append {left : Option Char} (hleft : noWord left = true) {x : Text}
    (hx : Text.IsTight x) (t : Text) :
    readAnchor? left ("FROM ".toList ++ (x ++ t)) = some (x ++ t) ∧
      readAnchor? left ("JOIN ".toList ++ (x ++ t)) = some (x ++ t) := by
  have hblanks := Text.skipBlanks?_of_isTight hx t
  have hfrom : readWord? "from".toList ("FROM ".toList ++ (x ++ t)) = some (' ' :: (x ++ t)) := rfl
  have hjoin : readWord? "join".toList ("JOIN ".toList ++ (x ++ t)) = some (' ' :: (x ++ t)) := rfl
  have hnot : readWord? "from".toList ("JOIN ".toList ++ (x ++ t)) = none := rfl
  constructor
  · rw [readAnchor?, if_pos hleft, hfrom, Option.some_or, Option.bind_some, hblanks]
  · rw [readAnchor?, if_pos hleft, hnot, hjoin, Option.none_or, Option.bind_some, hblanks]

end SqlAssist
