import SqlAssist.Proofs.Identifier.Qualified
import SqlAssist.Scope

/-! # Items as they are written

An item is written as the name of its table and its alias behind it, with AS or without. Each name
is read to its end and for no more than it is: an alias not for AS, for a keyword or for an argument
list, and what follows an item not for its alias. So a list of items with commas between them is read
item by item. -/
namespace SqlAssist

open Character Identifier

theorem isAliasStopWord_quote {name : Text} (h : isAliasStopWord name = false) :
    isAliasStopWord (quote name) = false := by
  cases hword : isPlainWord name with
  | true => rwa [quote_of_isPlainWord hword]
  | false =>
    have hwords : ∀ word ∈ aliasStopWords, word.head?.map Char.toLower ≠ some '[' := by
      decide
    rw [quote_of_not_isPlainWord hword]
    refine List.any_eq_false.mpr fun word hmem heq => hwords word hmem ?_
    rw [← List.head?_map, Text.eqIgnoreCase_iff.mp heq]
    rfl

namespace Item

variable {joined rest : Text}

/-- What is written of an alias is not an AS with white space behind it, unless it is that word and
white space follows. -/
theorem not_as (h : ReadsBack joined) (hrest : EndsName rest)
    (has : joined.map foldLetter = "as".toList → Text.skipBlanks? rest = none) :
    (readWord? "as".toList (quote joined ++ rest)).bind Text.skipBlanks? = none := by
  cases hword : isPlainWord joined with
  | false =>
    rw [quote_of_not_isPlainWord hword]
    rfl
  | true =>
    rw [quote_of_isPlainWord hword, Option.bind_eq_none_iff]
    intro behind hread
    obtain ⟨x, heq, hfold⟩ := exists_of_readWord? hread
    rcases List.append_eq_append_iff.mp heq with ⟨r, rfl, rfl⟩ | ⟨r, rfl, rfl⟩
    · cases r with
      | nil => exact has (by simpa using hfold)
      | cons c r =>
        have hletter : foldLetter c ∈ "as".toList := by
          rw [← hfold]
          exact List.mem_map_of_mem (by simp)
        have hends : ∀ c ∈ [' ', '.', ','], foldLetter c ∉ "as".toList :=
          Text.forall_of_all (by decide)
        rcases hrest with hnil | ⟨d, hd, hhead⟩
        · cases hnil
        · obtain rfl : c = d := Option.some.inj hhead
          exact absurd hletter (hends c hd)
    · cases r with
      | nil => exact has (by simpa using hfold)
      | cons c r =>
        have hpart := isNamePart_of_mem_isPlain (h.isPlain hword) (c := c) (by simp)
        have hblank := Letters.not_isBlank_of_isNamePart hpart
        simp [Text.skipBlanks?, hblank]

/-- An alias that is not one of the words that are no aliases is read as it was meant. -/
theorem readAlias_quote (h : ReadsBack joined) (hstop : isAliasStopWord joined = false)
    (hrest : EndsName rest)
    (has : joined.map foldLetter = "as".toList → Text.skipBlanks? rest = none) :
    readAlias (' ' :: (quote joined ++ rest)) = (some joined, rest) := by
  have hread := h.isWritten.read?_append (hrest.not_isNamePart .folded)
  have hname : readAliasName? (' ' :: (quote joined ++ rest)) = some (quote joined, rest) := by
    simp only [readAliasName?, Text.skipBlanks?_of_isTight h.isWritten.isTight,
      not_as h hrest has, hread, Option.bind_eq_bind, Option.bind_some, Option.bind_none,
      Option.none_or]
  simp only [readAlias, hname, isAliasStopWord_quote hstop, strip_quote, Bool.false_eq_true,
    if_false]

theorem readAlias_as_quote (h : ReadsBack joined) (hstop : isAliasStopWord joined = false)
    (hrest : EndsName rest) :
    readAlias (" AS ".toList ++ (quote joined ++ rest)) = (some joined, rest) := by
  have hread := h.isWritten.read?_append (hrest.not_isNamePart .folded)
  have hblanks := Text.skipBlanks?_of_isTight h.isWritten.isTight rest
  have hword : Text.skipBlanks? (" AS ".toList ++ (quote joined ++ rest)) =
      some ("AS".toList ++ ' ' :: (quote joined ++ rest)) := rfl
  have has : readWord? "as".toList ("AS".toList ++ ' ' :: (quote joined ++ rest)) =
      some (' ' :: (quote joined ++ rest)) := rfl
  have hname : readAliasName? (" AS ".toList ++ (quote joined ++ rest)) =
      some (quote joined, rest) := by
    simp only [readAliasName?, hword, has, hblanks, hread, Option.bind_eq_bind, Option.bind_some,
      Option.some_or]
  simp only [readAlias, hname, isAliasStopWord_quote hstop, strip_quote, Bool.false_eq_true,
    if_false]

theorem not_isCall_quote (h : ReadsBack joined) (rest : Text) :
    isCall (' ' :: (quote joined ++ rest)) = false := by
  have htrim : Text.trimStart (' ' :: (quote joined ++ rest)) = quote joined ++ rest := by
    rw [Text.trimStart, List.dropWhile_cons_of_pos isBlank_space]
    exact Text.trimStart_of_isTight h.isWritten.isTight rest
  rw [isCall, htrim, beq_eq_false_iff_ne]
  rcases h.isWritten with ⟨body, hbody, _⟩ | hplain
  · rw [hbody]
    simp
  · obtain ⟨⟨c, t, hquote, _⟩, _⟩ := isTight_of_isPlain hplain
    have hpart := isNamePart_of_mem_isPlain hplain (c := c) (by rw [hquote]; simp)
    rw [hquote]
    rintro hhead
    obtain rfl : c = '(' := Option.some.inj hhead
    exact absurd hpart (by decide)

theorem listFrom_of_none {name : ObjectName} {t behind : Text} {alias? : Option Text}
    (hcall : isCall t = false) (halias : readAlias t = (alias?, behind))
    (hnext : readNext? behind = none) : listFrom name t = [⟨name, alias?⟩] := by
  rw [listFrom, if_neg (by simp [hcall])]
  split
  · rename_i hread
    rw [halias, hnext] at hread
    cases hread
  · rw [halias]

theorem listFrom_of_some {name next : ObjectName} {t behind rest : Text} {alias? : Option Text}
    (hcall : isCall t = false) (halias : readAlias t = (alias?, behind))
    (hnext : readNext? behind = some (next, rest)) :
    listFrom name t = ⟨name, alias?⟩ :: listFrom next rest := by
  rw [listFrom, if_neg (by simp [hcall])]
  split
  · rename_i hread
    rw [halias, hnext] at hread
    obtain ⟨rfl, rfl⟩ := Prod.mk.inj (Option.some.inj hread)
    rw [halias]
  · rename_i hread
    rw [halias, hnext] at hread
    cases hread

def names (item : Item) : List Text := item.name.parts ++ item.alias?.toList

/-- Every name of the item can be written, and its alias is not a word that is no alias. -/
structure IsWritable (item : Item) : Prop where
  nameable : ∀ name ∈ item.names, IsNameable name
  alias_allowed : ∀ name ∈ item.alias?, isAliasStopWord name = false

instance (item : Item) : Decidable item.IsWritable :=
  decidable_of_iff ((∀ name ∈ item.names, IsNameable name) ∧
    ∀ name ∈ item.alias?, isAliasStopWord name = false)
    ⟨fun h => ⟨h.1, h.2⟩, fun h => ⟨h.1, h.2⟩⟩

end Item

/-- An item and how its alias is written, with AS in front of it or without. -/
structure WrittenItem extends Item where
  withAs : Bool
deriving DecidableEq, Repr

def EndsItem (rest : Text) : Prop := rest = [] ∨ ∃ behind, rest = ',' :: behind

theorem EndsItem.endsName {rest : Text} (h : EndsItem rest) : EndsName rest := by
  rcases h with rfl | ⟨behind, rfl⟩
  · exact Or.inl rfl
  · exact .of_head? (by decide) rfl

theorem EndsItem.skipBlanks?_eq_none {rest : Text} (h : EndsItem rest) :
    Text.skipBlanks? rest = none := by
  rcases h with rfl | ⟨behind, rfl⟩
  · rfl
  · rfl

namespace WrittenItem

/-- What stands behind the name of the table. -/
def aliasText (written : WrittenItem) : Text :=
  match written.alias? with
  | none => []
  | some name => (if written.withAs then " AS ".toList else [' ']) ++ quote name

def text (written : WrittenItem) : Text := written.name.written ++ written.aliasText

variable {written : WrittenItem} {rest : Text}

theorem readAlias_aliasText (h : written.IsWritable) (hrest : EndsItem rest) :
    Item.readAlias (written.aliasText ++ rest) = (written.alias?, rest) := by
  unfold aliasText
  cases halias : written.alias? with
  | none =>
    have hnone : Item.readAliasName? rest = none := by
      simp only [Item.readAliasName?, hrest.skipBlanks?_eq_none, Option.bind_eq_bind,
        Option.bind_none]
    simp only [List.nil_append, Item.readAlias, hnone]
  | some name =>
    have hname : IsNameable name := h.nameable name (by simp [Item.names, halias])
    have hstop := h.alias_allowed name halias
    cases written.withAs with
    | true => exact Item.readAlias_as_quote hname.readsBack hstop hrest.endsName
    | false =>
      exact Item.readAlias_quote hname.readsBack hstop hrest.endsName
        fun _ => hrest.skipBlanks?_eq_none

theorem not_isCall_aliasText (h : written.IsWritable) (hrest : EndsItem rest) :
    isCall (written.aliasText ++ rest) = false := by
  unfold aliasText
  cases halias : written.alias? with
  | none =>
    rcases hrest with rfl | ⟨behind, rfl⟩
    · rfl
    · rfl
  | some name =>
    have hname : IsNameable name := h.nameable name (by simp [Item.names, halias])
    cases written.withAs with
    | true => rfl
    | false => exact Item.not_isCall_quote hname.readsBack rest

theorem endsName_aliasText (written : WrittenItem) (hrest : EndsItem rest) :
    EndsName (written.aliasText ++ rest) ∧ (written.aliasText ++ rest).head? ≠ some '.' := by
  have hspace (t : Text) : EndsName (' ' :: t) ∧ (' ' :: t).head? ≠ some '.' :=
    ⟨.of_head? (by decide) rfl, by simp⟩
  unfold aliasText
  cases written.alias? with
  | none =>
    refine ⟨hrest.endsName, ?_⟩
    rcases hrest with rfl | ⟨behind, rfl⟩
    · simp
    · simp
  | some name =>
    cases written.withAs with
    | true => exact hspace _
    | false => exact hspace _

theorem nameable_parts (h : written.IsWritable) : ∀ part ∈ written.name.parts, IsNameable part :=
  fun part hpart => h.nameable part (List.mem_append_left _ hpart)

theorem read?_text (h : written.IsWritable) (hrest : EndsItem rest) (letters : Letters) :
    ObjectName.read? letters (written.text ++ rest) =
      some (written.name, written.aliasText ++ rest) := by
  obtain ⟨hends, hdot⟩ := endsName_aliasText written hrest
  rw [text, List.append_assoc]
  exact ObjectName.read?_written (fun part hpart => (nameable_parts h part hpart).isWritten letters)
    hends fun _ => hdot

theorem isTight_name (h : written.IsWritable) : Text.IsTight written.name.written :=
  ObjectName.isTight_written fun part hpart => (nameable_parts h part hpart).isWritten .folded

def behindFirst (more : List WrittenItem) : Text := (more.map text).flatMap (", ".toList ++ ·)

theorem endsItem_behindFirst (more : List WrittenItem) : EndsItem (behindFirst more) := by
  cases more with
  | nil => exact Or.inl rfl
  | cons next more => exact Or.inr ⟨_, rfl⟩

theorem behindFirst_cons (next : WrittenItem) (more : List WrittenItem) :
    behindFirst (next :: more) = ", ".toList ++ (next.text ++ behindFirst more) := by
  rw [behindFirst, List.map_cons, List.flatMap_cons, List.append_assoc]
  rfl

theorem readNext?_text (h : written.IsWritable) (hrest : EndsItem rest) :
    Item.readNext? (", ".toList ++ (written.text ++ rest)) =
      some (written.name, written.aliasText ++ rest) := by
  have htrim : Text.trimStart (' ' :: (written.text ++ rest)) = written.text ++ rest := by
    rw [Text.trimStart, List.dropWhile_cons_of_pos isBlank_space, text, List.append_assoc]
    exact Text.trimStart_of_isTight (isTight_name h) _
  have hcomma : Text.skipChar? ',' (Text.trimStart (", ".toList ++ (written.text ++ rest))) =
      some (' ' :: (written.text ++ rest)) := rfl
  simp only [Item.readNext?, hcomma, htrim, Option.bind_eq_bind, Option.bind_some]
  exact read?_text h hrest .exact

/-- From the name of its first item on, a list is read item by item. -/
theorem listFrom_behindFirst (first : WrittenItem) (more : List WrittenItem)
    (h : ∀ written ∈ first :: more, written.IsWritable) :
    Item.listFrom first.name (first.aliasText ++ behindFirst more) =
      (first :: more).map toItem := by
  induction more generalizing first with
  | nil =>
    have hfirst := h first List.mem_cons_self
    have hends := endsItem_behindFirst []
    have halias := readAlias_aliasText hfirst hends
    exact Item.listFrom_of_none (not_isCall_aliasText hfirst hends) halias rfl
  | cons next more ih =>
    have hfirst := h first List.mem_cons_self
    have hnext := h next (by simp)
    have hends := endsItem_behindFirst (next :: more)
    have halias := readAlias_aliasText hfirst hends
    have hread := readNext?_text hnext (endsItem_behindFirst more)
    rw [← behindFirst_cons] at hread
    rw [Item.listFrom_of_some (not_isCall_aliasText hfirst hends) halias hread,
      ih next fun written hmem => h written (List.mem_cons_of_mem first hmem)]
    rfl

end WrittenItem

end SqlAssist
