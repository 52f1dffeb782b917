import SqlAssist.Proofs.Reference.Anchor
import SqlAssist.Proofs.Scope.Alias
import SqlAssist.Proofs.Scope.Item

/-! # Lists behind FROM

A list of items behind FROM is read back as the items it was written from. None of it looks like a
comment, and no FROM or JOIN stands alone in it when none does in a name, so all of it is read from
the one FROM in front. The tables in scope are then those of the items that resolve, each name kept
for the first item that has it. -/
namespace SqlAssist

open Character Identifier

namespace WrittenItem

theorem inert_text {written : WrittenItem} (h : written.IsWritable) : Inert written.text := by
  have hname := ObjectName.inert_written fun part hpart => (nameable_parts h part hpart).not_mem
  refine hname.append ?_
  unfold aliasText
  cases halias : written.alias? with
  | none => exact inert_of_not_mem_openers (by simp)
  | some name =>
    have hnameable : IsNameable name := h.nameable name (by simp [Item.names, halias])
    have hquote := inert_quote hnameable.not_mem
    cases written.withAs with
    | true => exact (inert_of_not_mem_openers (Text.forall_of_all (by decide))).append hquote
    | false => exact (inert_of_not_mem_openers (Text.forall_of_all (by decide))).append hquote

theorem inert_behindFirst {more : List WrittenItem} (h : ∀ written ∈ more, written.IsWritable) :
    Inert (behindFirst more) := by
  induction more with
  | nil => exact inert_of_not_mem_openers (by simp [behindFirst])
  | cons next more ih =>
    have hcomma : Inert ", ".toList := inert_of_not_mem_openers (Text.forall_of_all (by decide))
    rw [behindFirst_cons]
    exact hcomma.append ((inert_text (h next List.mem_cons_self)).append
      (ih fun written hmem => h written (List.mem_cons_of_mem next hmem)))

end WrittenItem

theorem not_occurs_anchorWord_quote {name : Text} (h : anchorWord.occurs name = false) :
    anchorWord.occurs (quote name) = false := by
  cases hword : isPlainWord name with
  | true => rwa [quote_of_isPlainWord hword]
  | false =>
    have hclosed : anchorWord.occurs (name ++ [']']) = false :=
      not_occurs_anchorWord_append (by decide) h rfl
    rw [quote_of_not_isPlainWord hword]
    exact not_occurs_anchorWord_append (x := []) (by decide) rfl hclosed

theorem ObjectName.not_occurs_written {name : ObjectName}
    (h : ∀ part ∈ name.parts, anchorWord.occurs part = false) :
    anchorWord.occurs name.written = false := by
  obtain ⟨qualifier, name⟩ := name
  have hname := not_occurs_anchorWord_quote (h name (by simp [parts]))
  cases qualifier with
  | none => exact hname
  | some schema =>
    have hschema := not_occurs_anchorWord_quote (h schema (by simp [parts]))
    exact not_occurs_anchorWord_append (by decide) hschema hname

/-- The item can be written, and no FROM or JOIN stands alone in a name of it. -/
structure Item.IsListable (item : Item) : Prop extends item.IsWritable where
  no_anchor : ∀ name ∈ item.names, anchorWord.occurs name = false

instance (item : Item) : Decidable item.IsListable :=
  decidable_of_iff (item.IsWritable ∧ ∀ name ∈ item.names, anchorWord.occurs name = false)
    ⟨fun h => ⟨h.1, h.2⟩, fun h => ⟨h.toIsWritable, h.no_anchor⟩⟩

namespace WrittenItem

theorem not_occurs_text {written : WrittenItem} (h : written.IsListable) :
    anchorWord.occurs written.text = false := by
  have hname : anchorWord.occurs written.name.written = false :=
    ObjectName.not_occurs_written fun part hpart => h.no_anchor part (List.mem_append_left _ hpart)
  unfold text aliasText
  cases halias : written.alias? with
  | none => rwa [List.append_nil]
  | some name =>
    have hquote : anchorWord.occurs (quote name) = false :=
      not_occurs_anchorWord_quote (h.no_anchor name (by simp [Item.names, halias]))
    cases written.withAs with
    | true =>
      have has : anchorWord.occurs ("AS".toList ++ ' ' :: quote name) = false :=
        not_occurs_anchorWord_append (by decide) (by decide) hquote
      exact not_occurs_anchorWord_append (by decide) hname has
    | false => exact not_occurs_anchorWord_append (by decide) hname hquote

theorem not_occurs_list (first : WrittenItem) (more : List WrittenItem)
    (h : ∀ written ∈ first :: more, written.IsListable) :
    anchorWord.occurs (first.text ++ behindFirst more) = false := by
  have hfirst := not_occurs_text (h first List.mem_cons_self)
  induction more generalizing first with
  | nil => simpa [behindFirst] using hfirst
  | cons next more ih =>
    have hlater := fun written hmem => h written (List.mem_cons_of_mem first hmem)
    have hnext := ih next hlater (not_occurs_text (hlater next List.mem_cons_self))
    have hspace : anchorWord.occurs (' ' :: (next.text ++ behindFirst more)) = false :=
      not_occurs_anchorWord_append (x := []) (by decide) rfl hnext
    rw [behindFirst_cons]
    exact not_occurs_anchorWord_append (by decide) hfirst hspace

/-- The one hit of a list behind FROM. -/
theorem hits_from (first : WrittenItem) (more : List WrittenItem)
    (h : ∀ written ∈ first :: more, written.IsListable) :
    let list := first.text ++ behindFirst more
    (anchored (ObjectName.read? .folded)).hits ("SELECT * FROM ".toList ++ list) =
      [⟨"FROM ".toList ++ list, (first.name, list), first.aliasText ++ behindFirst more⟩] := by
  intro list
  have hfirst := (h first List.mem_cons_self).toIsWritable
  have hread : ObjectName.read? .folded list =
      some (first.name, first.aliasText ++ behindFirst more) :=
    read?_text hfirst (endsItem_behindFirst more) .folded
  have hanchor : readAnchor? (some ' ') ("FROM ".toList ++ list) = some list := by
    have hlist : list = first.name.written ++ (first.aliasText ++ behindFirst more) :=
      List.append_assoc _ _ _
    rw [hlist]
    exact (readAnchor?_append (by decide) (isTight_name hfirst) _).1
  have hhit : anchored (ObjectName.read? .folded) (some ' ') ("FROM ".toList ++ list) =
      some ((first.name, list), first.aliasText ++ behindFirst more) :=
    anchored_eq_some_iff.mpr ⟨hanchor, hread⟩
  have hbehind : anchorWord.occurs ("ROM".toList ++ ' ' :: list) = false :=
    not_occurs_anchorWord_append (by decide) (by decide) (not_occurs_list first more h)
  have hbefore : ∀ c ∈ "SELECT * ".toList, foldLetter c ∉ ['f', 'j'] :=
    Text.forall_of_all (by decide)
  have hlast : "SELECT * ".toList.getLast?.or none = some ' ' := by decide
  change (anchored _).hitsFrom none 0 ("SELECT * ".toList ++ ("FROM ".toList ++ list)) = _
  rw [hitsFrom_anchored_append _ hbefore, hlast]
  exact (Pattern.hitsFrom_of_some hhit).trans
    (congrArg (_ :: ·) (hitsFrom_anchored_eq_nil _ hbehind _ _))

/-- The items of a list behind FROM are read back. -/
theorem ofQuery_from (first : WrittenItem) (more : List WrittenItem)
    (h : ∀ written ∈ first :: more, written.IsListable) :
    Item.ofQuery ("SELECT * FROM ".toList ++ (first.text ++ behindFirst more)) =
      (first :: more).map toItem := by
  have hwritable : ∀ written ∈ first :: more, written.IsWritable :=
    fun written hmem => (h written hmem).toIsWritable
  have hinert : Inert ("SELECT * FROM ".toList ++ (first.text ++ behindFirst more)) := by
    have hfront : Inert "SELECT * FROM ".toList :=
      inert_of_not_mem_openers (Text.forall_of_all (by decide))
    have hfirst := inert_text (hwritable first List.mem_cons_self)
    have hmore := inert_behindFirst fun written hmem =>
      hwritable written (List.mem_cons_of_mem first hmem)
    exact hfront.append (hfirst.append hmore)
  rw [Item.ofQuery, hinert.mask_eq, hits_from first more h, List.flatMap_singleton]
  exact listFrom_behindFirst first more hwritable

end WrittenItem

namespace Scope

/-- A list of items behind FROM is read back item by item. The tables in scope are those that the
items stand for, in the order of the list, without those whose name an earlier one is known by. -/
theorem tables_of_listing (list : List WrittenItem) (hne : list ≠ [])
    (h : ∀ written ∈ list, written.IsListable) (snapshot : Snapshot) :
    let query := "SELECT * FROM ".toList ++ Text.join ", ".toList (list.map WrittenItem.text)
    let items := list.map WrittenItem.toItem
    let found := items.filterMap (resolve? snapshot)
    Item.ofQuery query = items ∧
      tables query snapshot = (found.zipIdx.filter fun (table, place) =>
        (found.take place).all fun earlier =>
          Text.lower table.knownAs != Text.lower earlier.knownAs).map Prod.fst := by
  intro query items found
  obtain ⟨first, more, rfl⟩ := List.exists_cons_of_ne_nil hne
  have hquery : query =
      "SELECT * FROM ".toList ++ (first.text ++ WrittenItem.behindFirst more) :=
    congrArg ("SELECT * FROM ".toList ++ ·) (Text.join_cons_eq_append _ _ _)
  have hitems : Item.ofQuery query = items := by
    rw [hquery]
    exact WrittenItem.ofQuery_from first more h
  refine ⟨hitems, ?_⟩
  rw [tables, hitems]
  exact distinctBy_eq_filter_zipIdx _ found

/-- A temporary table that is not in the snapshot, a name with separators and dashes in brackets
whose alias is taken, an alias that folds to AS, and a table without alias. -/
theorem tables_of_listing_five :
    let users : ObjectName := ⟨none, "Users".toList⟩
    let list : List WrittenItem :=
      [⟨⟨⟨some "dbo".toList, "Users".toList⟩, some "u".toList⟩, false⟩,
        ⟨⟨⟨none, "##tmp".toList⟩, none⟩, false⟩,
        ⟨⟨⟨some "sales".toList, "a, from_b; --c".toList⟩, some "U".toList⟩, true⟩,
        ⟨⟨users, some "aſ".toList⟩, false⟩, ⟨⟨users, none⟩, true⟩]
    let snapshot : Snapshot :=
      { tables := [⟨"sales".toList, "A, FROM_B; --C".toList, []⟩,
          ⟨"dbo".toList, "USERS".toList, []⟩] }
    let query := "SELECT * FROM ".toList ++ Text.join ", ".toList (list.map WrittenItem.text)
    list ≠ [] ∧ (∀ written ∈ list, written.IsListable) ∧
      query = ("SELECT * FROM dbo.Users u, ##tmp, sales.[a, from_b; --c] AS U, " ++
        "Users aſ, Users").toList ∧
      Item.ofQuery query = list.map WrittenItem.toItem ∧
      tables query snapshot =
        [⟨"dbo".toList, "USERS".toList, "u".toList, true⟩,
          ⟨"dbo".toList, "USERS".toList, "aſ".toList, true⟩,
          ⟨"dbo".toList, "USERS".toList, "USERS".toList, false⟩] := by
  intro users list snapshot query
  have hne : list ≠ [] := by decide
  have h : ∀ written ∈ list, written.IsListable := by decide +kernel
  obtain ⟨hitems, htables⟩ := tables_of_listing list hne h snapshot
  exact ⟨hne, h, by decide +kernel, hitems, htables.trans (by decide +kernel)⟩

end Scope

end SqlAssist
