import SqlAssist.Character.Letter
import SqlAssist.Identifier
import SqlAssist.Scope
import SqlAssist.Search
import SqlAssist.Snapshot.Basic

/-! # Suggestions

What can be offered at a cursor: a label to show and a text to insert, which in a snippet has numbered
places to fill in. Keywords, operators and aggregates are fixed; objects, columns and joins come from
the snapshot and the tables in scope. Joined tables get an alias made from their name, by initials or
by its first letter or digit, with a number when it is in use. Suggestions are shown once each, by
kind and then by label whatever its case, and no more of them than asked for. -/
namespace SqlAssist

namespace Alias

open Character

/-- Removes one of the customary beginnings of table names. -/
def dropCustomary (name : Text) : Text :=
  if Text.eqIgnoreCase (name.take 4) "tbl_".toList then name.drop 4
  else if Text.eqIgnoreCase (name.take 2) "t_".toList then name.drop 2
  else name

/-- The first characters of the parts between underscores and white space. `fresh` says that a part
begins at the front of the text. -/
def wordInitials (fresh : Bool) : Text → Text
  | [] => []
  | c :: t =>
    if c == '_' || isBlank c then wordInitials true t
    else if fresh then c :: wordInitials false t
    else wordInitials false t

/-- The upper-case characters, and before them the first character if it is a letter or digit. -/
def humps : Text → Text
  | [] => []
  | c :: t =>
    if isUppercase c || isAlphanumeric c then c :: t.filter isUppercase else t.filter isUppercase

def ofInitials (initials : Text) : Text := initials.flatMap Character.lower

/-- The alias that a table name suggests. -/
def ofName (table : Text) : Text :=
  let name := dropCustomary table
  let words := wordInitials true name
  if 1 < words.length then ofInitials words
  else if 1 < (humps name).length then ofInitials (humps name)
  else
    match name.find? isAlphanumeric with
    | some c => Character.lower c
    | none => ['t']

/-- Whether an alias is neither in use, whatever its case, nor a word that is no alias. -/
def isFree (taken : List Text) (candidate : Text) : Bool :=
  !(taken.map Text.lower).contains (Text.lower candidate) && !isAliasStopWord candidate

/-- The first free one of `base` with the numbers `n, n + 1, …`, of which `tries` are tried. -/
def numbered (base : Text) (taken : List Text) : Nat → Nat → Text
  | 0, _ => base
  | tries + 1, n =>
    let candidate := base ++ Text.ofNat n
    if isFree taken candidate then candidate else numbered base taken tries (n + 1)

/-- The base itself, or with the smallest number from two on that makes it free. One more number
than there are aliases in use is enough. -/
def unique (base : Text) (taken : List Text) : Text :=
  if isFree taken base then base else numbered base taken (taken.length + 1) 2

end Alias

inductive SuggestionKind where
  | join
  | column
  | table
  | view
  | operator
  | function
  | keyword
deriving DecidableEq, Repr

namespace SuggestionKind

def label : SuggestionKind → Text
  | .join => "join".toList
  | .column => "column".toList
  | .table => "table".toList
  | .view => "view".toList
  | .operator => "operator".toList
  | .function => "function".toList
  | .keyword => "keyword".toList

def order : SuggestionKind → Nat
  | .join => 0
  | .column => 1
  | .table => 2
  | .view => 3
  | .operator => 4
  | .function => 5
  | .keyword => 6

theorem order_injective {k l : SuggestionKind} (h : k.order = l.order) : k = l := by
  cases k <;> cases l <;> simp_all [order]

end SuggestionKind

/-- A suggestion. The sort text is empty until suggestions are ranked. -/
structure Suggestion where
  label : Text
  kind : SuggestionKind
  detail? : Option Text := none
  insertText : Text
  isSnippet : Bool := false
  sortText : Text := []
deriving DecidableEq, Repr

namespace Suggestion

def ofLabel (kind : SuggestionKind) (label : Text) : Suggestion :=
  { label, kind, insertText := label }

def keyword (word : Text) : Suggestion := ofLabel .keyword word

def withDetail (suggestion : Suggestion) (detail : Text) : Suggestion :=
  { suggestion with detail? := some detail }

def withInsertText (suggestion : Suggestion) (insertText : Text) : Suggestion :=
  { suggestion with insertText }

def asSnippet (suggestion : Suggestion) (template : Text) : Suggestion :=
  { suggestion with insertText := template, isSnippet := true }

def qualifiedName (table : Table) : Text :=
  Identifier.quote table.schema ++ '.' :: Identifier.quote table.name

def ofObject (table : Table) (isView : Bool) : Suggestion :=
  let kind := if isView then SuggestionKind.view else .table
  let detail := kind.label ++ " in ".toList ++ table.schema
  ((ofLabel kind table.name).withDetail detail).withInsertText (qualifiedName table)

/-- A column, behind the alias it is reached through if one is given. -/
def ofColumn (column : Column) (owner : Table) (qualifier? : Option Text) : Suggestion :=
  let name := Identifier.quote column.name
  let text :=
    match qualifier? with
    | some qualifier => Identifier.quote qualifier ++ '.' :: name
    | none => name
  let key :=
    if column.isPrimaryKey then ", PK".toList
    else if column.isForeignKey then ", FK".toList
    else []
  (ofLabel .column text).withDetail (column.describe ++ " (".toList ++ owner.name ++ ')' :: key)

def precedes (s t : Suggestion) : Bool :=
  s.kind.order < t.kind.order ||
    (s.kind == t.kind && Text.le (Text.lower s.label) (Text.lower t.label))

def sortNumber (n : Nat) : Text :=
  let digits := Text.ofNat n
  List.replicate (4 - digits.length) '0' ++ digits

/-- Numbers suggestions, the first one with `n`. -/
def number (n : Nat) : List Suggestion → List Suggestion
  | [] => []
  | s :: rest => { s with sortText := sortNumber n } :: number (n + 1) rest

/-- Suggestions without repeats of kind and inserted text, in order, at most `limit` of them, and
numbered. -/
def rank (suggestions : List Suggestion) (limit : Nat) : List Suggestion :=
  let distinct := distinctBy (fun s => (s.kind, s.insertText)) suggestions
  number 0 ((distinct.mergeSort precedes).take limit)

def afterFromWords : List Text :=
  ["WHERE", "JOIN", "INNER JOIN", "LEFT JOIN", "RIGHT JOIN", "FULL OUTER JOIN", "CROSS JOIN", "ON",
   "GROUP BY", "ORDER BY", "HAVING", "UNION", "UNION ALL"].map String.toList

def statementWords : List Text :=
  ["SELECT", "INSERT INTO", "UPDATE", "DELETE FROM", "WITH", "DECLARE", "EXEC", "CREATE TABLE",
   "ALTER TABLE", "DROP TABLE"].map String.toList

/-- A part of a template: text, or a numbered place to fill in. -/
inductive TemplatePart where
  | text (t : String)
  | place (n : Nat)

structure Template where
  label : String
  parts : List TemplatePart

namespace Template

def partText : TemplatePart → Text
  | .text t => t.toList
  | .place n => '$' :: '\x7b' :: Text.ofNat n ++ ['\x7d']

def insertText (template : Template) : Text := template.parts.flatMap partText

def hasPlaces (template : Template) : Bool :=
  template.parts.any fun part => match part with
    | .place _ => true
    | .text _ => false

/-- The suggestion of a template: a snippet if there is something to fill in. -/
def suggestion (template : Template) (kind : SuggestionKind) (detail : Text) : Suggestion :=
  let base := ofLabel kind template.label.toList
  let inserting :=
    if template.hasPlaces then base.asSnippet template.insertText
    else base.withInsertText template.insertText
  inserting.withDetail detail

end Template

def operatorTemplates : List Template :=
  [⟨"=", [.text "= "]⟩, ⟨"<>", [.text "<> "]⟩, ⟨">", [.text "> "]⟩, ⟨"<", [.text "< "]⟩,
   ⟨">=", [.text ">= "]⟩, ⟨"<=", [.text "<= "]⟩,
   ⟨"LIKE", [.text "LIKE '", .place 1, .text "%'"]⟩,
   ⟨"IN", [.text "IN (", .place 1, .text ")"]⟩,
   ⟨"BETWEEN", [.text "BETWEEN ", .place 1, .text " AND ", .place 2]⟩,
   ⟨"IS NULL", [.text "IS NULL"]⟩, ⟨"IS NOT NULL", [.text "IS NOT NULL"]⟩]

def aggregateTemplates : List Template :=
  [⟨"COUNT(*)", [.text "COUNT(*)"]⟩, ⟨"COUNT", [.text "COUNT(", .place 1, .text ")"]⟩,
   ⟨"SUM", [.text "SUM(", .place 1, .text ")"]⟩, ⟨"AVG", [.text "AVG(", .place 1, .text ")"]⟩,
   ⟨"MIN", [.text "MIN(", .place 1, .text ")"]⟩, ⟨"MAX", [.text "MAX(", .place 1, .text ")"]⟩]

def keywords (words : List Text) : List Suggestion := words.map keyword

def operators : List Suggestion :=
  operatorTemplates.map (·.suggestion .operator "operator".toList)

def aggregates : List Suggestion :=
  aggregateTemplates.map (·.suggestion .function "aggregate".toList)

/-- Tables, and views too unless they are left out. -/
def ofObjects (objects : List SchemaObject) (includeViews : Bool) : List Suggestion :=
  (objects.filter fun object => includeViews || !object.isView).map fun object =>
    ofObject object.table object.isView

def columnsOf (table : Table) : List Suggestion :=
  table.columns.map fun column => ofColumn column table none

/-- Whether columns are written behind the alias of their table: if that is asked for, and the
query gives an alias or has more than one table. -/
def qualifies (tables : List ScopedTable) (qualify : Bool) : Bool :=
  qualify && (1 < tables.length || tables.any ScopedTable.hasAlias)

def columnsInScope (tables : List ScopedTable) (snapshot : Snapshot) (qualify : Bool) :
    List Suggestion :=
  tables.flatMap fun member =>
    match snapshot.find? (some member.schema) member.table with
    | none => []
    | some table =>
      let qualifier? := if qualifies tables qualify then some member.knownAs else none
      table.columns.map fun column => ofColumn column table qualifier?

/-- The join of one related table, under an alias that none of `taken` is. -/
def joinOf (taken : List Text) (related : RelatedTable) : Suggestion :=
  let table := related.table
  let joined := Alias.unique (Alias.ofName table.name) taken
  let target := qualifiedName table ++ ' ' :: Identifier.quote joined
  match related.relation? with
  | some relation =>
    let text := target ++ " ON ".toList ++ relation.condition joined
    (ofLabel .join text).withDetail
      (relation.knownAs ++ ' ' :: relation.direction.label ++ ' ' :: table.name ++ " (".toList ++
        relation.key.display ++ [')'])
  | none =>
    ((ofLabel .table (table.name ++ ' ' :: joined)).withDetail
      ("table in ".toList ++ table.schema)).withInsertText target

def joins (related : List RelatedTable) (inQuery : List ScopedTable) : List Suggestion :=
  related.map (joinOf (inQuery.map ScopedTable.knownAs))

end Suggestion

end SqlAssist
