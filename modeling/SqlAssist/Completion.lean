import SqlAssist.Clause
import SqlAssist.Settings
import SqlAssist.Suggestion
import SqlAssist.Text

/-! # Completion

What to offer at a place of a document. The clause comes from the text before the place, the tables
in scope from the whole statement around it. Malformed statements give fewer suggestions and never
an error. -/
namespace SqlAssist

structure Completion where
  context : Context
  suggestions : List Suggestion
deriving DecidableEq, Repr

namespace Completion

def isMember (t : Text) : Bool :=
  (Text.skipChar? '.' t).any (fun member => member.all Letters.exact.isNamePart)

def memberAccess : Pattern Text := fun _ t =>
  ((Identifier.read? .exact t).filter (fun found => isMember found.2)).map fun found =>
    (Identifier.strip found.1, [])

/-- What to offer behind a qualifier and a dot: the objects of a schema where a table is expected,
otherwise the columns of the table that the qualifier stands for. -/
def members (qualifier : Text) (clause : Clause) (query : Text) (snapshot : Snapshot)
    (settings : Settings) : List Suggestion :=
  if clause.expectsTable then
    let inSchema := snapshot.objects.filter fun object => namesMatch object.table.schema qualifier
    (Suggestion.ofObjects inSchema settings.includeViews).map fun suggestion =>
      suggestion.withInsertText (Identifier.quote suggestion.label)
  else
    match Scope.tableOfAlias? query qualifier snapshot with
    | some table => Suggestion.columnsOf table
    | none => []

def assignments (table : Table) : List Suggestion :=
  (table.columns.filter fun column => !column.isPrimaryKey).map fun column =>
    (Suggestion.ofColumn column table none).withInsertText
      (Identifier.quote column.name ++ " = ".toList)

def forClause (clause : Clause) (query : Text) (snapshot : Snapshot) (settings : Settings) :
    List Suggestion :=
  let inScope := Scope.tablesInScope query snapshot
  let columns := Suggestion.columnsInScope inScope snapshot settings.qualifyColumns
  match clause with
  | .joinTable => Suggestion.joins (Scope.related inScope snapshot) inScope
  | .fromTable => Suggestion.ofObjects snapshot.objects settings.includeViews
  | .afterFrom => Suggestion.keywords Suggestion.afterFromWords
  | .selectList => Suggestion.keyword ['*'] :: columns ++ Suggestion.aggregates
  | .whereFilter true | .havingFilter true => Suggestion.operators
  | .whereFilter false => columns
  | .havingFilter false => columns ++ Suggestion.aggregates
  | .onCondition | .orderBy | .groupBy => columns
  | .insertColumns table =>
    match snapshot.find? none table with
    | some table => Suggestion.columnsOf table
    | none => []
  | .insertValues => Suggestion.keywords ["NULL".toList, "DEFAULT".toList]
  | .updateSet =>
    match Scope.updateTarget? query snapshot with
    | some table => assignments table
    | none => []
  | .other => Suggestion.keywords Suggestion.statementWords

end Completion

/-- The clause at a place of a document and the suggestions for it, ranked. -/
def complete (document : Text) (position : Position) (snapshot : Snapshot) (settings : Settings) :
    Completion :=
  let before := Position.front document position
  let line := Text.lastLine before
  let query := (Statement.containing document (Text.size before)).text
  let context := analyze before line
  let suggestions :=
    match Completion.memberAccess.first? line with
    | some hit => Completion.members hit.value context.clause query snapshot settings
    | none => Completion.forClause context.clause query snapshot settings
  ⟨context, Suggestion.rank suggestions settings.maxSuggestions⟩

end SqlAssist
