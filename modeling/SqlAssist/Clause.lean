import SqlAssist.Identifier
import SqlAssist.Script
import SqlAssist.Search
import SqlAssist.Text

/-! # The clause at the cursor

The clause that a cursor stands in decides what can be offered there. The last occurrence of every
governing keyword in the statement being typed is located, and a fixed order of tests on these
landmarks decides the clause; two of the tests look at the line of the cursor instead. A condition is
cut at its words AND and OR, and when the last part is a single operand followed by white space, an
operator comes next. -/
namespace SqlAssist

open Character

inductive Clause where
  | selectList
  | fromTable
  /-- Behind a complete table name and white space. -/
  | afterFrom
  /-- A condition; `operators` says that its last operand awaits an operator. -/
  | whereFilter (operators : Bool)
  | joinTable
  | onCondition
  | orderBy
  | groupBy
  | havingFilter (operators : Bool)
  | insertColumns (table : Text)
  | insertValues
  | updateSet
  | other
deriving DecidableEq, Repr

inductive Confidence where
  | high
  | medium
  | low
deriving DecidableEq, Repr

structure Context where
  clause : Clause
  confidence : Confidence
deriving DecidableEq, Repr

namespace Clause

def label : Clause → Text
  | .selectList => "SELECT".toList
  | .fromTable => "FROM".toList
  | .afterFrom => "AFTER_FROM".toList
  | .whereFilter _ => "WHERE".toList
  | .joinTable => "JOIN_TABLE".toList
  | .onCondition => "ON_CONDITION".toList
  | .orderBy => "ORDER_BY".toList
  | .groupBy => "GROUP_BY".toList
  | .havingFilter _ => "HAVING".toList
  | .insertColumns _ => "INSERT_COLUMNS".toList
  | .insertValues => "INSERT_VALUES".toList
  | .updateSet => "UPDATE_SET".toList
  | .other => "DEFAULT".toList

def awaitsOperator : Clause → Bool
  | .whereFilter operators | .havingFilter operators => operators
  | _ => false

def insertTarget? : Clause → Option Text
  | .insertColumns table => some table
  | _ => none

def expectsTable : Clause → Bool
  | .fromTable | .joinTable => true
  | _ => false

end Clause

def Confidence.label : Confidence → Text
  | .high => "high".toList
  | .medium => "medium".toList
  | .low => "low".toList

namespace Condition

def lastPart (body : Text) : Text :=
  match (standingOneOf ["and".toList, "or".toList]).last? body with
  | some hit => hit.rest
  | none => body

/-- A name with at most one qualifier, and nothing else. -/
def isName (t : Text) : Bool :=
  match ObjectName.read? .folded t with
  | some (_, []) => true
  | _ => false

/-- A word, an argument list without inner parentheses, and nothing else. -/
def isCall (t : Text) : Bool :=
  match t.takeWhile isWord, Text.trimStart (t.dropWhile isWord) with
  | _ :: _, '(' :: arguments =>
    match arguments.dropWhile (fun c => c ≠ '(' && c ≠ ')') with
    | [')'] => true
    | _ => false
  | _, _ => false

def isLiteral : Text → Bool
  | '\'' :: t =>
    match t.dropWhile (· ≠ '\'') with
    | ['\''] => true
    | _ => false
  | _ => false

def isNumber (t : Text) : Bool :=
  match t.takeWhile isSettledDigit, t.dropWhile isSettledDigit with
  | _ :: _, [] => true
  | _ :: _, '.' :: decimals => decimals != [] && decimals.all isSettledDigit
  | _, _ => false

def isOperand (t : Text) : Bool := isName t || isCall t || isLiteral t || isNumber t

def predicateWords : List Text :=
  ["not", "exists", "is", "null", "in", "like", "between", "case", "when", "then", "else", "end",
   "select"].map String.toList

/-- Whether the last operand of a condition awaits its operator. -/
def awaitsOperator (body : Text) : Bool :=
  let part := lastPart body
  let operand := Text.trim part
  part.getLast?.any isBlank && isOperand operand &&
    !predicateWords.any (Text.eqIgnoreCase · operand)

end Condition

namespace Typing

def isNameChar (c : Char) : Bool := Letters.folded.isNamePart c || c == '.'

/-- Whether a text is a name being typed. Inside a bracket everything is part of the name. -/
def isName (inBracket : Bool) : Text → Bool
  | [] => true
  | c :: t =>
    if inBracket then isName (c != ']') t
    else if c == '[' then isName true t
    else isNameChar c && isName false t

def isJoinRest (t : Text) : Bool := t == [] || (Text.skipBlanks? t).any (isName false)

/-- A JOIN at the end of a line, alone or with a name being typed behind it. -/
def joinTail : Pattern Unit := fun before t =>
  if noWord before && (readWord? "join".toList t).any isJoinRest then some ((), []) else none

def onTail : Pattern Unit := fun before t =>
  if noWord before && (readWord? "on".toList t).any Text.isBlank then some ((), []) else none

def behindWord? (word t : Text) : Option Text := (readWord? word t).bind Text.skipBlanks?

def isUpdateTarget (t : Text) : Bool := (behindWord? "update".toList t).any (isName false)

/-- Whether a text is INSERT, with or without INTO, and the name of its table being typed. -/
def isInsertTarget (t : Text) : Bool :=
  (behindWord? "insert".toList t).any fun rest =>
    (behindWord? "into".toList rest).any (isName false) || isName false rest

def isOpenList (t : Text) : Bool :=
  (Text.skipChar? '(' (Text.trimStart t)).any (fun columns => !columns.contains ')')

def columnListOf? (t : Text) : Option Text :=
  ((ObjectName.read? .folded t).filter (fun found => isOpenList found.2)).map (·.1.name)

/-- The table that a text which begins with INSERT lists columns of. INTO is read as the keyword if
that succeeds, and as the name of the table otherwise. -/
def insertColumnList? (t : Text) : Option Text :=
  (behindWord? "insert".toList t).bind fun rest =>
    ((behindWord? "into".toList rest).bind columnListOf?).or (columnListOf? rest)

def isGap (t : Text) : Bool := t != [] && Text.isBlank t

def isAliasThenGap (t : Text) : Bool :=
  match Identifier.read? .folded t with
  | some (_, rest) => isGap rest
  | none => false

/-- Whether a text is white space, a table name, an alias or none, and white space. -/
def isTableThenGap (t : Text) : Bool :=
  ((Text.skipBlanks? t).bind (ObjectName.read? .folded)).any fun (_, rest) =>
    isGap rest ||
      (Text.skipBlanks? rest).any fun behind =>
        (behindWord? "as".toList behind).any isAliasThenGap || isAliasThenGap behind

end Typing

/-- Whether `a` occurs, and behind `b` if that occurs too. -/
def occursBehind (a b : Option Nat) : Bool :=
  match a, b with
  | none, _ => false
  | some _, none => true
  | some i, some j => j < i

/-- Where each governing keyword occurs last. -/
abbrev Landmarks := Keyword → Option Nat

namespace Landmarks

/-- Whether the last `k` stands behind the last of each of `others`. -/
def isBehind (marks : Landmarks) (k : Keyword) (others : List Keyword) : Bool :=
  others.all (fun other => occursBehind (marks k) (marks other))

end Landmarks

def orderByEnds : List Text :=
  ["limit", "offset", "fetch", "for", "union", "intersect", "except"].map String.toList

/-- The clause at the end of `t`, the statement being typed with its comments blanked; `line` is
the line of the cursor. -/
def classify (t line : Text) : Context :=
  let marks : Landmarks := fun keyword => keyword.lastIn t
  if Typing.joinTail.occurs line then ⟨.joinTable, .high⟩
  else if Typing.onTail.occurs line ||
      ((marks .join).isSome &&
        marks.isBehind .on [.join, .whereFilter, .groupBy, .orderBy, .havingFilter]) then
    ⟨.onCondition, .high⟩
  else if marks.isBehind .orderBy [.whereFilter, .groupBy, .havingFilter, .select] &&
      !(standingOneOf orderByEnds).occurs (Keyword.orderBy.behindLastIn t) then
    ⟨.orderBy, .high⟩
  else if marks.isBehind .groupBy [.whereFilter, .orderBy, .select, .havingFilter] then
    ⟨.groupBy, .high⟩
  else if marks.isBehind .havingFilter [.whereFilter, .groupBy, .select, .orderBy] then
    ⟨.havingFilter (Condition.awaitsOperator (Keyword.havingFilter.behindLastIn t)), .high⟩
  else
    let target :=
      if marks.isBehind .insert [.select] then
        (Keyword.insert.fromLastIn? t).bind Typing.insertColumnList?
      else none
    match target with
    | some table => ⟨.insertColumns table, .high⟩
    | none =>
      if (marks .insert).isSome && marks.isBehind .values [.insert, .select] then
        ⟨.insertValues, .medium⟩
      else if (marks .update).isSome && marks.isBehind .set [.update, .whereFilter, .fromTable] then
        ⟨.updateSet, .high⟩
      else if (marks.isBehind .whereFilter [.fromTable] || marks.isBehind .whereFilter [.set]) &&
          marks.isBehind .whereFilter [.select] then
        ⟨.whereFilter (Condition.awaitsOperator (Keyword.whereFilter.behindLastIn t)), .high⟩
      else if marks.isBehind .select [.fromTable] then ⟨.selectList, .high⟩
      else if marks.isBehind .fromTable [.select] then
        let keyword := if marks.isBehind .join [.fromTable] then Keyword.join else .fromTable
        if Typing.isTableThenGap (keyword.behindLastIn t) then ⟨.afterFrom, .medium⟩
        else ⟨.fromTable, .high⟩
      else if ((Keyword.update.fromLastIn? t).any Typing.isUpdateTarget &&
            !marks.isBehind .set [.update]) ||
          (Keyword.insert.fromLastIn? t).any Typing.isInsertTarget then
        ⟨.fromTable, .medium⟩
      else ⟨.other, .low⟩

/-- The clause at the cursor, from the text before it and the part of its line before it. -/
def analyze (before line : Text) : Context := classify (mask (Statement.current before)) line

end SqlAssist
