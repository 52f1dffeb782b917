import SqlAssist.Text

/-! # Regions and statements of a script

A script is cut into regions before anything is searched in it: plain code, what the searches must
not look into (literals, bracketed names, comments), and the semicolons between statements. `tokens`
accepts every text; a region that is still open at the end runs to the end, and reading gives back
the text: `textOf (tokens t) = t`. A masked text has spaces in the place of its comments, as many as
the comment has bytes, so offsets found in it are offsets of the text itself. Semicolons in code cut
a script into segments; the statements to check, the one being typed and the one at an offset are
chosen among the same segments. -/
namespace SqlAssist

inductive Quote where
  | single
  | double
deriving DecidableEq, Repr

def Quote.char : Quote → Char
  | .single => '\''
  | .double => '"'

inductive TokenKind where
  | code
  | quoted (quote : Quote)
  | bracketed
  /-- From two dashes to the end of the line, the line break not included. -/
  | lineComment
  /-- From slash and star to the first star and slash. -/
  | blockComment
  | terminator
deriving DecidableEq, Repr

def TokenKind.isComment : TokenKind → Bool
  | .lineComment | .blockComment => true
  | _ => false

structure Token where
  kind : TokenKind
  text : Text
deriving DecidableEq, Repr

namespace Token

def isComment (token : Token) : Bool := token.kind.isComment

def isTerminator (token : Token) : Bool := token.kind == .terminator

def size (token : Token) : Nat := Text.size token.text

def textOf (tokens : List Token) : Text := tokens.flatMap Token.text

@[simp] theorem textOf_nil : textOf [] = [] := rfl

@[simp] theorem textOf_cons (token : Token) (tokens : List Token) :
    textOf (token :: tokens) = token.text ++ textOf tokens := by
  simp [textOf]

@[simp] theorem textOf_append (tokens more : List Token) :
    textOf (tokens ++ more) = textOf tokens ++ textOf more := by
  simp [textOf]

/-- The tokens with the offsets they start at, the first one at `offset`. -/
def placed (offset : Nat) : List Token → List (Nat × Token)
  | [] => []
  | token :: tokens => (offset, token) :: placed (offset + token.size) tokens

@[simp] theorem placed_cons (offset : Nat) (token : Token) (tokens : List Token) :
    placed offset (token :: tokens) = (offset, token) :: placed (offset + token.size) tokens := rfl

theorem map_snd_placed (offset : Nat) (tokens : List Token) :
    (placed offset tokens).map Prod.snd = tokens := by
  induction tokens generalizing offset with
  | nil => rfl
  | cons token tokens ih => simp [ih]

/-- The rest of a quoted region after its opening quote `q`, through the closing quote. Two quotes
in a row stand for one and do not close the region. -/
def closeQuote (q : Char) : Text → Text × Text
  | [] => ([], [])
  | [c] => ([c], [])
  | c :: d :: t =>
    if c = q then
      if d = q then
        let (body, rest) := closeQuote q t
        (c :: d :: body, rest)
      else ([c], d :: t)
    else
      let (body, rest) := closeQuote q (d :: t)
      (c :: body, rest)

/-- The rest of a bracketed name after its opening bracket, through the first closing one. -/
def closeBracket : Text → Text × Text
  | [] => ([], [])
  | c :: t =>
    if c = ']' then ([c], t)
    else
      let (body, rest) := closeBracket t
      (c :: body, rest)

def closeLine (t : Text) : Text × Text := (t.takeWhile (· ≠ '\n'), t.dropWhile (· ≠ '\n'))

def closeBlock : Text → Text × Text
  | [] => ([], [])
  | [c] => ([c], [])
  | c :: d :: t =>
    if c = '*' ∧ d = '/' then ([c, d], t)
    else
      let (body, rest) := closeBlock (d :: t)
      (c :: body, rest)

/-- The region other than code that begins a text, and what follows it. -/
def region? : Text → Option (Token × Text)
  | '\'' :: t =>
    let (body, rest) := closeQuote '\'' t
    some (⟨.quoted .single, '\'' :: body⟩, rest)
  | '"' :: t =>
    let (body, rest) := closeQuote '"' t
    some (⟨.quoted .double, '"' :: body⟩, rest)
  | '[' :: t =>
    let (body, rest) := closeBracket t
    some (⟨.bracketed, '[' :: body⟩, rest)
  | '-' :: '-' :: t =>
    let (body, rest) := closeLine t
    some (⟨.lineComment, '-' :: '-' :: body⟩, rest)
  | '/' :: '*' :: t =>
    let (body, rest) := closeBlock t
    some (⟨.blockComment, '/' :: '*' :: body⟩, rest)
  | ';' :: t => some (⟨.terminator, [';']⟩, t)
  | _ => none

theorem closeQuote_append (q : Char) (t : Text) : (closeQuote q t).1 ++ (closeQuote q t).2 = t := by
  fun_induction closeQuote q t <;> simp_all

theorem closeBracket_append (t : Text) : (closeBracket t).1 ++ (closeBracket t).2 = t := by
  fun_induction closeBracket t <;> simp_all

theorem closeBlock_append (t : Text) : (closeBlock t).1 ++ (closeBlock t).2 = t := by
  fun_induction closeBlock t <;> simp_all

theorem region?_append {t rest : Text} {token : Token} (h : region? t = some (token, rest)) :
    token.text ++ rest = t := by
  unfold region? at h
  split at h <;> cases h <;>
    simp [closeQuote_append, closeBracket_append, closeBlock_append]

theorem region?_text_ne_nil {t rest : Text} {token : Token} (h : region? t = some (token, rest)) :
    token.text ≠ [] := by
  unfold region? at h
  split at h <;> cases h <;> simp

theorem region?_length {t rest : Text} {token : Token} (h : region? t = some (token, rest)) :
    rest.length < t.length := by
  have hne := List.length_pos_iff.mpr (region?_text_ne_nil h)
  rw [← region?_append h, List.length_append]
  omega

/-- Puts a character of code in front of tokens, into the first one if that is code. -/
def consCode (c : Char) : List Token → List Token
  | ⟨.code, text⟩ :: tokens => ⟨.code, c :: text⟩ :: tokens
  | tokens => ⟨.code, [c]⟩ :: tokens

@[simp] theorem textOf_consCode (c : Char) (tokens : List Token) :
    textOf (consCode c tokens) = c :: textOf tokens := by
  unfold consCode
  split <;> simp

end Token

open Token in
/-- The regions of a script, in order and without gaps. -/
def tokens : Text → List Token
  | [] => []
  | c :: t =>
    match _h : region? (c :: t) with
    | some (token, rest) => token :: tokens rest
    | none => consCode c (tokens t)
termination_by t => t.length
decreasing_by
  · exact region?_length _h
  · simp

namespace Token

@[simp] theorem tokens_nil : tokens [] = [] := by simp [tokens]

theorem tokens_of_region {t rest : Text} {token : Token} (h : region? t = some (token, rest)) :
    tokens t = token :: tokens rest := by
  cases t with
  | nil => simp [region?] at h
  | cons c t =>
    rw [tokens]
    split
    · rename_i h'; rw [h] at h'; cases h'; rfl
    · rename_i h'; rw [h] at h'; cases h'

theorem tokens_of_code {c : Char} {t : Text} (h : region? (c :: t) = none) :
    tokens (c :: t) = consCode c (tokens t) := by
  rw [tokens]
  split
  · rename_i h'; rw [h] at h'; cases h'
  · rfl

theorem textOf_tokens (t : Text) : textOf (tokens t) = t := by
  induction hn : t.length using Nat.strongRecOn generalizing t with
  | ind n ih =>
    cases t with
    | nil => simp
    | cons c t =>
      cases h : region? (c :: t) with
      | none =>
        rw [tokens_of_code h, textOf_consCode, ih t.length (by simp at hn; omega) t rfl]
      | some p =>
        obtain ⟨token, rest⟩ := p
        rw [tokens_of_region h, textOf_cons,
          ih rest.length (by have := region?_length h; omega) rest rfl, region?_append h]

end Token

/-- What a comment character is replaced by: a line break stays, anything else becomes one space
for each of its bytes. -/
def blankOut (c : Char) : Text :=
  if c = '\n' ∨ c = '\r' then [c] else List.replicate c.utf8Size ' '

def Token.masked (token : Token) : Text :=
  if token.isComment then token.text.flatMap blankOut else token.text

/-- The text with its comments blanked. -/
def mask (t : Text) : Text := (tokens t).flatMap Token.masked

theorem size_blankOut (c : Char) : Text.size (blankOut c) = c.utf8Size := by
  have hs : ∀ n : Nat, Text.size (List.replicate n ' ') = n := by
    intro n
    induction n with
    | zero => rfl
    | succ n ih =>
      rw [List.replicate_succ, Text.size_cons, ih]
      have : Char.utf8Size ' ' = 1 := by decide
      omega
  unfold blankOut
  split
  · simp
  · exact hs _

structure Statement where
  text : Text
  start : Nat
deriving DecidableEq, Repr

namespace Statement

def stop (statement : Statement) : Nat := statement.start + Text.size statement.text

/-- The texts between terminators: the first one, and those after each terminator. -/
def pieces : List Token → Text × List Text
  | [] => ([], [])
  | token :: rest =>
    let (first, others) := pieces rest
    if token.isTerminator then ([], first :: others) else (token.text ++ first, others)

/-- Consecutive pieces as statements, with one byte for the semicolon between two of them. -/
def place (start : Nat) : List Text → List Statement
  | [] => []
  | text :: texts => ⟨text, start⟩ :: place (start + Text.size text + 1) texts

/-- Every segment of a script, the last one after the last terminator. -/
def segments (script : Text) : List Statement :=
  let (first, others) := pieces (tokens script)
  place 0 (first :: others)

/-- The list without its last statement if that one is blank. -/
def dropBlankLast : List Statement → List Statement
  | [] => []
  | [statement] => if Text.isBlank statement.text then [] else [statement]
  | statement :: next :: rest => statement :: dropBlankLast (next :: rest)

/-- The statements of a script: every segment that ends in a semicolon, even an empty one, and the
last segment when it holds something other than white space. -/
def split (script : Text) : List Statement := dropBlankLast (segments script)

/-- The segment that holds an offset. An offset just before a semicolon belongs to the segment that
this semicolon ends; offsets past the end belong to the last segment. -/
def containing (script : Text) (offset : Nat) : Statement :=
  let (first, others) := pieces (tokens script)
  let offset := min offset (Text.size script)
  let all := place 0 (first :: others)
  (all.find? (fun statement => offset ≤ statement.stop)).getD (all.getLastD ⟨first, 0⟩)

/-- The text after the last terminator: the statement being typed. -/
def current (text : Text) : Text :=
  let (first, others) := pieces (tokens text)
  others.getLastD first

theorem pieces_cons_terminator {token : Token} (h : token.isTerminator = true)
    (rest : List Token) :
    pieces (token :: rest) = ([], (pieces rest).1 :: (pieces rest).2) := by
  simp [pieces, h]

theorem pieces_cons_other {token : Token} (h : token.isTerminator = false) (rest : List Token) :
    pieces (token :: rest) = (token.text ++ (pieces rest).1, (pieces rest).2) := by
  simp [pieces, h]

end Statement

end SqlAssist
