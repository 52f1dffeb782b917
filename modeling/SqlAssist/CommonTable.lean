import SqlAssist.Identifier
import SqlAssist.Script
import SqlAssist.Search
import SqlAssist.Text

/-! # Common tables

The names that a leading WITH clause defines. Each definition is a name, an optional list of columns,
AS and a parenthesised query, whose end is found by matching the parentheses of code; definitions are
separated by commas. Reading stops quietly at the first definition that does not have this shape,
keeping the names found so far. -/
namespace SqlAssist

namespace Parenthesis

def marked (tokens : List Token) : List (Char × Bool) :=
  tokens.flatMap (fun token => token.text.map (·, token.kind == .code))

/-- What is left of marked characters from the parenthesis on that closes the outermost of `depth`
open ones. At depth zero a closing parenthesis counts as its own answer. -/
def fromClosing (depth : Nat) : List (Char × Bool) → Option (List (Char × Bool))
  | [] => none
  | (c, inCode) :: rest =>
    if inCode && c == '(' then fromClosing (depth + 1) rest
    else if inCode && c == ')' then
      if depth ≤ 1 then some ((c, inCode) :: rest) else fromClosing (depth - 1) rest
    else fromClosing depth rest

/-- The text from the parenthesis on that closes the one a text begins with. -/
def closing? (t : Text) : Option Text :=
  (fromClosing 0 (marked (tokens t))).map (·.map Prod.fst)

/-- The offset of the parenthesis that closes the one at `opening`. The outer `none` is for an
offset at which the text cannot be cut, the inner one for a parenthesis that is never closed. -/
def matching? (t : Text) (opening : Nat) : Option (Option Nat) :=
  (Text.dropBytes? opening t).map fun rest =>
    (closing? rest).map fun found => opening + (Text.size rest - Text.size found)

theorem map_fst_marked (tokens : List Token) :
    (marked tokens).map Prod.fst = Token.textOf tokens := by
  induction tokens with
  | nil => rfl
  | cons token tokens ih =>
    simp only [marked, List.flatMap_cons, List.map_append, List.map_map, Token.textOf_cons] at ih ⊢
    rw [ih]
    congr 1
    induction token.text with
    | nil => rfl
    | cons c t ih => simp_all

theorem fromClosing_suffix {depth : Nat} {chars found : List (Char × Bool)}
    (h : fromClosing depth chars = some found) : found <:+ chars := by
  fun_induction fromClosing depth chars with
  | case1 => cases h
  | case2 _ _ _ _ _ ih => exact (ih h).trans (List.suffix_cons _ _)
  | case3 => cases h; exact List.suffix_refl _
  | case4 _ _ _ _ _ _ _ ih => exact (ih h).trans (List.suffix_cons _ _)
  | case5 _ _ _ _ _ _ ih => exact (ih h).trans (List.suffix_cons _ _)

theorem closing?_suffix {t found : Text} (h : closing? t = some found) : found <:+ t := by
  simp only [closing?, Option.map_eq_some_iff] at h
  obtain ⟨chars, hc, rfl⟩ := h
  have := (fromClosing_suffix hc).map Prod.fst
  rwa [map_fst_marked, Token.textOf_tokens] at this

end Parenthesis

namespace CommonTable

/-- The text behind a WITH that begins a statement. -/
def behindWith? (statement : Text) : Option Text :=
  (readWord? "with".toList (Text.trimStart statement)).filter (fun rest => noWord rest.head?)

def behindColumns? : Text → Option Text
  | '(' :: t =>
    match t.dropWhile (fun c => c ≠ '(' && c ≠ ')') with
    | ')' :: rest => some rest
    | _ => none
  | _ => none

/-- What lies between a name and AS: white space and a list of columns, both optional. The first
component says whether anything at all lies there. -/
def behindGap (t : Text) : Bool × Text :=
  let trimmed := Text.trimStart t
  match behindColumns? trimmed with
  | some rest => (true, Text.trimStart rest)
  | none => (trimmed.length < t.length, trimmed)

/-- The text from the opening parenthesis on, when a name that ends in `last` is followed by an
optional list of columns, AS and that parenthesis. AS must not go on a word. -/
def opening? (last : Char) (t : Text) : Option Text :=
  let (apart, behind) := behindGap t
  if apart || noWord (some last) then
    ((readWord? "as".toList behind).map Text.trimStart).filter
      (fun opened => opened.head? == some '(')
  else none

/-- Tries a plain name, given backwards, and then its shorter front parts of at least `least`
characters. -/
def shorten? (least : Nat) : Text → Text → Option (Text × Text)
  | [], _ => none
  | c :: reversed, rest =>
    if reversed.length + 1 < least then none
    else
      match opening? c rest with
      | some opened => some ((c :: reversed).reverse, opened)
      | none => shorten? least reversed (c :: rest)

/-- Reads the head of a definition: the name as written, and the text from the opening
parenthesis on. -/
def readHead? (t : Text) : Option (Text × Text) :=
  let t := Text.trimStart t
  match Identifier.readBracketed? t with
  | some (name, rest) => (opening? ']' rest).map (name, ·)
  | none => do
    let (name, rest) ← Identifier.readPlain? .folded t
    shorten? ((Identifier.temporaryMark t).1.length + 1) name.reverse rest

theorem behindColumns?_length {t rest : Text} (h : behindColumns? t = some rest) :
    rest.length < t.length := by
  unfold behindColumns? at h
  split at h
  · rename_i t
    split at h
    · rename_i hd
      cases h
      have := (List.dropWhile_suffix (l := t) (fun c => c ≠ '(' && c ≠ ')')).length_le
      rw [hd] at this
      simp at this ⊢
      omega
    · cases h
  · cases h

theorem behindGap_length (t : Text) : (behindGap t).2.length ≤ t.length := by
  have ht := Text.trimStart_length_le t
  unfold behindGap
  simp only
  split
  · rename_i rest h
    have := behindColumns?_length h
    have := Text.trimStart_length_le rest
    simp only
    omega
  · exact ht

theorem opening?_length {last : Char} {t opened : Text} (h : opening? last t = some opened) :
    opened.length < t.length := by
  have hg := behindGap_length t
  have has : "as".toList.length = 2 := by decide
  simp only [opening?] at h
  split at h
  · simp only [Option.filter_eq_some_iff, Option.map_eq_some_iff] at h
    obtain ⟨⟨rest, hr, rfl⟩, _⟩ := h
    have hw := readWord?_length hr
    have ht := Text.trimStart_length_le rest
    omega
  · cases h

theorem shorten?_length {least : Nat} {reversed rest name opened : Text}
    (h : shorten? least reversed rest = some (name, opened)) :
    opened.length < reversed.length + rest.length := by
  induction reversed generalizing rest with
  | nil => simp [shorten?] at h
  | cons c reversed ih =>
    simp only [shorten?] at h
    split at h
    · cases h
    · split at h
      · rename_i ho
        have := opening?_length ho
        cases h
        simp
        omega
      · have := ih h
        simp at this ⊢
        omega

theorem readHead?_length {t name opened : Text} (h : readHead? t = some (name, opened)) :
    opened.length < t.length := by
  have ht := Text.trimStart_length_le t
  unfold readHead? at h
  simp only at h
  split at h
  · rename_i n rest hb
    simp only [Option.map_eq_some_iff] at h
    obtain ⟨o, ho, h⟩ := h
    cases h
    have := opening?_length ho
    have hn := congrArg List.length (Identifier.readBracketed?_append hb)
    simp at hn
    omega
  · simp only [Option.bind_eq_bind, Option.bind_eq_some_iff, Prod.exists] at h
    obtain ⟨n, rest, hp, h⟩ := h
    have := shorten?_length h
    have hn := congrArg List.length (Identifier.readPlain?_append hp)
    simp at this hn
    omega

def namesFrom (t : Text) : List Text :=
  match _hh : readHead? t with
  | none => []
  | some (name, opened) =>
    let found :=
      match _hc : Parenthesis.closing? opened with
      | none => []
      | some closed =>
        match _ht : Text.trimStart closed.tail with
        | ',' :: rest => namesFrom rest
        | _ => []
    Text.lower (Identifier.strip name) :: found
termination_by t.length
decreasing_by
  have h1 := readHead?_length _hh
  have h2 := (Parenthesis.closing?_suffix _hc).length_le
  have h3 := Text.trimStart_length_le closed.tail
  rw [_ht] at h3
  simp at h3
  omega

/-- The names that a leading WITH clause defines, each once, in lower case. -/
def names (statement : Text) : List Text :=
  match behindWith? statement with
  | none => []
  | some rest => (namesFrom rest).eraseDups

end CommonTable

end SqlAssist
