import Mathlib.Data.List.Infix
import SqlAssist.CommonTable
import SqlAssist.Proofs.Token.Extension

/-! # Closing parentheses and definitions

The characters of a text are marked one by one as code or not. Scanning can begin anew at any
character of code, and behind a text that leaves nothing open, without changing a mark. The
parenthesis that closes is the first one with which code has closed as many as it has opened. The
names that a WITH clause defines are read one definition at a time: a head, the query in parentheses
behind it, and a comma in front of the next head. -/
namespace SqlAssist

namespace Parenthesis

open Token

section Marks

variable {s t : Text} {c : Char} {token : Token}

theorem marked_cons (token : Token) (ts : List Token) :
    marked (token :: ts) = token.text.map (·, token.kind == .code) ++ marked ts :=
  List.flatMap_cons

theorem marked_of_code (h : region? (c :: t) = none) :
    marked (tokens (c :: t)) = (c, true) :: marked (tokens t) := by
  rw [tokens_of_code h]
  unfold consCode
  split
  · rename_i htokens
    rw [htokens]
    rfl
  · rfl

theorem marked_of_region (h : region? s = some (token, t)) :
    marked (tokens s) = token.text.map (·, false) ++ marked (tokens t) := by
  have hcode : (token.kind == .code) = false := beq_false_of_ne (kind_ne_code_of_region? h)
  rw [tokens_of_region h, marked_cons, hcode]

theorem map_fst_marked_tokens (t : Text) : (marked (tokens t)).map Prod.fst = t := by
  rw [map_fst_marked, textOf_tokens]

/-- Scanning from a character of code on gives the marks that the whole text has from there on. -/
theorem marked_tokens_of_eq_append {front back : List (Char × Bool)}
    (h : marked (tokens t) = front ++ (c, true) :: back) :
    marked (tokens (c :: back.map Prod.fst)) = (c, true) :: back := by
  induction t using tokens.induct generalizing front with
  | case1 => simp [marked] at h
  | case2 d t token rest hregion ih =>
    rw [marked_of_region hregion] at h
    rcases List.append_eq_append_iff.mp h with ⟨a, _, hrest⟩ | ⟨b, hb, hrest⟩
    · exact ih hrest
    · cases b with
      | nil =>
        have hmarks : marked (tokens rest) = [] ++ (c, true) :: back := hrest.symm
        exact ih hmarks
      | cons mark b =>
        obtain ⟨rfl, _⟩ := List.cons.inj hrest
        have hmem : (c, true) ∈ token.text.map (·, false) := by simp [hb]
        simp at hmem
  | case3 d t hregion ih =>
    rw [marked_of_code hregion] at h
    cases front with
    | nil =>
      obtain ⟨hmark, rfl⟩ := List.cons.inj h
      obtain ⟨rfl, _⟩ := Prod.mk.inj hmark
      rw [map_fst_marked_tokens, marked_of_code hregion]
    | cons mark front => exact ih (List.cons.inj h).2

theorem marked_code_append {text after : Text} (h : HasShape .code text after) :
    marked (tokens (text ++ after)) = text.map (·, true) ++ marked (tokens after) := by
  induction text with
  | nil => rfl
  | cons c text ih =>
    obtain ⟨hopen, hs⟩ := hasShape_code_cons.mp h
    rw [List.cons_append] at hopen ⊢
    rw [marked_of_code (region?_eq_none_iff.mpr hopen), ih hs]
    rfl

/-- Tokens that have their shapes in front of a text are marked as they are alone. -/
theorem marked_textOf_append {after : Text} {ts : List Token} (h : Shaped after ts) :
    marked (tokens (textOf ts ++ after)) = marked ts ++ marked (tokens after) := by
  induction ts with
  | nil => rfl
  | cons token ts ih =>
    obtain ⟨_, hs, _, hrest⟩ := h
    rw [textOf_cons, List.append_assoc, marked_cons, List.append_assoc, ← ih hrest]
    by_cases hk : token.kind = .code
    · rw [hk] at hs ⊢
      exact marked_code_append hs
    · rw [beq_false_of_ne hk]
      exact marked_of_region (region?_eq_some_iff.mpr ⟨hk, rfl, hs⟩)

/-- A text that leaves nothing open is marked alike alone and in front of a closing parenthesis,
which is code. -/
theorem marked_closed_append {body : Text} (h : Closed body) (rest : Text) :
    marked (tokens (body ++ ')' :: rest)) =
      marked (tokens body) ++ (')', true) :: marked (tokens rest) := by
  have happend := marked_textOf_append (h.shaped_tokens.closeParen rest)
  have hcode : region? (')' :: rest) = none :=
    region?_eq_none_iff.mpr (opening?_cons_eq_none_iff.mpr ⟨by simp, by simp, by simp⟩)
  rwa [textOf_tokens, marked_of_code hcode] at happend

end Marks

def opened (marks : List (Char × Bool)) : Nat := marks.count ('(', true)

def closed (marks : List (Char × Bool)) : Nat := marks.count (')', true)

@[simp] theorem opened_nil : opened [] = 0 := rfl

@[simp] theorem closed_nil : closed [] = 0 := rfl

@[simp] theorem opened_append (front back : List (Char × Bool)) :
    opened (front ++ back) = opened front + opened back := List.count_append

@[simp] theorem closed_append (front back : List (Char × Bool)) :
    closed (front ++ back) = closed front + closed back := List.count_append

@[simp] theorem opened_cons_opening (marks : List (Char × Bool)) :
    opened (('(', true) :: marks) = opened marks + 1 := List.count_cons_self

@[simp] theorem closed_cons_opening (marks : List (Char × Bool)) :
    closed (('(', true) :: marks) = closed marks := List.count_cons_of_ne (by simp)

@[simp] theorem opened_cons_closing (marks : List (Char × Bool)) :
    opened ((')', true) :: marks) = opened marks := List.count_cons_of_ne (by simp)

@[simp] theorem closed_cons_closing (marks : List (Char × Bool)) :
    closed ((')', true) :: marks) = closed marks + 1 := List.count_cons_self

theorem opened_cons_other {mark : Char × Bool} (h : mark ≠ ('(', true))
    (marks : List (Char × Bool)) : opened (mark :: marks) = opened marks :=
  List.count_cons_of_ne h

theorem closed_cons_other {mark : Char × Bool} (h : mark ≠ (')', true))
    (marks : List (Char × Bool)) : closed (mark :: marks) = closed marks :=
  List.count_cons_of_ne h

variable {depth : Nat} {front rest found marks : List (Char × Bool)}

theorem fromClosing_opening (depth : Nat) (marks : List (Char × Bool)) :
    fromClosing depth (('(', true) :: marks) = fromClosing (depth + 1) marks := rfl

theorem fromClosing_closing (depth : Nat) (marks : List (Char × Bool)) :
    fromClosing depth ((')', true) :: marks) =
      if depth ≤ 1 then some ((')', true) :: marks) else fromClosing (depth - 1) marks := rfl

theorem fromClosing_other {mark : Char × Bool} (hopen : mark ≠ ('(', true))
    (hclose : mark ≠ (')', true)) (depth : Nat) (marks : List (Char × Bool)) :
    fromClosing depth (mark :: marks) = fromClosing depth marks := by
  obtain ⟨c, inCode⟩ := mark
  have hopen' : ¬ (inCode && c == '(') = true := by
    intro h
    obtain ⟨rfl, hc⟩ := Bool.and_eq_true_iff.mp h
    exact hopen (by rw [beq_iff_eq.mp hc])
  have hclose' : ¬ (inCode && c == ')') = true := by
    intro h
    obtain ⟨rfl, hc⟩ := Bool.and_eq_true_iff.mp h
    exact hclose (by rw [beq_iff_eq.mp hc])
  rw [fromClosing, if_neg hopen', if_neg hclose']

/-- The parenthesis that is found closes the last open one: in front of it, one more was opened than
closed. -/
theorem exists_of_fromClosing (hdepth : 0 < depth) (h : fromClosing depth marks = some found) :
    ∃ front rest, marks = front ++ (')', true) :: rest ∧ found = (')', true) :: rest ∧
      depth + opened front = closed front + 1 := by
  induction marks generalizing depth with
  | nil => cases h
  | cons mark marks ih =>
    by_cases hopen : mark = ('(', true)
    · subst hopen
      obtain ⟨front, rest, rfl, hfound, hcount⟩ := ih (Nat.succ_pos depth) h
      refine ⟨('(', true) :: front, rest, rfl, hfound, ?_⟩
      rw [opened_cons_opening, closed_cons_opening]
      omega
    · by_cases hclose : mark = (')', true)
      · subst hclose
        rw [fromClosing_closing] at h
        split at h
        · refine ⟨[], marks, rfl, (Option.some.inj h).symm, ?_⟩
          rw [opened_nil, closed_nil]
          omega
        · obtain ⟨front, rest, rfl, hfound, hcount⟩ := ih (by omega) h
          refine ⟨(')', true) :: front, rest, rfl, hfound, ?_⟩
          rw [opened_cons_closing, closed_cons_closing]
          omega
      · rw [fromClosing_other hopen hclose] at h
        obtain ⟨front, rest, rfl, hfound, hcount⟩ := ih hdepth h
        refine ⟨mark :: front, rest, rfl, hfound, ?_⟩
        rwa [opened_cons_other hopen, closed_cons_other hclose]

/-- Where code closes all that is open, a parenthesis is found, and not behind that place. -/
theorem exists_fromClosing_append (hdepth : 0 < depth) (h : depth + opened front ≤ closed front)
    (rest : List (Char × Bool)) :
    ∃ found, fromClosing depth (front ++ rest) = some found ∧ rest.length < found.length := by
  induction front generalizing depth with
  | nil =>
    rw [opened_nil, closed_nil] at h
    omega
  | cons mark front ih =>
    rw [List.cons_append]
    by_cases hopen : mark = ('(', true)
    · subst hopen
      rw [opened_cons_opening, closed_cons_opening] at h
      exact ih (Nat.succ_pos depth) (by omega)
    · by_cases hclose : mark = (')', true)
      · subst hclose
        rw [opened_cons_closing, closed_cons_closing] at h
        rw [fromClosing_closing]
        split
        · refine ⟨_, rfl, ?_⟩
          rw [List.length_cons, List.length_append]
          omega
        · exact ih (by omega) (by omega)
      · rw [opened_cons_other hopen, closed_cons_other hclose] at h
        rw [fromClosing_other hopen hclose]
        exact ih hdepth h

/-- As long as nothing has closed all that is open, no parenthesis is found. -/
theorem lt_of_fromClosing (hdepth : 0 < depth)
    (h : fromClosing depth (front ++ rest) = some found) (hlength : found.length ≤ rest.length) :
    closed front < depth + opened front := by
  by_contra hclosed
  obtain ⟨found', hfound, hlt⟩ := exists_fromClosing_append hdepth (Nat.not_lt.mp hclosed) rest
  obtain rfl := Option.some.inj (h.symm.trans hfound)
  omega

/-- In code, every closing parenthesis has an opening one in front of it, and every opening one is
closed. -/
structure IsBalanced (marks : List (Char × Bool)) : Prop where
  closed_le : ∀ part, part <+: marks → closed part ≤ opened part
  opened_eq : opened marks = closed marks

theorem isBalanced_iff : IsBalanced marks ↔
    (∀ part ∈ marks.inits, closed part ≤ opened part) ∧ opened marks = closed marks := by
  constructor
  · rintro ⟨hclosed, hopened⟩
    exact ⟨fun part hpart => hclosed part ((List.mem_inits part marks).mp hpart), hopened⟩
  · rintro ⟨hclosed, hopened⟩
    exact ⟨fun part hpart => hclosed part ((List.mem_inits part marks).mpr hpart), hopened⟩

instance (marks : List (Char × Bool)) : Decidable (IsBalanced marks) :=
  decidable_of_iff _ isBalanced_iff.symm

/-- Behind balanced marks, the next closing parenthesis is found. -/
theorem fromClosing_append_closing (hbalanced : IsBalanced front) (rest : List (Char × Bool)) :
    fromClosing 1 (front ++ (')', true) :: rest) = some ((')', true) :: rest) := by
  have hequal := hbalanced.opened_eq
  have hle : 1 + opened (front ++ [(')', true)]) ≤ closed (front ++ [(')', true)]) := by
    simp only [opened_append, closed_append, opened_cons_closing, closed_cons_closing, opened_nil,
      closed_nil]
    omega
  obtain ⟨found, hfound, hlong⟩ := exists_fromClosing_append Nat.one_pos hle rest
  rw [List.append_assoc, List.singleton_append] at hfound
  obtain ⟨part, rest', hmarks, rfl, hcount⟩ := exists_of_fromClosing Nat.one_pos hfound
  rw [hfound]
  rcases List.append_eq_append_iff.mp hmarks with ⟨a, rfl, hrest⟩ | ⟨b, rfl, hrest⟩
  · cases a with
    | nil => rw [List.nil_append] at hrest; rw [hrest]
    | cons mark a =>
      have hlength := congrArg List.length hrest
      simp only [List.length_append, List.length_cons] at hlength hlong
      omega
  · cases b with
    | nil => rw [List.nil_append] at hrest; rw [hrest]
    | cons mark b =>
      obtain ⟨rfl, _⟩ := List.cons.inj hrest
      have hpart := hbalanced.closed_le (part ++ [(')', true)]) ⟨b, by simp⟩
      simp only [opened_append, closed_append, opened_cons_closing, closed_cons_closing, opened_nil,
        closed_nil] at hpart
      omega

/-- A parenthesis is closed behind a balanced text that leaves nothing open. -/
theorem closing?_append {body : Text} (hclosed : Closed body)
    (hbalanced : IsBalanced (marked (tokens body))) (rest : Text) :
    closing? ('(' :: (body ++ ')' :: rest)) = some (')' :: rest) := by
  have hcode : region? ('(' :: (body ++ ')' :: rest)) = none :=
    region?_eq_none_iff.mpr (opening?_cons_eq_none_iff.mpr ⟨by simp, by simp, by simp⟩)
  have hfound := fromClosing_append_closing hbalanced (marked (tokens rest))
  rw [closing?, marked_of_code hcode, marked_closed_append hclosed, fromClosing_opening, hfound,
    Option.map_some, List.map_cons, map_fst_marked_tokens]

end Parenthesis

namespace CommonTable

open Text

theorem behindColumns?_of_head? {t : Text} (h : t.head? ≠ some '(') : behindColumns? t = none := by
  unfold behindColumns?
  split
  · exact absurd rfl h
  · rfl

theorem behindColumns?_cons (t : Text) :
    behindColumns? ('(' :: t) =
      skipChar? ')' (t.dropWhile (fun c => c ≠ '(' && c ≠ ')')) := by
  unfold behindColumns?
  simp only
  split
  · rename_i hclose
    rw [hclose]
    rfl
  · rename_i hother
    cases hrest : t.dropWhile (fun c => c ≠ '(' && c ≠ ')') with
    | nil => rfl
    | cons c rest =>
      rw [skipChar?, if_neg]
      rintro rfl
      exact hother rest hrest

/-- The text of the next definition, behind the query that a text begins with and a comma. -/
def next? (opened : Text) : Option Text :=
  (Parenthesis.closing? opened).bind fun closed => skipChar? ',' (trimStart closed.tail)

theorem next?_length {opened rest : Text} (h : next? opened = some rest) :
    rest.length < opened.length := by
  obtain ⟨closed, hclosed, hcomma⟩ := Option.bind_eq_some_iff.mp h
  have hclosing := (Parenthesis.closing?_suffix hclosed).length_le
  have htrim := trimStart_length_le closed.tail
  rw [skipChar?_eq_some_iff.mp hcomma, List.length_cons, List.length_tail] at htrim
  omega

theorem namesFrom_of_none {t : Text} (h : readHead? t = none) : namesFrom t = [] := by
  rw [namesFrom]
  split
  · rfl
  · rename_i hhead
    rw [h] at hhead
    cases hhead

theorem namesFrom_of_some {t name opened : Text} (h : readHead? t = some (name, opened)) :
    namesFrom t = lower (Identifier.strip name) :: ((next? opened).map namesFrom).getD [] := by
  rw [namesFrom]
  split
  · rename_i hhead
    rw [h] at hhead
    cases hhead
  · rename_i hhead
    rw [h] at hhead
    obtain ⟨rfl, rfl⟩ := Prod.mk.inj (Option.some.inj hhead)
    refine congrArg (_ :: ·) ?_
    split
    · rename_i hclosed
      rw [next?, hclosed]
      rfl
    · rename_i closed hclosed
      rw [next?, hclosed, Option.bind_some]
      split
      · rename_i rest hcomma
        rw [hcomma]
        rfl
      · rename_i hother
        cases hrest : trimStart closed.tail with
        | nil => rfl
        | cons c rest =>
          rw [skipChar?, if_neg]
          · rfl
          · rintro rfl
            exact hother rest hrest

end CommonTable

end SqlAssist
