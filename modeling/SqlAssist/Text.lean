import SqlAssist.Character.Case
import SqlAssist.Character.Letter

/-! # Texts

A text is its list of characters. Offsets into a text count the bytes of its UTF-8 form, so the
measure of a text is `Text.size` and a place in it is named by what is left from there on. Editors
name places by line and column, both counted from one, the column in characters; places outside the
text are brought back to the nearest one inside. Names are compared by their ASCII letters alone or
by their full lower case, in which capital sigma becomes the final form at the end of a word. -/
namespace SqlAssist

abbrev Text := List Char

namespace Text

open Character

/-- The number of bytes of the UTF-8 form. -/
def size : Text → Nat
  | [] => 0
  | c :: t => c.utf8Size + size t

@[simp] theorem size_nil : size [] = 0 := rfl

@[simp] theorem size_cons (c : Char) (t : Text) : size (c :: t) = c.utf8Size + size t := rfl

@[simp] theorem size_append (s t : Text) : size (s ++ t) = size s + size t := by
  induction s with
  | nil => simp
  | cons c s ih => simp only [List.cons_append, size_cons, ih]; omega

theorem size_pos_of_ne_nil {t : Text} (h : t ≠ []) : 0 < size t := by
  cases t with
  | nil => exact absurd rfl h
  | cons c t => have := c.utf8Size_pos; simp; omega

/-- To decide a property of the characters of a text, only these characters are looked at. -/
theorem forall_of_all {P : Char → Prop} [DecidablePred P] {t : Text}
    (h : t.all (fun c => decide (P c)) = true) : ∀ c ∈ t, P c :=
  fun c hc => of_decide_eq_true (List.all_eq_true.mp h c hc)

/-- What is left of a text after the white space it begins with. -/
def trimStart (t : Text) : Text := t.dropWhile isBlank

def trim (t : Text) : Text := (trimStart (trimStart t).reverse).reverse

def isBlank (t : Text) : Bool := t.all Character.isBlank

theorem trimStart_length_le (t : Text) : (trimStart t).length ≤ t.length :=
  (List.dropWhile_suffix _).length_le

/-- Skips the white space a text begins with, which must not be empty. -/
def skipBlanks? : Text → Option Text
  | [] => none
  | c :: t => if Character.isBlank c then some (trimStart t) else none

theorem skipBlanks?_length {t r : Text} (h : skipBlanks? t = some r) : r.length < t.length := by
  cases t with
  | nil => simp [skipBlanks?] at h
  | cons c t =>
    have hl := trimStart_length_le t
    simp only [skipBlanks?] at h
    split at h
    · cases h; simp; omega
    · cases h

def skipChar? (x : Char) : Text → Option Text
  | [] => none
  | c :: t => if c = x then some t else none

theorem skipChar?_eq_some_iff {x : Char} {t r : Text} : skipChar? x t = some r ↔ t = x :: r := by
  cases t with
  | nil => simp [skipChar?]
  | cons c t => simp only [skipChar?]; split <;> simp_all

/-- The part of a text after its last line break. -/
def lastLine (t : Text) : Text := (t.reverse.takeWhile (· ≠ '\n')).reverse

def firstLine (t : Text) : Text := t.takeWhile (· ≠ '\n')

/-- The longest front part of at most `n` bytes: offsets inside a character fall back to its
beginning. -/
def upTo (n : Nat) : Text → Text
  | [] => []
  | c :: t => if c.utf8Size ≤ n then c :: upTo (n - c.utf8Size) t else []

@[simp] theorem upTo_nil (n : Nat) : upTo n [] = [] := rfl

theorem exists_upTo_append (n : Nat) (t : Text) : ∃ r, t = upTo n t ++ r := by
  induction t generalizing n with
  | nil => exact ⟨[], rfl⟩
  | cons c t ih =>
    simp only [upTo]
    split
    · obtain ⟨r, hr⟩ := ih (n - c.utf8Size)
      exact ⟨r, by rw [List.cons_append, ← hr]⟩
    · exact ⟨c :: t, rfl⟩

theorem size_upTo_le (n : Nat) (t : Text) : size (upTo n t) ≤ n := by
  induction t generalizing n with
  | nil => simp
  | cons c t ih =>
    simp only [upTo]
    split
    · have := ih (n - c.utf8Size); simp; omega
    · simp

/-- What is left after the first `n` bytes, when a character begins there or the text ends. -/
def dropBytes? (n : Nat) : Text → Option Text
  | [] => if n = 0 then some [] else none
  | c :: t =>
    if n = 0 then some (c :: t)
    else if c.utf8Size ≤ n then dropBytes? (n - c.utf8Size) t else none

theorem dropBytes?_eq_some_iff {n : Nat} {t r : Text} :
    dropBytes? n t = some r ↔ ∃ s, t = s ++ r ∧ size s = n := by
  induction t generalizing n with
  | nil =>
    simp only [dropBytes?]
    constructor
    · intro h
      split at h
      · cases h; exact ⟨[], by simp, by simp; omega⟩
      · cases h
    · rintro ⟨s, hs, rfl⟩
      obtain ⟨rfl, rfl⟩ := List.append_eq_nil_iff.mp hs.symm
      simp
  | cons c t ih =>
    have hc := c.utf8Size_pos
    simp only [dropBytes?]
    constructor
    · intro h
      split at h
      · cases h; exact ⟨[], by simp, by simp; omega⟩
      · split at h
        · obtain ⟨s, rfl, hs⟩ := ih.mp h
          exact ⟨c :: s, by simp, by simp; omega⟩
        · cases h
    · rintro ⟨s, hs, rfl⟩
      cases s with
      | nil => simp at hs; simp [hs]
      | cons d s =>
        simp only [List.cons_append, List.cons.injEq] at hs
        obtain ⟨rfl, rfl⟩ := hs
        have : ¬ (c.utf8Size + size s = 0) := by omega
        simp only [size_cons, this, if_false, Nat.le_add_right, if_true, Nat.add_sub_cancel_left]
        exact ih.mpr ⟨s, rfl, rfl⟩

/-- The order of texts by their characters, the first difference deciding; a text stands before what
it is the beginning of. -/
def le : Text → Text → Bool
  | [], _ => true
  | _ :: _, [] => false
  | c :: s, d :: t => c.toNat < d.toNat || (c == d && le s t)

theorem le_refl (t : Text) : le t t = true := by
  induction t with
  | nil => rfl
  | cons c t ih => simp [le, ih]

theorem le_total (s t : Text) : (le s t || le t s) = true := by
  induction s generalizing t with
  | nil => simp [le]
  | cons c s ih =>
    cases t with
    | nil => simp [le]
    | cons d t =>
      have h := ih t
      simp only [le, Bool.or_eq_true, Bool.and_eq_true, decide_eq_true_eq, beq_iff_eq] at h ⊢
      by_cases hcd : c = d
      · subst hcd; simpa using h
      · have : c.toNat ≠ d.toNat := fun he => hcd (Char.toNat_inj.mp he)
        omega

theorem le_trans {r s t : Text} (h : le r s = true) (h' : le s t = true) : le r t = true := by
  induction r generalizing s t with
  | nil => rfl
  | cons c r ih =>
    cases s with
    | nil => simp [le] at h
    | cons d s =>
      cases t with
      | nil => simp [le] at h'
      | cons e t =>
        simp only [le, Bool.or_eq_true, Bool.and_eq_true, decide_eq_true_eq, beq_iff_eq] at h h' ⊢
        rcases h with h | ⟨rfl, h⟩
        · rcases h' with h' | ⟨rfl, h'⟩
          · omega
          · exact Or.inl h
        · rcases h' with h' | ⟨rfl, h'⟩
          · exact Or.inl h'
          · exact Or.inr ⟨rfl, ih h h'⟩

def ofNat (n : Nat) : Text := Nat.toDigits 10 n

def ofInt (i : Int) : Text := if i < 0 then '-' :: ofNat i.natAbs else ofNat i.natAbs

def join (between : Text) : List Text → Text
  | [] => []
  | [t] => t
  | t :: ts => t ++ between ++ join between ts

def eqIgnoreCase (s t : Text) : Bool := s.map Char.toLower == t.map Char.toLower

@[simp] theorem eqIgnoreCase_iff {s t : Text} :
    eqIgnoreCase s t = true ↔ s.map Char.toLower = t.map Char.toLower := by
  simp [eqIgnoreCase]

def isAscii (t : Text) : Bool := t.all (fun c => c.toNat < 128)

/-- Whether the first character that casing does not look through has case. -/
def casedNext (t : Text) : Bool :=
  match t.dropWhile isCaseIgnorable with
  | [] => false
  | c :: _ => isCased c

/-- The lower case of a text that follows a character with case (`inWord`), or does not. -/
def lowerAfter (inWord : Bool) : Text → Text
  | [] => []
  | c :: t =>
    let lowered :=
      if c = 'Σ' then [if inWord && !casedNext t then 'ς' else 'σ'] else Character.lower c
    lowered ++ lowerAfter (if isCaseIgnorable c then inWord else isCased c) t

/-- The full lower case of a text. -/
def lower (t : Text) : Text := lowerAfter false t

end Text

structure Position where
  line : Nat
  column : Nat
deriving DecidableEq, Repr

namespace Position

def display (position : Position) : Text :=
  Text.ofNat position.line ++ ':' :: Text.ofNat position.column

def precedes (p q : Position) : Bool :=
  p.line < q.line || (p.line == q.line && p.column < q.column)

/-- The place just behind a text. -/
def after (t : Text) : Position := ⟨t.count '\n' + 1, (Text.lastLine t).length + 1⟩

/-- The place of an offset. Offsets past the end mean the end, and those inside a character mean
its beginning. -/
def ofOffset (t : Text) (offset : Nat) : Position := after (Text.upTo offset t)

/-- The part of a text before a place, given by the number of lines above it and the number of
characters to its left. A column past the end of its line means the end of that line, a line past
the last one the end of the text. -/
def frontOf : Nat → Nat → Text → Text
  | 0, left, t => (Text.firstLine t).take left
  | above + 1, left, t =>
    match t.dropWhile (· ≠ '\n') with
    | [] => t
    | newline :: rest => Text.firstLine t ++ newline :: frontOf above left rest

/-- The part of a text before a place. Line and column zero mean one. -/
def front (t : Text) (position : Position) : Text :=
  frontOf (position.line - 1) (position.column - 1) t

def toOffset (t : Text) (position : Position) : Nat := Text.size (front t position)

end Position

end SqlAssist
