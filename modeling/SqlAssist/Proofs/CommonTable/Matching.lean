import Mathlib.Order.Bounds.Basic
import SqlAssist.Proofs.CommonTable

/-! # Matching parentheses

The parenthesis that matches an opening one is the first behind it up to which code closes as many
parentheses as it opens, counted in the regions of the whole text although only the part from the
opening one on is scanned. So two pairs of matching parentheses lie one behind the other or one
inside the other. -/
namespace SqlAssist

open Token

def Text.offsetsOf (x : Char) (offset : Nat) : Text → List Nat
  | [] => []
  | c :: t =>
    if c = x then offset :: offsetsOf x (offset + c.utf8Size) t
    else offsetsOf x (offset + c.utf8Size) t

/-- The offsets at which the code of a text holds the character. -/
def codeOffsets (x : Char) (t : Text) : List Nat :=
  (placed 0 (tokens t)).flatMap fun placed =>
    if placed.2.kind = .code then Text.offsetsOf x placed.1 placed.2.text else []

namespace Parenthesis

/-- How often the code of a text holds the character, from offset `first` through offset `last`. -/
def countBetween (x : Char) (t : Text) (first last : Nat) : Nat :=
  (codeOffsets x t).countP fun offset => first ≤ offset ∧ offset ≤ last

/-- A parenthesis of code at `closing` up to which as many are closed as opened, from `opening`
on. -/
structure Balances (t : Text) (opening closing : Nat) : Prop where
  mem : closing ∈ codeOffsets ')' t
  lt : opening < closing
  count_eq : countBetween '(' t opening closing = countBetween ')' t opening closing

def width (marks : List (Char × Bool)) : Nat := Text.size (marks.map Prod.fst)

@[simp] theorem width_nil : width [] = 0 := rfl

@[simp] theorem width_cons (mark : Char × Bool) (marks : List (Char × Bool)) :
    width (mark :: marks) = mark.1.utf8Size + width marks := rfl

@[simp] theorem width_append (front back : List (Char × Bool)) :
    width (front ++ back) = width front + width back := by
  rw [width, List.map_append, Text.size_append, width, width]

theorem width_cons_opening (inCode : Bool) (marks : List (Char × Bool)) :
    width (('(', inCode) :: marks) = 1 + width marks := rfl

theorem width_cons_closing (inCode : Bool) (marks : List (Char × Bool)) :
    width ((')', inCode) :: marks) = 1 + width marks := rfl

theorem width_map (text : Text) (inCode : Bool) :
    width (text.map (·, inCode)) = Text.size text := by
  rw [width, List.map_map, Function.comp_def, List.map_id']

theorem width_pos {marks : List (Char × Bool)} (h : marks ≠ []) : 0 < width marks :=
  Text.size_pos_of_ne_nil (by simpa using h)

/-- The offsets of the character among marked ones that begin at `offset`, where it is code. -/
def offsetsIn (x : Char) (offset : Nat) : List (Char × Bool) → List Nat
  | [] => []
  | mark :: marks =>
    if mark = (x, true) then offset :: offsetsIn x (offset + mark.1.utf8Size) marks
    else offsetsIn x (offset + mark.1.utf8Size) marks

theorem offsetsIn_append (x : Char) (offset : Nat) (front back : List (Char × Bool)) :
    offsetsIn x offset (front ++ back) =
      offsetsIn x offset front ++ offsetsIn x (offset + width front) back := by
  induction front generalizing offset with
  | nil => rfl
  | cons mark front ih =>
    rw [List.cons_append, offsetsIn, offsetsIn, ih, width_cons, Nat.add_assoc]
    split
    · rfl
    · rfl

theorem offsetsIn_code (x : Char) (offset : Nat) (text : Text) :
    offsetsIn x offset (text.map (·, true)) = Text.offsetsOf x offset text := by
  induction text generalizing offset with
  | nil => rfl
  | cons c text ih =>
    rw [List.map_cons, offsetsIn, Text.offsetsOf, ih]
    simp only [Prod.mk.injEq, and_true]

theorem offsetsIn_other (x : Char) (offset : Nat) (text : Text) :
    offsetsIn x offset (text.map (·, false)) = [] := by
  induction text generalizing offset with
  | nil => rfl
  | cons c text ih =>
    rw [List.map_cons, offsetsIn, if_neg (by simp), ih]

theorem flatMap_placed (x : Char) (offset : Nat) (ts : List Token) :
    ((placed offset ts).flatMap fun placed =>
      if placed.2.kind = .code then Text.offsetsOf x placed.1 placed.2.text else []) =
      offsetsIn x offset (marked ts) := by
  induction ts generalizing offset with
  | nil => rfl
  | cons token ts ih =>
    rw [placed_cons, List.flatMap_cons, ih, marked_cons, offsetsIn_append, width_map]
    refine congrArg (· ++ _) ?_
    by_cases hk : token.kind = .code
    · rw [if_pos hk, hk]
      exact (offsetsIn_code x offset token.text).symm
    · rw [if_neg hk, beq_false_of_ne hk]
      exact (offsetsIn_other x offset token.text).symm

theorem codeOffsets_eq_offsetsIn (x : Char) (t : Text) :
    codeOffsets x t = offsetsIn x 0 (marked (tokens t)) :=
  flatMap_placed x 0 (tokens t)

theorem mem_offsetsIn_iff {x : Char} {offset n : Nat} {marks : List (Char × Bool)} :
    n ∈ offsetsIn x offset marks ↔
      ∃ front back, marks = front ++ (x, true) :: back ∧ n = offset + width front := by
  induction marks generalizing offset with
  | nil => simp [offsetsIn]
  | cons mark marks ih =>
    have hlater : n ∈ offsetsIn x (offset + mark.1.utf8Size) marks ↔
        ∃ front back, marks = front ++ (x, true) :: back ∧
          n = offset + width (mark :: front) := by
      rw [ih]
      simp only [width_cons, Nat.add_assoc]
    rw [offsetsIn]
    constructor
    · intro h
      split at h
      · rename_i hmark
        rcases List.mem_cons.mp h with rfl | h
        · exact ⟨[], marks, by rw [hmark]; rfl, rfl⟩
        · obtain ⟨front, back, rfl, hn⟩ := hlater.mp h
          exact ⟨mark :: front, back, rfl, hn⟩
      · obtain ⟨front, back, rfl, hn⟩ := hlater.mp h
        exact ⟨mark :: front, back, rfl, hn⟩
    · rintro ⟨front, back, hmarks, hn⟩
      cases front with
      | nil =>
        rw [if_pos (List.cons.inj hmarks).1]
        exact List.mem_cons.mpr (Or.inl hn)
      | cons first front =>
        obtain ⟨rfl, rfl⟩ := List.cons.inj hmarks
        have hmem := hlater.mpr ⟨front, back, rfl, hn⟩
        split
        · exact List.mem_cons_of_mem _ hmem
        · exact hmem

theorem length_offsetsIn (x : Char) (offset : Nat) (marks : List (Char × Bool)) :
    (offsetsIn x offset marks).length = marks.count (x, true) := by
  induction marks generalizing offset with
  | nil => rfl
  | cons mark marks ih =>
    rw [offsetsIn]
    split
    · rename_i hmark
      rw [List.length_cons, ih, hmark, List.count_cons_self]
    · rename_i hmark
      rw [ih, List.count_cons_of_ne hmark]

/-- The offsets of marked characters lie where these characters lie. -/
theorem bounds_of_mem_offsetsIn {x : Char} {offset n : Nat} {marks : List (Char × Bool)}
    (h : n ∈ offsetsIn x offset marks) : offset ≤ n ∧ n < offset + width marks := by
  obtain ⟨front, back, rfl, rfl⟩ := mem_offsetsIn_iff.mp h
  have hpos := x.utf8Size_pos
  simp only [width_append, width_cons]
  omega

/-- Between the two ends of a part of the marks, a character is counted as often as in the part. -/
theorem countP_offsetsIn (x : Char) (front part back : List (Char × Bool)) {first last : Nat}
    (hfirst : first = width front) (hlast : last + 1 = width front + width part) :
    (offsetsIn x 0 (front ++ (part ++ back))).countP
      (fun offset => first ≤ offset ∧ offset ≤ last) = part.count (x, true) := by
  have hfront : (offsetsIn x 0 front).countP
      (fun offset => first ≤ offset ∧ offset ≤ last) = 0 := by
    apply List.countP_eq_zero.mpr
    intro n hn
    obtain ⟨_, hlt⟩ := bounds_of_mem_offsetsIn hn
    rw [decide_eq_true_eq]
    omega
  have hpart : (offsetsIn x (0 + width front) part).countP
      (fun offset => first ≤ offset ∧ offset ≤ last) = part.count (x, true) := by
    rw [← length_offsetsIn x (0 + width front) part]
    apply List.countP_eq_length.mpr
    intro n hn
    obtain ⟨hle, hlt⟩ := bounds_of_mem_offsetsIn hn
    rw [decide_eq_true_eq]
    omega
  have hback : (offsetsIn x (0 + width front + width part) back).countP
      (fun offset => first ≤ offset ∧ offset ≤ last) = 0 := by
    apply List.countP_eq_zero.mpr
    intro n hn
    obtain ⟨hle, _⟩ := bounds_of_mem_offsetsIn hn
    rw [decide_eq_true_eq]
    omega
  rw [offsetsIn_append, offsetsIn_append, List.countP_append, List.countP_append, hfront, hpart,
    hback]
  omega

section Opening

variable {t : Text} {front back : List (Char × Bool)}

/-- What stands behind an opening parenthesis of code, as the marks of the whole text show it. -/
theorem exists_of_mem_codeOffsets {x : Char} {opening : Nat} (h : opening ∈ codeOffsets x t) :
    ∃ front back, marked (tokens t) = front ++ (x, true) :: back ∧ opening = width front := by
  rw [codeOffsets_eq_offsetsIn] at h
  obtain ⟨front, back, hmarks, hopening⟩ := mem_offsetsIn_iff.mp h
  exact ⟨front, back, hmarks, by rw [hopening, Nat.zero_add]⟩

/-- A character of code behind an opening parenthesis, and what lies between the two. -/
theorem exists_between {x : Char} {front' back' : List (Char × Bool)}
    (h : marked (tokens t) = front ++ ('(', true) :: back)
    (h' : marked (tokens t) = front' ++ (x, true) :: back') (hlt : width front < width front') :
    ∃ inner, back = inner ++ (x, true) :: back' ∧ width front' = width front + 1 + width inner := by
  rcases List.append_eq_append_iff.mp (h.symm.trans h') with ⟨a, rfl, hback⟩ | ⟨b, rfl, _⟩
  · cases a with
    | nil =>
      rw [List.append_nil] at hlt
      omega
    | cons mark inner =>
      obtain ⟨rfl, htail⟩ := List.cons.inj hback
      refine ⟨inner, htail, ?_⟩
      rw [width_append, width_cons_opening]
      omega
  · rw [width_append] at hlt
    omega

/-- From an opening parenthesis through a closing one, the code of the text holds what the marks
from the one through the other hold. -/
theorem countBetween_eq_count (h : marked (tokens t) = front ++ ('(', true) :: back)
    {inner rest : List (Char × Bool)} (hback : back = inner ++ (')', true) :: rest) (x : Char) :
    countBetween x t (width front) (width front + 1 + width inner) =
      (('(', true) :: inner ++ [(')', true)]).count (x, true) := by
  have hmarks : marked (tokens t) = front ++ (('(', true) :: inner ++ [(')', true)] ++ rest) := by
    rw [h, hback]
    simp
  rw [countBetween, codeOffsets_eq_offsetsIn, hmarks]
  apply countP_offsetsIn x front _ rest rfl
  rw [width_append, width_cons_opening, width_cons_closing, width_nil]
  omega

/-- Closing as many as are opened, from an opening parenthesis through a closing one, is to do so
between them. -/
theorem countBetween_eq_iff (h : marked (tokens t) = front ++ ('(', true) :: back)
    {inner rest : List (Char × Bool)} (hback : back = inner ++ (')', true) :: rest) :
    countBetween '(' t (width front) (width front + 1 + width inner) =
        countBetween ')' t (width front) (width front + 1 + width inner) ↔
      opened inner = closed inner := by
  have hopened : countBetween '(' t (width front) (width front + 1 + width inner) =
      opened (('(', true) :: inner ++ [(')', true)]) := countBetween_eq_count h hback '('
  have hclosed : countBetween ')' t (width front) (width front + 1 + width inner) =
      closed (('(', true) :: inner ++ [(')', true)]) := countBetween_eq_count h hback ')'
  rw [hopened, hclosed, opened_append, closed_append, opened_cons_opening, closed_cons_opening,
    opened_cons_closing, closed_cons_closing, opened_nil, closed_nil]
  omega

/-- A parenthesis balances the opening one when the marks between them are balanced. -/
theorem balances_iff (h : marked (tokens t) = front ++ ('(', true) :: back) {closing : Nat} :
    Balances t (width front) closing ↔
      ∃ inner rest, back = inner ++ (')', true) :: rest ∧ closing = width front + 1 + width inner ∧
        opened inner = closed inner := by
  constructor
  · rintro ⟨hmem, hlt, hcount⟩
    obtain ⟨front', rest, hmarks, rfl⟩ := exists_of_mem_codeOffsets hmem
    obtain ⟨inner, hback, hwidth⟩ := exists_between h hmarks hlt
    rw [hwidth] at hcount
    exact ⟨inner, rest, hback, hwidth, (countBetween_eq_iff h hback).mp hcount⟩
  · rintro ⟨inner, rest, hback, rfl, hbalanced⟩
    refine ⟨?_, by omega, (countBetween_eq_iff h hback).mpr hbalanced⟩
    rw [codeOffsets_eq_offsetsIn, h, hback]
    refine mem_offsetsIn_iff.mpr ⟨front ++ ('(', true) :: inner, rest, by simp, ?_⟩
    rw [width_append, width_cons_opening]
    omega

theorem matching?_eq_map_fromClosing (h : marked (tokens t) = front ++ ('(', true) :: back) :
    matching? t (width front) = some ((fromClosing 1 back).map fun found =>
      width front + (1 + width back - width found)) := by
  have htext : t = front.map Prod.fst ++ '(' :: back.map Prod.fst := by
    have hall := map_fst_marked_tokens t
    rw [h, List.map_append, List.map_cons] at hall
    exact hall.symm
  have hdrop : Text.dropBytes? (width front) t = some ('(' :: back.map Prod.fst) :=
    Text.dropBytes?_eq_some_iff.mpr ⟨front.map Prod.fst, htext, rfl⟩
  rw [matching?, hdrop, Option.map_some, closing?, marked_tokens_of_eq_append h,
    fromClosing_opening, Option.map_map]
  rfl

/-- The parenthesis that is found is the one behind `inner`. -/
def ClosesBehind (back inner : List (Char × Bool)) : Prop :=
  ∃ rest, back = inner ++ (')', true) :: rest ∧ fromClosing 1 back = some ((')', true) :: rest)

theorem matching?_eq_some_iff (h : marked (tokens t) = front ++ ('(', true) :: back)
    {closing : Nat} :
    matching? t (width front) = some (some closing) ↔
      ∃ inner, ClosesBehind back inner ∧ closing = width front + 1 + width inner := by
  rw [matching?_eq_map_fromClosing h, Option.some.injEq, Option.map_eq_some_iff]
  constructor
  · rintro ⟨found, hfound, rfl⟩
    obtain ⟨inner, rest, hback, rfl, _⟩ := exists_of_fromClosing Nat.one_pos hfound
    refine ⟨inner, ⟨rest, hback, hfound⟩, ?_⟩
    rw [hback, width_append]
    omega
  · rintro ⟨inner, ⟨rest, hback, hfound⟩, rfl⟩
    refine ⟨_, hfound, ?_⟩
    rw [hback, width_append]
    omega

theorem matching?_eq_none_iff (h : marked (tokens t) = front ++ ('(', true) :: back) :
    matching? t (width front) = some none ↔ fromClosing 1 back = none := by
  rw [matching?_eq_map_fromClosing h, Option.some.injEq, Option.map_eq_none_iff]

theorem ClosesBehind.opened_eq {inner : List (Char × Bool)} (h : ClosesBehind back inner) :
    opened inner = closed inner := by
  obtain ⟨rest, hback, hfound⟩ := h
  obtain ⟨inner', rest', hback', hrest, hcount⟩ := exists_of_fromClosing Nat.one_pos hfound
  rw [← hrest, hback] at hback'
  rw [List.append_cancel_right hback']
  omega

/-- Behind a balanced part, a closing parenthesis is found, there or earlier. -/
theorem exists_closesBehind_prefix {inner rest : List (Char × Bool)}
    (hback : back = inner ++ (')', true) :: rest) (hbalanced : opened inner = closed inner) :
    ∃ first, ClosesBehind back first ∧ first <+: inner := by
  have hle : 1 + opened (inner ++ [(')', true)]) ≤ closed (inner ++ [(')', true)]) := by
    rw [opened_append, closed_append, opened_cons_closing, closed_cons_closing, opened_nil,
      closed_nil]
    omega
  obtain ⟨found, hfound, hlong⟩ := exists_fromClosing_append Nat.one_pos hle rest
  rw [List.append_assoc, List.singleton_append, ← hback] at hfound
  obtain ⟨first, rest', hfirst, rfl, _⟩ := exists_of_fromClosing Nat.one_pos hfound
  refine ⟨first, ⟨rest', hfirst, hfound⟩, ?_⟩
  have hlength := congrArg List.length (hfirst.symm.trans hback)
  rw [List.length_append, List.length_append, List.length_cons, List.length_cons] at hlength
  rw [List.length_cons] at hlong
  have hprefix : first <+: back := ⟨_, hfirst.symm⟩
  have hprefix' : inner <+: back := ⟨_, hback.symm⟩
  exact List.prefix_of_prefix_length_le hprefix hprefix' (by omega)

theorem ClosesBehind.unique {inner inner' : List (Char × Bool)} (h : ClosesBehind back inner)
    (h' : ClosesBehind back inner') : inner = inner' := by
  obtain ⟨rest, hback, hfound⟩ := h
  obtain ⟨rest', hback', hfound'⟩ := h'
  rw [Option.some.inj (hfound.symm.trans hfound')] at hback
  exact List.append_cancel_right (hback.symm.trans hback')

theorem ClosesBehind.balances (h : marked (tokens t) = front ++ ('(', true) :: back)
    {inner : List (Char × Bool)} (hcloses : ClosesBehind back inner) :
    Balances t (width front) (width front + 1 + width inner) := by
  have hbalanced := hcloses.opened_eq
  obtain ⟨rest, hback, _⟩ := hcloses
  exact (balances_iff h).mpr ⟨inner, rest, hback, rfl, hbalanced⟩

theorem ClosesBehind.isLeast (h : marked (tokens t) = front ++ ('(', true) :: back)
    {inner : List (Char × Bool)} (hcloses : ClosesBehind back inner) :
    IsLeast {closing | Balances t (width front) closing} (width front + 1 + width inner) := by
  refine ⟨hcloses.balances h, ?_⟩
  intro closing hbalances
  obtain ⟨inner', rest, hback, rfl, hbalanced⟩ := (balances_iff h).mp hbalances
  obtain ⟨first, hfirst, more, rfl⟩ := exists_closesBehind_prefix hback hbalanced
  rw [hcloses.unique hfirst, width_append]
  omega

/-- The first parenthesis that balances an opening one is found, if there is one. -/
theorem matching?_eq_isLeast {opening : Nat} (h : opening ∈ codeOffsets '(' t) :
    (∀ closing, matching? t opening = some (some closing) ↔
        IsLeast {closing | Balances t opening closing} closing) ∧
      (matching? t opening = some none ↔ ∀ closing, ¬ Balances t opening closing) := by
  obtain ⟨front, back, hmarks, rfl⟩ := exists_of_mem_codeOffsets h
  have hfound {closing : Nat} (hbalances : Balances t (width front) closing) :
      ∃ inner, ClosesBehind back inner := by
    obtain ⟨inner, rest, hback, _, hbalanced⟩ := (balances_iff hmarks).mp hbalances
    obtain ⟨first, hfirst, _⟩ := exists_closesBehind_prefix hback hbalanced
    exact ⟨first, hfirst⟩
  constructor
  · intro closing
    rw [matching?_eq_some_iff hmarks]
    constructor
    · rintro ⟨inner, hcloses, rfl⟩
      exact hcloses.isLeast hmarks
    · intro hleast
      obtain ⟨inner, hcloses⟩ := hfound hleast.1
      exact ⟨inner, hcloses, hleast.unique (hcloses.isLeast hmarks)⟩
  · rw [matching?_eq_none_iff hmarks]
    constructor
    · intro hnone closing hbalances
      obtain ⟨inner, rest, _, hsome⟩ := hfound hbalances
      rw [hnone] at hsome
      cases hsome
    · intro hnot
      cases hsome : fromClosing 1 back with
      | none => rfl
      | some found =>
        obtain ⟨inner, rest, hback, rfl, _⟩ := exists_of_fromClosing Nat.one_pos hsome
        exact absurd (ClosesBehind.balances hmarks ⟨rest, hback, hsome⟩) (hnot _)

/-- An opening parenthesis between another one and its match is closed in front of that match. -/
theorem ClosesBehind.exists_of_inside {between inner inner' rest : List (Char × Bool)}
    (h : ClosesBehind (between ++ ('(', true) :: back) (between ++ ('(', true) :: inner))
    (h' : ClosesBehind back inner') (hback : back = inner ++ (')', true) :: rest) :
    ∃ more, more ≠ [] ∧ inner = inner' ++ more := by
  have hcount := h.opened_eq
  rw [opened_append, closed_append, opened_cons_opening, closed_cons_opening] at hcount
  -- Nothing in front of the inner one closes the outer one: what is open is closed behind it.
  have hlt : closed between < 1 + opened between := by
    obtain ⟨rest', heq, hfound⟩ := h
    apply lt_of_fromClosing Nat.one_pos hfound
    have hlength := congrArg List.length heq
    simp only [List.length_append, List.length_cons] at hlength ⊢
    omega
  have hle : 1 + opened inner ≤ closed inner := by omega
  obtain ⟨found, hfound, hlong⟩ := exists_fromClosing_append Nat.one_pos hle ((')', true) :: rest)
  rw [← hback] at hfound
  obtain ⟨rest', hback', hfound'⟩ := h'
  obtain rfl := Option.some.inj (hfound.symm.trans hfound')
  have hlength := congrArg List.length (hback.symm.trans hback')
  simp only [List.length_append, List.length_cons] at hlength hlong
  have hprefix : inner' <+: back := ⟨_, hback'.symm⟩
  have hprefix' : inner <+: back := ⟨_, hback.symm⟩
  obtain ⟨more, rfl⟩ := List.prefix_of_prefix_length_le hprefix hprefix' (by omega)
  refine ⟨more, ?_, rfl⟩
  rintro rfl
  simp only [List.append_nil] at hlength
  omega

theorem lt_or_lt_of_matching? {first second closing closing' : Nat}
    (h : first ∈ codeOffsets '(' t) (h' : second ∈ codeOffsets '(' t) (hlt : first < second)
    (hmatch : matching? t first = some (some closing))
    (hmatch' : matching? t second = some (some closing')) :
    closing < second ∨ closing' < closing := by
  obtain ⟨front, back, hmarks, rfl⟩ := exists_of_mem_codeOffsets h
  obtain ⟨front', back', hmarks', rfl⟩ := exists_of_mem_codeOffsets h'
  obtain ⟨inner, hcloses, rfl⟩ := (matching?_eq_some_iff hmarks).mp hmatch
  obtain ⟨inner', hcloses', rfl⟩ := (matching?_eq_some_iff hmarks').mp hmatch'
  obtain ⟨between, rfl, hwidth⟩ := exists_between hmarks hmarks' hlt
  have hcloses₀ := hcloses
  obtain ⟨rest, heq, _⟩ := hcloses₀
  rcases List.append_eq_append_iff.mp heq with ⟨a, rfl, hrest⟩ | ⟨b, rfl, hrest⟩
  · cases a with
    | nil => simp at hrest
    | cons mark a =>
      obtain ⟨rfl, htail⟩ := List.cons.inj hrest
      obtain ⟨more, hne, rfl⟩ := hcloses.exists_of_inside hcloses' htail
      have hpos := width_pos hne
      rw [width_append, width_cons_opening, width_append]
      omega
  · cases b with
    | nil => simp at hrest
    | cons mark b =>
      obtain ⟨rfl, _⟩ := List.cons.inj hrest
      rw [width_append, width_cons_closing] at hwidth
      omega

end Opening

/-- The match of an opening parenthesis of code is the first parenthesis that balances it, and it
has none when no parenthesis does. Of two pairs, the one that opens later lies behind the other one
or inside it. -/
theorem matching?_balances (t : Text) :
    (∀ opening ∈ codeOffsets '(' t,
        (∀ closing, matching? t opening = some (some closing) ↔
          IsLeast {closing | Balances t opening closing} closing) ∧
        (matching? t opening = some none ↔ ∀ closing, ¬ Balances t opening closing)) ∧
      ∀ first ∈ codeOffsets '(' t, ∀ second ∈ codeOffsets '(' t, first < second →
        ∀ closing closing', matching? t first = some (some closing) →
          matching? t second = some (some closing') → closing < second ∨ closing' < closing := by
  constructor
  · intro opening h
    exact matching?_eq_isLeast h
  · intro first h second h' hlt closing closing' hmatch hmatch'
    exact lt_or_lt_of_matching? h h' hlt hmatch hmatch'

/-- One pair inside another one, with parentheses in a literal, in a bracketed name and in a
comment, and a last parenthesis that is never closed. -/
theorem matching?_balances_nested :
    let t := "x')' (ü, '(', [)], (b)) /* ( */ (c".toList
    codeOffsets '(' t = [5, 20, 33] ∧ codeOffsets ')' t = [22, 23] ∧
      IsLeast {closing | Balances t 5 closing} 23 ∧ IsLeast {closing | Balances t 20 closing} 22 ∧
      (∀ closing, ¬ Balances t 33 closing) ∧ (23 < 20 ∨ 22 < 23) := by
  intro t
  have hopening : codeOffsets '(' t = [5, 20, 33] := by decide +kernel
  have hclosing : codeOffsets ')' t = [22, 23] := by decide +kernel
  have houter : matching? t 5 = some (some 23) := by decide +kernel
  have hinner : matching? t 20 = some (some 22) := by decide +kernel
  have hlast : matching? t 33 = some none := by decide +kernel
  have hmem : ∀ opening ∈ [5, 20, 33], opening ∈ codeOffsets '(' t := by
    rw [hopening]
    exact fun opening h => h
  obtain ⟨hmatch, hpairs⟩ := matching?_balances t
  refine ⟨hopening, hclosing, ?_, ?_, ?_, ?_⟩
  · exact ((hmatch 5 (hmem 5 (by simp))).1 23).mp houter
  · exact ((hmatch 20 (hmem 20 (by simp))).1 22).mp hinner
  · exact (hmatch 33 (hmem 33 (by simp))).2.mp hlast
  · exact hpairs 5 (hmem 5 (by simp)) 20 (hmem 20 (by simp)) (by omega) 23 22 houter hinner

end Parenthesis

end SqlAssist
