import SqlAssist.Proofs.Identifier.Quoting
import SqlAssist.Proofs.Text
import SqlAssist.Search

/-! # Reading without the case of ASCII letters

Folding a text brings its ASCII letters to lower case and leaves every other character. None of the
classes that readers look for separates a letter from its folding, and none of the signs that they
look for is a letter, so from a folded text they read the folding of what they read from the text
itself. -/
namespace SqlAssist

namespace Character

/-- Folding a character makes no sign and removes none. -/
@[simp] theorem toLower_eq_iff {x : Char} (h : x.isAlpha = false) (c : Char) :
    c.toLower = x ↔ c = x := by
  have hall : ∀ n ∈ capitals, (Char.ofNat n).toLower.isAlpha = true ∧
      (Char.ofNat n).isAlpha = true := by
    decide
  have heq : decide (c.toLower = x) = decide (c = x) := by
    refine apply_toLower (f := fun c => decide (c = x)) (fun n hn => ?_) c
    obtain ⟨hlower, hupper⟩ := hall n hn
    rw [decide_eq_false (fun heq => ?_), decide_eq_false (fun heq => ?_)]
    · rw [heq, h] at hupper
      cases hupper
    · rw [heq, h] at hlower
      cases hlower
  simpa using heq

theorem toLower_beq {x : Char} (h : x.isAlpha = false) (c : Char) :
    (c.toLower == x) = (c == x) := by
  rw [Bool.eq_iff_iff, beq_iff_eq, beq_iff_eq, toLower_eq_iff h]

@[simp] theorem toLower_toLower (c : Char) : c.toLower.toLower = c.toLower :=
  apply_toLower (f := Char.toLower) (by decide) c

@[simp] theorem utf8Size_toLower (c : Char) : c.toLower.utf8Size = c.utf8Size :=
  apply_toLower (by decide) c

@[simp] theorem isBlank_toLower (c : Char) : isBlank c.toLower = isBlank c :=
  apply_toLower (by decide) c

@[simp] theorem isWord_toLower (c : Char) : isWord c.toLower = isWord c :=
  apply_toLower (by decide) c

end Character

open Character

@[simp] theorem Letters.isNameStart_toLower (letters : Letters) (c : Char) :
    letters.isNameStart c.toLower = letters.isNameStart c := by
  refine apply_toLower ?_ c
  cases letters <;> decide

@[simp] theorem Letters.isNamePart_toLower (letters : Letters) (c : Char) :
    letters.isNamePart c.toLower = letters.isNamePart c := by
  refine apply_toLower ?_ c
  cases letters <;> decide

@[simp] theorem foldLetter_toLower (c : Char) : foldLetter c.toLower = foldLetter c :=
  apply_toLower (by decide) c

@[simp] theorem noWord_map_toLower (neighbour : Option Char) :
    noWord (neighbour.map Char.toLower) = noWord neighbour := by
  cases neighbour with
  | none => rfl
  | some c => simp [noWord]

namespace Text

/-- The text with its ASCII letters in lower case. -/
def folded (t : Text) : Text := t.map Char.toLower

@[simp] theorem folded_nil : folded [] = [] := rfl

@[simp] theorem folded_cons (c : Char) (t : Text) : folded (c :: t) = c.toLower :: folded t := rfl

@[simp] theorem folded_append (s t : Text) : folded (s ++ t) = folded s ++ folded t :=
  List.map_append

@[simp] theorem length_folded (t : Text) : (folded t).length = t.length := List.length_map _

@[simp] theorem head?_folded (t : Text) : (folded t).head? = t.head?.map Char.toLower :=
  List.head?_map

@[simp] theorem tail_folded (t : Text) : (folded t).tail = folded t.tail := List.map_tail.symm

@[simp] theorem reverse_folded (t : Text) : (folded t).reverse = folded t.reverse :=
  List.map_reverse.symm

@[simp] theorem folded_eq_nil_iff {t : Text} : folded t = [] ↔ t = [] := List.map_eq_nil_iff

@[simp] theorem folded_folded (t : Text) : folded (folded t) = folded t := by
  simp [folded]

@[simp] theorem size_folded (t : Text) : size (folded t) = size t := by
  induction t with
  | nil => rfl
  | cons c t ih => simp [ih]

@[simp] theorem lower_folded (t : Text) : lower (folded t) = lower t :=
  lowerAfter_map_toLower false t

theorem head?_folded_beq {x : Char} (hx : x.isAlpha = false) (t : Text) :
    ((folded t).head? == some x) = (t.head? == some x) := by
  cases t with
  | nil => rfl
  | cons c t => exact toLower_beq hx c

/-- A text begins with the same signs. -/
theorem startsWith_folded_iff {x : Text} (hx : ∀ c ∈ x, c.isAlpha = false) (t : Text) :
    x <+: folded t ↔ x <+: t := by
  induction x generalizing t with
  | nil => simp
  | cons c x ih =>
    cases t with
    | nil => rfl
    | cons d t =>
      rw [folded_cons, List.cons_prefix_cons, List.cons_prefix_cons,
        ih fun e he => hx e (List.mem_cons_of_mem c he), eq_comm,
        toLower_eq_iff (hx c List.mem_cons_self), eq_comm]

theorem takeWhile_folded {p : Char → Bool} (hp : ∀ c, p c.toLower = p c) (t : Text) :
    (folded t).takeWhile p = folded (t.takeWhile p) := by
  rw [folded, List.takeWhile_map, show p ∘ Char.toLower = p from funext hp, folded]

theorem dropWhile_folded {p : Char → Bool} (hp : ∀ c, p c.toLower = p c) (t : Text) :
    (folded t).dropWhile p = folded (t.dropWhile p) := by
  rw [folded, List.dropWhile_map, show p ∘ Char.toLower = p from funext hp, folded]

/-- A text is cut at the same sign. -/
theorem cut_folded {x : Char} (hx : x.isAlpha = false) (t : Text) :
    (folded t).takeWhile (· ≠ x) = folded (t.takeWhile (· ≠ x)) ∧
      (folded t).dropWhile (· ≠ x) = folded (t.dropWhile (· ≠ x)) := by
  have hp : ∀ c : Char, decide (c.toLower ≠ x) = decide (c ≠ x) := by
    intro c
    simp only [ne_eq, toLower_eq_iff hx]
  exact ⟨takeWhile_folded (p := fun c => decide (c ≠ x)) hp t,
    dropWhile_folded (p := fun c => decide (c ≠ x)) hp t⟩

@[simp] theorem trimStart_folded (t : Text) : trimStart (folded t) = folded (trimStart t) :=
  dropWhile_folded isBlank_toLower t

@[simp] theorem skipBlanks?_folded (t : Text) :
    skipBlanks? (folded t) = (skipBlanks? t).map folded := by
  cases t with
  | nil => rfl
  | cons c t =>
    simp only [folded_cons, skipBlanks?, isBlank_toLower, trimStart_folded]
    split <;> rfl

theorem skipChar?_folded {x : Char} (hx : x.isAlpha = false) (t : Text) :
    skipChar? x (folded t) = (skipChar? x t).map folded := by
  cases t with
  | nil => rfl
  | cons c t =>
    simp only [folded_cons, skipChar?, toLower_eq_iff hx]
    split <;> rfl

end Text

open Text

@[simp] theorem readWord?_folded (word t : Text) :
    readWord? word (folded t) = (readWord? word t).map folded := by
  induction word generalizing t with
  | nil => simp
  | cons w word ih =>
    cases t with
    | nil => rfl
    | cons c t =>
      simp only [folded_cons, readWord?, foldLetter_toLower, ih]
      split <;> rfl

namespace Identifier

theorem temporaryMark_folded (t : Text) :
    temporaryMark (folded t) = Prod.map folded folded (temporaryMark t) := by
  fun_cases temporaryMark t with
  | case1 t => rfl
  | case2 t hnext =>
    cases t with
    | nil => rfl
    | cons c t =>
      have hc : c ≠ '#' := fun heq => hnext t (by rw [heq])
      exact temporaryMark_replicate (n := 1) (by omega) (by simpa using hc) (folded t)
  | case3 t htwo hone =>
    cases t with
    | nil => rfl
    | cons c t =>
      have hc : c ≠ '#' := fun heq => hone t (by rw [heq])
      exact temporaryMark_replicate (n := 0) (by omega) (by simpa using hc) (folded t)

@[simp] theorem readPlain?_folded (letters : Letters) (t : Text) :
    readPlain? letters (folded t) = (readPlain? letters t).map (Prod.map folded folded) := by
  unfold readPlain?
  rw [temporaryMark_folded]
  obtain ⟨mark, rest⟩ := temporaryMark t
  cases rest with
  | nil => rfl
  | cons c rest =>
    simp only [Prod.map, folded_cons, Letters.isNameStart_toLower,
      takeWhile_folded (Letters.isNamePart_toLower letters),
      dropWhile_folded (Letters.isNamePart_toLower letters)]
    split
    · simp
    · rfl

@[simp] theorem readBracketed?_folded (t : Text) :
    readBracketed? (folded t) = (readBracketed? t).map (Prod.map folded folded) := by
  by_cases hhead : t.head? = some '['
  · obtain ⟨t, rfl⟩ := List.head?_eq_some_iff.mp hhead
    obtain ⟨htake, hdrop⟩ := cut_folded (x := ']') (by decide) t
    change readBracketed? ('[' :: folded t) = _
    simp only [readBracketed?, htake, hdrop]
    cases t.dropWhile (· ≠ ']') with
    | nil => rfl
    | cons close rest =>
      simp only [folded_cons, folded_eq_nil_iff]
      split
      · rfl
      · simp
  · have hfolded : (folded t).head? ≠ some '[' := by simpa using hhead
    rw [readBracketed?_of_head? hhead, readBracketed?_of_head? hfolded]
    rfl

@[simp] theorem read?_folded (letters : Letters) (t : Text) :
    read? letters (folded t) = (read? letters t).map (Prod.map folded folded) := by
  simp only [read?, readBracketed?_folded, readPlain?_folded, Option.map_or]

@[simp] theorem strip_folded (t : Text) : strip (folded t) = folded (strip t) := by
  fun_cases strip t with
  | case1 t hlast =>
    change strip ('[' :: folded t) = _
    have hfolded : (folded t).getLast? = some ']' := by
      rw [folded, List.getLast?_map, hlast]
      rfl
    rw [strip, if_pos hfolded, folded, folded, List.map_dropLast]
  | case2 t hlast =>
    change strip ('[' :: folded t) = _
    have hfolded : (folded t).getLast? ≠ some ']' := by
      simpa [folded] using hlast
    rw [strip, if_neg hfolded]
    rfl
  | case3 t hhead =>
    unfold strip
    split
    · rename_i heq
      cases t with
      | nil => cases heq
      | cons c t =>
        obtain rfl : c = '[' := by simpa using (List.cons.inj heq).1
        exact absurd rfl (hhead t)
    · rfl

end Identifier

end SqlAssist
