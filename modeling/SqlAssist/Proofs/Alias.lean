import Mathlib.Data.List.Nodup
import Mathlib.Data.List.Perm.Subperm
import Mathlib.Order.Bounds.Basic
import Mathlib.Order.Nat
import SqlAssist.Proofs.Text
import SqlAssist.Suggestion

/-! # Aliases are free

The alias made for a table is never empty, and with the number that is added when it is needed it is
neither in use nor a word that is no alias. Digits have no case, so the lower cases of the numbered
candidates differ in the number. There is one more of them than there are aliases in use, hence one
of them is free, and the smallest number that makes it so is taken. -/
namespace SqlAssist

open Character

theorem Character.lower_ne_nil (c : Char) : lower c ≠ [] := by
  unfold lower
  split
  · exact List.cons_ne_nil _ _
  · split
    · exact List.cons_ne_nil _ _
    · exact List.cons_ne_nil _ _

namespace Text

def digits : List Char := "0123456789".toList

theorem mem_digits_of_mem_ofNat {n : Nat} {c : Char} (h : c ∈ ofNat n) : c ∈ digits := by
  have hall : ∀ k ∈ List.range' 48 10, Char.ofNat k ∈ digits := by decide
  have hdigit := Nat.isDigit_of_mem_toDigits (by decide) (by decide) h
  simp only [Char.isDigit, Bool.and_eq_true, decide_eq_true_eq] at hdigit
  have hlo : 48 ≤ c.toNat := hdigit.1
  have hhi : c.toNat ≤ 57 := hdigit.2
  have hc := hall c.toNat (List.mem_range'.mpr ⟨c.toNat - 48, by omega, by omega⟩)
  rwa [Char.ofNat_toNat] at hc

theorem ofNat_injective {m n : Nat} (h : ofNat m = ofNat n) : m = n := by
  have hread := congrArg (fun ds => Nat.ofDigitChars 10 ds 0) h
  simpa [ofNat] using hread

theorem of_mem_digits {c : Char} (h : c ∈ digits) :
    c ≠ 'Σ' ∧ Character.lower c = [c] ∧ isCaseIgnorable c = false ∧ isCased c = false := by
  have hall : ∀ c ∈ digits,
      c ≠ 'Σ' ∧ Character.lower c = [c] ∧ isCaseIgnorable c = false ∧ isCased c = false :=
    forall_of_all (by decide)
  exact hall c h

theorem lowerAfter_of_digits {t : Text} (h : ∀ c ∈ t, c ∈ digits) (inWord : Bool) :
    lowerAfter inWord t = t := by
  induction t generalizing inWord with
  | nil => rfl
  | cons c t ih =>
    obtain ⟨hsigma, hlower, _, _⟩ := of_mem_digits (h c List.mem_cons_self)
    rw [lowerAfter, if_neg hsigma, hlower, ih fun d hd => h d (List.mem_cons_of_mem c hd)]
    rfl

/-- A digit behind a text ends the last word of it, as the end of the text does. -/
theorem casedNext_append_digit {d : Char} (hd : d ∈ digits) (t rest : Text) :
    casedNext (t ++ d :: rest) = casedNext t := by
  obtain ⟨_, _, hignorable, hcased⟩ := of_mem_digits hd
  induction t with
  | nil => simp [casedNext, hignorable, hcased]
  | cons c t ih =>
    cases hc : isCaseIgnorable c with
    | true => simpa [casedNext, List.dropWhile_cons, hc] using ih
    | false => simp [casedNext, hc]

theorem lowerAfter_append_ofNat (inWord : Bool) (t : Text) (n : Nat) :
    lowerAfter inWord (t ++ ofNat n) = lowerAfter inWord t ++ ofNat n := by
  induction t generalizing inWord with
  | nil => exact lowerAfter_of_digits (fun c hc => mem_digits_of_mem_ofNat hc) inWord
  | cons c t ih =>
    obtain ⟨d, rest, hdigits⟩ := List.exists_cons_of_ne_nil (Nat.toDigits_ne_nil (n := n) (b := 10))
    have hd : d ∈ digits := mem_digits_of_mem_ofNat (n := n) (by simp [ofNat, hdigits])
    have hnext : casedNext (t ++ ofNat n) = casedNext t := by
      rw [ofNat, hdigits, casedNext_append_digit hd]
    rw [List.cons_append, lowerAfter, lowerAfter, hnext, ih, List.append_assoc]

theorem lower_append_ofNat (t : Text) (n : Nat) : lower (t ++ ofNat n) = lower t ++ ofNat n :=
  lowerAfter_append_ofNat false t n

end Text

/-- No word that is no alias ends in a digit. -/
theorem isAliasStopWord_append_ofNat (base : Text) (n : Nat) :
    isAliasStopWord (base ++ Text.ofNat n) = false := by
  have hwords : ∀ word ∈ aliasStopWords,
      word.getLast?.map Char.toLower ∉ Text.digits.map some := by
    decide
  have hlower : ∀ c ∈ Text.digits, c.toLower = c := Text.forall_of_all (by decide)
  refine List.any_eq_false.mpr fun word hword heq => ?_
  have hne : Text.ofNat n ≠ [] := Nat.toDigits_ne_nil
  have hd := Text.mem_digits_of_mem_ofNat (List.getLast_mem hne)
  have hlast := congrArg List.getLast? (Text.eqIgnoreCase_iff.mp heq)
  rw [List.getLast?_map, List.getLast?_map, List.getLast?_append_of_ne_nil base hne,
    List.getLast?_eq_some_getLast hne, Option.map_some, hlower _ hd] at hlast
  exact hwords word hword (hlast ▸ List.mem_map_of_mem hd)

namespace Alias

theorem isFree_iff {taken : List Text} {candidate : Text} :
    isFree taken candidate = true ↔
      (∀ t ∈ taken, Text.lower candidate ≠ Text.lower t) ∧ isAliasStopWord candidate = false := by
  simp [isFree, eq_comm (a := Text.lower candidate)]

/-- Of more numbers than there are aliases in use, one makes the alias free. -/
theorem exists_isFree (base : Text) (taken : List Text) (n : Nat) :
    ∃ m, n ≤ m ∧ m < n + (taken.length + 1) ∧ isFree taken (base ++ Text.ofNat m) = true := by
  by_contra hnone
  push Not at hnone
  let candidates := (List.range' n (taken.length + 1)).map (Text.lower base ++ Text.ofNat ·)
  have hnodup : candidates.Nodup := by
    refine List.Nodup.map ?_ List.nodup_range'
    intro i j hij
    exact Text.ofNat_injective (List.append_cancel_left hij)
  have hsubset : candidates ⊆ taken.map Text.lower := by
    intro t ht
    obtain ⟨m, hm, rfl⟩ := List.mem_map.mp ht
    obtain ⟨i, hi, rfl⟩ := List.mem_range'.mp hm
    by_contra hfresh
    refine hnone (n + 1 * i) (by omega) (by omega)
      (isFree_iff.mpr ⟨fun t ht heq => ?_, isAliasStopWord_append_ofNat base _⟩)
    rw [Text.lower_append_ofNat] at heq
    exact hfresh (List.mem_map.mpr ⟨t, ht, heq.symm⟩)
  have hlength := (hnodup.subperm hsubset).length_le
  simp only [candidates, List.length_map, List.length_range'] at hlength
  omega

/-- The numbers are tried in order, so the smallest one that makes the alias free is taken. -/
theorem numbered_of_isLeast {base : Text} {taken : List Text} {tries n m : Nat}
    (h : IsLeast {k | n ≤ k ∧ isFree taken (base ++ Text.ofNat k) = true} m)
    (hm : m < n + tries) : numbered base taken tries n = base ++ Text.ofNat m := by
  obtain ⟨⟨hn, hfree⟩, hleast⟩ := h
  induction tries generalizing n with
  | zero => omega
  | succ tries ih =>
    by_cases hfirst : isFree taken (base ++ Text.ofNat n) = true
    · have hle : m ≤ n := hleast ⟨Nat.le_refl n, hfirst⟩
      rw [numbered, if_pos hfirst, Nat.le_antisymm hle hn]
    · have hne : n ≠ m := by
        rintro rfl
        exact hfirst hfree
      rw [numbered, if_neg hfirst]
      refine ih (by omega) ?_ (by omega)
      rintro k ⟨hk, hkfree⟩
      exact hleast ⟨by omega, hkfree⟩

/-- The smallest number that makes the alias free is among those that are tried. -/
theorem exists_isLeast_free (base : Text) (taken : List Text) :
    ∃ n ≤ taken.length + 2,
      IsLeast {k | 2 ≤ k ∧ isFree taken (base ++ Text.ofNat k) = true} n := by
  obtain ⟨m, hlo, hhi, hfree⟩ := exists_isFree base taken 2
  have hsome : ∃ k, 2 ≤ k ∧ isFree taken (base ++ Text.ofNat k) = true := ⟨m, hlo, hfree⟩
  have hle : Nat.find hsome ≤ m := Nat.find_min' hsome ⟨hlo, hfree⟩
  exact ⟨Nat.find hsome, by omega, Nat.isLeast_find hsome⟩

/-- The alias is the base where that is free, and otherwise the base with the smallest number from
two on that makes it free. -/
theorem unique_eq_or (base : Text) (taken : List Text) :
    (isFree taken base = true ∧ unique base taken = base) ∨
      (isFree taken base = false ∧ ∃ n ≤ taken.length + 2,
        IsLeast {k | 2 ≤ k ∧ isFree taken (base ++ Text.ofNat k) = true} n ∧
          unique base taken = base ++ Text.ofNat n) := by
  cases hfree : isFree taken base with
  | true => exact Or.inl ⟨rfl, by rw [unique, if_pos hfree]⟩
  | false =>
    obtain ⟨n, hn, hleast⟩ := exists_isLeast_free base taken
    refine Or.inr ⟨rfl, n, hn, hleast, ?_⟩
    rw [unique, if_neg (by simp [hfree]), numbered_of_isLeast hleast (by omega)]

theorem unique_spec (base : Text) (taken : List Text) :
    isFree taken (unique base taken) = true ∧
      (unique base taken = base ∨ ∃ n, unique base taken = base ++ Text.ofNat n) := by
  rcases unique_eq_or base taken with ⟨hfree, heq⟩ | ⟨_, n, _, hleast, heq⟩
  · exact ⟨by rw [heq, hfree], Or.inl heq⟩
  · exact ⟨by rw [heq, hleast.1.2], Or.inr ⟨n, heq⟩⟩

def InUse (taken : List Text) (candidate : Text) : Prop :=
  Text.lower candidate ∈ taken.map Text.lower

theorem isFree_iff_not_inUse {taken : List Text} {candidate : Text} :
    isFree taken candidate = true ↔
      ¬ InUse taken candidate ∧ isAliasStopWord candidate = false := by
  simp [isFree, InUse]

theorem isFree_append_ofNat_iff {taken : List Text} {base : Text} {n : Nat} :
    isFree taken (base ++ Text.ofNat n) = true ↔ ¬ InUse taken (base ++ Text.ofNat n) := by
  rw [isFree_iff_not_inUse, isAliasStopWord_append_ofNat]
  exact and_iff_left rfl

/-- The alias is neither in use nor a word that is no alias. It is the base itself where that is
neither, and otherwise the base with the smallest number from two on that is not in use; that number
is at most two more than there are aliases in use. -/
theorem unique_eq_base_or_smallest (base : Text) (taken : List Text) :
    ¬ InUse taken (unique base taken) ∧ isAliasStopWord (unique base taken) = false ∧
      ((¬ InUse taken base ∧ isAliasStopWord base = false ∧ unique base taken = base) ∨
        ((InUse taken base ∨ isAliasStopWord base = true) ∧
          ∃ n, IsLeast {k | 2 ≤ k ∧ ¬ InUse taken (base ++ Text.ofNat k)} n ∧
            n ≤ taken.length + 2 ∧ unique base taken = base ++ Text.ofNat n)) := by
  obtain ⟨hunused, hword⟩ := isFree_iff_not_inUse.mp (unique_spec base taken).1
  refine ⟨hunused, hword, ?_⟩
  rcases unique_eq_or base taken with ⟨hfree, heq⟩ | ⟨hnot, n, hn, hleast, heq⟩
  · obtain ⟨hbase, hbaseWord⟩ := isFree_iff_not_inUse.mp hfree
    exact Or.inl ⟨hbase, hbaseWord, heq⟩
  · refine Or.inr ⟨?_, n, ?_, hn, heq⟩
    · by_contra hneither
      push Not at hneither
      have hfree := isFree_iff_not_inUse.mpr ⟨hneither.1, Bool.eq_false_iff.mpr hneither.2⟩
      rw [hnot] at hfree
      cases hfree
    · simpa only [isFree_append_ofNat_iff] using hleast

example : unique "o".toList ["O".toList, "o2".toList] = "o3".toList ∧
    unique "on".toList [] = "on2".toList := by decide +kernel

theorem unique_ne_nil {base : Text} (h : base ≠ []) (taken : List Text) :
    unique base taken ≠ [] := by
  rcases (unique_spec base taken).2 with heq | ⟨n, heq⟩
  · rwa [heq]
  · rw [heq]
    exact fun hnil => h (List.append_eq_nil_iff.mp hnil).1

theorem mem_of_mem_wordInitials {fresh : Bool} {t : Text} {c : Char}
    (h : c ∈ wordInitials fresh t) : c ∈ t := by
  induction t generalizing fresh with
  | nil => exact h
  | cons d t ih =>
    simp only [wordInitials] at h
    split at h
    · exact List.mem_cons_of_mem d (ih h)
    · split at h
      · rcases List.mem_cons.mp h with rfl | h
        · exact List.mem_cons_self
        · exact List.mem_cons_of_mem d (ih h)
      · exact List.mem_cons_of_mem d (ih h)

theorem mem_of_mem_humps {t : Text} {c : Char} (h : c ∈ humps t) : c ∈ t := by
  cases t with
  | nil => exact h
  | cons d t =>
    simp only [humps] at h
    split at h
    · rcases List.mem_cons.mp h with rfl | h
      · exact List.mem_cons_self
      · exact List.mem_cons_of_mem d (List.mem_filter.mp h).1
    · exact List.mem_cons_of_mem d (List.mem_filter.mp h).1

theorem mem_of_mem_dropCustomary {name : Text} {c : Char} (h : c ∈ dropCustomary name) :
    c ∈ name := by
  unfold dropCustomary at h
  split at h
  · exact List.mem_of_mem_drop h
  · split at h
    · exact List.mem_of_mem_drop h
    · exact h

/-- An alias is the lower case of some characters of the name, of one at least, or a `t`. -/
theorem ofName_eq (name : Text) :
    ofName name = ['t'] ∨ ∃ initials, initials ≠ [] ∧ (∀ c ∈ initials, c ∈ name) ∧
      ofName name = ofInitials initials := by
  simp only [ofName]
  split
  · rename_i hwords
    refine Or.inr ⟨_, List.ne_nil_of_length_pos (by omega), fun c hc => ?_, rfl⟩
    exact mem_of_mem_dropCustomary (mem_of_mem_wordInitials hc)
  · split
    · rename_i hhumps
      refine Or.inr ⟨_, List.ne_nil_of_length_pos (by omega), fun c hc => ?_, rfl⟩
      exact mem_of_mem_dropCustomary (mem_of_mem_humps hc)
    · split
      · rename_i c hfind
        refine Or.inr ⟨[c], List.cons_ne_nil c [], fun d hd => ?_, by simp [ofInitials]⟩
        obtain rfl := List.mem_singleton.mp hd
        exact mem_of_mem_dropCustomary (List.mem_of_find?_eq_some hfind)
      · exact Or.inl rfl

theorem ofName_ne_nil (name : Text) : ofName name ≠ [] := by
  rcases ofName_eq name with heq | ⟨initials, hne, _, heq⟩
  · rw [heq]
    exact List.cons_ne_nil 't' []
  · obtain ⟨c, rest, rfl⟩ := List.exists_cons_of_ne_nil hne
    rw [heq, ofInitials, List.flatMap_cons]
    exact fun hnil => Character.lower_ne_nil c (List.append_eq_nil_iff.mp hnil).1

theorem of_mem_unique_ofName {name : Text} {taken : List Text} {c : Char}
    (h : c ∈ unique (ofName name) taken) :
    c = 't' ∨ c ∈ Text.digits ∨ ∃ d ∈ name, c ∈ Character.lower d := by
  have hname : c ∈ ofName name → c = 't' ∨ ∃ d ∈ name, c ∈ Character.lower d := by
    intro hc
    rcases ofName_eq name with heq | ⟨initials, _, hsubset, heq⟩
    · rw [heq] at hc
      exact Or.inl (List.mem_singleton.mp hc)
    · rw [heq] at hc
      obtain ⟨d, hd, hcd⟩ := List.mem_flatMap.mp hc
      exact Or.inr ⟨d, hsubset d hd, hcd⟩
  have hcases : c ∈ ofName name ∨ c ∈ Text.digits := by
    rcases (unique_spec (ofName name) taken).2 with heq | ⟨n, heq⟩
    · exact Or.inl (heq ▸ h)
    · rw [heq] at h
      exact (List.mem_append.mp h).imp_right Text.mem_digits_of_mem_ofNat
  rcases hcases with hc | hc
  · rcases hname hc with ht | hd
    · exact Or.inl ht
    · exact Or.inr (Or.inr hd)
  · exact Or.inr (Or.inl hc)

end Alias

end SqlAssist
