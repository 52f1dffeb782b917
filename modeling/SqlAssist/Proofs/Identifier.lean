import Mathlib.Data.List.TakeWhile
import SqlAssist.Identifier
import SqlAssist.Proofs.Text

/-! # What identifiers look like

The two spellings of an identifier, said without the readers, and what the readers find in these
terms: a name in brackets or a plain name. A name so written has no white space at its edges, and
the name inside it no closing bracket. -/
namespace SqlAssist

open Character

namespace Character

def Ranges.codePoints (ranges : Ranges) : List Nat :=
  ranges.flatMap fun range => List.range' range.1 (range.2 + 1 - range.1)

theorem Ranges.mem_codePoints_of_covers {n : Nat} {ranges : Ranges}
    (h : Ranges.covers n ranges = true) : n ∈ ranges.codePoints := by
  induction ranges with
  | nil => cases h
  | cons range ranges ih =>
    obtain ⟨first, last⟩ := range
    rw [Ranges.codePoints, List.flatMap_cons, List.mem_append]
    by_cases hlt : n < first
    · rw [Ranges.covers_cons_of_lt hlt] at h
      cases h
    · by_cases hle : n ≤ last
      · refine Or.inl (List.mem_range'.mpr ⟨n - first, ?_, ?_⟩)
        · simp only
          omega
        · simp only
          omega
      · refine Or.inr (ih ?_)
        simpa [Ranges.covers, hlt, hle] using h

end Character

theorem Letters.isNamePart_of_isBlank (letters : Letters) {c : Char} (h : isBlank c = true) :
    letters.isNamePart c = false := by
  have hall : ∀ n ∈ blanks.codePoints, letters.isNamePart (Char.ofNat n) = false := by
    cases letters <;> decide +kernel
  have hc := hall c.toNat (Ranges.mem_codePoints_of_covers h)
  rwa [Char.ofNat_toNat] at hc

theorem Letters.isNamePart_of_isNameStart {letters : Letters} {c : Char}
    (h : letters.isNameStart c = true) : letters.isNamePart c = true := by
  simp [isNamePart, h]

theorem Letters.not_isBlank_of_isNamePart {letters : Letters} {c : Char}
    (h : letters.isNamePart c = true) : isBlank c = false := by
  cases hb : isBlank c with
  | false => rfl
  | true =>
    rw [letters.isNamePart_of_isBlank hb] at h
    cases h

namespace Identifier

def IsBracketed (t : Text) : Prop := ∃ body, t = '[' :: body ++ [']'] ∧ body ≠ [] ∧ ']' ∉ body

/-- A plain name: at most two number signs, a letter or underscore, and more name characters. -/
def IsPlain (letters : Letters) (t : Text) : Prop :=
  ∃ n first rest, t = List.replicate n '#' ++ first :: rest ∧ n ≤ 2 ∧
    letters.isNameStart first = true ∧ ∀ c ∈ rest, letters.isNamePart c = true

def IsWritten (letters : Letters) (t : Text) : Prop := IsBracketed t ∨ IsPlain letters t

theorem isBracketed_of_readBracketed? {t name rest : Text}
    (h : readBracketed? t = some (name, rest)) : IsBracketed name := by
  unfold readBracketed? at h
  split at h
  · rename_i t
    simp only at h
    split at h
    · cases h
    · rename_i close rest' hdrop
      split at h
      · cases h
      · rename_i hbody
        obtain ⟨rfl, rfl⟩ := Prod.mk.inj (Option.some.inj h)
        have hclose := List.head?_dropWhile_not (p := (· ≠ ']')) t
        rw [hdrop] at hclose
        obtain rfl : close = ']' := by simpa using hclose
        refine ⟨_, rfl, hbody, ?_⟩
        intro hmem
        simpa using List.mem_takeWhile_imp hmem
  · cases h

theorem temporaryMark_eq_replicate (t : Text) :
    ∃ n ≤ 2, (temporaryMark t).1 = List.replicate n '#' := by
  unfold temporaryMark
  split
  · exact ⟨2, by omega, rfl⟩
  · exact ⟨1, by omega, rfl⟩
  · exact ⟨0, by omega, rfl⟩

theorem isPlain_of_readPlain? {letters : Letters} {t name rest : Text}
    (h : readPlain? letters t = some (name, rest)) : IsPlain letters name := by
  obtain ⟨n, hn, hmark⟩ := temporaryMark_eq_replicate t
  unfold readPlain? at h
  split at h
  · cases h
  · rename_i mark c tail ht
    rw [ht] at hmark
    split at h
    · rename_i hc
      obtain ⟨rfl, rfl⟩ := Prod.mk.inj (Option.some.inj h)
      refine ⟨n, c, _, by rw [← hmark], hn, hc, ?_⟩
      intro d hd
      exact List.mem_takeWhile_imp hd
    · cases h

/-- What is read as a name is written in one of the two spellings. -/
theorem isWritten_of_read? {letters : Letters} {t name rest : Text}
    (h : read? letters t = some (name, rest)) : IsWritten letters name := by
  rcases Option.or_eq_some_iff.mp h with hb | ⟨_, hp⟩
  · exact Or.inl (isBracketed_of_readBracketed? hb)
  · exact Or.inr (isPlain_of_readPlain? hp)

theorem isTight_of_isBracketed {t : Text} (h : IsBracketed t) : Text.IsTight t := by
  obtain ⟨body, rfl, _⟩ := h
  exact ⟨⟨'[', body ++ [']'], rfl, by decide⟩, '[' :: body, ']', rfl, by decide⟩

theorem isTight_of_isPlain {letters : Letters} {t : Text} (h : IsPlain letters t) :
    Text.IsTight t := by
  obtain ⟨n, first, rest, rfl, _, hfirst, hrest⟩ := h
  have hall : ∀ c ∈ first :: rest, isBlank c = false := by
    intro c hc
    apply Letters.not_isBlank_of_isNamePart
    rcases List.mem_cons.mp hc with rfl | hc
    · exact Letters.isNamePart_of_isNameStart hfirst
    · exact hrest c hc
  constructor
  · cases n with
    | zero => exact ⟨first, rest, rfl, hall first List.mem_cons_self⟩
    | succ n => exact ⟨'#', List.replicate n '#' ++ first :: rest, rfl, by decide⟩
  · have hne : first :: rest ≠ [] := List.cons_ne_nil first rest
    refine ⟨List.replicate n '#' ++ (first :: rest).dropLast, (first :: rest).getLast hne, ?_,
      hall _ (List.getLast_mem hne)⟩
    rw [List.append_assoc, List.dropLast_concat_getLast hne]

theorem IsWritten.isTight {letters : Letters} {t : Text} (h : IsWritten letters t) :
    Text.IsTight t := by
  rcases h with hb | hp
  · exact isTight_of_isBracketed hb
  · exact isTight_of_isPlain hp

theorem strip_brackets (body : Text) : strip ('[' :: body ++ [']']) = body := by
  simp [strip]

theorem strip_of_not_mem {t : Text} (h : ']' ∉ t) : strip t = t := by
  unfold strip
  split
  · rename_i t
    rw [if_neg]
    intro hlast
    exact h (List.mem_cons_of_mem _ (List.mem_of_getLast? hlast))
  · rfl

theorem not_mem_of_isPlain {letters : Letters} {t : Text} (h : IsPlain letters t) : ']' ∉ t := by
  have hpart : letters.isNamePart ']' = false := by cases letters <;> decide
  obtain ⟨n, first, rest, rfl, _, hfirst, hrest⟩ := h
  intro hmem
  rcases List.mem_append.mp hmem with hmark | hname
  · exact absurd (List.eq_of_mem_replicate hmark) (by decide)
  · have hc : letters.isNamePart ']' = true := by
      rcases List.mem_cons.mp hname with rfl | hc
      · exact Letters.isNamePart_of_isNameStart hfirst
      · exact hrest _ hc
    rw [hpart] at hc
    cases hc

/-- The name inside an identifier holds no closing bracket. -/
theorem IsWritten.not_mem_strip {letters : Letters} {t : Text} (h : IsWritten letters t) :
    ']' ∉ strip t := by
  rcases h with ⟨body, rfl, _, hbody⟩ | hp
  · rwa [strip_brackets]
  · rw [strip_of_not_mem (not_mem_of_isPlain hp)]
    exact not_mem_of_isPlain hp

end Identifier

end SqlAssist
