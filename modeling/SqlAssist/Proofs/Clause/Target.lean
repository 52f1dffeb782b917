import SqlAssist.Clause
import SqlAssist.Proofs.Reference.Anchor
import SqlAssist.Proofs.Reference.Written

/-! # A complete target

Behind FROM or JOIN a target is complete when nothing but a table name and maybe an alias stands
there, with white space on either side. The reader that decides it agrees with this description. -/
namespace SqlAssist

open Character Identifier

/-- A table name is read to its end where neither a name character nor a dot follows it. -/
theorem ObjectName.Spelled.read?_append_of_head? {name : ObjectName} {written rest : Text}
    (h : name.Spelled written)
    (hrest : ∀ c ∈ rest.head?, Letters.folded.isNamePart c = false ∧ c ≠ '.') :
    read? .folded (written ++ rest) = some (name, rest) := by
  have hstop : ∀ c ∈ rest.head?, Letters.folded.isNamePart c = false := fun c hc => (hrest c hc).1
  refine read?_eq_some_iff.mpr ?_
  cases h with
  | lone hx =>
    refine ⟨_, rest, hx.read?_append hstop, Or.inr ⟨?_, rfl, rfl⟩⟩
    rintro dotted rfl
    exact absurd rfl (hrest '.' rfl).2
  | @qualified x y hx hy =>
    have hdot : EndsName ('.' :: (y ++ rest)) := .of_head? (by decide) rfl
    have hfirst := hx.read?_append (hdot.not_isNamePart .folded)
    refine ⟨x, '.' :: (y ++ rest), ?_, Or.inl ⟨y ++ rest, y, rfl, hy.read?_append hstop, rfl⟩⟩
    rw [List.append_assoc, List.cons_append, hfirst]

theorem ne_dot_of_isBlank {c : Char} (h : isBlank c = true) : c ≠ '.' := by
  rintro rfl
  rw [isBlank_dot] at h
  cases h

/-- White space ends a table name. -/
theorem ObjectName.Spelled.read?_append {name : ObjectName} {written rest : Text}
    (h : name.Spelled written) (hrest : ∃ c ∈ rest.head?, isBlank c = true) :
    read? .folded (written ++ rest) = some (name, rest) := by
  obtain ⟨c, hc, hblank⟩ := hrest
  refine h.read?_append_of_head? fun d hd => ?_
  obtain rfl := Option.some.inj (Option.mem_def.mp hc ▸ Option.mem_def.mp hd)
  exact ⟨Letters.folded.isNamePart_of_isBlank hblank, ne_dot_of_isBlank hblank⟩

/-- What is read as a table name is spelled like one. -/
theorem ObjectName.exists_spelled_of_read? {t rest : Text} {name : ObjectName}
    (h : read? .folded t = some (name, rest)) :
    ∃ written, t = written ++ rest ∧ name.Spelled written := by
  obtain ⟨first, behind, hfirst, ⟨dotted, second, rfl, hsecond, rfl⟩ | ⟨_, rfl, rfl⟩⟩ :=
    read?_eq_some_iff.mp h
  · refine ⟨first ++ '.' :: second, ?_,
      .qualified (isWritten_of_read? hfirst) (isWritten_of_read? hsecond)⟩
    rw [← Identifier.read?_append hfirst, ← Identifier.read?_append hsecond]
    simp
  · exact ⟨first, (Identifier.read?_append hfirst).symm, .lone (isWritten_of_read? hfirst)⟩

theorem Text.IsTight.not_isBlank_head? {x : Text} (h : Text.IsTight x) (rest : Text) :
    ∀ c ∈ (x ++ rest).head?, Character.isBlank c = false := by
  obtain ⟨⟨d, x, rfl, hd⟩, _⟩ := h
  intro c hc
  obtain rfl := Option.some.inj (Option.mem_def.mp hc)
  exact hd

namespace Typing

/-- An alias, AS and white space in front of it or not. -/
inductive IsAliasing : Text → Prop where
  | bare {x : Text} (hx : IsWritten .folded x) : IsAliasing x
  | word {word gap x : Text} (hword : word.map foldLetter = "as".toList) (hgap : isGap gap = true)
      (hx : IsWritten .folded x) : IsAliasing (word ++ (gap ++ x))

/-- White space, a table name, white space and an alias or neither, and white space. -/
inductive IsCompleteTarget : Text → Prop where
  | plain {gap written last : Text} {name : ObjectName} (hgap : isGap gap = true)
      (hname : name.Spelled written) (hlast : isGap last = true) :
      IsCompleteTarget (gap ++ (written ++ last))
  | aliased {gap written gap' aliasing last : Text} {name : ObjectName} (hgap : isGap gap = true)
      (hname : name.Spelled written) (hgap' : isGap gap' = true) (halias : IsAliasing aliasing)
      (hlast : isGap last = true) :
      IsCompleteTarget (gap ++ (written ++ (gap' ++ (aliasing ++ last))))

theorem isGap_iff {t : Text} : isGap t = true ↔ t ≠ [] ∧ ∀ c ∈ t, isBlank c = true := by
  simp [isGap, Text.isBlank]

theorem exists_blank_head?_of_isGap {gap : Text} (h : isGap gap = true) (rest : Text) :
    ∃ c ∈ (gap ++ rest).head?, isBlank c = true := by
  obtain ⟨hne, hall⟩ := isGap_iff.mp h
  obtain ⟨c, gap, rfl⟩ := List.exists_cons_of_ne_nil hne
  exact ⟨c, rfl, hall c List.mem_cons_self⟩

/-- White space is skipped up to a text that begins with another character. -/
theorem skipBlanks?_append {gap t : Text} (h : isGap gap = true)
    (ht : ∀ c ∈ t.head?, isBlank c = false) : Text.skipBlanks? (gap ++ t) = some t := by
  obtain ⟨hne, hall⟩ := isGap_iff.mp h
  exact Text.skipBlanks?_eq_some_iff.mpr ⟨gap, rfl, hne, hall, ht⟩

theorem exists_gap_of_skipBlanks? {t rest : Text} (h : Text.skipBlanks? t = some rest) :
    ∃ gap, t = gap ++ rest ∧ isGap gap = true := by
  obtain ⟨gap, rfl, hne, hall, _⟩ := Text.skipBlanks?_eq_some_iff.mp h
  exact ⟨gap, rfl, isGap_iff.mpr ⟨hne, hall⟩⟩

theorem isAliasThenGap_iff {t : Text} :
    isAliasThenGap t = true ↔ ∃ x last, t = x ++ last ∧ IsWritten .folded x ∧ isGap last = true := by
  constructor
  · intro h
    unfold isAliasThenGap at h
    split at h
    · rename_i x last hread
      exact ⟨x, last, (Identifier.read?_append hread).symm, isWritten_of_read? hread, h⟩
    · cases h
  · rintro ⟨x, last, rfl, hx, hlast⟩
    have hstop : ∀ c ∈ last.head?, Letters.folded.isNamePart c = false := by
      intro c hc
      obtain ⟨_, hall⟩ := isGap_iff.mp hlast
      exact Letters.folded.isNamePart_of_isBlank (hall c (List.mem_of_head? hc))
    rw [isAliasThenGap, hx.read?_append hstop]
    exact hlast

theorem IsAliasing.not_isBlank_head? {t : Text} (h : IsAliasing t) (rest : Text) :
    ∀ c ∈ (t ++ rest).head?, isBlank c = false := by
  cases h with
  | bare hx => exact hx.isTight.not_isBlank_head? rest
  | @word word gap x hword _ _ =>
    obtain ⟨d, word, rfl⟩ : ∃ d tail, word = d :: tail := by
      refine List.exists_cons_of_ne_nil ?_
      rintro rfl
      cases hword
    obtain ⟨hfold, _⟩ := List.cons.inj hword
    intro c hc
    obtain rfl := Option.some.inj (Option.mem_def.mp hc)
    cases hblank : isBlank d with
    | false => rfl
    | true =>
      rw [foldLetter_of_isBlank hblank] at hfold
      rw [hfold] at hblank
      exact absurd hblank (by decide)

theorem isAliasing_iff {behind : Text} :
    ((behindWord? "as".toList behind).any isAliasThenGap || isAliasThenGap behind) = true ↔
      ∃ aliasing last, behind = aliasing ++ last ∧ IsAliasing aliasing ∧ isGap last = true := by
  rw [Bool.or_eq_true, Option.any_eq_true]
  constructor
  · rintro (⟨t, hword, halias⟩ | halias)
    · obtain ⟨rest, hread, hblanks⟩ := Option.bind_eq_some_iff.mp hword
      obtain ⟨word, rfl, hfold⟩ := exists_of_readWord? hread
      obtain ⟨gap, rfl, hgap⟩ := exists_gap_of_skipBlanks? hblanks
      obtain ⟨x, last, rfl, hx, hlast⟩ := isAliasThenGap_iff.mp halias
      exact ⟨word ++ (gap ++ x), last, by simp, .word hfold hgap hx, hlast⟩
    · obtain ⟨x, last, rfl, hx, hlast⟩ := isAliasThenGap_iff.mp halias
      exact ⟨x, last, rfl, .bare hx, hlast⟩
  · rintro ⟨_, last, rfl, halias, hlast⟩
    cases halias with
    | bare hx => exact Or.inr (isAliasThenGap_iff.mpr ⟨_, last, rfl, hx, hlast⟩)
    | @word word gap x hword hgap hx =>
      refine Or.inl ⟨x ++ last, ?_, isAliasThenGap_iff.mpr ⟨x, last, rfl, hx, hlast⟩⟩
      have hread := readWord?_append word (gap ++ (x ++ last))
      rw [hword] at hread
      rw [behindWord?, List.append_assoc, List.append_assoc, hread, Option.bind_some,
        skipBlanks?_append hgap (hx.isTight.not_isBlank_head? last)]

/-- The reader of a complete target accepts what is spelled like one, and nothing else. -/
theorem isTableThenGap_iff {t : Text} : isTableThenGap t = true ↔ IsCompleteTarget t := by
  constructor
  · intro h
    obtain ⟨⟨name, rest⟩, hread, hrest⟩ := (Option.any_eq_true _ _).mp h
    obtain ⟨named, hblanks, hname⟩ := Option.bind_eq_some_iff.mp hread
    obtain ⟨gap, rfl, hgap⟩ := exists_gap_of_skipBlanks? hblanks
    obtain ⟨written, rfl, hspelled⟩ := ObjectName.exists_spelled_of_read? hname
    rcases Bool.or_eq_true_iff.mp hrest with hlast | halias
    · exact .plain hgap hspelled hlast
    · obtain ⟨behind, hblanks', hbehind⟩ := (Option.any_eq_true _ _).mp halias
      obtain ⟨gap', rfl, hgap'⟩ := exists_gap_of_skipBlanks? hblanks'
      obtain ⟨aliasing, last, rfl, haliasing, hlast⟩ := isAliasing_iff.mp hbehind
      exact .aliased hgap hspelled hgap' haliasing hlast
  · intro h
    cases h with
    | @plain gap written last name hgap hname hlast =>
      have hblanks := skipBlanks?_append hgap (hname.isTight.not_isBlank_head? last)
      have hstart : ∃ c ∈ last.head?, isBlank c = true := by
        simpa using exists_blank_head?_of_isGap hlast []
      have hread := hname.read?_append hstart
      rw [isTableThenGap, hblanks, Option.bind_some, hread, Option.any_some]
      exact Bool.or_eq_true_iff.mpr (Or.inl hlast)
    | @aliased gap written gap' aliasing last name hgap hname hgap' halias hlast =>
      have hblanks := skipBlanks?_append hgap
        (hname.isTight.not_isBlank_head? (gap' ++ (aliasing ++ last)))
      have hread := hname.read?_append (exists_blank_head?_of_isGap hgap' (aliasing ++ last))
      have hblanks' := skipBlanks?_append hgap' (halias.not_isBlank_head? last)
      have hbehind := isAliasing_iff.mpr ⟨aliasing, last, rfl, halias, hlast⟩
      rw [isTableThenGap, hblanks, Option.bind_some, hread, Option.any_some]
      refine Bool.or_eq_true_iff.mpr (Or.inr ?_)
      rw [hblanks', Option.any_some]
      exact hbehind

instance (t : Text) : Decidable (IsCompleteTarget t) := decidable_of_iff _ isTableThenGap_iff

end Typing

end SqlAssist
