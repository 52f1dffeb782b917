import SqlAssist.Proofs.Identifier.Qualified
import SqlAssist.Proofs.Position
import SqlAssist.Proofs.Reference.Anchor

/-! # Texts that differ in their literals

Two texts that are scanned into the same regions and differ at most inside their literals. A reader
that begins at the same place of both reads the same and ends at the same place, as long as it does
not go into a literal: it sees the opening quote in both. Masking the texts and cutting them into
segments gives such texts again. -/
namespace SqlAssist

open Character Token Statement

/-- No search for a name goes from the region into what follows: a literal holds no anchor, and a
quoted name holds none or no opening bracket. -/
def Token.IsQuiet (token : Token) : Prop :=
  (token.kind = .quoted .single → anchors token.text = []) ∧
    (token.kind = .quoted .double → anchors token.text = [] ∨ '[' ∉ token.text)

instance (token : Token) : Decidable token.IsQuiet :=
  inferInstanceAs (Decidable (_ ∧ _))

theorem Token.isComment_of_literal {token : Token} (h : token.kind = .quoted .single) :
    token.isComment = false := by
  rw [isComment, h]
  rfl

theorem Token.isTerminator_of_literal {token : Token} (h : token.kind = .quoted .single) :
    token.isTerminator = false := by
  rw [isTerminator, h]
  rfl

/-- The texts are scanned in the same way and are equal outside their literals, which have as many
characters in both. The regions are quiet. -/
inductive SameOutside : Text → Text → Prop where
  | nil : SameOutside [] []
  | code {c : Char} {t t' : Text} (h : region? (c :: t) = none) (h' : region? (c :: t') = none)
    (tail : SameOutside t t') : SameOutside (c :: t) (c :: t')
  | region {s s' t t' : Text} {token : Token} (h : region? s = some (token, t))
    (h' : region? s' = some (token, t')) (hquiet : token.IsQuiet) (tail : SameOutside t t') :
    SameOutside s s'
  | literal {s s' t t' : Text} {token token' : Token} (h : region? s = some (token, t))
    (h' : region? s' = some (token', t')) (hkind : token.kind = .quoted .single)
    (hkind' : token'.kind = .quoted .single) (hquiet : token.IsQuiet) (hquiet' : token'.IsQuiet)
    (hsteps : List.Forall₂ SameStep token.text token'.text) (tail : SameOutside t t') :
    SameOutside s s'

namespace SameOutside

variable {s s' t t' : Text}

theorem symm (h : SameOutside s s') : SameOutside s' s := by
  induction h with
  | nil => exact .nil
  | code h h' _ ih => exact .code h' h ih
  | region h h' hquiet _ ih => exact .region h' h hquiet ih
  | literal h h' hkind hkind' hquiet hquiet' hsteps _ ih =>
    refine .literal h' h hkind' hkind hquiet' hquiet (List.Forall₂.flip ?_) ih
    exact hsteps.imp fun c d hstep => ⟨hstep.1.symm, hstep.2.symm⟩

theorem steps (h : SameOutside s s') : List.Forall₂ SameStep s s' := by
  induction h with
  | nil => exact .nil
  | @code c _ _ _ _ _ ih => exact .cons (.refl c) ih
  | region h h' _ _ ih =>
    rw [← region?_append h, ← region?_append h']
    exact List.rel_append (List.forall₂_same.mpr fun c _ => .refl c) ih
  | literal h h' _ _ _ _ hsteps _ ih =>
    rw [← region?_append h, ← region?_append h']
    exact List.rel_append hsteps ih

theorem length_eq (h : SameOutside s s') : s.length = s'.length := h.steps.length_eq

theorem size_eq (h : SameOutside s s') : Text.size s = Text.size s' := by
  have hall : ∀ {s s' : Text}, List.Forall₂ SameStep s s' → Text.size s = Text.size s' := by
    intro s s' hsteps
    induction hsteps with
    | nil => rfl
    | cons hstep _ ih => rw [Text.size_cons, Text.size_cons, hstep.1, ih]
  exact hall h.steps

theorem code_inv {c : Char} (h : SameOutside (c :: t) s') (hcode : region? (c :: t) = none) :
    ∃ t', s' = c :: t' ∧ region? (c :: t') = none ∧ SameOutside t t' := by
  cases h with
  | code _ h' tail => exact ⟨_, rfl, h', tail⟩
  | region h => rw [hcode] at h; cases h
  | literal h => rw [hcode] at h; cases h

theorem region_inv {token : Token} (h : SameOutside s s') (hregion : region? s = some (token, t))
    (hkind : token.kind ≠ .quoted .single) :
    ∃ t', region? s' = some (token, t') ∧ SameOutside t t' := by
  cases h with
  | nil => cases hregion
  | code h => rw [hregion] at h; cases h
  | region h h' _ tail =>
    obtain ⟨rfl, rfl⟩ := Prod.mk.inj (Option.some.inj (hregion.symm.trans h))
    exact ⟨_, h', tail⟩
  | literal h _ hliteral =>
    obtain ⟨rfl, _⟩ := Prod.mk.inj (Option.some.inj (hregion.symm.trans h))
    exact absurd hliteral hkind

/-- The texts begin with the same character: a literal begins with its quote. -/
theorem head?_eq (h : SameOutside s s') : s.head? = s'.head? := by
  cases h with
  | nil => rfl
  | code => rfl
  | region h h' =>
    have hne := region?_text_ne_nil h
    rw [← region?_append h, ← region?_append h', List.head?_append_of_ne_nil _ hne,
      List.head?_append_of_ne_nil _ hne]
  | literal h h' hkind hkind' =>
    have hquote {s t : Text} {token : Token} (h : region? s = some (token, t))
        (hkind : token.kind = .quoted .single) : s.head? = some '\'' := by
      have hshape := hasShape_of_region? h
      rw [hkind] at hshape
      obtain ⟨tail, htext, _⟩ := hshape
      rw [← region?_append h, htext]
      rfl
    rw [hquote h hkind, hquote h' hkind']

/-- A front part that opens no region is the same in both texts. -/
theorem append_inv {x : Text} (h : SameOutside (x ++ t) s') (hx : ∀ c ∈ x, c ∉ openers) :
    ∃ t', s' = x ++ t' ∧ SameOutside t t' := by
  induction x generalizing s' with
  | nil => exact ⟨s', rfl, h⟩
  | cons c x ih =>
    have hcode := region?_cons_of_not_mem_openers (hx c List.mem_cons_self) (x ++ t)
    obtain ⟨u, rfl, _, hu⟩ := h.code_inv hcode
    obtain ⟨t', rfl, ht⟩ := ih hu fun d hd => hx d (List.mem_cons_of_mem c hd)
    exact ⟨t', rfl, ht⟩

/-- A name in brackets is the same in both texts. -/
theorem brackets_inv {body : Text} (hbody : ']' ∉ body)
    (h : SameOutside ('[' :: body ++ [']'] ++ t) s') :
    ∃ t', s' = '[' :: body ++ [']'] ++ t' ∧ SameOutside t t' := by
  obtain ⟨t', hregion, ht⟩ := h.region_inv (region?_brackets hbody t) (by simp)
  exact ⟨t', (region?_append hregion).symm, ht⟩

theorem cons_of_not_mem_openers {c : Char} (hc : c ∉ openers) (h : SameOutside t t') :
    SameOutside (c :: t) (c :: t') :=
  .code (region?_cons_of_not_mem_openers hc t) (region?_cons_of_not_mem_openers hc t') h

theorem append_of_isBlank {b : Text} (hb : Text.isBlank b = true) (h : SameOutside t t') :
    SameOutside (b ++ t) (b ++ t') := by
  induction b with
  | nil => exact h
  | cons c b ih =>
    obtain ⟨hc, hb⟩ := Bool.and_eq_true_iff.mp (show (isBlank c && Text.isBlank b) = true from hb)
    exact .code (region?_cons_of_isBlank hc _) (region?_cons_of_isBlank hc _) (ih hb)

protected theorem mask (h : SameOutside s s') : SameOutside (mask s) (mask s') := by
  induction h with
  | nil =>
    rw [mask_nil]
    exact .nil
  | code h h' _ ih =>
    rw [mask_cons_of_code h, mask_cons_of_code h']
    exact .code (region?_cons_mask h) (region?_cons_mask h') ih
  | @region _ _ _ _ token h h' hquiet _ ih =>
    cases hc : token.isComment with
    | true =>
      rw [mask_of_region h, mask_of_region h']
      exact ih.append_of_isBlank (token.isBlank_masked hc)
    | false => exact .region (region?_mask h hc) (region?_mask h' hc) hquiet ih
  | literal h h' hkind hkind' hquiet hquiet' hsteps _ ih =>
    exact .literal (region?_mask h (isComment_of_literal hkind))
      (region?_mask h' (isComment_of_literal hkind')) hkind hkind' hquiet hquiet' hsteps ih

theorem forall₂_texts (h : SameOutside s s') :
    List.Forall₂ SameOutside (texts s) (texts s') := by
  induction h with
  | nil =>
    rw [texts_nil]
    exact .cons .nil .nil
  | @code c t t' h h' _ ih =>
    obtain ⟨first, others, ht⟩ := exists_texts_cons t
    obtain ⟨first', others', ht'⟩ := exists_texts_cons t'
    rw [ht, ht', List.forall₂_cons] at ih
    rw [texts_of_code h, texts_of_code h', ht, ht', List.modifyHead_cons, List.modifyHead_cons]
    exact .cons (.code (region?_cons_first h ht) (region?_cons_first h' ht') ih.1) ih.2
  | @region _ _ t t' token h h' hquiet _ ih =>
    cases hterminator : token.isTerminator with
    | true =>
      rw [texts_of_terminator h hterminator, texts_of_terminator h' hterminator]
      exact .cons .nil ih
    | false =>
      obtain ⟨first, others, ht⟩ := exists_texts_cons t
      obtain ⟨first', others', ht'⟩ := exists_texts_cons t'
      rw [ht, ht', List.forall₂_cons] at ih
      rw [texts_of_other h hterminator, texts_of_other h' hterminator, ht, ht',
        List.modifyHead_cons, List.modifyHead_cons]
      exact .cons (.region (region?_append_first h ht) (region?_append_first h' ht') hquiet ih.1)
        ih.2
  | @literal _ _ t t' token token' h h' hkind hkind' hquiet hquiet' hsteps _ ih =>
    obtain ⟨first, others, ht⟩ := exists_texts_cons t
    obtain ⟨first', others', ht'⟩ := exists_texts_cons t'
    rw [ht, ht', List.forall₂_cons] at ih
    rw [texts_of_other h (isTerminator_of_literal hkind),
      texts_of_other h' (isTerminator_of_literal hkind'), ht, ht', List.modifyHead_cons,
      List.modifyHead_cons]
    exact .cons (.literal (region?_append_first h ht) (region?_append_first h' ht') hkind hkind'
      hquiet hquiet' hsteps ih.1) ih.2

theorem append_of_hasShape_code {x : Text} (hx : HasShape .code x t) (hx' : HasShape .code x t')
    (h : SameOutside t t') : SameOutside (x ++ t) (x ++ t') := by
  induction x with
  | nil => exact h
  | cons c x ih =>
    obtain ⟨hopen, hrest⟩ := hasShape_code_cons.mp hx
    obtain ⟨hopen', hrest'⟩ := hasShape_code_cons.mp hx'
    exact .code (region?_eq_none_iff.mpr hopen) (region?_eq_none_iff.mpr hopen') (ih hrest hrest')

structure SameToken (token token' : Token) : Prop where
  kind : token.kind = token'.kind
  text : token.kind ≠ .quoted .single → token.text = token'.text
  steps : token.kind = .quoted .single → List.Forall₂ SameStep token.text token'.text
  quiet : token.IsQuiet
  quiet' : token'.IsQuiet

theorem textOf_of_forall₂ {ts ts' : List Token} (h : List.Forall₂ SameToken ts ts')
    (hshaped : Shaped [] ts) (hshaped' : Shaped [] ts') :
    SameOutside (textOf ts) (textOf ts') := by
  induction h with
  | nil => exact .nil
  | @cons token token' ts ts' hsame _ ih =>
    obtain ⟨_, hshape, _, hrest⟩ := hshaped
    obtain ⟨_, hshape', _, hrest'⟩ := hshaped'
    rw [List.append_nil] at hshape hshape'
    have htail := ih hrest hrest'
    rw [textOf_cons, textOf_cons]
    by_cases hcode : token.kind = .code
    · have htext := hsame.text (by rw [hcode]; simp)
      rw [hcode] at hshape
      rw [← hsame.kind, hcode, ← htext] at hshape'
      rw [← htext]
      exact htail.append_of_hasShape_code hshape hshape'
    · have hregion := region?_eq_some_iff.mpr ⟨hcode, rfl, hshape⟩
      have hregion' := region?_eq_some_iff.mpr ⟨hsame.kind ▸ hcode, rfl, hshape'⟩
      by_cases hliteral : token.kind = .quoted .single
      · exact .literal hregion hregion' hliteral (hsame.kind ▸ hliteral) hsame.quiet hsame.quiet'
          (hsame.steps hliteral) htail
      · obtain ⟨kind, text⟩ := token
        obtain ⟨kind', text'⟩ := token'
        obtain rfl : kind = kind' := hsame.kind
        obtain rfl : text = text' := hsame.text hliteral
        exact .region hregion hregion' hsame.quiet htail

end SameOutside

end SqlAssist
