import Mathlib.Data.List.Infix
import SqlAssist.Proofs.Literal.Reading

/-! # References in texts that differ in their literals

An anchor begins in code or in a name in brackets or quotes, and what is read behind it is the same in
two texts that differ in their literals. So the searches for names hit at the same places, and the
references are the same. -/
namespace SqlAssist

open Character Identifier Token

/-- A region that ends before the text does ends with a character that shows it. -/
theorem Token.exists_concat_of_region? {s t : Text} {token : Token}
    (h : region? s = some (token, t)) (hc : token.isComment = false) :
    t = [] ∨ ∃ init d, token.text = init ++ [d] ∧ d ∈ ['\'', '"', ']', ';'] := by
  have hkind := kind_ne_code_of_region? h
  have hshape := hasShape_of_region? h
  obtain ⟨kind, text⟩ := token
  cases kind with
  | code => exact absurd rfl hkind
  | quoted quote =>
    obtain ⟨tail, rfl, ⟨body, rfl, _⟩ | ⟨rfl, _⟩⟩ := hshape
    · exact Or.inr ⟨quote.char :: body, quote.char, rfl, by cases quote <;> decide⟩
    · exact Or.inl rfl
  | bracketed =>
    obtain ⟨tail, rfl, ⟨⟨body, rfl⟩, _⟩ | ⟨rfl, _⟩⟩ := hshape
    · exact Or.inr ⟨'[' :: body, ']', rfl, by decide⟩
    · exact Or.inl rfl
  | lineComment | blockComment => cases hc
  | terminator =>
    obtain rfl : text = [';'] := hshape
    exact Or.inr ⟨[], ';', rfl, by decide⟩

theorem Token.head?_of_region? {s t : Text} {token : Token} (h : region? s = some (token, t)) :
    ∃ c rest, token.text = c :: rest ∧ c ∈ openers := by
  obtain ⟨c, rest, htext⟩ := List.exists_cons_of_ne_nil (region?_text_ne_nil h)
  refine ⟨c, rest, htext, ?_⟩
  by_contra hc
  rw [← region?_append h, htext, List.cons_append, region?_cons_of_not_mem_openers hc] at h
  cases h

/-- An anchor that begins in front of a closing character and does not reach it stays where it is
when something else follows. -/
theorem readAnchor?_concat {left : Option Char} {v t named : Text} {d : Char}
    (hd : d ∈ ['\'', '"', ']', ';']) (h : readAnchor? left (v ++ d :: t) = some named) :
    ∃ named', readAnchor? left (v ++ [d]) = some named' := by
  have hclosers : ∀ d ∈ ['\'', '"', ']', ';'], d ∉ anchorLetters ∧ isBlank d = false :=
    Text.forall_of_all (by decide)
  obtain ⟨hletter, hblank⟩ := hclosers d hd
  obtain ⟨hleft, word, blanks, heq, hword, hne, hall, hnamed⟩ := readAnchor?_eq_some_iff.mp h
  obtain ⟨_, hletters⟩ := mem_anchorLetters_of_map hword
  obtain ⟨w, rfl, rfl⟩ : ∃ w, v = word ++ blanks ++ w ∧ named = w ++ d :: t := by
    rw [← List.append_assoc] at heq
    rcases List.append_eq_append_iff.mp heq with ⟨a, hfront, hrest⟩ | ⟨w, hfront, hrest⟩
    · cases a with
      | nil => exact ⟨[], by simpa using hfront.symm, by simpa using hrest.symm⟩
      | cons e a =>
        obtain ⟨rfl, _⟩ := List.cons.inj hrest
        have hmem : d ∈ word ++ blanks := by rw [hfront]; simp
        rcases List.mem_append.mp hmem with hmem | hmem
        · exact absurd (hletters d hmem) hletter
        · rw [hall d hmem] at hblank
          cases hblank
    · exact ⟨w, hfront, hrest⟩
  refine ⟨w ++ [d], readAnchor?_eq_some_iff.mpr
    ⟨hleft, word, blanks, by simp, hword, hne, hall, ?_⟩⟩
  intro c hc
  cases w with
  | nil =>
    obtain rfl : d = c := Option.some.inj hc
    exact hblank
  | cons e w => exact hnamed c hc

theorem readAnchor?_in_region {s t x v : Text} {token : Token} (h : region? s = some (token, t))
    (hc : token.isComment = false) (hanchors : anchors token.text = [])
    (htext : token.text = x ++ v) (hv : v ≠ []) (before : Option Char) :
    readAnchor? (x.getLast?.or before) (v ++ t) = none := by
  cases hread : readAnchor? (x.getLast?.or before) (v ++ t) with
  | none => rfl
  | some named =>
    obtain ⟨named', hread'⟩ : ∃ named', readAnchor? (x.getLast?.or before) v = some named' := by
      rcases exists_concat_of_region? h hc with rfl | ⟨init, d, hlast, hd⟩
      · rw [List.append_nil] at hread
        exact ⟨named, hread⟩
      · rw [htext] at hlast
        have hend : v.getLast? = some d := by
          rw [← List.getLast?_append_of_ne_nil x hv, hlast, List.getLast?_concat]
        obtain ⟨v, rfl⟩ := List.getLast?_eq_some_iff.mp hend
        rw [List.append_assoc] at hread
        exact readAnchor?_concat hd hread
    have hx : x ≠ [] := by
      rintro rfl
      obtain ⟨c, rest, hfirst, hopener⟩ := head?_of_region? h
      obtain ⟨_, word, blanks, heq, hne, hletters, _⟩ := exists_of_readAnchor? hread'
      obtain ⟨d, word, rfl⟩ := List.exists_cons_of_ne_nil hne
      rw [htext, List.nil_append, heq] at hfirst
      obtain ⟨rfl, _⟩ := List.cons.inj hfirst
      have hall : ∀ d ∈ openers, d ∉ anchorLetters := Text.forall_of_all (by decide)
      exact hall d hopener (hletters d List.mem_cons_self)
    rw [List.getLast?_eq_some_getLast hx, Option.some_or, ← List.getLast?_eq_some_getLast hx]
      at hread'
    have hmem : named' ∈ anchors token.text := mem_anchors_iff.mpr ⟨x, v, htext, hv, hread'⟩
    rw [hanchors] at hmem
    cases hmem

/-- A region that may hold an anchor is a name, which its last character closes. -/
theorem Token.IsQuiet.anchors_eq_nil_or {s t : Text} {token : Token} (hquiet : token.IsQuiet)
    (h : region? s = some (token, t)) (hc : token.isComment = false) :
    anchors token.text = [] ∨ t = [] ∨ ∃ v d, token.text = v ++ [d] ∧ IsInsideName v d := by
  have hcode := kind_ne_code_of_region? h
  have hshape := hasShape_of_region? h
  obtain ⟨hliteral, hname⟩ := hquiet
  obtain ⟨kind, text⟩ := token
  cases kind with
  | code => exact absurd rfl hcode
  | quoted quote =>
    cases quote with
    | single => exact Or.inl (hliteral rfl)
    | double =>
      rcases hname rfl with hanchors | hopen
      · exact Or.inl hanchors
      · obtain ⟨tail, rfl, ⟨body, rfl, _⟩ | ⟨rfl, _⟩⟩ := hshape
        · refine Or.inr (Or.inr ⟨'"' :: body, '"', rfl, Or.inr ⟨rfl, fun hmem => hopen ?_⟩⟩)
          exact List.mem_append_left ['"'] hmem
        · exact Or.inr (Or.inl rfl)
  | bracketed =>
    obtain ⟨tail, rfl, ⟨⟨body, rfl⟩, hfirst⟩ | ⟨rfl, _⟩⟩ := hshape
    · refine Or.inr (Or.inr ⟨'[' :: body, ']', rfl, Or.inl ⟨rfl, ?_⟩⟩)
      rw [List.dropLast_concat, List.singleton_infix_iff] at hfirst
      exact List.not_mem_cons_of_ne_of_not_mem (by decide) hfirst
    · exact Or.inr (Or.inl rfl)
  | lineComment | blockComment => cases hc
  | terminator =>
    obtain rfl : text = [';'] := hshape
    exact Or.inl (by decide)

section

variable {α : Type} {read : Text → Option (α × Text)} {s s' t t' : Text}

theorem isClear_of_region? {token : Token} (h : region? s = some (token, t))
    (hc : token.isComment = false) (hanchors : anchors token.text = []) (before : Option Char) :
    (anchored read).IsClear before token.text.length (token.text ++ t) := by
  intro x y heq hx
  have hv : ∃ v, token.text = x ++ v ∧ y = v ++ t ∧ v ≠ [] := by
    rcases List.append_eq_append_iff.mp heq with ⟨a, rfl, _⟩ | ⟨v, htext, rfl⟩
    · rw [List.length_append] at hx
      omega
    · refine ⟨v, htext, rfl, ?_⟩
      rintro rfl
      rw [htext, List.append_nil] at hx
      omega
  obtain ⟨v, htext, rfl, hne⟩ := hv
  rw [anchored, readAnchor?_in_region h hc hanchors htext hne before]
  rfl

theorem SameAhead.rel_readAnchor? (left : Option Char) (h : SameAhead t t') :
    Option.Rel SameAhead (readAnchor? left t) (readAnchor? left t') := by
  rw [readAnchor?, readAnchor?]
  split
  · have hfrom : Option.Rel SameAhead (readWord? "from".toList t) (readWord? "from".toList t') :=
      inStep.rel_readWord? (Text.forall_of_all (by decide)) h
    have hjoin : Option.Rel SameAhead (readWord? "join".toList t) (readWord? "join".toList t') :=
      inStep.rel_readWord? (Text.forall_of_all (by decide)) h
    exact rel_bind (rel_or hfrom hjoin) fun _ _ hbehind => inStep.rel_skipBlanks? hbehind
  · exact .none

/-- The reader reads the same off texts that begin in the same way. -/
def ReadsAhead (read : Text → Option (α × Text)) : Prop :=
  ∀ t t', SameAhead t t' → Option.Rel (SameRead SameAhead) (read t) (read t')

/-- Hits of the same name at the same place. -/
structure SameHit (hit hit' : Hit (α × Text)) : Prop where
  name : hit.value.1 = hit'.value.1
  named : SameAhead hit.value.2 hit'.value.2
  rest : SameAhead hit.rest hit'.rest

theorem SameAhead.rel_anchored (hread : ReadsAhead read) (left : Option Char)
    (h : SameAhead t t') :
    Option.Rel (fun found found' => SameHit ⟨t, found.1, found.2⟩ ⟨t', found'.1, found'.2⟩)
      (anchored read left t) (anchored read left t') := by
  refine rel_bind (h.rel_readAnchor? left) fun named named' hnamed => ?_
  refine rel_bind (hread named named' hnamed) fun found found' hfound => ?_
  exact .some ⟨hfound.1, hnamed, hfound.2⟩

def SameHits (read : Text → Option (α × Text)) (t t' : Text) : Prop :=
  ∀ before skip, List.Forall₂ SameHit ((anchored read).hitsFrom before skip t)
    ((anchored read).hitsFrom before skip t')

theorem SameHits.same (t : Text) : SameHits read t t :=
  fun _ _ => List.forall₂_same.mpr fun _ _ => ⟨rfl, .same _, .same _⟩

theorem SameHits.cons (hread : ReadsAhead read) {c : Char} (h : SameAhead (c :: t) (c :: t'))
    (htail : SameHits read t t') : SameHits read (c :: t) (c :: t') := by
  intro before skip
  cases skip with
  | succ skip => exact htail (some c) skip
  | zero =>
    rcases rel_cases (h.rel_anchored hread before) with
      ⟨hnone, hnone'⟩ | ⟨found, found', hsome, hsome', hsame⟩
    · rw [Pattern.hitsFrom_of_none hnone, Pattern.hitsFrom_of_none hnone']
      exact htail (some c) 0
    · have hlength : t.length = t'.length := Nat.succ.inj h.length_eq
      rw [Pattern.hitsFrom_of_some hsome, Pattern.hitsFrom_of_some hsome', hlength,
        hsame.rest.length_eq]
      exact .cons hsame (htail (some c) _)

/-- Inside a name, too, the hits are the same. -/
theorem SameHits.inside (hread : ReadsAhead read) {v : Text} {d : Char} (hv : IsInsideName v d)
    (h : SameOutside t t') (htail : SameHits read t t') :
    SameHits read (v ++ d :: t) (v ++ d :: t') := by
  induction v with
  | nil => exact htail.cons hread (.inside hv h)
  | cons c v ih =>
    have hrest : IsInsideName v d := hv.of_append (x := [c])
    exact (ih hrest).cons hread (.inside hv h)

theorem getLast?_of_literal {token : Token} (h : region? s = some (token, t))
    (hkind : token.kind = .quoted .single) : t = [] ∨ token.text.getLast? = some '\'' := by
  have hshape := hasShape_of_region? h
  rw [hkind] at hshape
  obtain ⟨tail, htext, ⟨body, rfl, _⟩ | ⟨rfl, _⟩⟩ := hshape
  · refine Or.inr ?_
    rw [htext, ← List.cons_append, List.getLast?_concat]
    rfl
  · exact Or.inl rfl

/-- A masked text does not begin with a comment: where one was, there is a space. -/
theorem isComment_of_mask_eq {token : Token} (h : region? s = some (token, t))
    (hmask : mask s = s) : token.isComment = false := by
  cases hc : token.isComment with
  | false => rfl
  | true =>
    obtain ⟨c, rest, htext, hopener⟩ := head?_of_region? h
    have hhead := token.head?_masked_of_isComment hc (hasShape_of_region? h)
    have hspace : (mask s).head? = some ' ' := by
      rw [mask_of_region h, List.head?_append, hhead, Option.some_or]
    rw [hmask, ← region?_append h, htext] at hspace
    obtain rfl : c = ' ' := Option.some.inj hspace
    exact absurd hopener (by decide)

theorem mask_eq_of_region {token : Token} (h : region? s = some (token, t))
    (hc : token.isComment = false) (hmask : mask s = s) : mask t = t := by
  rw [mask_of_region h, token.masked_of_not_isComment hc, ← region?_append h] at hmask
  exact List.append_cancel_left hmask

/-- In masked texts that differ in their literals, the same names are found at the same places. -/
theorem SameOutside.sameHits (hread : ReadsAhead read) (h : SameOutside s s')
    (hmask : mask s = s) : SameHits read s s' := by
  induction h with
  | nil => exact .same []
  | code hcode hcode' tail ih =>
    rw [mask_cons_of_code hcode] at hmask
    exact (ih (List.cons.inj hmask).2).cons hread (.outside (.code hcode hcode' tail))
  | @region s s' t t' token hregion hregion' hquiet tail ih =>
    have hc := isComment_of_mask_eq hregion hmask
    have hrest := ih (mask_eq_of_region hregion hc hmask)
    rcases hquiet.anchors_eq_nil_or hregion hc with hanchors | rfl | ⟨v, d, htext, hv⟩
    · intro before skip
      rw [← region?_append hregion, ← region?_append hregion',
        (isClear_of_region? hregion hc hanchors before).hitsFrom_append,
        (isClear_of_region? hregion' hc hanchors before).hitsFrom_append]
      exact hrest _ _
    · obtain rfl : t' = [] := List.length_eq_zero_iff.mp tail.length_eq.symm
      rw [← region?_append hregion, ← region?_append hregion']
      exact .same _
    · rw [← region?_append hregion, ← region?_append hregion', htext, List.append_assoc,
        List.append_assoc]
      exact hrest.inside hread hv tail
  | @literal s s' t t' token token' hregion hregion' hkind hkind' hquiet hquiet' hsteps tail ih =>
    have hc := isComment_of_literal hkind
    have hc' := isComment_of_literal hkind'
    have hrest := ih (mask_eq_of_region hregion hc hmask)
    intro before skip
    rw [← region?_append hregion, ← region?_append hregion',
      (isClear_of_region? hregion hc (hquiet.1 hkind) before).hitsFrom_append,
      (isClear_of_region? hregion' hc' (hquiet'.1 hkind') before).hitsFrom_append, hsteps.length_eq]
    have hends := tail.length_eq
    rcases getLast?_of_literal hregion hkind with rfl | hlast
    · obtain rfl : t' = [] := List.length_eq_zero_iff.mp hends.symm
      rw [Pattern.hitsFrom_nil, Pattern.hitsFrom_nil]
      exact .nil
    · rcases getLast?_of_literal hregion' hkind' with rfl | hlast'
      · obtain rfl : t = [] := List.length_eq_zero_iff.mp hends
        rw [Pattern.hitsFrom_nil, Pattern.hitsFrom_nil]
        exact .nil
      · rw [hlast, hlast']
        exact hrest _ _

end

namespace SameAhead

variable {t t' : Text}

theorem readsAhead_readQualified? {readFirst : Text → Option (Text × Text)}
    (hfirst : ReadsAhead readFirst) : ReadsAhead (NameForm.readQualified? readFirst) := by
  intro t t' h
  refine rel_bind (hfirst t t' h) fun found found' hfound => ?_
  refine rel_bind (inStep.rel_skipChar? (by decide) hfound.2) fun rest rest' hrest => ?_
  refine rel_bind (inStep.rel_read? _ hrest) fun second second' hsecond => ?_
  refine .some ⟨?_, hsecond.2⟩
  simp only [hfound.1, hsecond.1]

theorem readsAhead_readLone? {readFirst : Text → Option (Text × Text)}
    (hfirst : ReadsAhead readFirst) : ReadsAhead (NameForm.readLone? readFirst) := by
  intro t t' h
  refine rel_bind (hfirst t t' h) fun found found' hfound => ?_
  refine .some ⟨?_, hfound.2⟩
  simp only [hfound.1]

theorem readsAhead_read? (form : NameForm) : ReadsAhead form.read? := by
  have hbracketed : ReadsAhead readBracketed? := fun _ _ h => inStep.rel_readBracketed? h
  have hplain : ReadsAhead (readPlain? .folded) := fun _ _ h => inStep.rel_readPlain? .folded h
  cases form with
  | bracketedQualified => exact readsAhead_readQualified? hbracketed
  | plainQualified => exact readsAhead_readQualified? hplain
  | bracketed => exact readsAhead_readLone? hbracketed
  | plain => exact readsAhead_readLone? hplain

theorem isCall_eq (h : SameAhead t t') : isCall t = isCall t' := by
  rw [isCall, isCall, (inStep.trimStart h).head?_eq]

theorem ofHit?_eq {s s' : Text} {hit hit' : Hit (ObjectName × Text)}
    (hsize : Text.size s = Text.size s') (h : SameHit hit hit') (form : NameForm) :
    Candidate.ofHit? form s hit = Candidate.ofHit? form s' hit' := by
  obtain ⟨here, ⟨name, named⟩, rest⟩ := hit
  obtain ⟨here', ⟨name', named'⟩, rest'⟩ := hit'
  obtain rfl : name = name' := h.name
  have hnamed : SameAhead named named' := h.named
  have hrest : SameAhead rest rest' := h.rest
  simp only [Candidate.ofHit?, hrest.head?_eq, hrest.isCall_eq, hsize, hnamed.size_eq,
    hrest.size_eq]

end SameAhead

/-- Masked texts that differ in their literals have the same references. -/
theorem SameOutside.references_eq {s s' : Text} (h : SameOutside s s') (hmask : mask s = s) :
    references s = references s' := by
  have hform (form : NameForm) : Candidate.ofForm s form = Candidate.ofForm s' form := by
    have hhits := h.sameHits (SameAhead.readsAhead_read? form) hmask none 0
    have hcandidates : List.Forall₂ Eq (Candidate.ofForm s form) (Candidate.ofForm s' form) := by
      refine List.rel_filterMap (fun hit hit' hsame => ?_) hhits
      rw [SameAhead.ofHit?_eq h.size_eq hsame form]
      cases Candidate.ofHit? form s' hit' with
      | none => exact .none
      | some candidate => exact .some rfl
    rwa [List.forall₂_eq_eq_eq] at hcandidates
  rw [references, references, Candidate.collect, Candidate.collect, funext hform]

end SqlAssist
