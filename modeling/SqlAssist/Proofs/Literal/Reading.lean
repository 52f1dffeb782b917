import SqlAssist.Proofs.Literal.Outside

/-! # Reading texts that differ in their literals

Words, white space and names are read in the same way off two texts that go in step: off texts that
differ in their literals, since no reader takes a quote for one of its characters, and off texts that
begin inside the same brackets or the same quoted name, since no reader leaves them but at a closing
bracket. By symmetry it is enough to follow what is read off one of the texts. -/
namespace SqlAssist

open Character Identifier Token

section

variable {α β : Type} {R : α → α → Prop} {S : β → β → Prop} {a a' : Option α}

theorem rel_cases (h : Option.Rel R a a') :
    (a = none ∧ a' = none) ∨ ∃ b b', a = some b ∧ a' = some b' ∧ R b b' := by
  cases h with
  | none => exact Or.inl ⟨rfl, rfl⟩
  | some hb => exact Or.inr ⟨_, _, rfl, rfl, hb⟩

theorem rel_bind (h : Option.Rel R a a') {f f' : α → Option β}
    (hf : ∀ b b', R b b' → Option.Rel S (f b) (f' b')) : Option.Rel S (a.bind f) (a'.bind f') := by
  cases h with
  | none => exact .none
  | some hb => exact hf _ _ hb

theorem rel_or {b b' : Option α} (ha : Option.Rel R a a') (hb : Option.Rel R b b') :
    Option.Rel R (a.or b) (a'.or b') := by
  cases ha with
  | none => exact hb
  | some ha => exact .some ha

end

/-- The characters that can open a region or close a name. -/
def edges : List Char := ']' :: openers

theorem not_mem_openers_of_not_mem_edges {c : Char} (h : c ∉ edges) : c ∉ openers :=
  fun hmem => h (List.mem_cons_of_mem _ hmem)

theorem not_mem_edges_of_isBlank {c : Char} (h : isBlank c = true) : c ∉ edges := by
  have hall : ∀ d ∈ edges, isBlank d = false := Text.forall_of_all (by decide)
  intro hmem
  rw [hall c hmem] at h
  cases h

theorem Letters.not_mem_edges_of_isNamePart {letters : Letters} {c : Char}
    (h : letters.isNamePart c = true) : c ∉ edges := by
  have hall : ∀ d ∈ edges, letters.isNamePart d = false := by
    cases letters <;> exact Text.forall_of_all (by decide +kernel)
  intro hmem
  rw [hall c hmem] at h
  cases h

theorem not_mem_edges_of_foldLetter {c : Char} (h : foldLetter c ∉ edges) : c ∉ edges := by
  have hall : ∀ d ∈ edges, foldLetter d = d := Text.forall_of_all (by decide)
  intro hmem
  rw [hall c hmem] at h
  exact h hmem

/-- The same was read, and what is left is related. -/
def SameRead {α : Type} (R : Text → Text → Prop) (found found' : α × Text) : Prop :=
  found.1 = found'.1 ∧ R found.2 found'.2

/-- Related texts begin in the same way, and what is read off them is followed by related texts. -/
structure InStep (R : Text → Text → Prop) : Prop where
  symm : ∀ {t t' : Text}, R t t' → R t' t
  length_eq : ∀ {t t' : Text}, R t t' → t.length = t'.length
  head?_eq : ∀ {t t' : Text}, R t t' → t.head? = t'.head?
  append_inv : ∀ {x t s' : Text}, R (x ++ t) s' → (∀ c ∈ x, c ∉ edges) →
    ∃ t', s' = x ++ t' ∧ R t t'
  brackets_inv : ∀ {body t s' : Text}, R ('[' :: body ++ [']'] ++ t) s' → ']' ∉ body →
    ∃ t', s' = '[' :: body ++ [']'] ++ t' ∧ R t t'

namespace InStep

variable {R : Text → Text → Prop} (hR : InStep R) {t t' : Text}

include hR

theorem cons_inv {c : Char} {s' : Text} (h : R (c :: t) s') (hc : c ∉ edges) :
    ∃ t', s' = c :: t' ∧ R t t' :=
  hR.append_inv (x := [c]) h (by simpa using hc)

theorem rel_of_follows {α : Type} {S : α → α → Prop} {read : Text → Option α}
    (hread : ∀ {t t' : Text} {b : α}, R t t' → read t = some b →
      ∃ b', read t' = some b' ∧ S b b') (h : R t t') : Option.Rel S (read t) (read t') := by
  cases hfound : read t with
  | some b =>
    obtain ⟨b', hfound', hb⟩ := hread h hfound
    rw [hfound']
    exact .some hb
  | none =>
    cases hfound' : read t' with
    | none => exact .none
    | some b' =>
      obtain ⟨b, hfound'', _⟩ := hread (hR.symm h) hfound'
      rw [hfound] at hfound''
      cases hfound''

theorem trimStart (h : R t t') : R (Text.trimStart t) (Text.trimStart t') := by
  induction t generalizing t' with
  | nil =>
    obtain rfl : t' = [] := List.length_eq_zero_iff.mp (hR.length_eq h).symm
    exact h
  | cons c t ih =>
    cases hc : isBlank c with
    | true =>
      obtain ⟨u, rfl, hu⟩ := hR.cons_inv h (not_mem_edges_of_isBlank hc)
      rw [Text.trimStart, Text.trimStart, List.dropWhile_cons_of_pos hc,
        List.dropWhile_cons_of_pos hc]
      exact ih hu
    | false =>
      obtain ⟨u, rfl⟩ := List.head?_eq_some_iff.mp (hR.head?_eq h).symm
      rwa [Text.trimStart, Text.trimStart, List.dropWhile_cons_of_neg (by simp [hc]),
        List.dropWhile_cons_of_neg (by simp [hc])]

theorem rel_skipBlanks? (h : R t t') :
    Option.Rel R (Text.skipBlanks? t) (Text.skipBlanks? t') := by
  refine hR.rel_of_follows ?_ h
  intro t t' rest h hread
  cases t with
  | nil => cases hread
  | cons c t =>
    rw [Text.skipBlanks?] at hread
    split at hread
    · rename_i hc
      obtain rfl := Option.some.inj hread
      obtain ⟨u, rfl, hu⟩ := hR.cons_inv h (not_mem_edges_of_isBlank hc)
      exact ⟨_, by rw [Text.skipBlanks?, if_pos hc], hR.trimStart hu⟩
    · cases hread

theorem rel_skipChar? {x : Char} (hx : x ∉ edges) (h : R t t') :
    Option.Rel R (Text.skipChar? x t) (Text.skipChar? x t') := by
  refine hR.rel_of_follows ?_ h
  intro t t' rest h hread
  obtain rfl := Text.skipChar?_eq_some_iff.mp hread
  obtain ⟨u, rfl, hu⟩ := hR.cons_inv h hx
  exact ⟨u, Text.skipChar?_eq_some_iff.mpr rfl, hu⟩

theorem rel_readWord? {word : Text} (hword : ∀ c ∈ word, c ∉ edges) (h : R t t') :
    Option.Rel R (readWord? word t) (readWord? word t') := by
  refine hR.rel_of_follows ?_ h
  intro t t' rest h hread
  obtain ⟨x, rfl, rfl⟩ := exists_of_readWord? hread
  have hx : ∀ c ∈ x, c ∉ edges := fun c hc =>
    not_mem_edges_of_foldLetter (hword _ (List.mem_map_of_mem hc))
  obtain ⟨u, rfl, hu⟩ := hR.append_inv h hx
  exact ⟨u, readWord?_append x u, hu⟩

theorem rel_readBracketed? (h : R t t') :
    Option.Rel (SameRead R) (readBracketed? t) (readBracketed? t') := by
  refine hR.rel_of_follows ?_ h
  intro t t' found h hread
  obtain ⟨name, rest⟩ := found
  obtain ⟨body, rfl, hne, hbody⟩ := isBracketed_of_readBracketed? hread
  obtain rfl := readBracketed?_append hread
  obtain ⟨u, rfl, hu⟩ := hR.brackets_inv h hbody
  exact ⟨_, readBracketed?_brackets hne hbody u, rfl, hu⟩

theorem rel_readPlain? (letters : Letters) (h : R t t') :
    Option.Rel (SameRead R) (readPlain? letters t) (readPlain? letters t') := by
  refine hR.rel_of_follows ?_ h
  intro t t' found h hread
  obtain ⟨name, rest⟩ := found
  have hplain := isPlain_of_readPlain? hread
  have hends : ∀ c ∈ rest.head?, letters.isNamePart c = false := by
    obtain ⟨_, _, hbracket | hends⟩ := Identifier.exists_of_read? (read?_of_readPlain? hread)
    · exact absurd (List.mem_of_getLast? hbracket) (not_mem_of_isPlain hplain)
    · exact hends
  obtain rfl := readPlain?_append hread
  obtain ⟨u, rfl, hu⟩ := hR.append_inv h fun c hc =>
    Letters.not_mem_edges_of_isNamePart (isNamePart_of_mem_isPlain hplain hc)
  rw [hR.head?_eq hu] at hends
  exact ⟨_, readPlain?_append_of_isPlain hplain hends, rfl, hu⟩

theorem rel_read? (letters : Letters) (h : R t t') :
    Option.Rel (SameRead R) (Identifier.read? letters t) (Identifier.read? letters t') :=
  rel_or (hR.rel_readBracketed? h) (hR.rel_readPlain? letters h)

end InStep

theorem SameOutside.inStep : InStep SameOutside where
  symm := symm
  length_eq := length_eq
  head?_eq := head?_eq
  append_inv h hx := h.append_inv fun c hc => not_mem_openers_of_not_mem_edges (hx c hc)
  brackets_inv h hbody := brackets_inv hbody h

/-- The text lies inside a name that `d` closes: in brackets it holds no closing one, in quotes no
opening one. -/
def IsInsideName (v : Text) (d : Char) : Prop :=
  (d = ']' ∧ ']' ∉ v) ∨ (d = '"' ∧ '[' ∉ v)

/-- The texts differ at most in their literals, or they begin inside the same region and do so
behind it. -/
inductive SameAhead : Text → Text → Prop where
  | same (t : Text) : SameAhead t t
  | outside {t t' : Text} (h : SameOutside t t') : SameAhead t t'
  | inside {v : Text} {d : Char} {t t' : Text} (hv : IsInsideName v d) (tail : SameOutside t t') :
    SameAhead (v ++ d :: t) (v ++ d :: t')

theorem IsInsideName.mem_edges {v : Text} {d : Char} (h : IsInsideName v d) : d ∈ edges := by
  rcases h with ⟨rfl, _⟩ | ⟨rfl, _⟩
  · decide
  · decide

theorem IsInsideName.of_append {x v : Text} {d : Char} (h : IsInsideName (x ++ v) d) :
    IsInsideName v d := by
  rcases h with ⟨rfl, hv⟩ | ⟨rfl, hv⟩
  · exact Or.inl ⟨rfl, fun hmem => hv (List.mem_append_right x hmem)⟩
  · exact Or.inr ⟨rfl, fun hmem => hv (List.mem_append_right x hmem)⟩

namespace SameAhead

variable {s s' t t' : Text}

theorem symm (h : SameAhead t t') : SameAhead t' t := by
  cases h with
  | same => exact .same _
  | outside h => exact .outside h.symm
  | inside hv tail => exact .inside hv tail.symm

theorem length_eq (h : SameAhead t t') : t.length = t'.length := by
  cases h with
  | same => rfl
  | outside h => exact h.length_eq
  | inside hv tail =>
    rw [List.length_append, List.length_append, List.length_cons, List.length_cons, tail.length_eq]

theorem size_eq (h : SameAhead t t') : Text.size t = Text.size t' := by
  cases h with
  | same => rfl
  | outside h => exact h.size_eq
  | inside hv tail =>
    rw [Text.size_append, Text.size_append, Text.size_cons, Text.size_cons, tail.size_eq]

theorem head?_eq (h : SameAhead t t') : t.head? = t'.head? := by
  cases h with
  | same => rfl
  | outside h => exact h.head?_eq
  | inside hv tail => rw [List.head?_append, List.head?_append, List.head?_cons, List.head?_cons]

theorem append_inv {x : Text} (h : SameAhead (x ++ t) s') (hx : ∀ c ∈ x, c ∉ edges) :
    ∃ t', s' = x ++ t' ∧ SameAhead t t' := by
  generalize hs : x ++ t = s at h
  cases h with
  | same => exact ⟨t, hs.symm, .same t⟩
  | outside h =>
    subst hs
    obtain ⟨t', rfl, ht⟩ := SameOutside.inStep.append_inv h hx
    exact ⟨t', rfl, .outside ht⟩
  | @inside v d u u' hv tail =>
    rcases List.append_eq_append_iff.mp hs with ⟨w, rfl, rfl⟩ | ⟨w, rfl, hw⟩
    · exact ⟨w ++ d :: u', by rw [List.append_assoc], .inside hv.of_append tail⟩
    · cases w with
      | nil =>
        rw [List.nil_append] at hw
        subst hw
        refine ⟨d :: u', by rw [List.append_nil], ?_⟩
        rw [List.append_nil] at hx
        exact .inside (v := []) (IsInsideName.of_append (x := v) (by rwa [List.append_nil])) tail
      | cons e w =>
        obtain ⟨rfl, _⟩ := List.cons.inj hw
        exact absurd hv.mem_edges (hx d (by simp))

theorem brackets_inv {body : Text} (h : SameAhead ('[' :: body ++ [']'] ++ t) s')
    (hbody : ']' ∉ body) : ∃ t', s' = '[' :: body ++ [']'] ++ t' ∧ SameAhead t t' := by
  generalize hs : '[' :: body ++ [']'] ++ t = s at h
  cases h with
  | same => exact ⟨t, hs.symm, .same t⟩
  | outside h =>
    subst hs
    obtain ⟨t', rfl, ht⟩ := SameOutside.inStep.brackets_inv h hbody
    exact ⟨t', rfl, .outside ht⟩
  | @inside v d u u' hv tail =>
    rcases hv with ⟨rfl, hv⟩ | ⟨rfl, hv⟩
    · have hfront : ']' ∉ '[' :: body := List.not_mem_cons_of_ne_of_not_mem (by decide) hbody
      rw [List.append_assoc, List.singleton_append] at hs
      obtain ⟨rfl, rfl⟩ := cut_unique hfront hv hs
      exact ⟨u', by rw [List.append_assoc, List.singleton_append], .outside tail⟩
    · cases v with
      | nil => cases hs
      | cons c v =>
        obtain ⟨rfl, _⟩ := List.cons.inj hs
        exact absurd List.mem_cons_self hv

theorem inStep : InStep SameAhead where
  symm := symm
  length_eq := length_eq
  head?_eq := head?_eq
  append_inv := append_inv
  brackets_inv := brackets_inv

end SameAhead

end SqlAssist
