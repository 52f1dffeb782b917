import Mathlib.Data.List.TakeWhile
import SqlAssist.Script

/-! # The shapes of regions

What a region of each kind looks like in front of a given text, said without the scanner. A region
shows its kind by its first characters (`opening?`) and ends where its shape says so: no region can
be continued to a longer one of the same kind (`exact_hasShape`). Hence the scanner reads a region
off a text exactly when the region has the shape of its kind there (`region?_eq_some_iff`). -/
namespace SqlAssist.Token

/-- The inside of a quoted region: characters other than the quote, and quotes in pairs. -/
inductive QuoteBody (q : Char) : Text → Prop where
  | nil : QuoteBody q []
  | plain {c : Char} {t : Text} (hc : c ≠ q) (tail : QuoteBody q t) : QuoteBody q (c :: t)
  | pair {t : Text} (tail : QuoteBody q t) : QuoteBody q (q :: q :: t)

/-- Whether a quote between `body` and `after` closes a quoted region. -/
def ClosesQuote (q : Char) (body after : Text) : Prop := QuoteBody q body ∧ after.head? ≠ some q

/-- `tail` goes through the closing quote, or to the end of the text when nothing closes it. -/
def ThroughQuote (q : Char) (tail after : Text) : Prop :=
  (∃ body, tail = body ++ [q] ∧ ClosesQuote q body after) ∨
    (after = [] ∧ ¬ ∃ body rest, tail = body ++ q :: rest ∧ ClosesQuote q body rest)

/-- `tail` goes through the first `close` behind its beginning, or to the end of the text when there
is none. -/
def ThroughFirst (close tail after : Text) : Prop :=
  (close <:+ tail ∧ ¬ close <:+: tail.dropLast) ∨ (after = [] ∧ ¬ close <:+: tail)

/-- `tail` goes up to the first line break, or to the end of the text when there is none. -/
def ToLineBreak (tail after : Text) : Prop :=
  '\n' ∉ tail ∧ (after = [] ∨ after.head? = some '\n')

/-- `text` is what a region of the given kind covers when it stands in front of `after`. -/
def HasShape : TokenKind → Text → Text → Prop
  | .code, text, after =>
    (∀ c ∈ text, c ≠ '\'' ∧ c ≠ '"' ∧ c ≠ '[' ∧ c ≠ ';') ∧
      ∀ part, part ≠ [] → part <:+ text →
        ¬ ['-', '-'] <+: part ++ after ∧ ¬ ['/', '*'] <+: part ++ after
  | .quoted quote, text, after =>
    ∃ tail, text = quote.char :: tail ∧ ThroughQuote quote.char tail after
  | .bracketed, text, after => ∃ tail, text = '[' :: tail ∧ ThroughFirst [']'] tail after
  | .lineComment, text, after => ∃ tail, text = '-' :: '-' :: tail ∧ ToLineBreak tail after
  | .blockComment, text, after =>
    ∃ tail, text = '/' :: '*' :: tail ∧ ThroughFirst ['*', '/'] tail after
  | .terminator, text, _ => text = [';']

/-- A rule for where a region ends is exact when it never admits both an end and a later one. -/
def Exact (ends : Text → Text → Prop) : Prop :=
  ∀ t c u a, ends t (c :: (u ++ a)) → ¬ ends (t ++ c :: u) a

theorem Exact.unique {ends : Text → Text → Prop} (he : Exact ends) {t a t' a' : Text}
    (h : ends t a) (h' : ends t' a') (heq : t ++ a = t' ++ a') : t = t' := by
  rcases List.append_eq_append_iff.mp heq with ⟨u, rfl, rfl⟩ | ⟨u, rfl, rfl⟩
  · cases u with
    | nil => simp
    | cons c u => exact absurd h' (he t c u a' h)
  · cases u with
    | nil => simp
    | cons c u => exact absurd h (he t' c u a h')

/-- Two closing quotes of one text are the same. -/
theorem ClosesQuote.body_unique {q : Char} {b b' r r' : Text} (h : ClosesQuote q b r)
    (h' : ClosesQuote q b' r') (heq : b ++ q :: r = b' ++ q :: r') : b = b' := by
  obtain ⟨hb, hr⟩ := h
  obtain ⟨hb', hr'⟩ := h'
  induction hb generalizing b' with
  | nil =>
    cases hb' with
    | nil => rfl
    | plain hc tail => exact absurd (List.cons.inj heq).1.symm hc
    | pair tail =>
      have hq := (List.cons.inj heq).2
      simp [hq] at hr
  | plain hc tail ih =>
    cases hb' with
    | nil => exact absurd (List.cons.inj heq).1 hc
    | plain hc' tail' =>
      obtain ⟨rfl, hq⟩ := List.cons.inj heq
      rw [ih hq tail']
    | pair tail' => exact absurd (List.cons.inj heq).1 hc
  | pair tail ih =>
    cases hb' with
    | nil =>
      have hq := (List.cons.inj heq).2
      simp [← hq] at hr'
    | plain hc' tail' => exact absurd (List.cons.inj heq).1.symm hc'
    | pair tail' =>
      have hq := (List.cons.inj (List.cons.inj heq).2).2
      rw [ih hq tail']

theorem exact_throughQuote (q : Char) : Exact (ThroughQuote q) := by
  intro t c u a h h'
  obtain ⟨body, rfl, hc⟩ | ⟨hnil, _⟩ := h
  · rcases h' with ⟨body', heq, hc'⟩ | ⟨_, hnone⟩
    · have hclose : ClosesQuote q body (c :: u) := ⟨hc.1, by simpa using hc.2⟩
      have hend : ClosesQuote q body' [] := ⟨hc'.1, by simp⟩
      have hb := hclose.body_unique hend (by simpa using heq)
      subst hb
      simp at heq
    · exact hnone ⟨body, c :: u, by simp, hc.1, by simpa using hc.2⟩
  · cases hnil

theorem exact_throughFirst (close : Text) : Exact (ThroughFirst close) := by
  intro t c u a h h'
  obtain ⟨hs, _⟩ | ⟨hnil, _⟩ := h
  · have hearly : close <:+: (t ++ c :: u).dropLast := by
      rw [List.dropLast_append_of_ne_nil (by simp)]
      exact hs.isInfix.trans (List.prefix_append _ _).isInfix
    rcases h' with ⟨_, hfirst⟩ | ⟨_, hnone⟩
    · exact hfirst hearly
    · exact hnone (hearly.trans (List.dropLast_prefix _).isInfix)
  · cases hnil

theorem exact_toLineBreak : Exact ToLineBreak := by
  intro t c u a h h'
  rcases h.2 with hnil | hhead
  · cases hnil
  · have hc : c = '\n' := by simpa using hhead
    exact h'.1 (by simp [hc])

theorem Exact.behind {ends : Text → Text → Prop} (he : Exact ends) (opening : Text) :
    Exact (fun text after => ∃ tail, text = opening ++ tail ∧ ends tail after) := by
  rintro t c u a ⟨tail, rfl, h⟩ ⟨tail', heq, h'⟩
  obtain rfl : tail ++ c :: u = tail' := by simpa using heq
  exact he tail c u a h h'

/-- No region can be continued to a longer one of its kind. -/
theorem exact_hasShape {kind : TokenKind} (hk : kind ≠ .code) : Exact (HasShape kind) := by
  cases kind with
  | code => exact absurd rfl hk
  | quoted quote => exact (exact_throughQuote quote.char).behind [quote.char]
  | bracketed => exact (exact_throughFirst [']']).behind ['[']
  | lineComment => exact exact_toLineBreak.behind ['-', '-']
  | blockComment => exact (exact_throughFirst ['*', '/']).behind ['/', '*']
  | terminator =>
    intro t c u a h h'
    obtain rfl : t = [';'] := h
    have hlen := congrArg List.length (show [';'] ++ c :: u = [';'] from h')
    simp at hlen

theorem ThroughQuote.plain {q c : Char} {tail after : Text} (hc : c ≠ q)
    (h : ThroughQuote q tail after) : ThroughQuote q (c :: tail) after := by
  rcases h with ⟨body, rfl, hb, ha⟩ | ⟨ha, hnone⟩
  · exact Or.inl ⟨c :: body, by simp, .plain hc hb, ha⟩
  · refine Or.inr ⟨ha, ?_⟩
    rintro ⟨body, rest, heq, hb, hr⟩
    cases hb with
    | nil => exact hc (List.cons.inj heq).1
    | plain hc' hb => exact hnone ⟨_, rest, (List.cons.inj heq).2, hb, hr⟩
    | pair hb => exact hc (List.cons.inj heq).1

theorem ThroughQuote.pair {q : Char} {tail after : Text} (h : ThroughQuote q tail after) :
    ThroughQuote q (q :: q :: tail) after := by
  rcases h with ⟨body, rfl, hb, ha⟩ | ⟨ha, hnone⟩
  · exact Or.inl ⟨q :: q :: body, by simp, .pair hb, ha⟩
  · refine Or.inr ⟨ha, ?_⟩
    rintro ⟨body, rest, heq, hb, hr⟩
    cases hb with
    | nil => simp [← (List.cons.inj heq).2] at hr
    | plain hc _ => exact hc (List.cons.inj heq).1.symm
    | pair hb => exact hnone ⟨_, rest, (List.cons.inj (List.cons.inj heq).2).2, hb, hr⟩

theorem closeQuote_through (q : Char) (t : Text) :
    ThroughQuote q (closeQuote q t).1 (closeQuote q t).2 := by
  fun_induction closeQuote q t with
  | case1 => exact Or.inr ⟨rfl, by rintro ⟨body, rest, heq, _⟩; simp at heq⟩
  | case2 c =>
    by_cases hc : c = q
    · exact Or.inl ⟨[], by simp [hc], .nil, by simp⟩
    · refine Or.inr ⟨rfl, ?_⟩
      rintro ⟨body, rest, heq, _⟩
      cases body with
      | nil => exact hc (List.cons.inj heq).1
      | cons d body => simp at heq
  | case3 t body rest hr ih => rw [hr] at ih; exact ih.pair
  | case4 d t hd => exact Or.inl ⟨[], rfl, .nil, by simpa using hd⟩
  | case5 c d t hc body rest hr ih => rw [hr] at ih; exact ih.plain hc

theorem ThroughFirst.cons {close tail after : Text} {c : Char} (hne : close ≠ [])
    (hc : ¬ close <+: c :: tail) (h : ThroughFirst close tail after) :
    ThroughFirst close (c :: tail) after := by
  rcases h with ⟨hs, hfirst⟩ | ⟨ha, hnone⟩
  · have htail : tail ≠ [] := by
      rintro rfl
      exact hne (List.suffix_nil.mp hs)
    refine Or.inl ⟨hs.trans (List.suffix_cons _ _), ?_⟩
    rw [List.dropLast_cons_of_ne_nil htail, List.infix_cons_iff]
    rintro (hp | hi)
    · exact hc (hp.trans (List.prefix_cons_inj c |>.mpr (List.dropLast_prefix tail)))
    · exact hfirst hi
  · refine Or.inr ⟨ha, ?_⟩
    rw [List.infix_cons_iff]
    rintro (hp | hi)
    · exact hc hp
    · exact hnone hi

theorem closeBracket_through (t : Text) :
    ThroughFirst [']'] (closeBracket t).1 (closeBracket t).2 := by
  fun_induction closeBracket t with
  | case1 => exact Or.inr ⟨rfl, by simp⟩
  | case2 t => exact Or.inl ⟨List.suffix_refl _, by simp⟩
  | case3 c t hc body rest hr ih =>
    rw [hr] at ih
    exact ih.cons (by simp) (by simpa using Ne.symm hc)

theorem closeBlock_through (t : Text) :
    ThroughFirst ['*', '/'] (closeBlock t).1 (closeBlock t).2 := by
  fun_induction closeBlock t with
  | case1 => exact Or.inr ⟨rfl, by simp⟩
  | case2 c => exact Or.inr ⟨rfl, fun h => by simpa using h.length_le⟩
  | case3 c d t h =>
    obtain ⟨rfl, rfl⟩ := h
    exact Or.inl ⟨List.suffix_refl _, fun h => by simpa using h.length_le⟩
  | case4 c d t h body rest hr ih =>
    have happ := closeBlock_append (d :: t)
    rw [hr] at ih happ
    refine ih.cons (by simp) fun hp => h ?_
    have hp' : ['*', '/'] <+: c :: d :: t := by
      rw [← happ]
      exact hp.trans (List.prefix_append (c :: body) rest)
    simpa [List.cons_prefix_cons, eq_comm] using hp'

theorem closeLine_toLineBreak (t : Text) : ToLineBreak (closeLine t).1 (closeLine t).2 := by
  refine ⟨fun h => by simpa using List.mem_takeWhile_imp h, ?_⟩
  cases hd : (closeLine t).2 with
  | nil => exact Or.inl rfl
  | cons c rest =>
    have hc := List.head?_dropWhile_not (p := (· ≠ '\n')) t
    rw [show t.dropWhile (· ≠ '\n') = c :: rest from hd] at hc
    exact Or.inr (by simpa using hc)

def opening? : Text → Option TokenKind
  | '\'' :: _ => some (.quoted .single)
  | '"' :: _ => some (.quoted .double)
  | '[' :: _ => some .bracketed
  | '-' :: '-' :: _ => some .lineComment
  | '/' :: '*' :: _ => some .blockComment
  | ';' :: _ => some .terminator
  | _ => none

/-- The first characters decide whether a region begins, and which one. -/
theorem map_kind_region? (t : Text) : (region? t).map (·.1.kind) = opening? t := by
  unfold region?
  split <;> simp_all [opening?]

theorem hasShape_of_region? {t rest : Text} {token : Token}
    (h : region? t = some (token, rest)) : HasShape token.kind token.text rest := by
  unfold region? at h
  split at h <;> cases h
  · exact ⟨_, rfl, closeQuote_through _ _⟩
  · exact ⟨_, rfl, closeQuote_through _ _⟩
  · exact ⟨_, rfl, closeBracket_through _⟩
  · exact ⟨_, rfl, closeLine_toLineBreak _⟩
  · exact ⟨_, rfl, closeBlock_through _⟩
  · rfl

theorem opening?_of_hasShape {kind : TokenKind} {text after : Text} (hk : kind ≠ .code)
    (h : HasShape kind text after) : opening? (text ++ after) = some kind := by
  cases kind with
  | code => exact absurd rfl hk
  | quoted quote => obtain ⟨tail, rfl, _⟩ := h; cases quote <;> rfl
  | bracketed => obtain ⟨tail, rfl, _⟩ := h; rfl
  | lineComment => obtain ⟨tail, rfl, _⟩ := h; rfl
  | blockComment => obtain ⟨tail, rfl, _⟩ := h; rfl
  | terminator => obtain rfl : text = [';'] := h; rfl

theorem region?_eq_none_iff {t : Text} : region? t = none ↔ opening? t = none := by
  rw [← map_kind_region?, Option.map_eq_none_iff]

theorem opening?_of_region? {t rest : Text} {token : Token} (h : region? t = some (token, rest)) :
    opening? t = some token.kind := by
  rw [← map_kind_region?, h]; rfl

theorem kind_ne_code_of_region? {t rest : Text} {token : Token}
    (h : region? t = some (token, rest)) : token.kind ≠ .code := by
  unfold region? at h
  split at h <;> cases h <;> simp

/-- The scanner reads a region off a text exactly when the region has the shape of its kind in
front of the rest. -/
theorem region?_eq_some_iff {t rest : Text} {token : Token} :
    region? t = some (token, rest) ↔
      token.kind ≠ .code ∧ token.text ++ rest = t ∧ HasShape token.kind token.text rest := by
  constructor
  · intro h
    exact ⟨kind_ne_code_of_region? h, region?_append h, hasShape_of_region? h⟩
  · rintro ⟨hk, rfl, hs⟩
    have hopen := opening?_of_hasShape hk hs
    cases h : region? (token.text ++ rest) with
    | none => rw [region?_eq_none_iff, hopen] at h; cases h
    | some found =>
      obtain ⟨other, rest'⟩ := found
      have hkind : token.kind = other.kind :=
        Option.some.inj (hopen.symm.trans (opening?_of_region? h))
      have happ := region?_append h
      have hs' := hasShape_of_region? h
      rw [← hkind] at hs'
      have htext := (exact_hasShape hk).unique hs hs' happ.symm
      rw [← htext, List.append_cancel_left_eq] at happ
      subst happ
      obtain ⟨kind, text⟩ := token
      obtain ⟨kind', text'⟩ := other
      obtain rfl : kind = kind' := hkind
      obtain rfl : text = text' := htext
      rfl

end SqlAssist.Token
