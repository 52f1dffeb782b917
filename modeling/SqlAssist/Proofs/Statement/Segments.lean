import SqlAssist.Proofs.Token.Extension
import SqlAssist.Script

/-! # The segments of a script

`texts` lists the texts between the terminators of a script. Each of them with its semicolon gives
back the script, so a segment starts where those before it, terminated, end. When a script goes on,
its segments stay as they are but for the last one, which grows; behind a closed text and a semicolon
new segments begin. A segment is scanned in the same way inside its script and cut out of it, so
cutting a segment again gives the segment itself (`texts_of_mem_texts`). -/
namespace SqlAssist.Statement

open Token

def textsOf (ts : List Token) : List Text := (pieces ts).1 :: (pieces ts).2

def texts (script : Text) : List Text := textsOf (tokens script)

/-- Texts one after another, each with a semicolon behind it. -/
def terminated (l : List Text) : Text := l.flatMap (· ++ [';'])

@[simp] theorem terminated_nil : terminated [] = [] := rfl

@[simp] theorem terminated_cons (t : Text) (l : List Text) :
    terminated (t :: l) = t ++ ';' :: terminated l := by
  simp [terminated]

@[simp] theorem terminated_append (l m : List Text) :
    terminated (l ++ m) = terminated l ++ terminated m := by
  simp [terminated]

theorem size_terminated_cons (t : Text) (l : List Text) :
    Text.size (terminated (t :: l)) = Text.size t + 1 + Text.size (terminated l) := by
  have hsemi : Char.utf8Size ';' = 1 := by decide
  rw [terminated_cons, Text.size_append, Text.size_cons, hsemi]
  omega

theorem textsOf_nil : textsOf [] = [[]] := rfl

theorem textsOf_cons_terminator {token : Token} (h : token.isTerminator = true)
    (rest : List Token) : textsOf (token :: rest) = [] :: textsOf rest := by
  simp [textsOf, pieces_cons_terminator h]

theorem textsOf_cons_other {token : Token} (h : token.isTerminator = false) (rest : List Token) :
    textsOf (token :: rest) = (textsOf rest).modifyHead (token.text ++ ·) := by
  simp [textsOf, pieces_cons_other h]

theorem textsOf_consCode (c : Char) (ts : List Token) :
    textsOf (consCode c ts) = (textsOf ts).modifyHead (c :: ·) := by
  unfold consCode
  split
  · rw [textsOf_cons_other rfl, textsOf_cons_other rfl]
    rfl
  · rw [textsOf_cons_other rfl]
    rfl

theorem textsOf_append_semicolon (ts us : List Token) :
    textsOf (ts ++ semicolon :: us) = textsOf ts ++ textsOf us := by
  induction ts with
  | nil => exact textsOf_cons_terminator rfl us
  | cons token ts ih =>
    rw [List.cons_append]
    cases h : token.isTerminator with
    | true => rw [textsOf_cons_terminator h, textsOf_cons_terminator h, ih, List.cons_append]
    | false =>
      rw [textsOf_cons_other h, textsOf_cons_other h, ih]
      rfl

theorem terminated_textsOf {ts : List Token} (h : Shaped [] ts) :
    terminated (textsOf ts) = textOf ts ++ [';'] := by
  induction ts with
  | nil => rfl
  | cons token rest ih =>
    obtain ⟨_, hs, _, hrest⟩ := h
    have ih := ih hrest
    cases ht : token.isTerminator with
    | true =>
      have htext : token.text = [';'] := by
        rw [show token.kind = .terminator by simpa [isTerminator] using ht] at hs
        exact hs
      rw [textsOf_cons_terminator ht, terminated_cons, ih, textOf_cons, htext]
      rfl
    | false =>
      rw [textsOf_cons_other ht, textOf_cons, List.append_assoc, ← ih]
      simp [textsOf]

theorem terminated_texts (script : Text) : terminated (texts script) = script ++ [';'] := by
  rw [texts, terminated_textsOf (shaped_tokens script), textOf_tokens]

theorem size_terminated_texts (script : Text) :
    Text.size (terminated (texts script)) = Text.size script + 1 := by
  rw [terminated_texts, Text.size_append]
  rfl

/-- A script is its segments but the last one, each with its semicolon, and the last one. -/
theorem eq_terminated_append {script last : Text} {init : List Text}
    (h : texts script = init ++ [last]) : script = terminated init ++ last := by
  have heq := terminated_texts script
  rw [h, terminated_append, terminated_cons, terminated_nil, ← List.append_assoc] at heq
  exact (List.append_cancel_right heq).symm

theorem size_eq_of_texts {script last : Text} {init : List Text}
    (h : texts script = init ++ [last]) :
    Text.size script = Text.size (terminated init) + Text.size last := by
  rw [← Text.size_append, ← eq_terminated_append h]

@[simp] theorem texts_nil : texts [] = [[]] := by
  simp [texts, textsOf_nil]

theorem texts_of_terminator {t rest : Text} {token : Token} (h : region? t = some (token, rest))
    (ht : token.isTerminator = true) : texts t = [] :: texts rest := by
  rw [texts, tokens_of_region h, textsOf_cons_terminator ht, texts]

theorem texts_of_other {t rest : Text} {token : Token} (h : region? t = some (token, rest))
    (ht : token.isTerminator = false) : texts t = (texts rest).modifyHead (token.text ++ ·) := by
  rw [texts, tokens_of_region h, textsOf_cons_other ht, texts]

theorem texts_of_code {c : Char} {t : Text} (h : region? (c :: t) = none) :
    texts (c :: t) = (texts t).modifyHead (c :: ·) := by
  rw [texts, tokens_of_code h, textsOf_consCode, texts]

/-- Behind a closed text and a semicolon, new segments begin. -/
theorem texts_append_of_closed {a : Text} (h : Closed a) (b : Text) :
    texts (a ++ ';' :: b) = texts a ++ texts b := by
  rw [texts, h.tokens_append b, textsOf_append_semicolon, texts, texts]

/-- The second list has the texts of the first, the last of them continued, and maybe more. -/
inductive Continues : List Text → List Text → Prop where
  | last (t z : Text) (more : List Text) : Continues [t] ((t ++ z) :: more)
  | cons (t : Text) {l m : List Text} (tail : Continues l m) : Continues (t :: l) (t :: m)

namespace Continues

theorem modifyHead {l m : List Text} (h : Continues l m) (s : Text) :
    Continues (l.modifyHead (s ++ ·)) (m.modifyHead (s ++ ·)) := by
  cases h with
  | last t z more =>
    have hlast := Continues.last (s ++ t) z more
    rw [List.append_assoc] at hlast
    exact hlast
  | cons t tail => exact .cons (s ++ t) tail

theorem exists_append {l m : List Text} (h : Continues l m) :
    ∃ init last z more, l = init ++ [last] ∧ m = init ++ (last ++ z) :: more := by
  induction h with
  | last t z more => exact ⟨[], t, z, more, rfl, rfl⟩
  | cons t tail ih =>
    obtain ⟨init, last, z, more, rfl, rfl⟩ := ih
    exact ⟨t :: init, last, z, more, rfl, rfl⟩

end Continues

theorem texts_singleton {x : Text} {only : Token} (h : tokens x = [only])
    (ht : only.isTerminator = false) : texts x = [x] := by
  have htext : only.text = x := by
    have heq := textOf_tokens x
    rwa [h, textOf_cons, textOf_nil, List.append_nil] at heq
  rw [texts, h, textsOf_cons_other ht, textsOf_nil, List.modifyHead_cons, htext, List.append_nil]

/-- No terminator of a text appears or disappears when the text goes on. -/
theorem continues_texts (x y : Text) : Continues (texts x) (texts (x ++ y)) := by
  induction hn : x.length using Nat.strongRecOn generalizing x with
  | ind n ih =>
    cases x with
    | nil => rw [texts_nil]; exact .last [] _ _
    | cons c x =>
      have hx : c :: x ≠ [] := List.cons_ne_nil c x
      rcases region?_append_cases hx y with hnone | ⟨token, rest, hx, hxy⟩ | hswallow
      · have hopen : region? (c :: x) = none := region?_eq_none_of_append hnone
        rw [List.cons_append] at hnone ⊢
        rw [texts_of_code hopen, texts_of_code hnone]
        exact (ih x.length (by simp at hn; omega) x rfl).modifyHead [c]
      · have hlen := region?_length hx
        have hrest := ih rest.length (by omega) rest rfl
        cases ht : token.isTerminator with
        | true =>
          rw [texts_of_terminator hx ht, texts_of_terminator hxy ht]
          exact .cons [] hrest
        | false =>
          rw [texts_of_other hx ht, texts_of_other hxy ht]
          exact hrest.modifyHead token.text
      · obtain ⟨token, rest, z, hxy, htext, ht, only, honly, hkind⟩ := hswallow
        have ht' : only.isTerminator = false := by
          rcases hkind with hcode | hsame
          · rw [isTerminator, hcode]
            rfl
          · rwa [isTerminator, hsame]
        rw [texts_singleton honly ht', texts_of_other hxy ht, htext]
        have hlast := Continues.last (c :: x) (z ++ (pieces (tokens rest)).1)
          (pieces (tokens rest)).2
        rw [← List.append_assoc] at hlast
        exact hlast

/-- The statement further on in a script. -/
def moved (distance : Nat) (statement : Statement) : Statement :=
  ⟨statement.text, statement.start + distance⟩

theorem place_append (start : Nat) (l m : List Text) :
    place start (l ++ m) = place start l ++ place (start + Text.size (terminated l)) m := by
  induction l generalizing start with
  | nil => rfl
  | cons t l ih =>
    have hstart : start + Text.size t + 1 + Text.size (terminated l) =
        start + Text.size (terminated (t :: l)) := by
      rw [size_terminated_cons]
      omega
    rw [List.cons_append, place, place, ih, hstart, List.cons_append]

theorem place_add (start distance : Nat) (l : List Text) :
    place (start + distance) l = (place start l).map (moved distance) := by
  induction l generalizing start with
  | nil => rfl
  | cons t l ih =>
    have hstart : start + distance + Text.size t + 1 = start + Text.size t + 1 + distance := by
      omega
    rw [place, place, List.map_cons, hstart, ih]
    rfl

theorem stop_lt_of_mem_place {start : Nat} {l : List Text} {statement : Statement}
    (h : statement ∈ place start l) : statement.stop < start + Text.size (terminated l) := by
  induction l generalizing start with
  | nil => cases h
  | cons t l ih =>
    rw [size_terminated_cons]
    rcases List.mem_cons.mp h with rfl | h
    · simp only [stop]
      omega
    · have := ih h
      omega

theorem segments_eq_place (script : Text) : segments script = place 0 (texts script) := rfl

theorem stop_le_of_mem_segments {script : Text} {statement : Statement}
    (h : statement ∈ segments script) : statement.stop ≤ Text.size script := by
  rw [segments_eq_place] at h
  have hlt := stop_lt_of_mem_place h
  rw [size_terminated_texts] at hlt
  omega

/-- The segments of a closed text, a semicolon and another text: those of both, the latter moved. -/
theorem segments_append_of_closed {a : Text} (h : Closed a) (b : Text) :
    segments (a ++ ';' :: b) = segments a ++ (segments b).map (moved (Text.size a + 1)) := by
  rw [segments_eq_place, texts_append_of_closed h, place_append, size_terminated_texts, place_add,
    segments_eq_place, segments_eq_place]

theorem eq_or_exists_of_texts_append {script text : Text} {init more : List Text}
    (h : texts script = init ++ text :: more) :
    script = terminated init ++ text ∨ ∃ rest, script = terminated init ++ text ++ ';' :: rest := by
  rcases List.eq_nil_or_concat more with rfl | ⟨middle, last, rfl⟩
  · exact Or.inl (eq_terminated_append h)
  · refine Or.inr ⟨terminated middle ++ last, ?_⟩
    have hsplit : texts script = (init ++ text :: middle) ++ [last] := by simpa using h
    rw [eq_terminated_append hsplit]
    simp

theorem eq_or_exists_of_texts_cons {t first : Text} {others : List Text}
    (h : texts t = first :: others) : t = first ∨ ∃ more, t = first ++ ';' :: more :=
  eq_or_exists_of_texts_append (show texts t = [] ++ first :: others from h)

theorem prefix_of_texts_cons {t first : Text} {others : List Text} (h : texts t = first :: others) :
    first <+: t := by
  rcases eq_or_exists_of_texts_cons h with rfl | ⟨more, rfl⟩
  · exact List.prefix_refl _
  · exact List.prefix_append _ _

/-- A region that ends in front of a text ends also in front of the first segment of that text. -/
theorem hasShape_first {kind : TokenKind} {text rest first : Text} {others : List Text}
    (h : texts rest = first :: others) (hs : HasShape kind text rest) :
    HasShape kind text first := by
  rcases eq_or_exists_of_texts_cons h with rfl | ⟨more, rfl⟩
  · exact hs
  · cases first with
    | nil => exact hs.nil
    | cons c first => exact hs.congr_head rfl

theorem region?_append_first {t rest first : Text} {token : Token} {others : List Text}
    (h : region? t = some (token, rest)) (hrest : texts rest = first :: others) :
    region? (token.text ++ first) = some (token, first) := by
  obtain ⟨hk, _, hs⟩ := region?_eq_some_iff.mp h
  exact region?_eq_some_iff.mpr ⟨hk, rfl, hasShape_first hrest hs⟩

theorem region?_cons_first {c : Char} {t first : Text} {others : List Text}
    (h : region? (c :: t) = none) (ht : texts t = first :: others) :
    region? (c :: first) = none := by
  obtain ⟨more, rfl⟩ := prefix_of_texts_cons ht
  rw [← List.cons_append] at h
  exact region?_eq_none_of_append h

theorem exists_texts_cons (t : Text) : ∃ first others, texts t = first :: others := ⟨_, _, rfl⟩

/-- A segment has no further segments. -/
theorem texts_of_mem_texts {t segment : Text} (h : segment ∈ texts t) :
    texts segment = [segment] := by
  induction t using tokens.induct generalizing segment with
  | case1 =>
    obtain rfl : segment = [] := by simpa using h
    exact texts_nil
  | case2 c t token rest hr ih =>
    obtain ⟨first, others, hrest⟩ := exists_texts_cons rest
    rw [hrest] at ih
    cases ht : token.isTerminator with
    | true =>
      rw [texts_of_terminator hr ht, hrest] at h
      rcases List.mem_cons.mp h with rfl | h
      · exact texts_nil
      · exact ih h
    | false =>
      rw [texts_of_other hr ht, hrest] at h
      rcases List.mem_cons.mp h with rfl | h
      · rw [texts_of_other (region?_append_first hr hrest) ht, ih (by simp)]
        rfl
      · exact ih (by simp [h])
  | case3 c t hr ih =>
    obtain ⟨first, others, ht⟩ := exists_texts_cons t
    rw [ht] at ih
    rw [texts_of_code hr, ht] at h
    rcases List.mem_cons.mp h with rfl | h
    · rw [texts_of_code (region?_cons_first hr ht), ih (by simp)]
      rfl
    · exact ih (by simp [h])

end SqlAssist.Statement
