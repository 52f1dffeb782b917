import SqlAssist.Proofs.CommonTable
import SqlAssist.Proofs.Literal.Reading

/-! # Common tables in texts that differ in their literals

The definitions of a WITH clause are followed through code. The query of a definition is passed by
its parentheses, and those in literals do not count. A list of columns, though, is read up to the
first parenthesis of any kind: only where that one is code, too, are the same names read off two
texts that differ in their literals. -/
namespace SqlAssist

open Character Identifier Token

namespace Parenthesis

variable {s t t' : Text} {c : Char} {token : Token}

/-- What is left from the parenthesis on that closes the outermost of `depth` open ones. -/
def closingFrom? (depth : Nat) (t : Text) : Option Text :=
  (fromClosing depth (marked (tokens t))).map (·.map Prod.fst)

theorem closingFrom?_of_code (h : region? (c :: t) = none) (depth : Nat) :
    closingFrom? depth (c :: t) =
      if c = '(' then closingFrom? (depth + 1) t
      else if c = ')' then
        if depth ≤ 1 then some (c :: t) else closingFrom? (depth - 1) t
      else closingFrom? depth t := by
  have htext : (marked (tokens t)).map Prod.fst = t := by rw [map_fst_marked, textOf_tokens]
  rw [closingFrom?, marked_of_code h, fromClosing]
  simp only [Bool.true_and, beq_iff_eq]
  split
  · rfl
  · split
    · split
      · rw [Option.map_some, List.map_cons, htext]
      · rfl
    · rfl

theorem closingFrom?_of_region (h : region? s = some (token, t)) (depth : Nat) :
    closingFrom? depth s = closingFrom? depth t := by
  have hskip (x : Text) (chars : List (Char × Bool)) :
      fromClosing depth (x.map (·, false) ++ chars) = fromClosing depth chars := by
    induction x with
    | nil => rfl
    | cons c x ih => rw [List.map_cons, List.cons_append, fromClosing]; simpa using ih
  rw [closingFrom?, marked_of_region h, hskip, closingFrom?]

/-- Whether the first parenthesis of a text, if it has one, is code. -/
def firstIsCode (t : Text) : Bool :=
  ((marked (tokens t)).find? fun marked => marked.1 == '(' || marked.1 == ')').all Prod.snd

theorem firstIsCode_of_code (h : region? (c :: t) = none) (hopen : c ≠ '(') (hclose : c ≠ ')') :
    firstIsCode (c :: t) = firstIsCode t := by
  rw [firstIsCode, marked_of_code h, List.find?_cons_of_neg (by simp [hopen, hclose]), firstIsCode]

theorem of_firstIsCode_of_region (h : region? s = some (token, t)) (hfirst : firstIsCode s = true) :
    (∀ c ∈ token.text, (decide (c ≠ '(') && decide (c ≠ ')')) = true) ∧ firstIsCode t = true := by
  rw [firstIsCode, marked_of_region h, List.find?_append] at hfirst
  cases hfound : (token.text.map (·, false)).find?
      (fun marked => marked.1 == '(' || marked.1 == ')') with
  | some found =>
    rw [hfound, Option.some_or, Option.all_some] at hfirst
    obtain ⟨c, _, rfl⟩ := List.mem_map.mp (List.mem_of_find?_eq_some hfound)
    cases hfirst
  | none =>
    rw [hfound, Option.none_or] at hfirst
    refine ⟨fun c hc => ?_, hfirst⟩
    have hnot := List.find?_eq_none.mp hfound (c, false) (List.mem_map_of_mem hc)
    simpa [not_or] using hnot

end Parenthesis

namespace SameOutside

variable {t t' : Text}

/-- The same parenthesis closes, and the texts behind it differ at most in literals. -/
theorem rel_closingFrom? (h : SameOutside t t') (depth : Nat) :
    Option.Rel (fun closed closed' => SameOutside closed.tail closed'.tail)
      (Parenthesis.closingFrom? depth t) (Parenthesis.closingFrom? depth t') := by
  induction h generalizing depth with
  | nil =>
    rw [Parenthesis.closingFrom?, tokens_nil]
    exact .none
  | code h h' tail ih =>
    rw [Parenthesis.closingFrom?_of_code h, Parenthesis.closingFrom?_of_code h']
    split
    · exact ih _
    · split
      · split
        · exact .some tail
        · exact ih _
      · exact ih _
  | region h h' _ _ ih =>
    rw [Parenthesis.closingFrom?_of_region h, Parenthesis.closingFrom?_of_region h']
    exact ih _
  | literal h h' _ _ _ _ _ _ ih =>
    rw [Parenthesis.closingFrom?_of_region h, Parenthesis.closingFrom?_of_region h']
    exact ih _

/-- Where the first parentheses are code, they are the same. -/
theorem dropWhile_parentheses (h : SameOutside t t') (hfirst : Parenthesis.firstIsCode t = true)
    (hfirst' : Parenthesis.firstIsCode t' = true) :
    SameOutside (t.dropWhile fun c => c ≠ '(' && c ≠ ')')
      (t'.dropWhile fun c => c ≠ '(' && c ≠ ')') := by
  induction h with
  | nil => exact .nil
  | @code c t t' h h' tail ih =>
    by_cases hother : c ≠ '(' ∧ c ≠ ')'
    · obtain ⟨hopen, hclose⟩ := hother
      rw [Parenthesis.firstIsCode_of_code h hopen hclose] at hfirst
      rw [Parenthesis.firstIsCode_of_code h' hopen hclose] at hfirst'
      rw [List.dropWhile_cons_of_pos (by simp [hopen, hclose]),
        List.dropWhile_cons_of_pos (by simp [hopen, hclose])]
      exact ih hfirst hfirst'
    · rw [List.dropWhile_cons_of_neg (by simpa using hother),
        List.dropWhile_cons_of_neg (by simpa using hother)]
      exact .code h h' tail
  | region h h' _ _ ih =>
    obtain ⟨hpass, hfirst⟩ := Parenthesis.of_firstIsCode_of_region h hfirst
    obtain ⟨_, hfirst'⟩ := Parenthesis.of_firstIsCode_of_region h' hfirst'
    rw [← region?_append h, ← region?_append h', List.dropWhile_append_of_pos hpass,
      List.dropWhile_append_of_pos hpass]
    exact ih hfirst hfirst'
  | literal h h' _ _ _ _ _ _ ih =>
    obtain ⟨hpass, hfirst⟩ := Parenthesis.of_firstIsCode_of_region h hfirst
    obtain ⟨hpass', hfirst'⟩ := Parenthesis.of_firstIsCode_of_region h' hfirst'
    rw [← region?_append h, ← region?_append h', List.dropWhile_append_of_pos hpass,
      List.dropWhile_append_of_pos hpass']
    exact ih hfirst hfirst'

end SameOutside

namespace CommonTable

open Text

def columns? (t : Text) : Option Text :=
  (Identifier.read? .folded (trimStart t)).bind fun found => skipChar? '(' (trimStart found.2)

def following? (t : Text) : Option Text := (readHead? t).bind fun head => next? head.2

theorem following?_length {t rest : Text} (h : following? t = some rest) :
    rest.length < t.length := by
  obtain ⟨⟨name, opened⟩, hhead, hnext⟩ := Option.bind_eq_some_iff.mp h
  have hshort := readHead?_length hhead
  exact (next?_length hnext).trans hshort

def columnListsFrom (t : Text) : List Text :=
  (columns? t).toList ++
    match _hnext : following? t with
    | none => []
    | some rest => columnListsFrom rest
termination_by t.length
decreasing_by exact following?_length _hnext

theorem mem_columnListsFrom_of_columns? {t list : Text} (h : columns? t = some list) :
    list ∈ columnListsFrom t := by
  rw [columnListsFrom, h]
  exact List.mem_append_left _ List.mem_cons_self

theorem mem_columnListsFrom_of_following? {t rest list : Text} (h : following? t = some rest)
    (hlist : list ∈ columnListsFrom rest) : list ∈ columnListsFrom t := by
  rw [columnListsFrom]
  split
  · rename_i hnone
    rw [h] at hnone
    cases hnone
  · rename_i hsome
    obtain rfl := Option.some.inj (h.symm.trans hsome)
    exact List.mem_append_right _ hlist

/-- The lists of columns of the common tables of a statement, each with all that follows. -/
def columnLists (statement : Text) : List Text :=
  ((behindWith? statement).map columnListsFrom).getD []

/-- The first parenthesis in every list of columns of a statement is code. -/
def ColumnsInCode (statement : Text) : Prop :=
  ∀ list ∈ columnLists statement, Parenthesis.firstIsCode list = true

instance (statement : Text) : Decidable (ColumnsInCode statement) :=
  inferInstanceAs (Decidable (∀ list ∈ columnLists statement, _))

/-- Where a text begins with a list of columns, its first parenthesis is code. -/
def GapIsClear (t : Text) : Prop :=
  ∀ list, skipChar? '(' (trimStart t) = some list → Parenthesis.firstIsCode list = true

theorem gapIsClear_cons {c : Char} (h : Letters.folded.isNamePart c = true) (t : Text) :
    GapIsClear (c :: t) := by
  intro list hlist
  have hopen : Letters.folded.isNamePart '(' = false := by decide +kernel
  have hblank := Letters.not_isBlank_of_isNamePart h
  rw [trimStart, List.dropWhile_cons_of_neg (by simp [hblank])] at hlist
  obtain ⟨rfl, _⟩ := List.cons.inj (skipChar?_eq_some_iff.mp hlist)
  rw [hopen] at h
  cases h

end CommonTable

theorem Identifier.temporaryMark_of_readPlain? {letters : Letters} {t name rest : Text}
    (h : readPlain? letters t = some (name, rest)) :
    (temporaryMark t).1 = (temporaryMark name).1 := by
  obtain ⟨n, c, tail, hname, hn, hc, _⟩ := isPlain_of_readPlain? h
  have hsign := ne_numberSign_of_isNameStart hc
  rw [← readPlain?_append h, hname, List.append_assoc, List.cons_append,
    temporaryMark_replicate hn hsign, temporaryMark_replicate hn hsign]

namespace SameOutside

open CommonTable

variable {t t' rest rest' : Text}

theorem rel_behindColumns? (h : SameOutside t t')
    (hclear : ∀ list, Text.skipChar? '(' t = some list → Parenthesis.firstIsCode list = true)
    (hclear' : ∀ list, Text.skipChar? '(' t' = some list → Parenthesis.firstIsCode list = true) :
    Option.Rel SameOutside (behindColumns? t) (behindColumns? t') := by
  by_cases hhead : t.head? = some '('
  · obtain ⟨u, rfl⟩ := List.head?_eq_some_iff.mp hhead
    obtain ⟨u', rfl, hu⟩ := inStep.cons_inv h (by decide)
    have hfirst := hclear u (Text.skipChar?_eq_some_iff.mpr rfl)
    have hfirst' := hclear' u' (Text.skipChar?_eq_some_iff.mpr rfl)
    rw [behindColumns?_cons, behindColumns?_cons]
    exact inStep.rel_skipChar? (by decide) (hu.dropWhile_parentheses hfirst hfirst')
  · have hhead' : t'.head? ≠ some '(' := by rwa [← h.head?_eq]
    rw [behindColumns?_of_head? hhead, behindColumns?_of_head? hhead']
    exact .none

theorem sameRead_behindGap (h : SameOutside t t') (hclear : GapIsClear t)
    (hclear' : GapIsClear t') : SameRead SameOutside (behindGap t) (behindGap t') := by
  have htrimmed := inStep.trimStart h
  have hrel := htrimmed.rel_behindColumns? hclear hclear'
  rcases rel_cases hrel with ⟨hnone, hnone'⟩ | ⟨rest, rest', hsome, hsome', hrest⟩
  · simp only [behindGap, hnone, hnone', h.length_eq, htrimmed.length_eq]
    exact ⟨rfl, htrimmed⟩
  · simp only [behindGap, hsome, hsome']
    exact ⟨rfl, inStep.trimStart hrest⟩

theorem rel_opening? (last : Char) (h : SameOutside t t') (hclear : GapIsClear t)
    (hclear' : GapIsClear t') :
    Option.Rel SameOutside (opening? last t) (opening? last t') := by
  obtain ⟨hapart, hbehind⟩ := h.sameRead_behindGap hclear hclear'
  have hword : Option.Rel SameOutside (readWord? "as".toList (behindGap t).2)
      (readWord? "as".toList (behindGap t').2) :=
    inStep.rel_readWord? (Text.forall_of_all (by decide)) hbehind
  simp only [CommonTable.opening?, hapart]
  split
  · rcases rel_cases hword with ⟨hnone, hnone'⟩ | ⟨rest, rest', hsome, hsome', hrest⟩
    · rw [hnone, hnone']
      exact .none
    · have hopened := inStep.trimStart hrest
      simp only [hsome, hsome', Option.map_some, Option.filter_some, hopened.head?_eq]
      split
      · exact .some hopened
      · exact .none
  · exact .none

/-- A shorter front part of a plain name is followed by a character of that name, which opens no
list of columns. -/
theorem rel_shorten? (least : Nat) {reversed : Text}
    (hname : ∀ c ∈ reversed, Letters.folded.isNamePart c = true) (h : SameOutside rest rest')
    (hclear : GapIsClear rest) (hclear' : GapIsClear rest') :
    Option.Rel (SameRead SameOutside) (shorten? least reversed rest)
      (shorten? least reversed rest') := by
  induction reversed generalizing rest rest' with
  | nil => exact .none
  | cons c reversed ih =>
    have hpart := hname c List.mem_cons_self
    have hc := not_mem_openers_of_not_mem_edges (Letters.not_mem_edges_of_isNamePart hpart)
    simp only [shorten?]
    split
    · exact .none
    · rcases rel_cases (h.rel_opening? c hclear hclear') with
        ⟨hnone, hnone'⟩ | ⟨opened, opened', hsome, hsome', hopened⟩
      · rw [hnone, hnone']
        exact ih (fun d hd => hname d (List.mem_cons_of_mem c hd)) (h.cons_of_not_mem_openers hc)
          (gapIsClear_cons hpart rest) (gapIsClear_cons hpart rest')
      · rw [hsome, hsome']
        exact .some ⟨rfl, hopened⟩

theorem gapIsClear_of_columns? {found : Text × Text}
    (hclear : ∀ list, columns? t = some list → Parenthesis.firstIsCode list = true)
    (h : Identifier.read? .folded (Text.trimStart t) = some found) : GapIsClear found.2 := by
  intro list hlist
  exact hclear list (Option.bind_eq_some_iff.mpr ⟨found, h, hlist⟩)

theorem rel_readHead? (h : SameOutside t t')
    (hclear : ∀ list, columns? t = some list → Parenthesis.firstIsCode list = true)
    (hclear' : ∀ list, columns? t' = some list → Parenthesis.firstIsCode list = true) :
    Option.Rel (SameRead SameOutside) (readHead? t) (readHead? t') := by
  have htrimmed := inStep.trimStart h
  rcases rel_cases (inStep.rel_readBracketed? htrimmed) with
    ⟨hnone, hnone'⟩ | ⟨⟨name, rest⟩, ⟨name', rest'⟩, hsome, hsome', hname, hrest⟩
  · rcases rel_cases (inStep.rel_readPlain? .folded htrimmed) with
      ⟨hplain, hplain'⟩ | ⟨⟨name, rest⟩, ⟨name', rest'⟩, hplain, hplain', hname, hrest⟩
    · simp only [readHead?, hnone, hnone', hplain, hplain']
      exact .none
    · obtain rfl : name = name' := hname
      have hparts : ∀ c ∈ name.reverse, Letters.folded.isNamePart c = true := fun c hc =>
        isNamePart_of_mem_isPlain (isPlain_of_readPlain? hplain) (List.mem_reverse.mp hc)
      have hmark := (temporaryMark_of_readPlain? hplain).trans
        (temporaryMark_of_readPlain? hplain').symm
      have hgap := gapIsClear_of_columns? hclear (read?_of_readPlain? hplain)
      have hgap' := gapIsClear_of_columns? hclear' (read?_of_readPlain? hplain')
      simp only [readHead?, hnone, hnone', hplain, hplain', hmark]
      exact hrest.rel_shorten? _ hparts hgap hgap'
  · obtain rfl : name = name' := hname
    have hgap := gapIsClear_of_columns? hclear (read?_of_readBracketed? hsome)
    have hgap' := gapIsClear_of_columns? hclear' (read?_of_readBracketed? hsome')
    simp only [readHead?, hsome, hsome']
    rcases rel_cases (hrest.rel_opening? ']' hgap hgap') with
      ⟨hopened, hopened'⟩ | ⟨opened, opened', hopened, hopened', hsame⟩
    · rw [hopened, hopened']
      exact .none
    · rw [hopened, hopened']
      exact .some ⟨rfl, hsame⟩

theorem rel_next? (h : SameOutside t t') : Option.Rel SameOutside (next? t) (next? t') := by
  refine rel_bind (h.rel_closingFrom? 0) fun closed closed' hclosed => ?_
  exact inStep.rel_skipChar? (by decide) (inStep.trimStart hclosed)

theorem namesFrom_eq (h : SameOutside t t')
    (hclear : ∀ list ∈ columnListsFrom t, Parenthesis.firstIsCode list = true)
    (hclear' : ∀ list ∈ columnListsFrom t', Parenthesis.firstIsCode list = true) :
    namesFrom t = namesFrom t' := by
  induction hn : t.length using Nat.strongRecOn generalizing t t' with
  | ind n ih =>
    have hcolumns : ∀ list, columns? t = some list → Parenthesis.firstIsCode list = true :=
      fun list hlist => hclear list (mem_columnListsFrom_of_columns? hlist)
    have hcolumns' : ∀ list, columns? t' = some list → Parenthesis.firstIsCode list = true :=
      fun list hlist => hclear' list (mem_columnListsFrom_of_columns? hlist)
    rcases rel_cases (h.rel_readHead? hcolumns hcolumns') with
      ⟨hhead, hhead'⟩ | ⟨⟨name, opened⟩, ⟨name', opened'⟩, hhead, hhead', hname, hopened⟩
    · rw [namesFrom_of_none hhead, namesFrom_of_none hhead']
    · obtain rfl : name = name' := hname
      rw [namesFrom_of_some hhead, namesFrom_of_some hhead']
      rcases rel_cases (rel_next? hopened) with
        ⟨hnext, hnext'⟩ | ⟨rest, rest', hnext, hnext', hrest⟩
      · rw [hnext, hnext']
      · have hfollowing : following? t = some rest := by rw [following?, hhead]; exact hnext
        have hfollowing' : following? t' = some rest' := by rw [following?, hhead']; exact hnext'
        have hshort := following?_length hfollowing
        rw [hnext, hnext', Option.map_some, Option.map_some]
        refine congrArg (_ :: ·) (ih rest.length (by omega) hrest (fun list hlist => ?_)
          (fun list hlist => ?_) rfl)
        · exact hclear list (mem_columnListsFrom_of_following? hfollowing hlist)
        · exact hclear' list (mem_columnListsFrom_of_following? hfollowing' hlist)

theorem rel_behindWith? (h : SameOutside t t') :
    Option.Rel SameOutside (behindWith? t) (behindWith? t') := by
  have hword : Option.Rel SameOutside (readWord? "with".toList (Text.trimStart t))
      (readWord? "with".toList (Text.trimStart t')) :=
    inStep.rel_readWord? (Text.forall_of_all (by decide)) (inStep.trimStart h)
  rw [behindWith?, behindWith?]
  rcases rel_cases hword with ⟨hnone, hnone'⟩ | ⟨rest, rest', hsome, hsome', hrest⟩
  · rw [hnone, hnone']
    exact .none
  · rw [hsome, hsome', Option.filter_some, Option.filter_some, hrest.head?_eq]
    split
    · exact .some hrest
    · exact .none

/-- Where every list of columns ends in code, the statements define the same names. -/
theorem names_eq (h : SameOutside t t') (hclear : ColumnsInCode t) (hclear' : ColumnsInCode t') :
    names t = names t' := by
  rw [names, names]
  rcases rel_cases h.rel_behindWith? with ⟨hnone, hnone'⟩ | ⟨rest, rest', hsome, hsome', hrest⟩
  · rw [hnone, hnone']
  · rw [ColumnsInCode, columnLists, hsome] at hclear
    rw [ColumnsInCode, columnLists, hsome'] at hclear'
    rw [hsome, hsome']
    exact congrArg List.eraseDups (hrest.namesFrom_eq hclear hclear')

end SameOutside

end SqlAssist
