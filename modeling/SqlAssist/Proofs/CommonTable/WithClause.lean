import SqlAssist.Proofs.CommonTable
import SqlAssist.Proofs.Reference.Anchor

/-! # WITH clauses

A WITH clause as it is written: definitions with commas between them, each a name, an optional list
of columns, AS and a query in parentheses. The query may hold anything that leaves no quote, bracket
or comment open and in whose code every parenthesis has its partner. What is read off such a clause
are the names of its definitions. -/
namespace SqlAssist

open Character Identifier Token

namespace Text

theorem isBlank_of_isBlank_cons {c : Char} {t : Text} (h : isBlank (c :: t) = true) :
    Character.isBlank c = true :=
  List.all_eq_true.mp h c List.mem_cons_self

theorem trimStart_append_of_isBlank {blank : Text} (h : isBlank blank = true) (t : Text) :
    trimStart (blank ++ t) = trimStart t :=
  List.dropWhile_append_of_pos (List.all_eq_true.mp h)

theorem trimStart_cons {c : Char} (h : Character.isBlank c = false) (t : Text) :
    trimStart (c :: t) = c :: t :=
  List.dropWhile_cons_of_neg (by simp [h])

end Text

namespace CommonTable

open Text

/-- A definition as it is written: a name, white space, perhaps a list of columns in parentheses and
white space behind it, AS, white space and a query in parentheses. -/
structure Definition where
  name : Text
  gap : Text
  columns : Option (Text × Text)
  keyword : Text
  space : Text
  body : Text
  isWritten_name : IsWritten .folded name
  isBlank_gap : isBlank gap = true := by decide
  /-- A plain name and AS would be one word. -/
  gap_ne_nil : IsPlain .folded name → columns = none → gap ≠ [] := by simp
  not_mem_columns : ∀ list ∈ columns, '(' ∉ list.1 ∧ ')' ∉ list.1 := by decide
  isBlank_columns : ∀ list ∈ columns, isBlank list.2 = true := by decide
  isAs_keyword : keyword.map foldLetter = "as".toList := by decide
  isBlank_space : isBlank space = true := by decide
  closed_body : Closed body := by decide +kernel
  isBalanced_body : Parenthesis.IsBalanced (Parenthesis.marked (tokens body)) := by decide +kernel

namespace Definition

def columnList (d : Definition) : Text :=
  d.columns.elim [] fun list => '(' :: (list.1 ++ ')' :: list.2)

def between (d : Definition) : Text := d.gap ++ d.columnList

def query (d : Definition) : Text := '(' :: (d.body ++ [')'])

def text (d : Definition) : Text := d.name ++ (d.between ++ (d.keyword ++ (d.space ++ d.query)))

end Definition

structure Following where
  front : Text
  space : Text
  definition : Definition
  isBlank_front : isBlank front = true := by decide
  isBlank_space : isBlank space = true := by decide

def Following.text (following : Following) : Text :=
  following.front ++ ',' :: (following.space ++ following.definition.text)

/-- A WITH clause as it is written: white space, WITH, white space, a definition and the ones that
follow it. -/
structure WithClause where
  front : Text
  keyword : Text
  space : Text
  first : Definition
  more : List Following
  isBlank_front : isBlank front = true := by decide
  isWith_keyword : keyword.map foldLetter = "with".toList := by decide
  isBlank_space : isBlank space = true := by decide
  space_ne_nil : space ≠ [] := by decide

namespace WithClause

def text (clause : WithClause) : Text :=
  clause.front ++ (clause.keyword ++
    (clause.space ++ (clause.first.text ++ clause.more.flatMap Following.text)))

def definitions (clause : WithClause) : List Definition :=
  clause.first :: clause.more.map Following.definition

end WithClause

theorem behindColumns?_append {columns : Text} (hopen : '(' ∉ columns) (hclose : ')' ∉ columns)
    (rest : Text) : behindColumns? ('(' :: (columns ++ ')' :: rest)) = some rest := by
  have hpart : ∀ c ∈ columns, (decide (c ≠ '(') && decide (c ≠ ')')) = true := by
    intro c hc
    have hne : c ≠ '(' := by
      rintro rfl
      exact hopen hc
    have hne' : c ≠ ')' := by
      rintro rfl
      exact hclose hc
    simp [hne, hne']
  rw [behindColumns?_cons, (takeWhile_append_of_head? (t := ')' :: rest) hpart (by simp)).2]
  rfl

theorem exists_keyword_eq_cons {word keyword : Text} {w : Char}
    (h : keyword.map foldLetter = w :: word) (hw : Character.isBlank w = false) :
    ∃ c tail, keyword = c :: tail ∧ foldLetter c = w ∧ Character.isBlank c = false := by
  obtain ⟨c, tail, rfl, hc, _⟩ := List.map_eq_cons_iff.mp h
  refine ⟨c, tail, rfl, hc, ?_⟩
  cases hblank : Character.isBlank c with
  | false => rfl
  | true =>
    rw [← hc, foldLetter_of_isBlank hblank, hblank] at hw
    cases hw

theorem trimStart_keyword {word keyword : Text} {w : Char}
    (h : keyword.map foldLetter = w :: word) (hw : Character.isBlank w = false) (t : Text) :
    trimStart (keyword ++ t) = keyword ++ t := by
  obtain ⟨c, tail, rfl, _, hc⟩ := exists_keyword_eq_cons h hw
  exact trimStart_cons hc (tail ++ t)

theorem length_temporaryMark_lt {name : Text} (h : IsPlain .folded name) (rest : Text) :
    (temporaryMark (name ++ rest)).1.length < name.length := by
  obtain ⟨n, first, tail, rfl, hn, hfirst, _⟩ := h
  rw [List.append_assoc, List.cons_append,
    temporaryMark_replicate hn (ne_numberSign_of_isNameStart hfirst)]
  simp

/-- No shorter front part of a name is tried when the whole name can stand. -/
theorem shorten?_of_opening? {least : Nat} {name rest opened : Text} (hleast : least < name.length)
    (h : ∀ last, opening? last rest = some opened) :
    shorten? (least + 1) name.reverse rest = some (name, opened) := by
  cases hreversed : name.reverse with
  | nil =>
    rw [List.reverse_eq_nil_iff] at hreversed
    rw [hreversed] at hleast
    cases hleast
  | cons c reversed =>
    have hlength := congrArg List.length hreversed
    rw [List.length_reverse, List.length_cons] at hlength
    rw [shorten?, if_neg (by omega), h c, ← hreversed]
    simp only [List.reverse_reverse]

namespace Definition

variable (d : Definition) (rest : Text)

theorem query_append : d.query ++ rest = '(' :: (d.body ++ ')' :: rest) := by
  simp [query]

theorem text_append :
    d.text ++ rest = d.name ++ (d.between ++ (d.keyword ++ (d.space ++ (d.query ++ rest)))) := by
  simp [text]

theorem readWord?_as : readWord? "as".toList (d.keyword ++ rest) = some rest := by
  rw [← d.isAs_keyword]
  exact readWord?_append d.keyword rest

theorem trimStart_as : trimStart (d.keyword ++ rest) = d.keyword ++ rest :=
  trimStart_keyword d.isAs_keyword (by decide) rest

theorem head?_as_ne : (d.keyword ++ rest).head? ≠ some '(' := by
  obtain ⟨c, tail, hkeyword, hc, _⟩ := exists_keyword_eq_cons d.isAs_keyword (by decide)
  rw [hkeyword, List.cons_append, List.head?_cons]
  rintro heq
  rw [Option.some.inj heq] at hc
  exact absurd hc (by decide)

/-- What lies between the name and AS is passed, and it is seen whether there is anything. -/
theorem behindGap_between :
    behindGap (d.between ++ (d.keyword ++ rest)) =
      (decide (d.between ≠ []), d.keyword ++ rest) := by
  cases hcolumns : d.columns with
  | none =>
    have hbetween : d.between = d.gap := by simp [between, columnList, hcolumns]
    rw [hbetween]
    simp only [behindGap, trimStart_append_of_isBlank d.isBlank_gap, d.trimStart_as rest,
      behindColumns?_of_head? (d.head?_as_ne rest), Prod.mk.injEq, and_true]
    apply decide_eq_decide.mpr
    rw [← List.length_pos_iff]
    simp only [List.length_append]
    omega
  | some list =>
    obtain ⟨columns, blank⟩ := list
    obtain ⟨hopen, hclose⟩ := d.not_mem_columns _ hcolumns
    have hblank := d.isBlank_columns _ hcolumns
    have hbetween : d.between = d.gap ++ '(' :: (columns ++ ')' :: blank) := by
      simp [between, columnList, hcolumns]
    have happend : d.between ++ (d.keyword ++ rest) =
        d.gap ++ '(' :: (columns ++ ')' :: (blank ++ (d.keyword ++ rest))) := by
      simp [hbetween]
    have hne : d.between ≠ [] := by simp [hbetween]
    rw [happend]
    simp only [behindGap, trimStart_append_of_isBlank d.isBlank_gap,
      trimStart_cons isBlank_openParen, behindColumns?_append hopen hclose,
      trimStart_append_of_isBlank hblank, d.trimStart_as rest, decide_eq_true hne]

theorem opening?_append {last : Char} (h : d.between = [] → noWord (some last) = true) :
    opening? last (d.between ++ (d.keyword ++ (d.space ++ (d.query ++ rest)))) =
      some (d.query ++ rest) := by
  have hquery : trimStart (d.space ++ (d.query ++ rest)) = d.query ++ rest := by
    rw [trimStart_append_of_isBlank d.isBlank_space, query_append, trimStart_cons isBlank_openParen]
  have hapart : (decide (d.between ≠ []) || noWord (some last)) = true := by
    by_cases hbetween : d.between = []
    · rw [h hbetween, Bool.or_true]
    · rw [decide_eq_true hbetween, Bool.true_or]
  have hhead : ((d.query ++ rest).head? == some '(') = true := by
    rw [query_append]
    rfl
  simp only [opening?, d.behindGap_between, hapart, if_true, d.readWord?_as, Option.map_some,
    hquery, Option.filter_some, hhead]

theorem exists_between_eq_cons (h : IsPlain .folded d.name) :
    ∃ c tail, d.between = c :: tail ∧ Letters.folded.isNamePart c = false := by
  cases hgap : d.gap with
  | nil =>
    cases hcolumns : d.columns with
    | none => exact absurd hgap (d.gap_ne_nil h hcolumns)
    | some list =>
      refine ⟨'(', list.1 ++ ')' :: list.2, ?_, by decide⟩
      simp [between, columnList, hgap, hcolumns]
  | cons c gap =>
    have hblank := d.isBlank_gap
    rw [hgap] at hblank
    refine ⟨c, gap ++ d.columnList, ?_, ?_⟩
    · rw [between, hgap, List.cons_append]
    · exact Letters.folded.isNamePart_of_isBlank (isBlank_of_isBlank_cons hblank)

/-- The head of a definition is read up to the parenthesis of its query. -/
theorem readHead?_append {front : Text} (hfront : isBlank front = true) :
    readHead? (front ++ (d.text ++ rest)) = some (d.name, d.query ++ rest) := by
  have htrim : trimStart (front ++ (d.text ++ rest)) = d.text ++ rest := by
    rw [trimStart_append_of_isBlank hfront, text_append,
      trimStart_of_isTight d.isWritten_name.isTight]
  rw [readHead?, htrim, text_append]
  rcases d.isWritten_name with ⟨body, hname, hne, hbody⟩ | hplain
  · have hopening : opening? ']' _ = _ := d.opening?_append rest fun _ => by decide
    rw [hname, readBracketed?_brackets hne hbody]
    simp only [hopening, Option.map_some]
  · obtain ⟨c, tail, hbetween, hc⟩ := d.exists_between_eq_cons hplain
    have hne : d.between ≠ [] := by simp [hbetween]
    have hplainRead : readPlain? .folded (d.name ++ (d.between ++ (d.keyword ++ (d.space ++
        (d.query ++ rest))))) = some (d.name, _) :=
      readPlain?_append_of_isPlain hplain (by simpa [hbetween] using hc)
    rw [readBracketed?_of_head? (head?_ne_bracket_of_isPlain hplain _)]
    simp only [hplainRead, Option.bind_eq_bind, Option.bind_some]
    apply shorten?_of_opening? (length_temporaryMark_lt hplain _)
    intro last
    exact d.opening?_append rest fun hnil => absurd hnil hne

theorem next?_append : next? (d.query ++ rest) = skipChar? ',' (trimStart rest) := by
  rw [query_append, next?, Parenthesis.closing?_append d.closed_body d.isBalanced_body,
    Option.bind_some, List.tail_cons]

theorem namesFrom_append {front : Text} (hfront : isBlank front = true) :
    namesFrom (front ++ (d.text ++ rest)) =
      lower (strip d.name) :: ((skipChar? ',' (trimStart rest)).map namesFrom).getD [] := by
  rw [namesFrom_of_some (d.readHead?_append rest hfront), d.next?_append]

end Definition

theorem Following.skipChar?_append (following : Following) (rest : Text) :
    skipChar? ',' (trimStart (following.text ++ rest)) =
      some (following.space ++ (following.definition.text ++ rest)) := by
  rw [Following.text, List.append_assoc, trimStart_append_of_isBlank following.isBlank_front,
    List.cons_append, trimStart_cons isBlank_comma, List.append_assoc]
  rfl

theorem namesFrom_definitions (d : Definition) (more : List Following) {front rest : Text}
    (hfront : isBlank front = true) (hrest : (trimStart rest).head? ≠ some ',') :
    namesFrom (front ++ (d.text ++ (more.flatMap Following.text ++ rest))) =
      (d :: more.map Following.definition).map fun d => lower (strip d.name) := by
  induction more generalizing d front with
  | nil =>
    have hnone : skipChar? ',' (trimStart rest) = none := by
      apply Option.eq_none_iff_forall_ne_some.mpr
      intro behind hbehind
      rw [skipChar?_eq_some_iff.mp hbehind] at hrest
      exact hrest rfl
    rw [List.flatMap_nil, List.nil_append, d.namesFrom_append rest hfront, hnone]
    rfl
  | cons following more ih =>
    rw [List.flatMap_cons, List.append_assoc, d.namesFrom_append _ hfront,
      following.skipChar?_append, Option.map_some, Option.getD_some,
      ih following.definition following.isBlank_space]
    rfl

theorem behindWith?_append (clause : WithClause) (rest : Text) :
    behindWith? (clause.text ++ rest) = some (clause.space ++
      (clause.first.text ++ (clause.more.flatMap Following.text ++ rest))) := by
  have htext : clause.text ++ rest = clause.front ++ (clause.keyword ++ (clause.space ++
      (clause.first.text ++ (clause.more.flatMap Following.text ++ rest)))) := by
    simp [WithClause.text]
  have hword (t : Text) : readWord? "with".toList (clause.keyword ++ t) = some t := by
    rw [← clause.isWith_keyword]
    exact readWord?_append clause.keyword t
  obtain ⟨c, blanks, hspace⟩ := List.exists_cons_of_ne_nil clause.space_ne_nil
  have hblank := clause.isBlank_space
  rw [hspace] at hblank
  have halone (t : Text) : noWord (clause.space ++ t).head? = true := by
    simp [hspace, noWord, isWord_of_isBlank (isBlank_of_isBlank_cons hblank)]
  rw [htext, behindWith?, trimStart_append_of_isBlank clause.isBlank_front,
    trimStart_keyword clause.isWith_keyword (by decide), hword, Option.filter_some, halone]
  rfl

theorem nodup_eraseDups (l : List Text) : l.eraseDups.Nodup := by
  induction hlength : l.length using Nat.strongRecOn generalizing l with
  | ind n ih =>
    cases l with
    | nil => exact List.nodup_nil
    | cons a l =>
      have hle := List.length_filter_le (fun b => !b == a) l
      rw [List.length_cons] at hlength
      rw [List.eraseDups_cons, List.nodup_cons]
      refine ⟨?_, ih _ ?_ _ rfl⟩
      · simp
      · omega

/-- The names that are read off a WITH clause are those of its definitions, each once. -/
theorem names_withClause (clause : WithClause) (rest : Text)
    (hrest : (trimStart rest).head? ≠ some ',') :
    (names (clause.text ++ rest)).Nodup ∧
      ∀ name, name ∈ names (clause.text ++ rest) ↔
        ∃ d ∈ clause.definitions, name = lower (strip d.name) := by
  have hnames : names (clause.text ++ rest) =
      (clause.definitions.map fun d => lower (strip d.name)).eraseDups := by
    rw [names, behindWith?_append]
    exact congrArg List.eraseDups
      (namesFrom_definitions clause.first clause.more clause.isBlank_space hrest)
  rw [hnames]
  refine ⟨nodup_eraseDups _, ?_⟩
  intro name
  rw [List.mem_eraseDups, List.mem_map]
  exact exists_congr fun d => and_congr_right fun _ => eq_comm

/-- Names that are plain, bracketed and a keyword, a list of columns, and parentheses in a query, in
a literal, in brackets and in a comment. -/
theorem names_withClause_three :
    ∃ clause : WithClause,
      clause.text = "With a(x, '[')aS ((SELECT ')')), [B c]AS([(]) ,As\tAS (1 -- (\n)".toList ∧
      (trimStart " SELECT 1, 2".toList).head? ≠ some ',' ∧
      ∀ name, name ∈ names (clause.text ++ " SELECT 1, 2".toList) ↔
        name ∈ ["a".toList, "b c".toList, "as".toList] := by
  let first : Definition :=
    { name := "a".toList, gap := [], columns := some ("x, '['".toList, []), keyword := "aS".toList
      space := [' '], body := "(SELECT ')')".toList, isWritten_name := Or.inr (by decide +kernel) }
  let second : Definition :=
    { name := "[B c]".toList, gap := [], columns := none, keyword := "AS".toList
      space := [], body := "[(]".toList
      isWritten_name := Or.inl ⟨"B c".toList, by decide, by decide, by decide⟩
      gap_ne_nil := fun hplain => absurd hplain (by decide) }
  let third : Definition :=
    { name := "As".toList, gap := ['\t'], columns := none, keyword := "AS".toList
      space := [' '], body := "1 -- (\n".toList, isWritten_name := Or.inr (by decide +kernel) }
  let clause : WithClause :=
    { front := [], keyword := "With".toList, space := [' '], first := first
      more := [{ front := [], space := [' '], definition := second },
        { front := [' '], space := [], definition := third }] }
  have htext : clause.text =
      "With a(x, '[')aS ((SELECT ')')), [B c]AS([(]) ,As\tAS (1 -- (\n)".toList := by decide
  have hrest : (trimStart " SELECT 1, 2".toList).head? ≠ some ',' := by decide
  refine ⟨clause, htext, hrest, ?_⟩
  intro name
  rw [(names_withClause clause " SELECT 1, 2".toList hrest).2]
  have hnames : clause.definitions.map (fun d => lower (strip d.name)) =
      ["a".toList, "b c".toList, "as".toList] := by decide +kernel
  rw [← hnames, List.mem_map]
  exact exists_congr fun d => and_congr_right fun _ => eq_comm

end CommonTable

end SqlAssist
