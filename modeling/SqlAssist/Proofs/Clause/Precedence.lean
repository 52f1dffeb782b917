import SqlAssist.Proofs.Clause.Target
import SqlAssist.Proofs.Keyword.Occurrence
import SqlAssist.Proofs.Mask.Scan

/-! # Which keyword decides the clause

The clause is found by a chain of tests, each of which compares where one keyword and some others
occur last. Said of the order of all keywords in the text, the chain is a search: the first keyword,
in a fixed order of precedence, whose clause is found to go on gives the context. A subquery begins
inside another clause, so the SELECT or FROM that comes last has to prevail over the keywords in front
of it; it does, unless one of a few rivals is found to go on. -/
namespace SqlAssist

open Character Keyword Token

/-- A text without comments and terminators. -/
def Text.IsPlain (t : Text) : Prop :=
  ∀ token ∈ tokens t, token.isComment = false ∧ token.isTerminator = false

instance (t : Text) : Decidable (Text.IsPlain t) :=
  inferInstanceAs (Decidable (∀ token ∈ tokens t, _))

namespace Text.IsPlain

theorem current_eq {t : Text} (h : Text.IsPlain t) : Statement.current t = t := by
  have hpieces (ts : List Token) (hts : ∀ token ∈ ts, token.isTerminator = false) :
      Statement.pieces ts = (textOf ts, []) := by
    induction ts with
    | nil => rfl
    | cons token ts ih =>
      rw [Statement.pieces_cons_other (hts token List.mem_cons_self),
        ih fun other hother => hts other (List.mem_cons_of_mem _ hother), textOf_cons]
  rw [Statement.current, hpieces (tokens t) fun token htoken => (h token htoken).2]
  exact textOf_tokens t

theorem mask_eq {t : Text} (h : Text.IsPlain t) : mask t = t := by
  have hmasked : (tokens t).flatMap Token.masked = (tokens t).flatMap Token.text :=
    List.flatMap_congr fun token htoken => token.masked_of_not_isComment (h token htoken).1
  rw [mask, hmasked]
  exact textOf_tokens t

theorem analyze_eq {t : Text} (h : Text.IsPlain t) (line : Text) :
    analyze t line = classify t line := by
  rw [analyze, h.current_eq, h.mask_eq]

end Text.IsPlain

namespace Keyword

/-- Whether the clause of a keyword is found to go on at the end of a text. -/
def goesOn (t : Text) : Keyword → Bool
  | .on =>
    decide (.join ∈ inText t) &&
      comesLast (inText t) .on [.join, .whereFilter, .groupBy, .orderBy, .havingFilter]
  | .orderBy =>
    comesLast (inText t) .orderBy [.whereFilter, .groupBy, .havingFilter, .select] &&
      !(standingOneOf orderByEnds).occurs (Keyword.orderBy.behindLastIn t)
  | .groupBy => comesLast (inText t) .groupBy [.whereFilter, .orderBy, .select, .havingFilter]
  | .havingFilter =>
    comesLast (inText t) .havingFilter [.whereFilter, .groupBy, .select, .orderBy]
  | .set =>
    decide (.update ∈ inText t) &&
      comesLast (inText t) .set [.update, .whereFilter, .fromTable]
  | .whereFilter =>
    (comesLast (inText t) .whereFilter [.fromTable] ||
      comesLast (inText t) .whereFilter [.set]) &&
      comesLast (inText t) .whereFilter [.select]
  | .select => comesLast (inText t) .select [.fromTable]
  | .fromTable => comesLast (inText t) .fromTable [.select]
  | .insert | .update | .values | .join => false

/-- The keywords in the order in which their clauses are tried. -/
def precedence : List Keyword :=
  [.on, .orderBy, .groupBy, .havingFilter, .set, .whereFilter, .select, .fromTable]

/-- The context of a text behind a keyword. The keywords that are left over open no clause on their
own. -/
def contextBehind (rest : Text) : Keyword → Context
  | .select => ⟨.selectList, .high⟩
  | .fromTable | .join =>
    if Typing.IsCompleteTarget rest then ⟨.afterFrom, .medium⟩ else ⟨.fromTable, .high⟩
  | .on => ⟨.onCondition, .high⟩
  | .whereFilter => ⟨.whereFilter (Condition.awaitsOperator rest), .high⟩
  | .groupBy => ⟨.groupBy, .high⟩
  | .havingFilter => ⟨.havingFilter (Condition.awaitsOperator rest), .high⟩
  | .orderBy => ⟨.orderBy, .high⟩
  | .set => ⟨.updateSet, .high⟩
  | .insert | .update | .values => ⟨.other, .low⟩

/-- The context that the clause of a keyword gives to the end of a text. A JOIN behind the last FROM
takes its place. -/
def context (t : Text) (keyword : Keyword) : Context :=
  if keyword = .fromTable ∧ comesLast (inText t) .join [.fromTable] = true then
    Keyword.join.contextBehind (Keyword.join.behindLastIn t)
  else keyword.contextBehind (keyword.behindLastIn t)

/-- The context where no clause goes on: the name of a table to update may be being typed. -/
def contextOfNone (t : Text) : Context :=
  if (Keyword.update.fromLastIn? t).any Typing.isUpdateTarget &&
      !comesLast (inText t) .set [.update] then ⟨.fromTable, .medium⟩
  else ⟨.other, .low⟩

theorem context_of_getLast? {t : Text} {last : Keyword} (h : (inText t).getLast? = some last)
    (hne : last ≠ .join) : context t last = last.contextBehind (last.behindLastIn t) := by
  refine if_neg fun ⟨heq, hjoin⟩ => ?_
  rw [comesLast_of_getLast?_mem h (List.mem_singleton.mpr heq) hne] at hjoin
  cases hjoin

theorem context_fromTable_of_join {t : Text} (h : (inText t).getLast? = some .join) :
    context t .fromTable = Keyword.join.contextBehind (Keyword.join.behindLastIn t) :=
  if_pos ⟨rfl, comesLast_of_getLast? h⟩

theorem context_fromTable (t : Text) :
    context t .fromTable =
      if Typing.isTableThenGap ((if comesLast (inText t) .join [.fromTable] = true then
          Keyword.join else .fromTable).behindLastIn t) then ⟨.afterFrom, .medium⟩
      else ⟨.fromTable, .high⟩ := by
  unfold context
  split
  · rename_i h
    rw [if_pos h.2]
    exact if_congr Typing.isTableThenGap_iff.symm rfl rfl
  · rename_i h
    rw [if_neg fun hlast => h ⟨rfl, hlast⟩]
    exact if_congr Typing.isTableThenGap_iff.symm rfl rfl

end Keyword

theorem Text.exists_lastLine (t : Text) :
    ∃ front, t = front ++ Text.lastLine t ∧ ∀ c ∈ front.getLast?, c = '\n' := by
  refine ⟨(t.reverse.dropWhile (· ≠ '\n')).reverse, ?_, ?_⟩
  · rw [Text.lastLine, ← List.reverse_append, List.takeWhile_append_dropWhile,
      List.reverse_reverse]
  · intro c hc
    rw [List.getLast?_reverse] at hc
    have hstop := List.head?_dropWhile_not (fun c : Char => decide (c ≠ '\n')) t.reverse
    rw [Option.mem_def.mp hc] at hstop
    simpa using hstop

theorem placesFrom_on {left : Option Char} {t rest : Text} (hleft : noWord left = true)
    (h : readWord? "on".toList t = some rest) (hrest : Text.isBlank rest = true) :
    governing.placesFrom left t = [⟨t, .on, rest⟩] := by
  obtain ⟨word, rfl, hword⟩ := exists_of_readWord? h
  obtain ⟨c, d, rfl⟩ : ∃ c d, word = [c, d] :=
    List.length_eq_two.mp (by simpa using congrArg List.length hword)
  obtain ⟨hc, _⟩ := List.cons.inj hword
  have hend : noWord rest.head? = true := by
    cases rest with
    | nil => rfl
    | cons e rest =>
      obtain ⟨he, _⟩ := Bool.and_eq_true_iff.mp (List.all_cons.symm.trans hrest)
      simp [noWord, isWord_of_isBlank he]
  have hread : Keyword.on.pattern left ([c, d] ++ rest) = some ((), rest) := by
    have hwords : readWords? Keyword.on.words ([c, d] ++ rest) = some rest := h
    rw [Keyword.pattern, standingWords, if_pos hleft, hwords, Option.filter_some, if_pos hend]
    rfl
  have hnone : governing (some c) (d :: rest) = none := by
    have hletter : isWord c = true := isWord_of_foldLetter (hc ▸ by decide)
    exact governing_eq_none (Or.inl (by simp [noWord, hletter]))
  have hhit : governing.placesFrom left ([c, d] ++ rest) =
      ⟨[c, d] ++ rest, .on, rest⟩ :: governing.placesFrom (some c) (d :: rest) :=
    Pattern.placesFrom_of_some (governing_eq_some_iff.mpr hread)
  rw [hhit, Pattern.placesFrom_of_none hnone, placesFrom_governing_of_isBlank hrest]

/-- A text with an ON at the end of its last line has ON as its last keyword. -/
theorem getLast?_inText_of_onTail {t : Text}
    (h : Typing.onTail.occurs (Text.lastLine t) = true) : (inText t).getLast? = some .on := by
  obtain ⟨x, y, _, hline, _, hread⟩ := Pattern.occurs_iff.mp h
  obtain ⟨front, ht, hfront⟩ := Text.exists_lastLine t
  unfold Typing.onTail at hread
  split at hread
  · rename_i htest
    obtain ⟨hleft, hon⟩ := Bool.and_eq_true_iff.mp htest
    obtain ⟨rest, hword, hrest⟩ := (Option.any_eq_true _ _).mp hon
    have hleft' : noWord ((front ++ x).getLast?.or none) = true := by
      rw [Option.or_none, List.getLast?_append]
      cases hx : x.getLast? with
      | some c => rwa [hx] at hleft
      | none =>
        cases hlast : front.getLast? with
        | none => rfl
        | some c =>
          obtain rfl := hfront c hlast
          exact noWord_newline
    obtain ⟨l, hl⟩ := Pattern.exists_placesFrom_append governing none (front ++ x) y
    rw [placesFrom_on hleft' hword hrest] at hl
    rw [ht, hline, ← List.append_assoc, inText, occurrences, Pattern.places, hl]
    simp
  · cases hread

theorem elim_find?_cons {α β : Type} (p : α → Bool) (a : α) (l : List α) (b : β) (f : α → β) :
    ((a :: l).find? p).elim b f = if p a = true then f a else (l.find? p).elim b f := by
  rw [List.find?_cons]
  cases p a <;> rfl

/-- The chain of tests finds the first keyword whose clause goes on, if nothing is being inserted and
the line of the cursor decides nothing on its own. -/
theorem classify_eq_find? {t line : Text} (hinsert : .insert ∉ inText t)
    (hjoin : Typing.joinTail.occurs line = false)
    (hon : Typing.onTail.occurs line = true → goesOn t .on = true) :
    classify t line = (precedence.find? (goesOn t)).elim (contextOfNone t) (context t) := by
  have htail : (Typing.onTail.occurs line || goesOn t .on) = goesOn t .on := by
    cases h : Typing.onTail.occurs line with
    | false => rfl
    | true => rw [hon h]; rfl
  simp only [precedence, elim_find?_cons, List.find?_nil, Option.elim_none, context_fromTable]
  unfold classify
  dsimp only
  repeat rw [isBehind_lastIn (by decide) (by decide)]
  repeat rw [isSome_lastIn]
  rw [hjoin, comesLast_of_not_mem hinsert, decide_eq_false hinsert, fromLastIn?_of_not_mem hinsert]
  show (if Typing.onTail.occurs line || goesOn t .on then _ else
    if goesOn t .orderBy then _ else if goesOn t .groupBy then _ else
      if goesOn t .havingFilter then _ else if goesOn t .set then _ else
        if goesOn t .whereFilter then _ else if goesOn t .select then _ else
          if goesOn t .fromTable then _ else _) = _
  rw [htail]
  simp only [contextOfNone, Option.any_none, Bool.or_false]
  rfl

namespace Keyword

/-- The keywords whose clauses are tried before that of a SELECT or FROM and not given up for it. -/
def rivals : Keyword → List Keyword
  | .select => [.on, .set]
  | .fromTable => [.on, .orderBy, .groupBy, .havingFilter, .whereFilter]
  | _ => []

theorem goesOn_of_getLast? {t : Text} {last : Keyword} (hlast : (inText t).getLast? = some last)
    (hlead : last = .select ∨ last = .fromTable) : goesOn t last = true := by
  rcases hlead with rfl | rfl <;> exact comesLast_of_getLast? hlast

/-- Every test on another keyword than the rivals compares it with the last keyword. -/
theorem find?_precedence_of_rivals {t : Text} {last : Keyword}
    (hlast : (inText t).getLast? = some last) (hlead : last = .select ∨ last = .fromTable)
    (hrivals : ∀ rival ∈ last.rivals, goesOn t rival = false) :
    precedence.find? (goesOn t) = some last := by
  have hself := goesOn_of_getLast? hlast hlead
  have hbehind {keyword : Keyword} {others : List Keyword} (hmem : last ∈ others)
      (hne : last ≠ keyword) : comesLast (inText t) keyword others = false :=
    comesLast_of_getLast?_mem hlast hmem hne
  rcases hlead with rfl | rfl
  · have horderBy : goesOn t .orderBy = false := by
      rw [goesOn, hbehind (by decide) (by decide), Bool.false_and]
    have hgroupBy : goesOn t .groupBy = false := hbehind (by decide) (by decide)
    have hhaving : goesOn t .havingFilter = false := hbehind (by decide) (by decide)
    have hwhere : goesOn t .whereFilter = false := by
      have hselect : comesLast (inText t) .whereFilter [.select] = false :=
        hbehind (by decide) (by decide)
      rw [goesOn, hselect, Bool.and_false]
    simp only [precedence, List.find?_cons, hrivals .on (by decide), horderBy, hgroupBy, hhaving,
      hrivals .set (by decide), hwhere, hself]
  · have hset : goesOn t .set = false := by
      rw [goesOn, hbehind (by decide) (by decide), Bool.and_false]
    have hselect : goesOn t .select = false := hbehind (by decide) (by decide)
    simp only [precedence, List.find?_cons, hrivals .on (by decide), hrivals .orderBy (by decide),
      hrivals .groupBy (by decide), hrivals .havingFilter (by decide), hset,
      hrivals .whereFilter (by decide), hselect, hself]

end Keyword

/-- A SELECT or FROM takes over from whatever stands in front of it, if the clause of no rival goes
on and no name is being typed behind a JOIN. -/
theorem analyze_of_last_select_or_from {t : Text} {last : Keyword} (hplain : Text.IsPlain t)
    (hinsert : .insert ∉ inText t) (hjoin : Typing.joinTail.occurs (Text.lastLine t) = false)
    (hlast : (inText t).getLast? = some last) (hlead : last = .select ∨ last = .fromTable)
    (hrivals : ∀ rival ∈ last.rivals, goesOn t rival = false) :
    analyze t (Text.lastLine t) = last.contextBehind (last.behindLastIn t) := by
  have hon (htail : Typing.onTail.occurs (Text.lastLine t) = true) : goesOn t .on = true := by
    rw [getLast?_inText_of_onTail htail] at hlast
    rcases hlead with rfl | rfl <;> cases hlast
  have hne : last ≠ .join := by
    rcases hlead with rfl | rfl <;> decide
  rw [hplain.analyze_eq, classify_eq_find? hinsert hjoin hon,
    find?_precedence_of_rivals hlast hlead hrivals, Option.elim_some,
    context_of_getLast? hlast hne]

theorem analyze_of_last_select_or_from_in_condition :
    let t := "UPDATE a SET x = 1\nWHERE y IN (SELECT ".toList
    Text.IsPlain t ∧ .insert ∉ inText t ∧ Typing.joinTail.occurs (Text.lastLine t) = false ∧
      (inText t).getLast? = some .select ∧
      (∀ rival ∈ Keyword.select.rivals, goesOn t rival = false) ∧
      analyze t (Text.lastLine t) = ⟨.selectList, .high⟩ := by
  intro t
  have hplain : Text.IsPlain t := by decide +kernel
  have hinsert : .insert ∉ inText t := by decide +kernel
  have hjoin : Typing.joinTail.occurs (Text.lastLine t) = false := by decide +kernel
  have hlast : (inText t).getLast? = some .select := by decide +kernel
  have hrivals : ∀ rival ∈ Keyword.select.rivals, goesOn t rival = false := by decide +kernel
  exact ⟨hplain, hinsert, hjoin, hlast, hrivals,
    analyze_of_last_select_or_from hplain hinsert hjoin hlast (Or.inl rfl) hrivals⟩

/-- The last keyword opens the clause if it is SELECT or FROM and nothing is being inserted. -/
def Text.LastOpens (t : Text) : Prop :=
  Text.IsPlain t → .insert ∉ inText t → .values ∉ inText t →
    ((inText t).getLast? = some .select →
      (analyze t (Text.lastLine t)).clause = .selectList) ∧
    ((inText t).getLast? = some .fromTable →
      (analyze t (Text.lastLine t)).clause = .fromTable ∨
        (analyze t (Text.lastLine t)).clause = .afterFrom)

instance (t : Text) : Decidable (Text.LastOpens t) :=
  inferInstanceAs (Decidable (Text.IsPlain t → _ → _ → _))

/-- A SELECT or FROM behind a rival does not open its clause, whichever rival it is. -/
theorem not_lastOpens :
    ¬ Text.LastOpens "UPDATE a SET x = (SELECT ".toList ∧
      ¬ Text.LastOpens "SELECT * FROM a JOIN b ON a.x = (SELECT ".toList ∧
      ¬ Text.LastOpens "SELECT * FROM a JOIN b ON a.x = (SELECT y FROM ".toList ∧
      ¬ Text.LastOpens "SELECT ROW_NUMBER() OVER (ORDER BY x) FROM ".toList ∧
      ¬ Text.LastOpens "SELECT 1 FROM a GROUP BY EXTRACT(YEAR FROM ".toList ∧
      ¬ Text.LastOpens "SELECT 1 FROM a GROUP BY x HAVING EXTRACT(YEAR FROM ".toList ∧
      ¬ Text.LastOpens "SELECT 1 FROM a WHERE EXTRACT(YEAR FROM ".toList := by
  decide +kernel

end SqlAssist
