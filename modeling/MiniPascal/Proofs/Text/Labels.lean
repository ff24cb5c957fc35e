import MiniPascal.Proofs.Text.Numbers

/-!
# Labels in source text

A sign in a label belongs to a number: a label is a number with a sign or without one, or a word,
which is `true`, `false`, `nil` or a name (`Label.Regular`). The parser of labels departs from this
in one form. It takes the sign first and then knows only whether it was a minus, so it reads a word
after a plus sign too. Everything else after a sign is an error, and it is reported at the token
after the sign (`Program.parse_labels`).

`Program.AtLabel` says of the tokens from the start of a program that a label of a case statement
may follow them, at any depth. It has a rule for each way down from a statement to one within it,
and what is passed on the way down is derived as the parser reads it. So labels that cannot be read
at such a place are an error of every parser on the way up (`Stmt.AtLabel.stops`), and each label of
a program that is read has such a place (`Program.Derives.labels_at`).
-/

namespace MiniPascal

/-! ## Where labels stand -/

/-- Items that satisfy `R`, a symbol after each, and then something that satisfies `A`. -/
inductive Preceded {α : Type} (sep : Symbol) (R : α → List Token → Prop)
    (A : List Token → Prop) : List Token → Prop
  | here {ts} : A ts → Preceded sep R A ts
  | later {a ts us} : R a ts → Preceded sep R A us → Preceded sep R A (ts ++ .symbol sep :: us)

open MiniPascal.Parser (StatementRead ArmRead)

mutual

/-- What stands between the start of a statement and a label within it. -/
inductive Stmt.AtLabel : List Token → Prop
  | compound {ts} : Preceded .semicolon StatementRead Stmt.AtLabel ts →
      Stmt.AtLabel (.keyword .begin :: ts)
  | thenBranch {cond : Expr} {ts us} : cond.Derives ts → Stmt.AtLabel us →
      Stmt.AtLabel (.keyword .if :: (ts ++ .keyword .then :: us))
  | elseBranch {cond : Expr} {body ts us vs} : cond.Derives ts → StatementRead body us →
      body.endsOpen = false → Stmt.AtLabel vs →
      Stmt.AtLabel (.keyword .if :: (ts ++ .keyword .then :: (us ++ .keyword .else :: vs)))
  | caseOf {subject : Expr} {ts us} : subject.Derives ts →
      Preceded .semicolon ArmRead CaseArm.AtLabel us →
      Stmt.AtLabel (.keyword .case :: (ts ++ .keyword .of :: us))
  | whileDo {cond : Expr} {ts us} : cond.Derives ts → Stmt.AtLabel us →
      Stmt.AtLabel (.keyword .while :: (ts ++ .keyword .do :: us))
  | repeatUntil {ts} : Preceded .semicolon StatementRead Stmt.AtLabel ts →
      Stmt.AtLabel (.keyword .repeat :: ts)
  | forDo {counter} {start finish : Expr} {direction : Direction} {ts us vs} : start.Derives ts →
      finish.Derives us → Stmt.AtLabel vs →
      Stmt.AtLabel (.keyword .for :: .ident counter :: .symbol .assign ::
        (ts ++ direction.token :: (us ++ .keyword .do :: vs)))

/-- What stands between the start of an arm of a case statement and a label of the arm or within its
statement. -/
inductive CaseArm.AtLabel : List Token → Prop
  | label {ts} : Preceded .comma Label.Derives (· = []) ts → CaseArm.AtLabel ts
  | body {labels ts us} : Separated .comma Label.Derives labels ts → Stmt.AtLabel us →
      CaseArm.AtLabel (ts ++ .symbol .colon :: us)

end

/-- What stands between the start of a program and a label within it. -/
def Program.AtLabel : List Token → Prop :=
  Preceded .semicolon StatementRead Stmt.AtLabel

/-! ## Errors of a part -/

namespace Run

variable {σ α β : Type} {p : Run σ α} {f : α → Run σ β} {c d m : σ} {e : Error} {a : α}

/-- A sequence fails where its first part does. -/
theorem bind_stop (h : p c = .stop e d) : (p >>= f) c = .stop e d :=
  bind_eq_stop_iff.2 (.inl h)

/-- A sequence fails where its second part does, after the first. -/
theorem bind_done_stop (h : p c = .done a m) (h' : f a m = .stop e d) :
    (p >>= f) c = .stop e d :=
  bind_eq_stop_iff.2 (.inr ⟨a, m, h, h'⟩)

end Run

namespace Parser

section
variable {α : Type} {c d m : Cursor} {e : Error}

/-- After an expected token a parser fails where it goes on to fail. -/
theorem expect_bind_stop {t : Token} {f : Unit → Parser α} (ht : c.token = t)
    (h : f () c.advance = .stop e d) : (expect t >>= f) c = .stop e d :=
  Run.bind_done_stop (expect_eq_done_iff.2 ⟨ht, rfl⟩) h

/-- Items after a symbol fail where they would fail from the item that comes next. -/
theorem many_stop {R : α → List Token → Prop} {p : Parser α} (hp : Reads p R)
    {next : Parser (Option α)} (hne : c.token ≠ .eof) (hnext : next c = (p c.advance).map some)
    (h : (do let a ← p; let as ← many next; return a :: as : Parser (List α)) c.advance =
      .stop e d) : many next c = .stop e d := by
  rcases Run.bind_eq_stop_iff.1 h with ha | ⟨a, m, ha, h⟩
  · rw [ha] at hnext
    exact many_of_stop hnext
  · rw [ha] at hnext
    obtain ⟨_, hq, -⟩ := hp ha
    have hlt := Nat.lt_of_le_of_lt hq.remaining_le (Cursor.remaining_advance_lt hne)
    rcases Run.bind_eq_stop_iff.1 h with h | ⟨_, _, -, h⟩
    · rw [many_of_some hnext hlt, h, Outcome.map_stop]
    · cases h

/-- A list fails where a later item does. -/
theorem separated_stop_later {R : α → List Token → Prop} {p : Parser α} (hp : Reads p R)
    {sep : Symbol} {a : α} (h : p c = .done a m) (hm : m.token = .symbol sep)
    (hs : separated sep p m.advance = .stop e d) : separated sep p c = .stop e d := by
  refine Run.bind_done_stop h (Run.bind_stop (many_stop hp (by simp [hm]) ?_ hs))
  rw [Run.bind_apply, accept_of_eq hm]
  simp only [if_true, Run.map_apply]

/-- Reads the labels of an arm and the colon after them. -/
def armLabels : Parser Unit := do
  let _ ← separated .comma label
  expect (.symbol .colon)

/-- An arm fails where its labels do. -/
theorem armOf_stop {p : Parser Stmt} (h : armLabels c = .stop e d) : armOf p c = .stop e d := by
  obtain h | ⟨_, m, hs, h⟩ := Run.bind_eq_stop_iff.1 h
  · exact Run.bind_stop h
  · exact Run.bind_done_stop hs (Run.bind_stop h)

/-- The labels of an arm fail where a later one does. -/
theorem armLabels_stop_later {l : Label} (h : label c = .done l m) (hm : m.token = .symbol .comma)
    (hs : armLabels m.advance = .stop e d) : armLabels c = .stop e d := by
  obtain hs | ⟨ls, k, hls, hs⟩ := Run.bind_eq_stop_iff.1 hs
  · exact Run.bind_stop (separated_stop_later label_sound h hm hs)
  · exact Run.bind_done_stop (separated_done_more label_sound h hm hls) hs

/-- After the last label stands a colon. -/
theorem armLabels_stop_colon {l : Label} (h : label c = .done l m)
    (hcomma : m.token ≠ .symbol .comma) (hcolon : m.token ≠ .symbol .colon) :
    armLabels c = .stop (.mismatch (Token.symbol .colon).text m.token.text m.line) m := by
  refine Run.bind_done_stop (separated_done_one h hcomma)
    (Run.bind_done_stop (token_apply _) ?_)
  rw [if_neg hcolon]
  rfl

/-- Arms fail where the first of them does. -/
theorem armsOf_stop_here (hc : c.token ≠ .keyword .end) (h : armOf statement c = .stop e d) :
    armsOf statement c = .stop e d := by
  rw [armsOf, Run.bind_apply, token_apply]
  simp only [if_neg hc]
  exact Run.bind_stop h

/-- Arms fail where a later one does. -/
theorem armsOf_stop_later {a : CaseArm} (hc : c.token ≠ .keyword .end)
    (h : armOf statement c = .done a m) (hm : m.token = .symbol .semicolon)
    (hne : m.advance.token ≠ .keyword .end) (hs : armsOf statement m.advance = .stop e d) :
    armsOf statement c = .stop e d := by
  rw [armsOf, Run.bind_apply, token_apply] at hs ⊢
  simp only [if_neg hc]
  simp only [if_neg hne] at hs
  refine Run.bind_done_stop h (Run.bind_stop
    (many_stop (armOf_sound statement_sound) (by simp [hm]) ?_ hs))
  rw [Run.bind_apply, accept_of_eq hm]
  simp only [if_true, Run.bind_apply, token, if_neg hne, Run.map_apply]

end

end Parser

open MiniPascal.Parser Cursor

section
variable {c d m : Cursor} {e : Error} {ts : List Token}

/-- What comes first among preceded tokens is the first token of an item, or of what the items lead
to. -/
theorem Preceded.ne_of_first {α : Type} {sep : Symbol} {R : α → List Token → Prop}
    {A : List Token → Prop} {t : Token} (h : Preceded sep R A ts) (hp : c.Passes ts m)
    (hR : ∀ {a us} {k : Cursor}, R a us → c.Passes us k → c.token ≠ t)
    (hA : ∀ {us}, A us → c.Passes us m → c.token ≠ t) : c.token ≠ t := by
  cases h with
  | here h => exact hA h hp
  | later h =>
    obtain ⟨_, hp, -⟩ := passes_append_iff.1 hp
    exact hR h hp

/-- Neither a label nor what stands before one begins with an `end`. -/
theorem CaseArm.AtLabel.ne_end (h : CaseArm.AtLabel ts) (hp : c.Passes ts m)
    (hm : m.token ≠ .keyword .end) : c.token ≠ .keyword .end := by
  cases h with
  | label h =>
    refine h.ne_of_first hp (fun h hp => h.ne_end hp) fun h hp => ?_
    subst h
    cases hp
    exact hm
  | body h =>
    obtain ⟨_, hp, -⟩ := passes_append_iff.1 hp
    obtain ⟨_, _, _, hfirst, hp⟩ := h.passes_first hp
    exact hfirst.ne_end hp

/-- Where some labels of an arm cannot be read, all of them cannot. -/
theorem Label.stops_list (h : Preceded .comma Label.Derives (· = []) ts) (hp : c.Passes ts m)
    (hl : armLabels m = .stop e d) : armLabels c = .stop e d := by
  induction h generalizing c with
  | here h =>
    subst h
    cases hp
    exact hl
  | later h _ ih =>
    obtain ⟨k, hp, hk, -, hq⟩ := passes_append_iff.1 hp
    exact armLabels_stop_later (h.reads hp) hk (ih hq)

end

mutual

/-- Where labels within a statement cannot be read, the statement fails as they do. What was passed
on the way to them is read without an error, because the tokens after it end it. -/
theorem Stmt.AtLabel.stops {ts : List Token} : Stmt.AtLabel ts → ∀ {c d m : Cursor} {e : Error},
    c.Passes ts m → m.token ≠ .keyword .end → armLabels m = .stop e d → statement c = .stop e d
  | .compound h, c, d, m, e, ⟨ht, _, hp⟩, hm, hl => by
    rw [statement_eq, statementOf_apply, ht]
    exact Run.bind_stop (Stmt.stops_list h hp hm hl)
  | .thenBranch h h', c, d, m, e, ⟨ht, _, hp⟩, hm, hl => by
    obtain ⟨k, hp, hk, _, hq⟩ := passes_append_iff.1 hp
    have hc := h.reads hp (.of_token hk rfl)
    rw [statement_eq, statementOf_apply, ht]
    refine Run.bind_done_stop hc (expect_bind_stop hk ?_)
    exact Run.bind_stop (h'.stops hq hm hl)
  | .elseBranch h h' hclosed h'', c, d, m, e, ⟨ht, _, hp⟩, hm, hl => by
    obtain ⟨k, hp, hk, _, hq⟩ := passes_append_iff.1 hp
    obtain ⟨j, hq, hj, _, hr⟩ := passes_append_iff.1 hq
    have hc := h.reads hp (.of_token hk rfl)
    have hb := h'.1.reads h'.2 hq (.of_token hj rfl nofun rfl) (by rw [hclosed]; nofun)
    rw [statement_eq, statementOf_apply, ht]
    refine Run.bind_done_stop hc (expect_bind_stop hk ?_)
    refine Run.bind_done_stop hb (Run.bind_done_stop (accept_of_eq hj) ?_)
    exact Run.bind_stop (h''.stops hr hm hl)
  | .caseOf h h', c, d, m, e, ⟨ht, _, hp⟩, hm, hl => by
    obtain ⟨k, hp, hk, _, hq⟩ := passes_append_iff.1 hp
    have hs := h.reads hp (.of_token hk rfl)
    rw [statement_eq, statementOf_apply, ht]
    refine Run.bind_done_stop hs (expect_bind_stop hk ?_)
    exact Run.bind_stop (CaseArm.stops_list h' hq hm hl)
  | .whileDo h h', c, d, m, e, ⟨ht, _, hp⟩, hm, hl => by
    obtain ⟨k, hp, hk, _, hq⟩ := passes_append_iff.1 hp
    have hc := h.reads hp (.of_token hk rfl)
    rw [statement_eq, statementOf_apply, ht]
    refine Run.bind_done_stop hc (expect_bind_stop hk ?_)
    exact Run.bind_stop (h'.stops hq hm hl)
  | .repeatUntil h, c, d, m, e, ⟨ht, _, hp⟩, hm, hl => by
    rw [statement_eq, statementOf_apply, ht]
    exact Run.bind_stop (Stmt.stops_list h hp hm hl)
  | @Stmt.AtLabel.forDo counter _ _ direction _ _ _ h h' h'', c, d, m, e,
      ⟨ht, _, hx, _, ha, _, hp⟩, hm, hl => by
    obtain ⟨k, hp, hk, _, hq⟩ := passes_append_iff.1 hp
    obtain ⟨j, hq, hj, _, hr⟩ := passes_append_iff.1 hq
    have hs := h.reads hp (.of_token hk (by cases direction <;> rfl))
    have hf := h'.reads hq (.of_token hj rfl)
    have hdirection := take?_of_some (Direction.ofToken?_eq_some_iff.2 hk)
    rw [statement_eq, statementOf_apply, ht]
    refine Run.bind_done_stop (ident_eq_done_iff.2 ⟨hx, rfl⟩) (expect_bind_stop ha ?_)
    refine Run.bind_done_stop hs (Run.bind_done_stop hdirection ?_)
    refine Run.bind_done_stop hf (expect_bind_stop hj ?_)
    exact Run.bind_stop (h''.stops hr hm hl)

/-- Where labels within statements cannot be read, the list of statements fails as they do. -/
theorem Stmt.stops_list {ts : List Token} : Preceded .semicolon StatementRead Stmt.AtLabel ts →
    ∀ {c d m : Cursor} {e : Error}, c.Passes ts m → m.token ≠ .keyword .end →
      armLabels m = .stop e d → separated .semicolon statement c = .stop e d
  | .here h, c, d, m, e, hp, hm, hl => Run.bind_stop (h.stops hp hm hl)
  | .later h h', c, d, m, e, hp, hm, hl => by
    obtain ⟨k, hp, hk, _, hq⟩ := passes_append_iff.1 hp
    have hs := h.1.reads h.2 hp (.of_token hk rfl nofun rfl) fun _ => by simp [hk]
    exact separated_stop_later statement_sound hs hk (Stmt.stops_list h' hq hm hl)

/-- Where labels of an arm or within its statement cannot be read, the arm fails as they do. -/
theorem CaseArm.AtLabel.stops {ts : List Token} : CaseArm.AtLabel ts →
    ∀ {c d m : Cursor} {e : Error}, c.Passes ts m → m.token ≠ .keyword .end →
      armLabels m = .stop e d → armOf statement c = .stop e d
  | .label h, c, d, m, e, hp, _, hl => armOf_stop (Label.stops_list h hp hl)
  | .body h h', c, d, m, e, hp, hm, hl => by
    obtain ⟨k, hp, hk, _, hq⟩ := passes_append_iff.1 hp
    have hs := Label.reads_list h hp (by simp [hk])
    refine Run.bind_done_stop hs (expect_bind_stop hk ?_)
    exact Run.bind_stop (h'.stops hq hm hl)

/-- Where labels within arms cannot be read, the list of arms fails as they do. -/
theorem CaseArm.stops_list {ts : List Token} : Preceded .semicolon ArmRead CaseArm.AtLabel ts →
    ∀ {c d m : Cursor} {e : Error}, c.Passes ts m → m.token ≠ .keyword .end →
      armLabels m = .stop e d → armsOf statement c = .stop e d
  | .here h, c, d, m, e, hp, hm, hl => armsOf_stop_here (h.ne_end hp hm) (h.stops hp hm hl)
  | .later h h', c, d, m, e, hp, hm, hl => by
    obtain ⟨k, hp, hk, _, hq⟩ := passes_append_iff.1 hp
    have hs := h.1.reads h.2 hp (.of_token hk rfl nofun rfl) (by simp [hk])
    have hne := h'.ne_of_first hq (fun h hp => h.1.ne_end hp) fun h hp => h.ne_end hp hm
    exact armsOf_stop_later (h.1.ne_end hp) hs hk hne (CaseArm.stops_list h' hq hm hl)

end

/-- Where labels within a program cannot be read, the program fails as they do. -/
theorem Program.AtLabel.stops {ts : List Token} {c d m : Cursor} {e : Error}
    (h : Program.AtLabel ts) (hp : c.Passes ts m) (hm : m.token ≠ .keyword .end)
    (hl : armLabels m = .stop e d) : program c = .stop e d :=
  Run.bind_stop (Stmt.stops_list h hp hm hl)

/-! ## The labels of a tree -/

namespace Node

/-- The labels in a node, in the order of the source. -/
def labels (n : Node) : List Label :=
  n.gather fun m => m.label?.toList

section
variable {n : Node} {l : Label}

/-- The labels in a node are the one that it is and those in its children. -/
theorem mem_labels_iff : l ∈ n.labels ↔ n.label? = some l ∨ ∃ c ∈ n.children, l ∈ c.labels := by
  rw [labels, gather_eq, List.mem_append, List.mem_flatMap, Option.mem_toList]
  rfl

/-- There are no labels in an expression. -/
theorem notMem_labels (hn : n.isOperand = true) : l ∉ n.labels := by
  induction n using induct with
  | step n ih =>
    rw [mem_labels_iff]
    rintro (hl | ⟨c, hc, hl⟩)
    · cases n with
      | label => cases hn
      | _ => cases hl
    · exact ih c hc (isOperand_of_mem_children hn hc) hl

/-- There are no labels in a target. -/
theorem notMem_labels_target {d : Designator} : l ∉ (designator true d).labels := by
  rw [mem_labels_iff]
  rintro (hl | ⟨_, hc, hl⟩)
  · cases hl
  · obtain ⟨s, -, rfl⟩ := List.mem_map.1 hc
    exact notMem_labels rfl hl

/-- The expression in front of other nodes has no label. -/
theorem exists_mem_of_expression {e : Expr} {cs : List Node}
    (h : ∃ c ∈ expression e :: cs, l ∈ c.labels) : ∃ c ∈ cs, l ∈ c.labels := by
  obtain ⟨c, hc, hl⟩ := h
  obtain rfl | hc := List.mem_cons.1 hc
  · exact absurd hl (notMem_labels rfl)
  · exact ⟨c, hc, hl⟩

/-- The labels in a statement are in the parts of its form. -/
theorem exists_mem_children {s : Stmt} (h : l ∈ (statement s).labels) :
    ∃ c ∈ (ofStmt s).children, l ∈ c.labels := by
  obtain hs | ⟨c, hc, h⟩ := mem_labels_iff.1 h
  · cases hs
  obtain rfl := List.mem_singleton.1 hc
  obtain hs | h := mem_labels_iff.1 h
  · cases s <;> cases hs
  · exact h

/-- A label is the only one in itself. -/
theorem mem_of_mem_labels_label {k : Label} (h : l ∈ (label k).labels) : l = k := by
  obtain h | ⟨_, hc, -⟩ := mem_labels_iff.1 h
  · cases h
    rfl
  · cases hc

end

end Node

/-- The labels of a program are those in its statements. -/
theorem Program.labels_eq (p : Program) : p.labels = (Node.statements p.body).labels :=
  List.filterMap_eq_flatMap_toList _ _

/-- Tokens that satisfy `R` come first, and then a comma or a colon. -/
def Labelled (R : List Token → Prop) (ts : List Token) : Prop :=
  ∃ vs t ws, ts = vs ++ t :: ws ∧ (t = .symbol .comma ∨ t = .symbol .colon) ∧ R vs

/-- What is required of the tokens of a label may be weakened. -/
theorem Labelled.mono {R S : List Token → Prop} {ts : List Token} (h : Labelled R ts)
    (hRS : ∀ vs, R vs → S vs) : Labelled S ts := by
  obtain ⟨vs, t, ws, hts, ht, hR⟩ := h
  exact ⟨vs, t, ws, hts, ht, hRS vs hR⟩

/-- The label stands among the tokens, where what is before it satisfies `A`. -/
def Label.StandsIn (l : Label) (A : List Token → Prop) (ts : List Token) : Prop :=
  ∃ us vs, ts = us ++ vs ∧ A us ∧ Labelled l.Derives vs

namespace Label.StandsIn

variable {l : Label} {A B : List Token → Prop} {ts : List Token}

/-- What is required of the tokens before a label may be weakened. -/
theorem mono (h : l.StandsIn A ts) (hAB : ∀ us, A us → B us) : l.StandsIn B ts := by
  obtain ⟨us, vs, hts, hA, hl⟩ := h
  exact ⟨us, vs, hts, hAB us hA, hl⟩

/-- More tokens may stand before the place of a label. -/
theorem after (ps : List Token) (h : l.StandsIn (fun us => A (ps ++ us)) ts) :
    l.StandsIn A (ps ++ ts) := by
  obtain ⟨us, vs, rfl, hA, hl⟩ := h
  exact ⟨ps ++ us, vs, (List.append_assoc ..).symm, hA, hl⟩

/-- More tokens may stand after the place of a label. -/
theorem before (rs : List Token) (h : l.StandsIn A ts) : l.StandsIn A (ts ++ rs) := by
  obtain ⟨us, _, rfl, hA, vs, t, ws, rfl, ht, hl⟩ := h
  exact ⟨us, _, List.append_assoc .., hA, vs, t, ws ++ rs, List.append_assoc .., ht, hl⟩

end Label.StandsIn

/-- Each label of an arm has others before it, and the colon follows the last one. -/
theorem Label.labels_at_list {ls : List Label} {ts : List Token}
    (h : Separated .comma Label.Derives ls ts) {l : Label} (hl : l ∈ ls) (us : List Token) :
    l.StandsIn (Preceded .comma Label.Derives (· = [])) (ts ++ .symbol .colon :: us) := by
  induction h with
  | @one _ ts h =>
    obtain rfl := List.mem_singleton.1 hl
    exact ⟨[], _, rfl, .here rfl, ts, _, us, rfl, .inr rfl, h⟩
  | @more _ _ ts vs h _ ih =>
    rw [List.append_assoc]
    obtain rfl | hl := List.mem_cons.1 hl
    · exact ⟨[], _, rfl, .here rfl, ts, _, vs ++ _, rfl, .inl rfl, h⟩
    · exact .after ts (.after [.symbol .comma] ((ih hl).mono fun _ => .later h))

mutual

/-- In what a statement is derived from, each of its labels has a place. -/
theorem Stmt.Derives.labels_at {s : Stmt} {ts : List Token} {l : Label} : s.Derives ts →
    s.NearestElse → l ∈ (Node.statement s).labels → l.StandsIn Stmt.AtLabel ts
  | .assign h h', _, hl => by
    obtain ⟨_, hc, hl⟩ := Node.exists_mem_children hl
    obtain rfl | hc := List.mem_cons.1 hc
    · exact absurd hl Node.notMem_labels_target
    · obtain rfl := List.mem_singleton.1 hc
      exact absurd hl (Node.notMem_labels rfl)
  | .call _, _, hl => by
    obtain ⟨_, hc, -⟩ := Node.exists_mem_children hl
    cases hc
  | .callWith h, _, hl => by
    obtain ⟨_, hc, hl⟩ := Node.exists_mem_children hl
    obtain ⟨e, -, rfl⟩ := List.mem_map.1 hc
    exact absurd hl (Node.notMem_labels rfl)
  | .memory _ _, _, hl => by
    obtain ⟨_, hc, -⟩ := Node.exists_mem_children hl
    cases hc
  | .empty, _, hl => by
    obtain ⟨_, hc, -⟩ := Node.exists_mem_children hl
    cases hc
  | .compound h, hn, hl => by
    have hat := Stmt.labels_at_list h hn (Node.exists_mem_children hl)
    exact .after [.keyword .begin] (.before _ (hat.mono fun _ => .compound))
  | .ifThen h h', hn, hl => by
    obtain ⟨_, hc, hl⟩ := Node.exists_mem_of_expression (Node.exists_mem_children hl)
    obtain rfl := List.mem_singleton.1 hc
    exact .after [.keyword .if] (.after _ (.after [.keyword .then]
      ((h'.labels_at hn hl).mono fun _ => .thenBranch h)))
  | .ifThenElse h h' h'', ⟨hclosed, hn, hn'⟩, hl => by
    obtain ⟨_, hc, hl⟩ := Node.exists_mem_of_expression (Node.exists_mem_children hl)
    obtain rfl | hc := List.mem_cons.1 hc
    · exact .after [.keyword .if] (.after _ (.after [.keyword .then] (.before _
        ((h'.labels_at hn hl).mono fun _ => .thenBranch h))))
    · obtain rfl := List.mem_singleton.1 hc
      exact .after [.keyword .if] (.after _ (.after [.keyword .then] (.after _
        (.after [.keyword .else]
          ((h''.labels_at hn' hl).mono fun _ => .elseBranch h ⟨h', hn⟩ hclosed)))))
  | .caseOfNone h, _, hl => by
    obtain ⟨_, hc, -⟩ := Node.exists_mem_of_expression (Node.exists_mem_children hl)
    cases hc
  | .caseOf h h' _, hn, hl => by
    have hat := CaseArm.labels_at_list h' hn
      (Node.exists_mem_of_expression (Node.exists_mem_children hl))
    exact .after [.keyword .case] (.after _ (.after [.keyword .of]
      (.before _ (hat.mono fun _ => .caseOf h))))
  | .whileDo h h', hn, hl => by
    obtain ⟨_, hc, hl⟩ := Node.exists_mem_of_expression (Node.exists_mem_children hl)
    obtain rfl := List.mem_singleton.1 hc
    exact .after [.keyword .while] (.after _ (.after [.keyword .do]
      ((h'.labels_at hn hl).mono fun _ => .whileDo h)))
  | .repeatUntil h _, hn, hl => by
    obtain ⟨c, hc, hl⟩ := Node.exists_mem_children hl
    obtain hc | hc := List.mem_append.1 hc
    · have hat := Stmt.labels_at_list h hn ⟨c, hc, hl⟩
      exact .after [.keyword .repeat] (.before _ (hat.mono fun _ => .repeatUntil))
    · obtain rfl := List.mem_singleton.1 hc
      exact absurd hl (Node.notMem_labels rfl)
  | @Stmt.Derives.forDo counter _ direction _ _ _ _ _ h h' h'', hn, hl => by
    obtain ⟨_, hc, hl⟩ := Node.exists_mem_of_expression
      (Node.exists_mem_of_expression (Node.exists_mem_children hl))
    obtain rfl := List.mem_singleton.1 hc
    exact .after [.keyword .for, .ident counter, .symbol .assign] (.after _
      (.after [direction.token] (.after _ (.after [.keyword .do]
        ((h''.labels_at hn hl).mono fun _ => .forDo h h')))))

/-- In what statements are derived from, each of their labels has a place. -/
theorem Stmt.labels_at_list {body : List Stmt} {ts : List Token} {l : Label} :
    Separated .semicolon Stmt.Derives body ts → Stmt.NearestElseList body →
      (∃ c ∈ body.map Node.statement, l ∈ c.labels) →
      l.StandsIn (Preceded .semicolon StatementRead Stmt.AtLabel) ts
  | .one h, ⟨hn, _⟩, ⟨_, hc, hl⟩ => by
    obtain rfl := List.mem_singleton.1 hc
    exact (h.labels_at hn hl).mono fun _ => .here
  | .more h h', ⟨hn, hn'⟩, ⟨c, hc, hl⟩ => by
    obtain rfl | hc := List.mem_cons.1 hc
    · exact .before _ ((h.labels_at hn hl).mono fun _ => .here)
    · have hat := Stmt.labels_at_list h' hn' ⟨c, hc, hl⟩
      exact .after _ (.after [.symbol .semicolon] (hat.mono fun _ => .later ⟨h, hn⟩))

/-- In what an arm is derived from, each of its labels has a place. -/
theorem CaseArm.Derives.labels_at {arm : CaseArm} {ts : List Token} {l : Label} :
    arm.Derives ts → arm.NearestElse → l ∈ (Node.ofArm arm).labels →
      l.StandsIn CaseArm.AtLabel ts
  | .mk h h', hn, hl => by
    obtain hl | ⟨c, hc, hl⟩ := Node.mem_labels_iff.1 hl
    · cases hl
    obtain hc | hc := List.mem_append.1 hc
    · obtain ⟨k, hk, rfl⟩ := List.mem_map.1 hc
      obtain rfl := Node.mem_of_mem_labels_label hl
      exact (Label.labels_at_list h hk _).mono fun _ => .label
    · obtain rfl := List.mem_singleton.1 hc
      exact .after _ (.after [.symbol .colon] ((h'.labels_at hn hl).mono fun _ => .body h))

/-- In what arms are derived from, each of their labels has a place. -/
theorem CaseArm.labels_at_list {arms : List CaseArm} {ts : List Token} {l : Label} :
    Separated .semicolon CaseArm.Derives arms ts → CaseArm.NearestElseList arms →
      (∃ c ∈ arms.map Node.ofArm, l ∈ c.labels) →
      l.StandsIn (Preceded .semicolon ArmRead CaseArm.AtLabel) ts
  | .one h, ⟨hn, _⟩, ⟨_, hc, hl⟩ => by
    obtain rfl := List.mem_singleton.1 hc
    exact (h.labels_at hn hl).mono fun _ => .here
  | .more h h', ⟨hn, hn'⟩, ⟨c, hc, hl⟩ => by
    obtain rfl | hc := List.mem_cons.1 hc
    · exact .before _ ((h.labels_at hn hl).mono fun _ => .here)
    · have hat := CaseArm.labels_at_list h' hn' ⟨c, hc, hl⟩
      exact .after _ (.after [.symbol .semicolon] (hat.mono fun _ => .later ⟨h, hn⟩))

end

/-- In what a program is derived from, each of its labels has a place. -/
theorem Program.Derives.labels_at {p : Program} {ts : List Token} {l : Label} (h : p.Derives ts)
    (hn : p.NearestElse) (hl : l ∈ p.labels) : l.StandsIn Program.AtLabel ts := by
  rw [Program.labels_eq] at hl
  obtain hl | hl := Node.mem_labels_iff.1 hl
  · cases hl
  cases h with
  | plain h => exact Stmt.labels_at_list h hn hl
  | dotted h => exact .before _ (Stmt.labels_at_list h hn hl)

/-! ## The forms of labels -/

/-- The token is a word that is a label by itself. -/
def Token.isLabelWord : Token → Bool
  | .keyword .true | .keyword .false | .keyword .nil | .ident _ => true
  | _ => false

/-- The forms of a label in which a sign belongs to a number: a number with a sign or without one,
or a word. -/
inductive Label.Regular : List Token → Prop
  | number (n) : Label.Regular [.number n]
  | signed (sign : Sign) (n) : Label.Regular [sign.token, .number n]
  | word {t : Token} : t.isLabelWord = true → Label.Regular [t]

/-- A word after a plus sign. -/
inductive Label.PlusWord : List Token → Prop
  | mk {t : Token} : t.isLabelWord = true → Label.PlusWord [.symbol .plus, t]

/-- No regular label has a word after a sign. -/
theorem Label.PlusWord.not_regular {ts : List Token} (h : PlusWord ts) : ¬Regular ts := by
  intro hr
  obtain @⟨t, hw⟩ := h
  generalize hts : [Token.symbol .plus, t] = ts at hr
  cases hr with
  | number | word => cases hts
  | signed sign n =>
    simp only [List.cons.injEq, and_true] at hts
    rw [hts.2] at hw
    cases hw

/-- A derived label is regular, or it is a word after a plus sign. -/
theorem Label.Derives.form {l : Label} {ts : List Token} (h : l.Derives ts) :
    Label.Regular ts ∨ Label.PlusWord ts := by
  cases h with
  | number n => exact .inl (.number n)
  | negative n => exact .inl (.signed .minus n)
  | true | false | nil | ident => exact .inl (.word rfl)
  | plus h =>
    cases h with
    | number n => exact .inl (.signed .plus n)
    | true | false | nil | ident => exact .inr (.mk rfl)

/-- After a sign, what is no number is no label, except for a word after a plus sign. -/
theorem Parser.label_stop {c : Cursor} {sign : Sign} (hs : c.token = sign.token)
    (hn : ∀ n, c.advance.token ≠ .number n)
    (hw : sign = .plus → c.advance.token.isLabelWord = false) :
    label c = .stop (.mismatch "constant" c.advance.token.text c.advance.line) c.advance := by
  refine Run.bind_done_stop (take?_of_some (Sign.ofToken?_eq_some_iff.2 hs))
    (Run.bind_done_stop (token_apply _) ?_)
  -- only a number, or a word after a plus sign, keeps the parser from this error
  change _ = Parser.mismatch "constant" c.advance
  generalize c.advance.token = t at hn hw
  cases t with
  | number n => exact absurd rfl (hn n)
  | ident name =>
    cases sign with
    | minus => rfl
    | plus => cases hw rfl
  | keyword k =>
    cases sign with
    | minus => rfl
    | plus => cases k <;> first | rfl | cases hw rfl
  | symbol | eof => cases sign <;> rfl

/-- Where labels can be read, one comes first. -/
theorem Parser.labelled_of_armLabels {c : Cursor} (h : ∀ e d, armLabels c ≠ .stop e d) :
    Labelled (fun vs => Label.Regular vs ∨ Label.PlusWord vs) (c.rest.map Lexeme.token) := by
  cases hl : label c with
  | stop e d => exact absurd (Run.bind_stop (Run.bind_stop hl)) (h e d)
  | done l d =>
    have hd : d.token = .symbol .comma ∨ d.token = .symbol .colon := by
      by_contra hd
      rw [not_or] at hd
      exact h _ _ (armLabels_stop_colon hl hd.1 hd.2)
    obtain ⟨vs, hp, hderives⟩ := label_sound hl
    have hne : d.token ≠ .eof := by
      intro he
      simp [he] at hd
    obtain ⟨k, ks, n, rfl⟩ := exists_cons_of_token_ne hne
    obtain ⟨hrest, htake⟩ := hp.rest
    refine ⟨vs, k.token, ks.map Lexeme.token, ?_, hd, hderives.form⟩
    rw [← List.take_append_drop vs.length c.rest, ← hrest, List.map_append, htake]
    rfl

/-! ## Source text -/

section
variable {source : String} {ls : List Lexeme} {n : Nat}

/-- A text is not read if its tokens are not. -/
theorem Program.parse_of_stop {e : Error} {d : Cursor} (h : scan 1 source = .done ls n)
    (hs : program (.ofLexemes ls) = .stop e d) : Program.parse source = .error e := by
  rw [Program.parse, h]
  exact congrArg Outcome.toExcept hs

/-- The lexemes of a scan are passed as far as each of them. -/
theorem passes_of_scan {ks ms : List Lexeme} {l : Lexeme}
    (h : scan 1 source = .done (ks ++ l :: ms) n) :
    ∃ k, (Cursor.ofLexemes (ks ++ l :: ms)).Passes (ks.map Lexeme.token) (.before (l :: ms) k) := by
  obtain ⟨ts, hts, hl⟩ := scanFrom_isLexical h
  refine ⟨_, passes_before (l :: ms) _ fun k hk he => Token.AllLexical.eof_notMem hl ?_⟩
  have hts := congrArg List.dropLast hts
  rw [List.dropLast_concat, List.map_append, List.dropLast_append_of_ne_nil (by simp)] at hts
  rw [← hts, List.mem_append, ← he]
  exact .inl (List.mem_map_of_mem hk)

/-- Each label of a program that is read stands at a place for labels, and at each such place there
is a label or an `end`. A label is a number with a sign or without one, or a word; or it is a word
after a plus sign. Where neither a number nor such a word follows the sign of a label, the reading
stops at what follows. -/
theorem Program.parse_labels (h : scan 1 source = .done ls n) :
    (∀ p, Program.parse source = .ok p →
      (∀ l ∈ p.labels, ∃ us ts, ls.map Lexeme.token = us ++ ts ∧ Program.AtLabel us ∧
        Labelled (fun vs => l.Derives vs ∧ (Label.Regular vs ∨ Label.PlusWord vs)) ts) ∧
      ∀ us t ts, ls.map Lexeme.token = us ++ t :: ts → Program.AtLabel us → t ≠ .keyword .end →
        Labelled (fun vs => Label.Regular vs ∨ Label.PlusWord vs) (t :: ts)) ∧
    ∀ ks ms l l' sign, ls = ks ++ l :: l' :: ms → Program.AtLabel (ks.map Lexeme.token) →
      l.token = Sign.token sign → (∀ k, l'.token ≠ .number k) →
      (sign = .plus → l'.token.isLabelWord = false) →
      Program.parse source = .error (.mismatch "constant" l'.token.text l'.line) := by
  constructor
  · intro p hp
    constructor
    · intro l hl
      obtain ⟨ls', n', ts, hs, hts, -, hd, hn⟩ := Program.parse_eq_ok_iff.1 hp
      cases h.symm.trans hs
      rw [hts]
      obtain ⟨us, vs, hstands, hat, hvs⟩ := (hd.labels_at hn hl).before [.eof]
      exact ⟨us, vs, hstands, hat, hvs.mono fun _ hd => ⟨hd, hd.form⟩⟩
    · intro us t ts hts hat hne
      obtain ⟨ks, ms, rfl, rfl, hms⟩ := List.map_eq_append_iff.1 hts
      obtain ⟨l, ms, rfl, rfl, rfl⟩ := List.map_eq_cons_iff.1 hms
      obtain ⟨k, hpass⟩ := passes_of_scan h
      -- an error there would be the error of the whole program
      have hread (e d) : armLabels (.before (l :: ms) k) ≠ .stop e d := fun hs => by
        cases hp.symm.trans (Program.parse_of_stop h (hat.stops hpass hne hs))
      exact labelled_of_armLabels hread
  · rintro ks ms l l' sign rfl hat hsign hnumber hword
    obtain ⟨k, hpass⟩ := passes_of_scan h
    have hne : l.token ≠ .keyword .end := by
      rw [hsign]
      cases sign <;> nofun
    have hlabel := label_stop (c := .before (l :: l' :: ms) k) hsign hnumber hword
    exact Program.parse_of_stop h (hat.stops hpass hne (Run.bind_stop (Run.bind_stop hlabel)))

end

/-- In a case statement within another, a sign is read before a number and not before a name. -/
theorem Program.parse_labels_nested :
    let name (x : String) : Expr := (Factor.ident x).toExpr
    let good := "case x of 1, +nil: case y of -2: end end"
    let p : Program := ⟨[.caseOf (name "x") [⟨[.number 1, .nil],
      .caseOf (name "y") [⟨[.number (-2)], .empty⟩]⟩]]⟩
    let bad := "case x of 1: case y of +2, -z: end end"
    (∃ ls n, scan 1 good = .done ls n ∧ Program.parse good = .ok p ∧
      ∀ l ∈ p.labels, ∃ us ts, ls.map Lexeme.token = us ++ ts ∧ Program.AtLabel us ∧
        Labelled (fun vs => l.Derives vs ∧ (Label.Regular vs ∨ Label.PlusWord vs)) ts) ∧
      (∃ ls n, scan 1 bad = .done ls n) ∧
      Program.parse bad = .error (.mismatch "constant" (Token.ident "z").text 1) := by
  intro name good p bad
  have hname (x : String) : (name x).Derives [.ident x] :=
    .simple (.unsigned (.mk (.ident x) .nil) .nil)
  have hgood : scan 1 good = .done ([.keyword .case, .ident "x", .keyword .of, .number 1,
      .symbol .comma, .symbol .plus, .keyword .nil, .symbol .colon, .keyword .case, .ident "y",
      .keyword .of, .symbol .minus, .number 2, .symbol .colon, .keyword .end, .keyword .end,
      .eof].map fun t => ⟨t, 1⟩) 1 := by decide +kernel
  let before : List Token := [.keyword .case, .ident "x", .keyword .of, .number 1, .symbol .colon,
    .keyword .case, .ident "y", .keyword .of, .symbol .plus, .number 2, .symbol .comma]
  have hinner := Stmt.AtLabel.caseOf (hname "y")
    (.here (.label (.later (.plus (.number 2)) (.here rfl))))
  have hat : Program.AtLabel before :=
    .here (.caseOf (hname "x") (.here (.body (.one (.number 1)) hinner)))
  have hbad : scan 1 bad = .done (before.map (fun t => ⟨t, 1⟩) ++ ⟨.symbol .minus, 1⟩ ::
      ⟨.ident "z", 1⟩ :: [⟨.symbol .colon, 1⟩, ⟨.keyword .end, 1⟩, ⟨.keyword .end, 1⟩,
      ⟨.eof, 1⟩]) 1 := by decide +kernel
  have hp : Program.parse good = .ok p := by decide +kernel
  have herror := (Program.parse_labels hbad).2 _ _ _ _ .minus rfl hat rfl nofun nofun
  exact ⟨⟨_, _, hgood, hp, ((Program.parse_labels hgood).1 p hp).1⟩, ⟨_, _, hbad⟩, herror⟩

/-- A word after a plus sign is read as a label. -/
theorem Program.parse_plus_word :
    let source := "case x of +true: end"
    let place : List Token := [.keyword .case, .ident "x", .keyword .of]
    let label : List Token := [.symbol .plus, .keyword .true]
    let p : Program := ⟨[.caseOf (Factor.ident "x").toExpr [⟨[.bool true], .empty⟩]]⟩
    Program.parse source = .ok p ∧ Program.AtLabel place ∧ ¬Label.Regular label ∧
      ∃ ls n, scan 1 source = .done ls n ∧ ls.map Lexeme.token =
        place ++ (label ++ [.symbol .colon, .keyword .end, .eof]) := by
  intro source place label p
  have hname : (Factor.ident "x").toExpr.Derives [.ident "x"] :=
    .simple (.unsigned (.mk (.ident "x") .nil) .nil)
  let rest : List Token := [.symbol .colon, .keyword .end, .eof]
  have hscan : scan 1 source = .done ((place ++ (label ++ rest)).map fun t => ⟨t, 1⟩) 1 := by
    decide +kernel
  refine ⟨by decide +kernel, .here (.caseOf hname (.here (.label (.here rfl)))),
    Label.PlusWord.not_regular (.mk rfl), _, _, hscan, rfl⟩

end MiniPascal
