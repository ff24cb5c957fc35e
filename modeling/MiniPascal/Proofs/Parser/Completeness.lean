import MiniPascal.Proofs.Parser.Recursion
import MiniPascal.Proofs.Parser.Soundness

/-!
# The parsers read all that the grammar derives

If a tree derives the tokens between two cursors, its parser goes from the one to the other and
returns that tree, provided that what stands at the second cursor does not go on with the tree. The
conditions are weakest for a factor and grow with each layer (`Cursor.EndsFactor` to
`Cursor.EndsExpression`); after a statement that ends in an `if` without `else` there must stand no
`else`.

Each derivation rule is matched by a rule for the parser, and the theorems follow the derivation.
-/

namespace MiniPascal

/-! ## Where trees end -/

/-- The token goes on with no expression, whatever follows it. -/
def Token.closes (t : Token) : Bool :=
  t != .symbol .dot && t != .symbol .leftBracket && t != .symbol .caret && t != .symbol .leftParen
    && (MulOp.ofToken? t).isNone && (AddOp.ofToken? t).isNone && (RelOp.ofToken? t).isNone

/-- The token begins a factor. -/
def Token.startsFactor : Token → Bool
  | .ident _ | .number _ | .keyword .true | .keyword .false | .keyword .nil | .symbol .leftParen
  | .keyword .not => true
  | _ => false

/-- The token begins a statement that is not empty. -/
def Token.startsStatement : Token → Bool
  | .ident _ | .keyword .begin | .keyword .if | .keyword .case | .keyword .while
  | .keyword .repeat | .keyword .for | .keyword .new | .keyword .dispose => true
  | _ => false

namespace Cursor

/-- No access step stands at the cursor. -/
structure NoSelector (c : Cursor) : Prop where
  leftBracket : c.token ≠ .symbol .leftBracket
  caret : c.token ≠ .symbol .caret
  dot : c.token = .symbol .dot → ∀ name, c.advance.token ≠ .ident name

/-- What stands at the cursor does not go on with a factor. -/
structure EndsFactor (c : Cursor) : Prop extends NoSelector c where
  leftParen : c.token ≠ .symbol .leftParen

/-- What stands at the cursor does not go on with a term. -/
structure EndsTerm (c : Cursor) : Prop extends EndsFactor c where
  mulOp : MulOp.ofToken? c.token = none

/-- What stands at the cursor does not go on with a simple expression. -/
structure EndsSimple (c : Cursor) : Prop extends EndsTerm c where
  addOp : AddOp.ofToken? c.token = none

/-- What stands at the cursor does not go on with an expression. -/
structure EndsExpression (c : Cursor) : Prop extends EndsSimple c where
  relOp : RelOp.ofToken? c.token = none

/-- What stands at the cursor neither goes on with a statement nor begins one. -/
structure EndsStatement (c : Cursor) : Prop extends EndsExpression c where
  assign : c.token ≠ .symbol .assign
  start : c.token.startsStatement = false

section
variable {c : Cursor} {t : Token}

/-- A token that begins no access step. -/
theorem NoSelector.of_token (h : c.token = t) (hd : t ≠ .symbol .dot)
    (hb : t ≠ .symbol .leftBracket) (hc : t ≠ .symbol .caret) : c.NoSelector where
  leftBracket := h ▸ hb
  caret := h ▸ hc
  dot hdot := absurd (h.symm.trans hdot) hd

/-- A token that begins neither an access step nor a list of arguments. -/
theorem EndsFactor.of_token (h : c.token = t) (hd : t ≠ .symbol .dot)
    (hb : t ≠ .symbol .leftBracket) (hc : t ≠ .symbol .caret) (hp : t ≠ .symbol .leftParen) :
    c.EndsFactor where
  toNoSelector := .of_token h hd hb hc
  leftParen := h ▸ hp

/-- A factor ends before a multiplication sign or one of its kind. -/
theorem EndsFactor.of_mulOp {op : MulOp} (h : c.token = op.token) : c.EndsFactor := by
  cases op <;> exact .of_token h nofun nofun nofun nofun

/-- A term ends before a plus sign or one of its kind. -/
theorem EndsTerm.of_addOp {op : AddOp} (h : c.token = op.token) : c.EndsTerm where
  toEndsFactor := by cases op <;> exact .of_token h nofun nofun nofun nofun
  mulOp := by rw [h]; cases op <;> rfl

/-- A simple expression ends before a relation sign. -/
theorem EndsSimple.of_relOp {op : RelOp} (h : c.token = op.token) : c.EndsSimple where
  toEndsFactor := by cases op <;> exact .of_token h nofun nofun nofun nofun
  mulOp := by rw [h]; cases op <;> rfl
  addOp := by rw [h]; cases op <;> rfl

/-- An expression ends before a token that goes on with none. -/
theorem EndsExpression.of_token (h : c.token = t) (ht : t.closes = true) : c.EndsExpression := by
  subst h
  simp only [Token.closes, Bool.and_eq_true, bne_iff_ne, Option.isNone_iff_eq_none] at ht
  obtain ⟨⟨⟨⟨⟨⟨hd, hb⟩, hc⟩, hp⟩, hm⟩, ha⟩, hr⟩ := ht
  exact { EndsFactor.of_token rfl hd hb hc hp with mulOp := hm, addOp := ha, relOp := hr }

/-- A statement ends before a token that goes on with no expression, begins no statement and does
not assign. -/
theorem EndsStatement.of_token (h : c.token = t) (ht : t.closes = true)
    (ha : t ≠ .symbol .assign) (hs : t.startsStatement = false) : c.EndsStatement where
  toEndsExpression := .of_token h ht
  assign := h ▸ ha
  start := h ▸ hs

/-- A dot before the end of input goes on with nothing. -/
theorem EndsStatement.of_lastDot (h : c.token = .symbol .dot) (he : c.advance.token = .eof) :
    c.EndsStatement where
  leftBracket := by rw [h]; nofun
  caret := by rw [h]; nofun
  dot _ name := by rw [he]; nofun
  leftParen := by rw [h]; nofun
  mulOp := by rw [h]; rfl
  addOp := by rw [h]; rfl
  relOp := by rw [h]; rfl
  assign := by rw [h]; nofun
  start := by rw [h]; rfl

/-- Between the first factor of a term and the others stands an operator, if there are others. -/
theorem EndsFactor.of_operands {R : Factor → List Token → Prop} {rest : List (MulOp × Factor)}
    {ts : List Token} {d : Cursor} (h : Operands MulOp.token R rest ts) (hp : c.Passes ts d)
    (hd : d.EndsTerm) : c.EndsFactor := by
  cases h with
  | nil =>
    cases hp
    exact hd.toEndsFactor
  | cons => exact .of_mulOp hp.1

/-- Between the first term of a simple expression and the others stands an operator, if there are
others. -/
theorem EndsTerm.of_operands {R : Term → List Token → Prop} {rest : List (AddOp × Term)}
    {ts : List Token} {d : Cursor} (h : Operands AddOp.token R rest ts) (hp : c.Passes ts d)
    (hd : d.EndsSimple) : c.EndsTerm := by
  cases h with
  | nil =>
    cases hp
    exact hd.toEndsTerm
  | cons => exact .of_addOp hp.1

end

end Cursor

namespace Parser

/-! ## Rules for repetitions -/

section
variable {α β : Type} {c d m : Cursor}

/-- One more round of a repetition that ends well. -/
theorem many_done_cons {next : Parser (Option α)} {a : α} {as : List α}
    (h : next c = .done (some a) m) (hlt : m.remaining < c.remaining)
    (hs : many next m = .done as d) : many next c = .done (a :: as) d := by
  rw [many_of_some h hlt, hs, Outcome.map_done]

/-- No operands are read where no operator stands. -/
theorem operands_done_nil {op? : Token → Option β} {p : Parser α} (h : op? c.token = none) :
    operands op? p c = .done [] c := by
  refine many_of_none ?_
  rw [Run.bind_apply, take?_of_none h]
  rfl

/-- One more operator and its operand before the others. -/
theorem operands_done_cons {op? : Token → Option β} {p : Parser α} {op : β} {a : α}
    {rest : List (β × α)} (ho : op? c.token = some op) (h : p c.advance = .done a m)
    (hlt : m.remaining < c.remaining) (hs : operands op? p m = .done rest d) :
    operands op? p c = .done ((op, a) :: rest) d := by
  refine many_done_cons ?_ hlt hs
  rw [Run.bind_apply, take?_of_some ho]
  simp only [Run.bind_apply, h]
  rfl

/-- A list of one item ends where no separator stands. -/
theorem separated_done_one {p : Parser α} {sep : Symbol} {a : α} (h : p c = .done a d)
    (hd : d.token ≠ .symbol sep) : separated sep p c = .done [a] d := by
  have hm : many (do if ← accept (.symbol sep) then some <$> p else return none) d =
      .done [] d := by
    refine many_of_none ?_
    rw [Run.bind_apply, accept_of_ne hd]
    rfl
  rw [separated, Run.bind_apply, h]
  simp only [Run.bind_apply, hm]
  rfl

/-- A list goes on after a separator; since the item has used up lexemes, the rounds of the list
never get stuck. -/
theorem separated_done_more {R : α → List Token → Prop} {p : Parser α} (hp : Reads p R)
    {sep : Symbol} {a : α} {as : List α} (h : p c = .done a m) (hm : m.token = .symbol sep)
    (hs : separated sep p m.advance = .done as d) : separated sep p c = .done (a :: as) d := by
  simp only [separated, Run.bind_eq_done_iff, pure_eq_done_iff] at hs ⊢
  obtain ⟨b, k, hb, bs, _, hbs, rfl, rfl⟩ := hs
  refine ⟨a, m, h, b :: bs, _, many_done_cons (m := k) ?_ ?_ hbs, rfl, rfl⟩
  · rw [Run.bind_apply, accept_of_eq hm]
    simp only [if_true, Run.map_apply, hb, Outcome.map_done]
  · obtain ⟨_, hq, -⟩ := hp hb
    have hne : m.token ≠ .eof := by simp [hm]
    exact Nat.lt_of_le_of_lt hq.remaining_le (Cursor.remaining_advance_lt hne)

/-- There are no arms before `end`. -/
theorem armsOf_done_nil (h : c.token = .keyword .end) : armsOf statement c = .done [] c := by
  rw [armsOf, Run.bind_apply, token_apply]
  simp only [if_pos h]
  rfl

/-- The last arm may have a semicolon after it. -/
theorem armsOf_done_one {last : List Token} {a : CaseArm}
    (hc : c.token ≠ .keyword .end) (h : armOf statement c = .done a m) (hm : m.Passes last d)
    (hlast : last = [] ∨ last = [.symbol .semicolon]) (hd : d.token = .keyword .end) :
    armsOf statement c = .done [a] d := by
  simp only [armsOf, Run.bind_eq_done_iff, token_eq_done_iff]
  refine ⟨_, _, ⟨rfl, rfl⟩, ?_⟩
  simp only [if_neg hc, Run.bind_eq_done_iff]
  refine ⟨a, m, h, [], d, many_of_none ?_, rfl⟩
  rcases hlast with rfl | rfl
  · cases hm
    rw [Run.bind_apply, accept_of_ne (by simp [hd])]
    rfl
  · obtain ⟨ht, -, hm⟩ := hm
    cases hm
    rw [Run.bind_apply, accept_of_eq ht]
    simp only [if_true, Run.bind_apply, token, if_pos hd]
    rfl

/-- One more arm and a semicolon before the other arms. -/
theorem armsOf_done_more {a : CaseArm} {as : List CaseArm} (hc : c.token ≠ .keyword .end)
    (h : armOf statement c = .done a m) (hm : m.token = .symbol .semicolon)
    (hs : armsOf statement m.advance = .done as d) (hne : m.advance.token ≠ .keyword .end) :
    armsOf statement c = .done (a :: as) d := by
  simp only [armsOf, Run.bind_eq_done_iff, token_eq_done_iff] at hs ⊢
  obtain ⟨_, _, ⟨rfl, rfl⟩, hs⟩ := hs
  simp only [if_neg hne, Run.bind_eq_done_iff, pure_eq_done_iff] at hs
  obtain ⟨b, k, hb, bs, _, hbs, rfl, rfl⟩ := hs
  refine ⟨_, _, ⟨rfl, rfl⟩, ?_⟩
  simp only [if_neg hc, Run.bind_eq_done_iff, pure_eq_done_iff]
  refine ⟨a, m, h, b :: bs, _, many_done_cons (m := k) ?_ ?_ hbs, rfl, rfl⟩
  · rw [Run.bind_apply, accept_of_eq hm]
    simp only [if_true, Run.bind_apply, token, if_neg hne]
    rw [Run.map_apply, hb]
    rfl
  · obtain ⟨_, hq, -⟩ := armOf_sound statement_sound hb
    have hne : m.token ≠ .eof := by simp [hm]
    exact Nat.lt_of_le_of_lt hq.remaining_le (Cursor.remaining_advance_lt hne)

end

/-! ## Single cursors -/

section
variable {c d : Cursor}

/-- The empty statement is read where no statement begins. -/
theorem statement_empty (h : c.token.startsStatement = false) : statement c = .done .empty c := by
  rw [statement_eq, statementOf_apply]
  generalize c.token = t at h
  cases t with
  | ident => cases h
  | keyword k => cases k <;> first | rfl | cases h
  | number | symbol | eof => rfl

/-- No access step is read where none begins. -/
theorem selectorOf?_none {p : Parser Expr} (h : c.NoSelector) :
    selectorOf? p c = .done none c := by
  simp only [selectorOf?, Run.bind_apply token, token]
  cases ht : c.token with
  | symbol s =>
    cases s with
    | dot =>
      simp only [Run.bind_apply nextToken, nextToken]
      cases hn : c.advance.token with
      | ident name => exact absurd hn (h.dot ht name)
      | number | keyword | symbol | eof => rfl
    | leftBracket => exact absurd ht h.leftBracket
    | caret => exact absurd ht h.caret
    | _ => rfl
  | ident | number | keyword | eof => rfl

end

/-! ## Rules for what a name begins -/

section
variable {c d m : Cursor} {name : String}

/-- A name with arguments is a function call. -/
theorem namedOf_call {p : Parser Expr} {args : List Expr} (hl : c.token = .symbol .leftParen)
    (h : argumentsOf p c = .done args d) : namedOf p name c = .done (.call name args) d := by
  simp only [namedOf, Run.bind_eq_done_iff]
  refine ⟨_, _, rfl, ?_⟩
  rw [if_pos hl, Run.bind_apply, h]
  rfl

/-- A name without arguments is a designator, or a plain name if there are no access steps. -/
theorem namedOf_selectors {p : Parser Expr} {ss : List Selector}
    (hl : c.token ≠ .symbol .leftParen) (h : many (selectorOf? p) c = .done ss d) :
    namedOf p name c =
      .done (if ss.isEmpty then .ident name else .designator ⟨name, ss⟩) d := by
  simp only [namedOf, Run.bind_eq_done_iff]
  refine ⟨_, _, rfl, ?_⟩
  rw [if_neg hl, Run.bind_apply, h]
  rfl

/-- A name, its access steps and the sign of an assignment begin an assignment. -/
theorem namedStatement_assign {ss : List Selector} {value : Expr}
    (hs : many (selectorOf? expression) c = .done ss m) (ha : m.token = .symbol .assign)
    (hv : expression m.advance = .done value d) :
    namedStatement name c = .done (.assign ⟨name, ss⟩ value) d := by
  simp only [namedStatement, Run.bind_eq_done_iff]
  refine ⟨_, m, hs, _, _, rfl, ?_⟩
  rw [if_pos (by simp [ha])]
  simp only [Run.bind_eq_done_iff]
  exact ⟨(), _, expect_eq_done_iff.2 ⟨ha, rfl⟩, _, d, hv, rfl⟩

/-- A name with nothing after it is a procedure call. -/
theorem namedStatement_call (hc : c.NoSelector) (ha : c.token ≠ .symbol .assign)
    (hl : c.token ≠ .symbol .leftParen) : namedStatement name c = .done (.call name []) c := by
  have hs := many_of_none (selectorOf?_none (p := expression) hc)
  simp only [namedStatement, Run.bind_eq_done_iff]
  refine ⟨_, _, hs, _, _, rfl, ?_⟩
  rw [if_neg (by simpa using ha)]
  simp only [Run.bind_eq_done_iff]
  refine ⟨_, _, rfl, ?_⟩
  rw [if_neg hl]
  rfl

/-- A name with arguments is a procedure call with these. -/
theorem namedStatement_callWith {args : List Expr} (hl : c.token = .symbol .leftParen)
    (h : argumentsOf expression c = .done args d) :
    namedStatement name c = .done (.call name args) d := by
  have hs := many_of_none
    (selectorOf?_none (p := expression) (.of_token hl nofun nofun nofun))
  simp only [namedStatement, Run.bind_eq_done_iff]
  refine ⟨_, _, hs, _, _, rfl, ?_⟩
  rw [if_neg (by simp [hl])]
  simp only [Run.bind_eq_done_iff]
  refine ⟨_, _, rfl, ?_⟩
  rw [if_pos hl]
  simp only [Run.bind_eq_done_iff]
  exact ⟨_, d, h, rfl⟩

end

/-! ## Rules for what a keyword begins -/

section
variable {c d k m : Cursor} {p : Parser Stmt}

/-- A compound statement is read as far as its `end`. -/
theorem compoundOf_done {body : List Stmt} (hb : separated .semicolon p c = .done body m)
    (he : m.token = .keyword .end) : compoundOf p c = .done (.compound body) m.advance := by
  simp only [compoundOf, Run.bind_eq_done_iff]
  exact ⟨_, m, hb, (), _, expect_eq_done_iff.2 ⟨he, rfl⟩, rfl⟩

/-- An `if` is read without an `else` where none stands after the branch. -/
theorem conditionalOf_then {cond : Expr} {body : Stmt} (hc : expression c = .done cond m)
    (hm : m.token = .keyword .then) (hb : p m.advance = .done body d)
    (hd : d.token ≠ .keyword .else) : conditionalOf p c = .done (.ifThen cond body) d := by
  simp only [conditionalOf, Run.bind_eq_done_iff]
  exact ⟨_, m, hc, (), _, expect_eq_done_iff.2 ⟨hm, rfl⟩, _, d, hb, false, d, accept_of_ne hd, rfl⟩

/-- An `if` takes the `else` that stands after its branch. -/
theorem conditionalOf_else {cond : Expr} {body other : Stmt} (hc : expression c = .done cond m)
    (hm : m.token = .keyword .then) (hb : p m.advance = .done body k)
    (hk : k.token = .keyword .else) (ho : p k.advance = .done other d) :
    conditionalOf p c = .done (.ifThenElse cond body other) d := by
  simp only [conditionalOf, Run.bind_eq_done_iff]
  refine ⟨_, m, hc, (), _, expect_eq_done_iff.2 ⟨hm, rfl⟩, _, k, hb, true, _, accept_of_eq hk, ?_⟩
  simp only [if_true, Run.bind_eq_done_iff]
  exact ⟨_, d, ho, rfl⟩

/-- A case statement is read as far as its `end`. -/
theorem caseOf_done {subject : Expr} {arms : List CaseArm}
    (hs : expression c = .done subject m) (hm : m.token = .keyword .of)
    (ha : armsOf p m.advance = .done arms k) (hk : k.token = .keyword .end) :
    caseOf p c = .done (.caseOf subject arms) k.advance := by
  simp only [caseOf, Run.bind_eq_done_iff]
  exact ⟨_, m, hs, (), _, expect_eq_done_iff.2 ⟨hm, rfl⟩, _, k, ha, (), _,
    expect_eq_done_iff.2 ⟨hk, rfl⟩, rfl⟩

/-- A `while` loop is read as far as its body goes. -/
theorem whileOf_done {cond : Expr} {body : Stmt} (hc : expression c = .done cond m)
    (hm : m.token = .keyword .do) (hb : p m.advance = .done body d) :
    whileOf p c = .done (.whileDo cond body) d := by
  simp only [whileOf, Run.bind_eq_done_iff]
  exact ⟨_, m, hc, (), _, expect_eq_done_iff.2 ⟨hm, rfl⟩, _, d, hb, rfl⟩

/-- A `repeat` loop is read as far as its condition goes. -/
theorem repeatOf_done {body : List Stmt} {cond : Expr}
    (hb : separated .semicolon p c = .done body m) (hm : m.token = .keyword .until)
    (hc : expression m.advance = .done cond d) :
    repeatOf p c = .done (.repeatUntil body cond) d := by
  simp only [repeatOf, Run.bind_eq_done_iff]
  exact ⟨_, m, hb, (), _, expect_eq_done_iff.2 ⟨hm, rfl⟩, _, d, hc, rfl⟩

/-- A `for` loop is read as far as its body goes. -/
theorem forOf_done {counter : String} {start finish : Expr} {direction : Direction} {body : Stmt}
    (hx : c.token = .ident counter) (ha : c.advance.token = .symbol .assign)
    (hs : expression c.advance.advance = .done start m) (hm : m.token = direction.token)
    (hf : expression m.advance = .done finish k) (hk : k.token = .keyword .do)
    (hb : p k.advance = .done body d) :
    forOf p c = .done (.forDo counter start direction finish body) d := by
  have hdirection := take?_of_some (Direction.ofToken?_eq_some_iff.2 hm)
  simp only [forOf, Run.bind_eq_done_iff]
  refine ⟨_, _, ident_eq_done_iff.2 ⟨hx, rfl⟩, (), _, expect_eq_done_iff.2 ⟨ha, rfl⟩, _, m, hs,
    some direction, _, hdirection, ?_⟩
  simp only [Run.bind_eq_done_iff]
  exact ⟨_, k, hf, (), _, expect_eq_done_iff.2 ⟨hk, rfl⟩, _, d, hb, rfl⟩

/-- A name in parentheses is what `new` and `dispose` work on. -/
theorem memoryOf_done {kind : MemoryKind} {name : String} (hl : c.token = .symbol .leftParen)
    (hx : c.advance.token = .ident name) (hr : c.advance.advance.token = .symbol .rightParen) :
    memoryOf kind c = .done (.memory kind name) c.advance.advance.advance := by
  simp only [memoryOf, Run.bind_eq_done_iff]
  exact ⟨(), _, expect_eq_done_iff.2 ⟨hl, rfl⟩, _, _, ident_eq_done_iff.2 ⟨hx, rfl⟩, (), _,
    expect_eq_done_iff.2 ⟨hr, rfl⟩, rfl⟩

end

end Parser

/-! ## Expressions -/

open MiniPascal.Parser Cursor

section
variable {c d : Cursor} {ts : List Token}

/-- The first of some items stands at the cursor. -/
theorem Separated.passes_first {α : Type} {sep : Symbol} {R : α → List Token → Prop} {as : List α}
    (h : Separated sep R as ts) (hp : c.Passes ts d) : ∃ a us m, R a us ∧ c.Passes us m := by
  cases h with
  | one h => exact ⟨_, _, _, h, hp⟩
  | more h =>
    obtain ⟨m, hp, -⟩ := passes_append_iff.1 hp
    exact ⟨_, _, _, h, hp⟩

/-- The tokens of a factor begin with one that may begin a factor. -/
theorem Factor.Derives.starts {f : Factor} (h : f.Derives ts) (hp : c.Passes ts d) :
    c.token.startsFactor := by
  cases h <;> rw [hp.1] <;> rfl

/-- The tokens of a term begin with one that may begin a factor. -/
theorem Term.Derives.starts {t : Term} (h : t.Derives ts) (hp : c.Passes ts d) :
    c.token.startsFactor := by
  obtain ⟨h, -⟩ := h
  obtain ⟨m, hp, -⟩ := passes_append_iff.1 hp
  exact h.starts hp

/-- No expression begins with a closing parenthesis, so arguments are told from an empty list. -/
theorem Expr.Derives.ne_rightParen {e : Expr} (h : e.Derives ts) (hp : c.Passes ts d) :
    c.token ≠ .symbol .rightParen := by
  have simple {e : SimpleExpr} {ts : List Token} {d : Cursor} (h : e.Derives ts)
      (hp : c.Passes ts d) : c.token ≠ .symbol .rightParen := by
    cases h with
    | unsigned h =>
      obtain ⟨m, hp, -⟩ := passes_append_iff.1 hp
      intro ht
      have hs := h.starts hp
      rw [ht] at hs
      exact Bool.false_ne_true hs
    | @signed sign =>
      rw [hp.1]
      cases sign <;> nofun
  cases h with
  | simple h => exact simple h hp
  | comparison h =>
    obtain ⟨m, hp, -⟩ := passes_append_iff.1 hp
    exact simple h hp

/-- No access step begins with a parenthesis, so designators are told from calls. -/
theorem Selector.Derives.ne_leftParen {s : Selector} (h : s.Derives ts) (hp : c.Passes ts d) :
    c.token ≠ .symbol .leftParen := by
  cases h <;> rw [hp.1] <;> nofun

/-- Arguments begin with a parenthesis. -/
theorem Expr.DerivesArguments.leftParen {args : List Expr} (h : Expr.DerivesArguments args ts)
    (hp : c.Passes ts d) : c.token = .symbol .leftParen := by
  cases h <;> exact hp.1

end

mutual

/-- A derived expression is read, if what follows ends an expression. -/
theorem Expr.Derives.reads {e : Expr} {ts : List Token} :
    e.Derives ts → ∀ {c d : Cursor}, c.Passes ts d → d.EndsExpression → expression c = .done e d
  | .simple h, c, d, hp, hd => by
    have hs := h.reads hp hd.toEndsSimple
    simp only [expression, expressionOf, Run.bind_eq_done_iff]
    exact ⟨_, d, hs, none, d, take?_of_none hd.relOp, rfl⟩
  | @Expr.Derives.comparison _ op _ _ _ h h', c, d, hp, hd => by
    obtain ⟨m, hp, ho, hne, hq⟩ := passes_append_iff.1 hp
    have hs := h.reads hp (.of_relOp ho)
    have hs' := h'.reads hq hd.toEndsSimple
    simp only [expression, expressionOf, Run.bind_eq_done_iff]
    refine ⟨_, m, hs, some op, m.advance,
      take?_of_some (RelOp.ofToken?_eq_some_iff.2 ho), ?_⟩
    simp only [Run.bind_eq_done_iff]
    exact ⟨_, d, hs', rfl⟩

/-- A derived simple expression is read, if what follows ends a simple expression. -/
theorem SimpleExpr.Derives.reads {e : SimpleExpr} {ts : List Token} :
    e.Derives ts → ∀ {c d : Cursor}, c.Passes ts d → d.EndsSimple →
      simpleOf factor c = .done e d
  | .unsigned h h', c, d, hp, hd => by
    obtain ⟨m, hp, hq⟩ := passes_append_iff.1 hp
    have hs := h.reads hp (.of_operands h' hq hd)
    have hs' := SimpleExpr.reads_rest h' hq hd
    have hsign : Sign.ofToken? c.token = none := by
      have hs := h.starts hp
      generalize c.token = t at hs
      cases t with
      | symbol s => cases s <;> first | rfl | cases hs
      | ident | number | keyword | eof => rfl
    simp only [simpleOf, Run.bind_eq_done_iff]
    exact ⟨none, c, take?_of_none hsign, _, m, hs, _, d, hs', rfl⟩
  | @SimpleExpr.Derives.signed sign _ _ _ _ h h', c, d, ⟨ht, hne, hp⟩, hd => by
    obtain ⟨m, hp, hq⟩ := passes_append_iff.1 hp
    have hs := h.reads hp (.of_operands h' hq hd)
    have hs' := SimpleExpr.reads_rest h' hq hd
    have hsign := Sign.ofToken?_eq_some_iff.2 ht
    simp only [simpleOf, Run.bind_eq_done_iff]
    exact ⟨some sign, c.advance, take?_of_some hsign, _, m, hs,
      _, d, hs', rfl⟩

/-- The further terms of a derived simple expression are read one by one. -/
theorem SimpleExpr.reads_rest {rest : List (AddOp × Term)} {ts : List Token} :
    Operands AddOp.token Term.Derives rest ts → ∀ {c d : Cursor}, c.Passes ts d → d.EndsSimple →
      operands AddOp.ofToken? (termOf factor) c = .done rest d
  | .nil, c, d, hp, hd => by
    cases hp
    exact operands_done_nil hd.addOp
  | .cons h h', c, d, ⟨ho, hne, hp⟩, hd => by
    obtain ⟨m, hp, hq⟩ := passes_append_iff.1 hp
    exact operands_done_cons (AddOp.ofToken?_eq_some_iff.2 ho)
      (h.reads hp (.of_operands h' hq hd))
      (Nat.lt_of_le_of_lt hp.remaining_le (remaining_advance_lt (ho ▸ hne)))
      (SimpleExpr.reads_rest h' hq hd)

/-- A derived term is read, if what follows ends a term. -/
theorem Term.Derives.reads {t : Term} {ts : List Token} :
    t.Derives ts → ∀ {c d : Cursor}, c.Passes ts d → d.EndsTerm → termOf factor c = .done t d
  | .mk h h', c, d, hp, hd => by
    obtain ⟨m, hp, hq⟩ := passes_append_iff.1 hp
    have hs := h.reads hp (.of_operands h' hq hd)
    have hs' := Term.reads_rest h' hq hd
    simp only [termOf, Run.bind_eq_done_iff]
    exact ⟨_, m, hs, _, d, hs', rfl⟩

/-- The further factors of a derived term are read one by one. -/
theorem Term.reads_rest {rest : List (MulOp × Factor)} {ts : List Token} :
    Operands MulOp.token Factor.Derives rest ts → ∀ {c d : Cursor}, c.Passes ts d → d.EndsTerm →
      operands MulOp.ofToken? factor c = .done rest d
  | .nil, c, d, hp, hd => by
    cases hp
    exact operands_done_nil hd.mulOp
  | .cons h h', c, d, ⟨ho, hne, hp⟩, hd => by
    obtain ⟨m, hp, hq⟩ := passes_append_iff.1 hp
    exact operands_done_cons (MulOp.ofToken?_eq_some_iff.2 ho)
      (h.reads hp (.of_operands h' hq hd))
      (Nat.lt_of_le_of_lt hp.remaining_le (remaining_advance_lt (ho ▸ hne)))
      (Term.reads_rest h' hq hd)

/-- A derived factor is read, if what follows ends a factor. -/
theorem Factor.Derives.reads {f : Factor} {ts : List Token} :
    f.Derives ts → ∀ {c d : Cursor}, c.Passes ts d → d.EndsFactor → factor c = .done f d
  | .ident name, c, d, ⟨ht, _, hp⟩, hd => by
    cases hp
    rw [factor_eq, factorOf_apply, ht]
    exact namedOf_selectors hd.leftParen (many_of_none (selectorOf?_none hd.toNoSelector))
  | .number n, c, d, ⟨ht, _, hp⟩, _ => by
    cases hp
    rw [factor_eq, factorOf_apply, ht]
  | .true, c, d, ⟨ht, _, hp⟩, _ => by
    cases hp
    rw [factor_eq, factorOf_apply, ht]
  | .false, c, d, ⟨ht, _, hp⟩, _ => by
    cases hp
    rw [factor_eq, factorOf_apply, ht]
  | .nil, c, d, ⟨ht, _, hp⟩, _ => by
    cases hp
    rw [factor_eq, factorOf_apply, ht]
  | .designator h, c, d, ⟨ht, _, hp⟩, hd => by
    have hs := Selector.reads_list h hp hd.toNoSelector
    have hne : c.advance.token ≠ .symbol .leftParen := by
      cases h with
      | cons h =>
        obtain ⟨m, hp, -⟩ := passes_append_iff.1 hp
        exact h.ne_leftParen hp
    rw [factor_eq, factorOf_apply, ht]
    exact namedOf_selectors hne hs
  | .paren h, c, d, ⟨ht, _, hp⟩, _ => by
    obtain ⟨m, hp, hr, _, hq⟩ := passes_append_iff.1 hp
    have hs := h.reads hp (.of_token hr rfl)
    rw [factor_eq, factorOf_apply, ht]
    simp only [Run.bind_eq_done_iff]
    exact ⟨_, m, hs, (), _, expect_eq_done_iff.2 ⟨hr, rfl⟩, by rw [show d = _ from hq]; rfl⟩
  | .not h, c, d, ⟨ht, _, hp⟩, hd => by
    rw [factor_eq, factorOf_apply, ht]
    exact map_eq_done_iff.2 ⟨_, h.reads hp hd, rfl⟩
  | .call h, c, d, ⟨ht, _, hp⟩, _ => by
    rw [factor_eq, factorOf_apply, ht]
    exact namedOf_call (h.leftParen hp) (h.reads hp)

/-- Derived arguments are read, whatever follows: the closing parenthesis ends them. -/
theorem Expr.DerivesArguments.reads {args : List Expr} {ts : List Token} :
    Expr.DerivesArguments args ts → ∀ {c d : Cursor}, c.Passes ts d →
      argumentsOf expression c = .done args d
  | .none, c, d, ⟨hl, _, hr, _, hp⟩ => by
    simp only [argumentsOf, Run.bind_eq_done_iff]
    refine ⟨(), _, expect_eq_done_iff.2 ⟨hl, rfl⟩, true, _,
      accept_of_eq hr, ?_⟩
    rw [show d = _ from hp]
    rfl
  | .some h, c, d, ⟨hl, _, hp⟩ => by
    obtain ⟨m, hp, hr, _, hq⟩ := passes_append_iff.1 hp
    have hs := Expr.reads_list h hp (.of_token hr rfl) (by simp [hr])
    obtain ⟨_, _, _, hfirst, hp⟩ := h.passes_first hp
    have hne := hfirst.ne_rightParen hp
    simp only [argumentsOf, Run.bind_eq_done_iff]
    refine ⟨(), _, expect_eq_done_iff.2 ⟨hl, rfl⟩, false, _,
      accept_of_ne hne, ?_⟩
    simp only [Bool.false_eq_true, if_false, Run.bind_eq_done_iff]
    exact ⟨_, m, hs, (), _, expect_eq_done_iff.2 ⟨hr, rfl⟩, by rw [show d = _ from hq]; rfl⟩

/-- Derived expressions with commas between them are read one by one. -/
theorem Expr.reads_list {es : List Expr} {ts : List Token} :
    Separated .comma Expr.Derives es ts → ∀ {c d : Cursor}, c.Passes ts d → d.EndsExpression →
      d.token ≠ .symbol .comma → separated .comma expression c = .done es d
  | .one h, c, d, hp, hd, hne => separated_done_one (h.reads hp hd) hne
  | .more h h', c, d, hp, hd, hne => by
    obtain ⟨m, hp, hm, _, hq⟩ := passes_append_iff.1 hp
    exact separated_done_more expression_sound (h.reads hp (.of_token hm rfl)) hm
      (Expr.reads_list h' hq hd hne)

/-- A derived access step is read, whatever follows. -/
theorem Selector.Derives.reads {s : Selector} {ts : List Token} :
    s.Derives ts → ∀ {c d : Cursor}, c.Passes ts d →
      selectorOf? expression c = .done (some s) d
  | .field name, c, d, ⟨hdot, _, hx, _, hp⟩ => by
    simp only [selectorOf?, Run.bind_apply Parser.token, Parser.token, hdot,
      Run.bind_apply nextToken, nextToken, hx]
    rw [show d = _ from hp]
    rfl
  | .index h, c, d, ⟨hl, _, hp⟩ => by
    obtain ⟨m, hp, hr, _, hq⟩ := passes_append_iff.1 hp
    have hs := Expr.reads_list h hp (.of_token hr rfl) (by simp [hr])
    simp only [selectorOf?, Run.bind_apply Parser.token, Parser.token, hl,
      Run.bind_eq_done_iff]
    exact ⟨(), _, rfl, _, m, hs, (), _, expect_eq_done_iff.2 ⟨hr, rfl⟩, _, _,
      ofExcept_eq_done_iff.2 ⟨h.ofIndices, rfl⟩, by rw [show d = _ from hq]; rfl⟩
  | .deref, c, d, ⟨ht, _, hp⟩ => by
    simp only [selectorOf?, Run.bind_apply Parser.token, Parser.token, ht]
    rw [show d = _ from hp]
    rfl

/-- Derived access steps are read one by one, if no further one follows. -/
theorem Selector.reads_list {ss : List Selector} {ts : List Token} :
    Repeated Selector.Derives ss ts → ∀ {c d : Cursor}, c.Passes ts d → d.NoSelector →
      many (selectorOf? expression) c = .done ss d
  | .nil, c, d, hp, hd => by
    cases hp
    exact many_of_none (selectorOf?_none hd)
  | .cons h h', c, d, hp, hd => by
    obtain ⟨m, hp, hq⟩ := passes_append_iff.1 hp
    exact many_done_cons (h.reads hp) (hp.remaining_lt h.ne_nil) (Selector.reads_list h' hq hd)

end

/-! ## Statements -/

section
variable {c d : Cursor} {ts : List Token}

/-- A derived label is read, whatever follows. -/
theorem Label.Derives.reads {l : Label} (h : l.Derives ts) (hp : c.Passes ts d) :
    label c = .done l d := by
  have unsigned {t : Token} (hs : Sign.ofToken? t = none) (ht : c.token = t) :
      take? Sign.ofToken? c = .done none c :=
    take?_of_none (ht ▸ hs)
  have signed {sign : Sign} (ht : c.token = sign.token) :
      take? Sign.ofToken? c = .done (some sign) c.advance :=
    take?_of_some (Sign.ofToken?_eq_some_iff.2 ht)
  rw [label, Run.bind_eq_done_iff]
  cases h with
  | negative n hn =>
    obtain ⟨hm, -, ht, -, hp⟩ := hp
    cases hp
    refine ⟨some .minus, _, signed hm, Run.bind_eq_done_iff.2
      ⟨.number n, _, token_eq_done_iff.2 ⟨ht, rfl⟩, ?_⟩⟩
    change (if n = Int64.minValue then Run.fail .labelOverflow
      else do advance; return .number (-n) : Parser Label) _ = _
    rw [if_neg hn]
    rfl
  | plus h =>
    obtain ⟨hs, -, hp⟩ := hp
    refine ⟨some .plus, _, signed hs, Run.bind_eq_done_iff.2 ⟨_, _, rfl, ?_⟩⟩
    cases h <;>
    · obtain ⟨ht, -, hp⟩ := hp
      cases hp
      rw [ht]
      rfl
  | number | true | false | nil | ident =>
    obtain ⟨ht, -, hp⟩ := hp
    cases hp
    exact ⟨none, c, unsigned rfl ht, Run.bind_eq_done_iff.2
      ⟨_, _, token_eq_done_iff.2 ⟨ht, rfl⟩, rfl⟩⟩

/-- Derived labels with commas between them are read one by one. -/
theorem Label.reads_list {ls : List Label} (h : Separated .comma Label.Derives ls ts)
    (hp : c.Passes ts d) (hd : d.token ≠ .symbol .comma) :
    separated .comma label c = .done ls d := by
  induction h generalizing c with
  | one h => exact separated_done_one (h.reads hp) hd
  | more h _ ih =>
    obtain ⟨m, hp, hm, _, hq⟩ := passes_append_iff.1 hp
    exact separated_done_more label_sound (h.reads hp) hm (ih hq)

/-- No label begins with `end`. -/
theorem Label.Derives.ne_end {l : Label} (h : l.Derives ts) (hp : c.Passes ts d) :
    c.token ≠ .keyword .end := by
  cases h <;> rw [hp.1] <;> nofun

/-- No arm begins with `end`, so a semicolon before `end` is told from one between arms. -/
theorem CaseArm.Derives.ne_end {arm : CaseArm} (h : arm.Derives ts) (hp : c.Passes ts d) :
    c.token ≠ .keyword .end := by
  obtain ⟨h, -⟩ := h
  obtain ⟨m, hp, -⟩ := passes_append_iff.1 hp
  obtain ⟨_, _, _, hfirst, hp⟩ := h.passes_first hp
  exact hfirst.ne_end hp

end

mutual

/-- A derived statement whose `else`s are at the nearest `if` is read, if what follows ends a
statement and is no `else` for an open `if`. -/
theorem Stmt.Derives.reads {s : Stmt} {ts : List Token} :
    s.Derives ts → s.NearestElse → ∀ {c d : Cursor}, c.Passes ts d → d.EndsStatement →
      (s.endsOpen = true → d.token ≠ .keyword .else) → statement c = .done s d
  | .assign h h', _, c, d, ⟨ht, _, hp⟩, hd, _ => by
    obtain ⟨m, hp, ha, _, hq⟩ := passes_append_iff.1 hp
    have hs := Selector.reads_list h hp (.of_token ha nofun nofun nofun)
    have hv := h'.reads hq hd.toEndsExpression
    rw [statement_eq, statementOf_apply, ht]
    exact namedStatement_assign hs ha hv
  | .call name, _, c, d, ⟨ht, _, hp⟩, hd, _ => by
    cases hp
    rw [statement_eq, statementOf_apply, ht]
    exact namedStatement_call hd.toNoSelector hd.assign hd.leftParen
  | .callWith h, _, c, d, ⟨ht, _, hp⟩, _, _ => by
    rw [statement_eq, statementOf_apply, ht]
    exact namedStatement_callWith (h.leftParen hp) (h.reads hp)
  | .compound h, hn, c, d, ⟨ht, _, hp⟩, _, _ => by
    obtain ⟨m, hp, he, _, hq⟩ := passes_append_iff.1 hp
    have hb := Stmt.reads_list h hn hp (.of_token he rfl nofun rfl) (by simp [he])
      (by simp [he])
    rw [statement_eq, statementOf_apply, ht, show d = _ from hq]
    exact compoundOf_done hb he
  | .ifThen h h', hn, c, d, ⟨ht, _, hp⟩, hd, ho => by
    obtain ⟨m, hp, hm, _, hq⟩ := passes_append_iff.1 hp
    have hne := ho rfl
    have hc := h.reads hp (.of_token hm rfl)
    have hb := h'.reads hn hq hd fun _ => hne
    rw [statement_eq, statementOf_apply, ht]
    exact conditionalOf_then hc hm hb hne
  | .ifThenElse h h' h'', ⟨hclosed, hn, hn'⟩, c, d, ⟨ht, _, hp⟩, hd, ho => by
    obtain ⟨m, hp, hm, _, hq⟩ := passes_append_iff.1 hp
    obtain ⟨k, hq, hk, _, hr⟩ := passes_append_iff.1 hq
    have hc := h.reads hp (.of_token hm rfl)
    have hb := h'.reads hn hq (.of_token hk rfl nofun rfl) (by rw [hclosed]; nofun)
    have hb' := h''.reads hn' hr hd ho
    rw [statement_eq, statementOf_apply, ht]
    exact conditionalOf_else hc hm hb hk hb'
  | .caseOfNone h, _, c, d, ⟨ht, _, hp⟩, _, _ => by
    obtain ⟨m, hp, hm, _, he, _, hq⟩ := passes_append_iff.1 hp
    have hs := h.reads hp (.of_token hm rfl)
    rw [statement_eq, statementOf_apply, ht, show d = _ from hq]
    exact caseOf_done hs hm (armsOf_done_nil he) he
  | .caseOf h h' hlast, hn, c, d, ⟨ht, _, hp⟩, _, _ => by
    obtain ⟨m, hp, hm, _, hq⟩ := passes_append_iff.1 hp
    obtain ⟨k, hq, hr⟩ := passes_append_iff.1 hq
    obtain ⟨j, hr, he, _, hj⟩ := passes_append_iff.1 hr
    have hs := h.reads hp (.of_token hm rfl)
    have ha := CaseArm.reads_list h' hn hq hr hlast he
    rw [statement_eq, statementOf_apply, ht, show d = _ from hj]
    exact caseOf_done hs hm ha he
  | .whileDo h h', hn, c, d, ⟨ht, _, hp⟩, hd, ho => by
    obtain ⟨m, hp, hm, _, hq⟩ := passes_append_iff.1 hp
    have hc := h.reads hp (.of_token hm rfl)
    have hb := h'.reads hn hq hd ho
    rw [statement_eq, statementOf_apply, ht]
    exact whileOf_done hc hm hb
  | .repeatUntil h h', hn, c, d, ⟨ht, _, hp⟩, hd, _ => by
    obtain ⟨m, hp, hm, _, hq⟩ := passes_append_iff.1 hp
    have hb := Stmt.reads_list h hn hp (.of_token hm rfl nofun rfl) (by simp [hm])
      (by simp [hm])
    have hc := h'.reads hq hd.toEndsExpression
    rw [statement_eq, statementOf_apply, ht]
    exact repeatOf_done hb hm hc
  | @Stmt.Derives.forDo _ _ direction _ _ _ _ _ h h' h'', hn, c, d,
      ⟨ht, _, hx, _, ha, _, hp⟩, hd, ho => by
    obtain ⟨m, hp, hm, _, hq⟩ := passes_append_iff.1 hp
    obtain ⟨k, hq, hk, _, hr⟩ := passes_append_iff.1 hq
    have hs := h.reads hp (.of_token hm (by cases direction <;> rfl))
    have hf := h'.reads hq (.of_token hk rfl)
    have hb := h''.reads hn hr hd ho
    rw [statement_eq, statementOf_apply, ht]
    exact forOf_done hx ha hs hm hf hk hb
  | .memory kind name, _, c, d, ⟨ht, _, hl, _, hx, _, hr, _, hp⟩, _, _ => by
    have hm : statement c = memoryOf kind c.advance := by
      rw [statement_eq, statementOf_apply, ht]
      cases kind <;> rfl
    rw [hm, show d = _ from hp]
    exact memoryOf_done hl hx hr
  | .empty, _, c, d, hp, hd, _ => by
    cases hp
    exact statement_empty hd.start

/-- Derived statements with semicolons between them are read one by one. -/
theorem Stmt.reads_list {body : List Stmt} {ts : List Token} :
    Separated .semicolon Stmt.Derives body ts → Stmt.NearestElseList body → ∀ {c d : Cursor},
      c.Passes ts d → d.EndsStatement → d.token ≠ .symbol .semicolon →
      d.token ≠ .keyword .else → separated .semicolon statement c = .done body d
  | .one h, ⟨hn, _⟩, c, d, hp, hd, hsemi, helse =>
    separated_done_one (h.reads hn hp hd fun _ => helse) hsemi
  | .more h h', ⟨hn, hn'⟩, c, d, hp, hd, hsemi, helse => by
    obtain ⟨m, hp, hm, _, hq⟩ := passes_append_iff.1 hp
    have hs := h.reads hn hp (.of_token hm rfl nofun rfl) fun _ => by simp [hm]
    exact separated_done_more statement_sound hs hm
      (Stmt.reads_list h' hn' hq hd hsemi helse)

/-- A derived arm is read, if what follows ends its statement. -/
theorem CaseArm.Derives.reads {arm : CaseArm} {ts : List Token} :
    arm.Derives ts → arm.NearestElse → ∀ {c d : Cursor}, c.Passes ts d → d.EndsStatement →
      d.token ≠ .keyword .else → armOf statement c = .done arm d
  | .mk h h', hn, c, d, hp, hd, helse => by
    obtain ⟨m, hp, hm, _, hq⟩ := passes_append_iff.1 hp
    have hl := Label.reads_list h hp (by simp [hm])
    have hs := h'.reads hn hq hd fun _ => helse
    simp only [armOf, Run.bind_eq_done_iff]
    exact ⟨_, m, hl, (), _, expect_eq_done_iff.2 ⟨hm, rfl⟩, _, d, hs, rfl⟩

/-- Derived arms are read one by one as far as the `end` after them. -/
theorem CaseArm.reads_list {arms : List CaseArm} {ts last : List Token} :
    Separated .semicolon CaseArm.Derives arms ts → CaseArm.NearestElseList arms →
      ∀ {c m d : Cursor}, c.Passes ts m → m.Passes last d →
      last = [] ∨ last = [.symbol .semicolon] → d.token = .keyword .end →
      armsOf statement c = .done arms d
  | .one h, ⟨hn, _⟩, c, m, d, hp, hq, hlast, hd => by
    have hm : m.EndsStatement ∧ m.token ≠ .keyword .else := by
      rcases hlast with rfl | rfl
      · cases hq
        exact ⟨.of_token hd rfl nofun rfl, by simp [hd]⟩
      · exact ⟨.of_token hq.1 rfl nofun rfl, by simp [hq.1]⟩
    exact armsOf_done_one (h.ne_end hp) (h.reads hn hp hm.1 hm.2) hq hlast hd
  | .more h h', ⟨hn, hn'⟩, c, m, d, hp, hq, hlast, hd => by
    obtain ⟨k, hp, hk, _, hr⟩ := passes_append_iff.1 hp
    have hs := h.reads hn hp (.of_token hk rfl nofun rfl) (by simp [hk])
    have hs' := CaseArm.reads_list h' hn' hr hq hlast hd
    obtain ⟨_, _, _, hnext, hr⟩ := h'.passes_first hr
    exact armsOf_done_more (h.ne_end hp) hs hk hs' (hnext.ne_end hr)

end

/-! ## Whole inputs -/

/-- A program is read if the end of input follows it. -/
theorem Program.Derives.reads {p : Program} {ts : List Token} {c d : Cursor} (h : p.Derives ts)
    (hn : p.NearestElse) (hp : c.Passes ts d) (hd : d.token = .eof) :
    program c = .done p d := by
  simp only [program, Run.bind_eq_done_iff]
  cases h with
  | plain h =>
    have hs := Stmt.reads_list h hn hp (.of_token hd rfl (by decide) rfl) (by simp [hd])
      (by simp [hd])
    refine ⟨_, d, hs, false, d, accept_of_ne (by simp [hd]),
      _, d, token_eq_done_iff.2 ⟨hd, rfl⟩, rfl⟩
  | dotted h =>
    obtain ⟨m, hp', hm, _, hq⟩ := passes_append_iff.1 hp
    cases hq
    have hs := Stmt.reads_list h hn hp' (.of_lastDot hm hd) (by simp [hm])
      (by simp [hm])
    refine ⟨_, m, hs, true, _, accept_of_eq hm,
      _, _, token_eq_done_iff.2 ⟨hd, rfl⟩, rfl⟩

/-- A whole expression is read if the end of input follows it. -/
theorem Expr.Derives.reads_whole {e : Expr} {ts : List Token} {c d : Cursor} (h : e.Derives ts)
    (hp : c.Passes ts d) (hd : d.token = .eof) : wholeExpression c = .done e d := by
  simp only [wholeExpression, Run.bind_eq_done_iff]
  exact ⟨e, d, h.reads hp (.of_token hd rfl), _, d, token_eq_done_iff.2 ⟨hd, rfl⟩, rfl⟩

end MiniPascal
