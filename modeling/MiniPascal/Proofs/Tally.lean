import MiniPascal.NodeCount
import MiniPascal.Proofs.Text.RoundTrip

/-!
# Node counts account for the tokens

Some nodes of a tree leave exactly one token in its source, so the counts of these nodes are numbers
of tokens: an arm of a case statement leaves its colon, an access step its dot, bracket or caret. A
comparison has one simple expression more than other expressions, and an operator between factors or
a negation has one factor more than there are terms.

`Tally` states this of a part of a tree and its tokens. It is kept when parts are put together
(`Tally.append`) and follows the derivation, so it holds of every program that was read
(`Program.count_eq_tokens`).
-/

namespace MiniPascal

/-! ## Counting tokens -/

namespace Token

/-- The tokens of the comparison operators. -/
def relational : List Token :=
  [.symbol .equal, .symbol .notEqual, .symbol .less, .symbol .lessEqual, .symbol .greater,
    .symbol .greaterEqual]

/-- The tokens of the operators between factors and of negation. -/
def multiplying : List Token :=
  [.symbol .multiply, .symbol .divide, .keyword .div, .keyword .mod, .keyword .and, .keyword .not]

/-- The token is a name. -/
def isIdent : Token → Bool
  | .ident _ => true
  | _ => false

/-- How many dots stand directly before a name. -/
def fieldDots : List Token → Nat
  | [] => 0
  | t :: ts => (if t = .symbol .dot ∧ ts.head?.any isIdent then 1 else 0) + fieldDots ts

/-- The token has no part in any of the counts. -/
def isUncounted (t : Token) : Bool :=
  t ∉ [.symbol .colon, .symbol .caret, .symbol .leftBracket, .symbol .dot] && t ∉ relational &&
    t ∉ multiplying

section
variable {t : Token} {ts us : List Token}

/-- Only a dot can be a dot before a name. -/
theorem fieldDots_cons (ht : t ≠ .symbol .dot) : fieldDots (t :: ts) = fieldDots ts := by
  rw [fieldDots, if_neg fun h => ht h.1, Nat.zero_add]

/-- The dots before names of two lists add up unless the first list ends in a dot. -/
theorem fieldDots_append (h : ts.getLast? ≠ some (.symbol .dot)) :
    fieldDots (ts ++ us) = fieldDots ts + fieldDots us := by
  induction ts with
  | nil => exact (Nat.zero_add _).symm
  | cons t ts ih =>
    cases ts with
    | nil =>
      have ht : t ≠ .symbol .dot := by simpa using h
      rw [List.singleton_append, fieldDots_cons ht, fieldDots_cons ht]
      exact (Nat.zero_add _).symm
    | cons u ts =>
      rw [List.getLast?_cons_cons] at h
      have hhead : (u :: ts ++ us).head? = (u :: ts).head? := rfl
      rw [List.cons_append, fieldDots, ih h, hhead, ← Nat.add_assoc]
      rfl

end

end Token

/-! ## Tallies -/

/-- The counts of a part of a tree are those of its tokens, but for `i` simple expressions that are
not yet expressions and `j` factors that are not yet terms. -/
structure Tally (i j : Int) (c : NodeCount) (ts : List Token) : Prop where
  caseArms : c.caseArms = ts.count (.symbol .colon)
  selectors : c.selectors =
    ts.count (.symbol .caret) + ts.count (.symbol .leftBracket) + Token.fieldDots ts
  simpleExpressions : c.simpleExpressions = c.expressions + ts.countP (· ∈ Token.relational) + i
  factors : c.factors = c.terms + ts.countP (· ∈ Token.multiplying) + j
  last : ts.getLast? ≠ some (.symbol .dot)

namespace Tally

section
variable {i j i' j' : Int} {c d : NodeCount} {ts us : List Token} {t : Token}

/-- Parts one after the other. -/
theorem append (h : Tally i j c ts) (h' : Tally i' j' d us) :
    Tally (i + i') (j + j') (c + d) (ts ++ us) where
  caseArms := by
    rw [NodeCount.caseArms_add, h.caseArms, h'.caseArms, List.count_append]
  selectors := by
    have := h.selectors
    have := h'.selectors
    rw [NodeCount.selectors_add, List.count_append, List.count_append,
      Token.fieldDots_append h.last]
    omega
  simpleExpressions := by
    have := h.simpleExpressions
    have := h'.simpleExpressions
    rw [NodeCount.simpleExpressions_add, NodeCount.expressions_add, List.countP_append]
    omega
  factors := by
    have := h.factors
    have := h'.factors
    rw [NodeCount.factors_add, NodeCount.terms_add, List.countP_append]
    omega
  last := by
    rw [List.getLast?_append]
    cases hu : us.getLast? with
    | none => exact h.last
    | some u =>
      rw [Option.some_or, ← hu]
      exact h'.last

/-- Tokens of no node, and a part after them. -/
theorem before (h : Tally i j 0 ts) (h' : Tally i' j' c us) :
    Tally (i + i') (j + j') c (ts ++ us) := by
  have hboth := h.append h'
  rwa [NodeCount.zero_add] at hboth

/-! ### Single tokens -/

/-- No tokens of no node. -/
theorem nil : Tally 0 0 0 [] :=
  ⟨rfl, rfl, rfl, rfl, nofun⟩

/-- A token that is not counted. -/
theorem token (ht : t.isUncounted = true) : Tally 0 0 0 [t] := by
  simp only [Token.isUncounted, List.mem_cons, List.not_mem_nil, or_false, not_or,
    Bool.and_eq_true, decide_eq_true_eq] at ht
  obtain ⟨⟨⟨hcolon, hcaret, hbracket, hdot⟩, hrel⟩, hmul⟩ := ht
  constructor
  · rw [List.count_cons_of_ne hcolon]
    rfl
  · rw [List.count_cons_of_ne hcaret, List.count_cons_of_ne hbracket, Token.fieldDots_cons hdot]
    rfl
  · rw [List.countP_cons_of_neg (by simpa using hrel)]
    rfl
  · rw [List.countP_cons_of_neg (by simpa using hmul)]
    rfl
  · simpa using hdot

/-- A comparison operator takes in one simple expression. -/
theorem relOp (op : RelOp) : Tally (-1) 0 0 [op.token] := by
  cases op <;> exact ⟨rfl, rfl, rfl, rfl, nofun⟩

/-- An operator between factors takes in one factor. -/
theorem mulOp (op : MulOp) : Tally 0 (-1) 0 [op.token] := by
  cases op <;> exact ⟨rfl, rfl, rfl, rfl, nofun⟩

/-- A negation takes in one factor. -/
theorem not : Tally 0 (-1) 0 [.keyword .not] :=
  ⟨rfl, rfl, rfl, rfl, nofun⟩

/-- The operator between two terms is not counted. -/
theorem addOp (op : AddOp) : Tally 0 0 0 [op.token] := by
  cases op <;> exact token rfl

/-- A sign belongs to no node that is counted. -/
theorem sign (sign : Sign) : Tally 0 0 0 [sign.token] := by
  cases sign <;> exact token rfl

/-- The direction of a loop is not counted. -/
theorem direction (direction : Direction) : Tally 0 0 0 [direction.token] := by
  cases direction <;> exact token rfl

/-- The word of a memory statement is not counted. -/
theorem memoryKind (kind : MemoryKind) : Tally 0 0 0 [kind.token] := by
  cases kind <;> exact token rfl

/-! ### Single nodes, with the tokens they are counted by -/

/-- A statement leaves no token of its own. -/
theorem statement : Tally 0 0 .statement [] :=
  ⟨rfl, rfl, rfl, rfl, nofun⟩

/-- An arm leaves its colon. -/
theorem arm (labels : Nat) : Tally 0 0 (.arm labels) [.symbol .colon] :=
  ⟨rfl, rfl, rfl, rfl, nofun⟩

/-- An expression takes in one simple expression. -/
theorem expression : Tally (-1) 0 .expression [] :=
  ⟨rfl, rfl, rfl, rfl, nofun⟩

/-- A simple expression leaves no token; it still wants its expression. -/
theorem simple : Tally 1 0 .simple [] :=
  ⟨rfl, rfl, rfl, rfl, nofun⟩

/-- A term takes in one factor. -/
theorem term : Tally 0 (-1) .term [] :=
  ⟨rfl, rfl, rfl, rfl, nofun⟩

/-- A factor leaves no token; it still wants its term. -/
theorem factor : Tally 0 1 .factor [] :=
  ⟨rfl, rfl, rfl, rfl, nofun⟩

/-- A designator leaves no token of its own. -/
theorem designator : Tally 0 0 .designator [] :=
  ⟨rfl, rfl, rfl, rfl, nofun⟩

/-- A field leaves the dot before its name. -/
theorem field (name : String) : Tally 0 0 .selector [.symbol .dot, .ident name] :=
  ⟨rfl, rfl, rfl, rfl, nofun⟩

/-- An array access leaves its opening bracket. -/
theorem index : Tally 0 0 .selector [.symbol .leftBracket] :=
  ⟨rfl, rfl, rfl, rfl, nofun⟩

/-- A dereference leaves its caret. -/
theorem deref : Tally 0 0 .selector [.symbol .caret] :=
  ⟨rfl, rfl, rfl, rfl, nofun⟩

end

end Tally

/-! ## Expressions -/

open Tally (token)

mutual

/-- An expression and its tokens are in balance. -/
theorem Expr.Derives.tally {e : Expr} {ts : List Token} : e.Derives ts → Tally 0 0 e.count ts
  | .simple h => Tally.expression.append h.tally
  | .comparison h h' => (Tally.expression.append h.tally).append ((Tally.relOp _).before h'.tally)

/-- A simple expression is one more than its tokens tell, until it is an expression or a side of a
comparison. -/
theorem SimpleExpr.Derives.tally {e : SimpleExpr} {ts : List Token} :
    e.Derives ts → Tally 1 0 e.count ts
  | .unsigned h h' => (Tally.simple.append h.tally).append (SimpleExpr.tally_rest h')
  | .signed h h' =>
    (Tally.sign _).before ((Tally.simple.append h.tally).append (SimpleExpr.tally_rest h'))

/-- The further terms are in balance: an addition is not counted. -/
theorem SimpleExpr.tally_rest {rest : List (AddOp × Term)} {ts : List Token} :
    Operands AddOp.token Term.Derives rest ts → Tally 0 0 (SimpleExpr.countRest rest) ts
  | .nil => .nil
  | .cons h h' => (Tally.addOp _).before (h.tally.append (SimpleExpr.tally_rest h'))

/-- A term and its tokens are in balance, since its first factor is the one it wants. -/
theorem Term.Derives.tally {t : Term} {ts : List Token} : t.Derives ts → Tally 0 0 t.count ts
  | .mk h h' => (Tally.term.append h.tally).append (Term.tally_rest h')

/-- The further factors are in balance: each has a counted operator before it. -/
theorem Term.tally_rest {rest : List (MulOp × Factor)} {ts : List Token} :
    Operands MulOp.token Factor.Derives rest ts → Tally 0 0 (Term.countRest rest) ts
  | .nil => .nil
  | .cons h h' => (Tally.mulOp _).before (h.tally.append (Term.tally_rest h'))

/-- A factor is one more than its tokens tell, until it is in a term; a negation counts for the
factor after it. -/
theorem Factor.Derives.tally {f : Factor} {ts : List Token} : f.Derives ts → Tally 0 1 f.count ts
  | .ident _ | .number _ | .true | .false | .nil => Tally.factor.append (token rfl)
  | .designator h =>
    Tally.factor.append ((token rfl).before (Tally.designator.append (Selector.tally_list h)))
  | .paren h => Tally.factor.append ((token rfl).before (h.tally.append (token rfl)))
  | .not h => Tally.factor.append (Tally.not.before h.tally)
  | .call h => Tally.factor.append ((token rfl).before h.tally)

/-- Arguments and their tokens are in balance. -/
theorem Expr.DerivesArguments.tally {args : List Expr} {ts : List Token} :
    Expr.DerivesArguments args ts → Tally 0 0 (Expr.countList args) ts
  | .none => (token rfl).before (token rfl)
  | .some h => (token rfl).before ((Expr.tally_list h).append (token rfl))

/-- Expressions and their tokens are in balance. -/
theorem Expr.tally_list {es : List Expr} {ts : List Token} :
    Separated .comma Expr.Derives es ts → Tally 0 0 (Expr.countList es) ts
  | .one h => h.tally
  | .more h h' => h.tally.append ((token rfl).before (Expr.tally_list h'))

/-- An access step leaves the token that it begins with. -/
theorem Selector.Derives.tally {s : Selector} {ts : List Token} :
    s.Derives ts → Tally 0 0 s.count ts
  | .field name => .field name
  | .index h => Tally.index.append ((Expr.tally_list h).append (token rfl))
  | .deref => .deref

/-- Access steps and their tokens are in balance. -/
theorem Selector.tally_list {ss : List Selector} {ts : List Token} :
    Repeated Selector.Derives ss ts → Tally 0 0 (Selector.countList ss) ts
  | .nil => .nil
  | .cons h h' => h.tally.append (Selector.tally_list h')

end

/-! ## Statements -/

/-- Labels leave no token that is counted. -/
theorem Label.Derives.tally {l : Label} {ts : List Token} (h : l.Derives ts) : Tally 0 0 0 ts := by
  induction h with
  | number | true | false | nil | ident => exact token rfl
  | negative => exact (token rfl).append (token rfl)
  | plus _ ih => exact (token rfl).append ih

/-- No token of a label is counted. -/
theorem Label.tally_list {ls : List Label} {ts : List Token}
    (h : Separated .comma Label.Derives ls ts) : Tally 0 0 0 ts := by
  induction h with
  | one h => exact h.tally
  | more h _ ih => exact h.tally.before ((token rfl).before ih)

mutual

/-- A statement and its tokens are in balance. -/
theorem Stmt.Derives.tally {s : Stmt} {ts : List Token} : s.Derives ts → Tally 0 0 s.count ts
  | .assign h h' =>
    (token rfl).before ((Tally.statement.append
      (Tally.designator.append (Selector.tally_list h))).append ((token rfl).before h'.tally))
  | .call _ => Tally.statement.append (token rfl)
  | .callWith h => (token rfl).before (Tally.statement.append h.tally)
  | .compound h =>
    (token rfl).before (Tally.statement.append ((Stmt.tally_list h).append (token rfl)))
  | .ifThen h h' =>
    (token rfl).before ((Tally.statement.append h.tally).append ((token rfl).before h'.tally))
  | .ifThenElse h h' h'' => by
    rw [Stmt.count, NodeCount.add_assoc]
    exact (token rfl).before ((Tally.statement.append h.tally).append
      ((token rfl).before (h'.tally.append ((token rfl).before h''.tally))))
  | .caseOfNone h =>
    (token rfl).before ((Tally.statement.append h.tally).append
      ((token rfl).before (token rfl)))
  | @Stmt.Derives.caseOf _ _ _ _ last h h' hlast => by
    have hclose : Tally 0 0 0 (last ++ [.keyword .end]) := by
      rcases hlast with rfl | rfl
      · exact Tally.nil.append (token rfl)
      · exact (token rfl).append (token rfl)
    exact (token rfl).before ((Tally.statement.append h.tally).append
      ((token rfl).before ((CaseArm.tally_list h').append hclose)))
  | .whileDo h h' =>
    (token rfl).before ((Tally.statement.append h.tally).append ((token rfl).before h'.tally))
  | .repeatUntil h h' =>
    (token rfl).before ((Tally.statement.append (Stmt.tally_list h)).append
      ((token rfl).before h'.tally))
  | .forDo h h' h'' => by
    rw [Stmt.count, NodeCount.add_assoc]
    exact (token rfl).before ((token rfl).before ((token rfl).before
      ((Tally.statement.append h.tally).append ((Tally.direction _).before
        (h'.tally.append ((token rfl).before h''.tally))))))
  | .memory kind _ =>
    Tally.statement.append ((Tally.memoryKind kind).before
      ((token rfl).before ((token rfl).before (token rfl))))
  | .empty => .statement

/-- Statements and their tokens are in balance. -/
theorem Stmt.tally_list {body : List Stmt} {ts : List Token} :
    Separated .semicolon Stmt.Derives body ts → Tally 0 0 (Stmt.countList body) ts
  | .one h => h.tally
  | .more h h' => h.tally.append ((token rfl).before (Stmt.tally_list h'))

/-- An arm and its tokens are in balance: its colon comes after its labels. -/
theorem CaseArm.Derives.tally {a : CaseArm} {ts : List Token} :
    a.Derives ts → Tally 0 0 a.count ts
  | .mk h h' => (Label.tally_list h).before ((Tally.arm _).append h'.tally)

/-- Arms and their tokens are in balance. -/
theorem CaseArm.tally_list {arms : List CaseArm} {ts : List Token} :
    Separated .semicolon CaseArm.Derives arms ts → Tally 0 0 (CaseArm.countList arms) ts
  | .one h => h.tally
  | .more h h' => h.tally.append ((token rfl).before (CaseArm.tally_list h'))

end

/-! ## Programs -/

/-- The counts of a tree are those of the tokens of its text. -/
structure Tallies (c : NodeCount) (ts : List Token) : Prop where
  caseArms : c.caseArms = ts.count (.symbol .colon)
  selectors : c.selectors =
    ts.count (.symbol .caret) + ts.count (.symbol .leftBracket) + Token.fieldDots ts
  simpleExpressions : c.simpleExpressions = c.expressions + ts.countP (· ∈ Token.relational)
  factors : c.factors = c.terms + ts.countP (· ∈ Token.multiplying)

/-- Neither the dot at the end of a program nor the end of input is counted. -/
theorem Tally.tallies {c : NodeCount} {ts last : List Token} (h : Tally 0 0 c ts)
    (hlast : last = [.eof] ∨ last = [.symbol .dot, .eof]) : Tallies c (ts ++ last) := by
  obtain ⟨hcolon, hcaret, hbracket, hdots, hrel, hmul⟩ :
      last.count (.symbol .colon) = 0 ∧ last.count (.symbol .caret) = 0 ∧
        last.count (.symbol .leftBracket) = 0 ∧ Token.fieldDots last = 0 ∧
        last.countP (· ∈ Token.relational) = 0 ∧ last.countP (· ∈ Token.multiplying) = 0 := by
    rcases hlast with rfl | rfl <;> exact ⟨rfl, rfl, rfl, rfl, rfl, rfl⟩
  have := h.simpleExpressions
  have := h.factors
  constructor
  · rw [List.count_append, hcolon, h.caseArms, Nat.add_zero]
  · rw [List.count_append, List.count_append, Token.fieldDots_append h.last, hcaret, hbracket,
      hdots, h.selectors, Nat.add_zero, Nat.add_zero, Nat.add_zero]
  · rw [List.countP_append, hrel]
    omega
  · rw [List.countP_append, hmul]
    omega

/-- In a program that was read there are as many arms of case statements as colons in its text, and
as many access steps as carets, opening brackets and dots directly before a name. The simple
expressions beyond the expressions are as many as the comparison operators, and the factors beyond
the terms as many as the operators between factors and the negations. -/
theorem Program.count_eq_tokens {source : String} {ls : List Lexeme} {n : Nat} {p : Program}
    (hs : scan 1 source = .done ls n) (hp : Program.parse source = .ok p) :
    Tallies p.count (ls.map Lexeme.token) := by
  obtain ⟨ls', n', ts, hs', hts, -, hd, -⟩ := Program.parse_eq_ok_iff.1 hp
  cases hs.symm.trans hs'
  rw [hts]
  cases hd with
  | plain h => exact (Stmt.tally_list h).tallies (.inl rfl)
  | dotted h =>
    rw [List.append_assoc]
    exact (Stmt.tally_list h).tallies (.inr rfl)

/-- Each of the counted tokens but the colon stands for more than one kind of node or operator. -/
theorem Program.count_eq_tokens_case :
    let source := "case a[1]^ of 2: x := not b.c < d * 3 end."
    ∃ ls n p, scan 1 source = .done ls n ∧ Program.parse source = .ok p ∧
      p.count.toList = [2, 1, 1, 3, 4, 4, 6, 3, 3] ∧ Tallies p.count (ls.map Lexeme.token) := by
  intro source
  let e (f : Factor) : Expr := f.toExpr
  let subject : Expr := e (.designator ⟨"a", [.index [e (.number 1)], .deref]⟩)
  let negated : Term := (Factor.not (.designator ⟨"b", [.field "c"]⟩)).toTerm
  let value : Expr :=
    .comparison ⟨none, negated, []⟩ .less
      ⟨none, ⟨.ident "d", [(.multiply, .number 3)]⟩, []⟩
  let p : Program := ⟨[.caseOf subject [⟨[.number 2], .assign ⟨"x", []⟩ value⟩]]⟩
  have hp : Program.parse source = .ok p := by decide +kernel
  obtain ⟨ls, n, _, hs, -⟩ := Program.parse_eq_ok_iff.1 hp
  exact ⟨ls, n, p, hs, hp, rfl, Program.count_eq_tokens hs hp⟩

end MiniPascal
