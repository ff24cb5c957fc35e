import MiniPascal.Tree.Stmt

/-!
# The tokens of a tree

`tokens` lists the tokens of a tree, as its text has them: a negative number is a minus sign and a
number, in parentheses where it is a factor, and a branch before an `else` that ends in an open `if`
stands between `begin` and `end`.
-/

namespace MiniPascal

/-! ## The tokens -/

/-- The token is a keyword or a symbol. -/
def Token.IsFixed (t : Token) : Prop :=
  (∃ k, t = .keyword k) ∨ ∃ s, t = .symbol s

/-- The tokens of a number. -/
def Token.ofNumber (n : Int64) : List Token :=
  if n.toInt < 0 then [.symbol .minus, .number (-n)] else [.number n]

/-- The token of a truth value. -/
def Token.ofBool (b : Bool) : Token :=
  if b then .keyword .true else .keyword .false

/-- The tokens of a list in parentheses or brackets, with commas between its members. -/
def Token.ofList (left : Symbol) (tss : List (List Token)) (right : Symbol) : List Token :=
  .symbol left :: ([.symbol .comma].intercalate tss ++ [.symbol right])

/-- The tokens of a label. -/
def Label.tokens : Label → List Token
  | .number n => Token.ofNumber n
  | .bool b => [Token.ofBool b]
  | .nil => [.keyword .nil]
  | .ident x => [.ident x]

mutual

/-- The tokens of an expression. -/
def Expr.tokens : Expr → List Token
  | .simple e => e.tokens
  | .comparison left op right => left.tokens ++ op.token :: right.tokens

/-- The tokens of a simple expression. -/
def SimpleExpr.tokens : SimpleExpr → List Token
  | ⟨none, first, rest⟩ => first.tokens ++ SimpleExpr.restTokens rest
  | ⟨some sign, first, rest⟩ => sign.token :: (first.tokens ++ SimpleExpr.restTokens rest)

/-- The tokens of the further terms, each after its operator. -/
def SimpleExpr.restTokens : List (AddOp × Term) → List Token
  | [] => []
  | (op, term) :: rest => op.token :: (term.tokens ++ SimpleExpr.restTokens rest)

/-- The tokens of a term. -/
def Term.tokens : Term → List Token
  | ⟨first, rest⟩ => first.tokens ++ Term.restTokens rest

/-- The tokens of the further factors, each after its operator. -/
def Term.restTokens : List (MulOp × Factor) → List Token
  | [] => []
  | (op, factor) :: rest => op.token :: (factor.tokens ++ Term.restTokens rest)

/-- The tokens of a factor. -/
def Factor.tokens : Factor → List Token
  | .ident x => [.ident x]
  | .number n =>
    if n.toInt < 0 then .symbol .leftParen :: (Token.ofNumber n ++ [.symbol .rightParen])
    else [.number n]
  | .bool b => [Token.ofBool b]
  | .nil => [.keyword .nil]
  | .designator d => d.tokens
  | .paren e => .symbol .leftParen :: (e.tokens ++ [.symbol .rightParen])
  | .not f => .keyword .not :: f.tokens
  | .call x args => .ident x :: Token.ofList .leftParen (Expr.tokensOf args) .rightParen

/-- The tokens of each expression of a list. -/
def Expr.tokensOf : List Expr → List (List Token)
  | [] => []
  | e :: es => e.tokens :: Expr.tokensOf es

/-- The tokens of a designator. -/
def Designator.tokens : Designator → List Token
  | ⟨x, selectors⟩ => .ident x :: Selector.tokensOf selectors

/-- The tokens of access steps, one after the other. -/
def Selector.tokensOf : List Selector → List Token
  | [] => []
  | s :: ss => s.tokens ++ Selector.tokensOf ss

/-- The tokens of an access step. -/
def Selector.tokens : Selector → List Token
  | .field x => [.symbol .dot, .ident x]
  | .index es => Token.ofList .leftBracket (Expr.tokensOf es) .rightBracket
  | .deref => [.symbol .caret]

end

mutual

/-- The tokens of a statement. -/
def Stmt.tokens : Stmt → List Token
  | .assign target value => target.tokens ++ .symbol .assign :: value.tokens
  | .call x args =>
    .ident x ::
      if args.isEmpty then [] else Token.ofList .leftParen (Expr.tokensOf args) .rightParen
  | .ifThen cond body => .keyword .if :: (cond.tokens ++ .keyword .then :: body.tokens)
  | .ifThenElse cond body other =>
    .keyword .if :: (cond.tokens ++ .keyword .then ::
      ((if body.endsOpen then .keyword .begin :: (body.tokens ++ [.keyword .end])
        else body.tokens) ++ .keyword .else :: other.tokens))
  | .caseOf subject arms =>
    .keyword .case :: (subject.tokens ++ .keyword .of ::
      ([.symbol .semicolon].intercalate (CaseArm.tokensOf arms) ++ [.keyword .end]))
  | .whileDo cond body => .keyword .while :: (cond.tokens ++ .keyword .do :: body.tokens)
  | .repeatUntil body cond =>
    .keyword .repeat ::
      ([.symbol .semicolon].intercalate (Stmt.tokensOf body) ++ .keyword .until :: cond.tokens)
  | .forDo counter start direction finish body =>
    .keyword .for :: .ident counter :: .symbol .assign ::
      (start.tokens ++ direction.token :: (finish.tokens ++ .keyword .do :: body.tokens))
  | .memory kind x => [kind.token, .symbol .leftParen, .ident x, .symbol .rightParen]
  | .compound body =>
    .keyword .begin ::
      ([.symbol .semicolon].intercalate (Stmt.tokensOf body) ++ [.keyword .end])
  | .empty => []

/-- The tokens of each statement of a list. -/
def Stmt.tokensOf : List Stmt → List (List Token)
  | [] => []
  | s :: ss => s.tokens :: Stmt.tokensOf ss

/-- The tokens of an arm of a case statement. -/
def CaseArm.tokens : CaseArm → List Token
  | ⟨labels, body⟩ =>
    [.symbol .comma].intercalate (labels.map Label.tokens) ++ .symbol .colon :: body.tokens

/-- The tokens of each arm of a list. -/
def CaseArm.tokensOf : List CaseArm → List (List Token)
  | [] => []
  | a :: as => a.tokens :: CaseArm.tokensOf as

end

/-- The tokens of a program. -/
def Program.tokens (p : Program) : List Token :=
  [.symbol .semicolon].intercalate (Stmt.tokensOf p.body)

/-- The tokens of statements are listed one by one. -/
theorem Stmt.tokensOf_eq_map (ss : List Stmt) : Stmt.tokensOf ss = ss.map Stmt.tokens := by
  induction ss with
  | nil => rfl
  | cons s ss ih => rw [Stmt.tokensOf, ih, List.map_cons]

/-- The token of a comparison carries nothing. -/
theorem RelOp.token_fixed (op : RelOp) : op.token.IsFixed := by
  cases op <;> exact .inr ⟨_, rfl⟩

/-- The token of an addition carries nothing. -/
theorem AddOp.token_fixed (op : AddOp) : op.token.IsFixed := by
  cases op <;> first | exact .inr ⟨_, rfl⟩ | exact .inl ⟨_, rfl⟩

/-- The token of a multiplication carries nothing. -/
theorem MulOp.token_fixed (op : MulOp) : op.token.IsFixed := by
  cases op <;> first | exact .inr ⟨_, rfl⟩ | exact .inl ⟨_, rfl⟩

/-- The token of a direction carries nothing. -/
theorem Direction.token_fixed (d : Direction) : d.token.IsFixed := by
  cases d <;> exact .inl ⟨_, rfl⟩

/-- The token of a sign carries nothing. -/
theorem Sign.token_fixed (s : Sign) : s.token.IsFixed := by
  cases s <;> exact .inr ⟨_, rfl⟩

/-- The token of a memory statement carries nothing. -/
theorem MemoryKind.token_fixed (k : MemoryKind) : k.token.IsFixed := by
  cases k <;> exact .inl ⟨_, rfl⟩

end MiniPascal
