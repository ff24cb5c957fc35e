import MiniPascal.Tree.Stmt

/-!
# The grammar as a relation

A tree `Derives` a list of tokens if the grammar derives the list with that tree. There is one rule
for each alternative of the grammar

    program    = statements [ "." ]
    statements = statement { ";" statement }
    statement  = [ name { selector } ":=" expression
                 | name [ arguments ]
                 | "begin" statements "end"
                 | "if" expression "then" statement [ "else" statement ]
                 | "case" expression "of" [ arm { ";" arm } [ ";" ] ] "end"
                 | "while" expression "do" statement
                 | "repeat" statements "until" expression
                 | "for" name ":=" expression ( "to" | "downto" ) expression "do" statement
                 | ( "new" | "dispose" ) "(" name ")" ]
    arm        = label { "," label } ":" statement
    label      = [ "+" | "-" ] number | [ "+" ] ( "true" | "false" | "nil" | name )
    expression = simple [ ( "=" | "<>" | "<" | "<=" | ">" | ">=" ) simple ]
    simple     = [ "+" | "-" ] term { ( "+" | "-" | "or" ) term }
    term       = factor { ( "*" | "/" | "div" | "mod" | "and" ) factor }
    factor     = name | number | "true" | "false" | "nil" | name selector { selector }
               | "(" expression ")" | "not" factor | name arguments
    selector   = "." name | "[" expression { "," expression } "]" | "^"
    arguments  = "(" [ expression { "," expression } ] ")"

The grammar is ambiguous in one place: it does not say to which `if` an `else` belongs. The rule
that it is the nearest one is `Stmt.NearestElse`, a condition on the tree.
-/

namespace MiniPascal

/-! ## Repetitions -/

section
variable {α β : Type}

/-- Items with a symbol between them; at least one. -/
inductive Separated (sep : Symbol) (R : α → List Token → Prop) : List α → List Token → Prop
  | one {a ts} : R a ts → Separated sep R [a] ts
  | more {a as ts us} : R a ts → Separated sep R as us →
      Separated sep R (a :: as) (ts ++ .symbol sep :: us)

/-- Items one after the other; perhaps none. -/
inductive Repeated (R : α → List Token → Prop) : List α → List Token → Prop
  | nil : Repeated R [] []
  | cons {a as ts us} : R a ts → Repeated R as us → Repeated R (a :: as) (ts ++ us)

/-- Operators with the operand after each; perhaps none. -/
inductive Operands (token : β → Token) (R : α → List Token → Prop) :
    List (β × α) → List Token → Prop
  | nil : Operands token R [] []
  | cons {op a rest ts us} : R a ts → Operands token R rest us →
      Operands token R ((op, a) :: rest) (token op :: (ts ++ us))

end

/-! ## Expressions -/

mutual

/-- What an expression derives. -/
inductive Expr.Derives : Expr → List Token → Prop
  | simple {e ts} : SimpleExpr.Derives e ts → Expr.Derives (.simple e) ts
  | comparison {left op right ts us} : SimpleExpr.Derives left ts → SimpleExpr.Derives right us →
      Expr.Derives (.comparison left op right) (ts ++ op.token :: us)

/-- What a simple expression derives. -/
inductive SimpleExpr.Derives : SimpleExpr → List Token → Prop
  | unsigned {first rest ts us} : Term.Derives first ts →
      Operands AddOp.token Term.Derives rest us →
      SimpleExpr.Derives ⟨none, first, rest⟩ (ts ++ us)
  | signed {sign first rest ts us} : Term.Derives first ts →
      Operands AddOp.token Term.Derives rest us →
      SimpleExpr.Derives ⟨some sign, first, rest⟩ (sign.token :: (ts ++ us))

/-- What a term derives. -/
inductive Term.Derives : Term → List Token → Prop
  | mk {first rest ts us} : Factor.Derives first ts →
      Operands MulOp.token Factor.Derives rest us → Term.Derives ⟨first, rest⟩ (ts ++ us)

/-- What a factor derives. A name without access steps is no designator. -/
inductive Factor.Derives : Factor → List Token → Prop
  | ident (name) : Factor.Derives (.ident name) [.ident name]
  | number (n) : Factor.Derives (.number n) [.number n]
  | true : Factor.Derives (.bool true) [.keyword .true]
  | false : Factor.Derives (.bool false) [.keyword .false]
  | nil : Factor.Derives .nil [.keyword .nil]
  | designator {name s selectors ts} : Repeated Selector.Derives (s :: selectors) ts →
      Factor.Derives (.designator ⟨name, s :: selectors⟩) (.ident name :: ts)
  | paren {e ts} : Expr.Derives e ts →
      Factor.Derives (.paren e) (.symbol .leftParen :: (ts ++ [.symbol .rightParen]))
  | not {f ts} : Factor.Derives f ts → Factor.Derives (.not f) (.keyword .not :: ts)
  | call {name args ts} : Expr.DerivesArguments args ts →
      Factor.Derives (.call name args) (.ident name :: ts)

/-- What the arguments of a call derive, with their parentheses. -/
inductive Expr.DerivesArguments : List Expr → List Token → Prop
  | none : Expr.DerivesArguments [] [.symbol .leftParen, .symbol .rightParen]
  | some {args ts} : Separated .comma Expr.Derives args ts →
      Expr.DerivesArguments args (.symbol .leftParen :: (ts ++ [.symbol .rightParen]))

/-- What an access step derives. -/
inductive Selector.Derives : Selector → List Token → Prop
  | field (name) : Selector.Derives (.field name) [.symbol .dot, .ident name]
  | index {indices ts} : Separated .comma Expr.Derives indices ts →
      Selector.Derives (.index indices) (.symbol .leftBracket :: (ts ++ [.symbol .rightBracket]))
  | deref : Selector.Derives .deref [.symbol .caret]

end

/-! ## Statements -/

/-- What a label derives. A plus sign leaves no trace. The least number has no negation, so it is no
label after a minus sign; a source text holds no such number. -/
inductive Label.Derives : Label → List Token → Prop
  | number (n) : Label.Derives (.number n) [.number n]
  | negative (n) : n ≠ Int64.minValue → Label.Derives (.number (-n)) [.symbol .minus, .number n]
  | true : Label.Derives (.bool true) [.keyword .true]
  | false : Label.Derives (.bool false) [.keyword .false]
  | nil : Label.Derives .nil [.keyword .nil]
  | ident (name) : Label.Derives (.ident name) [.ident name]
  | plus {l t} : Label.Derives l [t] → Label.Derives l [.symbol .plus, t]

mutual

/-- What a statement derives. -/
inductive Stmt.Derives : Stmt → List Token → Prop
  | assign {name selectors value ts us} : Repeated Selector.Derives selectors ts →
      Expr.Derives value us →
      Stmt.Derives (.assign ⟨name, selectors⟩ value) (.ident name :: (ts ++ .symbol .assign :: us))
  | call (name) : Stmt.Derives (.call name []) [.ident name]
  | callWith {name args ts} : Expr.DerivesArguments args ts →
      Stmt.Derives (.call name args) (.ident name :: ts)
  | compound {body ts} : Separated .semicolon Stmt.Derives body ts →
      Stmt.Derives (.compound body) (.keyword .begin :: (ts ++ [.keyword .end]))
  | ifThen {cond body ts us} : Expr.Derives cond ts → Stmt.Derives body us →
      Stmt.Derives (.ifThen cond body) (.keyword .if :: (ts ++ .keyword .then :: us))
  | ifThenElse {cond body other ts us vs} : Expr.Derives cond ts → Stmt.Derives body us →
      Stmt.Derives other vs →
      Stmt.Derives (.ifThenElse cond body other)
        (.keyword .if :: (ts ++ .keyword .then :: (us ++ .keyword .else :: vs)))
  | caseOfNone {subject ts} : Expr.Derives subject ts →
      Stmt.Derives (.caseOf subject []) (.keyword .case :: (ts ++ [.keyword .of, .keyword .end]))
  | caseOf {subject arms ts us last} : Expr.Derives subject ts →
      Separated .semicolon CaseArm.Derives arms us → last = [] ∨ last = [.symbol .semicolon] →
      Stmt.Derives (.caseOf subject arms)
        (.keyword .case :: (ts ++ .keyword .of :: (us ++ (last ++ [.keyword .end]))))
  | whileDo {cond body ts us} : Expr.Derives cond ts → Stmt.Derives body us →
      Stmt.Derives (.whileDo cond body) (.keyword .while :: (ts ++ .keyword .do :: us))
  | repeatUntil {body cond ts us} : Separated .semicolon Stmt.Derives body ts →
      Expr.Derives cond us →
      Stmt.Derives (.repeatUntil body cond) (.keyword .repeat :: (ts ++ .keyword .until :: us))
  | forDo {counter start direction finish body ts us vs} : Expr.Derives start ts →
      Expr.Derives finish us → Stmt.Derives body vs →
      Stmt.Derives (.forDo counter start direction finish body)
        (.keyword .for :: .ident counter :: .symbol .assign ::
          (ts ++ direction.token :: (us ++ .keyword .do :: vs)))
  | memory (kind name) :
      Stmt.Derives (.memory kind name)
        [kind.token, .symbol .leftParen, .ident name, .symbol .rightParen]
  | empty : Stmt.Derives .empty []

/-- What an arm of a case statement derives. -/
inductive CaseArm.Derives : CaseArm → List Token → Prop
  | mk {labels body ts us} : Separated .comma Label.Derives labels ts → Stmt.Derives body us →
      CaseArm.Derives ⟨labels, body⟩ (ts ++ .symbol .colon :: us)

end

/-- What a program derives. -/
inductive Program.Derives : Program → List Token → Prop
  | plain {body ts} : Separated .semicolon Stmt.Derives body ts → Program.Derives ⟨body⟩ ts
  | dotted {body ts} : Separated .semicolon Stmt.Derives body ts →
      Program.Derives ⟨body⟩ (ts ++ [.symbol .dot])

/-! ## The nearest if -/

mutual

/-- Every `else` in the statement belongs to the nearest `if`: no branch before an `else` ends in an
`if` that has none. -/
def Stmt.NearestElse : Stmt → Prop
  | .assign _ _ | .call _ _ | .memory _ _ | .empty => True
  | .ifThen _ body => body.NearestElse
  | .ifThenElse _ body other => body.endsOpen = false ∧ body.NearestElse ∧ other.NearestElse
  | .caseOf _ arms => CaseArm.NearestElseList arms
  | .whileDo _ body => body.NearestElse
  | .repeatUntil body _ => Stmt.NearestElseList body
  | .forDo _ _ _ _ body => body.NearestElse
  | .compound body => Stmt.NearestElseList body

/-- `Stmt.NearestElse` over a list of statements. -/
def Stmt.NearestElseList : List Stmt → Prop
  | [] => True
  | s :: rest => s.NearestElse ∧ Stmt.NearestElseList rest

/-- `Stmt.NearestElse` of the body of an arm. -/
def CaseArm.NearestElse : CaseArm → Prop
  | ⟨_, body⟩ => body.NearestElse

/-- `CaseArm.NearestElse` over a list of arms. -/
def CaseArm.NearestElseList : List CaseArm → Prop
  | [] => True
  | arm :: rest => arm.NearestElse ∧ CaseArm.NearestElseList rest

end

/-- Every `else` in the program belongs to the nearest `if`. -/
def Program.NearestElse (p : Program) : Prop :=
  Stmt.NearestElseList p.body

end MiniPascal
