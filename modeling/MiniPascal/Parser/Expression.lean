import MiniPascal.Parser.Basic
import MiniPascal.Tree.Expr

/-!
# The grammar of expressions

    expression = simple [ ( "=" | "<>" | "<" | "<=" | ">" | ">=" ) simple ]
    simple     = [ "+" | "-" ] term { ( "+" | "-" | "or" ) term }
    term       = factor { ( "*" | "/" | "div" | "mod" | "and" ) factor }
    factor     = name | number | "true" | "false" | "nil" | name selector { selector }
               | "(" expression ")" | "not" factor | name arguments
    selector   = "." name | "[" expression { "," expression } "]" | "^"
    arguments  = "(" [ expression { "," expression } ] ")"

Each layer is a parser made from the parser of factors, and `factor` is the fixed point. A dot
selects a field only before a name; before anything else it is left for the end of the program.
-/

namespace MiniPascal.Parser

/-! ## The layers above a parser of factors -/

/-- A term. -/
def termOf (factor : Parser Factor) : Parser Term := do
  let first ← factor
  let rest ← operands MulOp.ofToken? factor
  return ⟨first, rest⟩

/-- A simple expression. -/
def simpleOf (factor : Parser Factor) : Parser SimpleExpr := do
  let sign ← take? Sign.ofToken?
  let first ← termOf factor
  let rest ← operands AddOp.ofToken? (termOf factor)
  return ⟨sign, first, rest⟩

/-- An expression. -/
def expressionOf (factor : Parser Factor) : Parser Expr := do
  let left ← simpleOf factor
  match ← take? RelOp.ofToken? with
  | some op => return .comparison left op (← simpleOf factor)
  | none => return .simple left

/-! ## Access steps and arguments -/

/-- An access step, if one stands at the cursor. -/
def selectorOf? (expression : Parser Expr) : Parser (Option Selector) := do
  match ← token with
  | .symbol .dot =>
    match ← nextToken with
    | .ident name =>
      advance
      advance
      return some (.field name)
    | _ => return none
  | .symbol .leftBracket =>
    advance
    let indices ← separated .comma expression
    expect (.symbol .rightBracket)
    return some (← Run.ofExcept (Selector.ofIndices indices))
  | .symbol .caret =>
    advance
    return some .deref
  | _ => return none

/-- The arguments of a call, in their parentheses. -/
def argumentsOf (expression : Parser Expr) : Parser (List Expr) := do
  expect (.symbol .leftParen)
  if ← accept (.symbol .rightParen) then return []
  else
    let args ← separated .comma expression
    expect (.symbol .rightParen)
    return args

/-! ## Factors -/

/-- What a name begins: a call, a designator, or the name alone. -/
def namedOf (expression : Parser Expr) (name : String) : Parser Factor := do
  if (← token) = .symbol .leftParen then return .call name (← argumentsOf expression)
  else
    let selectors ← many (selectorOf? expression)
    return if selectors.isEmpty then .ident name else .designator ⟨name, selectors⟩

/-- A factor, with `factor` for the factors inside it. -/
def factorOf (factor : Parser Factor) : Parser Factor := do
  match ← token with
  | .ident name =>
    advance
    namedOf (expressionOf factor) name
  | .number n =>
    advance
    return .number n
  | .keyword .true =>
    advance
    return .bool true
  | .keyword .false =>
    advance
    return .bool false
  | .keyword .nil =>
    advance
    return .nil
  | .symbol .leftParen =>
    advance
    let e ← expressionOf factor
    expect (.symbol .rightParen)
    return .paren e
  | .keyword .not =>
    advance
    return .not (← factor)
  | _ => mismatch "factor"

/-- A factor. -/
def factor : Parser Factor :=
  fix factorOf

/-- An expression. -/
def expression : Parser Expr :=
  expressionOf factor

/-- An expression and nothing after it. -/
def wholeExpression : Parser Expr := do
  let e ← expression
  if (← token) = .eof then return e else unexpected

end MiniPascal.Parser
