import MiniPascal.Parser.Expression
import MiniPascal.Tree.Stmt

/-!
# The grammar of statements

    program   = statements [ "." ]
    statements = statement { ";" statement }
    statement = [ name { selector } ":=" expression
                | name [ arguments ]
                | "begin" statements "end"
                | "if" expression "then" statement [ "else" statement ]
                | "case" expression "of" [ arm { ";" arm } [ ";" ] ] "end"
                | "while" expression "do" statement
                | "repeat" statements "until" expression
                | "for" name ":=" expression ( "to" | "downto" ) expression "do" statement
                | ( "new" | "dispose" ) "(" name ")" ]
    arm       = label { "," label } ":" statement
    label     = [ "+" | "-" ] number | [ "+" ] ( "true" | "false" | "nil" | name )

An `else` belongs to the nearest `if`. A plus sign before a label leaves no trace. Whatever begins
no other statement is left where it is, after an empty statement.
-/

namespace MiniPascal.Parser

/-! ## Labels and arms of a case statement -/

/-- A label. -/
def label : Parser Label := do
  match ← take? Sign.ofToken?, ← token with
  | some .minus, .number n =>
    if n = Int64.minValue then Run.fail .labelOverflow
    else
      advance
      return .number (-n)
  | some .minus, _ => mismatch "constant"
  | _, .number n =>
    advance
    return .number n
  | _, .keyword .true =>
    advance
    return .bool true
  | _, .keyword .false =>
    advance
    return .bool false
  | _, .keyword .nil =>
    advance
    return .nil
  | _, .ident name =>
    advance
    return .ident name
  | _, _ => mismatch "constant"

/-- An arm of a case statement. -/
def armOf (statement : Parser Stmt) : Parser CaseArm := do
  let labels ← separated .comma label
  expect (.symbol .colon)
  let body ← statement
  return ⟨labels, body⟩

/-- The arms of a case statement, as far as its `end`. -/
def armsOf (statement : Parser Stmt) : Parser (List CaseArm) := do
  if (← token) = .keyword .end then return []
  else
    let first ← armOf statement
    let rest ← many do
      if ← accept (.symbol .semicolon) then
        if (← token) = .keyword .end then return none else some <$> armOf statement
      else return none
    return first :: rest

/-! ## Statements -/

/-- What a name begins: an assignment, or a call with or without arguments. -/
def namedStatement (name : String) : Parser Stmt := do
  let selectors ← many (selectorOf? expression)
  if !selectors.isEmpty || (← token) = .symbol .assign then
    expect (.symbol .assign)
    let value ← expression
    return .assign ⟨name, selectors⟩ value
  else if (← token) = .symbol .leftParen then return .call name (← argumentsOf expression)
  else return .call name []

/-- The rest of an `if` statement. -/
def conditionalOf (statement : Parser Stmt) : Parser Stmt := do
  let cond ← expression
  expect (.keyword .then)
  let body ← statement
  if ← accept (.keyword .else) then
    let other ← statement
    return .ifThenElse cond body other
  else return .ifThen cond body

/-- The rest of a case statement. -/
def caseOf (statement : Parser Stmt) : Parser Stmt := do
  let subject ← expression
  expect (.keyword .of)
  let arms ← armsOf statement
  expect (.keyword .end)
  return .caseOf subject arms

/-- The rest of a `while` loop. -/
def whileOf (statement : Parser Stmt) : Parser Stmt := do
  let cond ← expression
  expect (.keyword .do)
  let body ← statement
  return .whileDo cond body

/-- The rest of a `repeat` loop. -/
def repeatOf (statement : Parser Stmt) : Parser Stmt := do
  let body ← separated .semicolon statement
  expect (.keyword .until)
  let cond ← expression
  return .repeatUntil body cond

/-- The rest of a counted loop. -/
def forOf (statement : Parser Stmt) : Parser Stmt := do
  let counter ← ident
  expect (.symbol .assign)
  let start ← expression
  match ← take? Direction.ofToken? with
  | some direction =>
    let finish ← expression
    expect (.keyword .do)
    let body ← statement
    return .forDo counter start direction finish body
  | none => mismatch "to or downto"

/-- The rest of a memory statement. -/
def memoryOf (kind : MemoryKind) : Parser Stmt := do
  expect (.symbol .leftParen)
  let name ← ident
  expect (.symbol .rightParen)
  return .memory kind name

/-- The rest of a compound statement. -/
def compoundOf (statement : Parser Stmt) : Parser Stmt := do
  let body ← separated .semicolon statement
  expect (.keyword .end)
  return .compound body

/-- A statement, with `statement` for the statements inside it. -/
def statementOf (statement : Parser Stmt) : Parser Stmt := do
  match ← token with
  | .ident name =>
    advance
    namedStatement name
  | .keyword .begin =>
    advance
    compoundOf statement
  | .keyword .if =>
    advance
    conditionalOf statement
  | .keyword .case =>
    advance
    caseOf statement
  | .keyword .while =>
    advance
    whileOf statement
  | .keyword .repeat =>
    advance
    repeatOf statement
  | .keyword .for =>
    advance
    forOf statement
  | .keyword .new =>
    advance
    memoryOf .new
  | .keyword .dispose =>
    advance
    memoryOf .dispose
  | _ => return .empty

/-- A statement. -/
def statement : Parser Stmt :=
  fix statementOf

/-- A whole program: nothing but a dot may follow its statements. -/
def program : Parser Program := do
  let body ← separated .semicolon statement
  let _ ← accept (.symbol .dot)
  if (← token) = .eof then return ⟨body⟩ else unexpected

end MiniPascal.Parser
