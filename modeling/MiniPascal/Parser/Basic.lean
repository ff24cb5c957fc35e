import MiniPascal.Outcome
import MiniPascal.Parser.Cursor

/-!
# Parsers

A parser reads from a cursor and ends with a value or an error, at the cursor it reached. `many`
repeats a parser and `fix` ties one to itself. They go on only where lexemes have been used up; a
grammar whose repetitions and nestings all begin with a token never notices the test.
-/

namespace MiniPascal

/-- A reader of values from a cursor. -/
abbrev Parser (α : Type) : Type := Run Cursor α

namespace Parser

variable {α β : Type}

/-! ## Single tokens -/

/-- The token at the cursor, which stays. -/
def token : Parser Token := fun c => .done c.token c

/-- The token after the one at the cursor, which stays. -/
def nextToken : Parser Token := fun c => .done c.advance.token c

/-- Goes one token further. -/
def advance : Parser Unit := fun c => .done () c.advance

/-- Gives up because the token at the cursor is not what was needed. -/
def mismatch (expected : String) : Parser α := fun c =>
  .stop (.mismatch expected c.token.text c.line) c

/-- Gives up because a token stands where the input should have ended. -/
def unexpected : Parser α := fun c =>
  .stop (.unexpectedToken c.token.text c.line) c

/-- Reads the given keyword or symbol. -/
def expect (t : Token) : Parser Unit := do
  if (← token) = t then advance else mismatch t.text

/-- Reads the given keyword or symbol if it stands at the cursor, and tells whether it did. -/
def accept (t : Token) : Parser Bool := do
  if (← token) = t then
    advance
    return true
  else return false

/-- Reads the token at the cursor if `f` gives it a meaning. -/
def take? (f : Token → Option α) : Parser (Option α) := do
  match f (← token) with
  | some a =>
    advance
    return some a
  | none => return none

/-- Reads a name. -/
def ident : Parser String := do
  match ← token with
  | .ident name =>
    advance
    return name
  | _ => mismatch "identifier"

/-! ## Repetition and recursion -/

/-- Reads values until `next` has none. -/
def many (next : Parser (Option α)) : Parser (List α) :=
  Run.many Cursor.remaining next

/-- The parser that `body` makes from itself. It may call itself only after a token; where it does
not, the token at the cursor is reported. -/
def fix (body : Parser α → Parser α) : Parser α :=
  Run.fix Cursor.remaining unexpected body

/-- Values read by `p` with the symbol `sep` between them; at least one. -/
def separated (sep : Symbol) (p : Parser α) : Parser (List α) := do
  let first ← p
  let rest ← many do
    if ← accept (.symbol sep) then some <$> p else return none
  return first :: rest

/-- Operators that `op?` knows, each with the operand after it; perhaps none. -/
def operands (op? : Token → Option β) (operand : Parser α) : Parser (List (β × α)) :=
  many do
    match ← take? op? with
    | some op => return some (op, ← operand)
    | none => return none

end Parser

end MiniPascal
