import MiniPascal.Parser.Statement
import MiniPascal.Scan
import MiniPascal.Tree.Text

/-!
# Reading source text

`Program.parse` and `Expr.parse` read a whole text. A `Request` asks a parser for one of the two
from wherever it stands; `Cursor.answers` serves a list of requests one after the other, each from
the cursor that the one before it left, whether it succeeded or failed.
-/

namespace MiniPascal

/-- The program that a source text holds. -/
def Program.parse (source : String) : Except Error Program := do
  let lexemes ← (scan 1 source).toExcept
  (Parser.program (.ofLexemes lexemes)).toExcept

/-- The expression that a source text holds. -/
def Expr.parse (source : String) : Except Error Expr := do
  let lexemes ← (scan 1 source).toExcept
  (Parser.wholeExpression (.ofLexemes lexemes)).toExcept

/-! ## Requests -/

/-- What a parser may be asked for. -/
inductive Request where
  | program
  | expression
  deriving DecidableEq

/-- The tree a request is answered with. -/
inductive Tree where
  | program (p : Program)
  | expression (e : Expr)

/-- The text of a tree. -/
def Tree.text : Tree → String
  | .program p => p.text
  | .expression e => e.text

/-- The parser that serves a request. -/
def Request.parser : Request → Parser Tree
  | .program => .program <$> Parser.program
  | .expression => .expression <$> Parser.wholeExpression

/-- The outcomes of requests made one after the other of one parser. A fault ends the run. -/
def Cursor.answers (c : Cursor) : List Request → List (Outcome Cursor Tree)
  | [] => []
  | r :: rs =>
    match r.parser c with
    | .done t d => .done t d :: d.answers rs
    | .stop e d => .stop e d :: if e.isFault then [] else d.answers rs

end MiniPascal
