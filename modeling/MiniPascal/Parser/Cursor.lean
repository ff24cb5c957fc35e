import MiniPascal.Token

/-!
# Cursors

A cursor stands in a list of lexemes. Past the last lexeme it stands on an end of input, on the line
of that lexeme, however often it is advanced. It keeps count of the lexemes before it, so that the
progress of a reading is seen at once.

Every cursor is one before some lexemes (`Cursor.exists_eq_before`), and the lemmas on `before` say
what is found there.
-/

namespace MiniPascal

/-- The lexemes that are still to be read and how many they are, and the line of the last lexeme of
the whole list. -/
structure Cursor where
  rest : List Lexeme
  lastLine : Nat
  remaining : Nat
  remaining_eq : remaining = rest.length
  deriving DecidableEq

namespace Cursor

/-- The cursor before some lexemes, the last of all lexemes being on the given line. -/
def before (ls : List Lexeme) (lastLine : Nat) : Cursor :=
  ⟨ls, lastLine, ls.length, rfl⟩

/-- The cursor before the first lexeme of a list. An empty list ends on line 1. -/
def ofLexemes (ls : List Lexeme) : Cursor :=
  before ls ((ls.getLast?.map Lexeme.line).getD 1)

/-- The token the cursor stands on. -/
def token (c : Cursor) : Token :=
  match c.rest with
  | [] => .eof
  | l :: _ => l.token

/-- The line of the token the cursor stands on. -/
def line (c : Cursor) : Nat :=
  match c.rest with
  | [] => c.lastLine
  | l :: _ => l.line

/-- The cursor one token further on. -/
def advance (c : Cursor) : Cursor :=
  ⟨c.rest.tail, c.lastLine, c.remaining - 1, by rw [c.remaining_eq, List.length_tail]⟩

/-- A cursor stands before some lexemes. -/
theorem exists_eq_before (c : Cursor) : ∃ ls n, c = before ls n := by
  obtain ⟨ls, n, _, rfl⟩ := c
  exact ⟨ls, n, rfl⟩

/-- The lexemes that a cursor stands before are left. -/
@[simp] theorem rest_before (ls : List Lexeme) (n : Nat) : (before ls n).rest = ls := rfl

@[simp] theorem lastLine_before (ls : List Lexeme) (n : Nat) : (before ls n).lastLine = n := rfl

@[simp] theorem remaining_before (ls : List Lexeme) (n : Nat) :
    (before ls n).remaining = ls.length := rfl

@[simp] theorem token_before_nil (n : Nat) : (before [] n).token = .eof := rfl

/-- The first lexeme has the token that a cursor stands on. -/
@[simp] theorem token_before_cons (l : Lexeme) (ls : List Lexeme) (n : Nat) :
    (before (l :: ls) n).token = l.token := rfl

@[simp] theorem line_before_nil (n : Nat) : (before [] n).line = n := rfl

/-- The first lexeme has the line of a cursor. -/
@[simp] theorem line_before_cons (l : Lexeme) (ls : List Lexeme) (n : Nat) :
    (before (l :: ls) n).line = l.line := rfl

/-- Going on by a lexeme leaves the others. -/
@[simp] theorem advance_before (ls : List Lexeme) (n : Nat) :
    (before ls n).advance = before ls.tail n := by
  cases ls <;> rfl

/-- A new cursor has all lexemes left. -/
@[simp] theorem rest_ofLexemes (ls : List Lexeme) : (ofLexemes ls).rest = ls := rfl

/-- Going on by a lexeme leaves those after it. -/
@[simp] theorem rest_advance (c : Cursor) : c.advance.rest = c.rest.tail := rfl

/-- Going on by a lexeme does not change the line of the last one. -/
@[simp] theorem lastLine_advance (c : Cursor) : c.advance.lastLine = c.lastLine := rfl

/-- A cursor that does not stand on the end of input has a lexeme before it. -/
theorem exists_cons_of_token_ne {c : Cursor} (h : c.token ≠ .eof) :
    ∃ l ls n, c = before (l :: ls) n := by
  obtain ⟨ls, n, rfl⟩ := c.exists_eq_before
  cases ls with
  | nil => exact absurd rfl h
  | cons l ls => exact ⟨l, ls, n, rfl⟩

/-- Advancing past a token leaves fewer lexemes. -/
theorem remaining_advance_lt {c : Cursor} (h : c.token ≠ .eof) :
    c.advance.remaining < c.remaining := by
  obtain ⟨l, ls, n, rfl⟩ := exists_cons_of_token_ne h
  simp

end Cursor

end MiniPascal
