import MiniPascal.Decimal

/-!
# Errors

Everything that can go wrong between a file name and a report, by cause. `Error.message` is the
text shown to the user, `Error.line?` the source line an error points at, and `Error.hasSource`
says whether the error wraps one from outside: the file system or the pattern reader.
-/

namespace MiniPascal

/-- A cause of failure. -/
inductive Error where
  /-- The file cannot be a source file; the message says why. -/
  | unacceptedFile (message : String)
  /-- The file system refused. -/
  | io (message : String)
  /-- A character that starts neither white space, a comment nor a token. -/
  | unknownCharacter (c : Char) (line : Nat)
  /-- A comment that is never closed; `line` is where it opens. -/
  | unterminatedComment (line : Nat)
  /-- A run of digits whose value does not fit 63 bits. -/
  | invalidNumber (digits : String) (line : Nat)
  /-- One thing was needed and another found. -/
  | mismatch (expected found : String) (line : Nat)
  /-- The program is complete, but a token follows. -/
  | unexpectedToken (found : String) (line : Nat)
  /-- A name pattern that is not well formed. -/
  | invalidPattern (detail : String)
  /-- A stage of the run gave up. -/
  | failedStage (stage message : String)
  /-- A minus sign before the least number, whose negation does not fit 64 bits. -/
  | labelOverflow
  /-- An array access without an index. -/
  | emptyIndex
  deriving DecidableEq

namespace Error

/-- The text shown to the user. -/
def message : Error → String
  | .unacceptedFile message => "File read error: " ++ message
  | .io message => "I/O error: " ++ message
  | .unknownCharacter c line =>
    "Unknown token '" ++ String.singleton c ++ "' at line " ++ Decimal.text line
  | .unterminatedComment line => "Unterminated comment at line " ++ Decimal.text line
  | .invalidNumber digits line =>
    "Invalid number '" ++ digits ++ "' at line " ++ Decimal.text line
  | .mismatch expected found line =>
    "Syntax error at line " ++ Decimal.text line ++ ": expected '" ++ expected ++ "', found '"
      ++ found ++ "'"
  | .unexpectedToken found line =>
    "Unexpected token '" ++ found ++ "' at line " ++ Decimal.text line
  | .invalidPattern detail => "Invalid identifier pattern: " ++ detail
  | .failedStage stage message => "Compilation error in " ++ stage ++ ": " ++ message
  | .labelOverflow => "attempt to negate with overflow"
  | .emptyIndex => "array access needs at least one index"

/-- The source line an error points at. -/
def line? : Error → Option Nat
  | .unknownCharacter _ line
  | .unterminatedComment line
  | .invalidNumber _ line
  | .mismatch _ _ line
  | .unexpectedToken _ line => some line
  | .unacceptedFile _
  | .io _
  | .invalidPattern _
  | .failedStage _ _
  | .labelOverflow
  | .emptyIndex => none

/-- The error wraps an error of the file system or of the pattern reader. -/
def hasSource : Error → Bool
  | .io _ | .invalidPattern _ => true
  | _ => false

/-- The error breaks off the run: it is no answer about a source text. -/
def isFault : Error → Bool
  | .labelOverflow | .emptyIndex => true
  | _ => false

end Error

end MiniPascal
