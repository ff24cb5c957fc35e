import MiniPascal.Passes
import MiniPascal.Pattern.Parse

/-!
# Compiling patterns

`Pattern.compile` is the compiler of patterns that the program runs with: a pattern fits a name if
it fits some part of the name. It knows the usual patterns, but not every class of characters.
Nothing else depends on what it accepts, since searches and reports take any compiler.
-/

namespace MiniPascal

/-- The name fits the pattern. -/
def Pattern.fits (pattern : Pattern) (name : String) : Bool :=
  pattern.matchesIn name.toList

/-- The test of names that the text of a pattern describes, or why the text is no pattern. -/
def Pattern.compile : PatternCompiler := fun text =>
  match Pattern.parse text with
  | .ok pattern => .ok pattern.fits
  | .error (.invalidPattern detail) => .error detail
  | .error e => .error e.message

end MiniPascal
