import MiniPascal.CommandLine.Options
import MiniPascal.Passes
import MiniPascal.Source
import MiniPascal.SourceFile

/-!
# Reports

What the program prints about a source file. `report` goes through the stages: find the file, read
it, scan it, parse it, and then show what was asked for. Each stage prints before the next one may
fail, so a report that fails keeps what was printed up to then. What makes a test of the pattern to
search for is a parameter. `Report.ofRun` turns the result into the two output texts and the exit
code.
-/

namespace MiniPascal

/-! ## Layout -/

/-- The text with spaces after it up to the given width. -/
def padRight (width : Nat) (s : String) : String :=
  s ++ String.ofList (List.replicate (width - s.length) ' ')

/-- The text with spaces before it up to the given width. -/
def padLeft (width : Nat) (s : String) : String :=
  String.ofList (List.replicate (width - s.length) ' ') ++ s

/-- How long the stages took, in milliseconds. -/
structure Timing where
  scanning : Nat
  parsing : Nat
  total : Nat

/-- Milliseconds as seconds with three places. -/
def secondsText (ms : Nat) : String :=
  let places := Decimal.digits (ms % 1000)
  Decimal.text (ms / 1000) ++ "."
    ++ String.ofList (List.replicate (3 - places.length) '0' ++ places)

/-! ## Blocks -/

/-- The tree as source text. -/
def treeBlock (p : Program) : String :=
  "\nAbstract Syntax Tree:\n"
    ++ (if p.body.all Stmt.isEmpty then "  (empty)" else p.text) ++ "\n"

/-- A line of the counts. -/
def countLine (label : String) (n : Nat) : String :=
  "  " ++ padRight 21 label ++ Decimal.text n ++ "\n"

/-- The number of nodes on each layer. -/
def countsBlock (c : NodeCount) : String :=
  "\nNode counts:\n"
    ++ countLine "Statements:" c.statements
    ++ countLine "Case arms:" c.caseArms
    ++ countLine "Case labels:" c.caseLabels
    ++ countLine "Expressions:" c.expressions
    ++ countLine "Simple expressions:" c.simpleExpressions
    ++ countLine "Terms:" c.terms
    ++ countLine "Factors:" c.factors
    ++ countLine "Designators:" c.designators
    ++ countLine "Designator items:" c.selectors
    ++ countLine "Total:" c.total

/-- The references to names that fit a pattern. -/
def matchesBlock (pattern : String) (refs : List Reference) : String :=
  "\nIdentifiers matching '" ++ pattern ++ "':\n"
    ++ (if refs.isEmpty then "  (none)\n"
      else String.join (refs.map fun r => "  " ++ padRight 20 r.name ++ " " ++ r.role.text ++ "\n"))

/-- How long the stages took, and the number of tokens. -/
def timingBlock (t : Timing) (tokens : Nat) : String :=
  "\nPhase timing:\n"
    ++ "  Lexical analysis  " ++ padLeft 8 (secondsText t.scanning) ++ "s\n"
    ++ "  Parsing           " ++ padLeft 8 (secondsText t.parsing) ++ "s\n"
    ++ "  Total             " ++ padLeft 8 (secondsText t.total) ++ "s\n"
    ++ "  Tokens            " ++ padLeft 8 (Decimal.text tokens) ++ "\n"

/-! ## The run -/

/-- Prints a text if it was asked for. -/
def printIf (asked : Bool) (text : String) : Run String Unit := fun out =>
  .done () (if asked then out ++ text else out)

/-- Goes on with the value, or gives up with the error. -/
def orStop {α : Type} (r : Except Error α) : Run String α :=
  match r with
  | .ok a => pure a
  | .error e => Run.fail e

/-- The error for a path under which there is nothing. -/
def missingFile (path : String) : Error :=
  .failedStage "file not found" ("Input file does not exist: " ++ path)

/-- The tree of a source file and the number of its tokens. -/
def buildTree (o : Options) (entry : FileEntry) (t : Timing) : Run String (Program × Nat) := do
  printIf o.verbose ("Reading: " ++ o.path ++ "\n")
  if !entry.exists? then Run.fail (missingFile o.path)
  else
    let source ← orStop (SourceFile.read o.path entry)
    printIf o.verbose ("Read " ++ Decimal.text source.utf8ByteSize ++ " bytes from input file\n")
    let lexemes ← orStop (scan 1 source).toExcept
    printIf o.verbose ("Lexical analysis completed in " ++ secondsText t.scanning ++ "s\n"
      ++ "  Generated " ++ Decimal.text lexemes.length ++ " tokens\n")
    let program ← orStop (Parser.program (.ofLexemes lexemes)).toExcept
    printIf o.verbose ("Parsing completed in " ++ secondsText t.parsing ++ "s\n"
      ++ "  Parsed " ++ Decimal.text program.body.length ++ " top-level statements\n")
    return (program, lexemes.length)

/-- Everything that was asked for about a source file; `compile` makes a test of the pattern to
search for. -/
def report (compile : PatternCompiler) (o : Options) (entry : FileEntry) (t : Timing) :
    Run String Unit := do
  let (program, tokens) ← buildTree o entry t
  printIf o.showTree (treeBlock program)
  if o.stats then
    let counts ← orStop program.countNodes
    printIf true (countsBlock counts)
  match o.find with
  | some pattern =>
    let refs ← orStop (program.search compile pattern)
    printIf true (matchesBlock pattern refs)
  | none => pure ()
  printIf o.timing (timingBlock t tokens)
  printIf o.verbose "Parsing successful!\n"

/-- What a finished program leaves behind. -/
structure Report where
  code : Nat
  out : String
  err : String
  deriving DecidableEq

/-- The output texts and the exit code of a run that started with nothing printed. -/
def Report.ofRun (run : Run String Unit) : Report :=
  match run "" with
  | .done () out => ⟨0, out, ""⟩
  | .stop e out => ⟨1, out, "Error: Failed: " ++ e.message ++ "\n"⟩

end MiniPascal
