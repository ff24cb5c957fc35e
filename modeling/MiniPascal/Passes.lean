import MiniPascal.NodeCount
import MiniPascal.Reference
import MiniPascal.Traversal

/-!
# Passes

Two visitors look through a program. The counter adds one on the layer of each node that it enters,
and walks. The collector records the names that are used, each where the node with the name is
entered: it passes by the target of an assignment, which it records as assigned to, and visits the
indices of the target and the value like any other expressions.

`Program.search` collects the references to the names that fit a pattern. What a pattern means is
not told here: the search is given a `PatternCompiler`, which makes a test of names from the text of
a pattern or refuses the text.
-/

namespace MiniPascal

/-! ## Counting -/

namespace NodeCount

/-- Adds to the counts so far. -/
def increase (c : NodeCount) : Run NodeCount Unit := fun seen => .done () (seen + c)

/-- Adds one at every node of the nine layers, and walks. -/
def counter : Visitor (Run NodeCount) where
  statement _ walk := do
    increase .statement
    walk
  arm _ _ walk := do
    increase (.arm 0)
    walk
  label _ := increase .label
  expression _ walk := do
    increase .expression
    walk
  simple _ walk := do
    increase .simple
    walk
  term _ walk := do
    increase .term
    walk
  factor _ walk := do
    increase .factor
    walk
  designator _ _ walk := do
    increase .designator
    walk
  selector _ walk := do
    increase .selector
    walk

end NodeCount

/-- The counts that the counter ends with. -/
def Program.countNodes (p : Program) : Except Error NodeCount :=
  match p.visit NodeCount.counter 0 with
  | .done () c => .ok c
  | .stop e _ => .error e

/-! ## Collecting -/

namespace Reference

/-- Records the use of a name after the uses recorded before, if the name is to be kept. -/
def collect (keep : String → Bool) (name : String) (role : Role) :
    Run (Array Reference) Unit := fun refs =>
  .done () (if keep name then refs.push ⟨name, role⟩ else refs)

/-- Records the names for which `keep` holds, and walks. -/
def collector (keep : String → Bool) : Visitor (Run (Array Reference)) where
  assignment target _ walkTarget _ visitValue := do
    collect keep target.name .assigned
    walkTarget
    visitValue
  procedureCall name _ walk := do
    collect keep name .called
    walk
  forLoop counter _ _ _ _ walk := do
    collect keep counter .loopVariable
    walk
  memory _ name := collect keep name .memoryTarget
  label l :=
    match l with
    | .ident name => collect keep name .caseLabel
    | .number _ | .bool _ | .nil => pure ()
  factor f walk := do
    if let .ident name := f then collect keep name .read
    walk
  designator _ d walk := do
    collect keep d.name .read
    walk
  functionCall name _ walk := do
    collect keep name .called
    walk

end Reference

/-- The references that the collector ends with. -/
def Program.collect (keep : String → Bool) (p : Program) : Except Error (List Reference) :=
  match p.visit (Reference.collector keep) #[] with
  | .done () refs => .ok refs.toList
  | .stop e _ => .error e

/-! ## Searching -/

/-- What makes a test of names from the text of a pattern, or says why the text is no pattern. -/
abbrev PatternCompiler := String → Except String (String → Bool)

/-- The references of a program to the names that fit the pattern a text describes. -/
def Program.search (compile : PatternCompiler) (p : Program) (text : String) :
    Except Error (List Reference) :=
  match compile text with
  | .ok keep => p.collect keep
  | .error detail => .error (.invalidPattern detail)

end MiniPascal
