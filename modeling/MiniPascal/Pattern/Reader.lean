import MiniPascal.Character.Blank
import MiniPascal.Outcome

/-!
# Reading patterns

The place of a pattern reader: the characters that are left, the flags that hold there, the group
names used so far and the depth of nesting. The reader's single steps are here; the grammar is built
on them.
-/

namespace MiniPascal

/-- The flags of a pattern. -/
structure PatternFlags where
  ignoreCase : Bool
  multiLine : Bool
  dotNewline : Bool
  crlf : Bool
  extended : Bool
  unicode : Bool

/-- The flags at the beginning of a pattern. -/
def PatternFlags.initial : PatternFlags :=
  ⟨false, false, false, false, false, true⟩

/-- A place in a pattern. -/
structure PatternReader where
  rest : List Char
  flags : PatternFlags
  names : List String
  depth : Nat

namespace PatternReader

/-- The beginning of a pattern. -/
def ofString (pattern : String) : PatternReader :=
  ⟨pattern.toList, .initial, [], 0⟩

/-- How many characters are left. -/
def remaining (r : PatternReader) : Nat :=
  r.rest.length

/-- The deepest nesting a pattern may have. -/
def nestLimit : Nat := 250

/-- Gives up because the pattern is not well formed. -/
def refuse {α : Type} (detail : String) : Run PatternReader α :=
  Run.fail (.invalidPattern detail)

/-- The text without leading white space and comments. -/
def dropSpace (inComment : Bool) : List Char → List Char
  | [] => []
  | c :: rest =>
    if inComment then dropSpace (c != '\n') rest
    else if Character.isBlank c then dropSpace false rest
    else if c = '#' then dropSpace true rest
    else c :: rest

/-- Passes over white space and comments where the flags let them be ignored. -/
def skipSpace : Run PatternReader Unit := fun r =>
  .done () { r with rest := if r.flags.extended then dropSpace false r.rest else r.rest }

/-- The next character, which stays. -/
def peek : Run PatternReader (Option Char) := fun r => .done r.rest.head? r

/-- The character after the next, which stays. -/
def peekSecond : Run PatternReader (Option Char) := fun r =>
  .done (if r.flags.extended then dropSpace false r.rest.tail else r.rest.tail).head? r

/-- Passes over one character. -/
def bump : Run PatternReader Unit := fun r => .done () { r with rest := r.rest.tail }

/-- Takes one character; `detail` tells what is missing if there is none. -/
def take (detail : String) : Run PatternReader Char := fun r =>
  match r.rest with
  | c :: rest => .done c { r with rest := rest }
  | [] => refuse detail r

/-- Passes over a text if it is next, and tells whether it was. -/
def accept (text : String) : Run PatternReader Bool := fun r =>
  if text.toList.isPrefixOf r.rest then
    .done true { r with rest := r.rest.drop text.length }
  else .done false r

/-- Takes the characters up to the first that fails the test. -/
def takeWhile (test : Char → Bool) : Run PatternReader (List Char) := fun r =>
  .done (r.rest.takeWhile test) { r with rest := r.rest.dropWhile test }

/-- The flags that hold here. -/
def currentFlags : Run PatternReader PatternFlags := fun r => .done r.flags r

/-- Sets the flags from here on. -/
def setFlags (f : PatternFlags) : Run PatternReader Unit := fun r => .done () { r with flags := f }

/-- Notes a group name, which no group before may have. -/
def addName (name : String) : Run PatternReader Unit := fun r =>
  if name ∈ r.names then refuse "duplicate capture group name" r
  else .done () { r with names := name :: r.names }

/-- Runs `p` one level deeper. -/
def nested {α : Type} (p : Run PatternReader α) : Run PatternReader α := do
  fun r => if r.depth < nestLimit then .done () { r with depth := r.depth + 1 }
    else refuse "nested too deeply" r
  let a ← p
  fun r => .done () { r with depth := r.depth - 1 }
  return a

/-- Repeats `next` until it has no value. -/
def many {α : Type} (next : Run PatternReader (Option α)) : Run PatternReader (List α) :=
  Run.many remaining next

/-- The reader that `body` makes from itself; it may call itself only after a character. -/
def fix {α : Type} (body : Run PatternReader α → Run PatternReader α) : Run PatternReader α :=
  Run.fix remaining (refuse "nothing to read") body

end PatternReader

end MiniPascal
