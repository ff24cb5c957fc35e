import MiniPascal.Character.Alphabetic
import MiniPascal.Character.Blank
import MiniPascal.Character.CaseFold
import MiniPascal.Character.Category

/-!
# Sets of characters in patterns

The sets that a pattern may call by name: digits, white space and word characters, the bracket names
such as `alpha`, and the categories and properties of characters. A set is its membership test.
-/

namespace MiniPascal

/-- A set of characters. -/
abbrev Charset := Char → Bool

namespace Charset

/-- The characters from `lo` to `hi`. -/
def range (lo hi : Char) : Charset := fun c => lo ≤ c && c ≤ hi

/-- One character. -/
def single (c : Char) : Charset := fun d => c == d

/-- No character. -/
def none : Charset := fun _ => false

/-- The characters outside a set. -/
def complement (s : Charset) : Charset := fun c => !s c

/-- The characters of either set. -/
def union (s t : Charset) : Charset := fun c => s c || t c

/-- The characters within ASCII. -/
def ascii : Charset := fun c => c.toNat < 0x80

/-- Decimal digits. -/
def digit (unicode : Bool) : Charset :=
  if unicode then Character.decimalNumberRanges.contains else Char.isDigit

/-- White space. -/
def space (unicode : Bool) : Charset := fun c =>
  if unicode then Character.isBlank c
  else ['\t', '\n', '\x0b', '\x0c', '\r', ' '].contains c

/-- Letters, marks, decimal digits and connecting punctuation, and the characters that join
letters. -/
def word (unicode : Bool) : Charset := fun c =>
  if unicode && 0x80 ≤ c.toNat then
    Character.isAlphabetic c || Character.isOneOf ["Mn", "Mc", "Me", "Nd", "Pc"] c
      || c.toNat == 0x200c || c.toNat == 0x200d
  else c.isAlphanum || c == '_'

/-- The sets named between colons inside brackets; all lie within ASCII. -/
def bracketName? : String → Option Charset
  | "alnum" => some Char.isAlphanum
  | "alpha" => some Char.isAlpha
  | "ascii" => some ascii
  | "blank" => some fun c => c == '\t' || c == ' '
  | "cntrl" => some fun c => c.toNat < 0x20 || c.toNat == 0x7f
  | "digit" => some Char.isDigit
  | "graph" => some (range '!' '~')
  | "lower" => some Char.isLower
  | "print" => some (range ' ' '~')
  | "punct" => some fun c => range '!' '~' c && !c.isAlphanum
  | "space" => some (space false)
  | "upper" => some Char.isUpper
  | "word" => some (word false)
  | "xdigit" => some fun c => c.isDigit || range 'a' 'f' c || range 'A' 'F' c
  | _ => Option.none

/-- A property name without case, spaces, hyphens and underscores, and without a leading `is`. -/
def looseName (name : String) : String :=
  let cs := (name.toList.filter fun c => !(c == ' ' || c == '-' || c == '_')).map Char.toLower
  String.ofList <| match cs with
    | 'i' :: 's' :: rest => if rest.isEmpty || rest == ['c'] then cs else rest
    | _ => cs

/-- The general category, or group of categories, of a given name. -/
def category? (name : String) : Option Charset :=
  let same (other : String) : Bool := looseName other == name
  if same "Cn" || same "Unassigned" then
    some (complement (Character.isOneOf (Character.categories.map (·.1))))
  else if same "C" || same "Other" then
    some fun c => Character.isOneOf ["Cc", "Cf", "Co"] c
      || !Character.isOneOf (Character.categories.map (·.1)) c
  else
    match Character.categories.find? fun c => same c.1 || same c.2.1 with
    | some (_, _, ranges) => some ranges.contains
    | Option.none =>
      match Character.categoryGroups.find? fun g => same g.1 || same g.2.1 with
      | some (_, _, members) => some (Character.isOneOf members)
      | Option.none => Option.none

/-- The property of a given name. -/
def property? (name : String) : Option Charset :=
  let name := looseName name
  match name with
  | "any" => some fun _ => true
  | "ascii" => some ascii
  | "assigned" => some (Character.isOneOf (Character.categories.map (·.1)))
  | "alphabetic" | "alpha" => some Character.isAlphabetic
  | "whitespace" | "wspace" | "space" => some Character.isBlank
  | _ => category? name

/-- The set with all characters that differ from its members in letter case only. -/
def foldCase (unicode : Bool) (s : Charset) : Charset := fun c =>
  (if unicode then Character.caseVariants c else Character.asciiCaseVariants c).any s

end Charset

end MiniPascal
