import MiniPascal.Pattern.Basic
import MiniPascal.Pattern.Charset
import MiniPascal.Pattern.Reader

/-!
# The grammar of patterns

    pattern    = sequence { "|" sequence }
    sequence   = { item { repetition } }
    item       = character | "." | "^" | "$" | escape | set | "(" [ name | flags ":" ] pattern ")"
               | "(" flags ")"
    repetition = ( "*" | "+" | "?" | "{" count [ "," [ count ] ] "}" ) [ "?" ]
    set        = "[" [ "^" ] members { ( "&&" | "--" | "~~" ) members } "]"

Whether a repetition prefers many or few rounds makes no difference to whether there is a match.
Without the flag `u` characters stand for bytes, and a set must then stay within ASCII, since every
match has to be text again.
-/

namespace MiniPascal.PatternReader

open Run (fail)

/-! ## Escapes -/

/-- What an escape stands for: a character, a single byte, a set, or a condition on a place. -/
inductive Escape where
  | char (c : Char)
  | byte (c : Char)
  | set (s : Charset)
  | place (holds : Option Char → Option Char → Bool)

/-- The characters that mean something in a pattern. -/
def isMeta (c : Char) : Bool :=
  "\\.+*?()|[]\x7b\x7d^$#&-~".toList.contains c

/-- A condition on whether the characters before and after a place are word characters. -/
def wordPlace (unicode : Bool) (holds : Bool → Bool → Bool) : Escape :=
  .place fun before after =>
    holds (before.any (Charset.word unicode)) (after.any (Charset.word unicode))

/-- The named word boundary of the given name. -/
def wordBoundary? (unicode : Bool) : String → Option Escape
  | "start" => some (wordPlace unicode fun b a => !b && a)
  | "end" => some (wordPlace unicode fun b a => b && !a)
  | "start-half" => some (wordPlace unicode fun b _ => !b)
  | "end-half" => some (wordPlace unicode fun _ a => !a)
  | _ => none

/-- A character that the name of a word boundary may have. -/
def isBoundaryLetter (c : Char) : Bool :=
  c.isAlpha || c == '-'

/-- What follows `\b`: the name of a word boundary in braces, or nothing. A brace that begins no
name belongs to a repetition. -/
def boundary : Run PatternReader Escape := do
  let unicode := (← currentFlags).unicode
  let plain := wordPlace unicode fun b a => b != a
  match ← peek, ← peekSecond with
  | some '\x7b', none => refuse "special word boundary or repetition ends early"
  | some '\x7b', some c =>
    if !isBoundaryLetter c then return plain
    else
      bump
      skipSpace
      let name ← takeWhile isBoundaryLetter
      if ← accept "\x7d" then
        match wordBoundary? unicode (String.ofList name) with
        | some e => return e
        | none => refuse "unrecognized special word boundary"
      else refuse "special word boundary unclosed"
  | _, _ => return plain

/-- The character with a code point in hexadecimal. -/
def charOfHex (digits : List Char) : Run PatternReader Char := do
  let digit (c : Char) : Nat :=
    if c.isDigit then c.toNat - '0'.toNat else c.toLower.toNat - 'a'.toNat + 10
  if digits.isEmpty then refuse "hexadecimal literal empty"
  else if !digits.all fun c => c.isDigit || ('a' ≤ c.toLower && c.toLower ≤ 'f') then
    refuse "invalid hexadecimal digit"
  else
    let n := digits.foldl (fun n c => 16 * n + digit c) 0
    if h : n.isValidChar then return Char.ofNatAux n h
    else refuse "hexadecimal literal is not a Unicode scalar value"

/-- A character given in hexadecimal, by the given number of digits or in braces. -/
def hex (count : Nat) : Run PatternReader Escape := do
  skipSpace
  match ← peek with
  | none => refuse "incomplete escape sequence"
  | some '\x7b' =>
    bump
    let digits ← takeWhile (· != '\x7d')
    if ← accept "\x7d" then return .char (← charOfHex digits)
    else refuse "incomplete escape sequence"
  | some _ =>
    let digits ← fun r => .done (r.rest.take count) { r with rest := r.rest.drop count }
    if digits.length < count then refuse "incomplete escape sequence"
    else
      let c ← charOfHex digits
      return if count == 2 && 0x80 ≤ c.toNat && !(← currentFlags).unicode then .byte c else .char c

/-- A property in braces, which may be given as a category or negated by `!=`. -/
def namedProperty? (name : String) : Option Charset :=
  match name.splitOn "!=" with
  | [key, value] => (valueOf key value).map Charset.complement
  | _ =>
    match (name.map fun c => if c == ':' then '=' else c).splitOn "=" with
    | [key, value] => valueOf key value
    | _ => Charset.property? name
where
  valueOf (key value : String) : Option Charset :=
    if ["gc", "generalcategory"].contains (Charset.looseName key) then
      Charset.category? (Charset.looseName value)
    else none

/-- A property after `\p`. -/
def property (negated : Bool) : Run PatternReader Escape := do
  skipSpace
  let name ← match ← take "incomplete escape sequence" with
    | '\x7b' => do
      let name ← takeWhile (· != '\x7d')
      if ← accept "\x7d" then pure (String.ofList name) else refuse "incomplete escape sequence"
    | c => pure (String.singleton c)
  let flags ← currentFlags
  if !flags.unicode then refuse "Unicode not allowed here"
  else
    match namedProperty? name with
    | none => refuse "Unicode property not found"
    | some s =>
      let s := if flags.ignoreCase then s.foldCase true else s
      return .set (if negated then s.complement else s)

/-- An escape, after its backslash. -/
def escape : Run PatternReader Escape := do
  let c ← take "incomplete escape sequence"
  let unicode := (← currentFlags).unicode
  match c with
  | 'x' => hex 2
  | 'u' => hex 4
  | 'U' => hex 8
  | 'p' => property false
  | 'P' => property true
  | 'd' => return .set (Charset.digit unicode)
  | 'D' => return .set (Charset.digit unicode).complement
  | 's' => return .set (Charset.space unicode)
  | 'S' => return .set (Charset.space unicode).complement
  | 'w' => return .set (Charset.word unicode)
  | 'W' => return .set (Charset.word unicode).complement
  | 'a' => return .char '\x07'
  | 'f' => return .char '\x0c'
  | 't' => return .char '\t'
  | 'n' => return .char '\n'
  | 'r' => return .char '\r'
  | 'v' => return .char '\x0b'
  | 'A' => return .place fun before _ => before.isNone
  | 'z' => return .place fun _ after => after.isNone
  | 'b' => boundary
  | 'B' => return wordPlace unicode fun b a => b == a
  | '<' => return wordPlace unicode fun b a => !b && a
  | '>' => return wordPlace unicode fun b a => b && !a
  | c =>
    if isMeta c || (c.toNat < 0x80 && !c.isAlphanum) then return .char c
    else refuse "unrecognized escape sequence"

/-! ## Sets in brackets -/

/-- What a set member may be: a character or a set of its own. -/
inductive Member where
  | char (c : Char)
  | set (s : Charset)

/-- The set of a member. -/
def Member.charset : Member → Charset
  | .char c => .single c
  | .set s => s

/-- One member of a set, which may turn out to be the end of a range. -/
def member : Run PatternReader Member := do
  let c ← take "unclosed character class"
  let unicode := (← currentFlags).unicode
  let literal (c : Char) : Run PatternReader Member :=
    if !unicode && 0x80 ≤ c.toNat then refuse "Unicode not allowed here" else pure (.char c)
  if c = '\\' then
    match ← escape with
    | .char c => literal c
    | .byte c => return .char c
    | .set s => return .set s
    | .place _ => refuse "invalid escape sequence found in character class"
  else literal c

/-- A member of a set, or a range of characters. A hyphen before the end of the set or before
another hyphen stands for itself. -/
def rangeOrMember : Run PatternReader Charset := do
  let first ← member
  skipSpace
  match ← peek, ← peekSecond with
  | none, _ => refuse "unclosed character class"
  | some '-', some ']' | some '-', some '-' => return first.charset
  | some '-', _ =>
    bump
    skipSpace
    match first, ← member with
    | .char lo, .char hi =>
      if lo ≤ hi then return .range lo hi else refuse "invalid character class range"
    | _, _ => refuse "invalid range boundary, must be a literal"
  | some _, _ => return first.charset

/-- A set named between colons, as in `[:alpha:]`, if one is next. -/
def bracketName : Run PatternReader (Option Charset) := fun r =>
  match r.rest with
  | '[' :: ':' :: rest =>
    let negated := rest.head? == some '^'
    let rest := if negated then rest.tail else rest
    let name := rest.takeWhile (· != ':')
    let rest := rest.dropWhile (· != ':')
    match Charset.bracketName? (String.ofList name), rest with
    | some s, ':' :: ']' :: rest =>
      .done (some (if negated then s.complement else s)) { r with rest := rest }
    | _, _ => .done none r
  | _ => .done none r

/-- The operators between the parts of a set. -/
def setOperator : Run PatternReader (Option (Charset → Charset → Charset)) := do
  if ← accept "&&" then return some fun s t c => s c && t c
  else if ← accept "--" then return some fun s t c => s c && !t c
  else if ← accept "~~" then return some fun s t c => s c != t c
  else return none

/-- An operator between the parts of a set is next. -/
def atSetOperator (rest : List Char) : Bool :=
  ["&&", "--", "~~"].any fun op => op.toList.isPrefixOf rest

/-- Adds to a set the characters that differ in letter case, if the flags say so. -/
def folded (s : Charset) : Run PatternReader Charset := do
  let flags ← currentFlags
  return if flags.ignoreCase then s.foldCase flags.unicode else s

/-- The members of a set up to its end or an operator, added to those read before. -/
def membersOf (set : Run PatternReader Charset) (start : Charset) : Run PatternReader Charset := do
  let members ← many do
    skipSpace
    let stopped ← fun r => .done (atSetOperator r.rest) r
    match ← peek with
    | none => refuse "unclosed character class"
    | some ']' => return none
    | some '[' =>
      match ← bracketName with
      | some s => return some s
      | none => return some (← set)
    | some _ => if stopped then return none else return some (← rangeOrMember)
  folded (members.foldl Charset.union start)

/-- A set, from its opening bracket on, with `set` for the sets inside it. -/
def setOf (set : Run PatternReader Charset) : Run PatternReader Charset := nested do
  bump
  skipSpace
  let negated ← accept "^"
  skipSpace
  let hyphens ← many do
    if ← accept "-" then
      skipSpace
      return some ()
    else return none
  let start := if hyphens.isEmpty then Charset.none else Charset.single '-'
  let bracket ← if hyphens.isEmpty then accept "]" else pure false
  let start := if bracket then Charset.single ']' else start
  let first ← membersOf set start
  let more ← many do
    match ← setOperator with
    | some op => return some (op, ← membersOf set Charset.none)
    | none => return none
  if ← accept "]" then
    let s ← folded (more.foldl (fun s (op, t) => op s t) first)
    return if negated then s.complement else s
  else refuse "unclosed character class"

/-- A set in brackets. -/
def set : Run PatternReader Charset :=
  fix setOf

/-! ## Repetitions -/

/-- The least number that is too large for a count. -/
def countLimit : Nat := 0x100000000

/-- A count inside braces; white space around it is passed over. -/
def count? : Run PatternReader (Option Nat) := do
  let _ ← takeWhile Character.isBlank
  let digits ← takeWhile Char.isDigit
  let _ ← takeWhile Character.isBlank
  let n := Nat.ofDigitChars 10 digits 0
  if digits.isEmpty then return none
  else if n < countLimit then return some n
  else refuse "repetition count too large"

/-- How often a counted repetition repeats, from its opening brace on. -/
def counts : Run PatternReader (Nat × Option Nat) := do
  bump
  skipSpace
  let least ← count?
  let range ← if ← accept "," then do
      skipSpace
      match least, ← peek with
      | some n, some '\x7d' => pure (n, none)
      | some n, _ => do
        match ← count? with
        | some m => pure (n, some m)
        | none => refuse "repetition quantifier expects a valid decimal"
      | none, _ => refuse "repetition quantifier expects a valid decimal"
    else
      match least with
      | some n => pure (n, some n)
      | none => refuse "repetition quantifier expects a valid decimal"
  if !(← accept "\x7d") then refuse "unclosed counted repetition"
  else if range.2.any (· < range.1) then refuse "invalid repetition count range"
  else
    skipSpace
    return range

/-- A repetition, if one is next: the least and the greatest number of rounds. -/
def repetition? : Run PatternReader (Option (Nat × Option Nat)) := do
  skipSpace
  match ← peek with
  | some '*' => finish (bump *> pure (0, none))
  | some '+' => finish (bump *> pure (1, none))
  | some '?' => finish (bump *> pure (0, some 1))
  | some '\x7b' => finish counts
  | _ => return none
where
  finish (range : Run PatternReader (Nat × Option Nat)) :
      Run PatternReader (Option (Nat × Option Nat)) := do
    let range ← range
    let _ ← accept "?"
    return some range

/-! ## Flags and groups -/

/-- The flags with one of them set or cleared. -/
def withFlag? (c : Char) (on : Bool) (f : PatternFlags) : Option PatternFlags :=
  match c with
  | 'i' => some { f with ignoreCase := on }
  | 'm' => some { f with multiLine := on }
  | 's' => some { f with dotNewline := on }
  | 'U' => some f
  | 'R' => some { f with crlf := on }
  | 'x' => some { f with extended := on }
  | 'u' => some { f with unicode := on }
  | _ => none

/-- The flags that some letters set, and after a hyphen clear. No letter stands twice, and a hyphen
is followed by a letter. -/
def applyFlags : (seen : List Char) → (on : Bool) → List Char → PatternFlags →
    Except String PatternFlags
  | seen, on, [], f =>
    if !on && seen.head? == some '-' then .error "dangling flag negation operator" else .ok f
  | seen, on, c :: rest, f =>
    if c ∈ seen then .error "duplicate flag or negation"
    else if c = '-' then applyFlags (c :: seen) false rest f
    else
      match withFlag? c on f with
      | some f => applyFlags (c :: seen) on rest f
      | none => .error "unrecognized flag"

/-- What a group's opening says: flags for the rest of the group around it, or a group of its own
with these flags. -/
inductive Opening where
  | flags (f : PatternFlags)
  | group (f : PatternFlags)

/-- A group name and the bracket after it. -/
def groupName : Run PatternReader Unit := do
  let name ← takeWhile (· != '>')
  let letter (c : Char) : Bool := Character.isAlphabetic c || c == '_'
  let wellFormed := match name with
    | c :: rest => letter c
      && rest.all fun c => letter c || Charset.digit true c || Character.isOneOf ["Nl", "No"] c
        || ['.', '[', ']'].contains c
    | [] => false
  if !wellFormed then refuse "invalid capture group name"
  else if ← accept ">" then addName (String.ofList name)
  else refuse "unclosed capture group name"

/-- The opening of a group, from its parenthesis on. -/
def opening : Run PatternReader Opening := do
  bump
  skipSpace
  let flags ← currentFlags
  if (← accept "?=") || (← accept "?!") || (← accept "?<=") || (← accept "?<!") then
    refuse "look-around, including look-ahead and look-behind, is not supported"
  else if (← accept "?P<") || (← accept "?<") then
    groupName
    return .group flags
  else if ← accept "?" then
    let letters ← takeWhile fun c => c != ':' && c != ')'
    match applyFlags [] true letters flags with
    | .error detail => refuse detail
    | .ok f =>
      match ← take "expected flag but got end of pattern" with
      | ':' => return .group f
      | _ => if letters.isEmpty then refuse "missing flags" else return .flags f
  else return .group flags

/-! ## Items, sequences and choices -/

/-- A character as a pattern. -/
def literal (c : Char) : Run PatternReader Pattern := do
  return .char (← folded (.single c))

/-- A set as a pattern. Without the flag `u` it is a set of bytes and must not leave ASCII. -/
def setPattern (s : Charset) : Run PatternReader Pattern := do
  if (← currentFlags).unicode then return .char s
  else if (List.range 0x80).any fun n => s (Char.ofNat (0x80 + n)) then
    refuse "pattern can match invalid UTF-8"
  else return .char fun c => Charset.ascii c && s c

/-- The pattern of a dot. -/
def dot : Run PatternReader Pattern := do
  let f ← currentFlags
  setPattern fun c => f.dotNewline || !(c == '\n' || (f.crlf && c == '\r'))

/-- The beginning of the text, or of a line of it. -/
def lineStart (f : PatternFlags) (before after : Option Char) : Bool :=
  before.isNone || (f.multiLine && (before == some '\n'
    || (f.crlf && before == some '\r' && after != some '\n')))

/-- The end of the text, or of a line of it. -/
def lineEnd (f : PatternFlags) (before after : Option Char) : Bool :=
  after.isNone || (f.multiLine && if f.crlf then
      after == some '\r' || (after == some '\n' && before != some '\r')
    else after == some '\n')

/-- What an escape matches outside of brackets. -/
def escapePattern : Escape → Run PatternReader Pattern
  | .char c => literal c
  | .byte _ => refuse "pattern can match invalid UTF-8"
  | .set s => setPattern s
  | .place holds => return .place holds

/-- A group, with `pattern` for what stands inside it. Flags alone match the empty text. -/
def groupOf (pattern : Run PatternReader Pattern) : Run PatternReader (Bool × Pattern) := do
  let flags ← currentFlags
  match ← opening with
  | .flags f =>
    setFlags f
    return (false, .empty)
  | .group f =>
    setFlags f
    let p ← nested pattern
    if ← accept ")" then
      setFlags flags
      return (true, p)
    else refuse "unclosed group"

/-- An item without its repetitions, and whether it may be repeated. -/
def bareItemOf (pattern : Run PatternReader Pattern) : Run PatternReader (Bool × Pattern) := do
  match ← peek with
  | some '(' => groupOf pattern
  | some '[' => return (true, ← setPattern (← set))
  | some '\\' =>
    bump
    return (true, ← escapePattern (← escape))
  | some '.' => return (true, ← bump *> dot)
  | some '^' =>
    bump
    return (true, .place (lineStart (← currentFlags)))
  | some '$' =>
    bump
    return (true, .place (lineEnd (← currentFlags)))
  | _ => return (true, ← literal (← take "nothing to read"))

/-- An item with its repetitions, if one is next. -/
def item? (pattern : Run PatternReader Pattern) : Run PatternReader (Option Pattern) := do
  skipSpace
  match ← peek with
  | none | some '|' | some ')' => return none
  | some '*' | some '+' | some '?' | some '\x7b' => refuse "repetition operator missing expression"
  | some _ =>
    let (repeatable, p) ← bareItemOf pattern
    if repeatable then
      let ranges ← many repetition?
      return some (ranges.foldl (fun p (least, most) => .rep p least most) p)
    else return some p

/-- A sequence of items. -/
def sequenceOf (pattern : Run PatternReader Pattern) : Run PatternReader Pattern := do
  let items ← many (item? pattern)
  return items.foldr .seq .empty

/-- A choice between sequences, with `pattern` for the patterns in its groups. -/
def choiceOf (pattern : Run PatternReader Pattern) : Run PatternReader Pattern := do
  let first ← sequenceOf pattern
  let more ← many do
    if ← accept "|" then some <$> sequenceOf pattern else return none
  return more.foldl .alt first

/-- The greatest size a pattern may have. -/
def sizeLimit : Nat := 327680

/-- A whole pattern. -/
def whole : Run PatternReader Pattern := do
  let p ← fix choiceOf
  if (← peek).isSome then refuse "unopened group"
  else if sizeLimit < p.size then refuse "compiled pattern exceeds the size limit"
  else return p

end PatternReader

/-- The pattern that a text describes. -/
def Pattern.parse (text : String) : Except Error Pattern :=
  (PatternReader.whole (.ofString text)).toExcept

end MiniPascal
