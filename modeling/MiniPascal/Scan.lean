import MiniPascal.Character.Alphabetic
import MiniPascal.Character.Blank
import MiniPascal.Character.Numeric
import MiniPascal.Outcome
import MiniPascal.Token

/-!
# Scanning

A source text is read from left to right. White space and comments are passed by three loops, each
of which counts the line breaks it passes one by one; a token is as long as it can be. `scanFrom`
passes the gap before a token, reads the token and goes on behind it, to the end of the text. It
starts on a given line and tells the line it reached, so that a text may be scanned in parts; it
does so also when it fails.

What is left of the text never grows, and a token makes it shorter, which is why the scan ends.
-/

namespace MiniPascal

/-! ## Names -/

namespace Name

/-- A character that a name may begin with. -/
def isStart (c : Char) : Bool :=
  Character.isAlphabetic c || c == '_'

/-- A character that a name may go on with. -/
def isPart (c : Char) : Bool :=
  Character.isAlphabetic c || Character.isNumeric c || c == '_'

/-- The characters make up a name: a start, parts after it, and no keyword. -/
def isValid : List Char → Bool
  | [] => false
  | c :: rest => isStart c && rest.all isPart && (Keyword.ofWord? (c :: rest)).isNone

end Name

/-! ## White space and comments -/

namespace Scan

/-- Passes white space; tells what follows it, and the line. -/
def blanks (line : Nat) : List Char → List Char × Nat
  | [] => ([], line)
  | c :: rest =>
    if Character.isBlank c then blanks (if c = '\n' then line + 1 else line) rest
    else (c :: rest, line)

/-- Passes the rest of a comment that a brace opened on the line `start`. -/
def braceComment (start line : Nat) : List Char → Outcome Nat (List Char)
  | [] => .stop (.unterminatedComment start) line
  | c :: rest =>
    if c = '\n' then braceComment start (line + 1) rest
    else if c = '\x7d' then .done rest line
    else braceComment start line rest

/-- Passes the rest of a comment that a parenthesis and a star opened on the line `start`. A star
closes it only with the parenthesis behind it. -/
def starComment (start line : Nat) : List Char → Outcome Nat (List Char)
  | [] => .stop (.unterminatedComment start) line
  | c :: rest =>
    if c = '\n' then starComment start (line + 1) rest
    else if c = '*' ∧ rest.head? = some ')' then .done rest.tail line
    else starComment start line rest

/-- Passing white space leaves no more characters. -/
theorem length_blanks (line : Nat) (cs : List Char) : (blanks line cs).1.length ≤ cs.length := by
  induction cs generalizing line with
  | nil => exact Nat.le_refl _
  | cons c cs ih =>
    rw [blanks]
    split
    · exact Nat.le_succ_of_le (ih _)
    · exact Nat.le_refl _

/-- Passing white space that there is leaves fewer characters. -/
theorem length_blanks_cons (line : Nat) {c : Char} (rest : List Char)
    (h : Character.isBlank c = true) :
    (blanks line (c :: rest)).1.length < (c :: rest).length := by
  rw [blanks, if_pos h]
  exact Nat.lt_succ_of_le (length_blanks _ rest)

/-- Passing a comment in braces leaves no more characters. -/
theorem length_braceComment {start line n : Nat} {cs rest : List Char}
    (h : braceComment start line cs = .done rest n) : rest.length ≤ cs.length := by
  induction cs generalizing line with
  | nil => cases h
  | cons c cs ih =>
    rw [braceComment] at h
    split at h
    · exact Nat.le_succ_of_le (ih h)
    split at h
    · cases h
      exact Nat.le_succ _
    · exact Nat.le_succ_of_le (ih h)

/-- Passing a comment in parentheses leaves no more characters. -/
theorem length_starComment {start line n : Nat} {cs rest : List Char}
    (h : starComment start line cs = .done rest n) : rest.length ≤ cs.length := by
  induction cs generalizing line with
  | nil => cases h
  | cons c cs ih =>
    rw [starComment] at h
    split at h
    · exact Nat.le_succ_of_le (ih h)
    split at h
    · cases h
      rw [List.length_tail, List.length_cons]
      omega
    · exact Nat.le_succ_of_le (ih h)

/-- Passes white space and comments, up to the next token or the end of the text. -/
def gaps (line : Nat) : List Char → Outcome Nat (List Char)
  | [] => .done [] line
  | c :: rest =>
    if c = '\x7b' then
      match _ : braceComment line line rest with
      | .done rest line => gaps line rest
      | .stop e line => .stop e line
    else if c = '(' ∧ rest.head? = some '*' then
      match _ : starComment line line rest.tail with
      | .done rest line => gaps line rest
      | .stop e line => .stop e line
    else if _ : Character.isBlank c then
      gaps (blanks line (c :: rest)).2 (blanks line (c :: rest)).1
    else .done (c :: rest) line
termination_by cs => cs.length
decreasing_by
  · exact Nat.lt_succ_of_le (length_braceComment ‹_›)
  · have := length_starComment ‹_›
    rw [List.length_tail] at this
    rw [List.length_cons]
    omega
  · exact length_blanks_cons line rest ‹_›

end Scan

/-! ## Tokens -/

/-- The symbol that some characters spell. -/
def Symbol.ofChars? (cs : List Char) : Option Symbol :=
  Symbol.all.find? fun s => s.spelling.toList == cs

/-- The token that a word spells: a keyword, or else a name that keeps its letter case. -/
def Token.ofWord (cs : List Char) : Token :=
  match Keyword.ofWord? cs with
  | some k => .keyword k
  | none => .ident (String.ofList cs)

namespace Scan

/-- The least number that a signed 64-bit number cannot hold. -/
def numberLimit : Nat := 0x8000000000000000

/-- A number with the given digits, and what follows it; a signed 64-bit number must hold its
value. -/
def number (line : Nat) (digits rest : List Char) : Outcome Nat (Token × List Char) :=
  if Decimal.value digits < numberLimit then
    .done (.number (Int64.ofNat (Decimal.value digits)), rest) line
  else .stop (.invalidNumber (String.ofList digits) line) line

/-- The symbol of the first two characters, or else of the first, and what follows it. -/
def symbol (line : Nat) (c : Char) (rest : List Char) : Outcome Nat (Token × List Char) :=
  match Symbol.ofChars? (c :: rest.take 1) with
  | some s => .done (.symbol s, rest.drop 1) line
  | none =>
    match Symbol.ofChars? [c] with
    | some s => .done (.symbol s, rest) line
    | none => .stop (.unknownCharacter c line) line

/-- The token that a text begins with, as long as it can be, and what follows it. -/
def token (line : Nat) (c : Char) (rest : List Char) : Outcome Nat (Token × List Char) :=
  if Name.isStart c then
    .done (Token.ofWord (c :: rest.takeWhile Name.isPart), rest.dropWhile Name.isPart) line
  else if c.isDigit then
    number line (c :: rest.takeWhile Char.isDigit) (rest.dropWhile Char.isDigit)
  else symbol line c rest

/-- Passing white space and comments leaves no more characters. -/
theorem length_gaps {line n : Nat} {cs rest : List Char} (h : gaps line cs = .done rest n) :
    rest.length ≤ cs.length := by
  fun_induction gaps line cs with
  | case1 line =>
    cases h
    exact Nat.le_refl _
  | case2 line cs rest' line' hclose ih =>
    exact Nat.le_trans (ih h) (Nat.le_succ_of_le (length_braceComment hclose))
  | case4 line c cs _ _ rest' line' hclose ih =>
    have := length_starComment hclose
    have := ih h
    rw [List.length_tail] at *
    rw [List.length_cons]
    omega
  | case6 line c cs _ _ hblank ih =>
    exact Nat.le_trans (ih h) (Nat.le_of_lt (length_blanks_cons line cs hblank))
  | case3 | case5 => cases h
  | case7 line c cs =>
    cases h
    exact Nat.le_refl _

/-- Passing a token leaves no more characters than stood after its first one. -/
theorem length_token {line n : Nat} {c : Char} {cs rest : List Char} {t : Token}
    (h : token line c cs = .done (t, rest) n) : rest.length ≤ cs.length := by
  have hdrop (p : Char → Bool) : (cs.dropWhile p).length ≤ cs.length :=
    (List.dropWhile_sublist p).length_le
  rw [token] at h
  split at h
  · cases h
    exact hdrop _
  split at h
  · rw [number] at h
    split at h <;> cases h
    exact hdrop _
  · rw [symbol] at h
    split at h
    · cases h
      rw [List.length_drop]
      exact Nat.sub_le _ _
    · split at h <;> cases h
      exact Nat.le_refl _

end Scan

/-! ## The whole text -/

/-- The tokens of a text whose first character stands on the given line, closed by one end of
input; and the line that was reached, also by a scan that fails. -/
def scanFrom (line : Nat) (cs : List Char) : Outcome Nat (List Lexeme) :=
  match _ : Scan.gaps line cs with
  | .stop e line => .stop e line
  | .done [] line => .done [⟨.eof, line⟩] line
  | .done (c :: rest) line =>
    match _ : Scan.token line c rest with
    | .stop e line => .stop e line
    | .done (t, rest) after => (scanFrom after rest).map (⟨t, line⟩ :: ·)
termination_by cs.length
decreasing_by
  have hgaps := Scan.length_gaps ‹_›
  have htoken := Scan.length_token ‹_›
  exact Nat.lt_of_lt_of_le (Nat.lt_succ_of_le htoken) hgaps

/-- The tokens of a source text that starts on the given line. -/
def scan (line : Nat) (source : String) : Outcome Nat (List Lexeme) :=
  scanFrom line source.toList

end MiniPascal
