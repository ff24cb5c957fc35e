import MiniPascal.Proofs.Text.Scanning

/-!
# The lexical grammar as a relation

A text is split from the left into trivia and lexemes:

    trivia = blank | "{" { not "}" } "}" | "(*" text "*)"
    lexeme = word | digit { digit } | symbol
    word   = start { part }

The text of a comment does not hold what closes the comment; its opener has no part in that, so
`(*)` closes nothing. A lexeme is the longest one with which the text begins, and none is taken
where a comment opens. A word is a keyword if it spells one in some letter case, and else a name; a
run of digits is a number if a signed 64-bit number has its value.

`Splits` says how far a text is split and which tokens that gives. Where it cannot be split further,
it ends or it has a `Defect`.
-/

namespace MiniPascal

/-! ## Trivia -/

/-- The characters are white space or one comment. -/
inductive Trivia : List Char → Prop
  | blank {c} : Character.isBlank c = true → Trivia [c]
  | brace {body} : '\x7d' ∉ body → Trivia ('\x7b' :: (body ++ ['\x7d']))
  | star {body} : ¬['*', ')'] <:+: body → Trivia ('(' :: '*' :: (body ++ ['*', ')']))

/-! ## Lexemes -/

/-- The characters have the form of a lexeme: a word, a run of digits or a symbol. -/
inductive LexemeForm : List Char → Prop
  | word {w} : Name.isWord w = true → LexemeForm w
  | digits {ds} : ds ≠ [] → (∀ d ∈ ds, d.isDigit = true) → LexemeForm ds
  | symbol (s : Symbol) : LexemeForm s.spelling.toList

/-- The token for which the characters stand. -/
inductive Token.Denoted : List Char → Token → Prop
  | keyword {w} {k : Keyword} : Name.isWord w = true → Keyword.foldCase w = k.word.toList →
      Denoted w (.keyword k)
  | name {w} : Name.isWord w = true → (∀ k : Keyword, Keyword.foldCase w ≠ k.word.toList) →
      Denoted w (.ident (String.ofList w))
  | number {ds n} : ds ≠ [] → (∀ d ∈ ds, d.isDigit = true) → n.toInt = (Decimal.value ds : Int) →
      Denoted ds (.number n)
  | symbol (s : Symbol) : Denoted s.spelling.toList (.symbol s)

/-- `w` has the form of a lexeme and is the longest such with which the text `w ++ rest` begins; and
no comment opens there. -/
structure LongestLexeme (w rest : List Char) : Prop where
  form : LexemeForm w
  longest {v} : LexemeForm v → v <+: w ++ rest → v.length ≤ w.length
  noComment : ¬['(', '*'] <+: w ++ rest

/-! ## Texts -/

/-- The text is split into trivia and lexemes as far as the rest, and the lexemes denote the
tokens. -/
inductive Splits : List Char → List Token → List Char → Prop
  | done (rest) : Splits rest [] rest
  | trivia {w cs ts rest} : Trivia w → Splits cs ts rest → Splits (w ++ cs) ts rest
  | lexeme {w t cs ts rest} : LongestLexeme w cs → Token.Denoted w t → Splits cs ts rest →
      Splits (w ++ cs) (t :: ts) rest

/-- Neither trivia nor a lexeme stands first in the text, which starts on the given line; the error
says why. -/
inductive Defect (line : Nat) : List Char → Error → Prop
  | brace {body} : '\x7d' ∉ body → Defect line ('\x7b' :: body) (.unterminatedComment line)
  | star {body} : ¬['*', ')'] <:+: body →
      Defect line ('(' :: '*' :: body) (.unterminatedComment line)
  | number {ds rest} : LongestLexeme ds rest → ds ≠ [] → (∀ d ∈ ds, d.isDigit = true) →
      0x7fffffffffffffff < Decimal.value ds →
      Defect line (ds ++ rest) (.invalidNumber (String.ofList ds) line)
  | unknown {c rest} : (∀ w, ¬Trivia (c :: w)) → (∀ w, ¬LexemeForm (c :: w)) →
      Defect line (c :: rest) (.unknownCharacter c line)

/-! ## Forms of lexemes -/

section
variable {c : Char} {w ds rest : List Char} {s : Symbol}

/-- A lexeme has a character, so splitting makes progress. -/
theorem LexemeForm.ne_nil (h : LexemeForm w) : w ≠ [] := by
  cases h with
  | word h => exact fun he => by rw [he] at h; cases h
  | digits h => exact h
  | symbol s => cases s <;> nofun

/-- By its first character a lexeme is a word, a run of digits or a symbol. -/
theorem LexemeForm.cases_cons (h : LexemeForm (c :: w)) :
    (Name.isStart c = true ∧ ∀ d ∈ w, Name.isPart d = true) ∨
      (c.isDigit = true ∧ ∀ d ∈ w, d.isDigit = true) ∨
      ∃ s : Symbol, s.spelling.toList = c :: w := by
  generalize hv : c :: w = v at h
  cases h with
  | word h =>
    subst hv
    rw [Name.isWord, Bool.and_eq_true, List.all_eq_true] at h
    exact .inl h
  | digits _ h =>
    subst hv
    exact .inr (.inl (List.forall_mem_cons.1 h))
  | symbol s => exact .inr (.inr ⟨s, rfl⟩)

/-- A symbol has one character or two, of which the first begins neither a word nor a number and is
a symbol by itself. -/
theorem Symbol.spelling_cons (h : s.spelling.toList = c :: w) :
    Name.isStart c = false ∧ c.isDigit = false ∧ w.length ≤ 1 ∧
      ∃ t : Symbol, t.spelling.toList = [c] := by
  have hself := h
  cases s with
  | assign =>
    cases h
    exact ⟨rfl, rfl, Nat.le_refl 1, .colon, rfl⟩
  | notEqual | lessEqual =>
    cases h
    exact ⟨rfl, rfl, Nat.le_refl 1, .less, rfl⟩
  | greaterEqual =>
    cases h
    exact ⟨rfl, rfl, Nat.le_refl 1, .greater, rfl⟩
  | _ =>
    cases h
    exact ⟨rfl, rfl, Nat.zero_le 1, _, hself⟩

end

end MiniPascal
