import MiniPascal.Scan

/-!
# The pieces of a text

A text is a run of pieces: a single blank, a whole comment or a token. `Step.first` finds the first
piece of a text with its characters, and tells nothing about lines. A scan goes through the pieces
of its text one after the other (`scanFrom_of_gap`, `scanFrom_of_lexeme`) and ends at the end of the
text or at a piece that is none.

The lines come from the loops of the scan. Each of the three loops ends with one more line for each
line break in what it passed (`Scan.blanks_eq`, `Scan.braceComment_eq`, `Scan.starComment_eq`); for
a comment that is never closed, that is everything up to the end of the text.
-/

namespace MiniPascal

/-! ## Line breaks -/

/-- The number of line breaks in a text. -/
def newlines (cs : List Char) : Nat :=
  cs.count '\n'

/-- The line breaks of two texts together. -/
theorem newlines_append (cs ds : List Char) :
    newlines (cs ++ ds) = newlines cs + newlines ds :=
  List.count_append

/-- The line breaks of a text are those of its first character and those behind it. -/
theorem newlines_cons (c : Char) (cs : List Char) :
    newlines (c :: cs) = newlines [c] + newlines cs :=
  newlines_append [c] cs

/-- Any other character than a line break is none. -/
theorem newlines_singleton_of_ne {c : Char} (h : c ≠ '\n') : newlines [c] = 0 := by
  rw [newlines, List.count_singleton, if_neg (by simpa using h)]

/-! ## The first piece of a text -/

/-- What stands first in a text. -/
inductive Step where
  /-- Nothing: the text is at its end. -/
  | stop
  /-- White space or a comment. -/
  | gap (text rest : List Char)
  /-- A token, with its spelling. -/
  | lexeme (token : Token) (text rest : List Char)
  /-- A comment that is never closed. -/
  | unclosed
  /-- A number that is too large. -/
  | oversized (digits : List Char)
  /-- A character that nothing starts with. -/
  | unknown (c : Char)
  deriving DecidableEq

/-- The text up to and including the first closing brace, and what follows it. -/
def closeBrace : List Char → Option (List Char × List Char)
  | [] => none
  | c :: rest =>
    if c = '\x7d' then some ([c], rest)
    else (closeBrace rest).map fun (text, rest) => (c :: text, rest)

/-- The text up to and including the first star with a parenthesis, and what follows it. -/
def closeStar : List Char → Option (List Char × List Char)
  | [] => none
  | c :: rest =>
    if c = '*' ∧ rest.head? = some ')' then some ([c, ')'], rest.tail)
    else (closeStar rest).map fun (text, rest) => (c :: text, rest)

namespace Step

/-- A comment opened by `opener`, closed where the search for its end says. -/
def comment (opener : List Char) : Option (List Char × List Char) → Step
  | some (text, rest) => .gap (opener ++ text) rest
  | none => .unclosed

/-- A number with the given digits; a signed 64-bit number must hold its value. -/
def number (digits rest : List Char) : Step :=
  if Decimal.value digits < Scan.numberLimit then
    .lexeme (.number (Int64.ofNat (Decimal.value digits))) digits rest
  else .oversized digits

/-- The symbol of the first two characters, or else of the first. -/
def symbol (c : Char) (rest : List Char) : Step :=
  match Symbol.ofChars? (c :: rest.take 1) with
  | some s => .lexeme (.symbol s) (c :: rest.take 1) (rest.drop 1)
  | none =>
    match Symbol.ofChars? [c] with
    | some s => .lexeme (.symbol s) [c] rest
    | none => .unknown c

/-- The token that a text begins with, as long as it can be. -/
def token (c : Char) (rest : List Char) : Step :=
  if Name.isStart c then
    .lexeme (Token.ofWord (c :: rest.takeWhile Name.isPart)) (c :: rest.takeWhile Name.isPart)
      (rest.dropWhile Name.isPart)
  else if c.isDigit then
    number (c :: rest.takeWhile Char.isDigit) (rest.dropWhile Char.isDigit)
  else symbol c rest

/-- The first piece of a text. -/
def first : List Char → Step
  | [] => .stop
  | c :: rest =>
    if Character.isBlank c then .gap [c] rest
    else if c = '\x7b' then comment [c] (closeBrace rest)
    else if c = '(' ∧ rest.head? = some '*' then comment [c, '*'] (closeStar rest.tail)
    else token c rest

/-- What a scan makes of a piece that stands for a token, or is none. -/
def scanned? (line : Nat) : Step → Option (Outcome Nat (Token × List Char))
  | .lexeme t _ rest => some (.done (t, rest) line)
  | .oversized digits => some (.stop (.invalidNumber (String.ofList digits) line) line)
  | .unknown c => some (.stop (.unknownCharacter c line) line)
  | .stop | .gap _ _ | .unclosed => none

end Step

/-- Closing a comment splits the text at the brace. -/
theorem closeBrace_eq {cs text rest : List Char} (h : closeBrace cs = some (text, rest)) :
    cs = text ++ rest := by
  induction cs generalizing text with
  | nil => simp [closeBrace] at h
  | cons c cs ih =>
    rw [closeBrace] at h
    split at h
    · cases h; rfl
    · obtain ⟨⟨t, r⟩, hr, he⟩ := Option.map_eq_some_iff.1 h
      cases he
      rw [ih hr]; rfl

/-- Closing a comment splits the text after the star and the parenthesis. -/
theorem closeStar_eq {cs text rest : List Char} (h : closeStar cs = some (text, rest)) :
    cs = text ++ rest := by
  induction cs generalizing text with
  | nil => simp [closeStar] at h
  | cons c cs ih =>
    rw [closeStar] at h
    split at h
    · next hc =>
      cases h
      cases cs with
      | nil => simp at hc
      | cons d cs => simpa using hc.2
    · obtain ⟨⟨t, r⟩, hr, he⟩ := Option.map_eq_some_iff.1 h
      cases he
      rw [ih hr]; rfl

namespace Step

section
variable {c : Char} {cs text rest opener : List Char} {o : Option (List Char × List Char)}
  {t : Token}

/-- A comment is a gap if it is closed. -/
theorem comment_gap (h : comment opener o = .gap text rest) :
    ∃ body, o = some (body, rest) ∧ text = opener ++ body := by
  match o, h with
  | some (body, r), h =>
    cases h
    exact ⟨body, rfl, rfl⟩

/-- A comment is unclosed if no end is found. -/
theorem comment_unclosed (h : comment opener o = .unclosed) : o = none := by
  match o, h with
  | none, _ => rfl

/-- A comment is not the end of the text. -/
theorem comment_ne_stop : comment opener o ≠ .stop := by
  match o with
  | none => simp [comment]
  | some _ => simp [comment]

/-- A comment stands for no token. -/
theorem scanned?_comment (line : Nat) : (comment opener o).scanned? line = none := by
  match o with
  | none => rfl
  | some _ => rfl

/-- The scan reads the token that stands first. -/
theorem scanned?_token (line : Nat) (c : Char) (rest : List Char) :
    (token c rest).scanned? line = some (Scan.token line c rest) := by
  rw [token, Scan.token]
  split
  · rfl
  split
  · rw [number, Scan.number]
    split <;> rfl
  · rw [symbol, Scan.symbol]
    cases Symbol.ofChars? (c :: rest.take 1) with
    | some s => rfl
    | none => cases Symbol.ofChars? [c] <;> rfl

/-- What begins neither white space nor a comment is a token, or a piece at which the scan fails. -/
theorem token_ne {s : Step} (hs : s.scanned? 0 = none) : token c cs ≠ s := by
  rintro rfl
  rw [scanned?_token] at hs
  cases hs

/-- The text of a number is its digits. -/
theorem number_lexeme {ds ds' : List Char} (h : number ds ds' = .lexeme t text rest) :
    text = ds ∧ rest = ds' := by
  rw [number] at h
  split at h
  · cases h; exact ⟨rfl, rfl⟩
  · cases h

/-- The text of a symbol is one or two characters. -/
theorem symbol_lexeme (h : symbol c cs = .lexeme t text rest) :
    c :: cs = text ++ rest ∧ text ≠ [] := by
  rw [symbol] at h
  split at h
  · cases h
    exact ⟨by rw [List.cons_append, List.take_append_drop], List.cons_ne_nil _ _⟩
  · split at h
    · cases h; simp
    · cases h

/-- A token's spelling is part of the text, and the rest follows it. -/
theorem token_lexeme (h : token c cs = .lexeme t text rest) :
    c :: cs = text ++ rest ∧ text ≠ [] := by
  rw [token] at h
  split at h
  · cases h
    simp [List.takeWhile_append_dropWhile]
  split at h
  · obtain ⟨rfl, rfl⟩ := number_lexeme h
    simp [List.takeWhile_append_dropWhile]
  · exact symbol_lexeme h

/-- A token that stands first is neither white space nor a comment. -/
theorem first_eq_token {s : Step} (h : first cs = s) (hs : (s.scanned? 0).isSome = true) :
    ∃ c rest, cs = c :: rest ∧ Character.isBlank c = false ∧ c ≠ '\x7b' ∧
      ¬(c = '(' ∧ rest.head? = some '*') ∧ token c rest = s := by
  match cs with
  | [] =>
    subst h
    cases hs
  | c :: rest =>
    refine ⟨c, rest, rfl, ?_⟩
    rw [first] at h
    split at h
    · subst h
      cases hs
    next hblank =>
    split at h
    · rw [← h, scanned?_comment] at hs
      cases hs
    next hbrace =>
    split at h
    · rw [← h, scanned?_comment] at hs
      cases hs
    next hparen =>
    exact ⟨Bool.not_eq_true _ ▸ hblank, hbrace, hparen, h⟩

/-- A gap that stands first is a blank, or a comment of one of the two kinds. -/
theorem first_gap_cases (h : first cs = .gap text rest) :
    (∃ c, Character.isBlank c = true ∧ cs = c :: rest ∧ text = [c]) ∨
      (∃ tail body, cs = '\x7b' :: tail ∧ closeBrace tail = some (body, rest) ∧
        text = '\x7b' :: body) ∨
      ∃ tail body, cs = '(' :: '*' :: tail ∧ closeStar tail = some (body, rest) ∧
        text = '(' :: '*' :: body := by
  match cs with
  | [] => cases h
  | c :: cs =>
    rw [first] at h
    split at h
    · next hblank =>
      cases h
      exact .inl ⟨c, hblank, rfl, rfl⟩
    split at h
    · next hbrace =>
      obtain ⟨body, hclose, rfl⟩ := comment_gap h
      exact .inr (.inl ⟨cs, body, by rw [hbrace], hclose, by rw [hbrace]; rfl⟩)
    split at h
    · next hparen =>
      obtain ⟨rfl, hstar⟩ := hparen
      obtain ⟨cs, rfl⟩ := List.head?_eq_some_iff.1 hstar
      obtain ⟨body, hclose, rfl⟩ := comment_gap h
      exact .inr (.inr ⟨cs, body, rfl, hclose, rfl⟩)
    · exact absurd h (token_ne rfl)

/-- An unclosed comment that stands first is of one of the two kinds. -/
theorem first_unclosed_cases (h : first cs = .unclosed) :
    (∃ tail, cs = '\x7b' :: tail ∧ closeBrace tail = none) ∨
      ∃ tail, cs = '(' :: '*' :: tail ∧ closeStar tail = none := by
  match cs with
  | [] => cases h
  | c :: cs =>
    rw [first] at h
    split at h
    · cases h
    split at h
    · next hbrace => exact .inl ⟨cs, by rw [hbrace], comment_unclosed h⟩
    split at h
    · next hparen =>
      obtain ⟨rfl, hstar⟩ := hparen
      obtain ⟨cs, rfl⟩ := List.head?_eq_some_iff.1 hstar
      exact .inr ⟨cs, rfl, comment_unclosed h⟩
    · exact absurd h (token_ne rfl)

/-- Something stands first in every text that is not empty. -/
theorem eq_nil_of_first (h : first cs = .stop) : cs = [] := by
  match cs with
  | [] => rfl
  | c :: cs =>
    rw [first] at h
    split at h
    · cases h
    split at h
    · exact absurd h comment_ne_stop
    split at h
    · exact absurd h comment_ne_stop
    · exact absurd h (token_ne rfl)

/-- White space or a comment is part of the text, and the rest follows it. -/
theorem first_gap (h : first cs = .gap text rest) : cs = text ++ rest ∧ text ≠ [] := by
  obtain ⟨c, -, rfl, rfl⟩ | ⟨tail, body, rfl, hclose, rfl⟩ | ⟨tail, body, rfl, hclose, rfl⟩ :=
    first_gap_cases h
  · simp
  · simp [closeBrace_eq hclose]
  · simp [closeStar_eq hclose]

/-- A token's spelling is part of the text, and the rest follows it. -/
theorem first_lexeme (h : first cs = .lexeme t text rest) : cs = text ++ rest ∧ text ≠ [] := by
  obtain ⟨c, tail, rfl, -, -, -, htoken⟩ := first_eq_token h rfl
  exact token_lexeme htoken

/-- What follows a gap is shorter than the text. -/
theorem length_lt_of_gap (h : first cs = .gap text rest) : rest.length < cs.length := by
  obtain ⟨rfl, ht⟩ := first_gap h
  have := List.length_pos_iff.2 ht
  simp; omega

/-- What follows a token is shorter than the text. -/
theorem length_lt_of_lexeme (h : first cs = .lexeme t text rest) : rest.length < cs.length := by
  obtain ⟨rfl, ht⟩ := first_lexeme h
  have := List.length_pos_iff.2 ht
  simp; omega

end

end Step

/-! ## The loops -/

namespace Scan

/-- The loop over white space passes all of it, and counts each line break in it once. -/
theorem blanks_eq (line : Nat) (cs : List Char) : blanks line cs =
    (cs.dropWhile Character.isBlank, line + newlines (cs.takeWhile Character.isBlank)) := by
  induction cs generalizing line with
  | nil => rfl
  | cons c cs ih =>
    rw [blanks]
    by_cases hb : Character.isBlank c = true
    · have hline : (if c = '\n' then line + 1 else line) = line + newlines [c] := by
        by_cases hc : c = '\n'
        · rw [if_pos hc, hc]
          rfl
        · rw [if_neg hc, newlines_singleton_of_ne hc, Nat.add_zero]
      rw [if_pos hb, List.dropWhile_cons_of_pos hb, List.takeWhile_cons_of_pos hb, ih, hline,
        newlines_cons c (cs.takeWhile _), Nat.add_assoc]
    · rw [if_neg hb, List.dropWhile_cons_of_neg hb, List.takeWhile_cons_of_neg hb]
      rfl

/-- How the loop over a comment ends that was opened on the line `start` and goes through `cs` from
another line on. It leaves the line with each line break passed counted once: in the text up to the
end of the comment or, where there is none, in all of `cs`. -/
def closing (start line : Nat) (cs : List Char) :
    Option (List Char × List Char) → Outcome Nat (List Char)
  | some (text, rest) => .done rest (line + newlines text)
  | none => .stop (.unterminatedComment start) (line + newlines cs)

/-- One character before the end of the comment is counted like the others. -/
theorem closing_cons (start line : Nat) (c : Char) (cs : List Char)
    (o : Option (List Char × List Char)) :
    closing start line (c :: cs) (o.map fun (text, rest) => (c :: text, rest)) =
      closing start (line + newlines [c]) cs o := by
  cases o with
  | none => simp only [Option.map_none, closing, newlines_cons c cs, Nat.add_assoc]
  | some p => simp only [Option.map_some, closing, newlines_cons c p.1, Nat.add_assoc]

/-- The loop over a comment in braces counts each line break once, also when the comment is never
closed. -/
theorem braceComment_eq (start line : Nat) (cs : List Char) :
    braceComment start line cs = closing start line cs (closeBrace cs) := by
  induction cs generalizing line with
  | nil => rfl
  | cons c cs ih =>
    rw [braceComment, closeBrace]
    by_cases hc : c = '\n'
    · subst hc
      rw [if_pos rfl, if_neg (by decide), closing_cons, ih]
      rfl
    by_cases hclose : c = '\x7d'
    · rw [if_neg hc, if_pos hclose, if_pos hclose, closing, newlines_singleton_of_ne hc,
        Nat.add_zero]
    · rw [if_neg hc, if_neg hclose, if_neg hclose, closing_cons, newlines_singleton_of_ne hc,
        Nat.add_zero, ih]

/-- The loop over a comment with stars counts each line break once, also behind a star and when the
comment is never closed. -/
theorem starComment_eq (start line : Nat) (cs : List Char) :
    starComment start line cs = closing start line cs (closeStar cs) := by
  induction cs generalizing line with
  | nil => rfl
  | cons c cs ih =>
    rw [starComment, closeStar]
    by_cases hc : c = '\n'
    · subst hc
      rw [if_pos rfl, if_neg (by simp), closing_cons, ih]
      rfl
    by_cases hclose : c = '*' ∧ cs.head? = some ')'
    · have hnone : newlines ['*', ')'] = 0 := rfl
      rw [if_neg hc, if_pos hclose, if_pos hclose, hclose.1, closing, hnone, Nat.add_zero]
    · rw [if_neg hc, if_neg hclose, if_neg hclose, closing_cons, newlines_singleton_of_ne hc,
        Nat.add_zero, ih]

/-! ## Gaps -/

section
variable {c : Char} {cs text rest : List Char} {line : Nat}

/-- A gap may be passed after its first white space has been. -/
theorem gaps_blanks (line : Nat) (cs : List Char) :
    gaps (blanks line cs).2 (blanks line cs).1 = gaps line cs := by
  cases cs with
  | nil => rfl
  | cons c cs =>
    by_cases hb : Character.isBlank c = true
    · have hbrace : c ≠ '\x7b' := by
        rintro rfl
        cases hb
      have hparen : ¬(c = '(' ∧ cs.head? = some '*') := by
        rintro ⟨rfl, -⟩
        cases hb
      conv => rhs; rw [gaps, if_neg hbrace, if_neg hparen, dif_pos hb]
    · rw [blanks, if_neg hb]

/-- A closed comment in braces is passed. -/
theorem gaps_brace_of_some (h : closeBrace cs = some (text, rest)) :
    gaps line ('\x7b' :: cs) = gaps (line + newlines text) rest := by
  have hloop := braceComment_eq line line cs
  rw [h, closing] at hloop
  rw [gaps, if_pos rfl]
  split <;> simp_all

/-- A comment in braces that is never closed is an error on the line of its brace. -/
theorem gaps_brace_of_none (h : closeBrace cs = none) : gaps line ('\x7b' :: cs) =
    .stop (.unterminatedComment line) (line + newlines cs) := by
  have hloop := braceComment_eq line line cs
  rw [h, closing] at hloop
  rw [gaps, if_pos rfl]
  split <;> simp_all

/-- A closed comment with stars is passed. -/
theorem gaps_star_of_some (h : closeStar cs = some (text, rest)) :
    gaps line ('(' :: '*' :: cs) = gaps (line + newlines text) rest := by
  have hloop := starComment_eq line line cs
  rw [h, closing] at hloop
  rw [gaps, if_neg (by decide), if_pos ⟨rfl, rfl⟩]
  split <;> simp_all

/-- A comment with stars that is never closed is an error on the line of its parenthesis. -/
theorem gaps_star_of_none (h : closeStar cs = none) : gaps line ('(' :: '*' :: cs) =
    .stop (.unterminatedComment line) (line + newlines cs) := by
  have hloop := starComment_eq line line cs
  rw [h, closing] at hloop
  rw [gaps, if_neg (by decide), if_pos ⟨rfl, rfl⟩]
  split <;> simp_all

/-- The first gap is passed, and each line break in it is counted once. -/
theorem gaps_of_gap (h : Step.first cs = .gap text rest) :
    gaps line cs = gaps (line + newlines text) rest := by
  obtain ⟨c, hb, rfl, rfl⟩ | ⟨tail, body, rfl, hclose, rfl⟩ | ⟨tail, body, rfl, hclose, rfl⟩ :=
    Step.first_gap_cases h
  · have hblanks : blanks line (c :: rest) = blanks (line + newlines [c]) rest := by
      rw [blanks_eq, blanks_eq, List.dropWhile_cons_of_pos hb, List.takeWhile_cons_of_pos hb,
        newlines_cons c (rest.takeWhile _), Nat.add_assoc]
    rw [← gaps_blanks, hblanks, gaps_blanks]
  · have hopener : newlines ('\x7b' :: body) = newlines body := by
      rw [newlines_cons, newlines_singleton_of_ne (by decide), Nat.zero_add]
    rw [gaps_brace_of_some hclose, hopener]
  · have hopener : newlines ('(' :: '*' :: body) = newlines body := by
      rw [newlines_cons, newlines_cons '*', newlines_singleton_of_ne (by decide),
        newlines_singleton_of_ne (by decide), Nat.zero_add, Nat.zero_add]
    rw [gaps_star_of_some hclose, hopener]

/-- An unclosed comment is an error on its first line. All of the text is passed, and each line
break in it is counted once. -/
theorem gaps_of_unclosed (h : Step.first cs = .unclosed) :
    gaps line cs = .stop (.unterminatedComment line) (line + newlines cs) := by
  obtain ⟨tail, rfl, hclose⟩ | ⟨tail, rfl, hclose⟩ := Step.first_unclosed_cases h
  · rw [gaps_brace_of_none hclose, newlines_cons, newlines_singleton_of_ne (by decide),
      Nat.zero_add]
  · rw [gaps_star_of_none hclose, newlines_cons, newlines_cons '*',
      newlines_singleton_of_ne (by decide), newlines_singleton_of_ne (by decide), Nat.zero_add,
      Nat.zero_add]

/-- No gap stands before a token. -/
theorem gaps_of_token (line : Nat) {s : Step} {o : Outcome Nat (Token × List Char)}
    (h : Step.first cs = s) (hs : s.scanned? line = some o) :
    gaps line cs = .done cs line ∧ ∃ c rest, cs = c :: rest ∧ token line c rest = o := by
  have hsome : (s.scanned? 0).isSome = true := by
    cases s <;> first | rfl | cases hs
  obtain ⟨c, rest, rfl, hblank, hbrace, hparen, rfl⟩ := Step.first_eq_token h hsome
  rw [Step.scanned?_token] at hs
  refine ⟨?_, c, rest, rfl, Option.some.inj hs⟩
  rw [gaps, if_neg hbrace, if_neg hparen, dif_neg (by simp [hblank])]

end

end Scan

/-! ## The whole text -/

section
variable {cs text rest : List Char} {t : Token} {line : Nat}

/-- A scan goes on behind a gap, with each line break in the gap counted once. -/
theorem scanFrom_of_gap (h : Step.first cs = .gap text rest) :
    scanFrom line cs = scanFrom (line + newlines text) rest := by
  rw [scanFrom, scanFrom, Scan.gaps_of_gap h]

/-- A scan stops in a comment that is never closed, with all line breaks counted. -/
theorem scanFrom_of_unclosed (h : Step.first cs = .unclosed) :
    scanFrom line cs = .stop (.unterminatedComment line) (line + newlines cs) := by
  rw [scanFrom, Scan.gaps_of_unclosed h]

/-- A scan ends at the end of the text. -/
theorem scanFrom_nil (line : Nat) : scanFrom line [] = .done [⟨.eof, line⟩] line := by
  rw [scanFrom, Scan.gaps]

/-- A scan goes on behind a token, on the same line. -/
theorem scanFrom_of_lexeme (h : Step.first cs = .lexeme t text rest) :
    scanFrom line cs = (scanFrom line rest).map (⟨t, line⟩ :: ·) := by
  obtain ⟨hgaps, c, tail, rfl, htoken⟩ := Scan.gaps_of_token line h rfl
  rw [scanFrom, hgaps]
  dsimp only
  rw [htoken]

/-- A scan stops at a number that is too large. -/
theorem scanFrom_of_oversized {digits : List Char} (h : Step.first cs = .oversized digits) :
    scanFrom line cs = .stop (.invalidNumber (String.ofList digits) line) line := by
  obtain ⟨hgaps, c, tail, rfl, htoken⟩ := Scan.gaps_of_token line h rfl
  rw [scanFrom, hgaps]
  dsimp only
  rw [htoken]

/-- A scan stops at a character that nothing starts with. -/
theorem scanFrom_of_unknown {c : Char} (h : Step.first cs = .unknown c) :
    scanFrom line cs = .stop (.unknownCharacter c line) line := by
  obtain ⟨hgaps, d, tail, rfl, htoken⟩ := Scan.gaps_of_token line h rfl
  rw [scanFrom, hgaps]
  dsimp only
  rw [htoken]

end

/-- Induction along the pieces of a text: what holds at the end of a text, where a scan stops, and
before a gap or a token if it holds behind, holds of every text on every line. -/
@[elab_as_elim]
theorem Step.induct {P : Nat → List Char → Prop} (stop : ∀ line, P line [])
    (gap : ∀ line cs text rest, first cs = .gap text rest → P (line + newlines text) rest →
      P line cs)
    (lexeme : ∀ line cs t text rest, first cs = .lexeme t text rest → P line rest → P line cs)
    (unclosed : ∀ line cs, first cs = .unclosed → P line cs)
    (oversized : ∀ line cs digits, first cs = .oversized digits → P line cs)
    (unknown : ∀ line cs c, first cs = .unknown c → P line cs) (line : Nat) (cs : List Char) :
    P line cs := by
  match h : first cs with
  | .stop =>
    rw [eq_nil_of_first h]
    exact stop line
  | .gap text rest =>
    exact gap line cs text rest h (induct stop gap lexeme unclosed oversized unknown _ rest)
  | .lexeme t text rest =>
    exact lexeme line cs t text rest h
      (induct stop gap lexeme unclosed oversized unknown line rest)
  | .unclosed => exact unclosed line cs h
  | .oversized digits => exact oversized line cs digits h
  | .unknown c => exact unknown line cs c h
termination_by cs.length
decreasing_by
  · exact length_lt_of_gap h
  · exact length_lt_of_lexeme h

end MiniPascal
