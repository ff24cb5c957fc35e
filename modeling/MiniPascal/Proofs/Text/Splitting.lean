import MiniPascal.Proofs.LexicalGrammar

/-!
# The scanner splits a text as the lexical grammar does

`Step.first` finds what the grammar puts first: white space or a comment (`Trivia.first`), the
longest lexeme (`LongestLexeme.first`), or a defect (`Defect.scan_stop`). So a scan follows every
split of its text (`Splits.scan_map`). And every text is split as far as its end or a defect
(`exists_splits`), so nothing else is scanned (`scan_splits`).
-/

namespace MiniPascal

/-! ## The ends of comments -/

section
variable {c : Char} {cs body rest : List Char}

/-- A comment in braces ends with its first closing brace. -/
theorem closeBrace_append (h : '\x7d' ∉ body) :
    closeBrace (body ++ '\x7d' :: rest) = some (body ++ ['\x7d'], rest) := by
  induction body with
  | nil => rfl
  | cons c body ih =>
    rw [List.mem_cons, not_or] at h
    rw [List.cons_append, closeBrace, if_neg (Ne.symm h.1), ih h.2]
    rfl

/-- A comment without a closing brace is not closed. -/
theorem closeBrace_eq_none (h : '\x7d' ∉ cs) : closeBrace cs = none := by
  induction cs with
  | nil => rfl
  | cons c cs ih =>
    rw [List.mem_cons, not_or] at h
    rw [closeBrace, if_neg (Ne.symm h.1), ih h.2]
    rfl

/-- The first two characters close a comment. -/
theorem closer_prefix_iff : ['*', ')'] <+: c :: cs ↔ c = '*' ∧ cs.head? = some ')' := by
  rw [List.cons_prefix_cons, eq_comm]
  cases cs with
  | nil => simp
  | cons d cs => simp [eq_comm]

/-- What closes a comment does not stand first in a text that does not hold it. -/
theorem not_closer (h : ¬['*', ')'] <:+: c :: cs) :
    ¬(c = '*' ∧ cs.head? = some ')') ∧ ¬['*', ')'] <:+: cs := by
  rwa [List.infix_cons_iff, closer_prefix_iff, not_or] at h

/-- A comment in parentheses ends with its first star before a parenthesis. -/
theorem closeStar_append (h : ¬['*', ')'] <:+: body) :
    closeStar (body ++ '*' :: ')' :: rest) = some (body ++ ['*', ')'], rest) := by
  induction body with
  | nil => rfl
  | cons c body ih =>
    obtain ⟨hc, h⟩ := not_closer h
    have hne : ¬(c = '*' ∧ (body ++ '*' :: ')' :: rest).head? = some ')') := by
      cases body with
      | nil => rintro ⟨-, ⟨⟩⟩
      | cons d body => exact hc
    rw [List.cons_append, closeStar, if_neg hne, ih h]
    rfl

/-- A comment without a star before a parenthesis is not closed. -/
theorem closeStar_eq_none (h : ¬['*', ')'] <:+: cs) : closeStar cs = none := by
  induction cs with
  | nil => rfl
  | cons c cs ih =>
    obtain ⟨hc, h⟩ := not_closer h
    rw [closeStar, if_neg hc, ih h]
    rfl

/-- A text that holds what closes a comment has a first place where it stands. -/
theorem exists_first_closer (h : ['*', ')'] <:+: cs) :
    ∃ body rest, ¬['*', ')'] <:+: body ∧ cs = body ++ '*' :: ')' :: rest := by
  induction cs with
  | nil => cases List.infix_nil.1 h
  | cons c cs ih =>
    rcases List.infix_cons_iff.1 h with h | h
    · obtain ⟨rest, hrest⟩ := h
      exact ⟨[], rest, by decide, hrest.symm⟩
    · by_cases hc : c = '*' ∧ cs.head? = some ')'
      · obtain ⟨rest, hrest⟩ := closer_prefix_iff.2 hc
        exact ⟨[], rest, by decide, hrest.symm⟩
      · obtain ⟨body, rest, hbody, rfl⟩ := ih h
        refine ⟨c :: body, rest, ?_, rfl⟩
        rw [List.infix_cons_iff, closer_prefix_iff, not_or]
        refine ⟨fun ⟨hstar, hparen⟩ => hc ⟨hstar, ?_⟩, hbody⟩
        rw [List.head?_append, hparen]
        rfl

end

/-! ## What stands first -/

section
variable {w cs ds rest : List Char} {t : Token} {s : Symbol} {line : Nat} {e : Error}

/-- White space or a comment that stands first is found. -/
theorem Trivia.first (h : Trivia w) : Step.first (w ++ cs) = .gap w cs := by
  cases h with
  | blank h => exact Step.first_blank h
  | @brace body h =>
    have hclose : closeBrace (body ++ '\x7d' :: cs) = some (body ++ ['\x7d'], cs) :=
      closeBrace_append h
    rw [List.cons_append, List.append_assoc, List.singleton_append, Step.first,
      if_neg (by decide), if_pos rfl, hclose]
    rfl
  | @star body h =>
    have hclose : closeStar (body ++ '*' :: ')' :: cs) = some (body ++ ['*', ')'], cs) :=
      closeStar_append h
    simp only [List.cons_append, List.append_assoc, List.nil_append]
    rw [Step.first, if_neg (by decide), if_neg (by decide), if_pos ⟨rfl, rfl⟩, List.tail_cons,
      hclose]
    rfl

/-- A character that would make a longer lexeme does not follow the longest one. -/
theorem LongestLexeme.not_append {c : Char} (h : LongestLexeme w (c :: rest)) :
    ¬LexemeForm (w ++ [c]) := by
  intro hlonger
  have hle := h.longest hlonger ⟨rest, by simp⟩
  rw [List.length_append] at hle
  exact absurd hle (Nat.not_succ_le_self _)

/-- A word that is the longest lexeme is followed by no part of a name. -/
theorem LongestLexeme.not_part (h : LongestLexeme w rest) (hw : Name.isWord w = true) :
    ∀ c ∈ rest.head?, Name.isPart c = false := by
  intro c hc
  obtain ⟨rest, rfl⟩ := List.head?_eq_some_iff.1 hc
  rw [← Bool.not_eq_true]
  intro hpart
  refine h.not_append (.word ?_)
  cases w with
  | nil => cases hw
  | cons a w =>
    rw [Name.isWord, Bool.and_eq_true] at hw
    simp [Name.isWord, hw, hpart]

/-- A run of digits that is the longest lexeme is followed by no digit. -/
theorem LongestLexeme.not_digit (h : LongestLexeme ds rest) (hds : ∀ d ∈ ds, d.isDigit = true) :
    ∀ c ∈ rest.head?, c.isDigit = false := by
  intro c hc
  obtain ⟨rest, rfl⟩ := List.head?_eq_some_iff.1 hc
  rw [← Bool.not_eq_true]
  intro hdigit
  refine h.not_append (.digits (by simp) ?_)
  simpa [or_imp, forall_and] using ⟨hds, hdigit⟩

/-- A character that joins a symbol makes another symbol of it, or opens a comment with it. -/
theorem Symbol.joins_cases {c : Char} (h : s.joins c = true) :
    (∃ t : Symbol, t.spelling.toList = s.spelling.toList ++ [c]) ∨
      s.spelling.toList ++ [c] = ['(', '*'] := by
  cases s with
  | colon =>
    obtain rfl : c = '=' := by simpa [Symbol.joins] using h
    exact .inl ⟨.assign, rfl⟩
  | less =>
    obtain rfl | rfl : c = '=' ∨ c = '>' := by simpa [Symbol.joins] using h
    · exact .inl ⟨.lessEqual, rfl⟩
    · exact .inl ⟨.notEqual, rfl⟩
  | greater =>
    obtain rfl : c = '=' := by simpa [Symbol.joins] using h
    exact .inl ⟨.greaterEqual, rfl⟩
  | leftParen =>
    obtain rfl : c = '*' := by simpa [Symbol.joins] using h
    exact .inr rfl
  | _ => cases h

/-- A symbol that is the longest lexeme is followed by no character that joins it. -/
theorem LongestLexeme.not_joins (h : LongestLexeme s.spelling.toList rest) :
    ∀ c ∈ rest.head?, s.joins c = false := by
  intro c hc
  obtain ⟨rest, rfl⟩ := List.head?_eq_some_iff.1 hc
  rw [← Bool.not_eq_true]
  intro hjoins
  rcases s.joins_cases hjoins with ⟨t, ht⟩ | hopens
  · exact h.not_append (ht ▸ .symbol t)
  · refine h.noComment ⟨rest, ?_⟩
    rw [← hopens]
    simp

/-- The longest word in front of a text comes first in it. -/
theorem LongestLexeme.first_word (h : LongestLexeme w rest) (hw : Name.isWord w = true) :
    Step.first (w ++ rest) = .lexeme (Token.ofWord w) w rest := by
  have hr := h.not_part hw
  cases w with
  | nil => cases hw
  | cons c w =>
    rw [Name.isWord, Bool.and_eq_true, List.all_eq_true] at hw
    exact Step.first_word hw.1 hw.2 hr

/-- The longest lexeme that stands first is found, with its token. -/
theorem LongestLexeme.first (h : LongestLexeme w rest) (ht : t.Denoted w) :
    Step.first (w ++ rest) = .lexeme t w rest := by
  cases ht with
  | keyword hw hk => rw [h.first_word hw, Token.ofWord, Keyword.ofWord?_eq_some_iff.2 hk]
  | name hw hk => rw [h.first_word hw, Token.ofWord, Keyword.ofWord?_eq_none_iff.2 hk]
  | @number _ n hne hds hn =>
    have hlt : Decimal.value w < Scan.numberLimit := by
      have := n.toInt_lt
      rw [Scan.numberLimit]
      omega
    have hvalue : Int64.ofNat (Decimal.value w) = n := by
      rw [← Int64.toInt_inj, Int64.toInt_ofNat_of_lt hlt, hn]
    rw [Step.first_number hne hds (h.not_digit hds), Step.number, if_pos hlt, hvalue]
  | symbol s => exact Step.first_symbol s h.not_joins

/-- What the characters spell is a symbol if they are the form of a lexeme. -/
theorem Symbol.ofChars?_eq_none (h : ∀ s : Symbol, s.spelling.toList ≠ cs) :
    Symbol.ofChars? cs = none := by
  cases hs : Symbol.ofChars? cs with
  | none => rfl
  | some s => exact absurd (Symbol.spelling_of_ofChars? hs) (h s)

/-- A defect that stands first is found, and its error says what it is. -/
theorem Defect.first (h : Defect line cs e) :
    (Step.first cs = .unclosed ∧ e = .unterminatedComment line) ∨
      (∃ ds, Step.first cs = .oversized ds ∧ e = .invalidNumber (String.ofList ds) line) ∨
      ∃ c, Step.first cs = .unknown c ∧ e = .unknownCharacter c line := by
  cases h with
  | @brace body h =>
    refine .inl ⟨?_, rfl⟩
    rw [Step.first, if_neg (by decide), if_pos rfl, closeBrace_eq_none h]
    rfl
  | @star body h =>
    refine .inl ⟨?_, rfl⟩
    rw [Step.first, if_neg (by decide), if_neg (by decide), if_pos ⟨rfl, rfl⟩, List.tail_cons,
      closeStar_eq_none h]
    rfl
  | number h hne hds hlt =>
    refine .inr (.inl ⟨_, ?_, rfl⟩)
    rw [Step.first_number hne hds (h.not_digit hds), Step.number, if_neg]
    rw [Scan.numberLimit]
    omega
  | @unknown c rest htrivia hlexeme =>
    refine .inr (.inr ⟨c, ?_, rfl⟩)
    have hblank : ¬Character.isBlank c = true := fun hb => htrivia _ (.blank hb)
    have hbrace : c ≠ '\x7b' := by
      rintro rfl
      have hempty : Trivia ('\x7b' :: ([] ++ ['\x7d'])) := .brace List.not_mem_nil
      exact htrivia _ hempty
    have hsymbol (w : List Char) (s : Symbol) : s.spelling.toList ≠ c :: w := by
      intro hs
      exact hlexeme w (hs ▸ .symbol s)
    have hparen : ¬(c = '(' ∧ rest.head? = some '*') := by
      rintro ⟨rfl, -⟩
      exact hsymbol [] .leftParen rfl
    have hstart : ¬Name.isStart c = true := by
      intro hs
      exact hlexeme [] (.word (by simp [Name.isWord, hs]))
    have hdigit : ¬c.isDigit = true := by
      intro hd
      exact hlexeme [] (.digits (by simp) (by simpa using hd))
    rw [Step.first, if_neg hblank, if_neg hbrace, if_neg hparen, Step.token, if_neg hstart,
      if_neg hdigit, Step.symbol, Symbol.ofChars?_eq_none (hsymbol _),
      Symbol.ofChars?_eq_none (hsymbol _)]

/-- A scan fails at a defect, with its error. -/
theorem Defect.scan_stop (h : Defect line cs e) : ∃ n, scanFrom line cs = .stop e n := by
  obtain ⟨hfirst, rfl⟩ | ⟨ds, hfirst, rfl⟩ | ⟨c, hfirst, rfl⟩ := h.first
  · exact ⟨_, scanFrom_of_unclosed hfirst⟩
  · exact ⟨_, scanFrom_of_oversized hfirst⟩
  · exact ⟨_, scanFrom_of_unknown hfirst⟩

end

/-! ## Every text is split -/

section
variable {c : Char} {cs v rest : List Char}

/-- What satisfies a condition in front of a text is no longer than all that does. -/
theorem length_le_takeWhile {p : Char → Bool} (hv : ∀ d ∈ v, p d = true) (h : v <+: cs) :
    v.length ≤ (cs.takeWhile p).length := by
  obtain ⟨r, rfl⟩ := h
  rw [List.takeWhile_append_of_pos hv, List.length_append]
  exact Nat.le_add_right _ _

/-- What a class of characters goes on with after `c` is the longest lexeme, if every lexeme that
begins with `c` goes on in the class. -/
theorem LongestLexeme.of_takeWhile {p : Char → Bool} (hform : LexemeForm (c :: cs.takeWhile p))
    (hc : c ≠ '(') (hp : ∀ v, LexemeForm (c :: v) → ∀ d ∈ v, p d = true) :
    LongestLexeme (c :: cs.takeWhile p) (cs.dropWhile p) where
  form := hform
  longest {v} hv hprefix := by
    rw [List.cons_append, List.takeWhile_append_dropWhile] at hprefix
    cases v with
    | nil => exact Nat.zero_le _
    | cons a v =>
      obtain ⟨rfl, htail⟩ := List.cons_prefix_cons.1 hprefix
      exact Nat.succ_le_succ (length_le_takeWhile (hp v hv) htail)
  noComment hprefix := hc (List.cons_prefix_cons.1 hprefix).1.symm

/-- A word that stands first is the longest lexeme as far as its last character. -/
theorem LongestLexeme.of_word (hc : Name.isStart c = true) :
    LongestLexeme (c :: cs.takeWhile Name.isPart) (cs.dropWhile Name.isPart) := by
  refine .of_takeWhile (.word (by simp [Name.isWord, hc])) ?_ fun v hv => ?_
  · rintro rfl
    cases hc
  · rcases hv.cases_cons with ⟨-, hv⟩ | ⟨-, hv⟩ | ⟨s, hs⟩
    · exact hv
    · exact fun d hd => isPart_of_isDigit (hv d hd)
    · cases hc.symm.trans (Symbol.spelling_cons hs).1

/-- A run of digits that stands first is the longest lexeme as far as its last digit. -/
theorem LongestLexeme.of_digits (hc : c.isDigit = true) :
    LongestLexeme (c :: cs.takeWhile Char.isDigit) (cs.dropWhile Char.isDigit) := by
  obtain ⟨-, -, hparen, hstart⟩ := not_special_of_isDigit hc
  have hall : ∀ d ∈ cs.takeWhile Char.isDigit, d.isDigit = true :=
    List.all_eq_true.1 List.all_takeWhile
  refine .of_takeWhile (.digits (by simp) (List.forall_mem_cons.2 ⟨hc, hall⟩)) hparen
    fun v hv => ?_
  rcases hv.cases_cons with ⟨hs, -⟩ | ⟨-, hv⟩ | ⟨s, hs⟩
  · cases hs.symm.trans hstart
  · exact hv
  · cases hc.symm.trans (Symbol.spelling_cons hs).2.1

/-- The longest of the symbols with which a text begins is the longest lexeme. -/
theorem LongestLexeme.of_symbol {s : Symbol} (hopen : ¬['(', '*'] <+: s.spelling.toList ++ rest)
    (hmax : ∀ t : Symbol, t.spelling.toList <+: s.spelling.toList ++ rest →
      t.spelling.toList.length ≤ s.spelling.toList.length) :
    LongestLexeme s.spelling.toList rest where
  form := .symbol s
  longest {v} hv hprefix := by
    cases v with
    | nil => exact Nat.zero_le _
    | cons a v =>
      obtain ⟨b, w, hs⟩ := List.exists_cons_of_ne_nil (LexemeForm.symbol s).ne_nil
      obtain ⟨hstart, hdigit, -⟩ := Symbol.spelling_cons hs
      have hab : a = b := by
        rw [hs] at hprefix
        exact (List.cons_prefix_cons.1 hprefix).1
      subst hab
      rcases hv.cases_cons with ⟨ha, -⟩ | ⟨ha, -⟩ | ⟨t, ht⟩
      · cases ha.symm.trans hstart
      · cases ha.symm.trans hdigit
      · rw [← ht] at hprefix ⊢
        exact hmax t hprefix
  noComment := hopen

/-- Where a symbol stands first and no comment opens, the longest one is the longest lexeme. -/
theorem exists_longest_symbol (hopen : ¬['(', '*'] <+: cs)
    (h : ∃ s : Symbol, s.spelling.toList <+: cs) :
    ∃ (s : Symbol) (rest : List Char), cs = s.spelling.toList ++ rest ∧
      LongestLexeme s.spelling.toList rest := by
  have hlength (s : Symbol) : 1 ≤ s.spelling.toList.length ∧ s.spelling.toList.length ≤ 2 := by
    cases s <;> decide
  by_cases htwo : ∃ s : Symbol, s.spelling.toList <+: cs ∧ s.spelling.toList.length = 2
  · obtain ⟨s, ⟨rest, rfl⟩, hs⟩ := htwo
    exact ⟨s, rest, rfl, .of_symbol hopen fun t _ => hs ▸ (hlength t).2⟩
  · obtain ⟨s, rest, rfl⟩ := h
    refine ⟨s, rest, rfl, .of_symbol hopen fun t ht => ?_⟩
    have hne : t.spelling.toList.length ≠ 2 := fun h => htwo ⟨t, ht, h⟩
    have := hlength s
    have := hlength t
    omega

/-- A word is a keyword or a name. -/
theorem Token.exists_denoted_word {w : List Char} (hw : Name.isWord w = true) :
    ∃ t, Token.Denoted w t := by
  by_cases hk : ∃ k : Keyword, Keyword.foldCase w = k.word.toList
  · obtain ⟨k, hk⟩ := hk
    exact ⟨_, .keyword hw hk⟩
  · exact ⟨_, .name hw fun k h => hk ⟨k, h⟩⟩

/-- A run of digits is a number unless it is too large. -/
theorem Token.exists_denoted_digits {ds : List Char} (hne : ds ≠ [])
    (hds : ∀ d ∈ ds, d.isDigit = true) (hle : Decimal.value ds ≤ 0x7fffffffffffffff) :
    ∃ t, Token.Denoted ds t := by
  refine ⟨_, .number (n := Int64.ofNat (Decimal.value ds)) hne hds ?_⟩
  exact Int64.toInt_ofNat_of_lt (Nat.lt_of_le_of_lt hle (by decide))

/-- What stands first in a text: trivia, a lexeme or a defect. -/
inductive Piece (cs : List Char) : Prop
  | trivia {w rest} : cs = w ++ rest → Trivia w → Piece cs
  | lexeme {w t rest} : cs = w ++ rest → LongestLexeme w rest → Token.Denoted w t → Piece cs
  | defect : (∀ line, ∃ e, Defect line cs e) → Piece cs

/-- An opening brace begins a comment, or it is never closed. -/
theorem Piece.brace : Piece ('\x7b' :: cs) := by
  by_cases h : '\x7d' ∈ cs
  · obtain ⟨body, rest, rfl, hbody⟩ := List.eq_append_cons_of_mem h
    have hsplit : '\x7b' :: (body ++ '\x7d' :: rest) = '\x7b' :: (body ++ ['\x7d']) ++ rest := by
      simp
    exact .trivia hsplit (.brace hbody)
  · exact .defect fun line => ⟨_, .brace h⟩

/-- A parenthesis and a star begin a comment, or it is never closed. -/
theorem Piece.star : Piece ('(' :: '*' :: cs) := by
  by_cases h : ['*', ')'] <:+: cs
  · obtain ⟨body, rest, hbody, rfl⟩ := exists_first_closer h
    have hsplit : '(' :: '*' :: (body ++ '*' :: ')' :: rest) =
        '(' :: '*' :: (body ++ ['*', ')']) ++ rest := by
      simp
    exact .trivia hsplit (.star hbody)
  · exact .defect fun line => ⟨_, .star h⟩

/-- What begins a name begins a word. -/
theorem Piece.word (hc : Name.isStart c = true) : Piece (c :: cs) := by
  have hsplit : c :: cs = (c :: cs.takeWhile Name.isPart) ++ cs.dropWhile Name.isPart := by
    rw [List.cons_append, List.takeWhile_append_dropWhile]
  have hword : Name.isWord (c :: cs.takeWhile Name.isPart) = true := by
    simp [Name.isWord, hc]
  obtain ⟨t, ht⟩ := Token.exists_denoted_word hword
  exact .lexeme hsplit (.of_word hc) ht

/-- A digit begins a number, or the number is too large. -/
theorem Piece.digits (hc : c.isDigit = true) : Piece (c :: cs) := by
  have hds : ∀ d ∈ c :: cs.takeWhile Char.isDigit, d.isDigit = true :=
    List.forall_mem_cons.2 ⟨hc, List.all_eq_true.1 List.all_takeWhile⟩
  have hsplit : c :: cs = (c :: cs.takeWhile Char.isDigit) ++ cs.dropWhile Char.isDigit := by
    rw [List.cons_append, List.takeWhile_append_dropWhile]
  by_cases hle : Decimal.value (c :: cs.takeWhile Char.isDigit) ≤ 0x7fffffffffffffff
  · obtain ⟨t, ht⟩ := Token.exists_denoted_digits (by simp) hds hle
    exact .lexeme hsplit (.of_digits hc) ht
  · have hlt := Nat.lt_of_not_le hle
    rw [hsplit]
    exact .defect fun line => ⟨_, .number (.of_digits hc) (by simp) hds hlt⟩

/-- What begins neither trivia nor a word nor a number begins a symbol or nothing. -/
theorem Piece.symbol (hblank : ¬Character.isBlank c = true) (hbrace : c ≠ '\x7b')
    (hopen : ¬['(', '*'] <+: c :: cs) (hstart : ¬Name.isStart c = true)
    (hdigit : ¬c.isDigit = true) : Piece (c :: cs) := by
  by_cases h : ∃ s : Symbol, s.spelling.toList <+: c :: cs
  · obtain ⟨s, rest, hcs, hlongest⟩ := exists_longest_symbol hopen h
    exact .lexeme hcs hlongest (.symbol s)
  · have hsymbol (s : Symbol) (w : List Char) : s.spelling.toList ≠ c :: w := by
      intro hs
      obtain ⟨-, -, -, t, ht⟩ := Symbol.spelling_cons hs
      exact h ⟨t, ht ▸ ⟨cs, rfl⟩⟩
    refine .defect fun line => ⟨_, .unknown (fun w hw => ?_) fun w hw => ?_⟩
    · cases hw with
      | blank hb => exact hblank hb
      | brace => exact hbrace rfl
      | star => exact hsymbol .leftParen [] rfl
    · rcases hw.cases_cons with ⟨hs, -⟩ | ⟨hd, -⟩ | ⟨s, hs⟩
      · exact hstart hs
      · exact hdigit hd
      · exact hsymbol s w hs

/-- A text that is not at its end begins with trivia or a lexeme, or it has a defect. -/
theorem exists_piece (hne : cs ≠ []) : Piece cs := by
  obtain ⟨c, cs, rfl⟩ := List.exists_cons_of_ne_nil hne
  by_cases hblank : Character.isBlank c = true
  · exact .trivia (w := [c]) rfl (.blank hblank)
  by_cases hbrace : c = '\x7b'
  · exact hbrace ▸ .brace
  by_cases hopen : ['(', '*'] <+: c :: cs
  · obtain ⟨rest, hrest⟩ := hopen
    exact hrest ▸ .star
  by_cases hstart : Name.isStart c = true
  · exact .word hstart
  by_cases hdigit : c.isDigit = true
  · exact .digits hdigit
  · exact .symbol hblank hbrace hopen hstart hdigit

/-- Trivia has characters, so splitting makes progress. -/
theorem Trivia.ne_nil {w : List Char} (h : Trivia w) : w ≠ [] := by
  cases h <;> exact List.cons_ne_nil _ _

/-- Every text is split as far as its end or a defect. -/
theorem exists_splits (cs : List Char) :
    ∃ ts rest, Splits cs ts rest ∧ (rest = [] ∨ ∀ line, ∃ e, Defect line rest e) := by
  -- on the length of the text, since no piece is empty
  induction hn : cs.length using Nat.strongRecOn generalizing cs with
  | ind n ih =>
    subst hn
    by_cases hne : cs = []
    · exact ⟨[], [], hne ▸ .done [], .inl rfl⟩
    · have hshorter {w rest : List Char} (hw : w ≠ []) : rest.length < (w ++ rest).length := by
        have := List.length_pos_iff.2 hw
        rw [List.length_append]
        omega
      cases exists_piece hne with
      | @trivia w rest hcs hw =>
        subst hcs
        obtain ⟨ts, r, hsplits, hend⟩ := ih _ (hshorter hw.ne_nil) rest rfl
        exact ⟨ts, r, .trivia hw hsplits, hend⟩
      | @lexeme w t rest hcs hw ht =>
        subst hcs
        obtain ⟨ts, r, hsplits, hend⟩ := ih _ (hshorter hw.form.ne_nil) rest rfl
        exact ⟨t :: ts, r, .lexeme hw ht hsplits, hend⟩
      | defect h => exact ⟨[], cs, .done cs, .inr h⟩

end

/-! ## Scans -/

section
variable {w cs rest : List Char} {ts : List Token} {line : Nat} {e : Error}

/-- A lexeme holds no line break. -/
theorem LexemeForm.newlines_eq_zero (h : LexemeForm w) : newlines w = 0 := by
  rw [newlines, List.count_eq_zero]
  intro hmem
  cases w with
  | nil => cases hmem
  | cons c w =>
    rcases h.cases_cons with ⟨hc, hw⟩ | ⟨hc, hw⟩ | ⟨s, hs⟩
    · rcases List.mem_cons.1 hmem with rfl | hmem
      · cases hc
      · cases hw _ hmem
    · rcases List.mem_cons.1 hmem with rfl | hmem
      · cases hc
      · cases hw _ hmem
    · rw [← hs] at hmem
      cases s <;> revert hmem <;> decide

/-- A scan goes through a split: it yields the tokens and goes on with the rest, on the line it has
reached. -/
theorem Splits.scan_map (h : Splits cs ts rest) : ∃ pre, cs = pre ++ rest ∧ ∀ line, ∃ ls,
    ls.map Lexeme.token = ts ∧
      scanFrom line cs = (scanFrom (line + newlines pre) rest).map (ls ++ ·) := by
  induction h with
  | done rest =>
    refine ⟨[], rfl, fun line => ⟨[], rfl, ?_⟩⟩
    change scanFrom line rest = (scanFrom line rest).map fun ls => ls
    cases scanFrom line rest <;> rfl
  | @trivia w cs ts rest hw _ ih =>
    obtain ⟨pre, rfl, ih⟩ := ih
    refine ⟨w ++ pre, (List.append_assoc ..).symm, fun line => ?_⟩
    obtain ⟨ls, hls, hscan⟩ := ih (line + newlines w)
    refine ⟨ls, hls, ?_⟩
    rw [scanFrom_of_gap hw.first, hscan, newlines_append, Nat.add_assoc]
  | @lexeme w t cs ts rest hw ht _ ih =>
    obtain ⟨pre, rfl, ih⟩ := ih
    refine ⟨w ++ pre, (List.append_assoc ..).symm, fun line => ?_⟩
    obtain ⟨ls, hls, hscan⟩ := ih line
    refine ⟨⟨t, line⟩ :: ls, congrArg (t :: ·) hls, ?_⟩
    rw [scanFrom_of_lexeme (hw.first ht), hscan, newlines_append, hw.form.newlines_eq_zero,
      Nat.zero_add]
    cases scanFrom (line + newlines pre) rest <;> rfl

/-- A text that is split to its end is scanned to the tokens and an end of input. -/
theorem Splits.scan_done (h : Splits cs ts []) (line : Nat) :
    ∃ ls n, scanFrom line cs = .done ls n ∧ ls.map Lexeme.token = ts ++ [.eof] := by
  obtain ⟨pre, -, hrun⟩ := h.scan_map
  obtain ⟨ls, rfl, hscan⟩ := hrun line
  rw [scanFrom_nil] at hscan
  exact ⟨_, _, hscan, List.map_append⟩

/-- A text that is split to a defect is not scanned: the defect is reported, on the line where the
split has come to. -/
theorem Splits.scan_stop {pre : List Char} (h : Splits cs ts rest) (hpre : cs = pre ++ rest)
    (hd : Defect (line + newlines pre) rest e) : ∃ n, scanFrom line cs = .stop e n := by
  obtain ⟨pre', hpre', hrun⟩ := h.scan_map
  obtain rfl : pre = pre' := List.append_cancel_right (hpre.symm.trans hpre')
  obtain ⟨ls, -, hscan⟩ := hrun line
  obtain ⟨n, hn⟩ := hd.scan_stop
  rw [hn] at hscan
  exact ⟨n, hscan⟩

/-- Every text is split to its end or to a defect. -/
theorem splits_cases (line : Nat) (cs : List Char) :
    (∃ us, Splits cs us []) ∨ ∃ pre us rest e, cs = pre ++ rest ∧ Splits cs us rest ∧
      Defect (line + newlines pre) rest e := by
  obtain ⟨us, rest, hsplits, rfl | hdefect⟩ := exists_splits cs
  · exact .inl ⟨us, hsplits⟩
  · obtain ⟨pre, hpre, -⟩ := hsplits.scan_map
    obtain ⟨e, he⟩ := hdefect (line + newlines pre)
    exact .inr ⟨pre, us, rest, e, hpre, hsplits, he⟩

section
variable {source : String}

/-- A scan succeeds with the tokens of a split of the whole text and the end of input. -/
theorem scan_done_iff : (∃ ls n, scan line source = .done ls n ∧ ls.map Lexeme.token = ts) ↔
    ∃ us, Splits source.toList us [] ∧ ts = us ++ [.eof] := by
  constructor
  · rintro ⟨ls, n, hscan, rfl⟩
    rcases splits_cases line source.toList with ⟨us, h⟩ | ⟨pre, us, rest, e, hpre, h, hd⟩
    · obtain ⟨ls', n', hscan', hls⟩ := h.scan_done line
      cases hscan.symm.trans hscan'
      exact ⟨us, h, hls⟩
    · obtain ⟨n', hscan'⟩ := h.scan_stop hpre hd
      cases hscan.symm.trans hscan'
  · rintro ⟨us, h, rfl⟩
    exact h.scan_done line

/-- A scan fails with the defect that a split of the text leads to, on the line of the defect. -/
theorem scan_stop_iff : (∃ n, scan line source = .stop e n) ↔
    ∃ pre us rest, source.toList = pre ++ rest ∧ Splits source.toList us rest ∧
      Defect (line + newlines pre) rest e := by
  constructor
  · rintro ⟨n, hscan⟩
    rcases splits_cases line source.toList with ⟨us, h⟩ | ⟨pre, us, rest, e', hpre, h, hd⟩
    · obtain ⟨ls, n', hscan', -⟩ := h.scan_done line
      cases hscan.symm.trans hscan'
    · obtain ⟨n', hscan'⟩ := h.scan_stop hpre hd
      cases hscan.symm.trans hscan'
      exact ⟨pre, us, rest, hpre, h, hd⟩
  · rintro ⟨pre, us, rest, hpre, h, hd⟩
    exact h.scan_stop hpre hd

end

end

/-- A source text is scanned to the tokens of its split and one end of input; or, if it is split
only as far as a defect, the scan reports this defect. -/
theorem scan_splits (line : Nat) (source : String) :
    (∀ ts, (∃ ls n, scan line source = .done ls n ∧ ls.map Lexeme.token = ts) ↔
      ∃ us, Splits source.toList us [] ∧ ts = us ++ [.eof]) ∧
    (∀ e, (∃ n, scan line source = .stop e n) ↔
      ∃ pre us rest, source.toList = pre ++ rest ∧ Splits source.toList us rest ∧
        Defect (line + newlines pre) rest e) :=
  ⟨fun _ => scan_done_iff, fun _ => scan_stop_iff⟩

-- the star that opens a comment is no part of what closes it
example : scan 1 "(*)" = .stop (.unterminatedComment 1) 1 := by decide +kernel

end MiniPascal
