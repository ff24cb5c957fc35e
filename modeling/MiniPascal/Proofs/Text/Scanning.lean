import MiniPascal.Proofs.Text.Pieces
import MiniPascal.Tree.Operator

/-!
# Scanning a text piece by piece

`Scans cs ts` says that the text `cs` is scanned to the tokens `ts`, on whatever line it starts. The
lemmas on `Scans` put one piece in front of a text. A word or a number ends where something else
begins, so they ask that the text after it is `Detached`: it does not begin with a part of a name.
Nor does it begin with an equals sign or a closing angle bracket, which could join a symbol.

The least number is written like the others, but its digits are too large for a number. Where it is
among the tokens, a scan stops at it (`Scans.stop`); where it is not, the scan yields the tokens
(`Scans.done`).
-/

namespace MiniPascal

/-- The text is scanned to these tokens, as far as the first one that is the least number. -/
inductive Scans : List Char → List Token → Prop
  | nil : Scans [] [.eof]
  | of_gap {cs text rest ts} : Step.first cs = .gap text rest → Scans rest ts → Scans cs ts
  | of_lexeme {cs text rest t ts} : Step.first cs = .lexeme t text rest → Scans rest ts →
      Scans cs (t :: ts)
  | of_least {cs ts} : Step.first cs = .oversized (Decimal.digits Scan.numberLimit) →
      Scans cs (.number Int64.minValue :: ts)

/-- The character does not go on with the token before it. -/
def Name.detaches (c : Char) : Bool :=
  !isPart c && c != '=' && c != '>'

/-- The characters are a name or a keyword. -/
def Name.isWord : List Char → Bool
  | [] => false
  | c :: rest => isStart c && rest.all isPart

/-- The text does not go on with the token before it. -/
def Detached (cs : List Char) : Prop :=
  ∀ c ∈ cs.head?, Name.detaches c = true

/-- The character written after the symbol would be read as part of it, or open a comment. -/
def Symbol.joins : Symbol → Char → Bool
  | .colon, c => c == '='
  | .less, c => c == '=' || c == '>'
  | .greater, c => c == '='
  | .leftParen, c => c == '*'
  | _, _ => false

/-! ## Characters -/

section
variable {c : Char}

/-- What holds of each character of a range of code points, code by code, holds of a character in
the range. -/
@[elab_as_elim]
theorem of_code_range {P : Char → Prop} (low count : Nat) (c : Char) (hlow : low ≤ c.toNat)
    (hhigh : c.toNat < low + count) (h : ∀ n ∈ List.range' low count, P (Char.ofNat n)) : P c := by
  have hc := h c.toNat (List.mem_range'_1.2 ⟨hlow, hhigh⟩)
  rwa [Char.ofNat_toNat] at hc

/-- White space is no part of a name. -/
theorem isPart_eq_false_of_isBlank (h : Character.isBlank c = true) : Name.isPart c = false := by
  have codes : ∀ r ∈ Character.blankRanges, ∀ n ∈ List.range' r.1 (r.2 + 1 - r.1),
      Name.isPart (Char.ofNat n) = false := by
    decide +kernel
  obtain ⟨r, hr, hc⟩ := List.any_eq_true.1 h
  simp only [Bool.and_eq_true, decide_eq_true_eq] at hc
  exact of_code_range r.1 (r.2 + 1 - r.1) c hc.1 (by omega) (codes r hr)

/-- What begins a name may go on with it. -/
theorem isPart_of_isStart (h : Name.isStart c = true) : Name.isPart c = true := by
  simp only [Name.isStart, Name.isPart, Bool.or_eq_true] at h ⊢
  exact h.imp_left .inl

/-- No name begins with white space. -/
theorem isStart_eq_false_of_isBlank (h : Character.isBlank c = true) :
    Name.isStart c = false := by
  rw [← Bool.not_eq_true]
  intro hstart
  cases (isPart_of_isStart hstart).symm.trans (isPart_eq_false_of_isBlank h)

/-- A digit begins neither a name nor anything but a number. -/
theorem not_special_of_isDigit (h : c.isDigit = true) :
    Character.isBlank c = false ∧ c ≠ '\x7b' ∧ c ≠ '(' ∧ Name.isStart c = false := by
  simp only [Char.isDigit, Bool.and_eq_true, decide_eq_true_eq] at h
  exact of_code_range 48 10 c h.1 (Nat.lt_succ_of_le h.2) (by decide +kernel)

/-- A name may go on with a digit. -/
theorem isPart_of_isDigit (h : c.isDigit = true) : Name.isPart c = true := by
  have hlt : c.toNat < 0x80 := by
    simp only [Char.isDigit, Bool.and_eq_true, decide_eq_true_eq] at h
    exact Nat.lt_of_le_of_lt h.2 (by decide)
  rw [Name.isPart, Character.isNumeric_ascii hlt, h, Bool.or_true, Bool.true_or]

/-- What begins a name is not white space. -/
theorem isBlank_eq_false_of_isStart (h : Name.isStart c = true) : Character.isBlank c = false := by
  rw [← Bool.not_eq_true]
  intro hb
  rw [isStart_eq_false_of_isBlank hb] at h
  cases h

end

/-- A valid name is a word that spells no keyword. -/
theorem Name.isValid_iff {cs : List Char} :
    isValid cs = true ↔ isWord cs = true ∧ Keyword.ofWord? cs = none := by
  cases cs with
  | nil => simp [isValid, isWord]
  | cons c cs => simp [isValid, isWord]

/-! ## The first piece -/

/-- What satisfies a condition is taken as far as the first character that does not. -/
theorem span_append {p : Char → Bool} {w r : List Char} (hw : ∀ c ∈ w, p c = true)
    (hr : ∀ c ∈ r.head?, p c = false) :
    (w ++ r).takeWhile p = w ∧ (w ++ r).dropWhile p = r := by
  rw [List.takeWhile_append_of_pos hw, List.dropWhile_append_of_pos hw]
  cases r with
  | nil => simp
  | cons c r => simp [hr c rfl]

namespace Symbol

/-- A symbol is found by its spelling. -/
theorem spelling_of_ofChars? {cs : List Char} {s : Symbol} (h : ofChars? cs = some s) :
    s.spelling.toList = cs := by
  simpa using List.find?_some h

/-- A symbol of one character does not become another one with the character after it. -/
theorem ofChars?_pair {s : Symbol} {a c : Char} (hs : s.spelling.toList = [a])
    (hc : s.joins c = false) : ofChars? [a, c] = none := by
  cases h : ofChars? [a, c] with
  | none => rfl
  | some t =>
    have ht := spelling_of_ofChars? h
    cases t <;> simp [spelling] at ht <;> obtain ⟨rfl, rfl⟩ := ht <;> cases s <;>
      simp [spelling, joins] at hs hc

end Symbol

namespace Step

/-- A character of white space is a gap by itself. -/
theorem first_blank {c : Char} {rest : List Char} (h : Character.isBlank c = true) :
    first (c :: rest) = .gap [c] rest := by
  rw [first, if_pos h]

/-- A word stands first as far as its last character. -/
theorem first_word {c : Char} {w rest : List Char} (hc : Name.isStart c = true)
    (hw : ∀ d ∈ w, Name.isPart d = true) (hr : ∀ d ∈ rest.head?, Name.isPart d = false) :
    first (c :: (w ++ rest)) = .lexeme (Token.ofWord (c :: w)) (c :: w) rest := by
  have hb := isBlank_eq_false_of_isStart hc
  have hbrace : c ≠ '\x7b' := by
    rintro rfl
    cases hc
  have hparen : c ≠ '(' := by
    rintro rfl
    cases hc
  obtain ⟨ht, hd⟩ := span_append hw hr
  simp [first, token, hb, hbrace, hparen, hc, ht, hd]

/-- A run of digits stands first as far as its last digit. -/
theorem first_number {ds rest : List Char} (hne : ds ≠ []) (hds : ∀ d ∈ ds, d.isDigit = true)
    (hr : ∀ d ∈ rest.head?, d.isDigit = false) : first (ds ++ rest) = number ds rest := by
  obtain ⟨c, ds, rfl⟩ := List.exists_cons_of_ne_nil hne
  have hc : c.isDigit = true := hds c List.mem_cons_self
  obtain ⟨hb, hbrace, hparen, hstart⟩ := not_special_of_isDigit hc
  obtain ⟨ht, hd⟩ := span_append (fun d h => hds d (List.mem_cons_of_mem _ h)) hr
  simp [first, token, hb, hbrace, hparen, hstart, hc, ht, hd]

/-- A symbol stands first unless the character after it would join it. -/
theorem first_symbol (s : Symbol) {rest : List Char} (hr : ∀ c ∈ rest.head?, s.joins c = false) :
    first (s.spelling.toList ++ rest) = .lexeme (.symbol s) s.spelling.toList rest := by
  cases rest with
  | nil => cases s <;> decide +kernel
  | cons c rest =>
    have hc := hr c rfl
    have single {a : Char} (hs : s.spelling.toList = [a]) :
        symbol a (c :: rest) = .lexeme (.symbol s) [a] (c :: rest) := by
      have hone : Symbol.ofChars? [a] = some s := by
        cases s <;> cases hs <;> decide
      simp [symbol, Symbol.ofChars?_pair hs hc, hone]
    cases s with
    | assign | notEqual | lessEqual | greaterEqual => rfl
    | leftParen =>
      have hne : ¬('(' = '(' ∧ (c :: rest).head? = some '*') := by simpa [Symbol.joins] using hc
      show first ('(' :: c :: rest) = _
      rw [first, if_neg (by decide), if_neg (by decide), if_neg hne]
      exact single rfl
    | _ => exact single rfl

end Step

/-! ## Whole texts -/

section
variable {rest : List Char} {ts : List Token}

/-- Nothing is detached from what stands before it. -/
theorem detached_nil : Detached [] :=
  nofun

/-- A text is detached if its first character detaches. -/
theorem detached_cons {c : Char} (h : Name.detaches c = true) : Detached (c :: rest) := by
  intro d hd
  cases hd
  exact h

/-- A detached text does not go on with a name. -/
theorem Detached.not_part (h : Detached rest) : ∀ c ∈ rest.head?, Name.isPart c = false := by
  intro c hc
  have := h c hc
  simp only [Name.detaches, Bool.and_eq_true, Bool.not_eq_true'] at this
  exact this.1.1

/-- A detached text does not go on with a number. -/
theorem Detached.not_digit (h : Detached rest) : ∀ c ∈ rest.head?, c.isDigit = false := by
  intro c hc
  rw [← Bool.not_eq_true]
  intro hdigit
  cases (h.not_part c hc).symm.trans (isPart_of_isDigit hdigit)

/-- A space in front of a text adds no token. -/
theorem Scans.blank (hs : Scans rest ts) : Scans (' ' :: rest) ts :=
  .of_gap (Step.first_blank rfl) hs

/-- A word in front of a text is a token of its own. -/
theorem Scans.word {w : List Char} (hw : Name.isWord w = true) (hr : Detached rest)
    (hs : Scans rest ts) : Scans (w ++ rest) (Token.ofWord w :: ts) := by
  cases w with
  | nil => cases hw
  | cons c w =>
    simp only [Name.isWord, Bool.and_eq_true, List.all_eq_true] at hw
    exact .of_lexeme (Step.first_word hw.1 hw.2 hr.not_part) hs

/-- A valid name in front of a detached text is scanned as this name. -/
theorem Scans.name {x : String} (hx : Name.isValid x.toList = true) (hr : Detached rest)
    (hs : Scans rest ts) : Scans (x.toList ++ rest) (.ident x :: ts) := by
  obtain ⟨hw, hk⟩ := Name.isValid_iff.1 hx
  have ht : Token.ofWord x.toList = .ident x := by
    rw [Token.ofWord, hk, String.ofList_toList]
  exact ht ▸ .word hw hr hs

/-- The word of a keyword in front of a detached text is scanned as the keyword. -/
theorem Scans.keyword (k : Keyword) (hr : Detached rest) (hs : Scans rest ts) :
    Scans (k.word.toList ++ rest) (.keyword k :: ts) := by
  have hw : Name.isWord k.word.toList = true := by
    cases k <;> decide +kernel
  have ht : Token.ofWord k.word.toList = .keyword k := by
    rw [Token.ofWord, Keyword.ofWord?_word]
  exact ht ▸ .word hw hr hs

/-- The digits of a number that fits, in front of a detached text, are scanned as the number. -/
theorem Scans.digits {n : Nat} (hn : n < Scan.numberLimit) (hr : Detached rest)
    (hs : Scans rest ts) :
    Scans (Decimal.digits n ++ rest) (.number (Int64.ofNat n) :: ts) := by
  have hf := Step.first_number (Decimal.digits_ne_nil n)
    (fun _ h => Decimal.isDigit_of_mem_digits h) hr.not_digit
  rw [Step.number, Decimal.value_digits, if_pos hn] at hf
  exact .of_lexeme hf hs

/-- The spelling of a symbol is scanned as the symbol, unless the next character makes a longer one
of it. -/
theorem Scans.symbol (s : Symbol) (hr : ∀ c ∈ rest.head?, s.joins c = false)
    (hs : Scans rest ts) : Scans (s.spelling.toList ++ rest) (.symbol s :: ts) :=
  .of_lexeme (Step.first_symbol s hr) hs

/-- A number that is not negative is a token of its own. -/
theorem Scans.number {n : Int64} (hn : 0 ≤ n.toInt) (hr : Detached rest) (hs : Scans rest ts) :
    Scans ((Decimal.text n.toInt).toList ++ rest) (.number n :: ts) := by
  obtain ⟨k, hk⟩ := Int.eq_ofNat_of_zero_le hn
  have hlt : k < Scan.numberLimit := by
    have := n.toInt_lt
    rw [Scan.numberLimit]
    omega
  have hn : Int64.ofNat k = n := by
    rw [← Int64.toInt_inj, Int64.toInt_ofNat_of_lt hlt, hk]
  rw [hk, ← hn]
  exact String.toList_ofList ▸ .digits hlt hr hs

/-- The least number without its sign is no number. -/
theorem Scans.leastDigits (hr : Detached rest) :
    Scans (Decimal.digits Scan.numberLimit ++ rest) (.number Int64.minValue :: ts) := by
  have hf := Step.first_number (Decimal.digits_ne_nil Scan.numberLimit)
    (fun _ h => Decimal.isDigit_of_mem_digits h) hr.not_digit
  rw [Step.number, Decimal.value_digits, if_neg (Nat.lt_irrefl _)] at hf
  exact .of_least hf

/-- A negative number is a minus sign and a number. -/
theorem Scans.negative {n : Int64} (hn : n.toInt < 0) (hr : Detached rest) (hs : Scans rest ts) :
    Scans ((Decimal.text n.toInt).toList ++ rest) (.symbol .minus :: .number (-n) :: ts) := by
  by_cases hmin : n = Int64.minValue
  · subst hmin
    exact .symbol .minus (fun _ _ => rfl) (.leastDigits hr)
  obtain ⟨k, hk⟩ := Int.eq_negSucc_of_lt_zero hn
  have hlt : k + 1 < Scan.numberLimit := by
    have := n.le_toInt
    have : n.toInt ≠ -2 ^ 63 := fun h => hmin (Int64.toInt_inj.1 h)
    rw [Scan.numberLimit]
    omega
  have hn : Int64.ofNat (k + 1) = -n := by
    have hneg : n = -Int64.ofNat (k + 1) := by
      rw [← Int64.toInt_inj, Int64.toInt_neg_ofNat_of_le (Nat.le_of_lt hlt), hk]
      rfl
    rw [hneg, Int64.neg_neg]
  rw [hk, ← hn]
  simp only [Decimal.text, String.toList_append, String.toList_ofList, List.append_assoc]
  exact .symbol .minus (fun _ _ => rfl) (.digits hlt hr hs)

/-- A text whose tokens do not begin with a star does not begin with one. -/
theorem Scans.not_star (hs : Scans rest ts) (ht : ts.head? ≠ some (.symbol .multiply)) :
    ∀ c ∈ rest.head?, Symbol.leftParen.joins c = false := by
  intro c hc
  obtain ⟨r, rfl⟩ := List.head?_eq_some_iff.1 hc
  rw [← Bool.not_eq_true]
  intro hstar
  obtain rfl : c = '*' := by simpa [Symbol.joins] using hstar
  have hf : Step.first ('*' :: r) = .lexeme (.symbol .multiply) ['*'] r :=
    Step.first_symbol .multiply fun _ _ => rfl
  cases hs with
  | of_gap h | of_least h => cases hf.symm.trans h
  | of_lexeme h =>
    cases hf.symm.trans h
    exact ht rfl

end

/-! ## The tokens of a scan -/

/-- The token is one that a text may hold before its end: a name is valid, and a number is not
negative. -/
def Token.IsLexical : Token → Prop
  | .ident x => Name.isValid x.toList = true
  | .number n => 0 ≤ n.toInt
  | .keyword _ | .symbol _ => True
  | .eof => False

/-- A word is scanned as a keyword or as a valid name. -/
theorem Token.isLexical_ofWord {c : Char} {cs : List Char} (hc : Name.isStart c = true) :
    (Token.ofWord (c :: cs.takeWhile Name.isPart)).IsLexical := by
  rw [Token.ofWord]
  cases hk : Keyword.ofWord? (c :: cs.takeWhile Name.isPart) with
  | some k => trivial
  | none =>
    have hw : Name.isWord (c :: cs.takeWhile Name.isPart) = true := by
      simp [Name.isWord, hc]
    rw [Token.IsLexical, String.toList_ofList]
    exact Name.isValid_iff.2 ⟨hw, hk⟩

/-- A scanned number is not negative. -/
theorem Step.isLexical_of_number {digits cs text rest : List Char} {t : Token}
    (h : number digits cs = .lexeme t text rest) : t.IsLexical := by
  rw [number] at h
  split at h
  · next hlt =>
    cases h
    rw [Token.IsLexical, Int64.toInt_ofNat_of_lt hlt]
    exact Int.natCast_nonneg _
  · cases h

/-- A scanned symbol is a token of a text. -/
theorem Step.isLexical_of_symbol {c : Char} {cs text rest : List Char} {t : Token}
    (h : symbol c cs = .lexeme t text rest) : t.IsLexical := by
  rw [symbol] at h
  split at h
  · cases h
    trivial
  · split at h
    · cases h
      trivial
    · cases h

/-- The token that comes first in a text is a token of a text. -/
theorem Step.isLexical_of_first {cs text rest : List Char} {t : Token}
    (h : first cs = .lexeme t text rest) : t.IsLexical := by
  obtain ⟨c, tail, rfl, -, -, -, htoken⟩ := first_eq_token h rfl
  rw [token] at htoken
  split at htoken
  · next hc =>
    cases htoken
    exact Token.isLexical_ofWord hc
  split at htoken
  · exact isLexical_of_number htoken
  · exact isLexical_of_symbol htoken

/-- A scan yields tokens that a text may hold, and one end of input after them. -/
theorem scanFrom_isLexical {line n : Nat} {cs : List Char} {ls : List Lexeme}
    (h : scanFrom line cs = .done ls n) :
    ∃ ts, ls.map Lexeme.token = ts ++ [.eof] ∧ ∀ t ∈ ts, t.IsLexical := by
  induction line, cs using Step.induct generalizing ls with
  | stop line =>
    cases (scanFrom_nil line).symm.trans h
    exact ⟨[], rfl, nofun⟩
  | gap line cs text rest hf ih =>
    rw [scanFrom_of_gap hf] at h
    exact ih h
  | lexeme line cs t text rest hf ih =>
    rw [scanFrom_of_lexeme hf] at h
    obtain ⟨ms, hm, rfl⟩ := Outcome.map_eq_done_iff.1 h
    obtain ⟨ts, hms, hts⟩ := ih hm
    exact ⟨t :: ts, congrArg (t :: ·) hms, List.forall_mem_cons.2 ⟨Step.isLexical_of_first hf, hts⟩⟩
  | unclosed line cs hf => cases (scanFrom_of_unclosed hf).symm.trans h
  | oversized line cs digits hf => cases (scanFrom_of_oversized hf).symm.trans h
  | unknown line cs c hf => cases (scanFrom_of_unknown hf).symm.trans h

section
variable {cs : List Char} {ts : List Token}

/-- A scan yields the tokens, or it stops where one of them is the least number. -/
theorem Scans.done_or_stop (hs : Scans cs ts) (line : Nat) :
    (∃ ls n, scanFrom line cs = .done ls n ∧ ls.map Lexeme.token = ts) ∨
      .number Int64.minValue ∈ ts ∧
        ∃ n, scanFrom line cs = .stop (.invalidNumber "9223372036854775808" n) n := by
  induction hs generalizing line with
  | nil => exact .inl ⟨[⟨.eof, line⟩], line, scanFrom_nil line, rfl⟩
  | of_gap h _ ih =>
    rw [scanFrom_of_gap h]
    exact ih _
  | @of_lexeme _ _ _ t _ h _ ih =>
    rw [scanFrom_of_lexeme h]
    rcases ih line with ⟨ls, n, hl, rfl⟩ | ⟨hmem, n, hl⟩
    · exact .inl ⟨⟨t, line⟩ :: ls, n, by rw [hl, Outcome.map_done], rfl⟩
    · exact .inr ⟨List.mem_cons_of_mem _ hmem, n, by rw [hl, Outcome.map_stop]⟩
  | of_least h => exact .inr ⟨List.mem_cons_self, line, scanFrom_of_oversized h⟩

/-- Without the least number among them, a scan yields the tokens. -/
theorem Scans.done (hs : Scans cs ts) (h : .number Int64.minValue ∉ ts) (line : Nat) :
    ∃ ls n, scanFrom line cs = .done ls n ∧ ls.map Lexeme.token = ts :=
  (hs.done_or_stop line).resolve_right fun hstop => h hstop.1

/-- With the least number among the tokens, a scan stops at its digits. -/
theorem Scans.stop (hs : Scans cs ts) (h : .number Int64.minValue ∈ ts) (line : Nat) :
    ∃ n, scanFrom line cs = .stop (.invalidNumber "9223372036854775808" n) n := by
  rcases hs.done_or_stop line with ⟨ls, n, hdone, rfl⟩ | ⟨-, hstop⟩
  · -- no scan yields the least number
    obtain ⟨us, hus, hl⟩ := scanFrom_isLexical hdone
    rw [hus, List.mem_append, List.mem_singleton] at h
    have hnonneg : 0 ≤ Int64.minValue.toInt := hl _ (h.resolve_right nofun)
    exact absurd hnonneg (by decide)
  · exact hstop

end

end MiniPascal
