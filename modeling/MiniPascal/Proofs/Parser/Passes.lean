import MiniPascal.Parser.Basic

/-!
# The tokens between two cursors

`c.Passes ts d` says that the tokens `ts`, none of them the end of input, lead from the cursor `c`
to the cursor `d`. Everything a parser reads is such a list, so what a parser does is stated as: it
succeeds from `c` at `d`, and the tokens that lead there are of a certain form. The lemmas on
`eq_done_iff` say this of the parsers of single tokens.
-/

namespace MiniPascal

namespace Cursor

/-- The tokens `ts` lead from the one cursor to the other. -/
def Passes : Cursor → List Token → Cursor → Prop
  | c, [], d => d = c
  | c, t :: ts, d => c.token = t ∧ t ≠ .eof ∧ c.advance.Passes ts d

section
variable {c d m : Cursor} {t : Token} {ts us : List Token}

/-- One more token in front. -/
theorem Passes.cons (ht : c.token = t) (hne : t ≠ .eof) (h : c.advance.Passes ts d) :
    c.Passes (t :: ts) d :=
  ⟨ht, hne, h⟩

/-- Going on by a lexeme passes its token. -/
theorem Passes.one (ht : c.token = t) (hne : t ≠ .eof) : c.Passes [t] c.advance :=
  ⟨ht, hne, rfl⟩

/-- Tokens are passed in two parts by way of a cursor between them. -/
theorem passes_append_iff : c.Passes (ts ++ us) d ↔ ∃ m, c.Passes ts m ∧ m.Passes us d := by
  induction ts generalizing c with
  | nil => exact ⟨fun h => ⟨c, rfl, h⟩, fun ⟨_, hm, h⟩ => hm ▸ h⟩
  | cons t ts ih =>
    simp only [List.cons_append, Passes, ih]
    constructor
    · rintro ⟨ht, hne, m, h, h'⟩
      exact ⟨m, ⟨ht, hne, h⟩, h'⟩
    · rintro ⟨m, ⟨ht, hne, h⟩, h'⟩
      exact ⟨ht, hne, m, h, h'⟩

/-- What is passed one after the other is passed together. -/
theorem Passes.trans (h : c.Passes ts m) (h' : m.Passes us d) : c.Passes (ts ++ us) d :=
  passes_append_iff.2 ⟨m, h, h'⟩

/-- Each token passed is one lexeme less. -/
theorem Passes.remaining_add (h : c.Passes ts d) : d.remaining + ts.length = c.remaining := by
  induction ts generalizing c with
  | nil => rw [show d = c from h]; rfl
  | cons t ts ih =>
    obtain ⟨rfl, hne, h⟩ := h
    have hlt := remaining_advance_lt hne
    have := ih h
    simp only [advance, List.length_cons] at *
    omega

/-- Passing tokens leaves no more lexemes than before. -/
theorem Passes.remaining_le (h : c.Passes ts d) : d.remaining ≤ c.remaining := by
  have := h.remaining_add
  omega

/-- Passing a token leaves fewer lexemes than before, which ends every repetition. -/
theorem Passes.remaining_lt (h : c.Passes ts d) (hne : ts ≠ []) : d.remaining < c.remaining := by
  have := h.remaining_add
  have := List.length_pos_iff.2 hne
  omega

/-- What is passed are the tokens of the first lexemes, and the others are left. -/
theorem Passes.rest (h : c.Passes ts d) :
    d.rest = c.rest.drop ts.length ∧ (c.rest.take ts.length).map Lexeme.token = ts := by
  induction ts generalizing c with
  | nil =>
    cases h
    exact ⟨rfl, rfl⟩
  | cons t ts ih =>
    obtain ⟨rfl, hne, h⟩ := h
    obtain ⟨l, ls, n, rfl⟩ := exists_cons_of_token_ne hne
    obtain ⟨hrest, htake⟩ := ih h
    exact ⟨hrest, congrArg (l.token :: ·) htake⟩

/-- The end of input is never passed. -/
theorem Passes.eof_notMem (h : c.Passes ts d) : .eof ∉ ts := by
  induction ts generalizing c with
  | nil => exact List.not_mem_nil
  | cons t ts ih =>
    obtain ⟨-, hne, h⟩ := h
    rw [List.mem_cons, not_or]
    exact ⟨hne.symm, ih h⟩

/-- The token at a cursor that was reached is one of the lexemes. -/
theorem Passes.token_mem (h : c.Passes ts d) (hne : d.token ≠ .eof) :
    d.token ∈ c.rest.map Lexeme.token := by
  obtain ⟨hrest, -⟩ := h.rest
  obtain ⟨l, ls, n, rfl⟩ := exists_cons_of_token_ne hne
  have hmem : l ∈ c.rest.drop ts.length := hrest ▸ List.mem_cons_self
  exact List.mem_map_of_mem (List.mem_of_mem_drop hmem)

/-- Lexemes without an end of input among them are passed as far as the lexemes that follow. -/
theorem passes_before {ls : List Lexeme} (ms : List Lexeme) (n : Nat)
    (h : ∀ l ∈ ls, l.token ≠ .eof) :
    (before (ls ++ ms) n).Passes (ls.map Lexeme.token) (before ms n) := by
  induction ls with
  | nil => rfl
  | cons l ls ih =>
    exact ⟨rfl, h l List.mem_cons_self, ih fun l hl => h l (List.mem_cons_of_mem _ hl)⟩

end

end Cursor

namespace Parser

/-! ## Single tokens -/

section
variable {α : Type} {c d : Cursor}

/-- Looking at the token does not move the cursor. -/
theorem token_eq_done_iff {t : Token} : token c = .done t d ↔ c.token = t ∧ c = d := by
  simp [token]

/-- Looking at the token ahead does not move the cursor. -/
theorem nextToken_eq_done_iff {t : Token} :
    nextToken c = .done t d ↔ c.advance.token = t ∧ c = d := by
  simp [nextToken]

/-- Going on by a lexeme always succeeds. -/
theorem advance_eq_done_iff {u : Unit} : advance c = .done u d ↔ d = c.advance := by
  simp [advance, eq_comm]

/-- A mismatch is no success. -/
theorem mismatch_ne_done {expected : String} {a : α} : mismatch expected c ≠ .done a d :=
  nofun

/-- An unexpected token is no success. -/
theorem unexpected_ne_done {a : α} : unexpected c ≠ .done a d :=
  nofun

/-- A value is given where the cursor stands. -/
theorem pure_eq_done_iff {a b : α} : (pure a : Parser α) c = .done b d ↔ b = a ∧ d = c := by
  simp [Run.pure_apply, eq_comm]

/-- A result that is no error is given where the cursor stands. -/
theorem ofExcept_eq_done_iff {x : Except Error α} {a : α} :
    (Run.ofExcept x : Parser α) c = .done a d ↔ x = .ok a ∧ d = c := by
  cases x with
  | ok b => simp [Run.ofExcept, Run.pure_apply, eq_comm]
  | error e => simp [Run.ofExcept, Run.fail]

/-- A changed value is that of the parser, at the same cursor. -/
theorem map_eq_done_iff {β : Type} {f : α → β} {p : Parser α} {b : β} :
    (f <$> p) c = .done b d ↔ ∃ a, p c = .done a d ∧ f a = b := by
  rw [Run.map_apply, Outcome.map_eq_done_iff]

/-- One token gives the value. -/
theorem advance_pure_eq_done_iff {a b : α} :
    (do advance; return a : Parser α) c = .done b d ↔ b = a ∧ d = c.advance := by
  simp only [Run.bind_eq_done_iff, advance_eq_done_iff, pure_eq_done_iff]
  constructor
  · rintro ⟨_, _, rfl, rfl, rfl⟩
    exact ⟨rfl, rfl⟩
  · rintro ⟨rfl, rfl⟩
    exact ⟨(), _, rfl, rfl, rfl⟩

/-- An expected token is passed. -/
theorem expect_eq_done_iff {t : Token} {u : Unit} :
    expect t c = .done u d ↔ c.token = t ∧ d = c.advance := by
  simp only [expect, Run.bind_eq_done_iff, token_eq_done_iff]
  constructor
  · rintro ⟨_, _, ⟨rfl, rfl⟩, h⟩
    split at h
    · next ht => exact ⟨ht, advance_eq_done_iff.1 h⟩
    · exact absurd h mismatch_ne_done
  · rintro ⟨rfl, rfl⟩
    exact ⟨_, _, ⟨rfl, rfl⟩, by rw [if_pos rfl]; rfl⟩

/-- An accepted token is passed if it stands at the cursor, and else nothing is. -/
theorem accept_eq_done_iff {t : Token} {b : Bool} :
    accept t c = .done b d ↔
      c.token = t ∧ b = true ∧ d = c.advance ∨ c.token ≠ t ∧ b = false ∧ d = c := by
  simp only [accept, Run.bind_apply, token]
  by_cases ht : c.token = t
  · simp [ht, Run.bind_apply, advance, Run.pure_apply, eq_comm]
  · simp [ht, Run.pure_apply, eq_comm]

/-- The token at the cursor is accepted. -/
theorem accept_of_eq {t : Token} (h : c.token = t) : accept t c = .done true c.advance :=
  accept_eq_done_iff.2 (.inl ⟨h, rfl, rfl⟩)

/-- No other token is accepted. -/
theorem accept_of_ne {t : Token} (h : c.token ≠ t) : accept t c = .done false c :=
  accept_eq_done_iff.2 (.inr ⟨h, rfl, rfl⟩)

/-- The token at the cursor is passed if it is of the kind that is taken, and else nothing is. -/
theorem take?_eq_done_iff {f : Token → Option α} {o : Option α} :
    take? f c = .done o d ↔
      (∃ a, f c.token = some a ∧ o = some a ∧ d = c.advance) ∨
        f c.token = none ∧ o = none ∧ d = c := by
  simp only [take?, Run.bind_apply, token]
  cases f c.token with
  | some a => simp [Run.bind_apply, advance, Run.pure_apply, eq_comm]
  | none => simp [Run.pure_apply, eq_comm]

/-- A token of the kind is taken. -/
theorem take?_of_some {f : Token → Option α} {a : α} (h : f c.token = some a) :
    take? f c = .done (some a) c.advance :=
  take?_eq_done_iff.2 (.inl ⟨a, h, rfl, rfl⟩)

/-- No token of another kind is taken. -/
theorem take?_of_none {f : Token → Option α} (h : f c.token = none) : take? f c = .done none c :=
  take?_eq_done_iff.2 (.inr ⟨h, rfl, rfl⟩)

/-- A name is passed where one is expected. -/
theorem ident_eq_done_iff {name : String} :
    ident c = .done name d ↔ c.token = .ident name ∧ d = c.advance := by
  simp only [ident, Run.bind_apply, token]
  cases c.token with
  | ident x => simp [Run.bind_apply, advance, Run.pure_apply, eq_comm]
  | number | keyword | symbol | eof => simp [mismatch]

end

end Parser

end MiniPascal
