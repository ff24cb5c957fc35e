import MiniPascal.Proofs.Parser.Exactness
import MiniPascal.Proofs.Parser.Failure

/-!
# Where errors are reported

A parser that fails does so at the first lexeme that cannot stand where it does: the tokens before
it can be completed to an input that is accepted, and the error is the same for all inputs that go
as far as this lexeme (`FailsAt`, `fails_after_viable_prefix`). The lexeme after it is looked at in
one case only: a dot selects a field if a name follows.

That the tokens can be completed is what `Failure` shows. That nothing further is looked at is
`Alike` for the cursors in two lists that agree as far as a lexeme (`Correspondence.suffixes`).
-/

namespace MiniPascal

/-! ## Lists that agree as far as a lexeme -/

/-- The lists have the same lexemes as far as index `k`, and after a dot there the next one too. -/
structure Lexeme.AgreeTo (k : Nat) (ls ms : List Lexeme) : Prop where
  take : ms.take (k + 1) = ls.take (k + 1)
  afterDot : ls[k]?.map Lexeme.token = some (.symbol .dot) → ms[k + 1]? = ls[k + 1]?

/-- Two lists that agree as far as an index agree up to there, and in what follows, which begins
with the same lexeme. -/
theorem Lexeme.AgreeTo.split {k : Nat} {ls ms : List Lexeme} (h : AgreeTo k ls ms)
    (hk : k < ls.length) :
    ls = ls.take k ++ ls[k] :: ls.drop (k + 1) ∧ ms = ls.take k ++ ls[k] :: ms.drop (k + 1) ∧
      (ls[k].token = .symbol .dot → (ls.drop (k + 1)).head? = (ms.drop (k + 1)).head?) := by
  have hsplit : ls.take (k + 1) = ls.take k ++ [ls[k]] := by
    rw [List.take_append_getElem hk]
  refine ⟨?_, ?_, fun hdot => ?_⟩
  · rw [← List.drop_eq_getElem_cons hk, List.take_append_drop]
  · rw [← List.singleton_append, ← List.append_assoc, ← hsplit, ← h.take, List.take_append_drop]
  · rw [List.head?_drop, List.head?_drop]
    refine (h.afterDot ?_).symm
    rw [List.getElem?_eq_getElem hk, Option.map_some, hdot]

namespace Cursor

/-- The token at a cursor is that of the lexeme the cursor is before. -/
theorem token_eq_of_head? {c d : Cursor} (h : c.rest.head? = d.rest.head?) :
    c.token = d.token := by
  obtain ⟨ls, _, rfl⟩ := c.exists_eq_before
  obtain ⟨ms, _, rfl⟩ := d.exists_eq_before
  cases ls <;> cases ms <;> cases h <;> rfl

/-- Cursors in two lists, one before each, as long as they have not passed the lexeme `l` with which
the parts begin that may differ. -/
def Correspondence.suffixes (l : Lexeme) (rs rs' : List Lexeme)
    (hdot : l.token = .symbol .dot → rs.head? = rs'.head?) : Correspondence where
  rel c d := ∃ ks, c.rest = ks ++ l :: rs ∧ d.rest = ks ++ l :: rs'
  lines := id
  horizon := rs.length + 1
  token := by
    rintro c d ⟨ks, hc, hd⟩
    refine token_eq_of_head? ?_
    rw [hc, hd]
    cases ks <;> rfl
  line := by
    rintro c d ⟨ks, hc, hd⟩
    rw [id, Cursor.line, Cursor.line, hc, hd]
    cases ks <;> rfl
  next := by
    rintro c d ⟨ks, hc, hd⟩ htoken
    refine token_eq_of_head? ?_
    rw [rest_advance, rest_advance, hc, hd]
    match ks with
    | [] =>
      rw [Cursor.token, hc] at htoken
      exact hdot htoken
    | [_] => rfl
    | _ :: _ :: _ => rfl
  advance := by
    rintro c d ⟨ks, hc, hd⟩ hle
    rw [remaining_eq, rest_advance, hc] at hle
    rw [rest_advance, rest_advance, hc, hd]
    cases ks with
    | nil => exact absurd hle (Nat.not_succ_le_self _)
    | cons k ks => exact ⟨ks, rfl, rfl⟩
  lt_iff := by
    rintro c d c' d' ⟨ks, hc, hd⟩ ⟨ks', hc', hd'⟩
    rw [remaining_eq, remaining_eq, remaining_eq, remaining_eq, hc, hd, hc', hd']
    simp only [List.length_append, List.length_cons]
    omega

end Cursor

namespace Parser

section
variable {α : Type} {p : Parser α} {ls : List Lexeme} {ts : List Token} {e : Error} {k : Nat}

/-- The parser fails at the lexeme of index `k`: its error tells the token and the line of this
lexeme, what is before the lexeme can be completed to an input that the parser accepts, and every
input that agrees as far as the lexeme has the same error. -/
structure FailsAt (p : Parser α) (ls : List Lexeme) (e : Error) (k : Nat) : Prop where
  place : ∃ d, p (.ofLexemes ls) = .stop e d ∧ d.rest = ls.drop k
  tells : ∃ l, ls[k]? = some l ∧ ((∃ expected, e = .mismatch expected l.token.text l.line) ∨
    e = .unexpectedToken l.token.text l.line)
  viable : ∃ us, .eof ∉ us ∧ ∀ ms : List Lexeme,
    ms.map Lexeme.token = (ls.take k).map Lexeme.token ++ us ++ [.eof] →
      ∃ a, (p (.ofLexemes ms)).toExcept = .ok a
  same : ∀ ms, Lexeme.AgreeTo k ls ms → (p (.ofLexemes ms)).toExcept = .error e

/-- A parser that does the same at corresponding cursors has the same error on inputs that agree
as far as the lexeme where it fails. -/
theorem error_same (hp : ∀ C n, Alike C n p p) {d : Cursor} (hd : p (.ofLexemes ls) = .stop e d)
    (hrest : d.rest = ls.drop k) (hk : k < ls.length) {ms : List Lexeme}
    (h : Lexeme.AgreeTo k ls ms) : (p (.ofLexemes ms)).toExcept = .error e := by
  obtain ⟨hls, hms, hdot⟩ := h.split hk
  let C := Cursor.Correspondence.suffixes ls[k] _ _ hdot
  have hstart : C.rel (.ofLexemes ls) (.ofLexemes ms) := ⟨ls.take k, hls, hms⟩
  obtain ⟨-, hmatch⟩ := hp C _ (.ofLexemes ls) (Nat.lt_succ_self _)
  have hhorizon : C.horizon ≤ (p (.ofLexemes ls)).place.remaining := by
    rw [hd, Outcome.place_stop, Cursor.remaining_eq, hrest, List.drop_eq_getElem_cons hk]
    exact Nat.le_refl _
  have hms := hmatch _ hstart hhorizon
  rw [hd] at hms
  obtain ⟨e', d', -, he, hd'⟩ := hms.of_stop
  obtain rfl : e = e' := he.trans e'.mapLine_id
  exact Outcome.toExcept_eq_error_iff.2 ⟨d', hd'⟩

/-- On tokens without a negative number no parser comes to the negation of the least number. -/
theorem Stops.isFault_eq_false {V : List Token → Prop} (h : Stops p V)
    (hls : ls.map Lexeme.token = ts ++ [.eof]) (hpos : ∀ n, .number n ∈ ts → 0 ≤ n)
    (he : (p (.ofLexemes ls)).toExcept = .error e) : e.isFault = false := by
  obtain ⟨d, hd⟩ := Outcome.toExcept_eq_error_iff.1 he
  obtain ⟨us, hpass, -, hreports⟩ := h _ hd
  cases hreports with
  | mismatch | unexpected => rfl
  | overflow hmin =>
    have hmem := hpass.token_mem (by rw [hmin]; nofun)
    rw [hmin, Cursor.rest_ofLexemes, hls, List.mem_append, List.mem_singleton] at hmem
    rcases hmem with hmem | hmem
    · exact absurd (hpos _ hmem) (by decide)
    · cases hmem

/-- A parser that accepts what is of the form `R` and fails only where what it passed can be
completed to that form, fails at a lexeme. -/
theorem Stops.failsAt {R : α → List Token → Prop} (h : Stops p (Viable R))
    (hp : ∀ C n, Alike C n p p)
    (haccept : ∀ ⦃ms : List Lexeme⦄ ⦃us a⦄, ms.map Lexeme.token = us ++ [.eof] → .eof ∉ us →
      R a us → (p (.ofLexemes ms)).toExcept = .ok a)
    (hls : ls.map Lexeme.token = ts ++ [.eof]) (hpos : ∀ n, .number n ∈ ts → 0 ≤ n)
    (he : (p (.ofLexemes ls)).toExcept = .error e) : ∃ k, FailsAt p ls e k := by
  obtain ⟨d, hd⟩ := Outcome.toExcept_eq_error_iff.1 he
  obtain ⟨us, hpass, ⟨a, vs, hvs, ha⟩, hreports⟩ := h _ hd
  obtain ⟨hrest, htake⟩ := hpass.rest
  have heof := hpass.eof_notMem
  -- the end of input is not passed, so there is a lexeme at the cursor
  have hk : us.length < ls.length := by
    refine Nat.lt_of_not_le fun hle => heof ?_
    rw [← htake, Cursor.rest_ofLexemes, List.take_of_length_le hle, hls]
    exact List.mem_append_right _ List.mem_cons_self
  have hl : d.rest = ls[us.length] :: ls.drop (us.length + 1) :=
    hrest.trans (List.drop_eq_getElem_cons hk)
  have htoken : d.token = ls[us.length].token := by rw [Cursor.token, hl]
  have hline : d.line = ls[us.length].line := by rw [Cursor.line, hl]
  refine ⟨us.length, ⟨d, hd, hrest⟩, ⟨_, List.getElem?_eq_getElem hk, ?_⟩, ⟨vs, hvs, ?_⟩,
    fun ms => error_same hp hd hrest hk⟩
  · cases hreports with
    | mismatch expected => exact .inl ⟨expected, by rw [htoken, hline]⟩
    | unexpected => exact .inr (by rw [htoken, hline])
    | overflow hmin => cases h.isFault_eq_false hls hpos he
  · intro ms hms
    refine ⟨a, haccept hms ?_ ?_⟩
    · rw [← Cursor.rest_ofLexemes ls, htake, List.mem_append, not_or]
      exact ⟨heof, hvs⟩
    · rwa [← Cursor.rest_ofLexemes ls, htake]

/-- Where the parser of programs fails on tokens without a negative number and an end of input after
them, it does so at a lexeme before which everything can be completed; and nothing after the lexeme
has a part in the error, except that after a dot the next lexeme has. The same holds of the parser
of whole expressions. -/
theorem fails_after_viable_prefix (hls : ls.map Lexeme.token = ts ++ [.eof])
    (hpos : ∀ n, .number n ∈ ts → 0 ≤ n) :
    (∀ e, (program (.ofLexemes ls)).toExcept = .error e → ∃ k, FailsAt program ls e k) ∧
    (∀ e, (wholeExpression (.ofLexemes ls)).toExcept = .error e →
      ∃ k, FailsAt wholeExpression ls e k) := by
  constructor
  · intro e he
    exact program_stops.failsAt (fun _ _ => .program)
      (fun _ _ _ hms hus h => (program_eq_ok_iff hms hus).2 h) hls hpos he
  · intro e he
    exact wholeExpression_stops.failsAt (fun _ _ => .wholeExpression)
      (fun _ _ _ hms hus h => (wholeExpression_eq_ok_iff hms hus).2 h) hls hpos he

/-- After `x := 1 +` a semicolon is no factor. -/
theorem fails_after_viable_prefix_operand :
    let ts : List Token :=
      [.ident "x", .symbol .assign, .number 1, .symbol .plus, .symbol .semicolon]
    let ls : List Lexeme := (ts ++ [Token.eof]).map fun t => ⟨t, 1⟩
    let e : Error := .mismatch "factor" "Semicolon" 1
    ls.map Lexeme.token = ts ++ [.eof] ∧ (∀ n, .number n ∈ ts → 0 ≤ n) ∧
      (program (.ofLexemes ls)).toExcept = .error e ∧ ∃ k, FailsAt program ls e k := by
  intro ts ls e
  have hls : ls.map Lexeme.token = ts ++ [.eof] := rfl
  have hpos : ∀ n, .number n ∈ ts → 0 ≤ n := by
    intro n hn
    simp only [ts, List.mem_cons, reduceCtorEq, Token.number.injEq, List.not_mem_nil, or_false,
      false_or] at hn
    rw [hn]
    decide
  have he : (program (.ofLexemes ls)).toExcept = .error e := by decide +kernel
  obtain ⟨hprogram, -⟩ := fails_after_viable_prefix hls hpos
  exact ⟨hls, hpos, he, hprogram e he⟩

end

end Parser

end MiniPascal
