import Mathlib.Data.List.Forall2
import MiniPascal.Proofs.Parser.Failure
import MiniPascal.Source

/-!
# Nothing behind the end of input is read

A parser stops at the first end of input among its lexemes, or after the last lexeme if there is
none. So it does the same at a cursor and at the cursor cut there (`Cursor.cut`), where one end of
input follows the lexemes ahead; and if lines are changed by a function, only the lines of its
errors change (`Request.matches_cut`). This is `Alike` for a cursor and its cut
(`Correspondence.cut`); that no parser passes the end of input keeps it above the horizon.

Hence the answers to requests are told by the tokens before the first end of input, but for lines
(`answers_of_same_tokens`).
-/

namespace MiniPascal

/-- The lexeme with its line changed by `f`. -/
def Lexeme.mapLine (f : Nat → Nat) (l : Lexeme) : Lexeme :=
  ⟨l.token, f l.line⟩

namespace Cursor

/-! ## Cut cursors -/

/-- The lexemes before the first end of input. -/
def ahead (c : Cursor) : List Lexeme :=
  c.rest.takeWhile fun l => l.token ≠ .eof

/-- The lexemes from the first end of input on. -/
def behind (c : Cursor) : List Lexeme :=
  c.rest.dropWhile fun l => l.token ≠ .eof

/-- The line of the first end of input. -/
def endLine (c : Cursor) : Nat :=
  (c.behind.head?.map Lexeme.line).getD c.lastLine

/-- The cursor before the lexemes ahead and one end of input, with the lines changed by `f`. -/
def cut (f : Nat → Nat) (c : Cursor) : Cursor :=
  before (c.ahead.map (Lexeme.mapLine f) ++ [⟨.eof, f c.endLine⟩]) (f c.endLine)

section
variable {c d : Cursor} {f : Nat → Nat}

/-- Every lexeme is ahead of the first end of input or behind it. -/
theorem ahead_append_behind (c : Cursor) : c.ahead ++ c.behind = c.rest :=
  List.takeWhile_append_dropWhile

/-- Nothing is ahead of a cursor on the end of input. -/
theorem ahead_of_eof (h : c.token = .eof) : c.ahead = [] := by
  obtain ⟨ls, n, rfl⟩ := c.exists_eq_before
  cases ls with
  | nil => rfl
  | cons l ls => simp_all [ahead]

/-- What is ahead of a cursor that does not stand on the end of input is the lexeme there and what
is ahead of the next cursor. -/
theorem ahead_of_ne (h : c.token ≠ .eof) :
    c.ahead = ⟨c.token, c.line⟩ :: c.advance.ahead ∧ c.advance.behind = c.behind ∧
      c.advance.endLine = c.endLine := by
  obtain ⟨l, ls, n, rfl⟩ := exists_cons_of_token_ne h
  rw [token_before_cons] at h
  simp [ahead, behind, endLine, h]

/-- A cursor on the end of input is cut to this end of input alone. -/
theorem cut_of_eof (h : c.token = .eof) : c.cut f = before [⟨.eof, f c.line⟩] (f c.line) := by
  have hline : c.endLine = c.line := by
    obtain ⟨ls, n, rfl⟩ := c.exists_eq_before
    cases ls with
    | nil => rfl
    | cons l ls => simp_all [endLine, behind]
  rw [cut, ahead_of_eof h, hline]
  rfl

/-- The token at a cursor is the one at the cut cursor. -/
theorem token_cut (c : Cursor) (f : Nat → Nat) : (c.cut f).token = c.token := by
  by_cases h : c.token = .eof
  · rw [cut_of_eof h, h]
    rfl
  · rw [cut, (ahead_of_ne h).1]
    rfl

/-- The line of a cut cursor is changed like those of its lexemes. -/
theorem line_cut (c : Cursor) (f : Nat → Nat) : (c.cut f).line = f c.line := by
  by_cases h : c.token = .eof
  · rw [cut_of_eof h]
    rfl
  · rw [cut, (ahead_of_ne h).1]
    rfl

/-- Before the end of input, cutting and going on by a lexeme may be exchanged. -/
theorem advance_cut (h : c.token ≠ .eof) : (c.cut f).advance = c.advance.cut f := by
  obtain ⟨hahead, -, hline⟩ := ahead_of_ne h
  rw [cut, cut, hahead, hline]
  rfl

/-- One end of input is left of what is behind. -/
theorem remaining_cut (c : Cursor) (f : Nat → Nat) : (c.cut f).remaining = c.ahead.length + 1 := by
  simp [cut]

/-- The lexemes that are left are ahead or behind. -/
theorem remaining_eq_ahead_add_behind (c : Cursor) :
    c.remaining = c.ahead.length + c.behind.length := by
  rw [remaining_eq, ← c.ahead_append_behind, List.length_append]

/-- A cursor and its cut, where what is behind the end of input does not change. -/
def Correspondence.cut (f : Nat → Nat) (ls : List Lexeme) : Correspondence where
  rel c d := c = d.cut f ∧ d.behind = ls
  lines := f
  horizon := 1
  token := by
    rintro _ d ⟨rfl, -⟩
    exact d.token_cut f
  line := by
    rintro _ d ⟨rfl, -⟩
    exact d.line_cut f
  next := by
    rintro _ d ⟨rfl, -⟩ hdot
    have hne : d.token ≠ .eof := by
      rw [← d.token_cut f, hdot]
      nofun
    rw [advance_cut hne, token_cut]
  advance := by
    rintro _ d ⟨rfl, hls⟩ hle
    have hne : d.token ≠ .eof := by
      intro h
      rw [cut_of_eof h] at hle
      exact absurd hle (Nat.not_succ_le_zero 0)
    exact ⟨advance_cut hne, (ahead_of_ne hne).2.1.trans hls⟩
  lt_iff := by
    rintro _ d _ d' ⟨rfl, hls⟩ ⟨rfl, hls'⟩
    rw [remaining_cut, remaining_cut, remaining_eq_ahead_add_behind, remaining_eq_ahead_add_behind,
      hls, hls']
    omega

/-- The end of input that a cut cursor has as its last lexeme is not passed. -/
theorem Passes.one_le_remaining {ts : List Token} (h : (c.cut f).Passes ts d) :
    1 ≤ d.remaining := by
  obtain ⟨-, htake⟩ := h.rest
  have hadd := h.remaining_add
  rw [← Nat.not_lt, Nat.lt_one_iff]
  intro hzero
  rw [List.take_of_length_le (by rw [← remaining_eq]; omega)] at htake
  refine h.eof_notMem ?_
  rw [← htake, cut, rest_before, List.map_append]
  exact List.mem_append_right _ List.mem_cons_self

end

end Cursor

/-! ## Requests -/

namespace Request

section
variable {r : Request} {c d : Cursor}

/-- A request is served alike at cursors that correspond. -/
theorem alike {C : Cursor.Correspondence} {n : Nat} (r : Request) :
    Parser.Alike C n r.parser r.parser := by
  cases r with
  | program => exact .map _ .program
  | expression => exact .map _ .wholeExpression

/-- A request that is answered with a tree is served as far as the end of input. -/
theorem passes_of_done {t : Tree} (h : r.parser c = .done t d) :
    ∃ ts, c.Passes ts d ∧ d.token = .eof := by
  cases r with
  | program =>
    obtain ⟨p, hp, rfl⟩ := Parser.map_eq_done_iff.1 h
    obtain ⟨ts, hpass, heof, -⟩ := Parser.program_sound hp
    exact ⟨ts, hpass, heof⟩
  | expression =>
    obtain ⟨e, he, rfl⟩ := Parser.map_eq_done_iff.1 h
    obtain ⟨ts, hpass, heof, -⟩ := Parser.wholeExpression_sound he
    exact ⟨ts, hpass, heof⟩

/-- A request that is answered with an error is served as far as the token that the error
reports. -/
theorem passes_of_stop {e : Error} (h : r.parser c = .stop e d) :
    ∃ ts, c.Passes ts d ∧ d.Reports e := by
  cases r with
  | program =>
    obtain ⟨ts, hpass, -, hreports⟩ := Parser.program_stops.map _ c h
    exact ⟨ts, hpass, hreports⟩
  | expression =>
    obtain ⟨ts, hpass, -, hreports⟩ := Parser.wholeExpression_stops.map _ c h
    exact ⟨ts, hpass, hreports⟩

/-- A request is served over tokens that are not the end of input, whether its answer is a tree or
an error. -/
theorem passes (r : Request) (c : Cursor) : ∃ ts, c.Passes ts (r.parser c).place := by
  cases h : r.parser c with
  | done t d =>
    obtain ⟨ts, hpass, -⟩ := passes_of_done h
    exact ⟨ts, hpass⟩
  | stop e d =>
    obtain ⟨ts, hpass, -⟩ := passes_of_stop h
    exact ⟨ts, hpass⟩

/-- A request is answered at the cut cursor as it is at the cursor, on changed lines. -/
theorem matches_cut (r : Request) (c : Cursor) (f : Nat → Nat) :
    (r.parser (c.cut f)).Matches f (fun k d => k = d.cut f ∧ d.behind = c.behind) (r.parser c) := by
  obtain ⟨ts, hpass⟩ := r.passes (c.cut f)
  obtain ⟨-, hmatch⟩ := r.alike (C := .cut f c.behind) _ (Nat.lt_succ_self _)
  exact hmatch c ⟨rfl, rfl⟩ hpass.one_le_remaining

end

end Request

namespace Cursor

/-- Requests are answered one after the other at the cut cursor as they are at the cursor. -/
theorem answers_cut (c : Cursor) (f : Nat → Nat) (rs : List Request) :
    List.Forall₂ (Outcome.Matches f fun k d => k = d.cut f) ((c.cut f).answers rs)
      (c.answers rs) := by
  induction rs generalizing c with
  | nil => exact .nil
  | cons r rs ih =>
    have hmatch := r.matches_cut c f
    rw [answers, answers]
    generalize r.parser (c.cut f) = o at hmatch
    generalize r.parser c = o' at hmatch
    cases hmatch with
    | done t hplace =>
      obtain ⟨rfl, -⟩ := hplace
      exact .cons (.done t rfl) (ih _)
    | stop e hplace =>
      obtain ⟨rfl, -⟩ := hplace
      refine .cons (.stop e rfl) ?_
      rw [Error.isFault_mapLine]
      cases e.isFault with
      | true => exact .nil
      | false => exact ih _

end Cursor

/-! ## Answers without lines -/

section
variable {ls ms : List Lexeme}

/-- The value or the error of an outcome, whatever line the error points at. -/
def Outcome.unlined {σ α : Type} (o : Outcome σ α) : Except Error α :=
  o.toExcept.mapError (Error.mapLine fun _ => 0)

/-- Outcomes that match when all lines are set to zero are equal but for lines. -/
theorem Outcome.Matches.unlined_eq {σ α : Type} {rel : σ → σ → Prop} {o o' : Outcome σ α}
    (h : o.Matches (fun _ => 0) rel o') : o.unlined = o'.unlined := by
  cases h with
  | done a _ => rfl
  | stop e _ => exact congrArg Except.error (by cases e <;> rfl)

/-- Lists of outcomes that match in this way are equal but for lines. -/
theorem Outcome.Matches.map_unlined_eq {σ α : Type} {rel : σ → σ → Prop}
    {os os' : List (Outcome σ α)} (h : List.Forall₂ (Matches (fun _ => 0) rel) os os') :
    os.map unlined = os'.map unlined := by
  induction h with
  | nil => rfl
  | cons h _ ih => rw [List.map_cons, List.map_cons, h.unlined_eq, ih]

/-- Requests are answered at the cut cursor as they are at the cursor, but for lines. -/
theorem Cursor.unlined_answers_cut (c : Cursor) (rs : List Request) :
    ((c.cut fun _ => 0).answers rs).map Outcome.unlined = (c.answers rs).map Outcome.unlined :=
  Outcome.Matches.map_unlined_eq (c.answers_cut _ rs)

/-- Without lines, the tokens before the first end of input are all there is of a cut cursor. -/
theorem Cursor.cut_ofLexemes_eq
    (h : (ls.map Lexeme.token).takeWhile (· ≠ .eof) = (ms.map Lexeme.token).takeWhile (· ≠ .eof)) :
    (ofLexemes ls).cut (fun _ => 0) = (ofLexemes ms).cut fun _ => 0 := by
  have hahead (ks : List Lexeme) : (ofLexemes ks).ahead.map (Lexeme.mapLine fun _ => 0) =
      ((ks.map Lexeme.token).takeWhile (· ≠ .eof)).map fun t => ⟨t, 0⟩ := by
    rw [List.takeWhile_map, List.map_map]
    rfl
  rw [cut, cut, hahead, hahead, h]

/-- Two lists whose tokens before the first end of input are the same have the same answers to any
requests, whatever their lines and whatever is behind the end of input: the same trees, and errors
that tell the same of the same token. -/
theorem answers_of_same_tokens
    (h : (ls.map Lexeme.token).takeWhile (· ≠ .eof) = (ms.map Lexeme.token).takeWhile (· ≠ .eof))
    (rs : List Request) :
    ((Cursor.ofLexemes ls).answers rs).map Outcome.unlined =
      ((Cursor.ofLexemes ms).answers rs).map Outcome.unlined := by
  rw [← Cursor.unlined_answers_cut, Cursor.cut_ofLexemes_eq h, Cursor.unlined_answers_cut]

/-- A dot before the end of input: the name behind it is no field, and no line matters. -/
theorem answers_of_same_tokens_dot :
    let before : List Lexeme := [⟨.ident "x", 1⟩, ⟨.symbol .dot, 1⟩]
    let ls := before ++ [⟨.eof, 1⟩, ⟨.ident "y", 2⟩, ⟨.symbol .assign, 2⟩]
    let ms := before.map (Lexeme.mapLine (· + 3))
    let rs : List Request := [.expression, .expression, .program]
    (ls.map Lexeme.token).takeWhile (· ≠ .eof) = (ms.map Lexeme.token).takeWhile (· ≠ .eof) ∧
      ((Cursor.ofLexemes ls).answers rs).map Outcome.unlined =
        ((Cursor.ofLexemes ms).answers rs).map Outcome.unlined := by
  intro before ls ms rs
  have h : (ls.map Lexeme.token).takeWhile (· ≠ .eof) =
      (ms.map Lexeme.token).takeWhile (· ≠ .eof) := by
    decide
  exact ⟨h, answers_of_same_tokens h rs⟩

end

end MiniPascal
