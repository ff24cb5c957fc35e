import MiniPascal.Proofs.Parser.Completeness
import MiniPascal.Proofs.Parser.EndOfInput

/-!
# One parser asked again and again

`Cursor.after` is the cursor that a list of requests leaves, each served from where the one before
it ended. A request is answered there as it would be by a parser of its own for the lexemes that are
left (`Request.parser_withEnd`); an error is about the token at which the parser then stands
(`Request.told_of_stop`); and a tree is given only at the end of input, which nothing passes, so
from then on the answers are always the same (`Cursor.answers_of_eof`). `answers_resume` puts these
together for every list of requests.
-/

namespace MiniPascal

namespace Cursor

/-- The cursor that requests leave, made one after the other. -/
def after (c : Cursor) : List Request → Cursor
  | [] => c
  | r :: rs => (r.parser c).place.after rs

/-- A cursor of its own for the lexemes that are left, with an end of input after them. -/
def withEnd (c : Cursor) : Cursor :=
  ofLexemes (c.rest ++ [⟨.eof, c.lastLine⟩])

section
variable {c d : Cursor} {ls : List Lexeme}

/-! ## What is left -/

/-- The line of the last lexeme stays the same. -/
theorem Passes.lastLine {ts : List Token} (h : c.Passes ts d) : d.lastLine = c.lastLine := by
  induction ts generalizing c with
  | nil => rw [show d = c from h]
  | cons t ts ih =>
    obtain ⟨-, -, h⟩ := h
    exact (ih h).trans c.lastLine_advance

/-- What is left was left before. -/
theorem Passes.rest_suffix {ts : List Token} (h : c.Passes ts d) : d.rest <:+ c.rest :=
  h.rest.1 ▸ List.drop_suffix _ _

/-- A request leaves a part of what was left before it. -/
theorem rest_place_suffix (r : Request) (c : Cursor) : (r.parser c).place.rest <:+ c.rest := by
  obtain ⟨ts, hpass⟩ := r.passes c
  exact hpass.rest_suffix

/-- A request does not change the line of the last lexeme. -/
theorem lastLine_place (r : Request) (c : Cursor) : (r.parser c).place.lastLine = c.lastLine := by
  obtain ⟨ts, hpass⟩ := r.passes c
  exact hpass.lastLine

/-- Requests leave a part of what was left before them. -/
theorem rest_after_suffix (c : Cursor) (rs : List Request) : (c.after rs).rest <:+ c.rest := by
  induction rs generalizing c with
  | nil => exact List.suffix_refl _
  | cons r rs ih => exact (ih _).trans (rest_place_suffix r c)

/-- Requests do not change the line of the last lexeme. -/
theorem lastLine_after (c : Cursor) (rs : List Request) : (c.after rs).lastLine = c.lastLine := by
  induction rs generalizing c with
  | nil => rfl
  | cons r rs ih => exact (ih _).trans (lastLine_place r c)

/-! ## A cursor of its own -/

/-- A cursor is told by the lexemes that are left and the line of the last one. -/
theorem eq_of_rest_of_lastLine (hrest : c.rest = d.rest) (hline : c.lastLine = d.lastLine) :
    c = d := by
  obtain ⟨ls, n, rfl⟩ := c.exists_eq_before
  obtain ⟨ms, m, rfl⟩ := d.exists_eq_before
  cases hrest
  cases hline
  rfl

/-- The end of input is added after the lexemes that are left. -/
@[simp] theorem rest_withEnd (c : Cursor) : c.withEnd.rest = c.rest ++ [⟨.eof, c.lastLine⟩] := rfl

/-- The added end of input is on the line of the last lexeme. -/
@[simp] theorem lastLine_withEnd (c : Cursor) : c.withEnd.lastLine = c.lastLine := by
  simp [withEnd, ofLexemes]

/-- An end of input after all lexemes is not ahead, but behind. -/
theorem ahead_withEnd (c : Cursor) :
    c.withEnd.ahead = c.ahead ∧ c.withEnd.behind = c.behind ++ [⟨.eof, c.lastLine⟩] := by
  rw [ahead, behind, ahead, behind, rest_withEnd]
  induction c.rest with
  | nil => exact ⟨rfl, rfl⟩
  | cons l ls ih =>
    by_cases h : l.token = .eof
    · simp [h]
    · simpa [h] using ih

/-- A cut cursor has one end of input anyway, so adding one makes no difference. -/
theorem cut_withEnd (c : Cursor) (f : Nat → Nat) : c.withEnd.cut f = c.cut f := by
  obtain ⟨hahead, hbehind⟩ := c.ahead_withEnd
  have hline : c.withEnd.endLine = c.endLine := by
    rw [endLine, endLine, hbehind, lastLine_withEnd]
    cases c.behind <;> rfl
  rw [cut, cut, hahead, hline]

/-- Cursors that are cut to the same cursor have the same lexemes ahead. -/
theorem ahead_eq_of_cut_eq (h : c.cut id = d.cut id) : c.ahead = d.ahead := by
  have hrest := congrArg rest h
  rw [cut, cut, rest_before, rest_before] at hrest
  obtain ⟨hahead, -⟩ := List.append_inj' hrest rfl
  have hid : Lexeme.mapLine id = id := rfl
  rwa [hid, List.map_id, List.map_id] at hahead

end

end Cursor

namespace Request

variable {r : Request} {c d : Cursor}

/-- A request is answered at a cursor as by a parser of its own for what is left there, and leaves
the same lexemes. -/
theorem parser_withEnd (r : Request) (c : Cursor) :
    (r.parser c.withEnd).toExcept = (r.parser c).toExcept ∧
      (r.parser c.withEnd).place = (r.parser c).place.withEnd := by
  have hmatch := r.matches_cut c id
  have hmatch' := r.matches_cut c.withEnd id
  rw [Cursor.cut_withEnd] at hmatch'
  obtain ⟨hcut, hbehind⟩ := hmatch.rel_place
  obtain ⟨hcut', hbehind'⟩ := hmatch'.rel_place
  refine ⟨hmatch'.toExcept_eq.symm.trans hmatch.toExcept_eq, Cursor.eq_of_rest_of_lastLine ?_ ?_⟩
  · have hahead := Cursor.ahead_eq_of_cut_eq (hcut'.symm.trans hcut)
    rw [← Cursor.ahead_append_behind, hahead, hbehind', c.ahead_withEnd.2, ← hbehind,
      ← List.append_assoc, Cursor.ahead_append_behind, Cursor.rest_withEnd,
      Cursor.lastLine_place r c]
  · rw [Cursor.lastLine_place, Cursor.lastLine_withEnd, Cursor.lastLine_withEnd,
      Cursor.lastLine_place]

/-! ## Errors -/

/-- Among lexemes without a negative number, an error is about the token at which the parser then
stands. -/
theorem told_of_stop {e : Error} (hpos : ∀ n, .number n ∈ c.rest.map Lexeme.token → 0 ≤ n)
    (h : r.parser c = .stop e d) :
    (∃ expected, e = .mismatch expected d.token.text d.line) ∨
      e = .unexpectedToken d.token.text d.line := by
  obtain ⟨ts, hpass, hreports⟩ := passes_of_stop h
  cases hreports with
  | mismatch expected => exact .inl ⟨expected, rfl⟩
  | unexpected => exact .inr rfl
  | overflow hmin =>
    have hmem := hpass.token_mem (by rw [hmin]; nofun)
    rw [hmin] at hmem
    exact absurd (hpos _ hmem) (by decide)

/-! ## The end of input -/

/-- At the end of input a program is one empty statement, and an expression is missing. -/
theorem parser_of_eof (h : c.token = .eof) (r : Request) : r.parser c = match r with
    | .program => .done (.program ⟨[.empty]⟩) c
    | .expression => .stop (.mismatch "factor" "Eof" c.line) c := by
  cases r with
  | program =>
    have hderives : Program.Derives ⟨[.empty]⟩ [] := .plain (.one .empty)
    have hread := hderives.reads ⟨trivial, trivial⟩ (show c.Passes [] c from rfl) h
    exact Parser.map_eq_done_iff.2 ⟨_, hread, rfl⟩
  | expression =>
    have hfactor : Parser.factor c = .stop (.mismatch "factor" "Eof" c.line) c := by
      rw [Parser.factor_eq, Parser.factorOf_apply, h]
      show Parser.mismatch _ c = _
      rw [Parser.mismatch, h]
      rfl
    have hsign : Parser.take? Sign.ofToken? c = .done none c :=
      Parser.take?_of_none (by rw [h]; rfl)
    have hterm : Parser.termOf Parser.factor c = .stop (.mismatch "factor" "Eof" c.line) c :=
      Run.bind_eq_stop_iff.2 (.inl hfactor)
    have hsimple : Parser.simpleOf Parser.factor c = .stop (.mismatch "factor" "Eof" c.line) c :=
      Run.bind_eq_stop_iff.2 (.inr ⟨none, c, hsign, Run.bind_eq_stop_iff.2 (.inl hterm)⟩)
    have hexpression : Parser.expression c = .stop (.mismatch "factor" "Eof" c.line) c :=
      Run.bind_eq_stop_iff.2 (.inl hsimple)
    have hwhole : Parser.wholeExpression c = .stop (.mismatch "factor" "Eof" c.line) c :=
      Run.bind_eq_stop_iff.2 (.inl hexpression)
    exact Run.bind_eq_stop_iff.2 (.inl hwhole)

end Request

namespace Cursor

section
variable {c d : Cursor} {ls : List Lexeme} {t : Tree}

/-- At the end of input the cursor stays, and requests of one kind are answered the same. -/
theorem answers_of_eof (h : c.token = .eof) (rs : List Request) :
    c.after rs = c ∧ c.answers rs = rs.map fun r => match r with
      | .program => .done (.program ⟨[.empty]⟩) c
      | .expression => .stop (.mismatch "factor" "Eof" c.line) c := by
  induction rs with
  | nil => exact ⟨rfl, rfl⟩
  | cons r rs ih =>
    obtain ⟨hafter, hanswers⟩ := ih
    rw [after, answers, List.map_cons, r.parser_of_eof h, ← hanswers]
    cases r with
    | program => exact ⟨hafter, rfl⟩
    | expression => exact ⟨hafter, rfl⟩

/-! ## Every list of requests -/

/-- Among lexemes without a negative number no answer breaks off the run. -/
theorem answers_cons (hpos : ∀ n, .number n ∈ c.rest.map Lexeme.token → 0 ≤ n) (r : Request)
    (rs : List Request) : c.answers (r :: rs) = r.parser c :: (r.parser c).place.answers rs := by
  rw [answers]
  cases hr : r.parser c with
  | done t d => rfl
  | stop e d =>
    have hfault : e.isFault = false := by
      obtain ⟨expected, rfl⟩ | rfl := Request.told_of_stop hpos hr <;> rfl
    simp only [hfault, Bool.false_eq_true, if_false, Outcome.place_stop]

/-- If no number is negative, none of those that are left is. -/
theorem nonneg_of_suffix (hpos : ∀ n, .number n ∈ c.rest.map Lexeme.token → 0 ≤ n)
    (h : d.rest <:+ c.rest) : ∀ n, .number n ∈ d.rest.map Lexeme.token → 0 ≤ n :=
  fun n hn => hpos n ((h.map Lexeme.token).subset hn)

/-- The last of some requests is answered at the cursor that the others leave. -/
theorem answers_append (hpos : ∀ n, .number n ∈ c.rest.map Lexeme.token → 0 ≤ n)
    (rs : List Request) (r : Request) :
    c.answers (rs ++ [r]) = c.answers rs ++ [r.parser (c.after rs)] := by
  induction rs generalizing c with
  | nil => exact answers_cons hpos r []
  | cons q rs ih =>
    have hpos' := nonneg_of_suffix hpos (rest_place_suffix q c)
    rw [List.cons_append, answers_cons hpos, answers_cons hpos, ih hpos', after, List.cons_append]

/-- However often a parser for lexemes without a negative number has been asked, the next request
is answered as by a parser of its own for the lexemes that are left, closed by an end of input on
the line of the last lexeme; both leave the same lexemes, the last ones of those before. If the
answer is an error, it is about the token at which the parser then stands. If it is a tree, the
parser stays where it is, and reads an empty statement as a program and no expression. -/
theorem answers_resume (hpos : ∀ n, .number n ∈ ls.map Lexeme.token → 0 ≤ n) (rs : List Request)
    (r : Request) :
    let alone (c : Cursor) : Cursor :=
      ofLexemes (c.rest ++ [⟨.eof, (ls.getLast?.map Lexeme.line).getD 1⟩])
    let c := (ofLexemes ls).after rs
    let answer := r.parser c
    (ofLexemes ls).answers (rs ++ [r]) = (ofLexemes ls).answers rs ++ [answer] ∧
    (r.parser (alone c)).toExcept = answer.toExcept ∧
    (r.parser (alone c)).place = alone answer.place ∧
    answer.place.rest <:+ c.rest ∧
    (∀ e d, answer = .stop e d → (∃ expected, e = .mismatch expected d.token.text d.line) ∨
      e = .unexpectedToken d.token.text d.line) ∧
    (∀ t d, answer = .done t d → ∀ rs', d.after rs' = d ∧
      d.answers rs' = rs'.map fun r => match r with
        | .program => .done (.program ⟨[.empty]⟩) d
        | .expression => .stop (.mismatch "factor" "Eof" d.line) d) := by
  intro alone c answer
  have hrest : c.rest <:+ ls := rest_after_suffix (ofLexemes ls) rs
  have hline : c.lastLine = (ls.getLast?.map Lexeme.line).getD 1 :=
    lastLine_after (ofLexemes ls) rs
  have halone : alone c = c.withEnd := by
    rw [withEnd, hline]
  have halone' : alone answer.place = answer.place.withEnd := by
    rw [withEnd, lastLine_place, hline]
  obtain ⟨hanswer, hplace⟩ := r.parser_withEnd c
  refine ⟨answers_append hpos rs r, halone ▸ hanswer, ?_, rest_place_suffix r c, fun e d he => ?_,
    fun t d ht rs' => ?_⟩
  · rw [halone, halone', hplace]
  · exact Request.told_of_stop (nonneg_of_suffix (c := ofLexemes ls) hpos hrest) he
  · obtain ⟨ts, -, heof⟩ := Request.passes_of_done ht
    exact answers_of_eof heof rs'

/-- A program that ends before a name is read on from this name; what is behind the end of input
is left. -/
theorem answers_resume_name :
    let ls : List Lexeme := [⟨.ident "x", 1⟩, ⟨.ident "y", 2⟩, ⟨.eof, 3⟩, ⟨.ident "z", 4⟩]
    let c := (ofLexemes ls).after [.program]
    (∀ n, .number n ∈ ls.map Lexeme.token → 0 ≤ n) ∧ c.rest = ls.drop 1 ∧
      (Request.program.parser (ofLexemes (c.rest ++ [⟨.eof, 4⟩]))).toExcept =
        (Request.program.parser c).toExcept ∧
      (Request.program.parser c).place.rest = ls.drop 2 ∧
      (ofLexemes ls).answers [.program, .program] =
        (ofLexemes ls).answers [.program] ++ [Request.program.parser c] := by
  intro ls c
  have hpos : ∀ n, .number n ∈ ls.map Lexeme.token → 0 ≤ n := by
    intro n hn
    simp [ls] at hn
  obtain ⟨hanswers, halone, -⟩ := answers_resume hpos [.program] .program
  exact ⟨hpos, by decide +kernel, halone, by decide +kernel, hanswers⟩

end

end Cursor

end MiniPascal
