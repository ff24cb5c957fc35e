import MiniPascal.Parser.Statement

/-!
# The recursion of the parsers

`Run.fix` goes on only at smaller places. The grammar never notices the test: `factor_eq` and
`statement_eq` say that the two recursive parsers satisfy the equations they are written as.

The one relation behind this is `Alike`. All that a parser sees of its input is the token it stands
on, its line, the token after a dot, and whether lexemes have been used up. So at two cursors that
look the same in this way (`Cursor.Correspondence`) it does the same, as long as it goes no further
than they do look the same. A line it only reports, so the lines may differ by a function, and then
the lines of errors differ by it. This is kept by sequences, by repetitions and by every parser of
the grammar, and the body of a recursive parser keeps it one lexeme further, since it calls itself
only after a token (`Guarded`). The equations are the case of equal cursors.
-/

namespace MiniPascal

/-! ## Errors on other lines -/

namespace Error

/-- The error with its line changed by `f`, if it points at one. -/
def mapLine (f : Nat → Nat) : Error → Error
  | .unknownCharacter c line => .unknownCharacter c (f line)
  | .unterminatedComment line => .unterminatedComment (f line)
  | .invalidNumber digits line => .invalidNumber digits (f line)
  | .mismatch expected found line => .mismatch expected found (f line)
  | .unexpectedToken found line => .unexpectedToken found (f line)
  | e => e

/-- An error whose line is not changed is the error. -/
@[simp] theorem mapLine_id (e : Error) : e.mapLine id = e := by
  cases e <;> rfl

/-- An error that points at no line has none to change. -/
theorem mapLine_of_line?_eq_none {e : Error} (h : e.line? = none) (f : Nat → Nat) :
    e.mapLine f = e := by
  cases e <;> first | rfl | cases h

/-- The line of an error does not tell whether it breaks off the run. -/
@[simp] theorem isFault_mapLine (e : Error) (f : Nat → Nat) :
    (e.mapLine f).isFault = e.isFault := by
  cases e <;> rfl

end Error

/-! ## Cursors that look the same -/

/-- Pairs of cursors at which the same is seen, as long as no fewer than `horizon` lexemes are left
at the first of them. Its lines are those of the second, changed by `lines`. -/
structure Cursor.Correspondence where
  rel : Cursor → Cursor → Prop
  lines : Nat → Nat
  horizon : Nat
  token {c d} : rel c d → c.token = d.token
  line {c d} : rel c d → c.line = lines d.line
  next {c d} : rel c d → c.token = .symbol .dot → c.advance.token = d.advance.token
  advance {c d} : rel c d → horizon ≤ c.advance.remaining → rel c.advance d.advance
  lt_iff {c d c' d'} : rel c d → rel c' d' →
    (c'.remaining < c.remaining ↔ d'.remaining < d.remaining)

/-- Every cursor looks like itself. -/
def Cursor.Correspondence.eq : Cursor.Correspondence where
  rel := Eq
  lines := id
  horizon := 0
  token h := h ▸ rfl
  line h := h ▸ rfl
  next h _ := h ▸ rfl
  advance h _ := h ▸ rfl
  lt_iff h h' := by rw [h, h']

/-- The two outcomes have the same value or the same error, up to the lines that errors point at,
and their places are related. -/
inductive Outcome.Matches {σ α : Type} (lines : Nat → Nat) (rel : σ → σ → Prop) :
    Outcome σ α → Outcome σ α → Prop
  | done (a) {s t} : rel s t → Matches lines rel (.done a s) (.done a t)
  | stop (e) {s t} : rel s t → Matches lines rel (.stop (e.mapLine lines) s) (.stop e t)

namespace Outcome.Matches

variable {σ α β : Type} {lines : Nat → Nat} {rel : σ → σ → Prop} {s : σ}

/-- Outcomes with the same lines and places are equal. -/
theorem eq {o o' : Outcome σ α} (h : Matches id Eq o o') : o = o' := by
  cases h with
  | done a h => rw [h]
  | stop e h => rw [h, Error.mapLine_id]

/-- A value is matched by the same value at a related place. -/
theorem of_done {a : α} {o : Outcome σ α} (h : Matches lines rel (.done a s) o) :
    ∃ t, rel s t ∧ o = .done a t := by
  cases h with
  | done _ ht => exact ⟨_, ht, rfl⟩

/-- An error is matched by the error on the line before the change, at a related place. -/
theorem of_stop {e : Error} {o : Outcome σ α} (h : Matches lines rel (.stop e s) o) :
    ∃ e' t, rel s t ∧ e = e'.mapLine lines ∧ o = .stop e' t := by
  cases h with
  | stop e' ht => exact ⟨e', _, ht, rfl, rfl⟩

/-- Outcomes with the same lines have the same results. -/
theorem toExcept_eq {o o' : Outcome σ α} (h : Matches id rel o o') :
    o.toExcept = o'.toExcept := by
  cases h with
  | done a h => rfl
  | stop e h => exact congrArg Except.error e.mapLine_id

/-- The places of matching outcomes are related. -/
theorem rel_place {o o' : Outcome σ α} (h : Matches lines rel o o') : rel o.place o'.place := by
  cases h with
  | done a h => exact h
  | stop e h => exact h

/-- An error that points at no line is the same on both sides. -/
theorem unlocated {e : Error} (he : e.line? = none) {t : σ} (h : rel s t) :
    Matches lines rel (.stop e s : Outcome σ α) (.stop e t) := by
  have hstop : Matches lines rel (.stop (e.mapLine lines) s : Outcome σ α) (.stop e t) := .stop e h
  rwa [Error.mapLine_of_line?_eq_none he] at hstop

/-- The values of matching outcomes may be changed alike. -/
theorem map {o o' : Outcome σ α} (f : α → β) (h : Matches lines rel o o') :
    Matches lines rel (o.map f) (o'.map f) := by
  cases h with
  | done a h => exact .done (f a) h
  | stop e h => exact .stop e h

end Outcome.Matches

/-! ## Parsers that do the same -/

open Cursor (Correspondence remaining)

namespace Parser

/-- The first parser does at `c` what the second does at every cursor that corresponds to `c`,
unless it goes beyond the horizon. And it does not move back. -/
def AlikeAt {α : Type} (C : Correspondence) (p q : Parser α) (c : Cursor) : Prop :=
  (p c).place.remaining ≤ c.remaining ∧
    ∀ d, C.rel c d → C.horizon ≤ (p c).place.remaining → (p c).Matches C.lines C.rel (q d)

/-- The two parsers are alike at cursors with fewer than `n` lexemes left. -/
def Alike {α : Type} (C : Correspondence) (n : Nat) (p q : Parser α) : Prop :=
  ∀ c : Cursor, c.remaining < n → AlikeAt C p q c

/-- A parser made from another one calls it only after a token. -/
def Guarded {α : Type} (body : Parser α → Parser α) : Prop :=
  ∀ C n p q, Alike C n p q → Alike C (n + 1) (body p) (body q)

section
variable {α β : Type} {C : Correspondence} {n : Nat} {c : Cursor}

theorem token_apply (c : Cursor) : token c = .done c.token c := rfl

/-! ### One round of a repetition -/

section
variable {next : Parser (Option α)} {m : Cursor}

/-- A repetition fails where a round does. -/
theorem many_of_stop {e : Error} (h : next c = .stop e m) : many next c = .stop e m := by
  rw [many, Run.many_eq, h]

/-- A round without a value ends the repetition. -/
theorem many_of_none (h : next c = .done none m) : many next c = .done [] m := by
  rw [many, Run.many_eq, h]

/-- A round that uses up lexemes is followed by the rest of the repetition. -/
theorem many_of_some {a : α} (h : next c = .done (some a) m) (hlt : m.remaining < c.remaining) :
    many next c = (many next m).map (a :: ·) := by
  rw [many, Run.many_eq, h]
  exact if_pos hlt

/-- A round that uses up no lexeme is the last one. -/
theorem many_of_stuck {a : α} (h : next c = .done (some a) m)
    (hlt : ¬m.remaining < c.remaining) : many next c = .done [a] m := by
  rw [many, Run.many_eq, h]
  exact if_neg hlt

end

/-! ### Sequences -/

/-- Sequences are alike if their parts are. If the second part goes no further than the horizon, the
first did not either. -/
theorem AlikeAt.bind {p q : Parser α} {f g : α → Parser β} (h : AlikeAt C p q c)
    (hf : ∀ a m, p c = .done a m → AlikeAt C (f a) (g a) m) :
    AlikeAt C (p >>= f) (q >>= g) c := by
  obtain ⟨hle, hmatch⟩ := h
  cases hp : p c with
  | done a m =>
    rw [hp] at hle hmatch
    obtain ⟨hle', hmatch'⟩ := hf a m hp
    have hpf : (p >>= f) c = f a m := by rw [Run.bind_apply, hp]
    rw [AlikeAt, hpf]
    refine ⟨Nat.le_trans hle' hle, fun d hd hh => ?_⟩
    obtain ⟨m', hm, hq⟩ := (hmatch d hd (Nat.le_trans hh hle')).of_done
    rw [Run.bind_apply, hq]
    exact hmatch' m' hm hh
  | stop e m =>
    rw [hp] at hle hmatch
    have hpf : (p >>= f) c = .stop e m := by rw [Run.bind_apply, hp]
    rw [AlikeAt, hpf]
    refine ⟨hle, fun d hd hh => ?_⟩
    obtain ⟨e', m', hm, rfl, hq⟩ := (hmatch d hd hh).of_stop
    rw [Run.bind_apply, hq]
    exact .stop e' hm

/-- The token at the cursor is known to what follows. -/
theorem AlikeAt.token_bind {f g : Token → Parser α} (h : AlikeAt C (f c.token) (g c.token) c) :
    AlikeAt C (Parser.token >>= f) (Parser.token >>= g) c := by
  obtain ⟨hle, hmatch⟩ := h
  refine ⟨hle, fun d hd hh => ?_⟩
  rw [Run.bind_apply, Run.bind_apply, token_apply, token_apply, ← C.token hd]
  exact hmatch d hd hh

/-- The token after a dot is known to what follows. -/
theorem AlikeAt.nextToken_bind {f g : Token → Parser α} (hdot : c.token = .symbol .dot)
    (h : AlikeAt C (f c.advance.token) (g c.advance.token) c) :
    AlikeAt C (Parser.nextToken >>= f) (Parser.nextToken >>= g) c := by
  obtain ⟨hle, hmatch⟩ := h
  refine ⟨hle, fun d hd hh => ?_⟩
  rw [Run.bind_apply, Run.bind_apply, nextToken, nextToken, ← C.next hd hdot]
  exact hmatch d hd hh

namespace Alike

/-- A parser that leaves its cursor is alike to itself if it does the same at cursors that
correspond. -/
theorem of_matches {p : Parser α} (hplace : ∀ c, (p c).place = c)
    (h : ∀ c d, C.rel c d → (p c).Matches C.lines C.rel (p d)) : Alike C n p p :=
  fun c _ => ⟨Nat.le_of_eq (congrArg remaining (hplace c)), fun d hd _ => h c d hd⟩

/-- The same value is given at corresponding cursors. -/
theorem pure (a : α) : Alike C n (pure a : Parser α) (pure a) :=
  .of_matches (fun _ => rfl) fun _ _ hd => .done a hd

/-- The same error without a line is given at corresponding cursors. -/
theorem fail {e : Error} (he : e.line? = none) :
    Alike C n (Run.fail e : Parser α) (Run.fail e) :=
  .of_matches (fun _ => rfl) fun _ _ hd => .unlocated he hd

/-- The same result is given at corresponding cursors, if its error points at no line. -/
theorem ofExcept {x : Except Error α} (hx : ∀ e, x = .error e → e.line? = none) :
    Alike C n (Run.ofExcept x : Parser α) (Run.ofExcept x) := by
  cases x with
  | ok a => exact .pure a
  | error e => exact .fail (hx e rfl)

/-- Mismatches at corresponding cursors tell of the same token, each on its own line. -/
theorem mismatch (expected : String) :
    Alike C n (Parser.mismatch expected : Parser α) (Parser.mismatch expected) :=
  .of_matches (fun _ => rfl) fun c d hd => by
    rw [Parser.mismatch, Parser.mismatch, C.token hd, C.line hd]
    exact .stop (.mismatch expected d.token.text d.line) hd

/-- Unexpected tokens at corresponding cursors are the same, each on its own line. -/
theorem unexpected : Alike C n (Parser.unexpected : Parser α) Parser.unexpected :=
  .of_matches (fun _ => rfl) fun c d hd => by
    rw [Parser.unexpected, Parser.unexpected, C.token hd, C.line hd]
    exact .stop (.unexpectedToken d.token.text d.line) hd

/-- The same token is seen at corresponding cursors. -/
theorem token : Alike C n Parser.token Parser.token :=
  .of_matches (fun _ => rfl) fun c d hd => by
    rw [token_apply, token_apply, C.token hd]
    exact .done _ hd

/-- Going on by a lexeme leads to corresponding cursors, above the horizon. -/
theorem advance : Alike C n Parser.advance Parser.advance :=
  fun _ _ => ⟨Nat.sub_le _ _, fun _ hd hh => .done () (C.advance hd hh)⟩

/-- Sequences are alike if their parts are. -/
theorem bind {p q : Parser α} {f g : α → Parser β} (h : Alike C n p q)
    (hf : ∀ a, Alike C n (f a) (g a)) : Alike C n (p >>= f) (q >>= g) := by
  intro c hc
  refine (h c hc).bind fun a m hp => hf a m ?_
  have hle := (h c hc).1
  rw [hp] at hle
  exact Nat.lt_of_le_of_lt hle hc

/-- Parsers whose values are changed alike. -/
theorem map {p q : Parser α} (f : α → β) (h : Alike C n p q) : Alike C n (f <$> p) (f <$> q) :=
  h.bind fun a => .pure (f a)

/-- Both branches are alike. -/
theorem ite {P : Prop} [Decidable P] {p q p' q' : Parser α} (h : Alike C n p q)
    (h' : Alike C n p' q') : Alike C n (if P then p else p') (if P then q else q') := by
  by_cases hP : P
  · rwa [if_pos hP, if_pos hP]
  · rwa [if_neg hP, if_neg hP]

/-- After a token the two parsers may be alike one lexeme less far. -/
theorem advance_bind {p q : Parser α} (h : Alike C n p q) (hc : c.remaining < n + 1)
    (ht : c.token ≠ .eof) :
    AlikeAt C (Parser.advance >>= fun _ => p) (Parser.advance >>= fun _ => q) c := by
  refine (advance c hc).bind fun _ m hm => h m ?_
  cases hm
  exact Nat.lt_of_lt_of_le (Cursor.remaining_advance_lt ht) (Nat.le_of_lt_succ hc)

/-- Repetitions are alike if their rounds are: whether a round used up lexemes is the same at
corresponding cursors. -/
theorem many {next next' : Parser (Option α)} (h : Alike C n next next') :
    Alike C n (Parser.many next) (Parser.many next') := by
  intro c
  -- on the number of lexemes left; both sides make the same test of it
  induction hk : c.remaining using Nat.strongRecOn generalizing c with
  | ind k ih =>
    subst hk
    intro hc
    obtain ⟨hle, hmatch⟩ := h c hc
    cases hn : next c with
    | stop e m =>
      rw [hn] at hle hmatch
      rw [AlikeAt, many_of_stop hn]
      refine ⟨hle, fun d hd hh => ?_⟩
      obtain ⟨e', m', hm, rfl, hn'⟩ := (hmatch d hd hh).of_stop
      rw [many_of_stop hn']
      exact .stop e' hm
    | done o m =>
      rw [hn] at hle hmatch
      cases o with
      | none =>
        rw [AlikeAt, many_of_none hn]
        refine ⟨hle, fun d hd hh => ?_⟩
        obtain ⟨m', hm, hn'⟩ := (hmatch d hd hh).of_done
        rw [many_of_none hn']
        exact .done [] hm
      | some a =>
        by_cases hlt : m.remaining < c.remaining
        · obtain ⟨hle', hmatch'⟩ := ih _ hlt m rfl (Nat.lt_trans hlt hc)
          rw [AlikeAt, many_of_some hn hlt, Outcome.place_map]
          refine ⟨Nat.le_trans hle' hle, fun d hd hh => ?_⟩
          obtain ⟨m', hm, hn'⟩ := (hmatch d hd (Nat.le_trans hh hle')).of_done
          rw [many_of_some hn' ((C.lt_iff hd hm).1 hlt)]
          exact (hmatch' m' hm hh).map _
        · rw [AlikeAt, many_of_stuck hn hlt]
          refine ⟨hle, fun d hd hh => ?_⟩
          obtain ⟨m', hm, hn'⟩ := (hmatch d hd hh).of_done
          rw [many_of_stuck hn' (mt (C.lt_iff hd hm).2 hlt)]
          exact .done [a] hm

end Alike

/-- Two parsers are alike at equal cursors if they do the same there and do not move back. -/
theorem alikeAt_eq_iff {p q : Parser α} :
    AlikeAt .eq p q c ↔ p c = q c ∧ (p c).place.remaining ≤ c.remaining := by
  constructor
  · rintro ⟨hle, hmatch⟩
    exact ⟨(hmatch c rfl (Nat.zero_le _)).eq, hle⟩
  · rintro ⟨he, hle⟩
    refine ⟨hle, fun d hd _ => ?_⟩
    cases hd
    rw [← he]
    cases p c with
    | done a m => exact .done a rfl
    | stop e m =>
      have hstop : (Outcome.stop (e.mapLine id) m : Outcome Cursor α).Matches id Eq (.stop e m) :=
        .stop e rfl
      rwa [Error.mapLine_id] at hstop

/-- A body that calls itself only after a token is not disturbed by the test in `Run.fix`. -/
theorem alike_fix_body {body : Parser α → Parser α} (hbody : Guarded body) (n : Nat) :
    Alike .eq n (fix body) (body (fix body)) := by
  induction n with
  | zero => exact fun c hc => absurd hc (Nat.not_lt_zero _)
  | succ n ih =>
    intro c hc
    let inner : Parser α := fun d =>
      if _ : d.remaining < c.remaining then Run.fix remaining unexpected body d else unexpected d
    have hinner {d : Cursor} (hd : d.remaining < c.remaining) : inner d = fix body d := dif_pos hd
    have hlike : Alike .eq c.remaining inner (fix body) := by
      intro d hd
      have hle := (ih d (Nat.lt_of_lt_of_le hd (Nat.le_of_lt_succ hc))).1
      rw [alikeAt_eq_iff, hinner hd]
      exact ⟨rfl, hle⟩
    have hunfold : fix body c = body inner c := by rw [fix, Run.fix]
    have hstep := hbody _ _ _ _ hlike c (Nat.lt_succ_self _)
    rw [alikeAt_eq_iff, hunfold]
    exact alikeAt_eq_iff.1 hstep

/-- A guarded recursion satisfies the equation it is written as. -/
theorem fix_eq {body : Parser α → Parser α} (hbody : Guarded body) : fix body = body (fix body) :=
  funext fun c => (alikeAt_eq_iff.1 (alike_fix_body hbody _ c (Nat.lt_succ_self _))).1

/-- A parser made from itself does the same at cursors that correspond. -/
theorem Alike.fix {body : Parser α → Parser α} (hbody : Guarded body) :
    Alike C n (Parser.fix body) (Parser.fix body) := by
  induction n with
  | zero => exact fun c hc => absurd hc (Nat.not_lt_zero _)
  | succ n ih =>
    have h := hbody C n _ _ ih
    rwa [← fix_eq hbody] at h

end

end Parser

namespace Parser.Alike

section
variable {α β : Type} {C : Correspondence} {n : Nat}

/-- A token is expected alike. -/
theorem expect (t : Token) : Alike C n (Parser.expect t) (Parser.expect t) :=
  .bind .token fun _ => .ite .advance (.mismatch _)

/-- A token is accepted alike. -/
theorem accept (t : Token) : Alike C n (Parser.accept t) (Parser.accept t) :=
  .bind .token fun _ => .ite (.bind .advance fun _ => .pure _) (.pure _)

/-- A kind of token is taken alike. -/
theorem take? (f : Token → Option α) : Alike C n (Parser.take? f) (Parser.take? f) :=
  .bind .token fun t => by
    cases f t with
    | some a => exact .bind .advance fun _ => .pure _
    | none => exact .pure _

/-- A name is read alike. -/
theorem ident : Alike C n Parser.ident Parser.ident :=
  .bind .token fun t => by
    cases t with
    | ident name => exact .bind .advance fun _ => .pure _
    | number | keyword | symbol | eof => exact .mismatch _

/-! ## Repetitions -/

/-- Lists with separators are alike if their items are. -/
theorem separated {p q : Parser α} (sep : Symbol) (h : Alike C n p q) :
    Alike C n (Parser.separated sep p) (Parser.separated sep q) :=
  .bind h fun _ => .bind (.many <| .bind (.accept _) fun _ => .ite (.map _ h) (.pure _)) fun _ =>
    .pure _

/-- Operands are alike if each operand is. -/
theorem operands {p q : Parser α} (op? : Token → Option β) (h : Alike C n p q) :
    Alike C n (Parser.operands op? p) (Parser.operands op? q) :=
  .many <| .bind (.take? op?) fun o => by
    cases o with
    | some op => exact .bind h fun _ => .pure _
    | none => exact .pure _

end

/-! ## Expressions -/

section
variable {C : Correspondence} {n : Nat} {p q : Parser Factor}

/-- Terms are alike if factors are. -/
theorem termOf (h : Alike C n p q) :
    Alike C n (Parser.termOf p) (Parser.termOf q) :=
  .bind h fun _ => .bind (.operands _ h) fun _ => .pure _

/-- Simple expressions are alike if factors are. -/
theorem simpleOf (h : Alike C n p q) :
    Alike C n (Parser.simpleOf p) (Parser.simpleOf q) :=
  .bind (.take? _) fun _ => .bind (.termOf h) fun _ => .bind (.operands _ (.termOf h)) fun _ =>
    .pure _

/-- Expressions are alike if factors are. -/
theorem expressionOf (h : Alike C n p q) :
    Alike C n (Parser.expressionOf p) (Parser.expressionOf q) :=
  .bind (.simpleOf h) fun _ => .bind (.take? _) fun o => by
    cases o with
    | some op => exact .bind (.simpleOf h) fun _ => .pure _
    | none => exact .pure _

end

section
variable {C : Correspondence} {n : Nat} {p q : Parser Expr}

/-- The test for an empty list of indices does not look at the input. -/
theorem ofIndices (indices : List Expr) :
    Alike C n (Run.ofExcept (Selector.ofIndices indices) : Parser Selector)
      (Run.ofExcept (Selector.ofIndices indices)) :=
  .ofExcept fun e he => by
    cases indices with
    | nil => cases he; rfl
    | cons => cases he

/-- Access steps are alike if expressions are. Only here is the token after a dot looked at. -/
theorem selectorOf? (h : Alike C n p q) :
    Alike C n (Parser.selectorOf? p) (Parser.selectorOf? q) := by
  intro c hc
  refine .token_bind ?_
  split
  · next hdot =>
    refine .nextToken_bind hdot ?_
    split
    · exact Alike.bind .advance (fun _ => .bind .advance fun _ => .pure _) c hc
    · exact Alike.pure _ c hc
  · exact Alike.bind .advance (fun _ => .bind (.separated _ h) fun _ => .bind (.expect _) fun _ =>
      .bind (.ofIndices _) fun _ => .pure _) c hc
  · exact Alike.bind .advance (fun _ => .pure _) c hc
  · exact Alike.pure _ c hc

/-- Arguments are alike if expressions are. -/
theorem argumentsOf (h : Alike C n p q) :
    Alike C n (Parser.argumentsOf p) (Parser.argumentsOf q) :=
  .bind (.expect _) fun _ => .bind (.accept _) fun _ => .ite (.pure _) <|
    .bind (.separated _ h) fun _ => .bind (.expect _) fun _ => .pure _

/-- What follows a name is alike if expressions are. -/
theorem namedOf (h : Alike C n p q) (name : String) :
    Alike C n (Parser.namedOf p name) (Parser.namedOf q name) :=
  .bind .token fun _ => .ite (.bind (.argumentsOf h) fun _ => .pure _) <|
    .bind (.many (.selectorOf? h)) fun _ => .pure _

end

/-- Factors call themselves only after a token. -/
theorem factorOf : Guarded Parser.factorOf := by
  intro C n p q h c hc
  have hstep {α : Type} {p q : Parser α} (h : Alike C n p q) (ht : c.token ≠ .eof) :=
    h.advance_bind hc ht
  refine .token_bind ?_
  generalize c.token = t at *
  cases t with
  | ident name =>
    refine hstep ?_ nofun
    exact .namedOf (.expressionOf h) _
  | number => exact hstep (.pure _) nofun
  | keyword k =>
    cases k with
    | true | false | nil => exact hstep (.pure _) nofun
    | not =>
      refine hstep ?_ nofun
      exact .bind h fun _ => .pure _
    | _ => exact Alike.mismatch _ c hc
  | symbol s =>
    cases s with
    | leftParen =>
      refine hstep ?_ nofun
      exact .bind (.expressionOf h) fun _ => .bind (.expect _) fun _ => .pure _
    | _ => exact Alike.mismatch _ c hc
  | eof => exact Alike.mismatch _ c hc

section
variable {C : Correspondence} {n : Nat}

/-- The parser of factors does the same at corresponding cursors. -/
theorem factor : Alike C n Parser.factor Parser.factor :=
  .fix factorOf

/-- The parser of expressions does the same at corresponding cursors. -/
theorem expression : Alike C n Parser.expression Parser.expression :=
  .expressionOf .factor

end

/-! ## Statements -/

/-- The parser of labels does the same at corresponding cursors. -/
theorem label {C : Correspondence} {n : Nat} : Alike C n Parser.label Parser.label :=
  .bind (.take? _) fun o => .bind .token fun t => by
    have hread (l : Label) :
        Alike C n (do Parser.advance; return l) (do Parser.advance; return l) :=
      .bind .advance fun _ => .pure l
    obtain _ | _ | _ := o <;> cases t with
    | number => first | exact hread _ | exact .ite (.fail rfl) (hread _)
    | ident => first | exact hread _ | exact .mismatch _
    | keyword k => cases k <;> first | exact hread _ | exact .mismatch _
    | symbol | eof => exact .mismatch _

section
variable {C : Correspondence} {n : Nat} {p q : Parser Stmt}

/-- Arms are alike if statements are. -/
theorem armOf (h : Alike C n p q) :
    Alike C n (Parser.armOf p) (Parser.armOf q) :=
  .bind (.separated _ .label) fun _ => .bind (.expect _) fun _ => .bind h fun _ => .pure _

/-- Lists of arms are alike if statements are. -/
theorem armsOf (h : Alike C n p q) :
    Alike C n (Parser.armsOf p) (Parser.armsOf q) :=
  .bind .token fun _ => .ite (.pure _) <| .bind (.armOf h) fun _ =>
    .bind (.many <| .bind (.accept _) fun _ =>
      .ite (.bind .token fun _ => .ite (.pure _) (.map _ (.armOf h))) (.pure _)) fun _ => .pure _

/-- What follows a name at the front of a statement is alike. -/
theorem namedStatement (name : String) :
    Alike C n (Parser.namedStatement name) (Parser.namedStatement name) :=
  .bind (.many (.selectorOf? .expression)) fun _ => .bind .token fun _ =>
    .ite (.bind (.expect _) fun _ => .bind .expression fun _ => .pure _) <|
    .bind .token fun _ => .ite (.bind (.argumentsOf .expression) fun _ => .pure _) (.pure _)

/-- `if` statements are alike if statements are. -/
theorem conditionalOf (h : Alike C n p q) :
    Alike C n (Parser.conditionalOf p) (Parser.conditionalOf q) :=
  .bind .expression fun _ => .bind (.expect _) fun _ => .bind h fun _ => .bind (.accept _) fun _ =>
    .ite (.bind h fun _ => .pure _) (.pure _)

/-- Case statements are alike if statements are. -/
theorem caseOf (h : Alike C n p q) :
    Alike C n (Parser.caseOf p) (Parser.caseOf q) :=
  .bind .expression fun _ => .bind (.expect _) fun _ => .bind (.armsOf h) fun _ =>
    .bind (.expect _) fun _ => .pure _

/-- `while` loops are alike if statements are. -/
theorem whileOf (h : Alike C n p q) :
    Alike C n (Parser.whileOf p) (Parser.whileOf q) :=
  .bind .expression fun _ => .bind (.expect _) fun _ => .bind h fun _ => .pure _

/-- `repeat` loops are alike if statements are. -/
theorem repeatOf (h : Alike C n p q) :
    Alike C n (Parser.repeatOf p) (Parser.repeatOf q) :=
  .bind (.separated _ h) fun _ => .bind (.expect _) fun _ => .bind .expression fun _ => .pure _

/-- `for` loops are alike if statements are. -/
theorem forOf (h : Alike C n p q) :
    Alike C n (Parser.forOf p) (Parser.forOf q) :=
  .bind .ident fun _ => .bind (.expect _) fun _ => .bind .expression fun _ =>
    .bind (.take? _) fun o => by
      cases o with
      | some d =>
        exact .bind .expression fun _ => .bind (.expect _) fun _ => .bind h fun _ => .pure _
      | none => exact .mismatch _

/-- `new` and `dispose` do the same at corresponding cursors. -/
theorem memoryOf (kind : MemoryKind) :
    Alike C n (Parser.memoryOf kind) (Parser.memoryOf kind) :=
  .bind (.expect _) fun _ => .bind .ident fun _ => .bind (.expect _) fun _ => .pure _

/-- Compound statements are alike if statements are. -/
theorem compoundOf (h : Alike C n p q) :
    Alike C n (Parser.compoundOf p) (Parser.compoundOf q) :=
  .bind (.separated _ h) fun _ => .bind (.expect _) fun _ => .pure _

end

/-- Statements call themselves only after a token. -/
theorem statementOf : Guarded Parser.statementOf := by
  intro C n p q h c hc
  have hstep {α : Type} {p q : Parser α} (h : Alike C n p q) (ht : c.token ≠ .eof) :=
    h.advance_bind hc ht
  refine .token_bind ?_
  generalize c.token = t at *
  cases t with
  | ident => exact hstep (.namedStatement _) nofun
  | keyword k =>
    cases k with
    | begin => exact hstep (.compoundOf h) nofun
    | «if» => exact hstep (.conditionalOf h) nofun
    | case => exact hstep (.caseOf h) nofun
    | «while» => exact hstep (.whileOf h) nofun
    | «repeat» => exact hstep (.repeatOf h) nofun
    | «for» => exact hstep (.forOf h) nofun
    | new | dispose => exact hstep (.memoryOf _) nofun
    | _ => exact Alike.pure _ c hc
  | number | symbol | eof => exact Alike.pure _ c hc

section
variable {C : Correspondence} {n : Nat}

/-- The parser of statements does the same at corresponding cursors. -/
theorem statement : Alike C n Parser.statement Parser.statement :=
  .fix statementOf

/-- The parser of programs does the same at cursors that correspond. -/
theorem program : Alike C n Parser.program Parser.program :=
  .bind (.separated _ .statement) fun _ => .bind (.accept _) fun _ => .bind .token fun _ =>
    .ite (.pure _) .unexpected

/-- The parser of whole expressions does the same at cursors that correspond. -/
theorem wholeExpression : Alike C n Parser.wholeExpression Parser.wholeExpression :=
  .bind .expression fun _ => .bind .token fun _ => .ite (.pure _) .unexpected

end

end Parser.Alike

/-! ## The equations -/

namespace Parser

/-- What the parser of factors does at each token. -/
theorem factorOf_apply (p : Parser Factor) (c : Cursor) : factorOf p c = match c.token with
    | .ident name => namedOf (expressionOf p) name c.advance
    | .number n => .done (.number n) c.advance
    | .keyword .true => .done (.bool true) c.advance
    | .keyword .false => .done (.bool false) c.advance
    | .keyword .nil => .done .nil c.advance
    | .symbol .leftParen =>
      (do
        let e ← expressionOf p
        expect (.symbol .rightParen)
        return .paren e : Parser Factor) c.advance
    | .keyword .not => (.not <$> p) c.advance
    | _ => mismatch "factor" c := by
  rw [factorOf, Run.bind_apply, token_apply]
  cases c.token with
  | keyword k => cases k <;> rfl
  | symbol s => cases s <;> rfl
  | ident | number | eof => rfl

/-- What the parser of statements does at each token. -/
theorem statementOf_apply (p : Parser Stmt) (c : Cursor) : statementOf p c = match c.token with
    | .ident name => namedStatement name c.advance
    | .keyword .begin => compoundOf p c.advance
    | .keyword .if => conditionalOf p c.advance
    | .keyword .case => caseOf p c.advance
    | .keyword .while => whileOf p c.advance
    | .keyword .repeat => repeatOf p c.advance
    | .keyword .for => forOf p c.advance
    | .keyword .new => memoryOf .new c.advance
    | .keyword .dispose => memoryOf .dispose c.advance
    | _ => .done .empty c := by
  rw [statementOf, Run.bind_apply, token_apply]
  cases c.token with
  | keyword k => cases k <;> rfl
  | ident | number | symbol | eof => rfl

/-- A factor is read by the rules for factors. -/
theorem factor_eq : factor = factorOf factor :=
  fix_eq Alike.factorOf

/-- A statement is read by the rules for statements. -/
theorem statement_eq : statement = statementOf statement :=
  fix_eq Alike.statementOf

end Parser

end MiniPascal
