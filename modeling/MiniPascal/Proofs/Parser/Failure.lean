import MiniPascal.Proofs.Parser.Soundness

/-!
# Failures are found at the first token that cannot stand

Where a parser fails, the tokens it has passed can be completed (`Viable`), and its error reports
the token that stands there (`Cursor.Reports`). `Stops` states this of a parser; the condition on
the tokens is that of the phrase the parser is a part of, so it is moved over the tokens that were
read before. It is kept by each parser made from a parser of factors or statements, and an empty
phrase can always be completed, so the recursive parsers have it too (`program_stops`,
`wholeExpression_stops`).

The completions are the shortest there are: `nil` for an operand, nothing for a statement, and the
brackets and words that close what is open. None of them has an `else`, so a completed program keeps
each `else` at the nearest `if`.
-/

namespace MiniPascal

/-! ## Completions -/

section
variable {α β : Type} {R : α → List Token → Prop} {S : β → List Token → Prop} {ts ps : List Token}

/-- The tokens can be completed to tokens of the form `R`. -/
def Viable (R : α → List Token → Prop) (ts : List Token) : Prop :=
  ∃ a us, .eof ∉ us ∧ R a (ts ++ us)

/-- Tokens that are the front of a phrase can be completed. -/
theorem Viable.of_append {a : α} (us : List Token) (hus : .eof ∉ us) (h : R a (ts ++ us)) :
    Viable R ts :=
  ⟨a, us, hus, h⟩

/-- A whole phrase is complete. -/
theorem Viable.of_form {a : α} (h : R a ts) : Viable R ts :=
  ⟨a, [], List.not_mem_nil, by rwa [List.append_nil]⟩

/-- A phrase with an unfinished part can be completed: the part is completed, and the tokens `post`
close the phrase. -/
theorem Viable.within (h : Viable R ts) (post : List Token) (hpost : .eof ∉ post)
    (hS : ∀ a us, R a (ts ++ us) → ∃ b, S b (ps ++ (us ++ post))) : Viable S ps := by
  obtain ⟨a, us, hus, ha⟩ := h
  obtain ⟨b, hb⟩ := hS a us ha
  refine ⟨b, us ++ post, ?_, hb⟩
  rw [List.mem_append, not_or]
  exact ⟨hus, hpost⟩

/-- A phrase whose last part is unfinished can be completed with this part. -/
theorem Viable.last (h : Viable R ts) (hS : ∀ a us, R a (ts ++ us) → ∃ b, S b (ps ++ us)) :
    Viable S ps := by
  refine h.within [] List.not_mem_nil fun a us ha => ?_
  rw [List.append_nil]
  exact hS a us ha

end

section
variable {α β : Type} {sep : Symbol} {R : α → List Token → Prop} {ts us : List Token}

/-- After items with the symbol between them, an unfinished item can be completed. -/
theorem Viable.separated {a : α} {as : List α} {vs : List Token} (ha : R a ts)
    (has : Repeated (fun a us => ∃ vs, us = .symbol sep :: vs ∧ R a vs) as us) (hvs : Viable R vs) :
    Viable (Separated sep R) (ts ++ (us ++ .symbol sep :: vs)) := by
  refine hvs.last fun b ws hb => ⟨a :: as ++ [b], ?_⟩
  have hlist := (Separated.of_repeated ha has).append (.one hb)
  simpa only [List.append_assoc, List.cons_append] using hlist

/-- An item may be added at the end of a repetition. -/
theorem Repeated.append_last {as : List α} {a : α} (h : Repeated R as ts) (ha : R a us) :
    Repeated R (as ++ [a]) (ts ++ us) := by
  induction h with
  | nil =>
    have hone : Repeated R [a] (us ++ []) := .cons ha .nil
    rwa [List.append_nil] at hone
  | cons hb _ ih =>
    rw [List.append_assoc]
    exact .cons hb ih

/-- An operator with its operand may be added at the end of operands. -/
theorem Operands.append_last {token : β → Token} {rest : List (β × α)} {a : α} (op : β)
    (h : Operands token R rest ts) (ha : R a us) :
    Operands token R (rest ++ [(op, a)]) (ts ++ token op :: us) := by
  induction h with
  | nil =>
    have hone : Operands token R [(op, a)] (token op :: (us ++ [])) := .cons ha .nil
    rwa [List.append_nil] at hone
  | cons hb _ ih =>
    simp only [List.cons_append, List.append_assoc]
    exact .cons hb ih

end

/-- The expression that is the operand `nil`, the shortest completion of a missing expression. -/
def Expr.nil : Expr :=
  .simple ⟨none, ⟨.nil, []⟩, []⟩

/-- The shortest expression has one token. -/
theorem Expr.Derives.nil : Expr.nil.Derives [.keyword .nil] :=
  .simple (.unsigned (.mk .nil .nil) .nil)

/-! ## Reports -/

/-- The error tells the token at the cursor and its line; or the token is the least number, which
cannot be negated. -/
inductive Cursor.Reports (c : Cursor) : Error → Prop
  | mismatch (expected) : Reports c (.mismatch expected c.token.text c.line)
  | unexpected : Reports c (.unexpectedToken c.token.text c.line)
  | overflow : c.token = .number Int64.minValue → Reports c .labelOverflow

namespace Parser

section
variable {α β γ : Type} {V W : List Token → Prop} {c : Cursor}

/-- Where `p` fails from `c`, it has passed tokens that satisfy `V`, and its error reports what
stands there. -/
def StopsAt (p : Parser α) (V : List Token → Prop) (c : Cursor) : Prop :=
  ∀ ⦃e d⦄, p c = .stop e d → ∃ ts, c.Passes ts d ∧ V ts ∧ d.Reports e

/-- Wherever `p` fails, it has passed tokens that satisfy `V`, and its error reports what stands
there. -/
def Stops (p : Parser α) (V : List Token → Prop) : Prop :=
  ∀ c, StopsAt p V c

/-- What was passed before a failure may be described more weakly. -/
theorem Stops.mono {p : Parser α} (h : Stops p V) (hVW : ∀ ts, V ts → W ts) : Stops p W := by
  intro c e d hp
  obtain ⟨ts, hpass, hV, hreports⟩ := h c hp
  exact ⟨ts, hpass, hVW ts hV, hreports⟩

/-- A parser that succeeds does not fail. -/
theorem StopsAt.of_done {p : Parser α} {a : α} {d : Cursor} (h : p c = .done a d) :
    StopsAt p V c := by
  intro e m hp
  cases h.symm.trans hp

/-- What fails at once has passed nothing. -/
theorem StopsAt.of_stop {p : Parser α} {e : Error} (h : p c = .stop e c) (hreports : c.Reports e)
    (hV : V []) : StopsAt p V c := by
  intro e' m hp
  cases h.symm.trans hp
  exact ⟨[], rfl, hV, hreports⟩

/-- A value is no failure. -/
theorem Stops.pure (a : α) : Stops (pure a : Parser α) V :=
  fun _ => .of_done rfl

/-- The error about the token at the cursor reports it, and nothing was passed. -/
theorem Stops.mismatch (expected : String) (hV : V []) :
    Stops (mismatch expected : Parser α) V :=
  fun _ => .of_stop rfl (.mismatch expected) hV

/-- The error about a token after the program reports it, and nothing was passed. -/
theorem Stops.unexpected (hV : V []) : Stops (unexpected : Parser α) V :=
  fun _ => .of_stop rfl .unexpected hV

/-- After the first part of a sequence the condition is on what is passed by both parts. -/
theorem StopsAt.bind {p : Parser α} {f : α → Parser β} {R : α → List Token → Prop}
    (h : StopsAt p V c) (hr : Reads p R)
    (hf : ∀ a m ts, p c = .done a m → R a ts → StopsAt (f a) (fun us => V (ts ++ us)) m) :
    StopsAt (p >>= f) V c := by
  intro e d hpf
  rcases Run.bind_eq_stop_iff.1 hpf with hp | ⟨a, m, hp, hfa⟩
  · exact h hp
  · obtain ⟨ts, hpass, ha⟩ := hr hp
    obtain ⟨us, hpass', hV, hreports⟩ := hf a m ts hp ha hfa
    exact ⟨ts ++ us, hpass.trans hpass', hV, hreports⟩

/-- A sequence fails in its first part, or after it in its second part; then the tokens of the first
part were passed too. -/
theorem Stops.bind {p : Parser α} {f : α → Parser β} {R : α → List Token → Prop} (h : Stops p V)
    (hr : Reads p R) (hf : ∀ a ts, R a ts → Stops (f a) fun us => V (ts ++ us)) :
    Stops (p >>= f) V :=
  fun c => (h c).bind hr fun a m ts _ ha => hf a ts ha m

/-- A parser and a last step that does not fail. -/
theorem Stops.bind_pure {p : Parser α} (f : α → β) (h : Stops p V) :
    Stops (p >>= fun a => Pure.pure (f a)) V := by
  intro c e d hp
  rcases Run.bind_eq_stop_iff.1 hp with hp | ⟨a, m, -, hf⟩
  · exact h c hp
  · cases hf

/-- Changing the value does not change where a parser fails. -/
theorem Stops.map {p : Parser α} (f : α → β) (h : Stops p V) : Stops (f <$> p) V :=
  h.bind_pure f

/-- A parser that looks at the token fails where what it chooses does. -/
theorem StopsAt.token_bind {f : Token → Parser α} (h : StopsAt (f c.token) V c) :
    StopsAt (Parser.token >>= f) V c :=
  h

/-- A parser that looks at the token ahead fails where what it chooses does. -/
theorem StopsAt.nextToken_bind {f : Token → Parser α} (h : StopsAt (f c.advance.token) V c) :
    StopsAt (Parser.nextToken >>= f) V c :=
  h

/-- The token at the cursor has no part in the condition. -/
theorem Stops.token_bind {f : Token → Parser α} (h : ∀ t, Stops (f t) V) :
    Stops (Parser.token >>= f) V :=
  fun c => h c.token c

/-- The token that is passed is a part of what is passed. -/
theorem StopsAt.advance_bind {p : Parser α} {t : Token} (ht : c.token = t) (hne : t ≠ .eof)
    (h : StopsAt p (fun us => V (t :: us)) c.advance) :
    StopsAt (Parser.advance >>= fun _ => p) V c := by
  intro e d hp
  obtain ⟨us, hpass, hV, hreports⟩ := h hp
  exact ⟨t :: us, .cons ht hne hpass, hV, hreports⟩

/-- A parser that expects a token fails there, or after passing the token. -/
theorem Stops.expect_bind {f : Unit → Parser α} {t : Token} (hne : t ≠ .eof) (hV : V [])
    (h : Stops (f ()) fun us => V (t :: us)) : Stops (expect t >>= f) V := by
  intro c
  by_cases ht : c.token = t
  · intro e d hp
    rw [Run.bind_apply, expect_eq_done_iff.2 ⟨ht, rfl⟩] at hp
    obtain ⟨us, hpass, hV', hreports⟩ := h _ hp
    exact ⟨t :: us, .cons ht hne hpass, hV', hreports⟩
  · have hstop : expect t c = Parser.mismatch t.text c := by
      rw [expect, Run.bind_apply, token_apply]
      exact congrFun (if_neg ht) c
    refine .of_stop (e := .mismatch t.text c.token.text c.line) ?_ (.mismatch _) hV
    rw [Run.bind_apply, hstop]
    rfl

/-- A parser that expects a name fails there, or after passing the name. -/
theorem Stops.ident_bind {f : String → Parser α} (hV : V [])
    (h : ∀ name, Stops (f name) fun us => V (.ident name :: us)) :
    Stops (ident >>= f) V := by
  intro c
  by_cases hx : ∃ name, c.token = .ident name
  · obtain ⟨name, hx⟩ := hx
    intro e d hp
    rw [Run.bind_apply, ident_eq_done_iff.2 ⟨hx, rfl⟩] at hp
    obtain ⟨us, hpass, hV', hreports⟩ := h name _ hp
    exact ⟨.ident name :: us, .cons hx nofun hpass, hV', hreports⟩
  · have hstop : ident c = Parser.mismatch "identifier" c := by
      rw [ident, Run.bind_apply, token_apply]
      generalize c.token = t at hx
      cases t with
      | ident name => exact absurd ⟨name, rfl⟩ hx
      | number | keyword | symbol | eof => rfl
    refine .of_stop (e := .mismatch "identifier" c.token.text c.line) ?_ (.mismatch _) hV
    rw [Run.bind_apply, hstop]
    rfl

/-- A parser that accepts a token fails after it where the token stands, and else where the parser
goes on without it. -/
theorem StopsAt.accept_bind {f : Bool → Parser α} {t : Token} (hne : t ≠ .eof)
    (htrue : c.token = t → StopsAt (f true) (fun us => V (t :: us)) c.advance)
    (hfalse : StopsAt (f false) V c) : StopsAt (accept t >>= f) V c := by
  intro e d hp
  by_cases ht : c.token = t
  · rw [Run.bind_apply, accept_of_eq ht] at hp
    obtain ⟨us, hpass, hV, hreports⟩ := htrue ht hp
    exact ⟨t :: us, .cons ht hne hpass, hV, hreports⟩
  · rw [Run.bind_apply, accept_of_ne ht] at hp
    exact hfalse hp

/-- `StopsAt.accept_bind` wherever the parser starts. -/
theorem Stops.accept_bind {f : Bool → Parser α} {t : Token} (hne : t ≠ .eof)
    (htrue : Stops (f true) fun us => V (t :: us)) (hfalse : Stops (f false) V) :
    Stops (accept t >>= f) V :=
  fun c => .accept_bind hne (fun _ => htrue _) (hfalse c)

/-- A parser that takes an operator, if there is one, fails after it or without it. -/
theorem Stops.take?_bind {f : Option β → Parser α} {op? : Token → Option β} {token : β → Token}
    (hop : ∀ {t op}, op? t = some op ↔ t = token op) (heof : op? .eof = none)
    (hsome : ∀ op, Stops (f (some op)) fun us => V (token op :: us)) (hnone : Stops (f none) V) :
    Stops (take? op? >>= f) V := by
  intro c e d hp
  cases ho : op? c.token with
  | some op =>
    rw [Run.bind_apply, take?_of_some ho] at hp
    obtain ⟨us, hpass, hV, hreports⟩ := hsome op _ hp
    have hne : token op ≠ .eof := by
      intro he
      rw [hop.2 he.symm] at heof
      cases heof
    exact ⟨token op :: us, .cons (hop.1 ho) hne hpass, hV, hreports⟩
  | none =>
    rw [Run.bind_apply, take?_of_none ho] at hp
    exact hnone c hp

/-- A part of a phrase fails where the phrase can be completed: with what completes the part, and
with the tokens `post` after it. What was passed before the part is put before it by `f`. -/
theorem Stops.within {R : α → List Token → Prop} {S : β → List Token → Prop}
    {f : List Token → List Token} {p : Parser γ} (h : Stops p (Viable R)) (post : List Token)
    (hpost : .eof ∉ post) (hS : ∀ a us vs, R a (us ++ vs) → ∃ b, S b (f us ++ (vs ++ post))) :
    Stops p fun us => Viable S (f us) :=
  h.mono fun us hus => hus.within post hpost fun a vs => hS a us vs

/-- `Stops.within` for the last part of a phrase. -/
theorem Stops.last {R : α → List Token → Prop} {S : β → List Token → Prop}
    {f : List Token → List Token} {p : Parser γ} (h : Stops p (Viable R))
    (hS : ∀ a us vs, R a (us ++ vs) → ∃ b, S b (f us ++ vs)) : Stops p fun us => Viable S (f us) :=
  h.mono fun us hus => hus.last fun a vs => hS a us vs

end

/-! ## Repetitions and recursion -/

section
variable {α β : Type} {R : α → List Token → Prop} {E V W : List Token → Prop}

/-- A repetition fails in a round, after the items of the rounds before it. -/
theorem many_stops {next : Parser (Option α)} (hnext : ReadsRound next R E) (h : Stops next W)
    (hV : ∀ as ts us, Repeated R as ts → W us → V (ts ++ us)) : Stops (many next) V := by
  intro c
  -- on the number of lexemes left, since every item uses some up
  induction hk : c.remaining using Nat.strongRecOn generalizing c V with
  | ind k ih =>
    subst hk
    cases hn : next c with
    | stop e m =>
      intro e' d hd
      obtain ⟨us, hpass, hW, hreports⟩ := h c hn
      cases (many_of_stop hn).symm.trans hd
      exact ⟨us, hpass, hV [] [] us .nil hW, hreports⟩
    | done o m =>
      rcases hnext hn with ⟨a, ts, rfl, hne, hpass, ha⟩ | ⟨rfl, -⟩
      · have hlt := hpass.remaining_lt hne
        have hmore (as us vs) (has : Repeated R as us) (hvs : W vs) : V (ts ++ (us ++ vs)) := by
          rw [← List.append_assoc]
          exact hV _ _ _ (.cons ha has) hvs
        have hm : StopsAt (many next) (fun us => V (ts ++ us)) m := ih _ hlt hmore m rfl
        intro e d hd
        rw [many_of_some hn hlt, Outcome.map_eq_stop_iff] at hd
        obtain ⟨us, hpass', hVus, hreports⟩ := hm hd
        exact ⟨ts ++ us, hpass.trans hpass', hVus, hreports⟩
      · exact .of_done (many_of_none hn)

/-- A list fails in an item; what was read of the list can be completed with the item. -/
theorem separated_stops {p : Parser α} (sep : Symbol) (h : Stops p (Viable R)) (hr : Reads p R) :
    Stops (separated sep p) (Viable (Separated sep R)) := by
  have hround : Stops (do if ← accept (.symbol sep) then some <$> p else return none)
      (fun us => ∃ vs, us = .symbol sep :: vs ∧ Viable R vs) :=
    .accept_bind nofun ((h.mono fun vs hvs => ⟨vs, rfl, hvs⟩).map some) (.pure _)
  refine .bind (h.last fun a us vs ha => ⟨[a], .one ha⟩) hr fun a ts ha => ?_
  refine .bind_pure _ (many_stops (separated_round sep hr) hround ?_)
  rintro as us _ has ⟨vs, rfl, hvs⟩
  exact .separated ha has hvs

/-- A round of `operands` fails after its operator, where the operand fails. -/
theorem operands_round_stops {op? : Token → Option β} {token : β → Token} {p : Parser α}
    (hop : ∀ {t op}, op? t = some op ↔ t = token op) (heof : op? .eof = none)
    (h : Stops p (Viable R)) :
    Stops
      (do
        match ← take? op? with
        | some op => return some (op, ← p)
        | none => return none)
      (fun us => ∃ op vs, us = token op :: vs ∧ Viable R vs) := by
  refine .take?_bind hop heof (fun op => Stops.bind_pure _ ?_) (.pure _)
  exact h.mono fun vs hvs => ⟨op, vs, rfl, hvs⟩

/-- Operands fail in an operand; what was read of them can be completed with it. -/
theorem operands_stops {op? : Token → Option β} {token : β → Token} {p : Parser α}
    (hop : ∀ {t op}, op? t = some op ↔ t = token op) (heof : op? .eof = none)
    (h : Stops p (Viable R)) (hr : Reads p R) :
    Stops (operands op? p) (Viable (Operands token R)) := by
  refine many_stops (operands_round hop heof hr) (operands_round_stops hop heof h) ?_
  rintro rest us _ hrest ⟨op, vs, rfl, hvs⟩
  refine hvs.last fun b ws hb => ⟨rest ++ [(op, b)], ?_⟩
  have hlist := (Operands.of_repeated hrest).append_last op hb
  rwa [List.append_assoc]

/-- What its body keeps holds of a parser made from itself: where the recursion is cut off, nothing
has been passed. `Q` is what the body needs to know of the values. -/
theorem fix_stops {body : Parser α → Parser α} {Q : Cursor → α → Cursor → Prop} (hV : V [])
    (hQ : ∀ p, (∀ ⦃c a d⦄, p c = .done a d → Q c a d) →
      ∀ ⦃c a d⦄, body p c = .done a d → Q c a d)
    (h : ∀ p, (∀ ⦃c a d⦄, p c = .done a d → Q c a d) → Stops p V → Stops (body p) V) :
    Stops (fix body) V := by
  refine fun c => (Run.fix_induct (P := fun c o => (∀ ⦃a d⦄, o = .done a d → Q c a d) ∧
    ∀ ⦃e d⦄, o = .stop e d → ∃ ts, c.Passes ts d ∧ V ts ∧ d.Reports e)
    (fun c f hf hstuck => ?_) c).2
  have hfQ ⦃m a d⦄ (hm : f m = .done a d) : Q m a d := by
    by_cases hlt : m.remaining < c.remaining
    · exact (hf m hlt).1 hm
    · rw [hstuck m hlt] at hm
      exact absurd hm unexpected_ne_done
  have hfV : Stops f V := by
    intro m
    by_cases hlt : m.remaining < c.remaining
    · exact (hf m hlt).2
    · exact .of_stop (hstuck m hlt) .unexpected hV
  exact ⟨fun a d hd => hQ f hfQ hd, h f hfQ hfV c⟩

end

/-! ## Expressions -/

section
variable {p : Parser Factor}

/-- A term fails in a factor, and can be completed with it. -/
theorem termOf_stops (h : Stops p (Viable Factor.Derives)) (hr : Reads p Factor.Derives) :
    Stops (termOf p) (Viable Term.Derives) := by
  refine .bind (h.last fun f us vs hf => ⟨⟨f, []⟩, ?_⟩) hr fun f ts hf => .bind_pure _ ?_
  · simpa using Term.Derives.mk hf .nil
  · refine (operands_stops MulOp.ofToken?_eq_some_iff rfl h hr).last fun rest us vs hrest => ?_
    exact ⟨⟨f, rest⟩, by simpa using Term.Derives.mk hf hrest⟩

/-- A simple expression fails in a term, and can be completed with it. -/
theorem simpleOf_stops (h : Stops p (Viable Factor.Derives)) (hr : Reads p Factor.Derives) :
    Stops (simpleOf p) (Viable SimpleExpr.Derives) := by
  have hterm := termOf_stops h hr
  have hreads := termOf_sound hr
  have hrest := operands_stops AddOp.ofToken?_eq_some_iff rfl hterm hreads
  refine .take?_bind Sign.ofToken?_eq_some_iff rfl (fun sign => ?_) ?_
  · refine .bind (hterm.last fun t us vs ht => ?_) hreads fun t ts ht =>
      .bind_pure _ (hrest.last fun rest us vs hrest => ?_)
    · exact ⟨⟨some sign, t, []⟩, by simpa using SimpleExpr.Derives.signed ht .nil⟩
    · exact ⟨⟨some sign, t, rest⟩, by simpa using SimpleExpr.Derives.signed ht hrest⟩
  · refine .bind (hterm.last fun t us vs ht => ?_) hreads fun t ts ht =>
      .bind_pure _ (hrest.last fun rest us vs hrest => ?_)
    · exact ⟨⟨none, t, []⟩, by simpa using SimpleExpr.Derives.unsigned ht .nil⟩
    · exact ⟨⟨none, t, rest⟩, by simpa using SimpleExpr.Derives.unsigned ht hrest⟩

/-- An expression fails in one of its sides, and can be completed with it. -/
theorem expressionOf_stops (h : Stops p (Viable Factor.Derives)) (hr : Reads p Factor.Derives) :
    Stops (expressionOf p) (Viable Expr.Derives) := by
  have hsimple := simpleOf_stops h hr
  refine .bind (hsimple.last fun e us vs he => ⟨.simple e, .simple he⟩) (simpleOf_sound hr)
    fun left ts hleft => .take?_bind RelOp.ofToken?_eq_some_iff rfl (fun op => ?_) (.pure _)
  refine .bind_pure _ (hsimple.last fun right us vs hright => ?_)
  exact ⟨.comparison left op right, by simpa using Expr.Derives.comparison hleft hright⟩

end

section
variable {p : Parser Expr}

/-- An access step fails in an index or before its closing bracket, and `nil` and a bracket complete
it. -/
theorem selectorOf?_stops (h : Stops p (Viable Expr.Derives)) (hr : Reads p Expr.Derives) :
    Stops (selectorOf? p) (Viable Selector.Derives) := by
  have hlist := separated_stops .comma h hr
  intro c
  refine .token_bind ?_
  split
  · refine .nextToken_bind ?_
    split <;> exact .of_done rfl
  · next hopen =>
    refine .advance_bind hopen (by decide) (Stops.bind ?_ (separated_sound .comma hr) ?_ _)
    · refine hlist.within [.symbol .rightBracket] (by simp) fun es us vs hes => ?_
      exact ⟨.index es, by simpa using Selector.Derives.index hes⟩
    · intro es ts hes
      refine .expect_bind (by decide) ?_ ?_
      · exact .of_append (a := .index es) [.symbol .rightBracket] (by simp)
          (by simpa using Selector.Derives.index hes)
      · rw [hes.ofIndices]
        exact .pure _
  · exact .of_done rfl
  · exact .of_done rfl

/-- Access steps fail in the last of them, and can be completed with it. -/
theorem selectors_stops (h : Stops p (Viable Expr.Derives)) (hr : Reads p Expr.Derives) :
    Stops (many (selectorOf? p)) (Viable (Repeated Selector.Derives)) := by
  refine many_stops (selectorOf?_sound hr) (selectorOf?_stops h hr) fun ss ts us hss hus => ?_
  refine hus.last fun s vs hs => ⟨ss ++ [s], ?_⟩
  rw [List.append_assoc]
  exact hss.append_last hs

/-- Arguments fail in an argument or before their closing parenthesis, which completes them. -/
theorem argumentsOf_stops (h : Stops p (Viable Expr.Derives)) (hr : Reads p Expr.Derives) :
    Stops (argumentsOf p) (Viable Expr.DerivesArguments) := by
  have hlist := separated_stops .comma h hr
  refine .expect_bind nofun ?_ (.accept_bind nofun (.pure _) ?_)
  · exact .of_append [.symbol .leftParen, .symbol .rightParen] (by simp) .none
  refine .bind ?_ (separated_sound .comma hr) ?_
  · refine hlist.within [.symbol .rightParen] (by simp) fun args us vs hargs => ?_
    exact ⟨args, by simpa using Expr.DerivesArguments.some hargs⟩
  · intro args ts hargs
    refine .expect_bind nofun ?_ (.pure _)
    exact .of_append (a := args) [.symbol .rightParen] (by simp)
      (by simpa using Expr.DerivesArguments.some hargs)

/-- What begins with a name fails in its arguments or access steps, and can be completed with
them. -/
theorem namedOf_stops (h : Stops p (Viable Expr.Derives)) (hr : Reads p Expr.Derives)
    (name : String) :
    Stops (namedOf p name) fun ts => Viable Factor.Derives (.ident name :: ts) := by
  refine .token_bind fun t => ?_
  split
  · refine ((argumentsOf_stops h hr).last fun args us vs hargs => ?_).bind_pure _
    exact ⟨.call name args, .call hargs⟩
  · refine ((selectors_stops h hr).last fun ss us vs hss => ?_).bind_pure _
    exact ⟨_, .of_selectors name hss⟩

end

/-- A factor fails at its first token, where it can be completed by `nil`, or within its parts. -/
theorem factorOf_stops {p : Parser Factor} (h : Stops p (Viable Factor.Derives))
    (hr : Reads p Factor.Derives) : Stops (factorOf p) (Viable Factor.Derives) := by
  have hexpr := expressionOf_stops h hr
  have hreads := expressionOf_sound hr
  have hmismatch : Stops (Parser.mismatch "factor" : Parser Factor) (Viable Factor.Derives) :=
    .mismatch _ (.of_append [.keyword .nil] (by simp) .nil)
  intro c
  refine .token_bind ?_
  generalize ht : c.token = t
  cases t with
  | ident name => exact .advance_bind ht nofun (namedOf_stops hexpr hreads name _)
  | number => exact .of_done rfl
  | keyword k =>
    cases k with
    | true | false | nil => exact .of_done rfl
    | not =>
      refine .advance_bind ht nofun ((h.last fun f us vs hf => ?_).bind_pure _ _)
      exact ⟨.not f, .not hf⟩
    | _ => exact hmismatch c
  | symbol s =>
    cases s with
    | leftParen =>
      refine .advance_bind ht nofun (Stops.bind ?_ hreads (fun e ts he => ?_) _)
      · refine hexpr.within [.symbol .rightParen] (by simp) fun e us vs he => ?_
        exact ⟨.paren e, by simpa using Factor.Derives.paren he⟩
      · refine .expect_bind nofun ?_ (.pure _)
        exact .of_append (a := .paren e) [.symbol .rightParen] (by simp)
          (by simpa using Factor.Derives.paren he)
    | _ => exact hmismatch c
  | eof => exact hmismatch c

/-- The parser of factors fails only where the factor can be completed. -/
theorem factor_stops : Stops factor (Viable Factor.Derives) :=
  fix_stops (.of_append [.keyword .nil] (by simp) .nil) (fun _ => factorOf_sound)
    fun _ hr h => factorOf_stops h hr

/-- Where an expression fails, what was passed can be completed to an expression. -/
theorem expression_stops : Stops expression (Viable Expr.Derives) :=
  expressionOf_stops factor_stops factor_sound

/-! ## Labels and arms -/

/-- A label fails at its first token or after a sign; a number completes it after a minus sign, and
`nil` else. -/
theorem label_stops : Stops label (Viable Label.Derives) := by
  have hpure {V : List Token → Prop} {c : Cursor} (l : Label) :
      StopsAt (do advance; return l : Parser Label) V c := .of_done rfl
  have hmismatch {V : List Token → Prop} (hV : V []) :
      Stops (Parser.mismatch "constant" : Parser Label) V := .mismatch _ hV
  have hnone : Viable Label.Derives [] := .of_append (a := .nil) [.keyword .nil] (by simp) .nil
  have hplus : Viable Label.Derives [.symbol .plus] :=
    .of_append (a := .nil) [.keyword .nil] (by simp) (.plus .nil)
  have hminus : Viable Label.Derives [.symbol .minus] :=
    .of_append (a := .number (-1)) [.number 1] (by simp) (.negative 1 (by decide))
  refine .take?_bind Sign.ofToken?_eq_some_iff rfl (fun sign c => .token_bind ?_)
    fun c => .token_bind ?_
  · generalize ht : c.token = t
    cases sign with
    | minus =>
      cases t with
      | number k =>
        by_cases hk : k = Int64.minValue
        · subst hk
          exact .of_stop rfl (.overflow ht) hminus
        · exact .of_done (congrFun (if_neg hk) c)
      | ident | keyword | symbol | eof => exact hmismatch hminus c
    | plus =>
      cases t with
      | number | ident => exact hpure _
      | keyword k =>
        cases k with
        | true | false | nil => exact hpure _
        | _ => exact hmismatch hplus c
      | symbol | eof => exact hmismatch hplus c
  · generalize c.token = t
    cases t with
    | number | ident => exact hpure _
    | keyword k =>
      cases k with
      | true | false | nil => exact hpure _
      | _ => exact hmismatch hnone c
    | symbol | eof => exact hmismatch hnone c

section
variable {p : Parser Stmt}

/-- An empty statement ends any phrase that a statement may end. -/
theorem StatementRead.empty : StatementRead .empty [] :=
  ⟨.empty, trivial⟩

/-- An arm fails in its labels, before the colon or in its statement, and the empty statement
completes it. -/
theorem armOf_stops (h : Stops p (Viable StatementRead)) :
    Stops (armOf p) (Viable ArmRead) := by
  have hlabels := separated_stops .comma label_stops label_sound
  refine .bind (hlabels.within [.symbol .colon] (by simp) fun ls us vs hls => ?_)
    (separated_sound .comma label_sound) fun ls ts hls => .expect_bind nofun ?_ (.bind_pure _ ?_)
  · exact ⟨⟨ls, .empty⟩, by simpa using CaseArm.Derives.mk hls .empty, trivial⟩
  · exact .of_append (a := ⟨ls, .empty⟩) [.symbol .colon] (by simp)
      ⟨by simpa using CaseArm.Derives.mk hls .empty, trivial⟩
  · refine h.last fun s us vs hs => ⟨⟨ls, s⟩, ?_, hs.2⟩
    simpa using CaseArm.Derives.mk hls hs.1

/-- A round of `armsOf` fails after its semicolon, where the arm fails. -/
theorem armsOf_round_stops (h : Stops (armOf p) (Viable ArmRead)) :
    Stops
      (do
        if ← accept (.symbol .semicolon) then
          if (← token) = .keyword .end then return none else some <$> armOf p
        else return none)
      (fun us => ∃ vs, us = .symbol .semicolon :: vs ∧ Viable ArmRead vs) := by
  refine .accept_bind nofun (.token_bind fun t => ?_) (.pure _)
  split
  · exact .pure _
  · exact (h.mono fun vs hvs => ⟨vs, rfl, hvs⟩).map some

/-- Arms fail in one of them, and can be completed with it. -/
theorem armsOf_stops (h : Stops p (Viable StatementRead)) (hr : Reads p StatementRead) :
    Stops (armsOf p) (Viable (Separated .semicolon ArmRead)) := by
  have harm := armOf_stops h
  refine .token_bind fun t => ?_
  split
  · exact .pure _
  · refine .bind (harm.last fun a us vs ha => ⟨[a], .one ha⟩) (armOf_sound hr) fun a ts ha => ?_
    refine .bind_pure _ (many_stops (armsOf_round hr) (armsOf_round_stops harm) ?_)
    rintro as us _ has ⟨vs, rfl, hvs⟩
    exact .separated ha has hvs

/-! ## Statements

Each lemma is about what follows the first token of a statement. -/

/-- A statement that begins with a name fails in its arguments, access steps or value, and can be
completed with them. -/
theorem namedStatement_stops (name : String) :
    Stops (namedStatement name) fun ts => Viable StatementRead (.ident name :: ts) := by
  have hselectors := selectors_stops expression_stops expression_sound
  have hassign {ss us} (hss : Repeated Selector.Derives ss us) :
      StatementRead (.assign ⟨name, ss⟩ .nil)
        (.ident name :: (us ++ [.symbol .assign, .keyword .nil])) :=
    ⟨.assign hss .nil, trivial⟩
  refine .bind (hselectors.within [.symbol .assign, .keyword .nil] (by simp)
    fun ss us vs hss => ⟨_, by simpa using hassign hss⟩) (selectors_sound expression_sound)
    fun ss ts hss => .token_bind fun t => ?_
  split
  · refine .expect_bind nofun ?_ (.bind_pure _ (expression_stops.last fun value us vs hv => ?_))
    · exact .of_append [.symbol .assign, .keyword .nil] (by simp) (by simpa using hassign hss)
    · exact ⟨.assign ⟨name, ss⟩ value, by simpa using Stmt.Derives.assign hss hv, trivial⟩
  · next hno =>
    have hnil : ss = [] := by
      cases ss with
      | nil => rfl
      | cons s ss => simp at hno
    subst hnil
    cases hss
    refine .token_bind fun t => ?_
    split
    · refine .bind_pure _ ((argumentsOf_stops expression_stops expression_sound).last
        fun args us vs hargs => ?_)
      exact ⟨.call name args, .callWith hargs, trivial⟩
    · exact .pure _

/-- A compound statement fails in a statement or before its `end`, which completes it. -/
theorem compoundOf_stops (h : Stops p (Viable StatementRead)) (hr : Reads p StatementRead) :
    Stops (compoundOf p) fun ts => Viable StatementRead (.keyword .begin :: ts) := by
  have hend {body us} (hbody : Separated .semicolon StatementRead body us) :
      StatementRead (.compound body) (.keyword .begin :: (us ++ [.keyword .end])) := by
    obtain ⟨hd, hnear⟩ := Separated.and_iff.1 hbody
    exact ⟨.compound hd, Stmt.nearestElseList_iff.2 hnear⟩
  refine .bind ((separated_stops .semicolon h hr).within [.keyword .end] (by simp)
    fun body us vs hbody => ⟨_, by simpa using hend hbody⟩) (separated_sound .semicolon hr)
    fun body ts hbody => .expect_bind nofun ?_ (.pure _)
  exact .of_append [.keyword .end] (by simp) (by simpa using hend hbody)

/-- An `if` fails in its condition, before `then` or in a branch; no completion adds an `else`, so
each stays at the nearest `if`. -/
theorem conditionalOf_stops (h : Stops p (Viable StatementRead)) (hr : Reads p StatementRead)
    (ho : LeavesNoElse p) :
    Stops (conditionalOf p) fun ts => Viable StatementRead (.keyword .if :: ts) := by
  have hthen {cond us} (hcond : Expr.Derives cond us) :
      StatementRead (.ifThen cond .empty) (.keyword .if :: (us ++ [.keyword .then])) :=
    ⟨.ifThen hcond .empty, trivial⟩
  refine .bind (expression_stops.within [.keyword .then] (by simp)
    fun cond us vs hcond => ⟨_, by simpa using hthen hcond⟩) expression_sound
    fun cond ts hcond => .expect_bind nofun ?_ fun m => ?_
  · exact .of_append [.keyword .then] (by simp) (by simpa using hthen hcond)
  · refine StopsAt.bind (h.last (fun body us vs hbody => ?_) m) hr fun body k us hb hbody => ?_
    · exact ⟨.ifThen cond body, by simpa using Stmt.Derives.ifThen hcond hbody.1, hbody.2⟩
    · refine .accept_bind nofun (fun helse => ?_) (.of_done rfl)
      -- the branch is closed, since an `else` stands after it
      have hclosed : body.endsOpen = false := Bool.eq_false_iff.2 fun hopen => ho hb hopen helse
      refine Stops.bind_pure _ (h.last fun other vs ws hother => ?_) _
      refine ⟨.ifThenElse cond body other, ?_, hclosed, hbody.2, hother.2⟩
      simpa using Stmt.Derives.ifThenElse hcond hbody.1 hother.1

/-- A case statement fails in its subject, before `of`, in an arm or before its `end`. -/
theorem caseOf_stops (h : Stops p (Viable StatementRead)) (hr : Reads p StatementRead) :
    Stops (caseOf p) fun ts => Viable StatementRead (.keyword .case :: ts) := by
  have hnone {subject us} (hsub : Expr.Derives subject us) :
      StatementRead (.caseOf subject [])
        (.keyword .case :: (us ++ [.keyword .of, .keyword .end])) :=
    ⟨.caseOfNone hsub, trivial⟩
  have harms {subject arms us vs last} (hsub : Expr.Derives subject us)
      (ha : Separated .semicolon ArmRead arms vs)
      (hlast : last = [] ∨ last = [.symbol .semicolon]) :
      StatementRead (.caseOf subject arms)
        (.keyword .case :: (us ++ .keyword .of :: (vs ++ (last ++ [.keyword .end])))) := by
    obtain ⟨hd, hnear⟩ := Separated.and_iff.1 ha
    exact ⟨.caseOf hsub hd hlast, CaseArm.nearestElseList_iff.2 hnear⟩
  refine .bind (expression_stops.within [.keyword .of, .keyword .end] (by simp)
    fun subject us vs hsub => ⟨_, by simpa using hnone hsub⟩) expression_sound
    fun subject ts hsub => .expect_bind nofun ?_ (.bind ?_ (armsOf_sound hr) fun arms us ha =>
      .expect_bind nofun ?_ (.pure _))
  · exact .of_append [.keyword .of, .keyword .end] (by simp) (by simpa using hnone hsub)
  · refine (armsOf_stops h hr).within [.keyword .end] (by simp) fun arms us vs ha => ?_
    exact ⟨_, by simpa using harms hsub ha (.inl rfl)⟩
  · rcases ha with ⟨rfl, rfl⟩ | ⟨us, last, rfl, ha, hlast⟩
    · exact .of_append [.keyword .end] (by simp) (by simpa using hnone hsub)
    · exact .of_append [.keyword .end] (by simp) (by simpa using harms hsub ha hlast)

/-- A `while` loop fails in its condition, before `do` or in its body. -/
theorem whileOf_stops (h : Stops p (Viable StatementRead)) :
    Stops (whileOf p) fun ts => Viable StatementRead (.keyword .while :: ts) := by
  have hdo {cond us} (hcond : Expr.Derives cond us) :
      StatementRead (.whileDo cond .empty) (.keyword .while :: (us ++ [.keyword .do])) :=
    ⟨.whileDo hcond .empty, trivial⟩
  refine .bind (expression_stops.within [.keyword .do] (by simp)
    fun cond us vs hcond => ⟨_, by simpa using hdo hcond⟩) expression_sound
    fun cond ts hcond => .expect_bind nofun ?_ (.bind_pure _ (h.last fun body us vs hbody => ?_))
  · exact .of_append [.keyword .do] (by simp) (by simpa using hdo hcond)
  · exact ⟨.whileDo cond body, by simpa using Stmt.Derives.whileDo hcond hbody.1, hbody.2⟩

/-- A `repeat` loop fails in its body, before `until` or in its condition. -/
theorem repeatOf_stops (h : Stops p (Viable StatementRead)) (hr : Reads p StatementRead) :
    Stops (repeatOf p) fun ts => Viable StatementRead (.keyword .repeat :: ts) := by
  have huntil {body cond us vs} (hbody : Separated .semicolon StatementRead body us)
      (hcond : Expr.Derives cond vs) :
      StatementRead (.repeatUntil body cond)
        (.keyword .repeat :: (us ++ .keyword .until :: vs)) := by
    obtain ⟨hd, hnear⟩ := Separated.and_iff.1 hbody
    exact ⟨.repeatUntil hd hcond, Stmt.nearestElseList_iff.2 hnear⟩
  refine .bind ((separated_stops .semicolon h hr).within [.keyword .until, .keyword .nil] (by simp)
    fun body us vs hbody => ⟨_, by simpa using huntil hbody .nil⟩) (separated_sound .semicolon hr)
    fun body ts hbody => .expect_bind nofun ?_ (.bind_pure _ (expression_stops.last
      fun cond us vs hcond => ⟨_, by simpa using huntil hbody hcond⟩))
  exact .of_append [.keyword .until, .keyword .nil] (by simp) (by simpa using huntil hbody .nil)

/-- A `for` loop fails in its head, before `do` or in its body. -/
theorem forOf_stops (h : Stops p (Viable StatementRead)) :
    Stops (forOf p) fun ts => Viable StatementRead (.keyword .for :: ts) := by
  have hfor {x start finish body us vs ws} (direction : Direction) (hs : Expr.Derives start us)
      (hf : Expr.Derives finish vs) (hb : StatementRead body ws) :
      StatementRead (.forDo x start direction finish body)
        (.keyword .for :: .ident x :: .symbol .assign ::
          (us ++ direction.token :: (vs ++ .keyword .do :: ws))) :=
    ⟨.forDo hs hf hb.1, hb.2⟩
  have hbegin (x : String) : StatementRead (.forDo x .nil .to .nil .empty)
      [.keyword .for, .ident x, .symbol .assign, .keyword .nil, .keyword .to, .keyword .nil,
        .keyword .do] := hfor .to .nil .nil .empty
  refine .ident_bind (.of_append _ (by simp) (hbegin "")) fun x => ?_
  refine .expect_bind nofun (.of_append _ (by simp) (hbegin x)) ?_
  refine .bind (expression_stops.within [.keyword .to, .keyword .nil, .keyword .do] (by simp)
    fun start us vs hs => ?_) expression_sound fun start us hs => ?_
  · exact ⟨_, by simpa [Direction.token] using hfor .to hs .nil .empty⟩
  refine .take?_bind Direction.ofToken?_eq_some_iff rfl (fun direction => ?_) (.mismatch _ ?_)
  · refine .bind (expression_stops.within [.keyword .do] (by simp) fun finish vs ws hf => ?_)
      expression_sound fun finish vs hf => .expect_bind nofun ?_ (.bind_pure _ (h.last ?_))
    · exact ⟨_, by simpa using hfor direction hs hf .empty⟩
    · exact .of_append [.keyword .do] (by simp) (by simpa using hfor direction hs hf .empty)
    · exact fun body ws xs hb => ⟨_, by simpa using hfor direction hs hf hb⟩
  · exact .of_append [.keyword .to, .keyword .nil, .keyword .do] (by simp)
      (by simpa [Direction.token] using hfor .to hs .nil .empty)

/-- `new` and `dispose` fail before a parenthesis or before the name. -/
theorem memoryOf_stops (kind : MemoryKind) :
    Stops (memoryOf kind) fun ts => Viable StatementRead (kind.token :: ts) := by
  have hmemory (name : String) : StatementRead (.memory kind name)
      [kind.token, .symbol .leftParen, .ident name, .symbol .rightParen] :=
    ⟨.memory kind name, trivial⟩
  refine .expect_bind nofun (.of_append _ (by simp) (hmemory "")) ?_
  refine .ident_bind (.of_append _ (by simp) (hmemory "")) fun name => ?_
  exact .expect_bind nofun (.of_append _ (by simp) (hmemory name)) (.pure _)

/-- A statement fails within the form that its first token begins, and can be completed with it. -/
theorem statementOf_stops (h : Stops p (Viable StatementRead)) (hr : Reads p StatementRead)
    (ho : LeavesNoElse p) : Stops (statementOf p) (Viable StatementRead) := by
  intro c
  refine .token_bind ?_
  generalize ht : c.token = t
  have step {q : Parser Stmt} (hne : t ≠ .eof)
      (hq : Stops q fun ts => Viable StatementRead (t :: ts)) :
      StopsAt (advance >>= fun _ => q) (Viable StatementRead) c :=
    .advance_bind ht hne (hq _)
  cases t with
  | ident name => exact step nofun (namedStatement_stops name)
  | keyword k =>
    cases k with
    | begin => exact step nofun (compoundOf_stops h hr)
    | «if» => exact step nofun (conditionalOf_stops h hr ho)
    | case => exact step nofun (caseOf_stops h hr)
    | «while» => exact step nofun (whileOf_stops h)
    | «repeat» => exact step nofun (repeatOf_stops h hr)
    | «for» => exact step nofun (forOf_stops h)
    | new => exact step nofun (memoryOf_stops .new)
    | dispose => exact step nofun (memoryOf_stops .dispose)
    | _ => exact .of_done rfl
  | number | symbol | eof => exact .of_done rfl

end

/-- Where a statement fails, what was passed can be completed to a statement. -/
theorem statement_stops : Stops statement (Viable StatementRead) :=
  fix_stops (.of_form .empty) (fun _ hp _ _ _ hs => statementOf_ensures hp hs)
    fun _ hp h => statementOf_stops h (fun _ _ _ h => (hp h).1) fun _ _ _ h => (hp h).2

/-! ## Whole inputs -/

/-- The program is derived from the tokens, and each `else` in it belongs to the nearest `if`. -/
def ProgramRead (p : Program) (ts : List Token) : Prop :=
  p.Derives ts ∧ p.NearestElse

/-- Where a program fails, what was passed can be completed to a program. -/
theorem program_stops : Stops program (Viable ProgramRead) := by
  have hplain {body us} (hbody : Separated .semicolon StatementRead body us) :
      ProgramRead ⟨body⟩ us ∧ ProgramRead ⟨body⟩ (us ++ [.symbol .dot]) := by
    obtain ⟨hd, hnear⟩ := Separated.and_iff.1 hbody
    have hnear := Stmt.nearestElseList_iff.2 hnear
    exact ⟨⟨.plain hd, hnear⟩, .dotted hd, hnear⟩
  refine .bind ((separated_stops .semicolon statement_stops statement_sound).last
    fun body us vs hbody => ⟨⟨body⟩, (hplain hbody).1⟩)
    (separated_sound .semicolon statement_sound) fun body ts hbody => ?_
  refine .accept_bind nofun (.token_bind fun t => ?_) (.token_bind fun t => ?_)
  · split
    · exact .pure _
    · exact .unexpected (.of_form (hplain hbody).2)
  · split
    · exact .pure _
    · exact .unexpected (.of_form (by simpa using (hplain hbody).1))

/-- Where a whole expression fails, what was passed can be completed to an expression. -/
theorem wholeExpression_stops : Stops wholeExpression (Viable Expr.Derives) := by
  refine .bind expression_stops expression_sound fun e ts he => .token_bind fun t => ?_
  split
  · exact .pure _
  · exact .unexpected (.of_form (by simpa using he))

end Parser

end MiniPascal
