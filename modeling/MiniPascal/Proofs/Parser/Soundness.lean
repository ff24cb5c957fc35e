import MiniPascal.Proofs.Grammar
import MiniPascal.Proofs.Parser.Passes
import MiniPascal.Proofs.Parser.Recursion

/-!
# The parsers read what the grammar derives

Whatever tree a parser returns, the tokens it has passed are derived with that tree. `Reads` states
this; each parser made from a parser of factors or statements keeps it, so the recursive ones have
it (`expression_sound`, `statement_sound`).

For statements there is a second part: every `else` belongs to the nearest `if`. It rests on
`LeavesNoElse`: no `else` stands after a statement that ends in an `if` without one.
-/

namespace MiniPascal

/-! ## Lists of derived items -/

section
variable {α β : Type} {sep : Symbol} {R : α → List Token → Prop}

/-- An item, and then the symbol and an item again and again, are a list with separators. -/
theorem Separated.of_repeated {a : α} {as : List α} {ts us : List Token} (h : R a ts)
    (hs : Repeated (fun a us => ∃ vs, us = .symbol sep :: vs ∧ R a vs) as us) :
    Separated sep R (a :: as) (ts ++ us) := by
  induction hs generalizing a ts with
  | nil =>
    rw [List.append_nil]
    exact .one h
  | cons hb _ ih =>
    obtain ⟨vs, rfl, hb⟩ := hb
    exact .more h (ih hb)

/-- Items with the symbol between them, and after the symbol further such items. -/
theorem Separated.append {as bs : List α} {ts us : List Token} (h : Separated sep R as ts)
    (h' : Separated sep R bs us) : Separated sep R (as ++ bs) (ts ++ .symbol sep :: us) := by
  induction h with
  | one ha => exact .more ha h'
  | more ha _ ih =>
    rw [List.append_assoc]
    exact .more ha ih

/-- Operators with operands after them, again and again, are operands. -/
theorem Operands.of_repeated {token : β → Token} {rest : List (β × α)} {ts : List Token}
    (h : Repeated (fun x us => ∃ vs, us = token x.1 :: vs ∧ R x.2 vs) rest ts) :
    Operands token R rest ts := by
  induction h with
  | nil => exact .nil
  | cons hx _ ih =>
    obtain ⟨vs, rfl, hx⟩ := hx
    exact .cons hx ih

/-- A condition on every item can be taken out of a list. -/
theorem Separated.and_iff {P : α → Prop} {as : List α} {ts : List Token} :
    Separated sep (fun a us => R a us ∧ P a) as ts ↔ Separated sep R as ts ∧ ∀ a ∈ as, P a := by
  constructor
  · intro h
    induction h with
    | one ha => exact ⟨.one ha.1, by simpa using ha.2⟩
    | more ha _ ih => exact ⟨.more ha.1 ih.1, by simpa using ⟨ha.2, ih.2⟩⟩
  · rintro ⟨h, hP⟩
    induction h with
    | one ha => exact .one ⟨ha, hP _ List.mem_cons_self⟩
    | more ha _ ih =>
      exact .more ⟨ha, hP _ List.mem_cons_self⟩ (ih fun b hb => hP b (List.mem_cons_of_mem _ hb))

end

/-- Indices with commas between them are an array access. -/
theorem Separated.ofIndices {sep : Symbol} {R : Expr → List Token → Prop} {indices : List Expr}
    {ts : List Token} (h : Separated sep R indices ts) :
    Selector.ofIndices indices = .ok (.index indices) := by
  cases h <;> rfl

/-- An access step has tokens, so reading one makes progress. -/
theorem Selector.Derives.ne_nil {s : Selector} {ts : List Token} (h : s.Derives ts) : ts ≠ [] := by
  cases h <;> exact List.cons_ne_nil _ _

/-- A name and the access steps after it, if there are any, are a factor. -/
theorem Factor.Derives.of_selectors {ss : List Selector} {ts : List Token} (name : String)
    (h : Repeated Selector.Derives ss ts) :
    (if ss.isEmpty then .ident name else .designator ⟨name, ss⟩ : Factor).Derives
      (.ident name :: ts) := by
  cases h with
  | nil => exact .ident name
  | cons hs hss => exact .designator (.cons hs hss)

/-- Each statement of a list is looked at by itself. -/
theorem Stmt.nearestElseList_iff {body : List Stmt} :
    Stmt.NearestElseList body ↔ ∀ s ∈ body, s.NearestElse := by
  induction body with
  | nil => simp [Stmt.NearestElseList]
  | cons s rest ih => simp [Stmt.NearestElseList, ih]

/-- Each arm is looked at by itself. -/
theorem CaseArm.nearestElseList_iff {arms : List CaseArm} :
    CaseArm.NearestElseList arms ↔ ∀ a ∈ arms, a.NearestElse := by
  induction arms with
  | nil => simp [CaseArm.NearestElseList]
  | cons a rest ih => simp [CaseArm.NearestElseList, ih]

namespace Parser

section
variable {α β : Type} {R : α → List Token → Prop}

/-- What `p` passes on the way to a value is of the form `R`. -/
def Reads (p : Parser α) (R : α → List Token → Prop) : Prop :=
  ∀ ⦃c a d⦄, p c = .done a d → ∃ ts, c.Passes ts d ∧ R a ts

/-- What its body keeps holds of a parser made from itself: where the recursion is cut off there is
no value. -/
theorem fix_ensures {body : Parser α → Parser α} {Q : Cursor → α → Cursor → Prop}
    (h : ∀ p, (∀ ⦃c a d⦄, p c = .done a d → Q c a d) →
      ∀ ⦃c a d⦄, body p c = .done a d → Q c a d) ⦃c : Cursor⦄ ⦃a : α⦄ ⦃d : Cursor⦄ :
    fix body c = .done a d → Q c a d := by
  refine Run.fix_induct (P := fun c o => ∀ {a d}, o = .done a d → Q c a d)
    (fun c f hf hstuck => ?_) c
  refine @h f (fun m a d hm => ?_) c
  by_cases hlt : m.remaining < c.remaining
  · exact hf m hlt hm
  · rw [hstuck m hlt] at hm
    exact absurd hm unexpected_ne_done

/-! ## Repetitions -/

/-- A round of a repetition passes an item of the form `R`, or it ends the repetition and passes
something of the form `E`. -/
def ReadsRound (next : Parser (Option α)) (R : α → List Token → Prop) (E : List Token → Prop) :
    Prop :=
  ∀ ⦃c o d⦄, next c = .done o d →
    (∃ a ts, o = some a ∧ ts ≠ [] ∧ c.Passes ts d ∧ R a ts) ∨
      o = none ∧ ∃ ts, c.Passes ts d ∧ E ts

/-- A repetition reads items, and what its last round passes. -/
theorem many_sound {next : Parser (Option α)} {E : List Token → Prop} (hnext : ReadsRound next R E)
    {c d : Cursor} {as : List α} (h : many next c = .done as d) :
    ∃ ts us, c.Passes (ts ++ us) d ∧ Repeated R as ts ∧ E us := by
  -- on the number of lexemes left, since every item uses some up
  induction hk : c.remaining using Nat.strongRecOn generalizing c as with
  | ind k ih =>
    subst hk
    rw [many, Run.many_eq] at h
    cases hn : next c with
    | stop e m =>
      rw [hn] at h
      cases h
    | done o m =>
      rw [hn] at h
      rcases hnext hn with ⟨a, ts, rfl, hne, hp, ha⟩ | ⟨rfl, us, hp, hu⟩
      · have hlt := hp.remaining_lt hne
        simp only [if_pos hlt] at h
        obtain ⟨as', hm, rfl⟩ := Outcome.map_eq_done_iff.1 h
        obtain ⟨us, vs, hq, hr, hv⟩ := ih _ hlt hm rfl
        refine ⟨ts ++ us, vs, ?_, .cons ha hr, hv⟩
        rw [List.append_assoc]
        exact hp.trans hq
      · cases h
        exact ⟨[], us, hp, .nil, hu⟩

/-- A repetition whose last round passes nothing reads items only. -/
theorem many_sound_nil {next : Parser (Option α)} (hnext : ReadsRound next R (· = [])) :
    Reads (many next) (Repeated R) := by
  intro c as d h
  obtain ⟨ts, _, hp, hr, rfl⟩ := many_sound hnext h
  rw [List.append_nil] at hp
  exact ⟨ts, hp, hr⟩

/-- A round of `separated` passes the symbol and an item. -/
theorem separated_round {p : Parser α} (sep : Symbol) (h : Reads p R) :
    ReadsRound (do if ← accept (.symbol sep) then some <$> p else return none)
      (fun a us => ∃ vs, us = .symbol sep :: vs ∧ R a vs) (· = []) := by
  intro c o d hround
  obtain ⟨_, _, ha, hrest⟩ := Run.bind_eq_done_iff.1 hround
  rcases accept_eq_done_iff.1 ha with ⟨ht, rfl, rfl⟩ | ⟨-, rfl, rfl⟩
  · obtain ⟨b, hb, rfl⟩ := map_eq_done_iff.1 hrest
    obtain ⟨us, hq, hr⟩ := h hb
    exact .inl ⟨b, _, rfl, List.cons_ne_nil _ _, .cons ht nofun hq, us, rfl, hr⟩
  · obtain ⟨rfl, rfl⟩ := pure_eq_done_iff.1 hrest
    exact .inr ⟨rfl, [], rfl, rfl⟩

/-- A list with separators reads items of the form of its items. -/
theorem separated_sound {p : Parser α} (sep : Symbol) (h : Reads p R) :
    Reads (separated sep p) (Separated sep R) := by
  intro c as d hs
  simp only [separated, Run.bind_eq_done_iff, pure_eq_done_iff] at hs
  obtain ⟨a, m, ha, as, m', hs, rfl, rfl⟩ := hs
  obtain ⟨ts, hp, hr⟩ := h ha
  obtain ⟨us, hq, hrep⟩ := many_sound_nil (separated_round sep h) hs
  exact ⟨ts ++ us, hp.trans hq, .of_repeated hr hrep⟩

/-- A round of `operands` passes an operator and an operand. -/
theorem operands_round {op? : Token → Option β} {token : β → Token} {p : Parser α}
    (hop : ∀ {t op}, op? t = some op ↔ t = token op) (heof : op? .eof = none) (h : Reads p R) :
    ReadsRound
      (do
        match ← take? op? with
        | some op => return some (op, ← p)
        | none => return none)
      (fun x us => ∃ vs, us = token x.1 :: vs ∧ R x.2 vs) (· = []) := by
  intro c o d hround
  obtain ⟨_, _, ha, hrest⟩ := Run.bind_eq_done_iff.1 hround
  rcases take?_eq_done_iff.1 ha with ⟨op, ht, rfl, rfl⟩ | ⟨-, rfl, rfl⟩
  · obtain ⟨b, _, hb, hx⟩ := Run.bind_eq_done_iff.1 hrest
    obtain ⟨rfl, rfl⟩ := pure_eq_done_iff.1 hx
    obtain ⟨us, hq, hr⟩ := h hb
    have hne : token op ≠ .eof := by
      intro he
      rw [hop.2 he.symm] at heof
      cases heof
    exact .inl ⟨(op, b), _, rfl, List.cons_ne_nil _ _, .cons (hop.1 ht) hne hq, us, rfl, hr⟩
  · obtain ⟨rfl, rfl⟩ := pure_eq_done_iff.1 hrest
    exact .inr ⟨rfl, [], rfl, rfl⟩

/-- Operands read what is of the form of an operand, after operators. -/
theorem operands_sound {op? : Token → Option β} {token : β → Token} {p : Parser α}
    (hop : ∀ {t op}, op? t = some op ↔ t = token op) (heof : op? .eof = none)
    (h : Reads p R) : Reads (operands op? p) (Operands token R) := by
  intro c rest d hs
  obtain ⟨us, hq, hrep⟩ := many_sound_nil (operands_round hop heof h) hs
  exact ⟨us, hq, .of_repeated hrep⟩

end

/-! ## Expressions -/

section
variable {p : Parser Factor}

/-- Terms are derived if factors are. -/
theorem termOf_sound (h : Reads p Factor.Derives) : Reads (termOf p) Term.Derives := by
  intro c t d ht
  simp only [termOf, Run.bind_eq_done_iff, pure_eq_done_iff] at ht
  obtain ⟨first, m, hf, rest, _, hr, rfl, rfl⟩ := ht
  obtain ⟨ts, hp, hfirst⟩ := h hf
  obtain ⟨us, hq, hrest⟩ := operands_sound MulOp.ofToken?_eq_some_iff rfl h hr
  exact ⟨ts ++ us, hp.trans hq, .mk hfirst hrest⟩

/-- Simple expressions are derived if factors are. -/
theorem simpleOf_sound (h : Reads p Factor.Derives) : Reads (simpleOf p) SimpleExpr.Derives := by
  intro c e d he
  simp only [simpleOf, Run.bind_eq_done_iff, take?_eq_done_iff, pure_eq_done_iff] at he
  obtain ⟨sign, m₀, hs, first, m, hf, rest, _, hr, rfl, rfl⟩ := he
  obtain ⟨ts, hp, hfirst⟩ := termOf_sound h hf
  obtain ⟨us, hq, hrest⟩ := operands_sound AddOp.ofToken?_eq_some_iff rfl (termOf_sound h) hr
  rcases hs with ⟨s, hs, rfl, rfl⟩ | ⟨-, rfl, rfl⟩
  · have ht := Sign.ofToken?_eq_some_iff.1 hs
    refine ⟨s.token :: (ts ++ us), .cons ht ?_ (hp.trans hq), .signed hfirst hrest⟩
    cases s <;> nofun
  · exact ⟨ts ++ us, hp.trans hq, .unsigned hfirst hrest⟩

/-- Expressions are derived if factors are. -/
theorem expressionOf_sound (h : Reads p Factor.Derives) : Reads (expressionOf p) Expr.Derives := by
  intro c e d he
  simp only [expressionOf, Run.bind_eq_done_iff, take?_eq_done_iff] at he
  obtain ⟨left, m, hl, _, _, ⟨op, ho, rfl, rfl⟩ | ⟨-, rfl, rfl⟩, he⟩ := he
  · simp only [Run.bind_eq_done_iff, pure_eq_done_iff] at he
    obtain ⟨right, _, hr, rfl, rfl⟩ := he
    obtain ⟨ts, hp, hleft⟩ := simpleOf_sound h hl
    obtain ⟨us, hq, hright⟩ := simpleOf_sound h hr
    refine ⟨ts ++ op.token :: us, hp.trans (.cons (RelOp.ofToken?_eq_some_iff.1 ho) ?_ hq),
      .comparison hleft hright⟩
    cases op <;> nofun
  · obtain ⟨rfl, rfl⟩ := pure_eq_done_iff.1 he
    obtain ⟨ts, hp, hleft⟩ := simpleOf_sound h hl
    exact ⟨ts, hp, .simple hleft⟩

end

section
variable {p : Parser Expr}

/-- An access step is passed, or nothing is. -/
theorem selectorOf?_sound (h : Reads p Expr.Derives) :
    ReadsRound (selectorOf? p) Selector.Derives (· = []) := by
  have hnone {c d : Cursor} {o : Option Selector}
      (hs : (pure none : Parser (Option Selector)) c = .done o d) :
      (∃ s ts, o = some s ∧ ts ≠ [] ∧ c.Passes ts d ∧ s.Derives ts) ∨
        o = none ∧ ∃ ts, c.Passes ts d ∧ ts = [] := by
    obtain ⟨rfl, rfl⟩ := pure_eq_done_iff.1 hs
    exact .inr ⟨rfl, [], rfl, rfl⟩
  intro c o d hs
  simp only [selectorOf?, Run.bind_eq_done_iff, token_eq_done_iff] at hs
  obtain ⟨t, _, ⟨ht, rfl⟩, hs⟩ := hs
  split at hs
  · simp only [Run.bind_eq_done_iff, nextToken_eq_done_iff] at hs
    obtain ⟨u, _, ⟨hu, rfl⟩, hs⟩ := hs
    split at hs
    · next name =>
      simp only [Run.bind_eq_done_iff, advance_eq_done_iff, pure_eq_done_iff] at hs
      obtain ⟨_, _, rfl, _, _, rfl, rfl, rfl⟩ := hs
      exact .inl ⟨.field name, _, rfl, List.cons_ne_nil _ _, .cons ht nofun (.one hu nofun),
        .field name⟩
    · exact hnone hs
  · simp only [Run.bind_eq_done_iff, advance_eq_done_iff, expect_eq_done_iff,
      ofExcept_eq_done_iff, pure_eq_done_iff] at hs
    obtain ⟨_, _, rfl, indices, m, hi, _, _, ⟨hr, rfl⟩, access, _, ⟨ha, rfl⟩, rfl, rfl⟩ := hs
    obtain ⟨ts, hp, hd⟩ := separated_sound .comma h hi
    cases ha.symm.trans hd.ofIndices
    exact .inl ⟨.index indices, _, rfl, List.cons_ne_nil _ _,
      .cons ht nofun (hp.trans (.one hr nofun)), .index hd⟩
  · obtain ⟨rfl, rfl⟩ := advance_pure_eq_done_iff.1 hs
    exact .inl ⟨.deref, _, rfl, List.cons_ne_nil _ _, .one ht nofun, .deref⟩
  · exact hnone hs

/-- Access steps are derived if the expressions in them are. -/
theorem selectors_sound (h : Reads p Expr.Derives) :
    Reads (many (selectorOf? p)) (Repeated Selector.Derives) :=
  many_sound_nil (selectorOf?_sound h)

/-- Arguments are derived if expressions are. -/
theorem argumentsOf_sound (h : Reads p Expr.Derives) :
    Reads (argumentsOf p) Expr.DerivesArguments := by
  intro c args d ha
  simp only [argumentsOf, Run.bind_eq_done_iff, expect_eq_done_iff, accept_eq_done_iff] at ha
  obtain ⟨_, _, ⟨hl, rfl⟩, _, _, ⟨hr, rfl, rfl⟩ | ⟨-, rfl, rfl⟩, ha⟩ := ha
  · obtain ⟨rfl, rfl⟩ := pure_eq_done_iff.1 ha
    exact ⟨_, .cons hl nofun (.one hr nofun), .none⟩
  · simp only [Bool.false_eq_true, if_false, Run.bind_eq_done_iff, expect_eq_done_iff,
      pure_eq_done_iff] at ha
    obtain ⟨_, m, ha, _, _, ⟨hr, rfl⟩, rfl, rfl⟩ := ha
    obtain ⟨ts, hp, hd⟩ := separated_sound .comma h ha
    exact ⟨_, .cons hl nofun (hp.trans (.one hr nofun)), .some hd⟩

/-- What follows a name is derived with it, if expressions are. -/
theorem namedOf_sound (h : Reads p Expr.Derives) (name : String) :
    Reads (namedOf p name) fun f ts => f.Derives (.ident name :: ts) := by
  intro c f d hf
  simp only [namedOf, Run.bind_eq_done_iff, token_eq_done_iff] at hf
  obtain ⟨t, _, ⟨-, rfl⟩, hf⟩ := hf
  split at hf
  · simp only [Run.bind_eq_done_iff, pure_eq_done_iff] at hf
    obtain ⟨args, _, ha, rfl, rfl⟩ := hf
    obtain ⟨ts, hp, hd⟩ := argumentsOf_sound h ha
    exact ⟨ts, hp, .call hd⟩
  · simp only [Run.bind_eq_done_iff, pure_eq_done_iff] at hf
    obtain ⟨ss, _, hs, rfl, rfl⟩ := hf
    obtain ⟨ts, hp, hd⟩ := selectors_sound h hs
    exact ⟨ts, hp, .of_selectors name hd⟩

end

/-- Factors are derived if the factors in them are. -/
theorem factorOf_sound {p : Parser Factor} (h : Reads p Factor.Derives) :
    Reads (factorOf p) Factor.Derives := by
  intro c f d hf
  rw [factorOf_apply] at hf
  generalize ht : c.token = t at hf
  cases t with
  | ident name =>
    obtain ⟨ts, hp, hd⟩ := namedOf_sound (expressionOf_sound h) name hf
    exact ⟨_, .cons ht nofun hp, hd⟩
  | number k =>
    cases hf
    exact ⟨_, .one ht nofun, .number k⟩
  | keyword k =>
    cases k with
    | true =>
      cases hf
      exact ⟨_, .one ht nofun, .true⟩
    | false =>
      cases hf
      exact ⟨_, .one ht nofun, .false⟩
    | nil =>
      cases hf
      exact ⟨_, .one ht nofun, .nil⟩
    | not =>
      obtain ⟨g, hg, rfl⟩ := map_eq_done_iff.1 hf
      obtain ⟨ts, hp, hd⟩ := h hg
      exact ⟨_, .cons ht nofun hp, .not hd⟩
    | _ => exact absurd hf mismatch_ne_done
  | symbol s =>
    cases s with
    | leftParen =>
      simp only [Run.bind_eq_done_iff, expect_eq_done_iff, pure_eq_done_iff] at hf
      obtain ⟨e, m, he, _, _, ⟨hr, rfl⟩, rfl, rfl⟩ := hf
      obtain ⟨ts, hp, hd⟩ := expressionOf_sound h he
      exact ⟨_, .cons ht nofun (hp.trans (.one hr nofun)), .paren hd⟩
    | _ => exact absurd hf mismatch_ne_done
  | eof => exact absurd hf mismatch_ne_done

/-- The parser of factors reads what the grammar derives. -/
theorem factor_sound : Reads factor Factor.Derives :=
  fix_ensures fun _ => factorOf_sound

/-- What is passed for an expression, the grammar derives with its tree. -/
theorem expression_sound : Reads expression Expr.Derives :=
  expressionOf_sound factor_sound

/-! ## Labels and arms -/

/-- A label of one token. -/
theorem label_one {c m d : Cursor} {o : Option Sign} {t : Token} {l l' : Label}
    (ho : take? Sign.ofToken? c = .done o m) (hsign : o ≠ some .minus) (ht : m.token = t)
    (hne : t ≠ .eof) (hl : l.Derives [t])
    (h : (do advance; return l : Parser Label) m = .done l' d) :
    ∃ ts, c.Passes ts d ∧ l'.Derives ts := by
  obtain ⟨rfl, rfl⟩ := advance_pure_eq_done_iff.1 h
  rcases take?_eq_done_iff.1 ho with ⟨s, hs, rfl, rfl⟩ | ⟨-, -, rfl⟩
  · cases s with
    | minus => exact absurd rfl hsign
    | plus => exact ⟨_, .cons (Sign.ofToken?_eq_some_iff.1 hs) nofun (.one ht hne), .plus hl⟩
  · exact ⟨_, .one ht hne, hl⟩

/-- The parser of labels reads what the grammar derives: a plus sign may stand before any label of
one token, a minus sign only before a number. -/
theorem label_sound : Reads label Label.Derives := by
  intro c l d h
  obtain ⟨o, m, ho, h⟩ := Run.bind_eq_done_iff.1 h
  obtain ⟨t, _, htok, h⟩ := Run.bind_eq_done_iff.1 h
  obtain ⟨ht, rfl⟩ := token_eq_done_iff.1 htok
  rcases o with _ | _ | _
  case some.minus =>
    cases t with
    | number k =>
      change (if k = Int64.minValue then Run.fail .labelOverflow
        else do advance; return .number (-k) : Parser Label) m = _ at h
      by_cases hk : k = Int64.minValue
      · rw [if_pos hk] at h
        cases h
      · rw [if_neg hk] at h
        obtain ⟨rfl, rfl⟩ := advance_pure_eq_done_iff.1 h
        rcases take?_eq_done_iff.1 ho with ⟨s, hs, hx, rfl⟩ | ⟨-, hx, -⟩
        · cases hx
          exact ⟨_, .cons (Sign.ofToken?_eq_some_iff.1 hs) nofun (.one ht nofun), .negative k hk⟩
        · cases hx
    | ident | keyword | symbol | eof => exact absurd h mismatch_ne_done
  -- with a plus sign or with none, one more token is the label
  all_goals
    cases t with
    | number k => exact label_one ho nofun ht nofun (.number k) h
    | ident name => exact label_one ho nofun ht nofun (.ident name) h
    | keyword k =>
      cases k with
      | true => exact label_one ho nofun ht nofun .true h
      | false => exact label_one ho nofun ht nofun .false h
      | nil => exact label_one ho nofun ht nofun .nil h
      | _ => exact absurd h mismatch_ne_done
    | symbol | eof => exact absurd h mismatch_ne_done

/-- The statement is derived from the tokens, and each `else` in it belongs to the nearest `if`. -/
def StatementRead (s : Stmt) (ts : List Token) : Prop :=
  s.Derives ts ∧ s.NearestElse

/-- `StatementRead` for an arm of a case statement. -/
def ArmRead (a : CaseArm) (ts : List Token) : Prop :=
  a.Derives ts ∧ a.NearestElse

section
variable {p : Parser Stmt}

/-- Arms are derived if statements are. -/
theorem armOf_sound (h : Reads p StatementRead) : Reads (armOf p) ArmRead := by
  intro c a d ha
  simp only [armOf, Run.bind_eq_done_iff, expect_eq_done_iff, pure_eq_done_iff] at ha
  obtain ⟨labels, m, hl, _, _, ⟨ht, rfl⟩, body, _, hb, rfl, rfl⟩ := ha
  obtain ⟨ts, hp, hlabels⟩ := separated_sound .comma label_sound hl
  obtain ⟨us, hq, hbody, hnear⟩ := h hb
  exact ⟨_, hp.trans (.cons ht nofun hq), .mk hlabels hbody, hnear⟩

/-- A round of the repetition in `armsOf` passes a semicolon and an arm; the last round may pass a
semicolon. -/
theorem armsOf_round (h : Reads p StatementRead) :
    ReadsRound
      (do
        if ← accept (.symbol .semicolon) then
          if (← token) = .keyword .end then return none else some <$> armOf p
        else return none)
      (fun a us => ∃ vs, us = .symbol .semicolon :: vs ∧ ArmRead a vs)
      (fun ts => ts = [] ∨ ts = [.symbol .semicolon]) := by
  intro c o d hround
  obtain ⟨_, _, ha, hrest⟩ := Run.bind_eq_done_iff.1 hround
  rcases accept_eq_done_iff.1 ha with ⟨ht, rfl, rfl⟩ | ⟨-, rfl, rfl⟩
  · simp only [if_true, Run.bind_eq_done_iff, token_eq_done_iff] at hrest
    obtain ⟨u, _, ⟨-, rfl⟩, hrest⟩ := hrest
    split at hrest
    · obtain ⟨rfl, rfl⟩ := pure_eq_done_iff.1 hrest
      exact .inr ⟨rfl, _, .one ht nofun, .inr rfl⟩
    · obtain ⟨a, hb, rfl⟩ := map_eq_done_iff.1 hrest
      obtain ⟨us, hq, hr⟩ := armOf_sound h hb
      exact .inl ⟨a, _, rfl, List.cons_ne_nil _ _, .cons ht nofun hq, us, rfl, hr⟩
  · obtain ⟨rfl, rfl⟩ := pure_eq_done_iff.1 hrest
    exact .inr ⟨rfl, [], rfl, .inl rfl⟩

/-- The arms of a case statement are none, or arms with semicolons between them and perhaps one
after the last. -/
theorem armsOf_sound (h : Reads p StatementRead) :
    Reads (armsOf p) fun arms ts => arms = [] ∧ ts = [] ∨
      ∃ us last, ts = us ++ last ∧ Separated .semicolon ArmRead arms us ∧
        (last = [] ∨ last = [.symbol .semicolon]) := by
  intro c arms d ha
  simp only [armsOf, Run.bind_eq_done_iff, token_eq_done_iff] at ha
  obtain ⟨t, _, ⟨-, rfl⟩, ha⟩ := ha
  split at ha
  · obtain ⟨rfl, rfl⟩ := pure_eq_done_iff.1 ha
    exact ⟨[], rfl, .inl ⟨rfl, rfl⟩⟩
  · simp only [Run.bind_eq_done_iff, pure_eq_done_iff] at ha
    obtain ⟨first, m, hf, rest, _, hr, rfl, rfl⟩ := ha
    obtain ⟨ts, hp, hfirst⟩ := armOf_sound h hf
    obtain ⟨us, last, hq, hrep, hlast⟩ := many_sound (armsOf_round h) hr
    refine ⟨ts ++ (us ++ last), hp.trans hq, .inr ⟨ts ++ us, last, ?_, ?_, hlast⟩⟩
    · exact (List.append_assoc ..).symm
    · exact .of_repeated hfirst hrep

/-! ## After an open statement -/

/-- After a statement that ends in an `if` without `else` there stands no `else`. -/
def LeavesNoElse (p : Parser Stmt) : Prop :=
  ∀ ⦃c s d⦄, p c = .done s d → s.endsOpen = true → d.token ≠ .keyword .else

/-- A statement that begins with a name does not end in an open `if`. -/
theorem namedStatement_closed {name : String} {c d : Cursor} {s : Stmt}
    (h : namedStatement name c = .done s d) : s.endsOpen = false := by
  simp only [namedStatement, Run.bind_eq_done_iff, token_eq_done_iff] at h
  obtain ⟨_, _, -, _, _, ⟨-, rfl⟩, h⟩ := h
  split at h
  · simp only [Run.bind_eq_done_iff, pure_eq_done_iff] at h
    obtain ⟨_, _, -, _, _, -, rfl, -⟩ := h
    rfl
  · simp only [Run.bind_eq_done_iff, token_eq_done_iff] at h
    obtain ⟨_, _, ⟨-, rfl⟩, h⟩ := h
    split at h
    · simp only [Run.bind_eq_done_iff, pure_eq_done_iff] at h
      obtain ⟨_, _, -, rfl, -⟩ := h
      rfl
    · obtain ⟨rfl, -⟩ := pure_eq_done_iff.1 h
      rfl

/-- An `if` that took no `else` has none after it, since it takes any. -/
theorem conditionalOf_open (h : LeavesNoElse p) : LeavesNoElse (conditionalOf p) := by
  intro c s d hs hopen
  simp only [conditionalOf, Run.bind_eq_done_iff, accept_eq_done_iff] at hs
  obtain ⟨cond, _, -, _, _, -, body, m, -, _, _, ⟨-, rfl, rfl⟩ | ⟨he, rfl, rfl⟩, hs⟩ := hs
  · simp only [if_true, Run.bind_eq_done_iff, pure_eq_done_iff] at hs
    obtain ⟨other, _, hother, rfl, rfl⟩ := hs
    exact h hother hopen
  · obtain ⟨rfl, rfl⟩ := pure_eq_done_iff.1 hs
    exact he

/-- No `else` stands after a `while` loop that ends in an open `if`. -/
theorem whileOf_open (h : LeavesNoElse p) : LeavesNoElse (whileOf p) := by
  intro c s d hs hopen
  simp only [whileOf, Run.bind_eq_done_iff, pure_eq_done_iff] at hs
  obtain ⟨_, _, -, _, _, -, body, _, hb, rfl, rfl⟩ := hs
  exact h hb hopen

/-- No `else` stands after a `for` loop that ends in an open `if`. -/
theorem forOf_open (h : LeavesNoElse p) : LeavesNoElse (forOf p) := by
  intro c s d hs hopen
  simp only [forOf, Run.bind_eq_done_iff] at hs
  obtain ⟨_, _, -, _, _, -, _, _, -, o, _, -, hs⟩ := hs
  cases o with
  | none => exact absurd hs mismatch_ne_done
  | some direction =>
    simp only [Run.bind_eq_done_iff, pure_eq_done_iff] at hs
    obtain ⟨_, _, -, _, _, -, body, _, hb, rfl, rfl⟩ := hs
    exact h hb hopen

/-- Statements leave no `else` after an open `if`, if those in them leave none. -/
theorem statementOf_open (h : LeavesNoElse p) : LeavesNoElse (statementOf p) := by
  intro c s d hs hopen
  rw [statementOf_apply] at hs
  generalize c.token = t at hs
  cases t with
  | ident name =>
    rw [namedStatement_closed hs] at hopen
    cases hopen
  | keyword k =>
    cases k with
    | «if» => exact conditionalOf_open h hs hopen
    | «while» => exact whileOf_open h hs hopen
    | «for» => exact forOf_open h hs hopen
    | begin =>
      simp only [compoundOf, Run.bind_eq_done_iff, pure_eq_done_iff] at hs
      obtain ⟨_, _, -, _, _, -, rfl, -⟩ := hs
      cases hopen
    | case =>
      simp only [caseOf, Run.bind_eq_done_iff, pure_eq_done_iff] at hs
      obtain ⟨_, _, -, _, _, -, _, _, -, _, _, -, rfl, -⟩ := hs
      cases hopen
    | «repeat» =>
      simp only [repeatOf, Run.bind_eq_done_iff, pure_eq_done_iff] at hs
      obtain ⟨_, _, -, _, _, -, _, _, -, rfl, -⟩ := hs
      cases hopen
    | new | dispose =>
      simp only [memoryOf, Run.bind_eq_done_iff, pure_eq_done_iff] at hs
      obtain ⟨_, _, -, _, _, -, _, _, -, rfl, -⟩ := hs
      cases hopen
    | _ =>
      cases hs
      cases hopen
  | number | symbol | eof =>
    cases hs
    cases hopen

/-! ## Statements

Each lemma is about what follows the first token of a statement. -/

/-- What follows a name at the front of a statement is derived with it. -/
theorem namedStatement_sound (name : String) :
    Reads (namedStatement name) fun s ts => StatementRead s (.ident name :: ts) := by
  intro c s d hs
  simp only [namedStatement, Run.bind_eq_done_iff, token_eq_done_iff] at hs
  obtain ⟨ss, m, hss, t, _, ⟨ht, rfl⟩, hs⟩ := hs
  obtain ⟨ts, hp, hd⟩ := selectors_sound expression_sound hss
  split at hs
  · simp only [Run.bind_eq_done_iff, expect_eq_done_iff, pure_eq_done_iff] at hs
    obtain ⟨_, _, ⟨ha, rfl⟩, value, _, hv, rfl, rfl⟩ := hs
    obtain ⟨us, hq, hvalue⟩ := expression_sound hv
    exact ⟨_, hp.trans (.cons ha nofun hq), .assign hd hvalue, trivial⟩
  · next hno =>
    have hnil : ss = [] := by
      cases ss with
      | nil => rfl
      | cons s ss => simp at hno
    subst hnil
    cases hd
    cases hp
    simp only [Run.bind_eq_done_iff, token_eq_done_iff] at hs
    obtain ⟨u, _, ⟨hu, rfl⟩, hs⟩ := hs
    split at hs
    · simp only [Run.bind_eq_done_iff, pure_eq_done_iff] at hs
      obtain ⟨args, _, ha, rfl, rfl⟩ := hs
      obtain ⟨us, hq, hargs⟩ := argumentsOf_sound expression_sound ha
      exact ⟨us, hq, .callWith hargs, trivial⟩
    · obtain ⟨rfl, rfl⟩ := pure_eq_done_iff.1 hs
      exact ⟨[], rfl, .call name, trivial⟩

/-- Compound statements are derived if statements are. -/
theorem compoundOf_sound (h : Reads p StatementRead) :
    Reads (compoundOf p) fun s ts => StatementRead s (.keyword .begin :: ts) := by
  intro c s d hs
  simp only [compoundOf, Run.bind_eq_done_iff, expect_eq_done_iff, pure_eq_done_iff] at hs
  obtain ⟨body, m, hb, _, _, ⟨he, rfl⟩, rfl, rfl⟩ := hs
  obtain ⟨ts, hp, hd⟩ := separated_sound .semicolon h hb
  obtain ⟨hd, hnear⟩ := Separated.and_iff.1 hd
  exact ⟨_, hp.trans (.one he nofun), .compound hd, Stmt.nearestElseList_iff.2 hnear⟩

/-- `if` statements are derived if statements are; the branch before an `else` is not open, since no
`else` stands after an open one. -/
theorem conditionalOf_sound (h : Reads p StatementRead) (ho : LeavesNoElse p) :
    Reads (conditionalOf p) fun s ts => StatementRead s (.keyword .if :: ts) := by
  intro c s d hs
  simp only [conditionalOf, Run.bind_eq_done_iff, expect_eq_done_iff, accept_eq_done_iff] at hs
  obtain ⟨cond, m, hcond, _, _, ⟨ht, rfl⟩, body, k, hb, _, _, hs⟩ := hs
  obtain ⟨ts, hp, hdc⟩ := expression_sound hcond
  obtain ⟨us, hq, hdb, hnear⟩ := h hb
  obtain ⟨⟨he, rfl, rfl⟩ | ⟨he, rfl, rfl⟩, hs⟩ := hs
  · simp only [if_true, Run.bind_eq_done_iff, pure_eq_done_iff] at hs
    obtain ⟨other, _, hother, rfl, rfl⟩ := hs
    obtain ⟨vs, hr, hdo, hnear'⟩ := h hother
    have hclosed : body.endsOpen = false := Bool.eq_false_iff.2 fun hopen => ho hb hopen he
    exact ⟨_, hp.trans (.cons ht nofun (hq.trans (.cons he nofun hr))),
      .ifThenElse hdc hdb hdo, hclosed, hnear, hnear'⟩
  · obtain ⟨rfl, rfl⟩ := pure_eq_done_iff.1 hs
    exact ⟨_, hp.trans (.cons ht nofun hq), .ifThen hdc hdb, hnear⟩

/-- Case statements are derived if statements are. -/
theorem caseOf_sound (h : Reads p StatementRead) :
    Reads (caseOf p) fun s ts => StatementRead s (.keyword .case :: ts) := by
  intro c s d hs
  simp only [caseOf, Run.bind_eq_done_iff, expect_eq_done_iff, pure_eq_done_iff] at hs
  obtain ⟨subject, m, hsub, _, _, ⟨ht, rfl⟩, arms, k, ha, _, _, ⟨he, rfl⟩, rfl, rfl⟩ := hs
  obtain ⟨ts, hp, hds⟩ := expression_sound hsub
  obtain ⟨us, hq, harms⟩ := armsOf_sound h ha
  refine ⟨_, hp.trans (.cons ht nofun (hq.trans (.one he nofun))), ?_⟩
  rcases harms with ⟨rfl, rfl⟩ | ⟨us, last, rfl, hd, hlast⟩
  · exact ⟨.caseOfNone hds, trivial⟩
  · obtain ⟨hd, hnear⟩ := Separated.and_iff.1 hd
    rw [List.append_assoc]
    exact ⟨.caseOf hds hd hlast, CaseArm.nearestElseList_iff.2 hnear⟩

/-- `while` loops are derived if statements are. -/
theorem whileOf_sound (h : Reads p StatementRead) :
    Reads (whileOf p) fun s ts => StatementRead s (.keyword .while :: ts) := by
  intro c s d hs
  simp only [whileOf, Run.bind_eq_done_iff, expect_eq_done_iff, pure_eq_done_iff] at hs
  obtain ⟨cond, m, hcond, _, _, ⟨ht, rfl⟩, body, _, hb, rfl, rfl⟩ := hs
  obtain ⟨ts, hp, hdc⟩ := expression_sound hcond
  obtain ⟨us, hq, hdb, hnear⟩ := h hb
  exact ⟨_, hp.trans (.cons ht nofun hq), .whileDo hdc hdb, hnear⟩

/-- `repeat` loops are derived if statements are. -/
theorem repeatOf_sound (h : Reads p StatementRead) :
    Reads (repeatOf p) fun s ts => StatementRead s (.keyword .repeat :: ts) := by
  intro c s d hs
  simp only [repeatOf, Run.bind_eq_done_iff, expect_eq_done_iff, pure_eq_done_iff] at hs
  obtain ⟨body, m, hb, _, _, ⟨ht, rfl⟩, cond, _, hcond, rfl, rfl⟩ := hs
  obtain ⟨ts, hp, hd⟩ := separated_sound .semicolon h hb
  obtain ⟨us, hq, hdc⟩ := expression_sound hcond
  obtain ⟨hd, hnear⟩ := Separated.and_iff.1 hd
  exact ⟨_, hp.trans (.cons ht nofun hq), .repeatUntil hd hdc, Stmt.nearestElseList_iff.2 hnear⟩

/-- `for` loops are derived if statements are. -/
theorem forOf_sound (h : Reads p StatementRead) :
    Reads (forOf p) fun s ts => StatementRead s (.keyword .for :: ts) := by
  intro c s d hs
  simp only [forOf, Run.bind_eq_done_iff, ident_eq_done_iff, expect_eq_done_iff,
    take?_eq_done_iff] at hs
  obtain ⟨counter, _, ⟨hx, rfl⟩, _, _, ⟨ha, rfl⟩, start, m, hstart, _, _, hdir, hs⟩ := hs
  obtain ⟨ts, hp, hds⟩ := expression_sound hstart
  rcases hdir with ⟨direction, hdir, rfl, rfl⟩ | ⟨-, rfl, rfl⟩
  · simp only [Run.bind_eq_done_iff, expect_eq_done_iff, pure_eq_done_iff] at hs
    obtain ⟨finish, k, hfinish, _, _, ⟨ht, rfl⟩, body, _, hb, rfl, rfl⟩ := hs
    obtain ⟨us, hq, hdf⟩ := expression_sound hfinish
    obtain ⟨vs, hr, hdb, hnear⟩ := h hb
    have hto : m.token = direction.token := Direction.ofToken?_eq_some_iff.1 hdir
    refine ⟨_, .cons hx nofun (.cons ha nofun (hp.trans (.cons hto ?_
      (hq.trans (.cons ht nofun hr))))), .forDo hds hdf hdb, hnear⟩
    cases direction <;> nofun
  · exact absurd hs mismatch_ne_done

/-- `new` and `dispose` with a name in parentheses are derived. -/
theorem memoryOf_sound (kind : MemoryKind) :
    Reads (memoryOf kind) fun s ts => StatementRead s (kind.token :: ts) := by
  intro c s d hs
  simp only [memoryOf, Run.bind_eq_done_iff, ident_eq_done_iff, expect_eq_done_iff,
    pure_eq_done_iff] at hs
  obtain ⟨_, _, ⟨hl, rfl⟩, name, _, ⟨hx, rfl⟩, _, _, ⟨hr, rfl⟩, rfl, rfl⟩ := hs
  exact ⟨_, .cons hl nofun (.cons hx nofun (.one hr nofun)), .memory kind name, trivial⟩

/-- Statements are derived if the statements in them are. -/
theorem statementOf_sound (h : Reads p StatementRead) (ho : LeavesNoElse p) :
    Reads (statementOf p) StatementRead := by
  intro c s d hs
  rw [statementOf_apply] at hs
  generalize ht : c.token = t at hs
  have step {q : Parser Stmt} (hne : t ≠ .eof)
      (hq : Reads q fun s ts => StatementRead s (t :: ts)) (hs : q c.advance = .done s d) :
      ∃ ts, c.Passes ts d ∧ StatementRead s ts := by
    obtain ⟨ts, hp, hr⟩ := hq hs
    exact ⟨t :: ts, .cons ht hne hp, hr⟩
  have hempty (hs : (.done .empty c : Outcome Cursor Stmt) = .done s d) :
      ∃ ts, c.Passes ts d ∧ StatementRead s ts := by
    cases hs
    exact ⟨[], rfl, .empty, trivial⟩
  cases t with
  | ident name => exact step nofun (namedStatement_sound name) hs
  | keyword k =>
    cases k with
    | begin => exact step nofun (compoundOf_sound h) hs
    | «if» => exact step nofun (conditionalOf_sound h ho) hs
    | case => exact step nofun (caseOf_sound h) hs
    | «while» => exact step nofun (whileOf_sound h) hs
    | «repeat» => exact step nofun (repeatOf_sound h) hs
    | «for» => exact step nofun (forOf_sound h) hs
    | new => exact step nofun (memoryOf_sound .new) hs
    | dispose => exact step nofun (memoryOf_sound .dispose) hs
    | _ => exact hempty hs
  | number | symbol | eof => exact hempty hs

end

/-- What the parser of statements ensures: what is passed is read as the statement, and after an
open statement no `else` is left. -/
def StatementEnsured (c : Cursor) (s : Stmt) (d : Cursor) : Prop :=
  (∃ ts, c.Passes ts d ∧ StatementRead s ts) ∧ (s.endsOpen = true → d.token ≠ .keyword .else)

/-- Reading the grammar's tokens and leaving no `else` are kept together, since the one needs the
other. -/
theorem statementOf_ensures {p : Parser Stmt}
    (h : ∀ ⦃c s d⦄, p c = .done s d → StatementEnsured c s d) ⦃c : Cursor⦄ ⦃s : Stmt⦄ ⦃d : Cursor⦄
    (hs : statementOf p c = .done s d) : StatementEnsured c s d := by
  have hreads : Reads p StatementRead := fun _ _ _ h' => (h h').1
  have hleaves : LeavesNoElse p := fun _ _ _ h' => (h h').2
  exact ⟨statementOf_sound hreads hleaves hs, statementOf_open hleaves hs⟩

/-- What is passed for a statement, the grammar derives with its tree, in which each `else` belongs
to the nearest `if`; and after an open statement no `else` is left. -/
theorem statement_ensures {c d : Cursor} {s : Stmt} (h : statement c = .done s d) :
    StatementEnsured c s d :=
  fix_ensures (fun _ => statementOf_ensures) h

/-- The parser of statements reads what the grammar derives, with each `else` at the nearest
`if`. -/
theorem statement_sound : Reads statement StatementRead :=
  fun _ _ _ h => (statement_ensures h).1

/-! ## Whole inputs -/

/-- What is passed for a program, the grammar derives with its tree, and the end follows. -/
theorem program_sound {c d : Cursor} {p : Program} (h : program c = .done p d) :
    ∃ ts, c.Passes ts d ∧ d.token = .eof ∧ p.Derives ts ∧ p.NearestElse := by
  simp only [program, Run.bind_eq_done_iff, accept_eq_done_iff, token_eq_done_iff] at h
  obtain ⟨body, m, hb, _, k, hdot, t, _, ⟨ht, rfl⟩, h⟩ := h
  obtain ⟨ts, hp, hd⟩ := separated_sound .semicolon statement_sound hb
  obtain ⟨hd, hnear⟩ := Separated.and_iff.1 hd
  have hnear := Stmt.nearestElseList_iff.2 hnear
  split at h
  · next heof =>
    obtain ⟨rfl, rfl⟩ := pure_eq_done_iff.1 h
    rcases hdot with ⟨hdot, -, rfl⟩ | ⟨-, -, rfl⟩
    · exact ⟨_, hp.trans (.one hdot nofun), ht.trans heof, .dotted hd, hnear⟩
    · exact ⟨ts, hp, ht.trans heof, .plain hd, hnear⟩
  · exact absurd h unexpected_ne_done

/-- What is passed for a whole expression, the grammar derives with its tree, and the end
follows. -/
theorem wholeExpression_sound {c d : Cursor} {e : Expr} (h : wholeExpression c = .done e d) :
    ∃ ts, c.Passes ts d ∧ d.token = .eof ∧ e.Derives ts := by
  simp only [wholeExpression, Run.bind_eq_done_iff, token_eq_done_iff] at h
  obtain ⟨e, m, he, t, _, ⟨ht, rfl⟩, h⟩ := h
  obtain ⟨ts, hp, hd⟩ := expression_sound he
  split at h
  · next heof =>
    obtain ⟨rfl, rfl⟩ := pure_eq_done_iff.1 h
    exact ⟨ts, hp, ht.trans heof, hd⟩
  · exact absurd h unexpected_ne_done

end Parser

end MiniPascal
