import MiniPascal.Proofs.Text.RoundTrip
import MiniPascal.Reference

/-!
# References are the names in the source

`Token.occurrences` lists the names among the tokens of a text, in order, each with the tokens
before it; a name after a dot is a field and is left out. The references of a program that was read
are these names (`Program.references_eq_occurrences`), and the role of a reference that is a loop
variable or the target of a memory statement is seen from the one or two tokens before the name.
-/

namespace MiniPascal

/-- A name in a list of tokens, and the tokens before it from the nearest to the first. -/
structure Occurrence where
  name : String
  before : List Token

namespace Occurrence

/-- The name directly follows a dot. -/
def AfterDot (o : Occurrence) : Prop :=
  o.before.head? = some (.symbol .dot)

/-- The name directly follows the word that begins a counted loop. -/
def AfterFor (o : Occurrence) : Prop :=
  o.before.head? = some (.keyword .for)

/-- The name directly follows the word and the parenthesis that begin a memory statement. -/
def AfterMemory (o : Occurrence) : Prop :=
  ∃ kind : MemoryKind, [.symbol .leftParen, kind.token] <+: o.before

instance (o : Occurrence) : Decidable o.AfterDot :=
  inferInstanceAs (Decidable (_ = _))

/-- The reference has the name of the occurrence, and its role is that of a loop variable or of the
target of a memory statement just where the tokens before the name say so. -/
structure Matches (r : Reference) (o : Occurrence) : Prop where
  name : r.name = o.name
  loopVariable : r.role = .loopVariable ↔ o.AfterFor
  memoryTarget : r.role = .memoryTarget ↔ o.AfterMemory

end Occurrence

/-- The names among some tokens that are no fields, `before` being the tokens before them. -/
def Token.occurrences (before : List Token) : List Token → List Occurrence
  | [] => []
  | .ident x :: ts =>
    if (Occurrence.mk x before).AfterDot then Token.occurrences (.ident x :: before) ts
    else ⟨x, before⟩ :: Token.occurrences (.ident x :: before) ts
  | t :: ts => Token.occurrences (t :: before) ts

/-! ## Lists of tokens one after the other -/

/-- The references match the names among the tokens. -/
def Refer (rs : List Reference) (before ts : List Token) : Prop :=
  List.Forall₂ Occurrence.Matches rs (Token.occurrences before ts)

/-- A name after these tokens stands alone: it is no field, and it begins neither a counted loop nor
the target of a memory statement, not even after a parenthesis. -/
structure Neutral (before : List Token) : Prop where
  dot : before.head? ≠ some (.symbol .dot)
  «for» : before.head? ≠ some (.keyword .for)
  memory (kind : MemoryKind) : ¬[.symbol .leftParen, kind.token] <+: before
  kind (kind : MemoryKind) : before.head? ≠ some kind.token

/-- The token leaves the name after it alone, whatever stands before it. -/
def Token.isNeutral (t : Token) : Bool :=
  t != .symbol .dot && t != .symbol .leftParen && t != .keyword .for && t != .keyword .new
    && t != .keyword .dispose

section
variable {rs rs' : List Reference} {before ts us : List Token} {t : Token} {x : String}

/-- The names of two lists are those of the first and those of the second after it. -/
theorem Token.occurrences_append : occurrences before (ts ++ us) =
    occurrences before ts ++ occurrences (ts.reverse ++ before) us := by
  induction ts generalizing before with
  | nil => rfl
  | cons t ts ih =>
    have hrev : (t :: ts).reverse ++ before = ts.reverse ++ t :: before := by simp
    rw [hrev]
    cases t with
    | ident x =>
      simp only [List.cons_append, occurrences, ih]
      split <;> simp
    | number | keyword | symbol | eof => exact ih

/-- A keyword or a symbol is no name, but it stands before the names after it. -/
theorem Token.occurrences_fixed (ht : t.IsFixed) :
    occurrences before (t :: ts) = occurrences (t :: before) ts := by
  obtain ⟨k, rfl⟩ | ⟨s, rfl⟩ := ht <;> rfl

/-- The first name of a text stands alone. -/
theorem Neutral.nil : Neutral [] where
  dot := nofun
  «for» := nofun
  memory _ h := absurd (List.prefix_nil.1 h) (List.cons_ne_nil _ _)
  kind _ := nofun

/-- A neutral token leaves the name after it alone. -/
theorem Neutral.cons (h : t.isNeutral = true) : Neutral (t :: before) := by
  simp only [Token.isNeutral, Bool.and_eq_true, bne_iff_ne] at h
  obtain ⟨⟨⟨⟨hdot, hparen⟩, hfor⟩, hnew⟩, hdispose⟩ := h
  constructor
  · simpa using hdot
  · simpa using hfor
  · intro kind hk
    exact hparen (List.cons_prefix_cons.1 hk).1.symm
  · intro kind hk
    cases kind with
    | new => exact hnew (Option.some.inj hk)
    | dispose => exact hdispose (Option.some.inj hk)

/-- A parenthesis leaves the name after it alone if no memory statement begins before it. -/
theorem Neutral.leftParen (h : ∀ kind : MemoryKind, before.head? ≠ some kind.token) :
    Neutral (.symbol .leftParen :: before) where
  dot := nofun
  «for» := nofun
  memory kind hk := by
    obtain ⟨-, hk⟩ := List.cons_prefix_cons.1 hk
    obtain ⟨us, rfl⟩ := hk
    exact h kind rfl
  kind kind := by cases kind <;> nofun

/-- References match the names of two lists if they match those of each. -/
theorem Refer.append (h : Refer rs before ts) (h' : Refer rs' (ts.reverse ++ before) us) :
    Refer (rs ++ rs') before (ts ++ us) := by
  rw [Refer, Token.occurrences_append]
  exact List.rel_append h h'

/-- A keyword or a symbol is no name. -/
theorem Refer.fixed (ht : t.IsFixed) (h : Refer rs (t :: before) ts) :
    Refer rs before (t :: ts) := by
  rw [Refer, Token.occurrences_fixed ht]
  exact h

/-- A symbol is passed over. -/
theorem Refer.symbol (s : Symbol) (h : Refer rs (.symbol s :: before) ts) :
    Refer rs before (.symbol s :: ts) :=
  h

/-- A keyword is passed over. -/
theorem Refer.keyword (k : Keyword) (h : Refer rs (.keyword k :: before) ts) :
    Refer rs before (.keyword k :: ts) :=
  h

/-- A keyword or a symbol at the end adds nothing. -/
theorem Refer.close (ht : t.IsFixed) (h : Refer rs before ts) : Refer rs before (ts ++ [t]) := by
  have hs : Refer (rs ++ []) before (ts ++ [t]) := h.append (.fixed ht .nil)
  rwa [List.append_nil] at hs

/-- A name that stands alone has a role of its own. -/
theorem Refer.ident (role : Role) (hb : Neutral before) (hloop : role ≠ .loopVariable)
    (htarget : role ≠ .memoryTarget) (h : Refer rs (.ident x :: before) ts) :
    Refer (⟨x, role⟩ :: rs) before (.ident x :: ts) := by
  have hdot : ¬(Occurrence.mk x before).AfterDot := hb.dot
  rw [Refer, Token.occurrences, if_neg hdot]
  refine .cons ⟨rfl, iff_of_false hloop hb.for, iff_of_false htarget ?_⟩ h
  rintro ⟨kind, hk⟩
  exact hb.memory kind hk

end

/-! ## Expressions -/

section
variable {before : List Token}

/-- A name after a comparison stands alone. -/
theorem RelOp.neutral (op : RelOp) : Neutral (op.token :: before) := by
  cases op <;> exact .cons rfl

/-- A name after an addition stands alone. -/
theorem AddOp.neutral (op : AddOp) : Neutral (op.token :: before) := by
  cases op <;> exact .cons rfl

/-- A name after a multiplication stands alone. -/
theorem MulOp.neutral (op : MulOp) : Neutral (op.token :: before) := by
  cases op <;> exact .cons rfl

/-- A name after a sign stands alone. -/
theorem Sign.neutral (sign : Sign) : Neutral (sign.token :: before) := by
  cases sign <;> exact .cons rfl

end

mutual

/-- The references of an expression match the names in its tokens, if the first name stands
alone. -/
theorem Expr.Derives.refer {e : Expr} {ts : List Token} :
    e.Derives ts → ∀ {before}, Neutral before → Refer (e.references fun _ => true) before ts
  | .simple h, _, hb => h.refer hb
  | @Expr.Derives.comparison _ op _ _ _ h h', _, hb =>
    (h.refer hb).append (.fixed op.token_fixed (h'.refer op.neutral))

/-- The references of a simple expression match the names in its tokens. -/
theorem SimpleExpr.Derives.refer {e : SimpleExpr} {ts : List Token} :
    e.Derives ts → ∀ {before}, Neutral before → Refer (e.references fun _ => true) before ts
  | .unsigned h h', _, hb => (h.refer hb).append (SimpleExpr.refer_rest h')
  | @SimpleExpr.Derives.signed sign _ _ _ _ h h', _, _ =>
    .fixed sign.token_fixed ((h.refer sign.neutral).append (SimpleExpr.refer_rest h'))

/-- The references of the further terms match the names in their tokens, each after an operator. -/
theorem SimpleExpr.refer_rest {rest : List (AddOp × Term)} {ts : List Token} :
    Operands AddOp.token Term.Derives rest ts → ∀ {before},
      Refer (SimpleExpr.referencesRest (fun _ => true) rest) before ts
  | .nil, _ => .nil
  | @Operands.cons _ _ _ _ op _ _ _ _ h h', _ =>
    .fixed op.token_fixed ((h.refer op.neutral).append (SimpleExpr.refer_rest h'))

/-- The references of a term match the names in its tokens. -/
theorem Term.Derives.refer {t : Term} {ts : List Token} :
    t.Derives ts → ∀ {before}, Neutral before → Refer (t.references fun _ => true) before ts
  | .mk h h', _, hb => (h.refer hb).append (Term.refer_rest h')

/-- The references of the further factors match the names in their tokens, each after an
operator. -/
theorem Term.refer_rest {rest : List (MulOp × Factor)} {ts : List Token} :
    Operands MulOp.token Factor.Derives rest ts → ∀ {before},
      Refer (Term.referencesRest (fun _ => true) rest) before ts
  | .nil, _ => .nil
  | @Operands.cons _ _ _ _ op _ _ _ _ h h', _ =>
    .fixed op.token_fixed ((h.refer op.neutral).append (Term.refer_rest h'))

/-- The references of a factor match the names in its tokens. -/
theorem Factor.Derives.refer {f : Factor} {ts : List Token} :
    f.Derives ts → ∀ {before}, Neutral before → Refer (f.references fun _ => true) before ts
  | .ident _, _, hb => .ident .read hb nofun nofun .nil
  | .number _, _, _ | .true, _, _ | .false, _, _ | .nil, _, _ => .nil
  | .designator h, _, hb => .ident .read hb nofun nofun (Selector.refer_list h)
  | .paren h, _, hb => .symbol .leftParen ((h.refer (.leftParen hb.kind)).close (.inr ⟨_, rfl⟩))
  | .not h, _, _ => .keyword .not (h.refer (.cons rfl))
  | .call h, _, hb => .ident .called hb nofun nofun h.refer

/-- The references of arguments match the names between the parentheses; the name before them keeps
the parenthesis from being that of a memory statement. -/
theorem Expr.DerivesArguments.refer {args : List Expr} {ts : List Token} :
    Expr.DerivesArguments args ts → ∀ {x before},
      Refer (Expr.referencesList (fun _ => true) args) (.ident x :: before) ts
  | .none, _, _ => .nil
  | .some h, x, before => by
    have hb : Neutral (.symbol .leftParen :: .ident x :: before) :=
      .leftParen fun kind => by cases kind <;> nofun
    exact .symbol .leftParen ((Expr.refer_list h hb).close (.inr ⟨_, rfl⟩))

/-- The references of expressions match the names in their tokens. -/
theorem Expr.refer_list {es : List Expr} {ts : List Token} :
    Separated .comma Expr.Derives es ts → ∀ {before}, Neutral before →
      Refer (Expr.referencesList (fun _ => true) es) before ts
  | .one h, _, hb => by
    have hs := h.refer hb
    rwa [← List.append_nil (Expr.references _ _)] at hs
  | .more h h', _, hb => (h.refer hb).append (.symbol .comma (Expr.refer_list h' (.cons rfl)))

/-- The references of an access step match the names in its tokens: a field is left out, since it
follows a dot. -/
theorem Selector.Derives.refer {s : Selector} {ts : List Token} :
    s.Derives ts → ∀ {before}, Refer (s.references fun _ => true) before ts
  | .field _, _ => .nil
  | .index h, _ => .symbol .leftBracket ((Expr.refer_list h (.cons rfl)).close (.inr ⟨_, rfl⟩))
  | .deref, _ => .nil

/-- The references of access steps match the names in their tokens. -/
theorem Selector.refer_list {ss : List Selector} {ts : List Token} :
    Repeated Selector.Derives ss ts → ∀ {before},
      Refer (Selector.referencesList (fun _ => true) ss) before ts
  | .nil, _ => .nil
  | .cons h h', _ => h.refer.append (Selector.refer_list h')

end

/-! ## Statements -/

/-- The references of labels are those of each label. -/
theorem Label.referencesList_cons {keep : String → Bool} (l : Label) (ls : List Label) :
    Label.referencesList keep (l :: ls) =
      Label.referencesList keep [l] ++ Label.referencesList keep ls := by
  cases l with
  | ident x => simp [Label.referencesList]
  | number | bool | nil => rfl

/-- A label that is a name matches this name. -/
theorem Label.Derives.refer {l : Label} {ts : List Token} (h : l.Derives ts) {before : List Token}
    (hb : Neutral before) : Refer (Label.referencesList (fun _ => Bool.true) [l]) before ts := by
  induction h generalizing before with
  | ident x => exact .ident .caseLabel hb nofun nofun .nil
  | plus _ ih => exact .symbol .plus (ih (.cons rfl))
  | number | negative | true | false | nil => exact .nil

/-- The references of labels match the names among them. -/
theorem Label.refer_list {ls : List Label} {ts : List Token}
    (h : Separated .comma Label.Derives ls ts) {before : List Token} (hb : Neutral before) :
    Refer (Label.referencesList (fun _ => true) ls) before ts := by
  induction h generalizing before with
  | one h => exact h.refer hb
  | more h _ ih =>
    rw [Label.referencesList_cons]
    exact (h.refer hb).append (.symbol .comma (ih (.cons rfl)))

/-- A name after a direction stands alone. -/
theorem Direction.neutral (d : Direction) {before : List Token} : Neutral (d.token :: before) := by
  cases d <;> exact .cons rfl

section
variable {rs : List Reference} {before ts : List Token} {x : String}

/-- The name after the word that begins a counted loop is the loop variable. -/
theorem Refer.loopVariable (h : Refer rs (.ident x :: .keyword .for :: before) ts) :
    Refer (⟨x, .loopVariable⟩ :: rs) before (.keyword .for :: .ident x :: ts) := by
  refine .cons ⟨rfl, iff_of_true rfl rfl, iff_of_false nofun ?_⟩ h
  rintro ⟨kind, hk⟩
  cases (List.cons_prefix_cons.1 hk).1

/-- The name in parentheses after the word that begins a memory statement is its target. -/
theorem Refer.memoryTarget (kind : MemoryKind) :
    Refer [⟨x, .memoryTarget⟩] before
      [kind.token, .symbol .leftParen, .ident x, .symbol .rightParen] := by
  have hfixed : kind.token.IsFixed := by
    cases kind <;> exact .inl ⟨_, rfl⟩
  refine .fixed hfixed (.cons ⟨rfl, iff_of_false nofun nofun, iff_of_true rfl ?_⟩ .nil)
  exact ⟨kind, List.prefix_append [_, _] before⟩

end

mutual

/-- The references of a statement match the names in its tokens: the loop variable follows `for`,
and what a memory statement works on follows its word and a parenthesis. -/
theorem Stmt.Derives.refer {s : Stmt} {ts : List Token} :
    s.Derives ts → ∀ {before}, Neutral before → Refer (s.references fun _ => true) before ts
  | .assign h h', _, hb =>
    .ident .assigned hb nofun nofun
      ((Selector.refer_list h).append (.symbol .assign (h'.refer (.cons rfl))))
  | .call _, _, hb => .ident .called hb nofun nofun .nil
  | .callWith h, _, hb => .ident .called hb nofun nofun h.refer
  | .compound h, _, _ => .keyword .begin ((Stmt.refer_list h (.cons rfl)).close (.inl ⟨_, rfl⟩))
  | .ifThen h h', _, _ =>
    .keyword .if ((h.refer (.cons rfl)).append (.keyword .then (h'.refer (.cons rfl))))
  | .ifThenElse h h' h'', before, _ => by
    rw [Stmt.references, List.append_assoc]
    exact .keyword .if ((h.refer (.cons rfl)).append (.keyword .then
      ((h'.refer (.cons rfl)).append (.keyword .else (h''.refer (.cons rfl))))))
  | .caseOfNone h, _, _ =>
    .keyword .case ((h.refer (.cons rfl)).append (.keyword .of (.keyword .end .nil)))
  | .caseOf h h' hlast, _, _ => by
    refine .keyword .case ((h.refer (.cons rfl)).append (.keyword .of ?_))
    rcases hlast with rfl | rfl
    · exact (CaseArm.refer_list h' (.cons rfl)).close (.inl ⟨_, rfl⟩)
    · rw [← List.append_assoc]
      exact ((CaseArm.refer_list h' (.cons rfl)).close (.inr ⟨_, rfl⟩)).close (.inl ⟨_, rfl⟩)
  | .whileDo h h', _, _ =>
    .keyword .while ((h.refer (.cons rfl)).append (.keyword .do (h'.refer (.cons rfl))))
  | .repeatUntil h h', _, _ =>
    .keyword .repeat
      ((Stmt.refer_list h (.cons rfl)).append (.keyword .until (h'.refer (.cons rfl))))
  | @Stmt.Derives.forDo _ _ direction _ _ _ _ _ h h' h'', _, _ => by
    rw [Stmt.references, List.append_assoc, List.append_assoc]
    exact .loopVariable (.symbol .assign ((h.refer (.cons rfl)).append
      (.fixed direction.token_fixed ((h'.refer direction.neutral).append
        (.keyword .do (h''.refer (.cons rfl)))))))
  | .memory kind _, _, _ => .memoryTarget kind
  | .empty, _, _ => .nil

/-- The references of statements match the names in their tokens. -/
theorem Stmt.refer_list {body : List Stmt} {ts : List Token} :
    Separated .semicolon Stmt.Derives body ts → ∀ {before}, Neutral before →
      Refer (Stmt.referencesList (fun _ => true) body) before ts
  | .one h, _, hb => by
    have hs := h.refer hb
    rwa [← List.append_nil (Stmt.references _ _)] at hs
  | .more h h', _, hb => (h.refer hb).append (.symbol .semicolon (Stmt.refer_list h' (.cons rfl)))

/-- The references of an arm match the names in its tokens. -/
theorem CaseArm.Derives.refer {a : CaseArm} {ts : List Token} :
    a.Derives ts → ∀ {before}, Neutral before → Refer (a.references fun _ => true) before ts
  | .mk h h', _, hb => (Label.refer_list h hb).append (.symbol .colon (h'.refer (.cons rfl)))

/-- The references of arms match the names in their tokens. -/
theorem CaseArm.refer_list {arms : List CaseArm} {ts : List Token} :
    Separated .semicolon CaseArm.Derives arms ts → ∀ {before}, Neutral before →
      Refer (CaseArm.referencesList (fun _ => true) arms) before ts
  | .one h, _, hb => by
    have hs := h.refer hb
    rwa [← List.append_nil (CaseArm.references _ _)] at hs
  | .more h h', _, hb =>
    (h.refer hb).append (.symbol .semicolon (CaseArm.refer_list h' (.cons rfl)))

end

/-- The references of a program match the names in the tokens that it is derived from. -/
theorem Program.Derives.refer {p : Program} {ts : List Token} (h : p.Derives ts) :
    Refer p.references [] ts := by
  cases h with
  | plain h => exact Stmt.refer_list h .nil
  | dotted h => exact (Stmt.refer_list h .nil).close (.inr ⟨_, rfl⟩)

/-- The references of a program that was read are the names among the tokens of its text, without
those directly after a dot, one after the other. A reference is a loop variable if and only if its
name directly follows the word that begins a counted loop, and the target of a memory statement if
and only if its name directly follows the word and the parenthesis that begin such a statement. -/
theorem Program.references_eq_occurrences {source : String} {ls : List Lexeme} {n : Nat}
    {p : Program} (hs : scan 1 source = .done ls n) (hp : Program.parse source = .ok p) :
    p.references.map Reference.name =
        (Token.occurrences [] (ls.map Lexeme.token)).map Occurrence.name ∧
      List.Forall₂ (fun r o => (r.role = .loopVariable ↔ o.AfterFor) ∧
          (r.role = .memoryTarget ↔ o.AfterMemory))
        p.references (Token.occurrences [] (ls.map Lexeme.token)) := by
  obtain ⟨ls', n', ts, hs', hts, -, hd, -⟩ := Program.parse_eq_ok_iff.1 hp
  cases hs.symm.trans hs'
  have heof : Token.occurrences [] (ls.map Lexeme.token) = Token.occurrences [] ts := by
    rw [hts, Token.occurrences_append]
    exact List.append_nil _
  rw [heof]
  have h := hd.refer
  constructor
  · have hname : List.Forall₂ (· = ·) (p.references.map Reference.name)
        ((Token.occurrences [] ts).map Occurrence.name) := by
      rw [List.forall₂_map_left_iff, List.forall₂_map_right_iff]
      exact h.imp fun _ _ hm => hm.name
    rwa [List.forall₂_eq_eq_eq] at hname
  · exact h.imp fun _ _ hm => ⟨hm.loopVariable, hm.memoryTarget⟩

/-- The field is left out, and the other names keep their order. -/
theorem Program.references_eq_occurrences_for :
    let source := "for i := a.b to n do new(x)"
    ∃ ls n p, scan 1 source = .done ls n ∧ Program.parse source = .ok p ∧
      p.references = [⟨"i", .loopVariable⟩, ⟨"a", .read⟩, ⟨"n", .read⟩, ⟨"x", .memoryTarget⟩] ∧
      p.references.map Reference.name =
        (Token.occurrences [] (ls.map Lexeme.token)).map Occurrence.name ∧
      List.Forall₂ (fun r o => (r.role = .loopVariable ↔ o.AfterFor) ∧
          (r.role = .memoryTarget ↔ o.AfterMemory))
        p.references (Token.occurrences [] (ls.map Lexeme.token)) := by
  intro source
  let p : Program := ⟨[.forDo "i" (Factor.designator ⟨"a", [.field "b"]⟩).toExpr .to
    (Factor.ident "n").toExpr (.memory .new "x")]⟩
  have hp : Program.parse source = .ok p := by decide +kernel
  obtain ⟨ls, n, _, hs, -⟩ := Program.parse_eq_ok_iff.1 hp
  exact ⟨ls, n, p, hs, hp, rfl, Program.references_eq_occurrences hs hp⟩

end MiniPascal
