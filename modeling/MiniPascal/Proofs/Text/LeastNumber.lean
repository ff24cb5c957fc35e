import MiniPascal.Proofs.Requirement
import MiniPascal.Proofs.Text.Tokens

/-!
# The least number among the tokens

A signed number has one negative value more than it has positive ones, so the least number is its
own negation, and no token of a text stands for its absolute value. A tree holds it as a factor or
as a label exactly if it is among the tokens of the tree (`Program.meets_bounded_iff`).
-/

namespace MiniPascal

/-- The requirement, and besides that no factor and no label is the least number. -/
def Requirement.bounded (r : Requirement) : Requirement where
  name := r.name
  literal n := r.literal n ∧ n ≠ Int64.minValue
  label n := r.label n ∧ n ≠ Int64.minValue
  labels := r.labels
  indices := r.indices
  selectors := r.selectors
  body := r.body
  branch := r.branch

section
variable {r : Requirement}

@[simp] theorem Requirement.bounded_name : r.bounded.name = r.name := rfl

@[simp] theorem Requirement.bounded_labels : r.bounded.labels = r.labels := rfl

@[simp] theorem Requirement.bounded_body : r.bounded.body = r.body := rfl

@[simp] theorem Requirement.bounded_branch : r.bounded.branch = r.branch := rfl

end

/-- None of the tokens is the least number. -/
def Token.Bounded (ts : List Token) : Prop :=
  .number Int64.minValue ∉ ts

/-! ## Lists of tokens -/

namespace Token

section
variable {t : Token} {ts us : List Token} {tss : List (List Token)}

/-- The empty list of tokens has no least number in it. -/
@[simp] theorem bounded_nil : Bounded [] :=
  List.not_mem_nil

/-- One more token that must not be the least number. -/
@[simp] theorem bounded_cons : Bounded (t :: ts) ↔ t ≠ .number Int64.minValue ∧ Bounded ts := by
  rw [Bounded, List.mem_cons, not_or, ne_comm, Bounded]

/-- The least number is among tokens if it is in one of the two parts. -/
@[simp] theorem bounded_append : Bounded (ts ++ us) ↔ Bounded ts ∧ Bounded us := by
  rw [Bounded, List.mem_append, not_or, Bounded, Bounded]

/-- A keyword or a symbol in front makes no difference. -/
theorem bounded_cons_fixed (h : t.IsFixed) : Bounded (t :: ts) ↔ Bounded ts := by
  rcases h with ⟨k, rfl⟩ | ⟨s, rfl⟩ <;> simp

/-- The symbols between lists of tokens make no difference. -/
theorem bounded_intercalate {s : Symbol} :
    Bounded ([.symbol s].intercalate tss) ↔ ∀ ts ∈ tss, Bounded ts := by
  induction tss with
  | nil => simp
  | cons ts tss ih =>
    cases tss with
    | nil => simp
    | cons us tss =>
      rw [List.intercalate_cons_cons, bounded_append, bounded_append, ih]
      simp

/-- The symbols around and between lists of tokens make no difference. -/
theorem bounded_ofList {left right : Symbol} :
    Bounded (ofList left tss right) ↔ ∀ ts ∈ tss, Bounded ts := by
  simp [ofList, bounded_intercalate]

/-- The least number is its own negation. -/
theorem bounded_ofNumber {n : Int64} : Bounded (ofNumber n) ↔ n ≠ Int64.minValue := by
  have hneg : -n = Int64.minValue ↔ n = Int64.minValue := by
    constructor
    · intro h
      rw [← Int64.neg_neg (a := n), h]
      rfl
    · rintro rfl
      rfl
  rw [ofNumber]
  split <;> simp [hneg]

/-- The token of a truth value is not the least number. -/
theorem bounded_ofBool (b : Bool) : Bounded [ofBool b] := by
  cases b <;> simp [ofBool]

end

end Token

open Token (Bounded bounded_nil bounded_cons bounded_append bounded_cons_fixed bounded_intercalate
  bounded_ofList bounded_ofNumber bounded_ofBool)

section
variable {r : Requirement}

/-! ## Expressions -/

mutual

/-- No number in an expression is the least one if none of its tokens is. -/
theorem Expr.meets_bounded_iff : ∀ e : Expr, e.Meets r.bounded ↔ e.Meets r ∧ Bounded e.tokens
  | .simple e => SimpleExpr.meets_bounded_iff e
  | .comparison left op right => by
    rw [Expr.Meets, Expr.Meets, Expr.tokens, bounded_append, bounded_cons_fixed op.token_fixed,
      SimpleExpr.meets_bounded_iff left, SimpleExpr.meets_bounded_iff right]
    exact and_and_and_comm

/-- No number in a simple expression is the least one if none of its tokens is. -/
theorem SimpleExpr.meets_bounded_iff : ∀ e : SimpleExpr,
    e.Meets r.bounded ↔ e.Meets r ∧ Bounded e.tokens
  | ⟨none, first, rest⟩ => by
    rw [SimpleExpr.Meets, SimpleExpr.Meets, SimpleExpr.tokens, bounded_append,
      Term.meets_bounded_iff first, SimpleExpr.meetsRest_bounded_iff rest]
    exact and_and_and_comm
  | ⟨some sign, first, rest⟩ => by
    rw [SimpleExpr.Meets, SimpleExpr.Meets, SimpleExpr.tokens, bounded_cons_fixed sign.token_fixed,
      bounded_append, Term.meets_bounded_iff first, SimpleExpr.meetsRest_bounded_iff rest]
    exact and_and_and_comm

/-- `SimpleExpr.meets_bounded_iff` for the further terms. -/
theorem SimpleExpr.meetsRest_bounded_iff : ∀ rest : List (AddOp × Term),
    SimpleExpr.MeetsRest r.bounded rest ↔
      SimpleExpr.MeetsRest r rest ∧ Bounded (SimpleExpr.restTokens rest)
  | [] => by simp [SimpleExpr.MeetsRest, SimpleExpr.restTokens]
  | (op, t) :: rest => by
    rw [SimpleExpr.MeetsRest, SimpleExpr.MeetsRest, SimpleExpr.restTokens,
      bounded_cons_fixed op.token_fixed, bounded_append, Term.meets_bounded_iff t,
      SimpleExpr.meetsRest_bounded_iff rest]
    exact and_and_and_comm

/-- No number in a term is the least one if none of its tokens is. -/
theorem Term.meets_bounded_iff : ∀ t : Term, t.Meets r.bounded ↔ t.Meets r ∧ Bounded t.tokens
  | ⟨first, rest⟩ => by
    rw [Term.Meets, Term.Meets, Term.tokens, bounded_append, Factor.meets_bounded_iff first,
      Term.meetsRest_bounded_iff rest]
    exact and_and_and_comm

/-- `Term.meets_bounded_iff` for the further factors. -/
theorem Term.meetsRest_bounded_iff : ∀ rest : List (MulOp × Factor),
    Term.MeetsRest r.bounded rest ↔ Term.MeetsRest r rest ∧ Bounded (Term.restTokens rest)
  | [] => by simp [Term.MeetsRest, Term.restTokens]
  | (op, f) :: rest => by
    rw [Term.MeetsRest, Term.MeetsRest, Term.restTokens, bounded_cons_fixed op.token_fixed,
      bounded_append, Factor.meets_bounded_iff f, Term.meetsRest_bounded_iff rest]
    exact and_and_and_comm

/-- A number that is a factor is the least one if its token is: the least number is not turned into
another one by its minus sign. -/
theorem Factor.meets_bounded_iff : ∀ f : Factor, f.Meets r.bounded ↔ f.Meets r ∧ Bounded f.tokens
  | .ident x => by simp [Factor.Meets, Factor.tokens]
  | .number n => by
    have hn : Bounded (Factor.number n).tokens ↔ n ≠ Int64.minValue := by
      rw [← bounded_ofNumber, Factor.tokens, Token.ofNumber]
      split <;> simp
    rw [hn]
    rfl
  | .bool b => by simpa [Factor.Meets, Factor.tokens] using bounded_ofBool b
  | .nil => by simp [Factor.Meets, Factor.tokens]
  | .designator d => by
    rw [Factor.Meets, Factor.Meets, Factor.tokens, Designator.meets_bounded_iff d, ← and_assoc]
    rfl
  | .paren e => by simp [Factor.Meets, Factor.tokens, Expr.meets_bounded_iff e]
  | .not f => by simp [Factor.Meets, Factor.tokens, Factor.meets_bounded_iff f]
  | .call x args => by
    simp [Factor.Meets, Factor.tokens, bounded_ofList, Expr.meetsList_bounded_iff args, and_assoc]

/-- `Expr.meets_bounded_iff` for each of the expressions. -/
theorem Expr.meetsList_bounded_iff : ∀ es : List Expr,
    Expr.MeetsList r.bounded es ↔ Expr.MeetsList r es ∧ ∀ ts ∈ Expr.tokensOf es, Bounded ts
  | [] => by simp [Expr.MeetsList, Expr.tokensOf]
  | e :: es => by
    rw [Expr.MeetsList, Expr.MeetsList, Expr.tokensOf, List.forall_mem_cons,
      Expr.meets_bounded_iff e, Expr.meetsList_bounded_iff es]
    exact and_and_and_comm

/-- No number in a designator is the least one if none of its tokens is. -/
theorem Designator.meets_bounded_iff : ∀ d : Designator,
    d.Meets r.bounded ↔ d.Meets r ∧ Bounded d.tokens
  | ⟨x, selectors⟩ => by
    simp [Designator.Meets, Designator.tokens, Selector.meetsList_bounded_iff selectors, and_assoc]

/-- `Selector.meets_bounded_iff` for the access steps of a designator. -/
theorem Selector.meetsList_bounded_iff : ∀ ss : List Selector,
    Selector.MeetsList r.bounded ss ↔ Selector.MeetsList r ss ∧ Bounded (Selector.tokensOf ss)
  | [] => by simp [Selector.MeetsList, Selector.tokensOf]
  | s :: ss => by
    rw [Selector.MeetsList, Selector.MeetsList, Selector.tokensOf, bounded_append,
      Selector.meets_bounded_iff s, Selector.meetsList_bounded_iff ss]
    exact and_and_and_comm

/-- No number in an access step is the least one if none of its tokens is. -/
theorem Selector.meets_bounded_iff : ∀ s : Selector,
    s.Meets r.bounded ↔ s.Meets r ∧ Bounded s.tokens
  | .field x => by simp [Selector.Meets, Selector.tokens]
  | .index es => by
    rw [Selector.Meets, Selector.Meets, Selector.tokens, bounded_ofList,
      Expr.meetsList_bounded_iff es, ← and_assoc]
    rfl
  | .deref => by simp [Selector.Meets, Selector.tokens]

end

/-! ## Statements -/

/-- A label is the least number if its token is. -/
theorem Label.meets_bounded_iff (l : Label) :
    l.Meets r.bounded ↔ l.Meets r ∧ Bounded l.tokens := by
  cases l with
  | number n =>
    rw [Label.tokens, bounded_ofNumber]
    rfl
  | bool b => simpa [Label.Meets, Label.tokens] using bounded_ofBool b
  | nil => simp [Label.Meets, Label.tokens]
  | ident x => simp [Label.Meets, Label.tokens]

/-- `Label.meets_bounded_iff` for each of the labels. -/
theorem Label.meetsList_bounded_iff (ls : List Label) :
    (∀ l ∈ ls, l.Meets r.bounded) ↔
      (∀ l ∈ ls, l.Meets r) ∧ ∀ ts ∈ ls.map Label.tokens, Bounded ts := by
  simp only [Label.meets_bounded_iff, List.forall_mem_map]
  exact ⟨fun h => ⟨fun l hl => (h l hl).1, fun l hl => (h l hl).2⟩,
    fun h l hl => ⟨h.1 l hl, h.2 l hl⟩⟩

mutual

/-- No number in a statement is the least one if none of its tokens is. -/
theorem Stmt.meets_bounded_iff : ∀ s : Stmt, s.Meets r.bounded ↔ s.Meets r ∧ Bounded s.tokens
  | .assign target value => by
    rw [Stmt.Meets, Stmt.Meets, Stmt.tokens, bounded_append,
      bounded_cons_fixed (.inr ⟨_, rfl⟩), target.meets_bounded_iff, value.meets_bounded_iff]
    exact and_and_and_comm
  | .call x args => by
    rw [Stmt.Meets, Stmt.Meets, Stmt.tokens, Expr.meetsList_bounded_iff args, ← and_assoc]
    split
    · next h => simp [List.isEmpty_iff.1 h, Expr.tokensOf]
    · simp [bounded_ofList]
  | .ifThen cond body => by
    simp only [Stmt.Meets, Stmt.tokens, bounded_append, bounded_cons_fixed (.inl ⟨_, rfl⟩),
      cond.meets_bounded_iff, Stmt.meets_bounded_iff body]
    exact and_and_and_comm
  | .ifThenElse cond body other => by
    have hbranch : Bounded
        (if body.endsOpen then .keyword .begin :: (body.tokens ++ [.keyword .end])
          else body.tokens) ↔ Bounded body.tokens := by
      split <;> simp
    simp [Stmt.Meets, Stmt.tokens, hbranch, cond.meets_bounded_iff, Stmt.meets_bounded_iff body,
      Stmt.meets_bounded_iff other, and_assoc, and_left_comm]
  | .caseOf subject arms => by
    simp [Stmt.Meets, Stmt.tokens, bounded_intercalate, subject.meets_bounded_iff,
      CaseArm.meetsList_bounded_iff arms, and_assoc, and_left_comm]
  | .whileDo cond body => by
    simp [Stmt.Meets, Stmt.tokens, cond.meets_bounded_iff, Stmt.meets_bounded_iff body, and_assoc,
      and_left_comm]
  | .repeatUntil body cond => by
    simp [Stmt.Meets, Stmt.tokens, bounded_intercalate, cond.meets_bounded_iff,
      Stmt.meetsList_bounded_iff body, and_assoc, and_left_comm]
  | .forDo counter start direction finish body => by
    simp [Stmt.Meets, Stmt.tokens, bounded_cons_fixed direction.token_fixed,
      start.meets_bounded_iff, finish.meets_bounded_iff, Stmt.meets_bounded_iff body, and_assoc,
      and_left_comm]
  | .memory kind x => by
    simp [Stmt.Meets, Stmt.tokens, bounded_cons_fixed kind.token_fixed]
  | .compound body => by
    simp [Stmt.Meets, Stmt.tokens, bounded_intercalate, Stmt.meetsList_bounded_iff body, and_assoc]
  | .empty => by simp [Stmt.Meets, Stmt.tokens]

/-- `Stmt.meets_bounded_iff` for each of the statements. -/
theorem Stmt.meetsList_bounded_iff : ∀ ss : List Stmt,
    Stmt.MeetsList r.bounded ss ↔ Stmt.MeetsList r ss ∧ ∀ ts ∈ Stmt.tokensOf ss, Bounded ts
  | [] => by simp [Stmt.MeetsList, Stmt.tokensOf]
  | s :: ss => by
    rw [Stmt.MeetsList, Stmt.MeetsList, Stmt.tokensOf, List.forall_mem_cons,
      Stmt.meets_bounded_iff s, Stmt.meetsList_bounded_iff ss]
    exact and_and_and_comm

/-- No number in an arm is the least one if none of its tokens is. -/
theorem CaseArm.meets_bounded_iff : ∀ a : CaseArm,
    a.Meets r.bounded ↔ a.Meets r ∧ Bounded a.tokens
  | ⟨labels, body⟩ => by
    simp [CaseArm.Meets, CaseArm.tokens, bounded_intercalate, Label.meetsList_bounded_iff labels,
      Stmt.meets_bounded_iff body, and_assoc, and_left_comm]

/-- `CaseArm.meets_bounded_iff` for each of the arms. -/
theorem CaseArm.meetsList_bounded_iff : ∀ as : List CaseArm,
    CaseArm.MeetsList r.bounded as ↔
      CaseArm.MeetsList r as ∧ ∀ ts ∈ CaseArm.tokensOf as, Bounded ts
  | [] => by simp [CaseArm.MeetsList, CaseArm.tokensOf]
  | a :: as => by
    rw [CaseArm.MeetsList, CaseArm.MeetsList, CaseArm.tokensOf, List.forall_mem_cons,
      CaseArm.meets_bounded_iff a, CaseArm.meetsList_bounded_iff as]
    exact and_and_and_comm

end

/-- A program holds the least number exactly if it is among its tokens. -/
theorem Program.meets_bounded_iff (p : Program) :
    p.Meets r.bounded ↔ p.Meets r ∧ Bounded p.tokens := by
  rw [Program.Meets, Program.Meets, Program.tokens, bounded_intercalate,
    Stmt.meetsList_bounded_iff, ← and_assoc]
  rfl

end

end MiniPascal
