import MiniPascal.Tree.Stmt

/-!
# Conditions on the parts of a tree

A `Requirement` lists conditions on the parts of a tree: on its names, its numbers and its lists,
on the designators that stand as factors and on the branches before an `else`. A tree `Meets` it if
all its parts, however deep, satisfy their conditions. A weaker requirement is met by more trees
(`Requirement.Implies`).
-/

namespace MiniPascal

/-- Conditions on the parts of a tree. What is not mentioned is not restricted. -/
structure Requirement where
  /-- On every name. -/
  name : String → Prop := fun _ => True
  /-- On a number that is a factor. -/
  literal : Int64 → Prop := fun _ => True
  /-- On a number that is a label. -/
  label : Int64 → Prop := fun _ => True
  /-- On the labels of an arm. -/
  labels : List Label → Prop := fun _ => True
  /-- On the indices of an array access. -/
  indices : List Expr → Prop := fun _ => True
  /-- On the access steps of a designator that is a factor. -/
  selectors : List Selector → Prop := fun _ => True
  /-- On the statements of a program, a compound statement or a `repeat` loop. -/
  body : List Stmt → Prop := fun _ => True
  /-- On the branch before an `else`. -/
  branch : Stmt → Prop := fun _ => True

/-- A tree that satisfies the conditions of `r` satisfies those of `q`. -/
structure Requirement.Implies (r q : Requirement) : Prop where
  name {x} : r.name x → q.name x
  literal {n} : r.literal n → q.literal n
  label {n} : r.label n → q.label n
  labels {ls} : r.labels ls → q.labels ls
  indices {es} : r.indices es → q.indices es
  selectors {ss} : r.selectors ss → q.selectors ss
  body {ss} : r.body ss → q.body ss
  branch {s} : r.branch s → q.branch s

/-! ## Expressions -/

mutual

/-- All parts of the expression satisfy their conditions. -/
def Expr.Meets (r : Requirement) : Expr → Prop
  | .simple e => e.Meets r
  | .comparison left _ right => left.Meets r ∧ right.Meets r

/-- `Expr.Meets` for a simple expression. -/
def SimpleExpr.Meets (r : Requirement) : SimpleExpr → Prop
  | ⟨_, first, rest⟩ => first.Meets r ∧ SimpleExpr.MeetsRest r rest

/-- `Term.Meets` for the further terms of a simple expression. -/
def SimpleExpr.MeetsRest (r : Requirement) : List (AddOp × Term) → Prop
  | [] => True
  | (_, t) :: rest => t.Meets r ∧ SimpleExpr.MeetsRest r rest

/-- `Expr.Meets` for a term. -/
def Term.Meets (r : Requirement) : Term → Prop
  | ⟨first, rest⟩ => first.Meets r ∧ Term.MeetsRest r rest

/-- `Factor.Meets` for the further factors of a term. -/
def Term.MeetsRest (r : Requirement) : List (MulOp × Factor) → Prop
  | [] => True
  | (_, f) :: rest => f.Meets r ∧ Term.MeetsRest r rest

/-- `Expr.Meets` for a factor. -/
def Factor.Meets (r : Requirement) : Factor → Prop
  | .ident x => r.name x
  | .number n => r.literal n
  | .bool _ | .nil => True
  | .designator d => r.selectors d.selectors ∧ d.Meets r
  | .paren e => e.Meets r
  | .not f => f.Meets r
  | .call x args => r.name x ∧ Expr.MeetsList r args

/-- `Expr.Meets` for each expression of a list. -/
def Expr.MeetsList (r : Requirement) : List Expr → Prop
  | [] => True
  | e :: es => e.Meets r ∧ Expr.MeetsList r es

/-- `Expr.Meets` for a designator. -/
def Designator.Meets (r : Requirement) : Designator → Prop
  | ⟨x, selectors⟩ => r.name x ∧ Selector.MeetsList r selectors

/-- `Selector.Meets` for each access step of a list. -/
def Selector.MeetsList (r : Requirement) : List Selector → Prop
  | [] => True
  | s :: ss => s.Meets r ∧ Selector.MeetsList r ss

/-- `Expr.Meets` for an access step. -/
def Selector.Meets (r : Requirement) : Selector → Prop
  | .field x => r.name x
  | .index es => r.indices es ∧ Expr.MeetsList r es
  | .deref => True

end

/-! ## Statements -/

/-- The label satisfies the condition for names or for numbers. -/
def Label.Meets (r : Requirement) : Label → Prop
  | .number n => r.label n
  | .bool _ | .nil => True
  | .ident x => r.name x

mutual

/-- All parts of the statement satisfy their conditions. -/
def Stmt.Meets (r : Requirement) : Stmt → Prop
  | .assign target value => target.Meets r ∧ value.Meets r
  | .call x args => r.name x ∧ Expr.MeetsList r args
  | .ifThen cond body => cond.Meets r ∧ body.Meets r
  | .ifThenElse cond body other => cond.Meets r ∧ r.branch body ∧ body.Meets r ∧ other.Meets r
  | .caseOf subject arms => subject.Meets r ∧ CaseArm.MeetsList r arms
  | .whileDo cond body => cond.Meets r ∧ body.Meets r
  | .repeatUntil body cond => r.body body ∧ Stmt.MeetsList r body ∧ cond.Meets r
  | .forDo counter start _ finish body =>
    r.name counter ∧ start.Meets r ∧ finish.Meets r ∧ body.Meets r
  | .memory _ x => r.name x
  | .compound body => r.body body ∧ Stmt.MeetsList r body
  | .empty => True

/-- `Stmt.Meets` for each statement of a list. -/
def Stmt.MeetsList (r : Requirement) : List Stmt → Prop
  | [] => True
  | s :: ss => s.Meets r ∧ Stmt.MeetsList r ss

/-- `Stmt.Meets` for an arm of a case statement. -/
def CaseArm.Meets (r : Requirement) : CaseArm → Prop
  | ⟨labels, body⟩ => r.labels labels ∧ (∀ l ∈ labels, l.Meets r) ∧ body.Meets r

/-- `CaseArm.Meets` for each arm of a list. -/
def CaseArm.MeetsList (r : Requirement) : List CaseArm → Prop
  | [] => True
  | a :: as => a.Meets r ∧ CaseArm.MeetsList r as

end

/-- All parts of the program satisfy their conditions. -/
def Program.Meets (r : Requirement) (p : Program) : Prop :=
  r.body p.body ∧ Stmt.MeetsList r p.body

section
variable {r : Requirement}

/-- `Stmt.MeetsList` in terms of the members. -/
theorem Stmt.meetsList_iff {ss : List Stmt} : Stmt.MeetsList r ss ↔ ∀ s ∈ ss, s.Meets r := by
  induction ss with
  | nil => simp [Stmt.MeetsList]
  | cons s ss ih => simp [Stmt.MeetsList, ih]

end

/-! ## Weaker requirements -/

section
variable {r q : Requirement}

mutual

/-- An expression that meets a requirement meets every weaker one. -/
theorem Expr.meets_mono (h : r.Implies q) : ∀ e : Expr, e.Meets r → e.Meets q
  | .simple e, he => SimpleExpr.meets_mono h e he
  | .comparison left _ right, ⟨hl, hr⟩ =>
    ⟨SimpleExpr.meets_mono h left hl, SimpleExpr.meets_mono h right hr⟩

/-- A simple expression that meets a requirement meets every weaker one. -/
theorem SimpleExpr.meets_mono (h : r.Implies q) : ∀ e : SimpleExpr, e.Meets r → e.Meets q
  | ⟨_, first, rest⟩, ⟨hf, hr⟩ =>
    ⟨Term.meets_mono h first hf, SimpleExpr.meetsRest_mono h rest hr⟩

/-- `SimpleExpr.meets_mono` for the further terms. -/
theorem SimpleExpr.meetsRest_mono (h : r.Implies q) : ∀ rest : List (AddOp × Term),
    SimpleExpr.MeetsRest r rest → SimpleExpr.MeetsRest q rest
  | [], _ => trivial
  | (_, t) :: rest, ⟨ht, hr⟩ => ⟨Term.meets_mono h t ht, SimpleExpr.meetsRest_mono h rest hr⟩

/-- A term that meets a requirement meets every weaker one. -/
theorem Term.meets_mono (h : r.Implies q) : ∀ t : Term, t.Meets r → t.Meets q
  | ⟨first, rest⟩, ⟨hf, hr⟩ => ⟨Factor.meets_mono h first hf, Term.meetsRest_mono h rest hr⟩

/-- `Term.meets_mono` for the further factors. -/
theorem Term.meetsRest_mono (h : r.Implies q) : ∀ rest : List (MulOp × Factor),
    Term.MeetsRest r rest → Term.MeetsRest q rest
  | [], _ => trivial
  | (_, f) :: rest, ⟨hf, hr⟩ => ⟨Factor.meets_mono h f hf, Term.meetsRest_mono h rest hr⟩

/-- A factor that meets a requirement meets every weaker one. -/
theorem Factor.meets_mono (h : r.Implies q) : ∀ f : Factor, f.Meets r → f.Meets q
  | .ident _, hx => h.name hx
  | .number _, hn => h.literal hn
  | .bool _, _ | .nil, _ => trivial
  | .designator d, ⟨hs, hd⟩ => ⟨h.selectors hs, Designator.meets_mono h d hd⟩
  | .paren e, he => Expr.meets_mono h e he
  | .not f, hf => Factor.meets_mono h f hf
  | .call _ args, ⟨hx, ha⟩ => ⟨h.name hx, Expr.meetsList_mono h args ha⟩

/-- `Expr.meets_mono` for each of the expressions. -/
theorem Expr.meetsList_mono (h : r.Implies q) : ∀ es : List Expr,
    Expr.MeetsList r es → Expr.MeetsList q es
  | [], _ => trivial
  | e :: es, ⟨he, hes⟩ => ⟨Expr.meets_mono h e he, Expr.meetsList_mono h es hes⟩

/-- A designator that meets a requirement meets every weaker one. -/
theorem Designator.meets_mono (h : r.Implies q) : ∀ d : Designator, d.Meets r → d.Meets q
  | ⟨_, selectors⟩, ⟨hx, hs⟩ => ⟨h.name hx, Selector.meetsList_mono h selectors hs⟩

/-- `Selector.meets_mono` for each of the access steps. -/
theorem Selector.meetsList_mono (h : r.Implies q) : ∀ ss : List Selector,
    Selector.MeetsList r ss → Selector.MeetsList q ss
  | [], _ => trivial
  | s :: ss, ⟨hs, hss⟩ => ⟨Selector.meets_mono h s hs, Selector.meetsList_mono h ss hss⟩

/-- An access step that meets a requirement meets every weaker one. -/
theorem Selector.meets_mono (h : r.Implies q) : ∀ s : Selector, s.Meets r → s.Meets q
  | .field _, hx => h.name hx
  | .index es, ⟨hi, hes⟩ => ⟨h.indices hi, Expr.meetsList_mono h es hes⟩
  | .deref, _ => trivial

end

/-- A label that meets a requirement meets every weaker one. -/
theorem Label.meets_mono (h : r.Implies q) (l : Label) (hl : l.Meets r) : l.Meets q := by
  cases l with
  | number => exact h.label hl
  | ident => exact h.name hl
  | bool | nil => trivial

mutual

/-- A statement that meets a requirement meets every weaker one. -/
theorem Stmt.meets_mono (h : r.Implies q) : ∀ s : Stmt, s.Meets r → s.Meets q
  | .assign target value, ⟨hd, he⟩ => ⟨target.meets_mono h hd, value.meets_mono h he⟩
  | .call _ args, ⟨hx, ha⟩ => ⟨h.name hx, Expr.meetsList_mono h args ha⟩
  | .ifThen cond body, ⟨hc, hs⟩ => ⟨cond.meets_mono h hc, Stmt.meets_mono h body hs⟩
  | .ifThenElse cond body other, ⟨hc, hb, hs, hs'⟩ =>
    ⟨cond.meets_mono h hc, h.branch hb, Stmt.meets_mono h body hs, Stmt.meets_mono h other hs'⟩
  | .caseOf subject arms, ⟨he, ha⟩ => ⟨subject.meets_mono h he, CaseArm.meetsList_mono h arms ha⟩
  | .whileDo cond body, ⟨hc, hs⟩ => ⟨cond.meets_mono h hc, Stmt.meets_mono h body hs⟩
  | .repeatUntil body cond, ⟨hb, hs, hc⟩ =>
    ⟨h.body hb, Stmt.meetsList_mono h body hs, cond.meets_mono h hc⟩
  | .forDo _ start _ finish body, ⟨hx, he, he', hs⟩ =>
    ⟨h.name hx, start.meets_mono h he, finish.meets_mono h he', Stmt.meets_mono h body hs⟩
  | .memory _ _, hx => h.name hx
  | .compound body, ⟨hb, hs⟩ => ⟨h.body hb, Stmt.meetsList_mono h body hs⟩
  | .empty, _ => trivial

/-- `Stmt.meets_mono` for each of the statements. -/
theorem Stmt.meetsList_mono (h : r.Implies q) : ∀ ss : List Stmt,
    Stmt.MeetsList r ss → Stmt.MeetsList q ss
  | [], _ => trivial
  | s :: ss, ⟨hs, hss⟩ => ⟨Stmt.meets_mono h s hs, Stmt.meetsList_mono h ss hss⟩

/-- An arm that meets a requirement meets every weaker one. -/
theorem CaseArm.meets_mono (h : r.Implies q) : ∀ a : CaseArm, a.Meets r → a.Meets q
  | ⟨_, body⟩, ⟨hl, hls, hs⟩ =>
    ⟨h.labels hl, fun l hm => l.meets_mono h (hls l hm), Stmt.meets_mono h body hs⟩

/-- `CaseArm.meets_mono` for each of the arms. -/
theorem CaseArm.meetsList_mono (h : r.Implies q) : ∀ as : List CaseArm,
    CaseArm.MeetsList r as → CaseArm.MeetsList q as
  | [], _ => trivial
  | a :: as, ⟨ha, has⟩ => ⟨CaseArm.meets_mono h a ha, CaseArm.meetsList_mono h as has⟩

end

/-- A program that meets a requirement meets every weaker one. -/
theorem Program.meets_mono (h : r.Implies q) (p : Program) (hp : p.Meets r) : p.Meets q :=
  ⟨h.body hp.1, Stmt.meetsList_mono h p.body hp.2⟩

end

end MiniPascal
