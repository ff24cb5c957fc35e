import MiniPascal.Tree.Stmt

/-!
# Counting nodes

`Program.count` counts the nodes of a program on each of nine layers. A compound or empty statement
counts as a statement, the target of an assignment as a designator, and the operand of a negation as
one more factor. Counts add up over the parts of a tree.
-/

namespace MiniPascal

/-- How many nodes there are on each layer. -/
structure NodeCount where
  statements : Nat
  caseArms : Nat
  caseLabels : Nat
  expressions : Nat
  simpleExpressions : Nat
  terms : Nat
  factors : Nat
  designators : Nat
  selectors : Nat
  deriving DecidableEq

namespace NodeCount

/-- No nodes. -/
def zero : NodeCount := ⟨0, 0, 0, 0, 0, 0, 0, 0, 0⟩

/-- The nodes of two parts together. -/
def add (a b : NodeCount) : NodeCount :=
  ⟨a.statements + b.statements, a.caseArms + b.caseArms, a.caseLabels + b.caseLabels,
    a.expressions + b.expressions, a.simpleExpressions + b.simpleExpressions, a.terms + b.terms,
    a.factors + b.factors, a.designators + b.designators, a.selectors + b.selectors⟩

instance : Zero NodeCount := ⟨zero⟩
instance : Add NodeCount := ⟨add⟩

/-- One statement. -/
def statement : NodeCount := ⟨1, 0, 0, 0, 0, 0, 0, 0, 0⟩

/-- One arm of a case statement with the given number of labels. -/
def arm (labels : Nat) : NodeCount := ⟨0, 1, labels, 0, 0, 0, 0, 0, 0⟩

/-- One label. -/
def label : NodeCount := ⟨0, 0, 1, 0, 0, 0, 0, 0, 0⟩

/-- One expression. -/
def expression : NodeCount := ⟨0, 0, 0, 1, 0, 0, 0, 0, 0⟩

/-- One simple expression. -/
def simple : NodeCount := ⟨0, 0, 0, 0, 1, 0, 0, 0, 0⟩

/-- One term. -/
def term : NodeCount := ⟨0, 0, 0, 0, 0, 1, 0, 0, 0⟩

/-- One factor. -/
def factor : NodeCount := ⟨0, 0, 0, 0, 0, 0, 1, 0, 0⟩

/-- One designator. -/
def designator : NodeCount := ⟨0, 0, 0, 0, 0, 0, 0, 1, 0⟩

/-- One access step. -/
def selector : NodeCount := ⟨0, 0, 0, 0, 0, 0, 0, 0, 1⟩

/-- The counts in the order of the layers. -/
def toList (c : NodeCount) : List Nat :=
  [c.statements, c.caseArms, c.caseLabels, c.expressions, c.simpleExpressions, c.terms, c.factors,
    c.designators, c.selectors]

/-- The nodes on all layers together. -/
def total (c : NodeCount) : Nat :=
  c.statements + c.caseArms + c.caseLabels + c.expressions + c.simpleExpressions + c.terms
    + c.factors + c.designators + c.selectors

/-- Counts are equal if those on each layer are. -/
@[ext] theorem ext {a b : NodeCount} (h : a.toList = b.toList) : a = b := by
  cases a; cases b; simpa [toList] using h

@[simp] theorem toList_zero : toList 0 = [0, 0, 0, 0, 0, 0, 0, 0, 0] := rfl

@[simp] theorem toList_add (a b : NodeCount) :
    (a + b).toList = List.zipWith (· + ·) a.toList b.toList := rfl

section
variable (a b c : NodeCount)

@[simp] theorem caseArms_add : (a + b).caseArms = a.caseArms + b.caseArms := rfl

@[simp] theorem expressions_add : (a + b).expressions = a.expressions + b.expressions := rfl

@[simp] theorem simpleExpressions_add :
    (a + b).simpleExpressions = a.simpleExpressions + b.simpleExpressions := rfl

@[simp] theorem terms_add : (a + b).terms = a.terms + b.terms := rfl

@[simp] theorem factors_add : (a + b).factors = a.factors + b.factors := rfl

@[simp] theorem selectors_add : (a + b).selectors = a.selectors + b.selectors := rfl

/-- No counts and some counts. -/
theorem zero_add : 0 + a = a := by
  ext1
  rw [toList_add, toList_zero]
  simp [toList]

/-- Counts may be added up in any grouping. -/
theorem add_assoc : a + b + c = a + (b + c) := by
  ext1
  simp only [toList_add]
  simp [toList, Nat.add_assoc]

end

end NodeCount

/-! ## Expressions -/

mutual

/-- The nodes of an expression. -/
def Expr.count : Expr → NodeCount
  | .simple e => .expression + e.count
  | .comparison left _ right => .expression + left.count + right.count

/-- The nodes of a simple expression. -/
def SimpleExpr.count : SimpleExpr → NodeCount
  | ⟨_, first, rest⟩ => .simple + first.count + SimpleExpr.countRest rest

/-- The nodes of the further terms. -/
def SimpleExpr.countRest : List (AddOp × Term) → NodeCount
  | [] => 0
  | (_, t) :: rest => t.count + SimpleExpr.countRest rest

/-- The nodes of a term. -/
def Term.count : Term → NodeCount
  | ⟨first, rest⟩ => .term + first.count + Term.countRest rest

/-- The nodes of the further factors. -/
def Term.countRest : List (MulOp × Factor) → NodeCount
  | [] => 0
  | (_, f) :: rest => f.count + Term.countRest rest

/-- The nodes of a factor. -/
def Factor.count : Factor → NodeCount
  | .ident _ | .number _ | .bool _ | .nil => .factor
  | .designator d => .factor + d.count
  | .paren e => .factor + e.count
  | .not f => .factor + f.count
  | .call _ args => .factor + Expr.countList args

/-- The nodes of a list of expressions. -/
def Expr.countList : List Expr → NodeCount
  | [] => 0
  | e :: es => e.count + Expr.countList es

/-- The nodes of a designator. -/
def Designator.count : Designator → NodeCount
  | ⟨_, selectors⟩ => .designator + Selector.countList selectors

/-- The nodes of a list of access steps. -/
def Selector.countList : List Selector → NodeCount
  | [] => 0
  | s :: rest => s.count + Selector.countList rest

/-- The nodes of an access step. -/
def Selector.count : Selector → NodeCount
  | .field _ | .deref => .selector
  | .index indices => .selector + Expr.countList indices

end

/-! ## Statements -/

mutual

/-- The nodes of a statement. -/
def Stmt.count : Stmt → NodeCount
  | .assign target value => .statement + target.count + value.count
  | .call _ args => .statement + Expr.countList args
  | .ifThen cond body => .statement + cond.count + body.count
  | .ifThenElse cond body other => .statement + cond.count + body.count + other.count
  | .caseOf subject arms => .statement + subject.count + CaseArm.countList arms
  | .whileDo cond body => .statement + cond.count + body.count
  | .repeatUntil body cond => .statement + Stmt.countList body + cond.count
  | .forDo _ start _ finish body => .statement + start.count + finish.count + body.count
  | .memory _ _ => .statement
  | .compound body => .statement + Stmt.countList body
  | .empty => .statement

/-- The nodes of a list of statements. -/
def Stmt.countList : List Stmt → NodeCount
  | [] => 0
  | s :: rest => s.count + Stmt.countList rest

/-- The nodes of an arm of a case statement. -/
def CaseArm.count : CaseArm → NodeCount
  | ⟨labels, body⟩ => .arm labels.length + body.count

/-- The nodes of a list of case arms. -/
def CaseArm.countList : List CaseArm → NodeCount
  | [] => 0
  | arm :: rest => arm.count + CaseArm.countList rest

end

/-- The nodes of a program. -/
def Program.count (p : Program) : NodeCount :=
  Stmt.countList p.body

end MiniPascal
