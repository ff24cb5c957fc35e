import MiniPascal.Outcome
import MiniPascal.Tree.Text

/-!
# Traversal

`Program.visit` enters every node of a program in the order of the source, a parent before its
children. What happens at a node is up to the visitor, which has a handler for each kind of node: it
is given the node and the walk of the children, which it may run, skip or surround. A statement is
entered twice, first as a statement and then as the statement it is, and so is a factor that has
children.

`Program.walk` is the visit that records the nodes it enters. It does not walk below nodes of the
kinds to be pruned, and it may be limited to a number of nodes.
-/

namespace MiniPascal

/-! ## Nodes -/

/-- The kinds of nodes. -/
inductive NodeKind where
  | statements | statement | assignment | procedureCall | conditional | caseStatement | arm
  | whileLoop | repeatLoop | forLoop | memory | empty | label | expression | simple | term | factor
  | negation | functionCall | designator | selector
  deriving DecidableEq

namespace NodeKind

/-- Every kind of node once. -/
def all : List NodeKind :=
  [.statements, .statement, .assignment, .procedureCall, .conditional, .caseStatement, .arm,
    .whileLoop, .repeatLoop, .forLoop, .memory, .empty, .label, .expression, .simple, .term,
    .factor, .negation, .functionCall, .designator, .selector]

/-- The name of a kind of node. -/
def name : NodeKind → String
  | .statements => "stmt_seq"
  | .statement => "stmt"
  | .assignment => "assignment"
  | .procedureCall => "proc_call"
  | .conditional => "if"
  | .caseStatement => "case_stmt"
  | .arm => "case"
  | .whileLoop => "while"
  | .repeatLoop => "repeat"
  | .forLoop => "for"
  | .memory => "memory"
  | .empty => "empty"
  | .label => "const"
  | .expression => "expr"
  | .simple => "simple_expr"
  | .term => "term"
  | .factor => "factor"
  | .negation => "negation"
  | .functionCall => "func_call"
  | .designator => "designator"
  | .selector => "designator_item"

end NodeKind

/-- A node of a program with the children below it. A designator knows whether it is the target of
an assignment. -/
inductive Node where
  | statements (body : List Stmt)
  | statement (s : Stmt)
  | assignment (target : Designator) (value : Expr)
  | procedureCall (name : String) (args : List Expr)
  | conditional (cond : Expr) (body : Stmt) (other : Option Stmt)
  | caseStatement (subject : Expr) (arms : List CaseArm)
  | arm (labels : List Label) (body : Stmt)
  | whileLoop (cond : Expr) (body : Stmt)
  | repeatLoop (body : List Stmt) (cond : Expr)
  | forLoop (counter : String) (start : Expr) (direction : Direction) (finish : Expr) (body : Stmt)
  | memory (kind : MemoryKind) (name : String)
  | empty
  | label (l : Label)
  | expression (e : Expr)
  | simple (e : SimpleExpr)
  | term (t : Term)
  | factor (f : Factor)
  | negation (f : Factor)
  | functionCall (name : String) (args : List Expr)
  | designator (isTarget : Bool) (d : Designator)
  | selector (s : Selector)

namespace Node

/-- The kind of a node. -/
def kind : Node → NodeKind
  | .statements _ => .statements
  | .statement _ => .statement
  | .assignment _ _ => .assignment
  | .procedureCall _ _ => .procedureCall
  | .conditional _ _ _ => .conditional
  | .caseStatement _ _ => .caseStatement
  | .arm _ _ => .arm
  | .whileLoop _ _ => .whileLoop
  | .repeatLoop _ _ => .repeatLoop
  | .forLoop _ _ _ _ _ => .forLoop
  | .memory _ _ => .memory
  | .empty => .empty
  | .label _ => .label
  | .expression _ => .expression
  | .simple _ => .simple
  | .term _ => .term
  | .factor _ => .factor
  | .negation _ => .negation
  | .functionCall _ _ => .functionCall
  | .designator _ _ => .designator
  | .selector _ => .selector

/-- What is told about a node besides its kind. -/
def detail : Node → String
  | .statements body => Decimal.text body.length ++ " " ++ boolText body.isEmpty
  | .statement s => s.kind
  | .assignment target _ => boolText target.isPlain
  | .procedureCall name _ => name
  | .conditional _ _ other => boolText other.isSome
  | .caseStatement _ arms => Decimal.text arms.length
  | .arm labels _ => Decimal.text labels.length
  | .whileLoop _ _ => ""
  | .repeatLoop body _ => Decimal.text body.length
  | .forLoop counter _ direction _ _ =>
    counter ++ " " ++ direction.word ++ " " ++ Decimal.text direction.step
  | .memory kind name => kind.word ++ " " ++ name
  | .empty => ""
  | .label l => l.text
  | .expression (.simple _) => "-"
  | .expression (.comparison _ op _) => op.symbol
  | .simple e => Decimal.text e.operands.length
  | .term t => Decimal.text t.operands.length
  | .factor f => f.kind
  | .negation _ => ""
  | .functionCall name _ => name
  | .designator _ d => d.name
  | .selector s => s.kind

/-- One line about a node: its kind, and what else is told about it. -/
def summary (n : Node) : String :=
  if n.detail.isEmpty then n.kind.name else n.kind.name ++ " " ++ n.detail

end Node

/-! ## Visitors -/

/-- What a visitor does at the nodes of each kind. A handler is given the node and the walk of its
children, which it may run, skip or surround; it does nothing but walk unless it says otherwise. The
handler of an assignment is given the parts of that walk, and also the walk that passes by the
target itself. The handler of a designator is told whether it is the target of an assignment. -/
structure Visitor (m : Type → Type) [Monad m] where
  statements : (body : List Stmt) → (walk : m Unit) → m Unit := fun _ walk => walk
  statement : (s : Stmt) → (walk : m Unit) → m Unit := fun _ walk => walk
  assignment : (target : Designator) → (value : Expr) →
      (walkTarget visitTarget visitValue : m Unit) → m Unit :=
    fun _ _ _ visitTarget visitValue => do
      visitTarget
      visitValue
  procedureCall : (name : String) → (args : List Expr) → (walk : m Unit) → m Unit :=
    fun _ _ walk => walk
  conditional : (cond : Expr) → (body : Stmt) → (other : Option Stmt) → (walk : m Unit) → m Unit :=
    fun _ _ _ walk => walk
  caseStatement : (subject : Expr) → (arms : List CaseArm) → (walk : m Unit) → m Unit :=
    fun _ _ walk => walk
  arm : (labels : List Label) → (body : Stmt) → (walk : m Unit) → m Unit := fun _ _ walk => walk
  whileLoop : (cond : Expr) → (body : Stmt) → (walk : m Unit) → m Unit := fun _ _ walk => walk
  repeatLoop : (body : List Stmt) → (cond : Expr) → (walk : m Unit) → m Unit :=
    fun _ _ walk => walk
  forLoop : (counter : String) → (start : Expr) → (direction : Direction) → (finish : Expr) →
      (body : Stmt) → (walk : m Unit) → m Unit :=
    fun _ _ _ _ _ walk => walk
  memory : (kind : MemoryKind) → (name : String) → m Unit := fun _ _ => pure ()
  empty : m Unit := pure ()
  label : (l : Label) → m Unit := fun _ => pure ()
  expression : (e : Expr) → (walk : m Unit) → m Unit := fun _ walk => walk
  simple : (e : SimpleExpr) → (walk : m Unit) → m Unit := fun _ walk => walk
  term : (t : Term) → (walk : m Unit) → m Unit := fun _ walk => walk
  factor : (f : Factor) → (walk : m Unit) → m Unit := fun _ walk => walk
  negation : (f : Factor) → (walk : m Unit) → m Unit := fun _ walk => walk
  functionCall : (name : String) → (args : List Expr) → (walk : m Unit) → m Unit :=
    fun _ _ walk => walk
  designator : (isTarget : Bool) → (d : Designator) → (walk : m Unit) → m Unit :=
    fun _ _ walk => walk
  selector : (s : Selector) → (walk : m Unit) → m Unit := fun _ walk => walk

section

variable {m : Type → Type} [Monad m]

/-- The visitor that does the same at nodes of every kind. -/
def Visitor.ofNodes (enter : Node → m Unit → m Unit) : Visitor m where
  statements body := enter (.statements body)
  statement s := enter (.statement s)
  assignment target value _ visitTarget visitValue :=
    enter (.assignment target value) do
      visitTarget
      visitValue
  procedureCall name args := enter (.procedureCall name args)
  conditional cond body other := enter (.conditional cond body other)
  caseStatement subject arms := enter (.caseStatement subject arms)
  arm labels body := enter (.arm labels body)
  whileLoop cond body := enter (.whileLoop cond body)
  repeatLoop body cond := enter (.repeatLoop body cond)
  forLoop counter start direction finish body :=
    enter (.forLoop counter start direction finish body)
  memory kind name := enter (.memory kind name) (pure ())
  empty := enter .empty (pure ())
  label l := enter (.label l) (pure ())
  expression e := enter (.expression e)
  simple e := enter (.simple e)
  term t := enter (.term t)
  factor f := enter (.factor f)
  negation f := enter (.negation f)
  functionCall name args := enter (.functionCall name args)
  designator isTarget d := enter (.designator isTarget d)
  selector s := enter (.selector s)

/-! ## Walks through the syntax

A walk visits the children of a node one after the other: it hands each child to the visitor, with
the walk of the child. -/

mutual

/-- Visits the operands of an expression. -/
def Expr.walk (v : Visitor m) : Expr → m Unit
  | .simple e => v.simple e (e.walk v)
  | .comparison left _ right => do
    v.simple left (left.walk v)
    v.simple right (right.walk v)

/-- Visits the terms of a simple expression. -/
def SimpleExpr.walk (v : Visitor m) : SimpleExpr → m Unit
  | ⟨_, first, rest⟩ => do
    v.term first (first.walk v)
    SimpleExpr.walkRest v rest

/-- Visits the further terms of a simple expression. -/
def SimpleExpr.walkRest (v : Visitor m) : List (AddOp × Term) → m Unit
  | [] => pure ()
  | (_, t) :: rest => do
    v.term t (t.walk v)
    SimpleExpr.walkRest v rest

/-- Visits the factors of a term. -/
def Term.walk (v : Visitor m) : Term → m Unit
  | ⟨first, rest⟩ => do
    v.factor first (first.walk v)
    Term.walkRest v rest

/-- Visits the further factors of a term. -/
def Term.walkRest (v : Visitor m) : List (MulOp × Factor) → m Unit
  | [] => pure ()
  | (_, f) :: rest => do
    v.factor f (f.walk v)
    Term.walkRest v rest

/-- Visits what a factor is besides a factor, if it has parts. -/
def Factor.walk (v : Visitor m) : Factor → m Unit
  | .ident _ | .number _ | .bool _ | .nil => pure ()
  | .designator d => v.designator false d (d.walk v)
  | .paren e => v.expression e (e.walk v)
  | .not f => v.negation f (v.factor f (f.walk v))
  | .call name args => v.functionCall name args (Expr.walkList v args)

/-- Visits expressions one after the other. -/
def Expr.walkList (v : Visitor m) : List Expr → m Unit
  | [] => pure ()
  | e :: es => do
    v.expression e (e.walk v)
    Expr.walkList v es

/-- Visits the access steps of a designator. -/
def Designator.walk (v : Visitor m) : Designator → m Unit
  | ⟨_, selectors⟩ => Selector.walkList v selectors

/-- Visits access steps one after the other. -/
def Selector.walkList (v : Visitor m) : List Selector → m Unit
  | [] => pure ()
  | s :: rest => do
    v.selector s (s.walk v)
    Selector.walkList v rest

/-- Visits the indices of an access step. -/
def Selector.walk (v : Visitor m) : Selector → m Unit
  | .field _ | .deref => pure ()
  | .index indices => Expr.walkList v indices

end

/-- Visits labels one after the other. -/
def Label.walkList (v : Visitor m) : List Label → m Unit
  | [] => pure ()
  | l :: rest => do
    v.label l
    Label.walkList v rest

mutual

/-- Visits what a statement is besides a statement. -/
def Stmt.walk (v : Visitor m) : Stmt → m Unit
  | .assign target value =>
    v.assignment target value (target.walk v) (v.designator true target (target.walk v))
      (v.expression value (value.walk v))
  | .call name args => v.procedureCall name args (Expr.walkList v args)
  | .ifThen cond body =>
    v.conditional cond body none do
      v.expression cond (cond.walk v)
      v.statement body (body.walk v)
  | .ifThenElse cond body other =>
    v.conditional cond body (some other) do
      v.expression cond (cond.walk v)
      v.statement body (body.walk v)
      v.statement other (other.walk v)
  | .caseOf subject arms =>
    v.caseStatement subject arms do
      v.expression subject (subject.walk v)
      CaseArm.walkList v arms
  | .whileDo cond body =>
    v.whileLoop cond body do
      v.expression cond (cond.walk v)
      v.statement body (body.walk v)
  | .repeatUntil body cond =>
    v.repeatLoop body cond do
      Stmt.walkList v body
      v.expression cond (cond.walk v)
  | .forDo counter start direction finish body =>
    v.forLoop counter start direction finish body do
      v.expression start (start.walk v)
      v.expression finish (finish.walk v)
      v.statement body (body.walk v)
  | .memory kind name => v.memory kind name
  | .compound body => v.statements body (Stmt.walkList v body)
  | .empty => v.empty

/-- Visits statements one after the other. -/
def Stmt.walkList (v : Visitor m) : List Stmt → m Unit
  | [] => pure ()
  | s :: rest => do
    v.statement s (s.walk v)
    Stmt.walkList v rest

/-- Visits the labels of an arm of a case statement, then its body. -/
def CaseArm.walk (v : Visitor m) : CaseArm → m Unit
  | ⟨labels, body⟩ => do
    Label.walkList v labels
    v.statement body (body.walk v)

/-- Visits the arms of a case statement one after the other. -/
def CaseArm.walkList (v : Visitor m) : List CaseArm → m Unit
  | [] => pure ()
  | a :: rest => do
    v.arm a.labels a.body (a.walk v)
    CaseArm.walkList v rest

end

/-- Visits a program: the list of its statements, then each of them. -/
def Program.visit (v : Visitor m) (p : Program) : m Unit :=
  v.statements p.body (Stmt.walkList v p.body)

end

/-! ## Recording -/

/-- The kinds of nodes below which a walk does not descend, and the number of nodes it may enter. -/
structure Walk where
  pruned : List NodeKind
  limit : Option Nat

namespace Walk

/-- A walk through everything. -/
def full : Walk := ⟨[], none⟩

/-- The error of a walk that would enter a node beyond its limit. -/
def stopped (n : Node) : Error :=
  .failedStage "walk" n.summary

/-- Records a node after the nodes recorded before, and walks. -/
def enter (w : Walk) : Visitor (Run (Array Node)) := .ofNodes fun n walk seen =>
  if w.limit = some seen.size then .stop (stopped n) seen
  else if n.kind ∈ w.pruned then .done () (seen.push n)
  else walk (seen.push n)

end Walk

/-- The nodes that a walk through a program enters, in order, and the error if it was stopped. -/
def Program.walk (w : Walk) (p : Program) : Outcome (Array Node) Unit :=
  p.visit w.enter #[]

/-- A visit that does nothing at any node but walk. -/
def Program.visitQuietly (p : Program) : Except Error Unit :=
  p.visit {}

end MiniPascal
