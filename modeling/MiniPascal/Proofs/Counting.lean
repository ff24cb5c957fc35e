import Mathlib.Algebra.BigOperators.Group.List.Basic
import MiniPascal.Passes
import MiniPascal.Proofs.Traversal

/-!
# Counts are what a traversal enters

The counts of a tree add up over its parts. Seen by nodes, a node has the counts of its children and
one more on its own layer, if it has a layer (`Node.count_eq`); so the counts are the numbers of
nodes of each kind that a walk records, and a visitor that adds one at every node ends with them
(`Program.count_eq_walk`).
-/

namespace MiniPascal

namespace NodeCount

/-! ## Counts as a monoid -/

instance : AddCommMonoid NodeCount where
  add_assoc := NodeCount.add_assoc
  zero_add := NodeCount.zero_add
  add_zero a := by
    ext1
    rw [toList_add, toList_zero]
    simp [toList]
  add_comm a b := by
    ext1
    simp only [toList_add]
    simp [toList, Nat.add_comm]
  nsmul := nsmulRec

/-- What a node of the given kind counts as by itself. -/
def ofKind : NodeKind → NodeCount
  | .statement => .statement
  | .arm => .arm 0
  | .label => .label
  | .expression => .expression
  | .simple => .simple
  | .term => .term
  | .factor => .factor
  | .designator => .designator
  | .selector => .selector
  | .statements | .assignment | .procedureCall | .conditional | .caseStatement | .whileLoop
  | .repeatLoop | .forLoop | .memory | .empty | .negation | .functionCall => 0

/-- How many of the nodes are on each layer. -/
def ofNodes (ns : List Node) : NodeCount where
  statements := ns.countP fun n => n.kind = .statement
  caseArms := ns.countP fun n => n.kind = .arm
  caseLabels := ns.countP fun n => n.kind = .label
  expressions := ns.countP fun n => n.kind = .expression
  simpleExpressions := ns.countP fun n => n.kind = .simple
  terms := ns.countP fun n => n.kind = .term
  factors := ns.countP fun n => n.kind = .factor
  designators := ns.countP fun n => n.kind = .designator
  selectors := ns.countP fun n => n.kind = .selector

/-- Another node counts on its own layer. -/
theorem ofNodes_cons (n : Node) (ns : List Node) :
    ofNodes (n :: ns) = ofNodes ns + ofKind n.kind := by
  simp only [ofNodes, List.countP_cons]
  cases n.kind <;> rfl

/-- What starts at nothing and grows at each node is the sum of what it grows by. -/
theorem eq_sum_of_cons {f : List Node → NodeCount} {g : Node → NodeCount} (hnil : f [] = 0)
    (hcons : ∀ n ns, f (n :: ns) = f ns + g n) (ns : List Node) : f ns = (ns.map g).sum := by
  induction ns with
  | nil => exact hnil
  | cons n ns ih => rw [hcons, ih, List.map_cons, List.sum_cons, add_comm]

/-- The counts of nodes add up. -/
theorem ofNodes_eq_sum (ns : List Node) : ofNodes ns = (ns.map fun n => ofKind n.kind).sum :=
  eq_sum_of_cons rfl ofNodes_cons ns

/-- An arm counts with each of its labels. -/
theorem arm_eq_sum (labels : List Label) :
    arm labels.length = arm 0 + (labels.map fun _ => ofKind .label).sum := by
  induction labels with
  | nil => rfl
  | cons l ls ih =>
    rw [List.map_cons, List.sum_cons, add_left_comm, ← ih]
    ext1
    rw [toList_add]
    simp [toList, arm, ofKind, label, Nat.add_comm]

end NodeCount

namespace Node

/-! ## One node and its children -/

/-- The counts of the nodes from a node down. -/
def count : Node → NodeCount
  | .statements body => Stmt.countList body
  | .statement s => s.count
  | .assignment target value => target.count + value.count
  | .procedureCall _ args | .functionCall _ args => Expr.countList args
  | .conditional cond body none => cond.count + body.count
  | .conditional cond body (some other) => cond.count + body.count + other.count
  | .caseStatement subject arms => subject.count + CaseArm.countList arms
  | .arm labels body => .arm labels.length + body.count
  | .whileLoop cond body => cond.count + body.count
  | .repeatLoop body cond => Stmt.countList body + cond.count
  | .forLoop _ start _ finish body => start.count + finish.count + body.count
  | .memory _ _ | .empty => 0
  | .label _ => .ofKind .label
  | .expression e => e.count
  | .simple e => e.count
  | .term t => t.count
  | .factor f | .negation f => f.count
  | .designator _ d => d.count
  | .selector s => s.count

end Node

/-- The counts of expressions add up. -/
theorem Expr.countList_eq_sum (es : List Expr) : Expr.countList es = (es.map count).sum := by
  induction es with
  | nil => rfl
  | cons e es ih => rw [Expr.countList, ih, List.map_cons, List.sum_cons]

/-- The counts of the further terms add up. -/
theorem SimpleExpr.countRest_eq_sum (rest : List (AddOp × Term)) :
    SimpleExpr.countRest rest = (rest.map fun p => p.2.count).sum := by
  induction rest with
  | nil => rfl
  | cons p rest ih => rw [SimpleExpr.countRest, ih, List.map_cons, List.sum_cons]

/-- The counts of the further factors add up. -/
theorem Term.countRest_eq_sum (rest : List (MulOp × Factor)) :
    Term.countRest rest = (rest.map fun p => p.2.count).sum := by
  induction rest with
  | nil => rfl
  | cons p rest ih => rw [Term.countRest, ih, List.map_cons, List.sum_cons]

/-- The counts of access steps add up. -/
theorem Selector.countList_eq_sum (ss : List Selector) :
    Selector.countList ss = (ss.map count).sum := by
  induction ss with
  | nil => rfl
  | cons s ss ih => rw [Selector.countList, ih, List.map_cons, List.sum_cons]

/-- The counts of statements add up. -/
theorem Stmt.countList_eq_sum (ss : List Stmt) : Stmt.countList ss = (ss.map count).sum := by
  induction ss with
  | nil => rfl
  | cons s ss ih => rw [Stmt.countList, ih, List.map_cons, List.sum_cons]

/-- The counts of arms add up. -/
theorem CaseArm.countList_eq_sum (arms : List CaseArm) :
    CaseArm.countList arms = (arms.map count).sum := by
  induction arms with
  | nil => rfl
  | cons a arms ih => rw [CaseArm.countList, ih, List.map_cons, List.sum_cons]

namespace Node

/-- A statement counts once besides the parts of its form. -/
theorem count_ofStmt (s : Stmt) : s.count = .statement + (ofStmt s).count := by
  cases s <;> simp only [ofStmt, count, Stmt.count, add_assoc, add_zero]

/-- The node of an arm has the counts of the arm. -/
theorem count_ofArm (a : CaseArm) : (ofArm a).count = a.count := by
  cases a
  rfl

/-- The counts of a node are its own and those of its children. -/
theorem count_eq (n : Node) : n.count = .ofKind n.kind + (n.children.map count).sum := by
  cases n with
  | statements body =>
    rw [children, List.map_map]
    exact (Stmt.countList_eq_sum body).trans (zero_add _).symm
  | statement s =>
    rw [children, List.map_singleton, List.sum_singleton]
    exact count_ofStmt s
  | procedureCall name args | functionCall name args =>
    rw [children, List.map_map]
    exact (Expr.countList_eq_sum args).trans (zero_add _).symm
  | conditional cond body other =>
    cases other <;> simp [count, children, kind, NodeCount.ofKind, add_assoc]
  | caseStatement subject arms =>
    have harms : arms.map (count ∘ ofArm) = arms.map CaseArm.count :=
      List.map_congr_left fun a _ => count_ofArm a
    rw [children, List.map_cons, List.map_map, harms, List.sum_cons, ← CaseArm.countList_eq_sum]
    exact (zero_add _).symm
  | arm labels body =>
    rw [children, List.map_append, List.map_map, List.sum_append, ← add_assoc, List.map_singleton,
      List.sum_singleton]
    exact congrArg (· + body.count) (NodeCount.arm_eq_sum labels)
  | repeatLoop body cond =>
    rw [children, List.map_append, List.map_map, List.sum_append, List.map_singleton,
      List.sum_singleton]
    refine (congrArg (· + cond.count) (Stmt.countList_eq_sum body)).trans (zero_add _).symm
  | assignment | whileLoop | forLoop | negation =>
    simp [count, children, kind, NodeCount.ofKind, add_assoc]
  | memory | empty => rfl
  | label l => exact (add_zero _).symm
  | expression e =>
    cases e <;> simp [count, children, kind, NodeCount.ofKind, Expr.count, add_assoc]
  | simple e =>
    obtain ⟨sign, first, rest⟩ := e
    rw [children, SimpleExpr.operands, List.map_cons, List.map_map, List.map_cons, List.map_map,
      List.sum_cons, ← add_assoc]
    exact congrArg (.simple + first.count + ·) (SimpleExpr.countRest_eq_sum rest)
  | term t =>
    obtain ⟨first, rest⟩ := t
    rw [children, Term.operands, List.map_cons, List.map_map, List.map_cons, List.map_map,
      List.sum_cons, ← add_assoc]
    exact congrArg (.term + first.count + ·) (Term.countRest_eq_sum rest)
  | factor f => cases f <;> simp [count, children, kind, NodeCount.ofKind, Factor.count, ofFactor?]
  | designator isTarget d =>
    obtain ⟨name, selectors⟩ := d
    rw [children, List.map_map]
    exact congrArg (.designator + ·) (Selector.countList_eq_sum selectors)
  | selector s =>
    cases s with
    | field | deref => rfl
    | index es =>
      rw [children, List.map_map]
      exact congrArg (.selector + ·) (Expr.countList_eq_sum es)

/-! ## All nodes of a tree -/

section
variable {M : Type} [AddCommMonoid M]

/-- A sum over the nodes in a node is the share of the node and the sums over its children. -/
theorem sum_map_entries (g : Node → M) (n : Node) (above : List NodeKind) :
    ((n.entries above).map fun x => g x.node).sum = g n +
      (n.children.map fun c => ((c.entries (n.kind :: above)).map fun x => g x.node).sum).sum := by
  rw [entries_eq, List.map_cons, List.sum_cons, List.map_flatMap, List.flatMap_def,
    List.sum_flatten, List.map_map]
  rfl

/-- If at every node `f` and `g` are `h` and the `f` of the children, then `f` and the `g` of all
nodes from a node down are the `h` of all nodes from it down. -/
theorem add_sum_entries {f g h : Node → M}
    (step : ∀ n, f n + g n = h n + (n.children.map f).sum) (n : Node) (above : List NodeKind) :
    f n + ((n.entries above).map fun x => g x.node).sum =
      ((n.entries above).map fun x => h x.node).sum := by
  induction n using induct generalizing above with
  | step n ih =>
    let total (k : Node → M) (c : Node) : M :=
      ((c.entries (n.kind :: above)).map fun x => k x.node).sum
    have hchildren : (n.children.map f).sum + (n.children.map (total g)).sum =
        (n.children.map (total h)).sum := by
      rw [← List.sum_map_add, List.map_congr_left fun c hc => ih c hc (n.kind :: above)]
    rw [sum_map_entries, sum_map_entries]
    calc f n + (g n + (n.children.map (total g)).sum)
        = h n + ((n.children.map f).sum + (n.children.map (total g)).sum) := by
          rw [← add_assoc, step, add_assoc]
      _ = h n + (n.children.map (total h)).sum := by rw [hchildren]

end

/-- The counts of a node are the numbers of nodes on each layer from it down. -/
theorem count_eq_ofNodes (n : Node) (above : List NodeKind) :
    n.count = .ofNodes ((n.entries above).map Entry.node) := by
  have step (n : Node) : n.count + 0 = .ofKind n.kind + (n.children.map count).sum := by
    rw [add_zero, count_eq]
  have h := add_sum_entries (g := fun _ => 0) step n above
  rw [List.sum_map_zero, add_zero] at h
  rw [NodeCount.ofNodes_eq_sum, List.map_map]
  exact h

end Node

/-! ## A visitor that counts -/

/-- Adds what a node counts as by itself, and walks. -/
def NodeCount.countNode (n : Node) (walk : Run NodeCount Unit) : Run NodeCount Unit := fun seen =>
  walk (seen + ofKind n.kind)

/-- The counter does the same at nodes of every kind, where those without a layer count nothing. -/
theorem NodeCount.counter_eq : counter = .ofNodes countNode := rfl

/-- Visits that add the counts of their nodes add all of them, one after the other. -/
theorem NodeCount.forM_eq_add {ns : List Node} {visit : Node → Run NodeCount Unit}
    (h : ∀ n ∈ ns, visit n = fun seen => .done () (seen + n.count)) :
    forM ns visit = fun seen => .done () (seen + (ns.map Node.count).sum) := by
  induction ns with
  | nil =>
    funext seen
    rw [List.map_nil, List.sum_nil, add_zero]
    rfl
  | cons n ns ih =>
    funext seen
    rw [List.forM_cons, Run.bind_apply, h n List.mem_cons_self,
      ih fun m hm => h m (List.mem_cons_of_mem _ hm)]
    simp only [List.map_cons, List.sum_cons, add_assoc]

/-- The counter adds the counts of a node. -/
theorem Node.visit_countNode (n : Node) :
    n.visit NodeCount.countNode = fun seen => .done () (seen + n.count) := by
  induction n using induct with
  | step n ih =>
    funext seen
    rw [visit_eq, NodeCount.forM_eq_add ih, count_eq n, ← add_assoc]
    rfl

/-- The counter never fails, and ends with the counts of a program. -/
theorem Program.visit_counter (p : Program) :
    p.visit NodeCount.counter 0 = .done () p.count := by
  rw [NodeCount.counter_eq, Program.visit_eq, Node.visit_countNode]
  exact congrArg (Outcome.done ()) (zero_add _)

/-- What is counted are the counts. -/
theorem Program.countNodes_eq (p : Program) : p.countNodes = .ok p.count := by
  rw [Program.countNodes, Program.visit_counter]

/-- The counts of a program are the numbers of the statements, arms, labels, expressions and so on
that a walk through all of it records. A visitor that adds one at each of these and descends never
fails, and ends with the counts. -/
theorem Program.count_eq_walk (p : Program) :
    p.walk .full = .done () (p.entries.map Entry.node).toArray ∧
    p.count = .ofNodes (p.entries.map Entry.node) ∧
    p.visit NodeCount.counter 0 = .done () p.count :=
  ⟨p.walk_full, (Node.statements p.body).count_eq_ofNodes [], p.visit_counter⟩

end MiniPascal
