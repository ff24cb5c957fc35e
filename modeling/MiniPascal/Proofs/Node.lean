import MiniPascal.Traversal

/-!
# The nodes of a tree

`Node.children` are the nodes directly below a node. They are smaller in `Node.weight`, so there is
an induction over all nodes (`Node.induct`) with one case for every kind at once. `Node.entries`
lists a node and everything below it, a parent before its children and these in the order of the
source, each with the kinds of the nodes above it; `Program.entries` does so for a program.
-/

namespace MiniPascal

namespace Node

/-! ## Children -/

/-- The node that a statement is besides a statement. -/
def ofStmt : Stmt → Node
  | .assign target value => .assignment target value
  | .call name args => .procedureCall name args
  | .ifThen cond body => .conditional cond body none
  | .ifThenElse cond body other => .conditional cond body (some other)
  | .caseOf subject arms => .caseStatement subject arms
  | .whileDo cond body => .whileLoop cond body
  | .repeatUntil body cond => .repeatLoop body cond
  | .forDo counter start direction finish body => .forLoop counter start direction finish body
  | .memory kind name => .memory kind name
  | .compound body => .statements body
  | .empty => .empty

/-- The node that a factor is besides a factor, if it has children. -/
def ofFactor? : Factor → Option Node
  | .ident _ | .number _ | .bool _ | .nil => none
  | .designator d => some (.designator false d)
  | .paren e => some (.expression e)
  | .not f => some (.negation f)
  | .call name args => some (.functionCall name args)

/-- The node of an arm of a case statement. -/
def ofArm (a : CaseArm) : Node := .arm a.labels a.body

/-- The nodes directly below a node, in the order of the source. -/
def children : Node → List Node
  | .statements body => body.map .statement
  | .statement s => [ofStmt s]
  | .assignment target value => [.designator true target, .expression value]
  | .procedureCall _ args => args.map .expression
  | .conditional cond body other =>
    .expression cond :: .statement body :: other.toList.map .statement
  | .caseStatement subject arms => .expression subject :: arms.map ofArm
  | .arm labels body => labels.map .label ++ [.statement body]
  | .whileLoop cond body => [.expression cond, .statement body]
  | .repeatLoop body cond => body.map .statement ++ [.expression cond]
  | .forLoop _ start _ finish body => [.expression start, .expression finish, .statement body]
  | .memory _ _ | .empty | .label _ => []
  | .expression (.simple e) => [.simple e]
  | .expression (.comparison left _ right) => [.simple left, .simple right]
  | .simple e => e.operands.map .term
  | .term t => t.operands.map .factor
  | .factor f => (ofFactor? f).toList
  | .negation f => [.factor f]
  | .functionCall _ args => args.map .expression
  | .designator _ d => d.selectors.map .selector
  | .selector (.index indices) => indices.map .expression
  | .selector (.field _) | .selector .deref => []

/-! ## Children are smaller -/

/-- Twice the size of the syntax in a node, and one more if some of it makes a child by itself. -/
noncomputable def weight : Node → Nat
  | .statements body => 2 * sizeOf body
  | .statement s => 2 * sizeOf s
  | .assignment target value => 2 * (sizeOf target + sizeOf value) + 1
  | .procedureCall _ args => 2 * sizeOf args
  | .conditional cond body none => 2 * (sizeOf cond + sizeOf body) + 1
  | .conditional cond body (some other) => 2 * (sizeOf cond + sizeOf body + sizeOf other) + 1
  | .caseStatement subject arms => 2 * (sizeOf subject + sizeOf arms) + 1
  | .arm labels body => 2 * (sizeOf labels + sizeOf body) + 1
  | .whileLoop cond body => 2 * (sizeOf cond + sizeOf body) + 1
  | .repeatLoop body cond => 2 * (sizeOf body + sizeOf cond) + 1
  | .forLoop _ start _ finish body => 2 * (sizeOf start + sizeOf finish + sizeOf body) + 1
  | .memory _ _ | .empty => 0
  | .label l => 2 * sizeOf l
  | .expression e => 2 * sizeOf e
  | .simple e => 2 * sizeOf e
  | .term t => 2 * sizeOf t
  | .factor f => 2 * sizeOf f
  | .negation f => 2 * sizeOf f + 1
  | .functionCall _ args => 2 * sizeOf args
  | .designator _ d => 2 * sizeOf d
  | .selector s => 2 * sizeOf s

section
variable {n c : Node}

/-- The form of a statement is below the statement. -/
theorem weight_ofStmt_lt (s : Stmt) : (ofStmt s).weight < (statement s).weight := by
  cases s <;> simp only [ofStmt, weight, Stmt.assign.sizeOf_spec, Stmt.call.sizeOf_spec,
    Stmt.ifThen.sizeOf_spec, Stmt.ifThenElse.sizeOf_spec, Stmt.caseOf.sizeOf_spec,
    Stmt.whileDo.sizeOf_spec, Stmt.repeatUntil.sizeOf_spec, Stmt.forDo.sizeOf_spec,
    Stmt.memory.sizeOf_spec, Stmt.compound.sizeOf_spec, Stmt.empty.sizeOf_spec] <;> omega

/-- What a factor is made of is below the factor. -/
theorem weight_lt_of_mem_ofFactor? {f : Factor} (h : c ∈ ofFactor? f) :
    c.weight < (factor f).weight := by
  cases f with
  | ident | number | bool | nil => cases h
  | designator d =>
    cases h
    simp only [weight, Factor.designator.sizeOf_spec]
    omega
  | paren e =>
    cases h
    simp only [weight, Factor.paren.sizeOf_spec]
    omega
  | not f =>
    cases h
    simp only [weight, Factor.not.sizeOf_spec]
    omega
  | call name args =>
    cases h
    simp only [weight, Factor.call.sizeOf_spec]
    omega

/-- The node of an arm weighs less than twice the arm. -/
theorem weight_ofArm_lt (a : CaseArm) : (ofArm a).weight < 2 * sizeOf a := by
  cases a
  simp only [ofArm, weight, CaseArm.mk.sizeOf_spec]
  omega

/-- The nodes made of the elements of a list are lighter than a node that has the list. -/
theorem weight_lt_of_mem_map {α : Type} [SizeOf α] {l : List α} {mk : α → Node}
    (hmk : ∀ a, (mk a).weight ≤ 2 * sizeOf a) (hl : 2 * sizeOf l ≤ n.weight)
    (h : c ∈ l.map mk) : c.weight < n.weight := by
  obtain ⟨a, ha, rfl⟩ := List.mem_map.1 h
  have ha : sizeOf a < sizeOf l := List.sizeOf_lt_of_mem ha
  have := hmk a
  omega

/-- Leaving out operators leaves no larger list. -/
theorem sizeOf_map_snd_le {α β : Type} [SizeOf α] [SizeOf β] (l : List (α × β)) :
    sizeOf (l.map Prod.snd) ≤ sizeOf l := by
  induction l with
  | nil => simp
  | cons p l ih =>
    obtain ⟨a, b⟩ := p
    simp only [List.map_cons, List.cons.sizeOf_spec, Prod.mk.sizeOf_spec]
    omega

/-- A node is heavier than its children. -/
theorem weight_lt_of_mem_children (h : c ∈ n.children) : c.weight < n.weight := by
  cases n with
  | statements body => exact weight_lt_of_mem_map (fun _ => Nat.le_refl _) (Nat.le_refl _) h
  | statement s =>
    obtain rfl := List.mem_singleton.1 h
    exact weight_ofStmt_lt s
  | assignment target value =>
    simp only [children, List.mem_cons, List.not_mem_nil, or_false] at h
    obtain rfl | rfl := h <;> simp only [weight] <;> omega
  | procedureCall name args | functionCall name args =>
    exact weight_lt_of_mem_map (fun _ => Nat.le_refl _) (Nat.le_refl _) h
  | conditional cond body other =>
    cases other with
    | none =>
      simp only [children, Option.toList_none, List.map_nil, List.mem_cons, List.not_mem_nil,
        or_false] at h
      obtain rfl | rfl := h <;> simp only [weight] <;> omega
    | some other =>
      simp only [children, Option.toList_some, List.map_cons, List.map_nil, List.mem_cons,
        List.not_mem_nil, or_false] at h
      obtain rfl | rfl | rfl := h <;> simp only [weight] <;> omega
  | caseStatement subject arms =>
    obtain rfl | h := List.mem_cons.1 h
    · simp only [weight]
      omega
    · refine weight_lt_of_mem_map (fun a => Nat.le_of_lt (weight_ofArm_lt a)) ?_ h
      simp only [weight]
      omega
  | arm labels body =>
    obtain h | h := List.mem_append.1 h
    · exact weight_lt_of_mem_map (fun _ => Nat.le_refl _) (by simp only [weight]; omega) h
    · obtain rfl := List.mem_singleton.1 h
      simp only [weight]
      omega
  | whileLoop cond body =>
    simp only [children, List.mem_cons, List.not_mem_nil, or_false] at h
    obtain rfl | rfl := h <;> simp only [weight] <;> omega
  | repeatLoop body cond =>
    obtain h | h := List.mem_append.1 h
    · exact weight_lt_of_mem_map (fun _ => Nat.le_refl _) (by simp only [weight]; omega) h
    · obtain rfl := List.mem_singleton.1 h
      simp only [weight]
      omega
  | forLoop counter start direction finish body =>
    simp only [children, List.mem_cons, List.not_mem_nil, or_false] at h
    obtain rfl | rfl | rfl := h <;> simp only [weight] <;> omega
  | memory | empty | label => exact absurd h List.not_mem_nil
  | expression e =>
    cases e with
    | simple e =>
      obtain rfl := List.mem_singleton.1 h
      simp only [weight, Expr.simple.sizeOf_spec]
      omega
    | comparison left op right =>
      simp only [children, List.mem_cons, List.not_mem_nil, or_false] at h
      obtain rfl | rfl := h <;> simp only [weight, Expr.comparison.sizeOf_spec] <;> omega
  | simple e =>
    obtain ⟨sign, first, rest⟩ := e
    have := sizeOf_map_snd_le rest
    refine weight_lt_of_mem_map (fun _ => Nat.le_refl _) ?_ h
    simp only [weight, SimpleExpr.operands, List.cons.sizeOf_spec, SimpleExpr.mk.sizeOf_spec]
    omega
  | term t =>
    obtain ⟨first, rest⟩ := t
    have := sizeOf_map_snd_le rest
    refine weight_lt_of_mem_map (fun _ => Nat.le_refl _) ?_ h
    simp only [weight, Term.operands, List.cons.sizeOf_spec, Term.mk.sizeOf_spec]
    omega
  | factor f => exact weight_lt_of_mem_ofFactor? (Option.mem_toList.1 h)
  | negation f =>
    obtain rfl := List.mem_singleton.1 h
    exact Nat.lt_succ_self _
  | designator isTarget d =>
    cases d
    refine weight_lt_of_mem_map (fun _ => Nat.le_refl _) ?_ h
    simp only [weight, Designator.mk.sizeOf_spec]
    omega
  | selector s =>
    cases s with
    | field | deref => exact absurd h List.not_mem_nil
    | index indices =>
      refine weight_lt_of_mem_map (fun _ => Nat.le_refl _) ?_ h
      simp only [weight, Selector.index.sizeOf_spec]
      omega

end

/-- What holds of a node if it holds of its children holds of every node. -/
@[elab_as_elim]
theorem induct {motive : Node → Prop} (step : ∀ n, (∀ c ∈ n.children, motive c) → motive n)
    (n : Node) : motive n :=
  step n fun c hc =>
    have := weight_lt_of_mem_children hc
    induct step c
termination_by n.weight

end Node

/-! ## Entries -/

/-- A node of a tree and the kinds of the nodes above it, the nearest first. -/
structure Entry where
  above : List NodeKind
  node : Node

/-- A node and everything below it: a parent before its children, these in the order of the source,
each with the kinds of the nodes above it. -/
def Node.entries (above : List NodeKind) (n : Node) : List Entry :=
  ⟨above, n⟩ :: n.children.attach.flatMap fun c => c.1.entries (n.kind :: above)
termination_by n.weight
decreasing_by exact weight_lt_of_mem_children c.2

/-- The nodes of a program from its list of statements down. -/
def Program.entries (p : Program) : List Entry := (Node.statements p.body).entries []

namespace Node

variable {above : List NodeKind} {n : Node}

/-- A node is entered before its children. -/
theorem entries_eq (above : List NodeKind) (n : Node) :
    n.entries above = ⟨above, n⟩ :: n.children.flatMap (entries (n.kind :: above)) := by
  rw [entries, ← List.flatMap_map Subtype.val, List.attach_map_subtype_val]

/-- The kinds above a node are above everything below it too. -/
theorem suffix_above {x : Entry} (h : x ∈ n.entries above) : above <:+ x.above := by
  induction n using induct generalizing above with
  | step n ih =>
    rw [entries_eq] at h
    obtain rfl | h := List.mem_cons.1 h
    · exact List.suffix_refl above
    · obtain ⟨c, hc, hx⟩ := List.mem_flatMap.1 h
      exact (List.suffix_cons _ _).trans (ih c hc hx)

end Node

end MiniPascal
