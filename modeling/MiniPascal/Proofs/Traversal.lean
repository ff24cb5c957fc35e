import MiniPascal.Proofs.Node

/-!
# Traversals enter the nodes of a tree in order

A program is visited along its syntax, with a walk for every form. A visitor that does the same at
nodes of every kind does one thing everywhere: `Node.visit` gives it a node and the visit of its
children, and to walk through the syntax is that (`Expr.visit_eq`, `Stmt.visit_eq`).

So a walk records the nodes of the program that have no pruned node above them, one after the other
(`Program.visit_enterOr`), and what it does at its limit is a matter of lists
(`Walk.forM_record_of_le`, `Walk.forM_record_stop`).
-/

namespace MiniPascal

/-! ## Visits by nodes -/

section
variable {m : Type → Type} [Monad m]

/-- Visits a node: `enter` is given the node and the visit of its children in order. -/
def Node.visit (enter : Node → m Unit → m Unit) (n : Node) : m Unit :=
  enter n (forM n.children.attach fun c => c.1.visit enter)
termination_by n.weight
decreasing_by exact weight_lt_of_mem_children c.2

variable (enter : Node → m Unit → m Unit)

/-- A visit enters a node with the visit of its children. -/
theorem Node.visit_eq [LawfulMonad m] (n : Node) :
    n.visit enter = enter n (forM n.children (visit enter)) := by
  rw [visit, ← List.forM_map, List.attach_map_subtype_val]

/-- A node is visited by entering it with a walk that visits its children. -/
theorem Node.enter_walk [LawfulMonad m] {n : Node} {walk : m Unit}
    (h : walk = forM n.children (visit enter)) : enter n walk = n.visit enter := by
  rw [visit_eq, h]

/-- A statement is entered first as a statement, then as the node that it is besides. -/
theorem Node.visit_statement [LawfulMonad m] (s : Stmt) :
    (Node.statement s).visit enter = enter (.statement s) ((ofStmt s).visit enter) := by
  rw [visit_eq]
  simp [children]

/-- A factor is entered first as a factor, then as the node that it is besides, if any. -/
theorem Node.visit_factor [LawfulMonad m] {f : Factor} {n : Node} (h : ofFactor? f = some n) :
    (Node.factor f).visit enter = enter (.factor f) (n.visit enter) := by
  rw [visit_eq]
  simp [children, h]

-- The walks put a last child last where `forM` puts the end of the list after it, so the monad has
-- to be lawful; the rest is unfolding both sides once.
mutual

/-- An expression is visited as its node. -/
theorem Expr.visit_eq [LawfulMonad m] : ∀ e : Expr,
    (Visitor.ofNodes enter).expression e (e.walk (.ofNodes enter)) =
      (Node.expression e).visit enter
  | .simple e => by
    refine Node.enter_walk enter ?_
    rw [Expr.walk, SimpleExpr.visit_eq e]
    simp [Node.children]
  | .comparison left op right => by
    refine Node.enter_walk enter ?_
    rw [Expr.walk, SimpleExpr.visit_eq left, SimpleExpr.visit_eq right]
    simp [Node.children]

/-- A simple expression is visited as its node. -/
theorem SimpleExpr.visit_eq [LawfulMonad m] : ∀ e : SimpleExpr,
    (Visitor.ofNodes enter).simple e (e.walk (.ofNodes enter)) = (Node.simple e).visit enter
  | ⟨sign, first, rest⟩ => by
    refine Node.enter_walk enter ?_
    rw [SimpleExpr.walk, Term.visit_eq first, SimpleExpr.walkRest_eq rest]
    simp [Node.children, SimpleExpr.operands]

/-- The further terms are visited as their nodes. -/
theorem SimpleExpr.walkRest_eq [LawfulMonad m] : ∀ rest : List (AddOp × Term),
    SimpleExpr.walkRest (.ofNodes enter) rest = forM rest fun p => (Node.term p.2).visit enter
  | [] => rfl
  | (op, t) :: rest => by
    rw [SimpleExpr.walkRest, List.forM_cons, Term.visit_eq t, SimpleExpr.walkRest_eq rest]

/-- A term is visited as its node. -/
theorem Term.visit_eq [LawfulMonad m] : ∀ t : Term,
    (Visitor.ofNodes enter).term t (t.walk (.ofNodes enter)) = (Node.term t).visit enter
  | ⟨first, rest⟩ => by
    refine Node.enter_walk enter ?_
    rw [Term.walk, Factor.visit_eq first, Term.walkRest_eq rest]
    simp [Node.children, Term.operands]

/-- The further factors are visited as their nodes. -/
theorem Term.walkRest_eq [LawfulMonad m] : ∀ rest : List (MulOp × Factor),
    Term.walkRest (.ofNodes enter) rest = forM rest fun p => (Node.factor p.2).visit enter
  | [] => rfl
  | (op, f) :: rest => by
    rw [Term.walkRest, List.forM_cons, Factor.visit_eq f, Term.walkRest_eq rest]

/-- A factor is visited as its node. -/
theorem Factor.visit_eq [LawfulMonad m] : ∀ f : Factor,
    (Visitor.ofNodes enter).factor f (f.walk (.ofNodes enter)) = (Node.factor f).visit enter
  | .ident _ | .number _ | .bool _ | .nil => by
    refine Node.enter_walk enter ?_
    rw [Factor.walk]
    rfl
  | .designator d => by
    rw [Factor.walk, Designator.visit_eq false d]
    exact (Node.visit_factor enter rfl).symm
  | .paren e => by
    rw [Factor.walk, Expr.visit_eq e]
    exact (Node.visit_factor enter rfl).symm
  | .not f => by
    refine Eq.trans (congrArg (enter _) ?_) (Node.visit_factor enter rfl).symm
    rw [Factor.walk, Factor.visit_eq f]
    exact Node.enter_walk enter (by simp [Node.children])
  | .call name args => by
    refine Eq.trans (congrArg (enter _) ?_) (Node.visit_factor enter rfl).symm
    rw [Factor.walk, Expr.walkList_eq args]
    exact Node.enter_walk enter (by simp [Node.children])

/-- Expressions are visited as their nodes. -/
theorem Expr.walkList_eq [LawfulMonad m] : ∀ es : List Expr,
    Expr.walkList (.ofNodes enter) es = forM es fun e => (Node.expression e).visit enter
  | [] => rfl
  | e :: es => by rw [Expr.walkList, List.forM_cons, Expr.visit_eq e, Expr.walkList_eq es]

/-- A designator is visited as its node. -/
theorem Designator.visit_eq [LawfulMonad m] (isTarget : Bool) : ∀ d : Designator,
    (Visitor.ofNodes enter).designator isTarget d (d.walk (.ofNodes enter)) =
      (Node.designator isTarget d).visit enter
  | ⟨name, selectors⟩ => by
    refine Node.enter_walk enter ?_
    rw [Designator.walk, Selector.walkList_eq selectors]
    simp [Node.children]

/-- Access steps are visited as their nodes. -/
theorem Selector.walkList_eq [LawfulMonad m] : ∀ ss : List Selector,
    Selector.walkList (.ofNodes enter) ss = forM ss fun s => (Node.selector s).visit enter
  | [] => rfl
  | s :: ss => by
    rw [Selector.walkList, List.forM_cons, Selector.visit_eq s, Selector.walkList_eq ss]

/-- An access step is visited as its node. -/
theorem Selector.visit_eq [LawfulMonad m] : ∀ s : Selector,
    (Visitor.ofNodes enter).selector s (s.walk (.ofNodes enter)) = (Node.selector s).visit enter
  | .field _ | .deref => by
    refine Node.enter_walk enter ?_
    rw [Selector.walk]
    rfl
  | .index indices => by
    refine Node.enter_walk enter ?_
    rw [Selector.walk, Expr.walkList_eq indices]
    simp [Node.children]

end

/-- Labels are visited as their nodes. -/
theorem Label.walkList_eq [LawfulMonad m] (ls : List Label) :
    Label.walkList (.ofNodes enter) ls = forM ls fun l => (Node.label l).visit enter := by
  induction ls with
  | nil => rfl
  | cons l ls ih =>
    rw [Label.walkList, List.forM_cons, ih, Node.visit_eq]
    rfl

mutual

/-- What a statement is besides a statement is visited as its node. -/
theorem Stmt.walk_eq [LawfulMonad m] : ∀ s : Stmt,
    s.walk (.ofNodes enter) = (Node.ofStmt s).visit enter
  | .assign target value => by
    rw [Stmt.walk, Designator.visit_eq enter true target, Expr.visit_eq enter value]
    exact Node.enter_walk enter (by simp [Node.children])
  | .call name args => by
    rw [Stmt.walk, Expr.walkList_eq enter args]
    exact Node.enter_walk enter (by simp [Node.children])
  | .ifThen cond body => by
    rw [Stmt.walk, Expr.visit_eq enter cond, Stmt.visit_eq body]
    exact Node.enter_walk enter (by simp [Node.children])
  | .ifThenElse cond body other => by
    rw [Stmt.walk, Expr.visit_eq enter cond, Stmt.visit_eq body, Stmt.visit_eq other]
    exact Node.enter_walk enter (by simp [Node.children])
  | .caseOf subject arms => by
    rw [Stmt.walk, Expr.visit_eq enter subject, CaseArm.walkList_eq arms]
    exact Node.enter_walk enter (by simp [Node.children])
  | .whileDo cond body => by
    rw [Stmt.walk, Expr.visit_eq enter cond, Stmt.visit_eq body]
    exact Node.enter_walk enter (by simp [Node.children])
  | .repeatUntil body cond => by
    rw [Stmt.walk, Stmt.walkList_eq body, Expr.visit_eq enter cond]
    exact Node.enter_walk enter (by simp [Node.children])
  | .forDo counter start direction finish body => by
    rw [Stmt.walk, Expr.visit_eq enter start, Expr.visit_eq enter finish, Stmt.visit_eq body]
    exact Node.enter_walk enter (by simp [Node.children])
  | .compound body => by
    rw [Stmt.walk, Stmt.walkList_eq body]
    exact Node.enter_walk enter (by simp [Node.children])
  | .memory _ _ | .empty => by
    rw [Stmt.walk]
    exact Node.enter_walk enter rfl

/-- A statement is visited as its node. -/
theorem Stmt.visit_eq [LawfulMonad m] (s : Stmt) :
    (Visitor.ofNodes enter).statement s (s.walk (.ofNodes enter)) =
      (Node.statement s).visit enter := by
  rw [Stmt.walk_eq s]
  exact (Node.visit_statement enter s).symm

/-- Statements are visited as their nodes. -/
theorem Stmt.walkList_eq [LawfulMonad m] : ∀ ss : List Stmt,
    Stmt.walkList (.ofNodes enter) ss = forM ss fun s => (Node.statement s).visit enter
  | [] => rfl
  | s :: ss => by rw [Stmt.walkList, List.forM_cons, Stmt.visit_eq s, Stmt.walkList_eq ss]

/-- An arm of a case statement is visited as its node. -/
theorem CaseArm.visit_eq [LawfulMonad m] : ∀ a : CaseArm,
    (Visitor.ofNodes enter).arm a.labels a.body (a.walk (.ofNodes enter)) =
      (Node.ofArm a).visit enter
  | ⟨labels, body⟩ => by
    rw [CaseArm.walk, Label.walkList_eq enter labels, Stmt.visit_eq body]
    exact Node.enter_walk enter (by simp [Node.children])

/-- The arms of a case statement are visited as their nodes. -/
theorem CaseArm.walkList_eq [LawfulMonad m] : ∀ arms : List CaseArm,
    CaseArm.walkList (.ofNodes enter) arms = forM arms fun a => (Node.ofArm a).visit enter
  | [] => rfl
  | a :: arms => by
    rw [CaseArm.walkList, List.forM_cons, CaseArm.visit_eq a, CaseArm.walkList_eq arms]

end

/-- A program is visited as the node of its statements. -/
theorem Program.visit_eq [LawfulMonad m] (p : Program) :
    p.visit (.ofNodes enter) = (Node.statements p.body).visit enter := by
  rw [Program.visit, Stmt.walkList_eq, Node.visit_eq, Node.children, List.forM_map]
  rfl

end

/-! ## Recording -/

namespace Walk

/-- What a walk does at a node, with an error of its own for a node beyond the limit. -/
def enterNode (w : Walk) (fail : Node → Error) (n : Node) (walk : Run (Array Node) Unit) :
    Run (Array Node) Unit := fun seen =>
  if w.limit = some seen.size then .stop (fail n) seen
  else if n.kind ∈ w.pruned then .done () (seen.push n)
  else walk (seen.push n)

/-- The visitor of a walk, with an error of its own for a node beyond the limit. -/
def enterOr (w : Walk) (fail : Node → Error) : Visitor (Run (Array Node)) :=
  .ofNodes (w.enterNode fail)

/-- A walk is one with an error of its own. -/
theorem enter_eq (w : Walk) : w.enter = w.enterOr stopped := rfl

/-- Records a node after the nodes recorded before. -/
def record (w : Walk) (fail : Node → Error) (n : Node) : Run (Array Node) Unit := fun seen =>
  if w.limit = some seen.size then .stop (fail n) seen else .done () (seen.push n)

section
variable {w : Walk} {fail : Node → Error} {n : Node} {ns : List Node} {seen : Array Node}

/-- A walk records a node, and goes below it unless the node is pruned. -/
theorem enterNode_eq (walk : Run (Array Node) Unit) : w.enterNode fail n walk =
    (do w.record fail n; if n.kind ∈ w.pruned then pure () else walk) := by
  funext seen
  rw [Run.bind_apply, record, enterNode]
  by_cases hlimit : w.limit = some seen.size
  · rw [if_pos hlimit, if_pos hlimit]
  · rw [if_neg hlimit, if_neg hlimit]
    by_cases hpruned : n.kind ∈ w.pruned
    · rw [if_pos hpruned, if_pos hpruned]
      rfl
    · rw [if_neg hpruned, if_neg hpruned]

/-- Below the limit, a node is recorded. -/
theorem record_of_ne (h : w.limit ≠ some seen.size) :
    w.record fail n seen = .done () (seen.push n) :=
  if_neg h

/-- Nodes within the limit are all recorded. -/
theorem forM_record_of_le (h : ∀ limit, w.limit = some limit → seen.size + ns.length ≤ limit) :
    (forM ns (w.record fail)) seen = .done () (seen ++ ns.toArray) := by
  induction ns generalizing seen with
  | nil => simp [Run.pure_apply]
  | cons n ns ih =>
    have hne : w.limit ≠ some seen.size := by
      intro hlimit
      have := h _ hlimit
      rw [List.length_cons] at this
      omega
    have hrest : ∀ limit, w.limit = some limit → (seen.push n).size + ns.length ≤ limit := by
      intro limit hlimit
      have := h limit hlimit
      rw [List.length_cons] at this
      rw [Array.size_push]
      omega
    rw [List.forM_cons, Run.bind_apply, record_of_ne hne]
    simp only [ih hrest]
    simp

/-- The first node beyond the limit is the one that the walk fails at. -/
theorem forM_record_stop {limit : Nat} (hlimit : w.limit = some limit) (h : limit < ns.length) :
    (forM ns (w.record fail)) #[] = .stop (fail ns[limit]) (ns.take limit).toArray := by
  have hsize : (ns.take limit).length = limit := by
    rw [List.length_take]
    omega
  have hfirst : (forM (ns.take limit) (w.record fail)) #[] = .done () (ns.take limit).toArray := by
    rw [forM_record_of_le fun k hk => ?_, Array.empty_append]
    obtain rfl := Option.some.inj (hlimit.symm.trans hk)
    simp [hsize]
  have hstop : w.record fail ns[limit] (ns.take limit).toArray =
      .stop (fail ns[limit]) (ns.take limit).toArray :=
    if_pos (by rw [hlimit, List.size_toArray, hsize])
  have hsplit : forM ns (w.record fail) =
      forM (ns.take limit ++ ns[limit] :: ns.drop (limit + 1)) (w.record fail) := by
    simp
  rw [hsplit, List.forM_append, Run.bind_apply, hfirst]
  simp only [List.forM_cons, Run.bind_apply, hstop]

end

end Walk

/-! ## Pruned nodes -/

/-- No node above is of a pruned kind. -/
def Entry.IsReached (pruned : List NodeKind) (x : Entry) : Prop := ∀ k ∈ x.above, k ∉ pruned

instance (pruned : List NodeKind) (x : Entry) : Decidable (x.IsReached pruned) :=
  inferInstanceAs (Decidable (∀ k ∈ x.above, k ∉ pruned))

/-- The nodes of some entries but for those below a node of a pruned kind. -/
def Entry.reached (pruned : List NodeKind) (xs : List Entry) : List Node :=
  (xs.filter fun x => x.IsReached pruned).map Entry.node

section
variable {pruned : List NodeKind} {xs : List Entry} {above : List NodeKind} {n : Node}

/-- All nodes are reached if none is pruned. -/
theorem Entry.reached_nil_pruned (xs : List Entry) : reached [] xs = xs.map node := by
  rw [reached, List.filter_eq_self.2 (by simp [IsReached])]

/-- A node that is reached comes before those after it. -/
theorem Entry.reached_cons (h : IsReached pruned ⟨above, n⟩) :
    reached pruned (⟨above, n⟩ :: xs) = n :: reached pruned xs := by
  rw [reached, List.filter_cons, if_pos (decide_eq_true h)]
  rfl

/-- What is reached of lists one after the other is what is reached of each. -/
theorem Entry.reached_flatMap {α : Type} {f : α → List Entry} {as : List α} :
    reached pruned (as.flatMap f) = as.flatMap fun a => reached pruned (f a) := by
  simp [reached, List.filter_flatMap, List.map_flatMap]

/-- Nothing below a pruned node is reached. -/
theorem Entry.reached_entries_eq_nil {k : NodeKind} (habove : k ∈ above) (hpruned : k ∈ pruned) :
    reached pruned (n.entries above) = [] := by
  rw [reached, List.map_eq_nil_iff, List.filter_eq_nil_iff]
  intro x hx hkept
  exact of_decide_eq_true hkept k ((Node.suffix_above hx).mem habove) hpruned

end

/-- Actions on items that are each a list of actions are the actions of the lists, one after the
other. -/
theorem forM_eq_forM_flatMap {m : Type → Type} [Monad m] [LawfulMonad m] {α β : Type}
    {f : α → m Unit} {g : β → m Unit} {h : α → List β} {as : List α}
    (hf : ∀ a ∈ as, f a = forM (h a) g) : forM as f = forM (as.flatMap h) g := by
  induction as with
  | nil => rfl
  | cons a as ih =>
    rw [List.forM_cons, List.flatMap_cons, List.forM_append, hf a List.mem_cons_self,
      ih fun b hb => hf b (List.mem_cons_of_mem _ hb)]

/-- A node is visited by recording it and what is reached below it. -/
theorem Node.visit_enterNode {w : Walk} {fail : Node → Error} {above : List NodeKind} {n : Node}
    (h : ∀ k ∈ above, k ∉ w.pruned) :
    n.visit (w.enterNode fail) =
      forM (Entry.reached w.pruned (n.entries above)) (w.record fail) := by
  induction n using induct generalizing above with
  | step n ih =>
    have hbelow :
        (if n.kind ∈ w.pruned then pure () else forM n.children (visit (w.enterNode fail))) =
          forM (n.children.flatMap fun c => Entry.reached w.pruned (c.entries (n.kind :: above)))
            (w.record fail) := by
      by_cases hpruned : n.kind ∈ w.pruned
      · have hnone (c : Node) : Entry.reached w.pruned (c.entries (n.kind :: above)) = [] :=
          Entry.reached_entries_eq_nil List.mem_cons_self hpruned
        rw [if_pos hpruned, List.flatMap_eq_nil_iff.2 fun c _ => hnone c, List.forM_nil]
      · rw [if_neg hpruned]
        refine forM_eq_forM_flatMap fun c hc => ih c hc fun k hk => ?_
        obtain rfl | hk := List.mem_cons.1 hk
        · exact hpruned
        · exact h k hk
    rw [visit_eq, Walk.enterNode_eq, hbelow, entries_eq, Entry.reached_cons h,
      Entry.reached_flatMap, List.forM_cons]

/-- A visitor that records each node it enters, and may fail there, records the nodes that are
reached. -/
theorem Program.visit_enterOr (w : Walk) (fail : Node → Error) (p : Program) :
    p.visit (w.enterOr fail) = forM (Entry.reached w.pruned p.entries) (w.record fail) := by
  rw [Walk.enterOr, Program.visit_eq, Program.entries]
  exact Node.visit_enterNode (by simp)

/-! ## Visitors that do nothing -/

/-- Handlers that only walk do the same at nodes of every kind. -/
theorem Visitor.default_eq {m : Type → Type} [Monad m] :
    ({} : Visitor m) = .ofNodes fun _ walk => walk := rfl

/-- A visit that only walks does nothing. -/
theorem Node.visit_only_walk {m : Type → Type} [Monad m] [LawfulMonad m] (n : Node) :
    n.visit (fun _ walk => walk : Node → m Unit → m Unit) = pure () := by
  induction n using induct with
  | step n ih =>
    have hnone (c : Node) (hc : c ∈ n.children) :
        c.visit (fun _ walk => walk : Node → m Unit → m Unit) = forM [] (pure : Unit → m Unit) :=
      ih c hc
    rw [visit_eq, forM_eq_forM_flatMap hnone, List.flatMap_eq_nil_iff.2 fun _ _ => rfl,
      List.forM_nil]

/-- A walk without a limit records the nodes that have no pruned node above them. -/
theorem Program.walk_pruned (pruned : List NodeKind) (p : Program) :
    p.walk ⟨pruned, none⟩ = .done () (Entry.reached pruned p.entries).toArray := by
  rw [Program.walk, Walk.enter_eq, Program.visit_enterOr, Walk.forM_record_of_le (by simp),
    Array.empty_append]

/-- A walk through everything records all nodes. -/
theorem Program.walk_full (p : Program) :
    p.walk .full = .done () (p.entries.map Entry.node).toArray := by
  rw [Walk.full, Program.walk_pruned, Entry.reached_nil_pruned]

/-- A walk without a limit records the nodes of a program that have no pruned node above them, in
order, and all nodes if none are pruned. With a limit it ends in the same way unless there are more
nodes than the limit; then it records as many of them as the limit says and fails at the next one,
with the error that the visitor has for it, which is `Walk.stopped` in `Program.walk`. A visit that
does nothing succeeds. -/
theorem Program.walk_entries (p : Program) :
    p.walk .full = .done () (p.entries.map Entry.node).toArray ∧
    (∀ pruned : List NodeKind,
      let ns := Entry.reached pruned p.entries
      p.walk ⟨pruned, none⟩ = .done () ns.toArray ∧
      ∀ (limit : Nat) (fail : Node → Error), p.visit (Walk.enterOr ⟨pruned, some limit⟩ fail) #[] =
        if h : limit < ns.length then .stop (fail ns[limit]) (ns.take limit).toArray
        else .done () ns.toArray) ∧
    p.visitQuietly = .ok () := by
  refine ⟨p.walk_full, fun pruned => ⟨p.walk_pruned pruned, fun limit fail => ?_⟩, ?_⟩
  · rw [Program.visit_enterOr]
    split
    · exact Walk.forM_record_stop rfl ‹_›
    · rename_i hle
      rw [Walk.forM_record_of_le fun k hk => ?_, Array.empty_append]
      obtain rfl := Option.some.inj hk
      simpa using hle
  · rw [Program.visitQuietly, Visitor.default_eq, Program.visit_eq, Node.visit_only_walk]
    rfl

end MiniPascal
