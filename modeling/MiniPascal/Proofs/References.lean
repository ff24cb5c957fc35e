import Mathlib.Data.List.Basic
import MiniPascal.Proofs.Collecting
import MiniPascal.Proofs.Traversal

/-!
# References are what a traversal finds

A reference is a use of a name at one node (`Node.use?`), and the references of a tree are the uses
at its nodes in the order in which these are entered (`Node.references_eq_entries`). So a walk that
records every node tells all references that the collector finds (`Program.references_eq_walk`). A
test on names leaves out the names for which it fails and nothing else, in a collector and in a
search with any pattern (`Program.search_eq_filter`).

Every statement here goes by one equation, `Node.references_eq`: the references at and below a node
are its own use of a name, if the test holds for it, and then the references of its children.
-/

namespace MiniPascal

open Reference (record)

namespace Node

/-! ## The use of a name at a node -/

/-- The use of a name that a node itself is. -/
def use? : Node → Option Reference
  | .procedureCall name _ | .functionCall name _ => some ⟨name, .called⟩
  | .forLoop counter _ _ _ _ => some ⟨counter, .loopVariable⟩
  | .memory _ name => some ⟨name, .memoryTarget⟩
  | .label (.ident name) => some ⟨name, .caseLabel⟩
  | .factor (.ident name) => some ⟨name, .read⟩
  | .designator isTarget d => some ⟨d.name, if isTarget then .assigned else .read⟩
  | _ => none

/-- The uses of names at a node and below it for which `keep` holds. -/
def references (keep : String → Bool) : Node → List Reference
  | .statements body => Stmt.referencesList keep body
  | .statement s => s.references keep
  | .assignment target value => target.references keep .assigned ++ value.references keep
  | .procedureCall name args | .functionCall name args =>
    record keep name .called ++ Expr.referencesList keep args
  | .conditional cond body none => cond.references keep ++ body.references keep
  | .conditional cond body (some other) =>
    cond.references keep ++ body.references keep ++ other.references keep
  | .caseStatement subject arms => subject.references keep ++ CaseArm.referencesList keep arms
  | .arm labels body => Label.referencesList keep labels ++ body.references keep
  | .whileLoop cond body => cond.references keep ++ body.references keep
  | .repeatLoop body cond => Stmt.referencesList keep body ++ cond.references keep
  | .forLoop counter start _ finish body =>
    record keep counter .loopVariable ++ start.references keep ++ finish.references keep
      ++ body.references keep
  | .memory _ name => record keep name .memoryTarget
  | .empty => []
  | .label l => Label.referencesList keep [l]
  | .expression e => e.references keep
  | .simple e => e.references keep
  | .term t => t.references keep
  | .factor f | .negation f => f.references keep
  | .designator isTarget d => d.references keep (if isTarget then .assigned else .read)
  | .selector s => s.references keep

end Node

/-! ## One node and its children -/

section
variable {keep : String → Bool}

/-- A name is recorded if the test holds for it. -/
theorem Reference.record_eq_filter (name : String) (role : Role) :
    record keep name role = [⟨name, role⟩].filter fun r => keep r.name := by
  rw [record, List.filter_cons]
  rfl

/-- The references of expressions follow one another. -/
theorem Expr.referencesList_eq_flatMap (es : List Expr) :
    Expr.referencesList keep es = es.flatMap (references keep) := by
  induction es with
  | nil => rfl
  | cons e es ih => rw [Expr.referencesList, ih, List.flatMap_cons]

/-- The references of the further terms follow one another. -/
theorem SimpleExpr.referencesRest_eq_flatMap (rest : List (AddOp × Term)) :
    SimpleExpr.referencesRest keep rest = (rest.map Prod.snd).flatMap (Term.references keep) := by
  induction rest with
  | nil => rfl
  | cons p rest ih => rw [SimpleExpr.referencesRest, ih, List.map_cons, List.flatMap_cons]

/-- The references of the further factors follow one another. -/
theorem Term.referencesRest_eq_flatMap (rest : List (MulOp × Factor)) :
    Term.referencesRest keep rest = (rest.map Prod.snd).flatMap (Factor.references keep) := by
  induction rest with
  | nil => rfl
  | cons p rest ih => rw [Term.referencesRest, ih, List.map_cons, List.flatMap_cons]

/-- The references of access steps follow one another. -/
theorem Selector.referencesList_eq_flatMap (ss : List Selector) :
    Selector.referencesList keep ss = ss.flatMap (references keep) := by
  induction ss with
  | nil => rfl
  | cons s ss ih => rw [Selector.referencesList, ih, List.flatMap_cons]

/-- The references of labels follow one another. -/
theorem Label.referencesList_eq_flatMap (ls : List Label) :
    Label.referencesList keep ls = ls.flatMap fun l => Label.referencesList keep [l] := by
  induction ls with
  | nil => rfl
  | cons l ls ih => cases l <;> simp [Label.referencesList, ih]

/-- The references of statements follow one another. -/
theorem Stmt.referencesList_eq_flatMap (ss : List Stmt) :
    Stmt.referencesList keep ss = ss.flatMap (references keep) := by
  induction ss with
  | nil => rfl
  | cons s ss ih => rw [Stmt.referencesList, ih, List.flatMap_cons]

/-- The references of arms follow one another. -/
theorem CaseArm.referencesList_eq_flatMap (arms : List CaseArm) :
    CaseArm.referencesList keep arms = arms.flatMap (references keep) := by
  induction arms with
  | nil => rfl
  | cons a arms ih => rw [CaseArm.referencesList, ih, List.flatMap_cons]

namespace Node

/-- The node of a statement has the references of the statement. -/
@[simp] theorem references_ofStmt (s : Stmt) :
    (ofStmt s).references keep = s.references keep := by
  cases s <;> simp only [ofStmt, references, Stmt.references]

/-- The node of an arm has the references of the arm. -/
@[simp] theorem references_ofArm (a : CaseArm) :
    (ofArm a).references keep = a.references keep := by
  cases a
  simp only [ofArm, references, CaseArm.references]

-- The parts of a node are the syntax of its children, so unfolding one level on both sides is all
-- there is to do in each case.
/-- The references at and below a node are its own use of a name and those of its children. -/
theorem references_eq (n : Node) : n.references keep =
    (n.use?.toList.filter fun r => keep r.name) ++ n.children.flatMap (references keep) := by
  cases n with
  | statements body =>
    simp [references, use?, children, Stmt.referencesList_eq_flatMap, List.flatMap_map]
  | statement s =>
    rw [children, List.flatMap_singleton, references_ofStmt]
    rfl
  | assignment target value => simp [references, use?, children]
  | procedureCall name args | functionCall name args =>
    simp only [references, use?, children, Reference.record_eq_filter, Option.toList_some,
      Expr.referencesList_eq_flatMap, List.flatMap_map]
  | conditional cond body other => cases other <;> simp [references, use?, children]
  | caseStatement subject arms =>
    rw [children, List.flatMap_cons, List.flatMap_map]
    simp only [references_ofArm, ← CaseArm.referencesList_eq_flatMap]
    rfl
  | arm labels body =>
    simp only [references, use?, children, Label.referencesList_eq_flatMap labels, List.flatMap_map,
      Option.toList_none, List.filter_nil, List.nil_append, List.flatMap_append,
      List.flatMap_singleton]
  | whileLoop cond body => simp [references, use?, children]
  | repeatLoop body cond =>
    simp [references, use?, children, Stmt.referencesList_eq_flatMap, List.flatMap_map]
  | forLoop counter start direction finish body =>
    simp [references, use?, children, Reference.record_eq_filter]
  | memory kind name => simp [references, use?, children, Reference.record_eq_filter]
  | empty => rfl
  | label l =>
    cases l <;> simp [references, use?, children, Label.referencesList, Reference.record_eq_filter]
  | expression e => cases e <;> simp [references, use?, children, Expr.references]
  | simple e =>
    obtain ⟨sign, first, rest⟩ := e
    simp [references, use?, children, SimpleExpr.references, SimpleExpr.operands,
      SimpleExpr.referencesRest_eq_flatMap, List.flatMap_map]
  | term t =>
    obtain ⟨first, rest⟩ := t
    simp [references, use?, children, Term.references, Term.operands,
      Term.referencesRest_eq_flatMap, List.flatMap_map]
  | factor f =>
    cases f <;>
      simp [references, use?, children, ofFactor?, Factor.references, Reference.record_eq_filter]
  | negation f => simp [references, use?, children]
  | designator isTarget d =>
    obtain ⟨name, selectors⟩ := d
    simp [references, use?, children, Designator.references, Reference.record_eq_filter,
      Selector.referencesList_eq_flatMap, List.flatMap_map]
  | selector s =>
    cases s <;> simp [references, use?, children, Selector.references,
      Expr.referencesList_eq_flatMap, List.flatMap_map]

/-- The references at and below a node, without a test. -/
theorem references_all_eq (n : Node) : (n.references fun _ => true) =
    n.use?.toList ++ n.children.flatMap (references fun _ => true) := by
  rw [references_eq, List.filter_true]

/-! ## All nodes of a tree -/

/-- What is made of every node by something of its own and then by its children in order is made of
the entries one after the other. -/
theorem flatMap_entries {α : Type} {f own : Node → List α}
    (step : ∀ n, f n = own n ++ n.children.flatMap f) (n : Node) (above : List NodeKind) :
    f n = (n.entries above).flatMap fun x => own x.node := by
  induction n using induct generalizing above with
  | step n ih =>
    rw [step, entries_eq, List.flatMap_cons, List.flatMap_assoc,
      List.flatMap_congr fun c hc => ih c hc (n.kind :: above)]

section
variable {n c : Node} {above : List NodeKind} {x : Entry}

/-- What is entered is the node itself or is entered below one of its children. -/
theorem mem_entries_iff :
    x ∈ n.entries above ↔ x = ⟨above, n⟩ ∨ ∃ c ∈ n.children, x ∈ c.entries (n.kind :: above) := by
  rw [entries_eq, List.mem_cons, List.mem_flatMap]

/-- What is entered below a child is entered below the node. -/
theorem mem_entries_of_mem_children (hc : c ∈ n.children) (h : x ∈ c.entries (n.kind :: above)) :
    x ∈ n.entries above :=
  mem_entries_iff.2 (.inr ⟨c, hc, h⟩)

end

/-- The references at and below a node are the uses of names at the entries. -/
theorem references_eq_entries (n : Node) (above : List NodeKind) :
    n.references keep =
      ((n.entries above).filterMap fun x => x.node.use?).filter fun r => keep r.name := by
  rw [flatMap_entries references_eq n above, List.filterMap_eq_flatMap_toList,
    List.filter_flatMap]

/-- A test on names keeps the references to names for which it holds. -/
theorem references_eq_filter (n : Node) :
    n.references keep = (n.references fun _ => true).filter fun r => keep r.name := by
  rw [references_eq_entries n [], references_eq_entries n [], List.filter_true]

/-- The references of a node stand together among those of the tree. -/
theorem references_infix {n : Node} {above : List NodeKind} {x : Entry}
    (h : x ∈ n.entries above) : x.node.references keep <:+: n.references keep := by
  induction n using induct generalizing above with
  | step n ih =>
    obtain rfl | ⟨c, hc, hx⟩ := mem_entries_iff.1 h
    · exact List.infix_refl _
    · refine (ih c hc hx).trans ?_
      rw [references_eq n]
      exact (List.infix_of_mem_flatten (List.mem_map_of_mem hc)).trans
        (List.suffix_append _ _).isInfix

/-! ## Operands and targets -/

/-- The node is an expression or a part of one. -/
def isOperand : Node → Bool
  | .expression _ | .simple _ | .term _ | .factor _ | .negation _ | .functionCall _ _
  | .designator false _ | .selector _ => true
  | _ => false

section
variable {n c : Node}

/-- Everything below a part of an expression is a part of an expression. -/
theorem isOperand_of_mem_children (hn : n.isOperand = true) (h : c ∈ n.children) :
    c.isOperand = true := by
  cases n with
  | expression e =>
    cases e with
    | simple e =>
      obtain rfl := List.mem_singleton.1 h
      rfl
    | comparison left op right =>
      simp only [children, List.mem_cons, List.not_mem_nil, or_false] at h
      obtain rfl | rfl := h <;> rfl
  | simple | term | functionCall | designator =>
    obtain ⟨_, -, rfl⟩ := List.mem_map.1 h
    rfl
  | factor f =>
    cases f with
    | ident | number | bool | nil => exact absurd h List.not_mem_nil
    | designator | paren | not | call =>
      obtain rfl := List.mem_singleton.1 h
      rfl
  | negation f =>
    obtain rfl := List.mem_singleton.1 h
    rfl
  | selector s =>
    cases s with
    | field | deref => exact absurd h List.not_mem_nil
    | index =>
      obtain ⟨_, -, rfl⟩ := List.mem_map.1 h
      rfl
  | _ => cases hn

/-- An expression only reads and calls. -/
theorem role_of_isOperand (hn : n.isOperand = true) :
    ∀ r ∈ n.references keep, r.role = .read ∨ r.role = .called := by
  induction n using induct with
  | step n ih =>
    intro r hr
    rw [references_eq] at hr
    obtain hr | hr := List.mem_append.1 hr
    · have huse := Option.mem_toList.1 (List.mem_filter.1 hr).1
      cases n with
      | expression | simple | term | negation | selector => cases huse
      | factor f =>
        cases f with
        | ident =>
          cases huse
          exact .inl rfl
        | _ => cases huse
      | functionCall =>
        cases huse
        exact .inr rfl
      | designator isTarget d =>
        cases isTarget
        · cases huse
          exact .inl rfl
        · cases hn
      | _ => cases hn
    · obtain ⟨c, hc, hr⟩ := List.mem_flatMap.1 hr
      exact ih c hc (isOperand_of_mem_children hn hc) r hr

/-- A designator below a node is a target exactly if the node is an assignment. -/
theorem isTarget_iff_of_mem_children {isTarget : Bool} {d : Designator}
    (h : .designator isTarget d ∈ n.children) : isTarget = true ↔ n.kind = .assignment := by
  cases n with
  | assignment target value =>
    simp only [children, List.mem_cons, List.not_mem_nil, or_false, reduceCtorEq] at h
    cases h
    simp [kind]
  | factor f => cases f <;> simp_all [children, ofFactor?, kind]
  | statement s => cases s <;> simp [children, ofStmt] at h
  | expression e => cases e <;> simp [children] at h
  | selector s => cases s <;> simp [children] at h
  | caseStatement => simp [children, ofArm] at h
  | _ => simp [children] at h

/-- The reference to the target of an assignment. -/
def target? : Node → Option Reference
  | .assignment target _ => some ⟨target.name, .assigned⟩
  | _ => none

/-- Only the target of an assignment is assigned to. -/
theorem eq_designator_of_assigned {r : Reference} (h : n.use? = some r)
    (hr : r.role = .assigned) : ∃ d, n = .designator true d := by
  cases n with
  | procedureCall | functionCall | forLoop | memory => cases h; cases hr
  | label l =>
    cases l with
    | ident => cases h; cases hr
    | _ => cases h
  | factor f =>
    cases f with
    | ident => cases h; cases hr
    | _ => cases h
  | designator isTarget d =>
    cases isTarget with
    | true => exact ⟨d, rfl⟩
    | false => cases h; cases hr
  | _ => cases h

-- Strictly below, so that the target of an assignment counts with the assignment and not with the
-- designator.
/-- The references that are assigned to and stand strictly below a node. -/
def assignedBelow (n : Node) : List Reference :=
  (n.children.flatMap (references fun _ => true)).filter fun r => r.role = .assigned

/-- The assigned references of a node are its own, if it is a target, and those below it. -/
theorem filter_assigned (n : Node) :
    ((n.references fun _ => true).filter fun r => r.role = .assigned) =
      (n.use?.toList.filter fun r => r.role = .assigned) ++ n.assignedBelow := by
  rw [references_all_eq, List.filter_append, assignedBelow]

/-- The targets below a node are its own, if it is an assignment, and those below its children. -/
theorem assignedBelow_eq (n : Node) :
    n.assignedBelow = n.target?.toList ++ n.children.flatMap assignedBelow := by
  rw [assignedBelow, List.filter_flatMap]
  simp only [filter_assigned]
  by_cases hn : n.kind = .assignment
  · cases n with
    | assignment target value => rfl
    | _ => cases hn
  · have htarget : n.target? = none := by
      cases n with
      | assignment => exact absurd rfl hn
      | _ => rfl
    rw [htarget]
    refine List.flatMap_congr fun c hc => ?_
    have huse : (c.use?.toList.filter fun r => r.role = .assigned) = [] := by
      refine List.filter_eq_nil_iff.2 fun r hr hassigned => ?_
      obtain ⟨d, rfl⟩ :=
        eq_designator_of_assigned (Option.mem_toList.1 hr) (of_decide_eq_true hassigned)
      exact hn ((isTarget_iff_of_mem_children hc).1 rfl)
    rw [huse, List.nil_append]

/-- Below a node, what is assigned to are the targets of the assignments. -/
theorem assignedBelow_eq_filterMap (n : Node) (above : List NodeKind) :
    n.assignedBelow = (n.entries above).filterMap fun x => x.node.target? := by
  rw [List.filterMap_eq_flatMap_toList]
  exact flatMap_entries assignedBelow_eq n above

end

end Node

end

/-! ## Walks -/

/-- The use of a name at an entry. A designator is assigned to if it is entered directly from an
assignment, and read otherwise. -/
def Entry.use? : Entry → Option Reference
  | ⟨above, .designator _ d⟩ =>
    some ⟨d.name, if above.head? = some .assignment then .assigned else .read⟩
  | ⟨_, n⟩ => n.use?

/-- A designator knows whether it is entered directly from an assignment. -/
theorem Node.use?_of_mem_entries {n : Node} {above : List NodeKind}
    (hn : ∀ isTarget d, n = .designator isTarget d →
      (isTarget = true ↔ above.head? = some .assignment))
    {x : Entry} (hx : x ∈ n.entries above) : x.use? = x.node.use? := by
  induction n using induct generalizing above with
  | step n ih =>
    obtain rfl | ⟨c, hc, hx⟩ := mem_entries_iff.1 hx
    · cases n with
      | designator isTarget d => simp only [Entry.use?, use?, hn isTarget d rfl]
      | _ => rfl
    · refine ih c hc (fun isTarget d hd => ?_) hx
      rw [List.head?_cons, Option.some_inj]
      exact isTarget_iff_of_mem_children (hd ▸ hc)

/-- The collector that keeps every name ends with the references of a program, and a walk that
records every node tells them: they are the uses of names at the recorded nodes, in order, where a
designator is assigned to if it is entered directly from an assignment. What is assigned to are the
targets of the assignments, one for each. A target stands before the references of its indices and
of the value, and none of those is assigned to. -/
theorem Program.references_eq_walk (p : Program) :
    p.collect (fun _ => true) = .ok p.references ∧
    p.walk .full = .done () (p.entries.map Entry.node).toArray ∧
    p.references = p.entries.filterMap Entry.use? ∧
    (p.references.filter fun r => r.role = .assigned) =
      p.entries.filterMap (fun x => x.node.target?) ∧
    ∀ x ∈ p.entries, ∀ target value, x.node = .assignment target value →
      let indices := Selector.referencesList (fun _ => true) target.selectors
      let below := indices ++ value.references fun _ => true
      ⟨target.name, .assigned⟩ :: below <:+: p.references ∧
        ∀ r ∈ below, r.role = .read ∨ r.role = .called := by
  refine ⟨p.collect_eq _, p.walk_full, ?_, (Node.filter_assigned (.statements p.body)).trans
    (Node.assignedBelow_eq_filterMap _ _), ?_⟩
  · have huse (x : Entry) (hx : x ∈ p.entries) : x.node.use? = x.use? :=
      (Node.use?_of_mem_entries (n := .statements p.body) nofun hx).symm
    have hp : ((Node.statements p.body).references fun _ => true) =
        p.entries.filterMap fun x => x.node.use? := by
      rw [Node.references_eq_entries _ [], List.filter_true]
      rfl
    exact hp.trans (List.filterMap_congr huse)
  · rintro ⟨above, _⟩ hx ⟨name, selectors⟩ value rfl indices below
    have hwithin : (Node.references (fun _ => true) (.assignment ⟨name, selectors⟩ value)) <:+:
        p.references := Node.references_infix hx
    refine ⟨hwithin, fun r hr => ?_⟩
    obtain hr | hr := List.mem_append.1 hr
    · exact Node.role_of_isOperand (n := .designator false ⟨name, selectors⟩) rfl r
        (List.mem_append_right _ hr)
    · exact Node.role_of_isOperand (n := .expression value) rfl r hr

/-- The target comes before its index, where a call is not assigned to, and before the value; the
condition of the loop around it is read. -/
theorem Program.references_eq_walk_loop :
    let name (x : String) : Expr := (Factor.ident x).toExpr
    let index : Expr := (Factor.call "f" [name "i"]).toExpr
    let target : Designator := ⟨"a", [.index [index], .field "i"]⟩
    let value : Expr := (Factor.designator ⟨"b", [.deref]⟩).toExpr
    let p : Program := ⟨[.whileDo (name "c") (.assign target value)]⟩
    let x : Entry := ⟨[.statement, .whileLoop, .statement, .statements], .assignment target value⟩
    x ∈ p.entries ∧ p.collect (fun _ => true) = .ok p.references ∧
      p.walk .full = .done () (p.entries.map Entry.node).toArray ∧
      p.references = p.entries.filterMap Entry.use? ∧
      p.references =
        [⟨"c", .read⟩, ⟨"a", .assigned⟩, ⟨"f", .called⟩, ⟨"i", .read⟩, ⟨"b", .read⟩] ∧
      p.entries.filterMap (fun x => x.node.target?) = [⟨"a", .assigned⟩] ∧
      [⟨"a", .assigned⟩, ⟨"f", .called⟩, ⟨"i", .read⟩, ⟨"b", .read⟩] <:+: p.references := by
  intro name index target value p x
  have hx : x ∈ p.entries :=
    Node.mem_entries_of_mem_children (.head _) <| Node.mem_entries_of_mem_children (.head _) <|
      Node.mem_entries_of_mem_children (.tail _ (.head _)) <|
        Node.mem_entries_of_mem_children (.head _) <| Node.mem_entries_iff.2 (.inl rfl)
  obtain ⟨hcollect, hwalk, huse, htarget, hassign⟩ := p.references_eq_walk
  exact ⟨hx, hcollect, hwalk, huse, rfl, htarget.symm, (hassign x hx target value rfl).1⟩

/-! ## Searches -/

/-- A test on names keeps the references of a program to names for which it holds. -/
theorem Program.referencesWhere_eq_filter (p : Program) (keep : String → Bool) :
    p.referencesWhere keep = p.references.filter fun r => keep r.name :=
  (Node.statements p.body).references_eq_filter

/-- A search with a pattern that is well formed ends with the references to the names that fit. -/
theorem Program.search_of_ok {compile : PatternCompiler} {text : String} {keep : String → Bool}
    (h : compile text = .ok keep) (p : Program) :
    p.search compile text = .ok (p.references.filter fun r => keep r.name) := by
  rw [Program.search, h, ← p.referencesWhere_eq_filter]
  exact p.collect_eq keep

/-- A search for the names that fit a pattern, whatever makes a test of it, and any other test on
names, finds the references to the names for which the test holds, in order and with their roles.
Whether it holds for the name at a node makes no difference to what is found below the node. -/
theorem Program.search_eq_filter (p : Program) :
    (∀ keep, p.referencesWhere keep = p.references.filter fun r => keep r.name) ∧
    (∀ keep, p.collect keep = .ok (p.references.filter fun r => keep r.name)) ∧
    (∀ (compile : PatternCompiler) (text : String), p.search compile text =
      ((compile text).mapError .invalidPattern).map fun keep =>
        p.references.filter fun r => keep r.name) ∧
    ∀ keep, ∀ x ∈ p.entries,
      ((x.node.children.flatMap (Node.references fun _ => true)).filter fun r => keep r.name) <:+:
        p.referencesWhere keep := by
  refine ⟨p.referencesWhere_eq_filter, fun keep => ?_, fun compile text => ?_, fun keep x hx => ?_⟩
  · rw [p.collect_eq, p.referencesWhere_eq_filter]
  · cases hcompile : compile text with
    | error detail =>
      rw [Program.search, hcompile]
      rfl
    | ok keep => exact p.search_of_ok hcompile
  · have hbelow : x.node.children.flatMap (Node.references keep) <:+: x.node.references keep := by
      rw [Node.references_eq x.node]
      exact (List.suffix_append _ _).isInfix
    rw [List.filter_flatMap]
    simp only [← Node.references_eq_filter]
    exact hbelow.trans (Node.references_infix hx)

/-- The name of the called function does not fit; the index in its argument is found. -/
theorem Program.search_eq_filter_call :
    let name (x : String) : Expr := (Factor.ident x).toExpr
    let arg : Expr := (Factor.designator ⟨"a", [.index [name "i"]]⟩).toExpr
    let p : Program := ⟨[.call "f" [arg], .forDo "j" (name "i") .to (name "n") (.call "i" [])]⟩
    let x : Entry := ⟨[.statement, .statements], .procedureCall "f" [arg]⟩
    let keep (y : String) : Bool := y = "i"
    let compile : PatternCompiler := fun _ => .ok keep
    x ∈ p.entries ∧ p.search compile "^i$" = .ok [⟨"i", .read⟩, ⟨"i", .read⟩, ⟨"i", .called⟩] ∧
      p.collect keep = .ok [⟨"i", .read⟩, ⟨"i", .read⟩, ⟨"i", .called⟩] ∧
      p.referencesWhere keep = [⟨"i", .read⟩, ⟨"i", .read⟩, ⟨"i", .called⟩] ∧
      x.node.use? = some ⟨"f", .called⟩ ∧
      ((x.node.children.flatMap (Node.references fun _ => true)).filter fun r => keep r.name) =
        [⟨"i", .read⟩] ∧
      [⟨"i", .read⟩] <:+: p.referencesWhere keep := by
  intro name arg p x keep compile
  have hx : x ∈ p.entries :=
    Node.mem_entries_of_mem_children (.head _) <| Node.mem_entries_of_mem_children (.head _) <|
      Node.mem_entries_iff.2 (.inl rfl)
  obtain ⟨-, hcollect, hsearch, hbelow⟩ := p.search_eq_filter
  exact ⟨hx, hsearch compile "^i$", hcollect keep, rfl, rfl, rfl, hbelow keep x hx⟩

end MiniPascal
