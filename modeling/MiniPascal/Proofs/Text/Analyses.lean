import MiniPascal.Proofs.Counting
import MiniPascal.Proofs.References
import MiniPascal.Proofs.Text.Reading

/-!
# What reading the text of a tree again does to its analyses

The text of a tree is read as the normal form of the tree. Seen by nodes the normal form rewrites a
node by at most one rule (`Node.rule?`) and keeps its place among the others: where no rule applies,
the children of the normal form are the normal forms of the children (`Node.children_normal`).

No rule touches a reference. What a rule adds to the counts and takes from them depends on the rule
alone, so the counts of the normal form are those of the tree and the sums of both over all nodes
(`Program.reread_analyses`).
-/

namespace MiniPascal

/-! ## The rules -/

/-- The rules of the normal form. -/
inductive NormalRule where
  /-- An empty list of statements becomes one empty statement. -/
  | emptyBody
  /-- A branch before an `else` that ends in an open `if` becomes a compound statement. -/
  | openBranch
  /-- A negative number becomes an expression with a minus sign in parentheses. -/
  | negativeNumber
  /-- A designator without access steps that is a factor becomes a name. -/
  | plainDesignator
  deriving DecidableEq

/-- What a rule adds to the counts. -/
def NormalRule.added : NormalRule → NodeCount
  | .emptyBody | .openBranch => .statement
  | .negativeNumber => .expression + .simple + .term + .factor
  | .plainDesignator => 0

/-- What a rule takes from the counts. -/
def NormalRule.dropped : NormalRule → NodeCount
  | .emptyBody | .openBranch | .negativeNumber => 0
  | .plainDesignator => .designator

namespace Node

/-- The rule that applies to a node. -/
def rule? : Node → Option NormalRule
  | .statements [] | .repeatLoop [] _ => some .emptyBody
  | .conditional _ body (some _) => if body.endsOpen then some .openBranch else none
  | .factor (.number n) => if n.toInt < 0 then some .negativeNumber else none
  | .factor (.designator d) => if d.isPlain then some .plainDesignator else none
  | _ => none

/-- The normal form of the syntax in a node. -/
def normal : Node → Node
  | .statements body => .statements (Stmt.orEmpty (Stmt.normalList body))
  | .statement s => .statement s.normal
  | .assignment target value => .assignment target.normal value.normal
  | .procedureCall name args => .procedureCall name (Expr.normalList args)
  | .conditional cond body none => .conditional cond.normal body.normal none
  | .conditional cond body (some other) =>
    .conditional cond.normal body.normal.closed (some other.normal)
  | .caseStatement subject arms => .caseStatement subject.normal (CaseArm.normalList arms)
  | .arm labels body => .arm labels body.normal
  | .whileLoop cond body => .whileLoop cond.normal body.normal
  | .repeatLoop body cond => .repeatLoop (Stmt.orEmpty (Stmt.normalList body)) cond.normal
  | .forLoop counter start direction finish body =>
    .forLoop counter start.normal direction finish.normal body.normal
  | .memory kind name => .memory kind name
  | .empty => .empty
  | .label l => .label l
  | .expression e => .expression e.normal
  | .simple e => .simple e.normal
  | .term t => .term t.normal
  | .factor f => .factor f.normal
  | .negation f => .negation f.normal
  | .functionCall name args => .functionCall name (Expr.normalList args)
  | .designator isTarget d => .designator isTarget d.normal
  | .selector s => .selector s.normal

end Node

/-- The further terms are normalized one by one, after their operators. -/
theorem SimpleExpr.normalRest_eq_map (rest : List (AddOp × Term)) :
    SimpleExpr.normalRest rest = rest.map fun p => (p.1, p.2.normal) := by
  induction rest with
  | nil => rfl
  | cons p rest ih => rw [SimpleExpr.normalRest, ih, List.map_cons]

/-- The further factors are normalized one by one, after their operators. -/
theorem Term.normalRest_eq_map (rest : List (MulOp × Factor)) :
    Term.normalRest rest = rest.map fun p => (p.1, p.2.normal) := by
  induction rest with
  | nil => rfl
  | cons p rest ih => rw [Term.normalRest, ih, List.map_cons]

/-- Expressions are normalized one by one. -/
theorem Expr.normalList_eq_map (es : List Expr) : Expr.normalList es = es.map normal := by
  induction es with
  | nil => rfl
  | cons e es ih => rw [Expr.normalList, ih, List.map_cons]

/-- Access steps are normalized one by one. -/
theorem Selector.normalList_eq_map (ss : List Selector) :
    Selector.normalList ss = ss.map normal := by
  induction ss with
  | nil => rfl
  | cons s ss ih => rw [Selector.normalList, ih, List.map_cons]

/-- Arms are normalized one by one. -/
theorem CaseArm.normalList_eq_map (arms : List CaseArm) :
    CaseArm.normalList arms = arms.map normal := by
  induction arms with
  | nil => rfl
  | cons a arms ih => rw [CaseArm.normalList, ih, List.map_cons]

namespace Node

/-- The normal form of a node is on the layer of the node. -/
theorem kind_normal (n : Node) : n.normal.kind = n.kind := by
  cases n with
  | conditional cond body other => cases other <;> rfl
  | _ => rfl

/-- The node of a normalized statement is the normal form of its node. -/
theorem ofStmt_normal (s : Stmt) : ofStmt s.normal = (ofStmt s).normal := by
  cases s <;> rfl

/-- The node of a normalized arm is the normal form of its node. -/
theorem ofArm_normal (a : CaseArm) : ofArm a.normal = (ofArm a).normal := by
  cases a
  rfl

/-! ### Nodes without a rule -/

section
variable {n : Node} {k : Int64} {d : Designator}

/-- A number to which no rule applies is its own normal form. -/
theorem normal_number (h : (factor (.number k)).rule? = none) :
    (factor (.number k)).normal = factor (.number k) := by
  have hk : ¬k.toInt < 0 := by simpa [rule?] using h
  exact congrArg factor (if_neg hk)

/-- A negative number becomes a minus sign and its absolute value in parentheses. -/
theorem normal_negative (h : k.toInt < 0) : (factor (.number k)).normal =
    factor (.paren (.simple ⟨some .minus, ⟨.number (-k), []⟩, []⟩)) :=
  congrArg factor (if_pos h)

/-- A designator to which no rule applies stays a designator. -/
theorem normal_designator (h : (factor (.designator d)).rule? = none) :
    (factor (.designator d)).normal = factor (.designator d.normal) := by
  have hd : ¬d.isPlain = true := by simpa [rule?] using h
  exact congrArg factor (if_neg hd)

/-- A node to which no rule applies uses the same name in normal form. -/
theorem use?_normal (h : n.rule? = none) : n.normal.use? = n.use? := by
  cases n with
  | conditional cond body other => cases other <;> rfl
  | factor f =>
    cases f with
    | number k => rw [normal_number h]
    | designator d =>
      rw [normal_designator h]
      rfl
    | _ => rfl
  | designator isTarget d =>
    cases d
    rfl
  | _ => rfl

/-- Where no rule applies, the children of the normal form are the normal forms of the children. -/
theorem children_normal (h : n.rule? = none) : n.normal.children = n.children.map normal := by
  cases n with
  | statements body =>
    cases body with
    | nil => cases h
    | cons s ss => simp [normal, children, Stmt.normalList_eq_map, Stmt.orEmpty]
  | repeatLoop body cond =>
    cases body with
    | nil => cases h
    | cons s ss => simp [normal, children, Stmt.normalList_eq_map, Stmt.orEmpty]
  | statement s => exact congrArg (fun n => [n]) (ofStmt_normal s)
  | procedureCall name args | functionCall name args =>
    simp [normal, children, Expr.normalList_eq_map]
  | conditional cond body other =>
    cases other with
    | none => rfl
    | some other =>
      have hclosed : body.normal.closed = body.normal := by
        have hopen : ¬body.endsOpen = true := by simpa [rule?] using h
        rw [Stmt.closed, Stmt.endsOpen_normal, if_neg hopen]
      rw [normal, hclosed]
      rfl
  | caseStatement subject arms =>
    have harms : arms.map (ofArm ∘ CaseArm.normal) = arms.map (normal ∘ ofArm) :=
      List.map_congr_left fun a _ => ofArm_normal a
    rw [normal, children, CaseArm.normalList_eq_map, List.map_map, harms, ← List.map_map]
    rfl
  | arm labels body => simp [normal, children]
  | assignment | whileLoop | forLoop | memory | empty | label | negation => rfl
  | expression e => cases e <;> rfl
  | simple e =>
    obtain ⟨sign, first, rest⟩ := e
    simp [normal, SimpleExpr.normal, children, SimpleExpr.operands, SimpleExpr.normalRest_eq_map]
  | term t =>
    obtain ⟨first, rest⟩ := t
    simp [normal, Term.normal, children, Term.operands, Term.normalRest_eq_map]
  | factor f =>
    cases f with
    | number k =>
      rw [normal_number h]
      rfl
    | designator d =>
      rw [normal_designator h]
      rfl
    | _ => rfl
  | designator isTarget d =>
    obtain ⟨name, selectors⟩ := d
    simp [normal, Designator.normal, children, Selector.normalList_eq_map]
  | selector s =>
    cases s with
    | field | deref => rfl
    | index es => simp [normal, Selector.normal, children, Expr.normalList_eq_map]

end

end Node

/-! ### Nodes with a rule -/

/-- The rule applies to the node. -/
inductive NormalRule.Applies : NormalRule → Node → Prop
  | statements : Applies .emptyBody (.statements [])
  | repeatLoop {cond} : Applies .emptyBody (.repeatLoop [] cond)
  | conditional {cond body other} : body.endsOpen = true →
      Applies .openBranch (.conditional cond body (some other))
  | number {k : Int64} : k.toInt < 0 → Applies .negativeNumber (.factor (.number k))
  | designator {name} : Applies .plainDesignator (.factor (.designator ⟨name, []⟩))

/-- The rule for a node is one that applies to it. -/
theorem Node.applies_of_rule? {n : Node} {r : NormalRule} (h : n.rule? = some r) :
    r.Applies n := by
  cases n with
  | statements body =>
    cases body <;> cases h
    exact .statements
  | repeatLoop body cond =>
    cases body <;> cases h
    exact .repeatLoop
  | conditional cond body other =>
    cases other with
    | none => cases h
    | some other =>
      obtain ⟨hopen, ⟨⟩⟩ := Option.ite_none_right_eq_some.1 h
      exact .conditional hopen
  | factor f =>
    cases f with
    | number k =>
      obtain ⟨hk, ⟨⟩⟩ := Option.ite_none_right_eq_some.1 h
      exact .number hk
    | designator d =>
      obtain ⟨name, selectors⟩ := d
      obtain ⟨hd, ⟨⟩⟩ := Option.ite_none_right_eq_some.1 h
      obtain rfl := List.isEmpty_iff.1 hd
      exact .designator
    | _ => cases h
  | _ => cases h

/-! ## The references of normal forms -/

/-- A compound statement around a statement has its references. -/
theorem Stmt.references_closed (keep : String → Bool) (s : Stmt) :
    s.closed.references keep = s.references keep := by
  rw [Stmt.closed]
  split
  · exact List.append_nil _
  · rfl

namespace Node

/-- The references of a normal form are the node's own use of a name and the references of the
normal forms of its children. -/
theorem references_normal_eq (n : Node) : n.normal.references (fun _ => true) =
    n.use?.toList ++ n.children.flatMap fun c => c.normal.references fun _ => true := by
  cases hr : n.rule? with
  | none =>
    rw [references_all_eq, use?_normal hr, children_normal hr, List.flatMap_map]
  | some r =>
    cases applies_of_rule? hr with
    | statements | designator => rfl
    | repeatLoop => exact (List.append_nil _).symm
    | @conditional cond body other _ =>
      show cond.normal.references _ ++ body.normal.closed.references _
          ++ other.normal.references _ = _
      rw [Stmt.references_closed]
      simp [children, use?, normal, references]
    | @number k hk =>
      rw [normal_negative hk]
      rfl

/-- The normal form has the references of the tree. -/
theorem references_normal (n : Node) :
    (n.normal.references fun _ => true) = n.references fun _ => true := by
  rw [flatMap_entries references_normal_eq n [], flatMap_entries references_all_eq n []]

end Node

/-! ## The counts of normal forms -/

/-- A compound statement around a statement counts as one statement more. -/
theorem Stmt.count_closed (s : Stmt) :
    s.closed.count = (if s.endsOpen then .statement else 0) + s.count := by
  rw [Stmt.closed]
  split
  · exact congrArg (.statement + ·) (add_zero s.count)
  · exact (zero_add _).symm

namespace Node

/-- What is added to the counts at a node. -/
def added (n : Node) : NodeCount := n.rule?.elim 0 NormalRule.added

/-- What is taken from the counts at a node. -/
def dropped (n : Node) : NodeCount := n.rule?.elim 0 NormalRule.dropped

/-- The counts of the normal form of a node are those of the node itself and of the normal forms of
its children, but for what its rule adds and drops. -/
theorem count_normal_eq (n : Node) : n.normal.count + n.dropped =
    .ofKind n.kind + n.added + (n.children.map fun c => c.normal.count).sum := by
  cases hr : n.rule? with
  | none =>
    rw [added, dropped, hr, count_eq, kind_normal, children_normal hr, List.map_map]
    simp only [Option.elim_none, add_zero]
    rfl
  | some r =>
    rw [added, dropped, hr]
    cases applies_of_rule? hr with
    | statements => rfl
    | @repeatLoop cond =>
      show .statement + 0 + cond.normal.count + 0 = 0 + .statement + (cond.normal.count + 0)
      simp only [add_zero, zero_add]
    | @conditional cond body other hopen =>
      show cond.normal.count + body.normal.closed.count + other.normal.count + 0 =
        0 + .statement + (cond.normal.count + (body.normal.count + (other.normal.count + 0)))
      -- The rule looks at the branch itself, and its normal form ends in an open `if` just as it.
      rw [Stmt.count_closed, Stmt.endsOpen_normal, if_pos hopen]
      simp only [add_zero, zero_add]
      ac_rfl
    | @number k hk =>
      rw [normal_negative hk]
      rfl
    | designator => rfl

end Node

section
variable (ns : List Node)

/-- The number of nodes to which a rule applies. -/
def NormalRule.uses (r : NormalRule) : Nat := ns.countP fun n => n.rule? = some r

/-- What the rules for the nodes add to the counts. -/
def NodeCount.added : NodeCount where
  statements := NormalRule.emptyBody.uses ns + NormalRule.openBranch.uses ns
  caseArms := 0
  caseLabels := 0
  expressions := NormalRule.negativeNumber.uses ns
  simpleExpressions := NormalRule.negativeNumber.uses ns
  terms := NormalRule.negativeNumber.uses ns
  factors := NormalRule.negativeNumber.uses ns
  designators := 0
  selectors := 0

/-- What the rules for the nodes take from the counts. -/
def NodeCount.dropped : NodeCount where
  statements := 0
  caseArms := 0
  caseLabels := 0
  expressions := 0
  simpleExpressions := 0
  terms := 0
  factors := 0
  designators := NormalRule.plainDesignator.uses ns
  selectors := 0

end

namespace NodeCount

/-- What is added adds up over the nodes. -/
theorem added_cons (n : Node) (ns : List Node) : added (n :: ns) = added ns + n.added := by
  simp only [added, NormalRule.uses, List.countP_cons, Node.added]
  cases n.rule? with
  | none => rfl
  | some r =>
    cases r with
    | emptyBody =>
      -- The one more statement stands before the number of open branches.
      rw [Nat.add_right_comm]
      rfl
    | _ => rfl

/-- What is taken adds up over the nodes. -/
theorem dropped_cons (n : Node) (ns : List Node) : dropped (n :: ns) = dropped ns + n.dropped := by
  simp only [dropped, NormalRule.uses, List.countP_cons, Node.dropped]
  cases n.rule? with
  | none => rfl
  | some r => cases r <;> rfl

/-- What is added is the sum of what the rules at the nodes add. -/
theorem added_eq_sum (ns : List Node) : added ns = (ns.map Node.added).sum :=
  eq_sum_of_cons rfl added_cons ns

/-- What is taken is the sum of what the rules at the nodes take. -/
theorem dropped_eq_sum (ns : List Node) : dropped ns = (ns.map Node.dropped).sum :=
  eq_sum_of_cons rfl dropped_cons ns

end NodeCount

/-- The counts of a normal form are those of the node, with what the rules add and without what they
take. -/
theorem Node.count_normal (n : Node) (above : List NodeKind) :
    let ns := (n.entries above).map Entry.node
    n.normal.count + .dropped ns = n.count + .added ns := by
  intro ns
  have h := add_sum_entries (f := fun n => n.normal.count) count_normal_eq n above
  rw [List.sum_map_add] at h
  rw [count_eq_ofNodes n above, NodeCount.ofNodes_eq_sum, NodeCount.added_eq_sum,
    NodeCount.dropped_eq_sum, List.map_map, List.map_map, List.map_map]
  exact h

/-! ## Reading the text -/

/-- The text of a program with valid names, no least number and no empty list of indices or labels
is read as a program with the same references. Its counts are those of the program, with one more
statement for each empty list of statements and each branch before an `else` that ends in an open
`if`, one more expression, simple expression, term and factor for each negative number, and one
designator less for each factor that is a designator without access steps. -/
theorem Program.reread_analyses (p : Program) (h : p.Meets .writable) :
    ∃ q, Program.parse p.text = .ok q ∧ q.references = p.references ∧
      let ns := p.entries.map Entry.node
      q.count + .dropped ns = p.count + .added ns :=
  ⟨p.normal, p.parse_text_eq_normal h, (Node.statements p.body).references_normal,
    (Node.statements p.body).count_normal []⟩

/-- All four rules apply to this program. -/
theorem Program.reread_analyses_branch :
    let a : Expr := (Factor.designator ⟨"a", []⟩).toExpr
    let p : Program :=
      ⟨[.ifThenElse a (.ifThen (Factor.number (-5)).toExpr (.compound [])) (.call "b" [])]⟩
    let ns := p.entries.map Entry.node
    p.Meets .writable ∧
    p.references = [⟨"a", .read⟩, ⟨"b", .called⟩] ∧
    p.count = ⟨4, 0, 0, 2, 2, 2, 2, 1, 0⟩ ∧
    NodeCount.added ns = ⟨2, 0, 0, 1, 1, 1, 1, 0, 0⟩ ∧
    NodeCount.dropped ns = ⟨0, 0, 0, 0, 0, 0, 0, 1, 0⟩ ∧
    ∃ q, Program.parse p.text = .ok q ∧ q.references = p.references ∧
      q.count + .dropped ns = p.count + .added ns := by
  intro a p ns
  have ha : Name.isValid "a".toList = true := by decide +kernel
  have hb : Name.isValid "b".toList = true := by decide +kernel
  have hnumber : (-5 : Int64) ≠ Int64.minValue := by decide
  have h : p.Meets .writable :=
    ⟨trivial, ⟨⟨⟨⟨trivial, ha, trivial⟩, trivial⟩, trivial⟩, trivial,
      ⟨⟨⟨hnumber, trivial⟩, trivial⟩, trivial, trivial⟩, hb, trivial⟩, trivial⟩
  exact ⟨h, rfl, rfl, by decide +kernel, by decide +kernel, p.reread_analyses h⟩

end MiniPascal
