import MiniPascal.Proofs.Text.Analyses

/-!
# Numbers in the text of a tree

Reading the text of a tree again keeps the labels of the tree, and its factors but for their normal
forms: a negative number becomes an expression in parentheses, with a minus sign before its absolute
value. The only number for which this fails is the least one. Its text is its digits after a minus
sign, and as a number these digits are too large; so a tree that holds it, as a factor or as a
label, has a text that is not read (`Program.parse_text_numbers`).

The labels and the factors are gathered from the nodes (`Node.gather`). The rules of the normal form
put nodes in place of others, and what is gathered from these is all that changes
(`Node.gather_normal_eq`).
-/

namespace MiniPascal

/-- The requirement of valid names and of no empty list of indices or labels. It does not restrict
the numbers. -/
def Requirement.filled : Requirement where
  name x := Name.isValid x.toList = true
  labels ls := ls ≠ []
  indices es := es ≠ []

namespace Requirement

/-- The names of a tree without empty lists of indices or labels can stand in a text. -/
theorem filled_implies_named : filled.Implies named where
  name := id
  literal _ := trivial
  label _ := trivial
  labels _ := trivial
  indices _ := trivial
  selectors := id
  body := id
  branch := id

/-- Without the least number, such a tree has a text that can be read. -/
theorem filled_bounded_implies_writable : filled.bounded.Implies writable where
  name := id
  literal h := h.2
  label h := h.2
  labels := id
  indices := id
  selectors := id
  body := id
  branch := id

end Requirement

/-! ## Labels and factors -/

namespace Node

/-- The label that a node is. -/
def label? : Node → Option Label
  | .label l => some l
  | _ => none

/-- The factor that a node is. -/
def factor? : Node → Option Factor
  | .factor f => some f
  | _ => none

end Node

/-- The labels of a program, in the order of the source. -/
def Program.labels (p : Program) : List Label :=
  p.entries.filterMap fun x => x.node.label?

/-- The factors of a program, in the order of the source, each before those within it. -/
def Program.factors (p : Program) : List Factor :=
  p.entries.filterMap fun x => x.node.factor?

/-- A number between parentheses, with a minus sign. -/
def Factor.negated (n : Int64) : Factor :=
  .paren (.simple ⟨some .minus, (Factor.number n).toTerm, []⟩)

/-- What a factor is read as from its text: a negative number as an expression in parentheses and,
within it, its absolute value; another factor as its normal form. -/
def Factor.reread : Factor → List Factor
  | .number n => if n.toInt < 0 then [.negated (-n), .number (-n)] else [.number n]
  | f => [f.normal]

/-! ## What is gathered from the nodes -/

namespace Node

section
variable {α : Type} {g : Node → List α}

/-- What `g` makes of a node and of everything below it, in the order of the source. -/
def gather (g : Node → List α) (n : Node) : List α :=
  (n.entries []).flatMap fun x => g x.node

/-- What is gathered below a node does not depend on the nodes above it. -/
theorem gather_entries (n : Node) (above : List NodeKind) :
    (n.entries above).flatMap (fun x => g x.node) = n.gather g := by
  induction n using induct generalizing above with
  | step n ih =>
    rw [gather, entries_eq, entries_eq, List.flatMap_cons, List.flatMap_cons, List.flatMap_assoc,
      List.flatMap_assoc, List.flatMap_congr fun c hc => ih c hc (n.kind :: above),
      List.flatMap_congr fun c hc => ih c hc [n.kind]]

/-- What is gathered from a node is its own and then that of its children. -/
theorem gather_eq (n : Node) : n.gather g = g n ++ n.children.flatMap (gather g) := by
  rw [gather, entries_eq, List.flatMap_cons, List.flatMap_assoc,
    List.flatMap_congr fun c _ => gather_entries c [n.kind]]

/-- The nodes that stand in the normal form for a node itself, as far as these are labels or
factors. -/
def reread : Node → List Node
  | .factor f => f.reread.map .factor
  | n => [n.normal]

/-- A node to which no rule applies is read again as its normal form. -/
theorem reread_eq_normal {n : Node} (h : n.rule? = none) : n.reread = [n.normal] := by
  cases n with
  | factor f =>
    cases f with
    | number k =>
      have hk : ¬k.toInt < 0 := by simpa [rule?] using h
      rw [normal_number h, reread, Factor.reread, if_neg hk]
      rfl
    | _ => rfl
  | _ => rfl

variable (hg : ∀ n : Node, n.label? = none → n.factor? = none → g n = [])
include hg

/-- A node that is neither a label nor a factor adds nothing of its own. -/
theorem gather_children {n : Node} (hl : n.label? = none) (hf : n.factor? = none) :
    n.gather g = n.children.flatMap (gather g) := by
  rw [gather_eq, hg n hl hf, List.nil_append]

/-- Nothing is gathered from an empty statement. -/
theorem gather_empty : (statement .empty).gather g = [] := by
  rw [gather_children hg rfl rfl, children, List.flatMap_singleton, gather_children hg rfl rfl]
  rfl

/-- A compound statement around a statement adds nothing. -/
theorem gather_closed (s : Stmt) : (statement s.closed).gather g = (statement s).gather g := by
  rw [Stmt.closed]
  split
  · rw [gather_children hg rfl rfl, children, List.flatMap_singleton, gather_children hg rfl rfl]
    exact List.flatMap_singleton ..
  · rfl

/-- Two factors stand for a negative number: the parentheses and the absolute value in them. -/
theorem gather_negated (k : Int64) : (factor (.negated k)).gather g =
    g (factor (.negated k)) ++ g (factor (.number k)) := by
  have hfactor : (factor (.number k)).gather g = g (factor (.number k)) := by
    rw [gather_eq]
    exact List.append_nil _
  rw [gather_eq]
  show _ ++ [expression (.simple _)].flatMap _ = _
  rw [List.flatMap_singleton, gather_children hg rfl rfl]
  show _ ++ [simple _].flatMap _ = _
  rw [List.flatMap_singleton, gather_children hg rfl rfl]
  show _ ++ [term _].flatMap _ = _
  rw [List.flatMap_singleton, gather_children hg rfl rfl]
  show _ ++ [factor (.number k)].flatMap _ = _
  rw [List.flatMap_singleton, hfactor]

/-- What is gathered from a normal form is made of the nodes that stand for the node itself and
gathered from the normal forms of its children. -/
theorem gather_normal_eq (n : Node) : n.normal.gather g =
    n.reread.flatMap g ++ n.children.flatMap fun c => c.normal.gather g := by
  cases hr : n.rule? with
  | none =>
    rw [gather_eq, children_normal hr, reread_eq_normal hr, List.flatMap_singleton,
      List.flatMap_map]
  | some r =>
    cases applies_of_rule? hr with
    | statements =>
      rw [gather_eq]
      show _ ++ [statement .empty].flatMap _ = [statements [.empty]].flatMap g ++ []
      rw [List.flatMap_singleton, List.flatMap_singleton, gather_empty hg]
      rfl
    | @repeatLoop cond =>
      rw [gather_eq]
      show _ ++ ((statement .empty).gather g ++ [expression cond.normal].flatMap _) =
        [repeatLoop [.empty] cond.normal].flatMap g ++ [expression cond].flatMap _
      rw [gather_empty hg, List.nil_append, List.flatMap_singleton, List.flatMap_singleton,
        List.flatMap_singleton]
      rfl
    | @conditional cond body other _ =>
      rw [gather_eq]
      show _ ++ ((expression cond.normal).gather g ++ ((statement body.normal.closed).gather g
        ++ _)) = [(conditional cond body (some other)).normal].flatMap g ++ _
      rw [gather_closed hg, List.flatMap_singleton]
      rfl
    | @number k hk =>
      have hreread : (factor (.number k)).reread =
          [factor (.negated (-k)), factor (.number (-k))] :=
        congrArg (List.map factor) (if_pos hk)
      rw [normal_negative hk, hreread]
      exact (gather_negated hg (-k)).trans (by simp [children, ofFactor?])
    | @designator name =>
      rw [gather_eq]
      show g (factor (.ident name)) ++ [] =
        [factor (.ident name)].flatMap g ++ [designator false ⟨name, []⟩].flatMap fun c =>
          c.normal.gather g
      rw [List.flatMap_singleton, List.flatMap_singleton, gather_children hg rfl rfl]
      rfl

end

/-- A label is read again as it is. -/
theorem reread_flatMap_label? (n : Node) :
    (n.reread.flatMap fun m => m.label?.toList) = n.label?.toList := by
  cases n with
  | factor f =>
    rw [reread, List.flatMap_map]
    exact List.flatMap_eq_nil_iff.2 fun _ _ => rfl
  | conditional cond body other => cases other <;> rfl
  | label l => rfl
  | _ => rfl

/-- A factor is read again as one or two factors. -/
theorem reread_flatMap_factor? (n : Node) :
    (n.reread.flatMap fun m => m.factor?.toList) = n.factor?.toList.flatMap Factor.reread := by
  cases n with
  | factor f =>
    rw [reread, List.flatMap_map]
    show (f.reread.flatMap fun f => [f]) = [f].flatMap Factor.reread
    rw [List.flatMap_singleton, List.flatMap_singleton']
  | conditional cond body other => cases other <;> rfl
  | _ => rfl

end Node

section
variable (p : Program)

/-- The normal form has the labels of the program. -/
theorem Program.labels_normal : p.normal.labels = p.labels := by
  have step (n : Node) := n.gather_normal_eq (g := fun m => m.label?.toList) fun m hl _ => by
    rw [hl, Option.toList_none]
  simp only [Node.reread_flatMap_label?] at step
  rw [labels, labels, List.filterMap_eq_flatMap_toList, List.filterMap_eq_flatMap_toList]
  exact Node.flatMap_entries step (.statements p.body) []

/-- The factors of the normal form are those as which the factors of the program are read. -/
theorem Program.factors_normal : p.normal.factors = p.factors.flatMap Factor.reread := by
  have step (n : Node) := n.gather_normal_eq (g := fun m => m.factor?.toList) fun m _ hf => by
    rw [hf, Option.toList_none]
  simp only [Node.reread_flatMap_factor?] at step
  rw [factors, factors, List.filterMap_eq_flatMap_toList, List.filterMap_eq_flatMap_toList,
    List.flatMap_assoc]
  exact Node.flatMap_entries step (.statements p.body) []

end

/-! ## Reading the text -/

/-- Only the least number keeps the text of a program with valid names and no empty list of indices
or labels from being read. Without it, the text is read as a program with the same labels and with
the factors of the program, each negative number among them as its absolute value after a minus sign
in parentheses. With it, the reading stops at its digits. -/
theorem Program.parse_text_numbers (p : Program) (h : p.Meets .filled) :
    (p.Meets .writable → ∃ q, Program.parse p.text = .ok q ∧ q.labels = p.labels ∧
      q.factors = p.factors.flatMap Factor.reread) ∧
    (¬p.Meets .writable → ∃ line,
      Program.parse p.text = .error (.invalidNumber "9223372036854775808" line)) := by
  constructor
  · intro hw
    exact ⟨p.normal, p.parse_text_eq_normal hw, p.labels_normal, p.factors_normal⟩
  · intro hw
    have hb : ¬Token.Bounded p.tokens := fun hb =>
      hw (p.meets_mono Requirement.filled_bounded_implies_writable (p.meets_bounded_iff.2 ⟨h, hb⟩))
    have hn := p.meets_mono Requirement.filled_implies_named h
    obtain ⟨line, hs⟩ := (p.spells hn).scan_stop hb 1
    exact ⟨line, by rw [Program.parse, hs]; rfl⟩

/-- The numbers next to the least one and the greatest one are read again, as factors and as labels;
the least one is not. -/
theorem Program.parse_text_numbers_extreme :
    let number (n : Int64) : Program :=
      ⟨[.caseOf (Factor.number n).toExpr [⟨[.number n, .number Int64.maxValue], .empty⟩]]⟩
    let p := number (-Int64.maxValue)
    let least := number Int64.minValue
    p.Meets .filled ∧ p.Meets .writable ∧ least.Meets .filled ∧ ¬least.Meets .writable ∧
      (∃ q, Program.parse p.text = .ok q ∧
        q.labels = [.number (-Int64.maxValue), .number Int64.maxValue] ∧
        q.factors = [.negated Int64.maxValue, .number Int64.maxValue]) ∧
      ∃ line, Program.parse least.text = .error (.invalidNumber "9223372036854775808" line) := by
  intro number p least
  have hfilled (n : Int64) : (number n).Meets .filled := by
    have hlabels : ∀ l ∈ [Label.number n, .number Int64.maxValue], l.Meets .filled := by
      simp [Label.Meets, Requirement.filled]
    exact ⟨trivial, ⟨⟨⟨trivial, trivial⟩, trivial⟩,
      ⟨List.cons_ne_nil _ _, hlabels, trivial⟩, trivial⟩, trivial⟩
  have hp : p.Meets .writable := by
    have hlabels : ∀ l ∈ [Label.number (-Int64.maxValue), .number Int64.maxValue],
        l.Meets .writable := by
      simp only [List.forall_mem_cons, List.not_mem_nil, false_implies, implies_true, and_true]
      exact ⟨(by decide : -Int64.maxValue ≠ Int64.minValue),
        (by decide : Int64.maxValue ≠ Int64.minValue)⟩
    exact ⟨trivial, ⟨⟨⟨(by decide : -Int64.maxValue ≠ Int64.minValue), trivial⟩, trivial⟩,
      ⟨List.cons_ne_nil _ _, hlabels, trivial⟩, trivial⟩, trivial⟩
  have hleast : ¬least.Meets .writable := by
    rintro ⟨-, ⟨-, ⟨-, hlabels, -⟩, -⟩, -⟩
    exact hlabels _ List.mem_cons_self rfl
  obtain ⟨q, hq, hl, hf⟩ := (p.parse_text_numbers (hfilled _)).1 hp
  exact ⟨hfilled _, hp, hfilled _, hleast, ⟨q, hq, hl.trans (by decide +kernel),
    hf.trans (by decide +kernel)⟩, (least.parse_text_numbers (hfilled _)).2 hleast⟩

/-- The least number is not read again, neither as a label nor as a factor. -/
theorem Program.parse_text_least :
    let label : Program :=
      ⟨[.caseOf (Factor.ident "x").toExpr [⟨[.number Int64.minValue], .empty⟩]]⟩
    let factor : Program := ⟨[.assign ⟨"x", []⟩ (Factor.number Int64.minValue).toExpr]⟩
    label.Meets .filled ∧ label.text = "case x of\n  -9223372036854775808:\nend" ∧
      Program.parse label.text = .error (.invalidNumber "9223372036854775808" 2) ∧
      factor.Meets .filled ∧ factor.text = "x := (-9223372036854775808)" ∧
      Program.parse factor.text = .error (.invalidNumber "9223372036854775808" 1) := by
  intro label factor
  have hx : Name.isValid "x".toList = true := by decide +kernel
  have hlabels : ∀ l ∈ [Label.number Int64.minValue], l.Meets .filled := by
    simp [Label.Meets, Requirement.filled]
  have hlabel : label.Meets .filled :=
    ⟨trivial, ⟨⟨⟨hx, trivial⟩, trivial⟩, ⟨List.cons_ne_nil _ _, hlabels, trivial⟩, trivial⟩,
      trivial⟩
  have hfactor : factor.Meets .filled :=
    ⟨trivial, ⟨⟨hx, trivial⟩, ⟨trivial, trivial⟩, trivial⟩, trivial⟩
  exact ⟨hlabel, by decide +kernel, by decide +kernel, hfactor, by decide +kernel,
    by decide +kernel⟩

end MiniPascal
