import MiniPascal.Passes

/-!
# The collector collects the references

`Reference.Collects` says that a run records some references after those recorded before, and does
not fail. Runs one after the other record what the first records and then what the second does
(`Reference.Collects.seq`), so the collector, along its walks through the syntax, records the
references that the recursion over the tree lists (`Expr.collects`, `Stmt.collects`). It passes by
the target of an assignment and records it itself; every other designator is recorded as read, and
its indices are walked in both cases.
-/

namespace MiniPascal

namespace Reference

/-- The run records the references after those recorded before, and does not fail. -/
def Collects (run : Run (Array Reference) Unit) (rs : List Reference) : Prop :=
  ∀ seen, run seen = .done () (seen ++ rs.toArray)

section
variable {p q : Run (Array Reference) Unit} {rs ss : List Reference}

/-- A run that does nothing records nothing. -/
theorem Collects.nil : Collects (pure ()) [] := fun seen => by
  rw [Run.pure_apply, Array.append_empty]

/-- Runs one after the other record the references of the first and then those of the second. -/
theorem Collects.seq (hp : Collects p rs) (hq : Collects q ss) :
    Collects (do p; q) (rs ++ ss) := by
  intro seen
  rw [Run.bind_apply, hp seen]
  exact (hq _).trans (by simp)

/-- The use of one name is recorded if the name is to be kept. -/
theorem collects_collect (keep : String → Bool) (name : String) (role : Role) :
    Collects (collect keep name role) (record keep name role) := by
  intro seen
  rw [collect, record]
  split <;> simp

end

end Reference

open Reference (Collects collector collects_collect)

/-! ## Walks of the collector -/

section
variable (keep : String → Bool)

mutual

/-- The collector records the references of an expression. -/
theorem Expr.collects : ∀ e : Expr, Collects (e.walk (collector keep)) (e.references keep)
  | .simple e => SimpleExpr.collects e
  | .comparison left _ right => (SimpleExpr.collects left).seq (SimpleExpr.collects right)

/-- The collector records the references of a simple expression. -/
theorem SimpleExpr.collects : ∀ e : SimpleExpr,
    Collects (e.walk (collector keep)) (e.references keep)
  | ⟨_, first, rest⟩ => (Term.collects first).seq (SimpleExpr.collects_rest rest)

/-- The collector records the references of the further terms. -/
theorem SimpleExpr.collects_rest : ∀ rest : List (AddOp × Term),
    Collects (SimpleExpr.walkRest (collector keep) rest) (SimpleExpr.referencesRest keep rest)
  | [] => .nil
  | (_, t) :: rest => (Term.collects t).seq (SimpleExpr.collects_rest rest)

/-- The collector records the references of a term. -/
theorem Term.collects : ∀ t : Term, Collects (t.walk (collector keep)) (t.references keep)
  | ⟨first, rest⟩ => (Factor.collects first).seq (Term.collects_rest rest)

/-- The collector records the references of the further factors. -/
theorem Term.collects_rest : ∀ rest : List (MulOp × Factor),
    Collects (Term.walkRest (collector keep) rest) (Term.referencesRest keep rest)
  | [] => .nil
  | (_, f) :: rest => (Factor.collects f).seq (Term.collects_rest rest)

/-- The collector records the references of a factor: the name that it is, or those of its parts. -/
theorem Factor.collects : ∀ f : Factor,
    Collects ((collector keep).factor f (f.walk (collector keep))) (f.references keep)
  | .ident name => by
    have h := (collects_collect keep name .read).seq .nil
    rwa [List.append_nil] at h
  | .number _ | .bool _ | .nil => Collects.nil.seq .nil
  | .designator d => Collects.nil.seq (Designator.collects d)
  | .paren e => Collects.nil.seq (Expr.collects e)
  | .not f => Collects.nil.seq (Factor.collects f)
  | .call name args =>
    Collects.nil.seq ((collects_collect keep name .called).seq (Expr.collects_list args))

/-- The collector records the references of expressions one after the other. -/
theorem Expr.collects_list : ∀ es : List Expr,
    Collects (Expr.walkList (collector keep) es) (Expr.referencesList keep es)
  | [] => .nil
  | e :: es => (Expr.collects e).seq (Expr.collects_list es)

/-- The collector records that a designator is read, and then what its indices use. -/
theorem Designator.collects : ∀ d : Designator,
    Collects ((collector keep).designator false d (d.walk (collector keep)))
      (d.references keep .read)
  | ⟨name, selectors⟩ => (collects_collect keep name .read).seq (Selector.collects_list selectors)

/-- The collector records the references of access steps one after the other. -/
theorem Selector.collects_list : ∀ ss : List Selector,
    Collects (Selector.walkList (collector keep) ss) (Selector.referencesList keep ss)
  | [] => .nil
  | s :: ss => (Selector.collects s).seq (Selector.collects_list ss)

/-- The collector records the references of an access step. -/
theorem Selector.collects : ∀ s : Selector,
    Collects (s.walk (collector keep)) (s.references keep)
  | .field _ | .deref => .nil
  | .index indices => Expr.collects_list indices

end

/-- The collector records the names among some labels. -/
theorem Label.collects_list : ∀ ls : List Label,
    Collects (Label.walkList (collector keep) ls) (Label.referencesList keep ls)
  | [] => .nil
  | .ident name :: ls => (collects_collect keep name .caseLabel).seq (Label.collects_list ls)
  | .number _ :: ls | .bool _ :: ls | .nil :: ls => Collects.nil.seq (Label.collects_list ls)

mutual

/-- The collector records the references of a statement. -/
theorem Stmt.collects : ∀ s : Stmt, Collects (s.walk (collector keep)) (s.references keep)
  -- the target is recorded as assigned to and passed by, so only its selectors are walked
  | .assign ⟨name, selectors⟩ value => by
    rw [Stmt.references, Designator.references, List.append_assoc]
    exact (collects_collect keep name .assigned).seq
      ((Selector.collects_list keep selectors).seq (Expr.collects keep value))
  | .call name args => (collects_collect keep name .called).seq (Expr.collects_list keep args)
  | .ifThen cond body => (Expr.collects keep cond).seq (Stmt.collects body)
  | .ifThenElse cond body other => by
    rw [Stmt.references, List.append_assoc]
    exact (Expr.collects keep cond).seq ((Stmt.collects body).seq (Stmt.collects other))
  | .caseOf subject arms => (Expr.collects keep subject).seq (CaseArm.collects_list arms)
  | .whileDo cond body => (Expr.collects keep cond).seq (Stmt.collects body)
  | .repeatUntil body cond => (Stmt.collects_list body).seq (Expr.collects keep cond)
  | .forDo counter start direction finish body => by
    rw [Stmt.references, List.append_assoc, List.append_assoc]
    exact (collects_collect keep counter .loopVariable).seq
      ((Expr.collects keep start).seq ((Expr.collects keep finish).seq (Stmt.collects body)))
  | .memory _ name => collects_collect keep name .memoryTarget
  | .compound body => Stmt.collects_list body
  | .empty => .nil

/-- The collector records the references of statements one after the other. -/
theorem Stmt.collects_list : ∀ ss : List Stmt,
    Collects (Stmt.walkList (collector keep) ss) (Stmt.referencesList keep ss)
  | [] => .nil
  | s :: ss => (Stmt.collects s).seq (Stmt.collects_list ss)

/-- The collector records the references of an arm of a case statement. -/
theorem CaseArm.collects : ∀ a : CaseArm,
    Collects (a.walk (collector keep)) (a.references keep)
  | ⟨labels, body⟩ => (Label.collects_list keep labels).seq (Stmt.collects body)

/-- The collector records the references of arms one after the other. -/
theorem CaseArm.collects_list : ∀ arms : List CaseArm,
    Collects (CaseArm.walkList (collector keep) arms) (CaseArm.referencesList keep arms)
  | [] => .nil
  | a :: arms => (CaseArm.collects a).seq (CaseArm.collects_list arms)

end

/-! ## Programs -/

/-- The collector never fails, and ends with the references of a program. -/
theorem Program.visit_collector (p : Program) : p.visit (collector keep) #[] =
    .done () (p.referencesWhere keep).toArray := by
  rw [Program.visit, Program.referencesWhere]
  refine (Stmt.collects_list keep p.body #[]).trans ?_
  rw [Array.empty_append]

/-- What is collected are the references. -/
theorem Program.collect_eq (p : Program) : p.collect keep = .ok (p.referencesWhere keep) := by
  rw [Program.collect, Program.visit_collector]

end

end MiniPascal
