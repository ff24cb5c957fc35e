import MiniPascal.Tree.Stmt

/-!
# References to names

`Program.references` lists the names that a program uses, each with the part it plays there, in the
order of the source. Field names are no references. A test on names decides which references are
kept; it is applied where a reference is recorded, and a name that is left out hides nothing below
it.
-/

namespace MiniPascal

/-- The part a name plays where it is used. -/
inductive Role where
  | read | assigned | called | loopVariable | memoryTarget | caseLabel
  deriving DecidableEq

/-- How reports call a role. -/
def Role.text : Role → String
  | .read => "read"
  | .assigned => "assigned"
  | .called => "called"
  | .loopVariable => "loop variable"
  | .memoryTarget => "memory target"
  | .caseLabel => "case label"

/-- A use of a name. -/
structure Reference where
  name : String
  role : Role
  deriving DecidableEq

/-- The use of a name as a list, empty if the name is not to be kept. -/
def Reference.record (keep : String → Bool) (name : String) (role : Role) : List Reference :=
  if keep name then [⟨name, role⟩] else []

open Reference (record)

/-! ## Expressions -/

section

variable (keep : String → Bool)

mutual

/-- The names an expression uses. -/
def Expr.references : Expr → List Reference
  | .simple e => e.references
  | .comparison left _ right => left.references ++ right.references

/-- The names a simple expression uses. -/
def SimpleExpr.references : SimpleExpr → List Reference
  | ⟨_, first, rest⟩ => first.references ++ SimpleExpr.referencesRest rest

/-- The names the further terms use. -/
def SimpleExpr.referencesRest : List (AddOp × Term) → List Reference
  | [] => []
  | (_, t) :: rest => t.references ++ SimpleExpr.referencesRest rest

/-- The names a term uses. -/
def Term.references : Term → List Reference
  | ⟨first, rest⟩ => first.references ++ Term.referencesRest rest

/-- The names the further factors use. -/
def Term.referencesRest : List (MulOp × Factor) → List Reference
  | [] => []
  | (_, f) :: rest => f.references ++ Term.referencesRest rest

/-- The names a factor uses. -/
def Factor.references : Factor → List Reference
  | .ident name => record keep name .read
  | .number _ | .bool _ | .nil => []
  | .designator d => d.references .read
  | .paren e => e.references
  | .not f => f.references
  | .call name args => record keep name .called ++ Expr.referencesList args

/-- The names a list of expressions uses. -/
def Expr.referencesList : List Expr → List Reference
  | [] => []
  | e :: es => e.references ++ Expr.referencesList es

/-- The names a designator uses: its variable in the given role, then what its indices read. -/
def Designator.references (role : Role) : Designator → List Reference
  | ⟨name, selectors⟩ => record keep name role ++ Selector.referencesList selectors

/-- The names a list of access steps uses. -/
def Selector.referencesList : List Selector → List Reference
  | [] => []
  | s :: rest => s.references ++ Selector.referencesList rest

/-- The names an access step uses. -/
def Selector.references : Selector → List Reference
  | .field _ | .deref => []
  | .index indices => Expr.referencesList indices

end

/-- The named constants among some labels. -/
def Label.referencesList : List Label → List Reference
  | [] => []
  | .ident name :: rest => record keep name .caseLabel ++ Label.referencesList rest
  | .number _ :: rest | .bool _ :: rest | .nil :: rest => Label.referencesList rest

/-! ## Statements -/

mutual

/-- The names a statement uses. -/
def Stmt.references : Stmt → List Reference
  | .assign target value => target.references keep .assigned ++ value.references keep
  | .call name args => record keep name .called ++ Expr.referencesList keep args
  | .ifThen cond body => cond.references keep ++ body.references
  | .ifThenElse cond body other => cond.references keep ++ body.references ++ other.references
  | .caseOf subject arms => subject.references keep ++ CaseArm.referencesList arms
  | .whileDo cond body => cond.references keep ++ body.references
  | .repeatUntil body cond => Stmt.referencesList body ++ cond.references keep
  | .forDo counter start _ finish body =>
    record keep counter .loopVariable ++ start.references keep ++ finish.references keep
      ++ body.references
  | .memory _ name => record keep name .memoryTarget
  | .compound body => Stmt.referencesList body
  | .empty => []

/-- The names a list of statements uses. -/
def Stmt.referencesList : List Stmt → List Reference
  | [] => []
  | s :: rest => s.references ++ Stmt.referencesList rest

/-- The names an arm of a case statement uses: its labels, then its body. -/
def CaseArm.references : CaseArm → List Reference
  | ⟨labels, body⟩ => Label.referencesList keep labels ++ body.references

/-- The names a list of case arms uses. -/
def CaseArm.referencesList : List CaseArm → List Reference
  | [] => []
  | arm :: rest => arm.references ++ CaseArm.referencesList rest

end

/-- The uses of names in a program for which `keep` holds. -/
def Program.referencesWhere (p : Program) : List Reference :=
  Stmt.referencesList keep p.body

end

/-- The uses of names in a program. -/
def Program.references (p : Program) : List Reference :=
  p.referencesWhere fun _ => true

end MiniPascal
