import MiniPascal.Tree.Expr

/-!
# Statements

The trees of statements and of whole programs. The empty statement is a statement like any other;
it stands wherever the source has nothing between two separators.
-/

namespace MiniPascal

/-- A constant that selects an arm of a case statement. Names stay names. -/
inductive Label where
  | number (n : Int64)
  | bool (b : Bool)
  | nil
  | ident (name : String)
  deriving DecidableEq

mutual

/-- A statement. -/
inductive Stmt where
  | assign (target : Designator) (value : Expr)
  | call (name : String) (args : List Expr)
  | ifThen (cond : Expr) (body : Stmt)
  | ifThenElse (cond : Expr) (body : Stmt) (other : Stmt)
  | caseOf (subject : Expr) (arms : List CaseArm)
  | whileDo (cond : Expr) (body : Stmt)
  | repeatUntil (body : List Stmt) (cond : Expr)
  | forDo (counter : String) (start : Expr) (direction : Direction) (finish : Expr) (body : Stmt)
  | memory (kind : MemoryKind) (name : String)
  | compound (body : List Stmt)
  | empty

/-- One arm of a case statement: the labels that select it and its body. -/
structure CaseArm where
  labels : List Label
  body : Stmt

end

/-- A program: statements in order. -/
structure Program where
  body : List Stmt

namespace Stmt

/-- The name of a statement's kind. -/
def kind : Stmt → String
  | .assign _ _ => "Assignment"
  | .call _ _ => "ProcCall"
  | .ifThen _ _ => "If"
  | .ifThenElse _ _ _ => "If"
  | .caseOf _ _ => "Case"
  | .whileDo _ _ => "While"
  | .repeatUntil _ _ => "Repeat"
  | .forDo _ _ _ _ _ => "For"
  | .memory _ _ => "Memory"
  | .compound _ => "Compound"
  | .empty => "Empty"

/-- The statement is the empty statement. -/
def isEmpty : Stmt → Bool
  | .empty => true
  | _ => false

/-- The statement ends in an `if` that has no `else` yet, so that an `else` written after it would
belong to that `if`. -/
def endsOpen : Stmt → Bool
  | .ifThen _ _ => true
  | .ifThenElse _ _ other => other.endsOpen
  | .whileDo _ body => body.endsOpen
  | .forDo _ _ _ _ body => body.endsOpen
  | .assign _ _ | .call _ _ | .caseOf _ _ | .repeatUntil _ _ | .memory _ _ | .compound _
  | .empty => false

/-- Only the empty statement is empty. -/
@[simp] theorem isEmpty_iff {s : Stmt} : s.isEmpty = true ↔ s = .empty := by
  cases s <;> simp [isEmpty]

end Stmt

end MiniPascal
