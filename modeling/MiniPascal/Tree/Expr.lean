import MiniPascal.Error
import MiniPascal.Tree.Operator

/-!
# Expressions

The trees of expressions, in the four layers of the language: expression, simple expression, term
and factor. Operators of one layer apply from left to right, so a layer keeps its first operand and
the list of operators with the operand after each. Designators name storage: a variable and the
access steps applied to it.
-/

namespace MiniPascal

mutual

/-- A simple expression, or the comparison of two. Comparisons do not chain. -/
inductive Expr where
  | simple (e : SimpleExpr)
  | comparison (left : SimpleExpr) (op : RelOp) (right : SimpleExpr)

/-- A sum of terms; the sign belongs to the first term alone. -/
structure SimpleExpr where
  sign : Option Sign
  first : Term
  rest : List (AddOp × Term)

/-- A product of factors. -/
structure Term where
  first : Factor
  rest : List (MulOp × Factor)

/-- The smallest operand. -/
inductive Factor where
  | ident (name : String)
  | number (n : Int64)
  | bool (b : Bool)
  | nil
  | designator (d : Designator)
  | paren (e : Expr)
  | not (f : Factor)
  | call (name : String) (args : List Expr)

/-- A storage location: a variable and the access steps applied to it. -/
structure Designator where
  name : String
  selectors : List Selector

/-- One access step: a field, an element given by an index for each dimension, or what a pointer
points to. -/
inductive Selector where
  | field (name : String)
  | index (indices : List Expr)
  | deref

end

/-! ## Lone operands -/

/-- The factor as a term without operators. -/
def Factor.toTerm (f : Factor) : Term := ⟨f, []⟩

/-- The term as a simple expression without sign and operators. -/
def Term.toSimple (t : Term) : SimpleExpr := ⟨none, t, []⟩

/-- The factor as an expression without operators. -/
def Factor.toExpr (f : Factor) : Expr := .simple f.toTerm.toSimple

namespace Term

/-- The factors of a term from left to right. -/
def operands (t : Term) : List Factor :=
  t.first :: t.rest.map Prod.snd

/-- The only factor of a term without operators. -/
def asFactor? (t : Term) : Option Factor :=
  if t.rest.isEmpty then some t.first else none

/-- A factor is the only one of the term made from it. -/
@[simp] theorem asFactor?_toTerm (f : Factor) : f.toTerm.asFactor? = some f := rfl

end Term

namespace SimpleExpr

/-- The terms of a simple expression from left to right. -/
def operands (e : SimpleExpr) : List Term :=
  e.first :: e.rest.map Prod.snd

/-- The only term of a simple expression without sign and operators. -/
def asTerm? (e : SimpleExpr) : Option Term :=
  if e.sign.isNone && e.rest.isEmpty then some e.first else none

/-- A term is the only one of the simple expression made from it. -/
@[simp] theorem asTerm?_toSimple (t : Term) : t.toSimple.asTerm? = some t := rfl

end SimpleExpr

namespace Expr

/-- The expression compares two operands. -/
def isComparison : Expr → Bool
  | .simple _ => false
  | .comparison _ _ _ => true

/-- The only factor of an expression without operators on any layer. -/
def asFactor? : Expr → Option Factor
  | .simple e => e.asTerm?.bind Term.asFactor?
  | .comparison _ _ _ => none

/-- A factor is all of the expression made from it. -/
@[simp] theorem asFactor?_toExpr (f : Factor) : f.toExpr.asFactor? = some f := rfl

end Expr

/-! ## Kinds -/

/-- The name of a factor's kind. -/
def Factor.kind : Factor → String
  | .ident _ => "Identifier"
  | .number _ => "Number"
  | .bool _ => "Bool"
  | .nil => "Nil"
  | .designator _ => "Designator"
  | .paren _ => "Expr"
  | .not _ => "Negation"
  | .call _ _ => "FuncCall"

namespace Selector

/-- The name of an access step's kind. -/
def kind : Selector → String
  | .field _ => "FieldAccess"
  | .index _ => "ArrayAccess"
  | .deref => "PointerAccess"

/-- An array access; there has to be an index. -/
def ofIndices : List Expr → Except Error Selector
  | [] => .error .emptyIndex
  | e :: es => .ok (.index (e :: es))

end Selector

/-- The designator names a variable without any access step. -/
def Designator.isPlain (d : Designator) : Bool :=
  d.selectors.isEmpty

end MiniPascal
