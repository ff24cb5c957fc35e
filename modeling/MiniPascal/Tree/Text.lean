import MiniPascal.Tree.Stmt

/-!
# The text of trees

`text` writes a tree as source. An expression is written on one line; a statement begins where it
stands, and the lines below it are indented by two spaces for each level. Three rules keep the text
readable as the same tree:

* a negative number is put in parentheses, since a sign may only begin a simple expression;
* a branch before an `else` that ends in an `if` without `else` is put between `begin` and `end`,
  since it would take the `else` for itself;
* an empty list of statements is written like the list of one empty statement.
-/

namespace MiniPascal

/-- The spaces before a line at the given level. -/
def indent (depth : Nat) : String :=
  String.ofList (List.replicate (2 * depth) ' ')

/-- A line break, and the spaces of the next line. -/
def newline (depth : Nat) : String :=
  "\n" ++ indent depth

/-- The text of a truth value. -/
def boolText (b : Bool) : String :=
  if b then "true" else "false"

/-- A list in parentheses or brackets, with commas between its members. -/
def listText (left : String) (texts : List String) (right : String) : String :=
  left ++ ", ".intercalate texts ++ right

/-- The text of a label. -/
def Label.text : Label → String
  | .number n => Decimal.text n.toInt
  | .bool b => boolText b
  | .nil => "nil"
  | .ident name => name

/-! ## Expressions -/

mutual

/-- The text of an expression. -/
def Expr.text : Expr → String
  | .simple e => e.text
  | .comparison left op right => left.text ++ " " ++ op.symbol ++ " " ++ right.text

/-- The text of a simple expression. -/
def SimpleExpr.text : SimpleExpr → String
  | ⟨none, first, rest⟩ => first.text ++ SimpleExpr.restText rest
  | ⟨some sign, first, rest⟩ => sign.symbol ++ first.text ++ SimpleExpr.restText rest

/-- The text of the further terms, each after its operator. -/
def SimpleExpr.restText : List (AddOp × Term) → String
  | [] => ""
  | (op, term) :: rest => " " ++ op.symbol ++ " " ++ term.text ++ SimpleExpr.restText rest

/-- The text of a term. -/
def Term.text : Term → String
  | ⟨first, rest⟩ => first.text ++ Term.restText rest

/-- The text of the further factors, each after its operator. -/
def Term.restText : List (MulOp × Factor) → String
  | [] => ""
  | (op, factor) :: rest => " " ++ op.symbol ++ " " ++ factor.text ++ Term.restText rest

/-- The text of a factor. -/
def Factor.text : Factor → String
  | .ident name => name
  | .number n =>
    if n.toInt < 0 then "(" ++ Decimal.text n.toInt ++ ")" else Decimal.text n.toInt
  | .bool b => boolText b
  | .nil => "nil"
  | .designator d => d.text
  | .paren e => "(" ++ e.text ++ ")"
  | .not f => "not " ++ f.text
  | .call name args => name ++ listText "(" (Expr.texts args) ")"

/-- The text of each expression of a list. -/
def Expr.texts : List Expr → List String
  | [] => []
  | e :: es => e.text :: Expr.texts es

/-- The text of a designator. -/
def Designator.text : Designator → String
  | ⟨name, selectors⟩ => name ++ Selector.texts selectors

/-- The text of access steps, one after the other. -/
def Selector.texts : List Selector → String
  | [] => ""
  | s :: rest => s.text ++ Selector.texts rest

/-- The text of an access step. -/
def Selector.text : Selector → String
  | .field name => "." ++ name
  | .index indices => listText "[" (Expr.texts indices) "]"
  | .deref => "^"

end

/-! ## Statements -/

/-- A statement below another one: on a line of its own, which stays bare for the empty
statement. -/
def below (depth : Nat) (s : Stmt) (text : String) : String :=
  if s.isEmpty then "\n" else newline depth ++ text

/-- Statements between two words, with semicolons between them. -/
def blockText (lines : List String) : String :=
  if lines.isEmpty then "\n" else ";".intercalate lines

mutual

/-- The text of a statement that stands at the given level. -/
def Stmt.textAt (depth : Nat) : Stmt → String
  | .assign target value => target.text ++ " := " ++ value.text
  | .call name args => if args.isEmpty then name else name ++ listText "(" (Expr.texts args) ")"
  | .ifThen cond body =>
    "if " ++ cond.text ++ " then" ++ below (depth + 1) body (body.textAt (depth + 1))
  | .ifThenElse cond body other =>
    "if " ++ cond.text ++ " then"
      ++ (if body.endsOpen then
          newline (depth + 1) ++ "begin" ++ newline (depth + 2) ++ body.textAt (depth + 2)
            ++ newline (depth + 1) ++ "end"
        else below (depth + 1) body (body.textAt (depth + 1)))
      ++ newline depth ++ "else" ++ below (depth + 1) other (other.textAt (depth + 1))
  | .caseOf subject arms =>
    "case " ++ subject.text ++ " of" ++ ";".intercalate (CaseArm.linesAt (depth + 1) arms)
      ++ newline depth ++ "end"
  | .whileDo cond body =>
    "while " ++ cond.text ++ " do" ++ below (depth + 1) body (body.textAt (depth + 1))
  | .repeatUntil body cond =>
    "repeat" ++ blockText (Stmt.linesAt (depth + 1) body) ++ newline depth ++ "until " ++ cond.text
  | .forDo counter start direction finish body =>
    "for " ++ counter ++ " := " ++ start.text ++ " " ++ direction.word ++ " " ++ finish.text
      ++ " do" ++ below (depth + 1) body (body.textAt (depth + 1))
  | .memory kind name => kind.word ++ "(" ++ name ++ ")"
  | .compound body =>
    "begin" ++ blockText (Stmt.linesAt (depth + 1) body) ++ newline depth ++ "end"
  | .empty => ""

/-- The statements of a block, each on a line of its own. -/
def Stmt.linesAt (depth : Nat) : List Stmt → List String
  | [] => []
  | s :: rest => below depth s (s.textAt depth) :: Stmt.linesAt depth rest

/-- The text of an arm of a case statement, on a line of its own. -/
def CaseArm.lineAt (depth : Nat) : CaseArm → String
  | ⟨labels, body⟩ =>
    newline depth ++ ", ".intercalate (labels.map Label.text) ++ ":"
      ++ (if body.isEmpty then "" else " " ++ body.textAt depth)

/-- The arms of a case statement, each on a line of its own. -/
def CaseArm.linesAt (depth : Nat) : List CaseArm → List String
  | [] => []
  | arm :: rest => arm.lineAt depth :: CaseArm.linesAt depth rest

end

/-- The text of a statement at the left margin. -/
def Stmt.text (s : Stmt) : String :=
  s.textAt 0

/-- The text of a program: its statements at the left margin, with semicolons between them. -/
def Program.text (p : Program) : String :=
  ";\n".intercalate (p.body.map Stmt.text)

/-! ## Lists as maps -/

/-- Expressions are printed one by one. -/
@[simp] theorem Expr.texts_eq_map (es : List Expr) : Expr.texts es = es.map Expr.text := by
  induction es with
  | nil => rfl
  | cons e es ih => rw [Expr.texts, ih, List.map_cons]

/-- Statements are printed one by one, each below the line before. -/
@[simp] theorem Stmt.linesAt_eq_map (depth : Nat) (body : List Stmt) :
    Stmt.linesAt depth body = body.map fun s => below depth s (s.textAt depth) := by
  induction body with
  | nil => rfl
  | cons s rest ih => rw [Stmt.linesAt, ih, List.map_cons]

/-- Arms are printed one by one. -/
@[simp] theorem CaseArm.linesAt_eq_map (depth : Nat) (arms : List CaseArm) :
    CaseArm.linesAt depth arms = arms.map (CaseArm.lineAt depth) := by
  induction arms with
  | nil => rfl
  | cons arm rest ih => rw [CaseArm.linesAt, ih, List.map_cons]

end MiniPascal
