import MiniPascal.Parser.Cursor
import MiniPascal.Tree.Stmt

/-!
# Renaming

`rename f` changes every name in a token, in a list of lexemes or in a tree by `f`, and nothing
else. Names are those of variables, procedures and functions, fields and labels. Two trees that
become equal when their names are put in lower case differ at most in the letter case of names.
-/

namespace MiniPascal

/-! ## Tokens -/

/-- The token with its name changed, if it has one. -/
def Token.rename (f : String → String) : Token → Token
  | .ident x => .ident (f x)
  | t => t

/-- The lexeme with the name of its token changed. -/
def Lexeme.rename (f : String → String) (l : Lexeme) : Lexeme :=
  ⟨l.token.rename f, l.line⟩

/-- The cursor with all names before it changed. -/
def Cursor.rename (f : String → String) (c : Cursor) : Cursor :=
  ⟨c.rest.map (Lexeme.rename f), c.lastLine, c.remaining, by
    rw [c.remaining_eq, List.length_map]⟩

/-! ## Expressions -/

mutual

/-- The expression with its names changed. -/
def Expr.rename (f : String → String) : Expr → Expr
  | .simple e => .simple (e.rename f)
  | .comparison left op right => .comparison (left.rename f) op (right.rename f)

/-- The simple expression with its names changed. -/
def SimpleExpr.rename (f : String → String) : SimpleExpr → SimpleExpr
  | ⟨sign, first, rest⟩ => ⟨sign, first.rename f, SimpleExpr.renameRest f rest⟩

/-- `Term.rename` for the further terms of a simple expression. -/
def SimpleExpr.renameRest (f : String → String) : List (AddOp × Term) → List (AddOp × Term)
  | [] => []
  | (op, term) :: rest => (op, term.rename f) :: SimpleExpr.renameRest f rest

/-- The term with its names changed. -/
def Term.rename (f : String → String) : Term → Term
  | ⟨first, rest⟩ => ⟨first.rename f, Term.renameRest f rest⟩

/-- `Factor.rename` for the further factors of a term. -/
def Term.renameRest (f : String → String) : List (MulOp × Factor) → List (MulOp × Factor)
  | [] => []
  | (op, factor) :: rest => (op, factor.rename f) :: Term.renameRest f rest

/-- The factor with its names changed. -/
def Factor.rename (f : String → String) : Factor → Factor
  | .ident x => .ident (f x)
  | .number n => .number n
  | .bool b => .bool b
  | .nil => .nil
  | .designator d => .designator (d.rename f)
  | .paren e => .paren (e.rename f)
  | .not inner => .not (inner.rename f)
  | .call x args => .call (f x) (Expr.renameList f args)

/-- `Expr.rename` for each expression of a list. -/
def Expr.renameList (f : String → String) : List Expr → List Expr
  | [] => []
  | e :: es => e.rename f :: Expr.renameList f es

/-- The designator with its names changed. -/
def Designator.rename (f : String → String) : Designator → Designator
  | ⟨x, selectors⟩ => ⟨f x, Selector.renameList f selectors⟩

/-- `Selector.rename` for each access step of a list. -/
def Selector.renameList (f : String → String) : List Selector → List Selector
  | [] => []
  | s :: ss => s.rename f :: Selector.renameList f ss

/-- The access step with its names changed. -/
def Selector.rename (f : String → String) : Selector → Selector
  | .field x => .field (f x)
  | .index es => .index (Expr.renameList f es)
  | .deref => .deref

end

/-! ## Statements -/

/-- The label with its name changed, if it is one. -/
def Label.rename (f : String → String) : Label → Label
  | .ident x => .ident (f x)
  | l => l

mutual

/-- The statement with its names changed. -/
def Stmt.rename (f : String → String) : Stmt → Stmt
  | .assign target value => .assign (target.rename f) (value.rename f)
  | .call x args => .call (f x) (Expr.renameList f args)
  | .ifThen cond body => .ifThen (cond.rename f) (body.rename f)
  | .ifThenElse cond body other => .ifThenElse (cond.rename f) (body.rename f) (other.rename f)
  | .caseOf subject arms => .caseOf (subject.rename f) (CaseArm.renameList f arms)
  | .whileDo cond body => .whileDo (cond.rename f) (body.rename f)
  | .repeatUntil body cond => .repeatUntil (Stmt.renameList f body) (cond.rename f)
  | .forDo counter start direction finish body =>
    .forDo (f counter) (start.rename f) direction (finish.rename f) (body.rename f)
  | .memory kind x => .memory kind (f x)
  | .compound body => .compound (Stmt.renameList f body)
  | .empty => .empty

/-- `Stmt.rename` for each statement of a list. -/
def Stmt.renameList (f : String → String) : List Stmt → List Stmt
  | [] => []
  | s :: ss => s.rename f :: Stmt.renameList f ss

/-- The arm of a case statement with its names changed. -/
def CaseArm.rename (f : String → String) : CaseArm → CaseArm
  | ⟨labels, body⟩ => ⟨labels.map (Label.rename f), body.rename f⟩

/-- `CaseArm.rename` for each arm of a list. -/
def CaseArm.renameList (f : String → String) : List CaseArm → List CaseArm
  | [] => []
  | a :: as => a.rename f :: CaseArm.renameList f as

end

/-- The program with its names changed. -/
def Program.rename (f : String → String) (p : Program) : Program :=
  ⟨Stmt.renameList f p.body⟩

/-! ## Lists as maps -/

section
variable (f : String → String)

/-- The further terms are renamed one by one, after their operators. -/
theorem SimpleExpr.renameRest_eq_map (rest : List (AddOp × Term)) :
    SimpleExpr.renameRest f rest = rest.map (Prod.map id (Term.rename f)) := by
  induction rest with
  | nil => rfl
  | cons a rest ih => rw [SimpleExpr.renameRest, ih, List.map_cons, Prod.map, id]

/-- The further factors are renamed one by one, after their operators. -/
theorem Term.renameRest_eq_map (rest : List (MulOp × Factor)) :
    Term.renameRest f rest = rest.map (Prod.map id (Factor.rename f)) := by
  induction rest with
  | nil => rfl
  | cons a rest ih => rw [Term.renameRest, ih, List.map_cons, Prod.map, id]

/-- Expressions are renamed one by one. -/
theorem Expr.renameList_eq_map (es : List Expr) :
    Expr.renameList f es = es.map (Expr.rename f) := by
  induction es with
  | nil => rfl
  | cons e es ih => rw [Expr.renameList, ih, List.map_cons]

/-- Access steps are renamed one by one. -/
theorem Selector.renameList_eq_map (ss : List Selector) :
    Selector.renameList f ss = ss.map (Selector.rename f) := by
  induction ss with
  | nil => rfl
  | cons s ss ih => rw [Selector.renameList, ih, List.map_cons]

/-- Statements are renamed one by one. -/
theorem Stmt.renameList_eq_map (ss : List Stmt) :
    Stmt.renameList f ss = ss.map (Stmt.rename f) := by
  induction ss with
  | nil => rfl
  | cons s ss ih => rw [Stmt.renameList, ih, List.map_cons]

/-- Arms are renamed one by one. -/
theorem CaseArm.renameList_eq_map (as : List CaseArm) :
    CaseArm.renameList f as = as.map (CaseArm.rename f) := by
  induction as with
  | nil => rfl
  | cons a as ih => rw [CaseArm.renameList, ih, List.map_cons]

end

/-! ## Tokens that are not renamed -/

namespace Token

variable {f : String → String} {t : Token}

/-- Renaming neither makes nor changes a keyword. -/
@[simp] theorem rename_eq_keyword_iff {k : Keyword} : t.rename f = .keyword k ↔ t = .keyword k := by
  cases t <;> simp [rename]

/-- Renaming neither makes nor changes a symbol. -/
@[simp] theorem rename_eq_symbol_iff {s : Symbol} : t.rename f = .symbol s ↔ t = .symbol s := by
  cases t <;> simp [rename]

/-- Renaming neither makes nor changes the end of input. -/
@[simp] theorem rename_eq_eof_iff : t.rename f = .eof ↔ t = .eof := by
  cases t <;> simp [rename]

end Token

namespace Cursor

variable (f : String → String) (c : Cursor)

/-- As many lexemes are left under other names. -/
@[simp] theorem remaining_rename : (c.rename f).remaining = c.remaining := rfl

/-- The token at a cursor is renamed with it. -/
@[simp] theorem token_rename : (c.rename f).token = c.token.rename f := by
  obtain ⟨ls, n, rfl⟩ := c.exists_eq_before
  cases ls <;> rfl

/-- Renaming keeps the line of a cursor. -/
@[simp] theorem line_rename : (c.rename f).line = c.line := by
  obtain ⟨ls, n, rfl⟩ := c.exists_eq_before
  cases ls <;> rfl

/-- Renaming and going on by a lexeme may be exchanged. -/
@[simp] theorem advance_rename : (c.rename f).advance = c.advance.rename f := by
  obtain ⟨ls, n, rfl⟩ := c.exists_eq_before
  cases ls <;> rfl

/-- The lexemes of a cursor are renamed one by one. -/
theorem rename_before (ls : List Lexeme) (n : Nat) :
    (before ls n).rename f = before (ls.map (Lexeme.rename f)) n := by
  simp [before, rename]

/-- A cursor before renamed lexemes is the renamed cursor. -/
theorem rename_ofLexemes (ls : List Lexeme) :
    (ofLexemes ls).rename f = ofLexemes (ls.map (Lexeme.rename f)) := by
  rw [ofLexemes, rename_before, ofLexemes, List.getLast?_map, Option.map_map]
  rfl

end Cursor

end MiniPascal
