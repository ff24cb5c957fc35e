import MiniPascal.Tree.Stmt

/-!
# Equality of trees

`same` compares two trees node by node, one function for each sort of node and one for each sort of
list below a node. The main statements are the `same_iff` of each sort: two trees are the same
exactly if they are equal. Decidable equality of expressions, statements and programs follows.
-/

namespace MiniPascal

/-! ## Expressions -/

mutual

/-- The two expressions are the same node by node. -/
def Expr.same : Expr → Expr → Bool
  | .simple d, .simple e => d.same e
  | .comparison l o r, .comparison l' o' r' => l.same l' && o == o' && r.same r'
  | _, _ => false

/-- The two simple expressions are the same node by node. -/
def SimpleExpr.same : SimpleExpr → SimpleExpr → Bool
  | ⟨s, t, r⟩, ⟨s', t', r'⟩ => s == s' && t.same t' && SimpleExpr.sameRest r r'

/-- `SimpleExpr.same` over the further terms. -/
def SimpleExpr.sameRest : List (AddOp × Term) → List (AddOp × Term) → Bool
  | [], [] => true
  | (o, t) :: as, (o', t') :: bs => o == o' && t.same t' && SimpleExpr.sameRest as bs
  | _, _ => false

/-- The two terms are the same node by node. -/
def Term.same : Term → Term → Bool
  | ⟨f, r⟩, ⟨f', r'⟩ => f.same f' && Term.sameRest r r'

/-- `Term.same` over the further factors. -/
def Term.sameRest : List (MulOp × Factor) → List (MulOp × Factor) → Bool
  | [], [] => true
  | (o, f) :: as, (o', f') :: bs => o == o' && f.same f' && Term.sameRest as bs
  | _, _ => false

/-- The two factors are the same node by node. -/
def Factor.same : Factor → Factor → Bool
  | .ident x, .ident y => x == y
  | .number m, .number n => m == n
  | .bool a, .bool b => a == b
  | .nil, .nil => true
  | .designator d, .designator e => d.same e
  | .paren d, .paren e => d.same e
  | .not f, .not g => f.same g
  | .call x as, .call y bs => x == y && Expr.sameList as bs
  | _, _ => false

/-- `Expr.same` over lists of expressions. -/
def Expr.sameList : List Expr → List Expr → Bool
  | [], [] => true
  | a :: as, b :: bs => a.same b && Expr.sameList as bs
  | _, _ => false

/-- The two designators are the same node by node. -/
def Designator.same : Designator → Designator → Bool
  | ⟨x, as⟩, ⟨y, bs⟩ => x == y && Selector.sameList as bs

/-- `Selector.same` over lists of access steps. -/
def Selector.sameList : List Selector → List Selector → Bool
  | [], [] => true
  | a :: as, b :: bs => a.same b && Selector.sameList as bs
  | _, _ => false

/-- The two access steps are the same node by node. -/
def Selector.same : Selector → Selector → Bool
  | .field x, .field y => x == y
  | .index as, .index bs => Expr.sameList as bs
  | .deref, .deref => true
  | _, _ => false

end

mutual

/-- The test for expressions decides whether they are equal. -/
theorem Expr.same_iff : ∀ a b : Expr, a.same b = true ↔ a = b
  | .simple d, b => by cases b <;> simp [Expr.same, SimpleExpr.same_iff d]
  | .comparison l o r, b => by
    cases b <;> simp [Expr.same, SimpleExpr.same_iff l, SimpleExpr.same_iff r, and_assoc]

/-- The test for simple expressions decides whether they are equal. -/
theorem SimpleExpr.same_iff : ∀ a b : SimpleExpr, a.same b = true ↔ a = b
  | ⟨s, t, r⟩, ⟨s', t', r'⟩ => by
    simp [SimpleExpr.same, Term.same_iff t, SimpleExpr.sameRest_iff r, and_assoc]

/-- `SimpleExpr.same_iff` for the further terms. -/
theorem SimpleExpr.sameRest_iff :
    ∀ as bs : List (AddOp × Term), SimpleExpr.sameRest as bs = true ↔ as = bs
  | [], bs => by cases bs <;> simp [SimpleExpr.sameRest]
  | (o, t) :: as, bs => by
    cases bs with
    | nil => simp [SimpleExpr.sameRest]
    | cons b bs =>
      obtain ⟨o', t'⟩ := b
      simp [SimpleExpr.sameRest, Term.same_iff t, SimpleExpr.sameRest_iff as]

/-- The test for terms decides whether they are equal. -/
theorem Term.same_iff : ∀ a b : Term, a.same b = true ↔ a = b
  | ⟨f, r⟩, ⟨f', r'⟩ => by simp [Term.same, Factor.same_iff f, Term.sameRest_iff r]

/-- `Term.same_iff` for the further factors. -/
theorem Term.sameRest_iff :
    ∀ as bs : List (MulOp × Factor), Term.sameRest as bs = true ↔ as = bs
  | [], bs => by cases bs <;> simp [Term.sameRest]
  | (o, f) :: as, bs => by
    cases bs with
    | nil => simp [Term.sameRest]
    | cons b bs =>
      obtain ⟨o', f'⟩ := b
      simp [Term.sameRest, Factor.same_iff f, Term.sameRest_iff as]

/-- The test for factors decides whether they are equal. -/
theorem Factor.same_iff : ∀ a b : Factor, a.same b = true ↔ a = b
  | .ident _, b => by cases b <;> simp [Factor.same]
  | .number _, b => by cases b <;> simp [Factor.same]
  | .bool _, b => by cases b <;> simp [Factor.same]
  | .nil, b => by cases b <;> simp [Factor.same]
  | .designator d, b => by cases b <;> simp [Factor.same, Designator.same_iff d]
  | .paren e, b => by cases b <;> simp [Factor.same, Expr.same_iff e]
  | .not f, b => by cases b <;> simp [Factor.same, Factor.same_iff f]
  | .call _ as, b => by cases b <;> simp [Factor.same, Expr.sameList_iff as]

/-- `Expr.same_iff` for lists of expressions. -/
theorem Expr.sameList_iff : ∀ as bs : List Expr, Expr.sameList as bs = true ↔ as = bs
  | [], bs => by cases bs <;> simp [Expr.sameList]
  | a :: as, bs => by
    cases bs <;> simp [Expr.sameList, Expr.same_iff a, Expr.sameList_iff as]

/-- The test for designators decides whether they are equal. -/
theorem Designator.same_iff : ∀ a b : Designator, a.same b = true ↔ a = b
  | ⟨_, as⟩, ⟨_, bs⟩ => by simp [Designator.same, Selector.sameList_iff as]

/-- `Selector.same_iff` for lists of access steps. -/
theorem Selector.sameList_iff : ∀ as bs : List Selector, Selector.sameList as bs = true ↔ as = bs
  | [], bs => by cases bs <;> simp [Selector.sameList]
  | a :: as, bs => by
    cases bs <;> simp [Selector.sameList, Selector.same_iff a, Selector.sameList_iff as]

/-- The test for access steps decides whether they are equal. -/
theorem Selector.same_iff : ∀ a b : Selector, a.same b = true ↔ a = b
  | .field _, b => by cases b <;> simp [Selector.same]
  | .index as, b => by cases b <;> simp [Selector.same, Expr.sameList_iff as]
  | .deref, b => by cases b <;> simp [Selector.same]

end

instance : DecidableEq Expr := fun a b => decidable_of_iff _ (Expr.same_iff a b)
instance : DecidableEq SimpleExpr := fun a b => decidable_of_iff _ (SimpleExpr.same_iff a b)
instance : DecidableEq Term := fun a b => decidable_of_iff _ (Term.same_iff a b)
instance : DecidableEq Factor := fun a b => decidable_of_iff _ (Factor.same_iff a b)
instance : DecidableEq Designator := fun a b => decidable_of_iff _ (Designator.same_iff a b)
instance : DecidableEq Selector := fun a b => decidable_of_iff _ (Selector.same_iff a b)

/-! ## Statements -/

mutual

/-- The two statements are the same node by node. -/
def Stmt.same : Stmt → Stmt → Bool
  | .assign d e, .assign d' e' => d == d' && e == e'
  | .call x as, .call y bs => x == y && as == bs
  | .ifThen e s, .ifThen e' s' => e == e' && s.same s'
  | .ifThenElse e s t, .ifThenElse e' s' t' => e == e' && s.same s' && t.same t'
  | .caseOf e as, .caseOf e' bs => e == e' && CaseArm.sameList as bs
  | .whileDo e s, .whileDo e' s' => e == e' && s.same s'
  | .repeatUntil as e, .repeatUntil bs e' => Stmt.sameList as bs && e == e'
  | .forDo x e d f s, .forDo x' e' d' f' s' =>
    x == x' && e == e' && d == d' && f == f' && s.same s'
  | .memory k x, .memory k' x' => k == k' && x == x'
  | .compound as, .compound bs => Stmt.sameList as bs
  | .empty, .empty => true
  | _, _ => false

/-- `Stmt.same` over lists of statements. -/
def Stmt.sameList : List Stmt → List Stmt → Bool
  | [], [] => true
  | a :: as, b :: bs => a.same b && Stmt.sameList as bs
  | _, _ => false

/-- The two case arms are the same node by node. -/
def CaseArm.same : CaseArm → CaseArm → Bool
  | ⟨ls, s⟩, ⟨ls', s'⟩ => ls == ls' && s.same s'

/-- `CaseArm.same` over lists of case arms. -/
def CaseArm.sameList : List CaseArm → List CaseArm → Bool
  | [], [] => true
  | a :: as, b :: bs => a.same b && CaseArm.sameList as bs
  | _, _ => false

end

mutual

/-- The test for statements decides whether they are equal. -/
theorem Stmt.same_iff : ∀ a b : Stmt, a.same b = true ↔ a = b
  | .assign _ _, b => by cases b <;> simp [Stmt.same]
  | .call _ _, b => by cases b <;> simp [Stmt.same]
  | .ifThen _ s, b => by cases b <;> simp [Stmt.same, Stmt.same_iff s]
  | .ifThenElse _ s t, b => by
    cases b <;> simp [Stmt.same, Stmt.same_iff s, Stmt.same_iff t, and_assoc]
  | .caseOf _ as, b => by cases b <;> simp [Stmt.same, CaseArm.sameList_iff as]
  | .whileDo _ s, b => by cases b <;> simp [Stmt.same, Stmt.same_iff s]
  | .repeatUntil as _, b => by cases b <;> simp [Stmt.same, Stmt.sameList_iff as]
  | .forDo _ _ _ _ s, b => by cases b <;> simp [Stmt.same, Stmt.same_iff s, and_assoc]
  | .memory _ _, b => by cases b <;> simp [Stmt.same]
  | .compound as, b => by cases b <;> simp [Stmt.same, Stmt.sameList_iff as]
  | .empty, b => by cases b <;> simp [Stmt.same]

/-- `Stmt.same_iff` for lists of statements. -/
theorem Stmt.sameList_iff : ∀ as bs : List Stmt, Stmt.sameList as bs = true ↔ as = bs
  | [], bs => by cases bs <;> simp [Stmt.sameList]
  | a :: as, bs => by
    cases bs <;> simp [Stmt.sameList, Stmt.same_iff a, Stmt.sameList_iff as]

/-- The test for arms decides whether they are equal. -/
theorem CaseArm.same_iff : ∀ a b : CaseArm, a.same b = true ↔ a = b
  | ⟨_, s⟩, ⟨_, _⟩ => by simp [CaseArm.same, Stmt.same_iff s]

/-- `CaseArm.same_iff` for lists of arms. -/
theorem CaseArm.sameList_iff : ∀ as bs : List CaseArm, CaseArm.sameList as bs = true ↔ as = bs
  | [], bs => by cases bs <;> simp [CaseArm.sameList]
  | a :: as, bs => by
    cases bs <;> simp [CaseArm.sameList, CaseArm.same_iff a, CaseArm.sameList_iff as]

end

instance : DecidableEq Stmt := fun a b => decidable_of_iff _ (Stmt.same_iff a b)
instance : DecidableEq CaseArm := fun a b => decidable_of_iff _ (CaseArm.same_iff a b)

deriving instance DecidableEq for Program

end MiniPascal
