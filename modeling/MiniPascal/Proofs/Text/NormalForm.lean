import MiniPascal.Proofs.Text.Spelling

/-!
# The normal form of a tree

The normal form of a tree is the tree but for four rules: a designator without access steps becomes
a name, a negative number an expression with a minus sign in parentheses, an empty list of
statements the list of one empty statement, and a branch before an `else` that ends in an open `if`
a compound statement.

The normal form has the text of the tree (`Program.text_normal`). It is a well-formed tree
(`Program.meets_normal`), and a well-formed tree is its own normal form (`Program.normal_eq`).
-/

namespace MiniPascal

/-! ## The normal form -/

/-- A number as a factor: a negative one becomes an expression in parentheses. -/
def Factor.ofNumber (n : Int64) : Factor :=
  if n.toInt < 0 then .paren (.simple ⟨some .minus, ⟨.number (-n), []⟩, []⟩) else .number n

/-- The list of one empty statement in place of an empty list. -/
def Stmt.orEmpty : List Stmt → List Stmt
  | [] => [.empty]
  | s :: ss => s :: ss

/-- A statement that may stand before an `else`. -/
def Stmt.closed (s : Stmt) : Stmt :=
  if s.endsOpen then .compound [s] else s

mutual

/-- The normal form of an expression. -/
def Expr.normal : Expr → Expr
  | .simple e => .simple e.normal
  | .comparison left op right => .comparison left.normal op right.normal

/-- The normal form of a simple expression. -/
def SimpleExpr.normal : SimpleExpr → SimpleExpr
  | ⟨sign, first, rest⟩ => ⟨sign, first.normal, SimpleExpr.normalRest rest⟩

/-- The further terms of a simple expression in normal form. -/
def SimpleExpr.normalRest : List (AddOp × Term) → List (AddOp × Term)
  | [] => []
  | (op, term) :: rest => (op, term.normal) :: SimpleExpr.normalRest rest

/-- The normal form of a term. -/
def Term.normal : Term → Term
  | ⟨first, rest⟩ => ⟨first.normal, Term.normalRest rest⟩

/-- The further factors of a term in normal form. -/
def Term.normalRest : List (MulOp × Factor) → List (MulOp × Factor)
  | [] => []
  | (op, factor) :: rest => (op, factor.normal) :: Term.normalRest rest

/-- The normal form of a factor. -/
def Factor.normal : Factor → Factor
  | .ident x => .ident x
  | .number n => .ofNumber n
  | .bool b => .bool b
  | .nil => .nil
  | .designator d => if d.isPlain then .ident d.name else .designator d.normal
  | .paren e => .paren e.normal
  | .not f => .not f.normal
  | .call x args => .call x (Expr.normalList args)

/-- The normal forms of expressions. -/
def Expr.normalList : List Expr → List Expr
  | [] => []
  | e :: es => e.normal :: Expr.normalList es

/-- The normal form of a designator. -/
def Designator.normal : Designator → Designator
  | ⟨x, selectors⟩ => ⟨x, Selector.normalList selectors⟩

/-- The normal forms of access steps. -/
def Selector.normalList : List Selector → List Selector
  | [] => []
  | s :: ss => s.normal :: Selector.normalList ss

/-- The normal form of an access step. -/
def Selector.normal : Selector → Selector
  | .field x => .field x
  | .index es => .index (Expr.normalList es)
  | .deref => .deref

end

mutual

/-- The normal form of a statement. -/
def Stmt.normal : Stmt → Stmt
  | .assign target value => .assign target.normal value.normal
  | .call x args => .call x (Expr.normalList args)
  | .ifThen cond body => .ifThen cond.normal body.normal
  | .ifThenElse cond body other => .ifThenElse cond.normal body.normal.closed other.normal
  | .caseOf subject arms => .caseOf subject.normal (CaseArm.normalList arms)
  | .whileDo cond body => .whileDo cond.normal body.normal
  | .repeatUntil body cond => .repeatUntil (Stmt.orEmpty (Stmt.normalList body)) cond.normal
  | .forDo counter start direction finish body =>
    .forDo counter start.normal direction finish.normal body.normal
  | .memory kind x => .memory kind x
  | .compound body => .compound (Stmt.orEmpty (Stmt.normalList body))
  | .empty => .empty

/-- The normal forms of statements. -/
def Stmt.normalList : List Stmt → List Stmt
  | [] => []
  | s :: ss => s.normal :: Stmt.normalList ss

/-- The normal form of an arm of a case statement. -/
def CaseArm.normal : CaseArm → CaseArm
  | ⟨labels, body⟩ => ⟨labels, body.normal⟩

/-- The normal forms of arms. -/
def CaseArm.normalList : List CaseArm → List CaseArm
  | [] => []
  | a :: as => a.normal :: CaseArm.normalList as

end

/-- The normal form of a program. -/
def Program.normal (p : Program) : Program :=
  ⟨Stmt.orEmpty (Stmt.normalList p.body)⟩

/-- The statements of a list are normalized one by one. -/
theorem Stmt.normalList_eq_map (ss : List Stmt) : Stmt.normalList ss = ss.map Stmt.normal := by
  induction ss with
  | nil => rfl
  | cons s ss ih => rw [Stmt.normalList, ih, List.map_cons]

namespace Requirement

/-- The requirement that a tree has a text that can be read: valid names, no number that is the
least one, and no empty list of indices or labels. -/
def writable : Requirement where
  name x := Name.isValid x.toList = true
  literal n := n ≠ Int64.minValue
  label n := n ≠ Int64.minValue
  labels ls := ls ≠ []
  indices es := es ≠ []

/-- The requirement that a tree could have been read from a text. -/
def wellFormed : Requirement where
  name x := Name.isValid x.toList = true
  literal n := 0 ≤ n.toInt
  label n := n ≠ Int64.minValue
  labels ls := ls ≠ []
  indices es := es ≠ []
  selectors ss := ss ≠ []
  body ss := ss ≠ []
  branch s := s.endsOpen = false

/-- The tokens of a tree that has a text are those of a text. -/
theorem writable_implies_lexical : writable.Implies lexical where
  name := id
  literal := id
  label := id
  labels _ := trivial
  indices _ := trivial
  selectors := id
  body := id
  branch := id

/-- The names of a tree that has a text can stand in one. -/
theorem writable_implies_named : writable.Implies named where
  name := id
  literal _ := trivial
  label _ := trivial
  labels _ := trivial
  indices _ := trivial
  selectors := id
  body := id
  branch := id

/-- A tree that could have been read has a text: its numbers are not negative, so none is the least
one. -/
theorem wellFormed_implies_writable : wellFormed.Implies writable where
  name := id
  literal h := by
    rintro rfl
    exact absurd (show 0 ≤ Int64.minValue.toInt from h) (by decide)
  label := id
  labels := id
  indices := id
  selectors _ := trivial
  body _ := trivial
  branch _ := trivial

end Requirement

/-! ## Well-formed trees are in normal form -/

mutual

/-- A well-formed expression is its own normal form. -/
theorem Expr.normal_eq : ∀ e : Expr, e.Meets .wellFormed → e.normal = e
  | .simple e, h => by rw [Expr.normal, SimpleExpr.normal_eq e h]
  | .comparison left op right, ⟨hl, hr⟩ => by
    rw [Expr.normal, SimpleExpr.normal_eq left hl, SimpleExpr.normal_eq right hr]

/-- A well-formed simple expression is its own normal form. -/
theorem SimpleExpr.normal_eq : ∀ e : SimpleExpr, e.Meets .wellFormed → e.normal = e
  | ⟨sign, first, rest⟩, ⟨hf, hr⟩ => by
    rw [SimpleExpr.normal, Term.normal_eq first hf, SimpleExpr.normalRest_eq rest hr]

/-- The further terms of a well-formed simple expression are in normal form. -/
theorem SimpleExpr.normalRest_eq : ∀ rest : List (AddOp × Term),
    SimpleExpr.MeetsRest .wellFormed rest → SimpleExpr.normalRest rest = rest
  | [], _ => rfl
  | (op, t) :: rest, ⟨ht, hr⟩ => by
    rw [SimpleExpr.normalRest, Term.normal_eq t ht, SimpleExpr.normalRest_eq rest hr]

/-- A well-formed term is its own normal form. -/
theorem Term.normal_eq : ∀ t : Term, t.Meets .wellFormed → t.normal = t
  | ⟨first, rest⟩, ⟨hf, hr⟩ => by
    rw [Term.normal, Factor.normal_eq first hf, Term.normalRest_eq rest hr]

/-- The further factors of a well-formed term are in normal form. -/
theorem Term.normalRest_eq : ∀ rest : List (MulOp × Factor),
    Term.MeetsRest .wellFormed rest → Term.normalRest rest = rest
  | [], _ => rfl
  | (op, f) :: rest, ⟨hf, hr⟩ => by
    rw [Term.normalRest, Factor.normal_eq f hf, Term.normalRest_eq rest hr]

/-- A well-formed factor is its own normal form: its number is not negative and its designator has
access steps. -/
theorem Factor.normal_eq : ∀ f : Factor, f.Meets .wellFormed → f.normal = f
  | .ident _, _ | .bool _, _ | .nil, _ => rfl
  | .number n, h => if_neg (Int.not_lt.2 h)
  | .designator d, ⟨hs, hd⟩ => by
    have hplain : d.isPlain = false := List.isEmpty_eq_false_iff.2 hs
    rw [Factor.normal, hplain, Designator.normal_eq d hd]
    rfl
  | .paren e, h => by rw [Factor.normal, Expr.normal_eq e h]
  | .not f, h => by rw [Factor.normal, Factor.normal_eq f h]
  | .call x args, ⟨_, h⟩ => by rw [Factor.normal, Expr.normalList_eq args h]

/-- Well-formed expressions are in normal form. -/
theorem Expr.normalList_eq : ∀ es : List Expr, Expr.MeetsList .wellFormed es →
    Expr.normalList es = es
  | [], _ => rfl
  | e :: es, ⟨he, hes⟩ => by rw [Expr.normalList, Expr.normal_eq e he, Expr.normalList_eq es hes]

/-- A well-formed designator is its own normal form. -/
theorem Designator.normal_eq : ∀ d : Designator, d.Meets .wellFormed → d.normal = d
  | ⟨x, selectors⟩, ⟨_, h⟩ => by rw [Designator.normal, Selector.normalList_eq selectors h]

/-- Well-formed access steps are in normal form. -/
theorem Selector.normalList_eq : ∀ ss : List Selector, Selector.MeetsList .wellFormed ss →
    Selector.normalList ss = ss
  | [], _ => rfl
  | s :: ss, ⟨h, hss⟩ => by
    rw [Selector.normalList, Selector.normal_eq s h, Selector.normalList_eq ss hss]

/-- A well-formed access step is its own normal form. -/
theorem Selector.normal_eq : ∀ s : Selector, s.Meets .wellFormed → s.normal = s
  | .field _, _ | .deref, _ => rfl
  | .index es, ⟨_, h⟩ => by rw [Selector.normal, Expr.normalList_eq es h]

end

/-- Nothing takes the place of statements where there are some. -/
theorem Stmt.orEmpty_eq {ss : List Stmt} (h : ss ≠ []) : Stmt.orEmpty ss = ss := by
  cases ss with
  | nil => exact absurd rfl h
  | cons => rfl

mutual

/-- A well-formed statement is its own normal form: its lists are not empty, and no branch before an
`else` ends in an open `if`. -/
theorem Stmt.normal_eq : ∀ s : Stmt, s.Meets .wellFormed → s.normal = s
  | .assign target value, ⟨ht, hv⟩ => by rw [Stmt.normal, target.normal_eq ht, value.normal_eq hv]
  | .call x args, ⟨_, h⟩ => by rw [Stmt.normal, Expr.normalList_eq args h]
  | .ifThen cond body, ⟨hc, hb⟩ => by rw [Stmt.normal, cond.normal_eq hc, Stmt.normal_eq body hb]
  | .ifThenElse cond body other, ⟨hc, hopen, hb, ho⟩ => by
    have hclosed : body.closed = body := if_neg (ne_true_of_eq_false hopen)
    rw [Stmt.normal, cond.normal_eq hc, Stmt.normal_eq body hb, Stmt.normal_eq other ho, hclosed]
  | .caseOf subject arms, ⟨he, ha⟩ => by
    rw [Stmt.normal, subject.normal_eq he, CaseArm.normalList_eq arms ha]
  | .whileDo cond body, ⟨hc, hb⟩ => by rw [Stmt.normal, cond.normal_eq hc, Stmt.normal_eq body hb]
  | .repeatUntil body cond, ⟨hne, hb, hc⟩ => by
    rw [Stmt.normal, cond.normal_eq hc, Stmt.normalList_eq body hb, Stmt.orEmpty_eq hne]
  | .forDo _ start _ finish body, ⟨_, hf, hl, hb⟩ => by
    rw [Stmt.normal, start.normal_eq hf, finish.normal_eq hl, Stmt.normal_eq body hb]
  | .memory _ _, _ | .empty, _ => rfl
  | .compound body, ⟨hne, hb⟩ => by
    rw [Stmt.normal, Stmt.normalList_eq body hb, Stmt.orEmpty_eq hne]

/-- Well-formed statements are in normal form. -/
theorem Stmt.normalList_eq : ∀ ss : List Stmt, Stmt.MeetsList .wellFormed ss →
    Stmt.normalList ss = ss
  | [], _ => rfl
  | s :: ss, ⟨hs, hss⟩ => by rw [Stmt.normalList, Stmt.normal_eq s hs, Stmt.normalList_eq ss hss]

/-- A well-formed arm is its own normal form. -/
theorem CaseArm.normal_eq : ∀ a : CaseArm, a.Meets .wellFormed → a.normal = a
  | ⟨labels, body⟩, ⟨_, _, hb⟩ => by rw [CaseArm.normal, Stmt.normal_eq body hb]

/-- Well-formed arms are in normal form. -/
theorem CaseArm.normalList_eq : ∀ as : List CaseArm, CaseArm.MeetsList .wellFormed as →
    CaseArm.normalList as = as
  | [], _ => rfl
  | a :: as, ⟨ha, has⟩ => by
    rw [CaseArm.normalList, CaseArm.normal_eq a ha, CaseArm.normalList_eq as has]

end

/-- A well-formed program is its own normal form. -/
theorem Program.normal_eq (p : Program) (h : p.Meets .wellFormed) : p.normal = p := by
  rw [Program.normal, Stmt.normalList_eq p.body h.2, Stmt.orEmpty_eq h.1]

/-! ## Normal forms are well-formed -/

/-- A negative number is negated without overflow, unless it is the least one. -/
theorem toInt_neg_of_neg {n : Int64} (h : n.toInt < 0) (hmin : n ≠ Int64.minValue) :
    (-n).toInt = -n.toInt := by
  have hne : n.toInt ≠ -2 ^ 63 := fun h => hmin (Int64.toInt_inj.1 h)
  have hle := n.le_toInt
  rw [Int64.toInt_neg]
  exact Int.bmod_eq_of_le (by omega) (by omega)

mutual

/-- The normal form of an expression that has a text is well formed. -/
theorem Expr.meets_normal : ∀ e : Expr, e.Meets .writable → e.normal.Meets .wellFormed
  | .simple e, h => SimpleExpr.meets_normal e h
  | .comparison left _ right, ⟨hl, hr⟩ =>
    ⟨SimpleExpr.meets_normal left hl, SimpleExpr.meets_normal right hr⟩

/-- The normal form of a simple expression that has a text is well formed. -/
theorem SimpleExpr.meets_normal : ∀ e : SimpleExpr, e.Meets .writable →
    e.normal.Meets .wellFormed
  | ⟨_, first, rest⟩, ⟨hf, hr⟩ => ⟨Term.meets_normal first hf, SimpleExpr.meets_normalRest rest hr⟩

/-- The further terms are well formed in normal form. -/
theorem SimpleExpr.meets_normalRest : ∀ rest : List (AddOp × Term),
    SimpleExpr.MeetsRest .writable rest →
    SimpleExpr.MeetsRest .wellFormed (SimpleExpr.normalRest rest)
  | [], _ => trivial
  | (_, t) :: rest, ⟨ht, hr⟩ => ⟨Term.meets_normal t ht, SimpleExpr.meets_normalRest rest hr⟩

/-- The normal form of a term that has a text is well formed. -/
theorem Term.meets_normal : ∀ t : Term, t.Meets .writable → t.normal.Meets .wellFormed
  | ⟨first, rest⟩, ⟨hf, hr⟩ => ⟨Factor.meets_normal first hf, Term.meets_normalRest rest hr⟩

/-- The further factors are well formed in normal form. -/
theorem Term.meets_normalRest : ∀ rest : List (MulOp × Factor),
    Term.MeetsRest .writable rest → Term.MeetsRest .wellFormed (Term.normalRest rest)
  | [], _ => trivial
  | (_, f) :: rest, ⟨hf, hr⟩ => ⟨Factor.meets_normal f hf, Term.meets_normalRest rest hr⟩

/-- The normal form of a factor that has a text is well formed: a negative number is negated in
parentheses, and a designator without access steps is a name. -/
theorem Factor.meets_normal : ∀ f : Factor, f.Meets .writable → f.normal.Meets .wellFormed
  | .ident _, h => h
  | .number n, h => by
    rw [Factor.normal, Factor.ofNumber]
    split
    · next hn =>
      have hpos : 0 ≤ (-n).toInt := by
        rw [toInt_neg_of_neg hn h]
        omega
      exact ⟨⟨hpos, trivial⟩, trivial⟩
    · next hn => exact Int.not_lt.1 hn
  | .bool _, _ | .nil, _ => trivial
  | .designator ⟨_, []⟩, ⟨_, hx, _⟩ => hx
  | .designator ⟨_, s :: ss⟩, ⟨_, hx, h⟩ =>
    ⟨List.cons_ne_nil _ _, hx, Selector.meets_normalList (s :: ss) h⟩
  | .paren e, h => Expr.meets_normal e h
  | .not f, h => Factor.meets_normal f h
  | .call _ args, ⟨hx, ha⟩ => ⟨hx, Expr.meets_normalList args ha⟩

/-- The normal forms of expressions that have texts are well formed. -/
theorem Expr.meets_normalList : ∀ es : List Expr, Expr.MeetsList .writable es →
    Expr.MeetsList .wellFormed (Expr.normalList es)
  | [], _ => trivial
  | e :: es, ⟨he, hes⟩ => ⟨Expr.meets_normal e he, Expr.meets_normalList es hes⟩

/-- The normal form of a designator that has a text is well formed. -/
theorem Designator.meets_normal : ∀ d : Designator, d.Meets .writable →
    d.normal.Meets .wellFormed
  | ⟨_, selectors⟩, ⟨hx, h⟩ => ⟨hx, Selector.meets_normalList selectors h⟩

/-- The normal forms of access steps that have texts are well formed. -/
theorem Selector.meets_normalList : ∀ ss : List Selector, Selector.MeetsList .writable ss →
    Selector.MeetsList .wellFormed (Selector.normalList ss)
  | [], _ => trivial
  | s :: ss, ⟨h, hss⟩ => ⟨Selector.meets_normal s h, Selector.meets_normalList ss hss⟩

/-- The normal form of an access step that has a text is well formed. -/
theorem Selector.meets_normal : ∀ s : Selector, s.Meets .writable → s.normal.Meets .wellFormed
  | .field _, h => h
  | .index [], ⟨h, _⟩ => absurd rfl h
  | .index (e :: es), ⟨_, h⟩ => ⟨List.cons_ne_nil _ _, Expr.meets_normalList (e :: es) h⟩
  | .deref, _ => trivial

end

section
variable {s : Stmt}

/-- A statement that was closed does not end in an open `if`. -/
@[simp] theorem Stmt.endsOpen_closed (s : Stmt) : s.closed.endsOpen = false := by
  rw [Stmt.closed]
  split
  · rfl
  · next h => exact Bool.not_eq_true _ ▸ h

/-- There is always a statement. -/
theorem Stmt.orEmpty_ne_nil (ss : List Stmt) : Stmt.orEmpty ss ≠ [] := by
  cases ss <;> exact List.cons_ne_nil _ _

/-- The empty statement meets every requirement. -/
theorem Stmt.meetsList_orEmpty {r : Requirement} {ss : List Stmt} (h : Stmt.MeetsList r ss) :
    Stmt.MeetsList r (Stmt.orEmpty ss) := by
  cases ss with
  | nil => exact ⟨trivial, trivial⟩
  | cons => exact h

/-- A compound statement around one well-formed statement is well formed. -/
theorem Stmt.meets_closed (h : s.Meets .wellFormed) : s.closed.Meets .wellFormed := by
  rw [Stmt.closed]
  split
  · exact ⟨List.cons_ne_nil _ _, h, trivial⟩
  · exact h

end

/-- A label that has a text is well formed as it is. -/
theorem Label.meets_wellFormed {l : Label} (h : l.Meets .writable) : l.Meets .wellFormed := by
  cases l <;> exact h

mutual

/-- The normal form of a statement that has a text is well formed. -/
theorem Stmt.meets_normal : ∀ s : Stmt, s.Meets .writable → s.normal.Meets .wellFormed
  | .assign target value, ⟨ht, hv⟩ => ⟨target.meets_normal ht, value.meets_normal hv⟩
  | .call _ args, ⟨hx, ha⟩ => ⟨hx, Expr.meets_normalList args ha⟩
  | .ifThen cond body, ⟨hc, hb⟩ => ⟨cond.meets_normal hc, Stmt.meets_normal body hb⟩
  | .ifThenElse cond body other, ⟨hc, _, hb, ho⟩ =>
    ⟨cond.meets_normal hc, body.normal.endsOpen_closed,
      Stmt.meets_closed (Stmt.meets_normal body hb), Stmt.meets_normal other ho⟩
  | .caseOf subject arms, ⟨he, ha⟩ => ⟨subject.meets_normal he, CaseArm.meets_normalList arms ha⟩
  | .whileDo cond body, ⟨hc, hb⟩ => ⟨cond.meets_normal hc, Stmt.meets_normal body hb⟩
  | .repeatUntil body cond, ⟨_, hb, hc⟩ =>
    ⟨Stmt.orEmpty_ne_nil _, Stmt.meetsList_orEmpty (Stmt.meets_normalList body hb),
      cond.meets_normal hc⟩
  | .forDo _ start _ finish body, ⟨hx, hf, hl, hb⟩ =>
    ⟨hx, start.meets_normal hf, finish.meets_normal hl, Stmt.meets_normal body hb⟩
  | .memory _ _, hx => hx
  | .compound body, ⟨_, hb⟩ =>
    ⟨Stmt.orEmpty_ne_nil _, Stmt.meetsList_orEmpty (Stmt.meets_normalList body hb)⟩
  | .empty, _ => trivial

/-- The normal forms of statements that have texts are well formed. -/
theorem Stmt.meets_normalList : ∀ ss : List Stmt, Stmt.MeetsList .writable ss →
    Stmt.MeetsList .wellFormed (Stmt.normalList ss)
  | [], _ => trivial
  | s :: ss, ⟨hs, hss⟩ => ⟨Stmt.meets_normal s hs, Stmt.meets_normalList ss hss⟩

/-- The normal form of an arm that has a text is well formed. -/
theorem CaseArm.meets_normal : ∀ a : CaseArm, a.Meets .writable → a.normal.Meets .wellFormed
  | ⟨_, body⟩, ⟨hne, hl, hb⟩ =>
    ⟨hne, fun l hm => Label.meets_wellFormed (hl l hm), Stmt.meets_normal body hb⟩

/-- The normal forms of arms that have texts are well formed. -/
theorem CaseArm.meets_normalList : ∀ as : List CaseArm, CaseArm.MeetsList .writable as →
    CaseArm.MeetsList .wellFormed (CaseArm.normalList as)
  | [], _ => trivial
  | a :: as, ⟨ha, has⟩ => ⟨CaseArm.meets_normal a ha, CaseArm.meets_normalList as has⟩

end

/-- The normal form of a writable program is well-formed. -/
theorem Program.meets_normal (p : Program) (h : p.Meets .writable) :
    p.normal.Meets .wellFormed :=
  ⟨Stmt.orEmpty_ne_nil _, Stmt.meetsList_orEmpty (Stmt.meets_normalList p.body h.2)⟩

/-! ## The text of normal forms -/

/-- A negative number is printed in parentheses, as its normal form is. -/
theorem Factor.text_ofNumber {n : Int64} (h : n ≠ Int64.minValue) :
    (Factor.ofNumber n).text = (Factor.number n).text := by
  rw [Factor.ofNumber]
  split
  · next hn =>
    obtain ⟨k, hk⟩ := Int.eq_negSucc_of_lt_zero hn
    have hneg : (-n).toInt = Int.ofNat (k + 1) := by
      rw [toInt_neg_of_neg hn h, hk]
      rfl
    have hinner : (Factor.number (-n)).text = String.ofList (Decimal.digits (k + 1)) := by
      rw [Factor.text, hneg]
      rfl
    have houter : (Factor.number n).text =
        "(" ++ ("-" ++ String.ofList (Decimal.digits (k + 1))) ++ ")" := by
      rw [Factor.text, if_pos hn, hk]
      rfl
    show "(" ++ ("-" ++ ((Factor.number (-n)).text ++ "") ++ "") ++ ")" = _
    rw [hinner, houter, String.append_empty, String.append_empty]
  · rfl

mutual

/-- The normal form of an expression has the text of the expression. -/
theorem Expr.text_normal : ∀ e : Expr, e.Meets .writable → e.normal.text = e.text
  | .simple e, h => by rw [Expr.normal, Expr.text, Expr.text, SimpleExpr.text_normal e h]
  | .comparison left op right, ⟨hl, hr⟩ => by
    rw [Expr.normal, Expr.text, Expr.text, SimpleExpr.text_normal left hl,
      SimpleExpr.text_normal right hr]

/-- The normal form of a simple expression has its text. -/
theorem SimpleExpr.text_normal : ∀ e : SimpleExpr, e.Meets .writable → e.normal.text = e.text
  | ⟨sign, first, rest⟩, ⟨hf, hr⟩ => by
    cases sign <;> simp only [SimpleExpr.normal, SimpleExpr.text, Term.text_normal first hf,
      SimpleExpr.restText_normal rest hr]

/-- The further terms have the same text in normal form. -/
theorem SimpleExpr.restText_normal : ∀ rest : List (AddOp × Term),
    SimpleExpr.MeetsRest .writable rest →
    SimpleExpr.restText (SimpleExpr.normalRest rest) = SimpleExpr.restText rest
  | [], _ => rfl
  | (op, t) :: rest, ⟨ht, hr⟩ => by
    simp only [SimpleExpr.normalRest, SimpleExpr.restText, Term.text_normal t ht,
      SimpleExpr.restText_normal rest hr]

/-- The normal form of a term has the text of the term. -/
theorem Term.text_normal : ∀ t : Term, t.Meets .writable → t.normal.text = t.text
  | ⟨first, rest⟩, ⟨hf, hr⟩ => by
    rw [Term.normal, Term.text, Term.text, Factor.text_normal first hf,
      Term.restText_normal rest hr]

/-- The further factors have the same text in normal form. -/
theorem Term.restText_normal : ∀ rest : List (MulOp × Factor),
    Term.MeetsRest .writable rest → Term.restText (Term.normalRest rest) = Term.restText rest
  | [], _ => rfl
  | (op, f) :: rest, ⟨hf, hr⟩ => by
    simp only [Term.normalRest, Term.restText, Factor.text_normal f hf,
      Term.restText_normal rest hr]

/-- The normal form of a factor has the text of the factor. -/
theorem Factor.text_normal : ∀ f : Factor, f.Meets .writable → f.normal.text = f.text
  | .ident _, _ | .bool _, _ | .nil, _ => rfl
  | .number _, h => Factor.text_ofNumber h
  | .designator ⟨x, []⟩, _ => by
    show x = x ++ ""
    rw [String.append_empty]
  | .designator ⟨x, s :: ss⟩, ⟨_, _, h⟩ => by
    show x ++ Selector.texts (Selector.normalList (s :: ss)) = x ++ Selector.texts (s :: ss)
    rw [Selector.texts_normal (s :: ss) h]
  | .paren e, h => by rw [Factor.normal, Factor.text, Factor.text, Expr.text_normal e h]
  | .not f, h => by rw [Factor.normal, Factor.text, Factor.text, Factor.text_normal f h]
  | .call x args, ⟨_, h⟩ => by
    rw [Factor.normal, Factor.text, Factor.text, Expr.texts_normal args h]

/-- The normal forms of expressions have the texts of the expressions. -/
theorem Expr.texts_normal : ∀ es : List Expr, Expr.MeetsList .writable es →
    Expr.texts (Expr.normalList es) = Expr.texts es
  | [], _ => rfl
  | e :: es, ⟨he, hes⟩ => by
    rw [Expr.normalList, Expr.texts, Expr.texts, Expr.text_normal e he, Expr.texts_normal es hes]

/-- The normal forms of access steps have the text of the access steps. -/
theorem Selector.texts_normal : ∀ ss : List Selector, Selector.MeetsList .writable ss →
    Selector.texts (Selector.normalList ss) = Selector.texts ss
  | [], _ => rfl
  | s :: ss, ⟨h, hss⟩ => by
    rw [Selector.normalList, Selector.texts, Selector.texts, Selector.text_normal s h,
      Selector.texts_normal ss hss]

/-- The normal form of an access step has its text. -/
theorem Selector.text_normal : ∀ s : Selector, s.Meets .writable → s.normal.text = s.text
  | .field _, _ | .deref, _ => rfl
  | .index es, ⟨_, h⟩ => by
    rw [Selector.normal, Selector.text, Selector.text, Expr.texts_normal es h]

end

/-- The normal form of a designator has the text of the designator. -/
theorem Designator.text_normal {d : Designator} (h : d.Meets .writable) :
    d.normal.text = d.text := by
  obtain ⟨x, ss⟩ := d
  rw [Designator.normal, Designator.text, Designator.text, Selector.texts_normal ss h.2]

/-- Only the empty statement has the empty statement as its normal form. -/
theorem Stmt.isEmpty_normal (s : Stmt) : s.normal.isEmpty = s.isEmpty := by
  cases s <;> rfl

/-- The normal form ends in an open `if` where the statement does: only a branch before an `else` is
closed, and it is not at the end. -/
theorem Stmt.endsOpen_normal : ∀ s : Stmt, s.normal.endsOpen = s.endsOpen
  | .ifThenElse _ _ other => Stmt.endsOpen_normal other
  | .whileDo _ body | .forDo _ _ _ _ body => Stmt.endsOpen_normal body
  | .assign _ _ | .call _ _ | .ifThen _ _ | .caseOf _ _ | .repeatUntil _ _ | .memory _ _
  | .compound _ | .empty => rfl

/-- A block has the same text with an empty statement in place of no statement. -/
theorem Stmt.blockText_orEmpty (depth : Nat) (ss : List Stmt) :
    blockText (Stmt.linesAt depth (Stmt.orEmpty ss)) = blockText (Stmt.linesAt depth ss) := by
  cases ss with
  | nil =>
    show ";".intercalate ["\n"] = "\n"
    exact String.intercalate_singleton
  | cons => rfl

/-- Before an `else` a branch has the same text between `begin` and `end` as a compound
statement. -/
theorem Stmt.branchText_closed (depth : Nat) (s : Stmt) :
    below depth s.closed (s.closed.textAt depth) =
      if s.endsOpen then
        newline depth ++ "begin" ++ newline (depth + 1) ++ s.textAt (depth + 1) ++ newline depth
          ++ "end"
      else below depth s (s.textAt depth) := by
  rw [Stmt.closed]
  split
  · next h =>
    have hs : s ≠ .empty := by
      rintro rfl
      cases h
    have hc : (Stmt.compound [s]).isEmpty = false := rfl
    simp [below, hs, hc, Stmt.textAt, blockText, String.append_assoc]
  · rfl

mutual

/-- The normal form of a statement has the text of the statement at any depth. -/
theorem Stmt.textAt_normal : ∀ (s : Stmt) (depth : Nat), s.Meets .writable →
    s.normal.textAt depth = s.textAt depth
  | .assign target value, _, ⟨ht, hv⟩ => by
    rw [Stmt.normal, Stmt.textAt, Stmt.textAt, Designator.text_normal ht, value.text_normal hv]
  | .call x args, _, ⟨_, h⟩ => by
    rw [Stmt.normal, Stmt.textAt, Stmt.textAt, Expr.texts_normal args h]
    cases args <;> rfl
  | .ifThen cond body, depth, ⟨hc, hb⟩ => by
    rw [Stmt.normal, Stmt.textAt, Stmt.textAt, cond.text_normal hc, Stmt.below_normal body _ hb]
  | .ifThenElse cond body other, depth, ⟨hc, _, hb, ho⟩ => by
    rw [Stmt.normal, Stmt.textAt, Stmt.textAt, cond.text_normal hc, Stmt.below_normal other _ ho,
      if_neg (by simp), Stmt.branchText_closed, Stmt.endsOpen_normal, Stmt.below_normal body _ hb,
      Stmt.textAt_normal body _ hb]
  | .caseOf subject arms, depth, ⟨he, ha⟩ => by
    rw [Stmt.normal, Stmt.textAt, Stmt.textAt, subject.text_normal he,
      CaseArm.linesAt_normal arms _ ha]
  | .whileDo cond body, depth, ⟨hc, hb⟩ => by
    rw [Stmt.normal, Stmt.textAt, Stmt.textAt, cond.text_normal hc, Stmt.below_normal body _ hb]
  | .repeatUntil body cond, depth, ⟨_, hb, hc⟩ => by
    rw [Stmt.normal, Stmt.textAt, Stmt.textAt, cond.text_normal hc, Stmt.blockText_orEmpty,
      Stmt.linesAt_normal body _ hb]
  | .forDo _ start _ finish body, depth, ⟨_, hf, hl, hb⟩ => by
    rw [Stmt.normal, Stmt.textAt, Stmt.textAt, start.text_normal hf, finish.text_normal hl,
      Stmt.below_normal body _ hb]
  | .memory _ _, _, _ | .empty, _, _ => rfl
  | .compound body, depth, ⟨_, hb⟩ => by
    rw [Stmt.normal, Stmt.textAt, Stmt.textAt, Stmt.blockText_orEmpty,
      Stmt.linesAt_normal body _ hb]

/-- The normal form below another statement is laid out like the statement. -/
theorem Stmt.below_normal (s : Stmt) (depth : Nat) (h : s.Meets .writable) :
    below depth s.normal (s.normal.textAt depth) = below depth s (s.textAt depth) := by
  rw [below, below, s.isEmpty_normal, Stmt.textAt_normal s depth h]

/-- The normal forms of statements have the lines of the statements. -/
theorem Stmt.linesAt_normal : ∀ (ss : List Stmt) (depth : Nat), Stmt.MeetsList .writable ss →
    Stmt.linesAt depth (Stmt.normalList ss) = Stmt.linesAt depth ss
  | [], _, _ => rfl
  | s :: ss, depth, ⟨h, hss⟩ => by
    rw [Stmt.normalList, Stmt.linesAt, Stmt.linesAt, Stmt.below_normal s depth h,
      Stmt.linesAt_normal ss depth hss]

/-- The normal form of an arm has the text of the arm. -/
theorem CaseArm.lineAt_normal : ∀ (a : CaseArm) (depth : Nat), a.Meets .writable →
    a.normal.lineAt depth = a.lineAt depth
  | ⟨labels, body⟩, depth, ⟨_, _, hb⟩ => by
    rw [CaseArm.normal, CaseArm.lineAt, CaseArm.lineAt, body.isEmpty_normal,
      Stmt.textAt_normal body depth hb]

/-- The normal forms of arms have the texts of the arms. -/
theorem CaseArm.linesAt_normal : ∀ (as : List CaseArm) (depth : Nat),
    CaseArm.MeetsList .writable as →
    CaseArm.linesAt depth (CaseArm.normalList as) = CaseArm.linesAt depth as
  | [], _, _ => rfl
  | a :: as, depth, ⟨h, has⟩ => by
    rw [CaseArm.normalList, CaseArm.linesAt, CaseArm.linesAt, CaseArm.lineAt_normal a depth h,
      CaseArm.linesAt_normal as depth has]

end

/-- The normal form of a writable program has the text of the program. -/
theorem Program.text_normal (p : Program) (h : p.Meets .writable) : p.normal.text = p.text := by
  have texts : (Stmt.normalList p.body).map Stmt.text = p.body.map Stmt.text := by
    rw [Stmt.normalList_eq_map, List.map_map]
    exact List.map_congr_left fun s hs => s.textAt_normal 0 (Stmt.meetsList_iff.1 h.2 s hs)
  rw [Program.text, Program.text, Program.normal, ← texts]
  cases Stmt.normalList p.body with
  | nil => exact String.intercalate_singleton
  | cons => rfl

end MiniPascal
