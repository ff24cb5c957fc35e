import MiniPascal.Proofs.Text.Reading

/-!
# Printing undoes parsing

A tree that was read from a text is well-formed (`Program.meets_of_parse`): its names and numbers
were tokens of a scan, and the grammar leaves no list empty that may not be. So it is its own normal
form, which is what its text is read as (`parse_text_of_parse`).
-/

namespace MiniPascal

/-! ## Trees derived from lexical tokens -/

section
variable {t : Token} {ts us : List Token}

/-- One more token in front of those of a text. -/
@[simp] theorem Token.allLexical_cons :
    Token.AllLexical (t :: ts) ↔ t.IsLexical ∧ Token.AllLexical ts :=
  List.forall_mem_cons

/-- Tokens of a text after tokens of a text. -/
@[simp] theorem Token.allLexical_append :
    Token.AllLexical (ts ++ us) ↔ Token.AllLexical ts ∧ Token.AllLexical us :=
  List.forall_mem_append

end

/-- A list with separators has an item. -/
theorem Separated.ne_nil {α : Type} {sep : Symbol} {R : α → List Token → Prop} {as : List α}
    {ts : List Token} (h : Separated sep R as ts) : as ≠ [] := by
  cases h <;> exact List.cons_ne_nil _ _

open Token (AllLexical allLexical_cons allLexical_append)

mutual

/-- An expression derived from the tokens of a text is well formed. -/
theorem Expr.Derives.meets {e : Expr} {ts : List Token} :
    e.Derives ts → AllLexical ts → e.Meets .wellFormed
  | .simple h, hl => h.meets hl
  | .comparison h h', hl => by
    obtain ⟨hl, -, hl'⟩ := (allLexical_append.trans (and_congr_right' allLexical_cons)).1 hl
    exact ⟨h.meets hl, h'.meets hl'⟩

/-- A simple expression derived from the tokens of a text is well formed. -/
theorem SimpleExpr.Derives.meets {e : SimpleExpr} {ts : List Token} :
    e.Derives ts → AllLexical ts → e.Meets .wellFormed
  | .unsigned h h', hl => by
    rw [allLexical_append] at hl
    exact ⟨h.meets hl.1, SimpleExpr.meets_rest h' hl.2⟩
  | .signed h h', hl => by
    rw [allLexical_cons, allLexical_append] at hl
    exact ⟨h.meets hl.2.1, SimpleExpr.meets_rest h' hl.2.2⟩

/-- Further terms derived from the tokens of a text are well formed. -/
theorem SimpleExpr.meets_rest {rest : List (AddOp × Term)} {ts : List Token} :
    Operands AddOp.token Term.Derives rest ts → AllLexical ts →
      SimpleExpr.MeetsRest .wellFormed rest
  | .nil, _ => trivial
  | .cons h h', hl => by
    rw [allLexical_cons, allLexical_append] at hl
    exact ⟨h.meets hl.2.1, SimpleExpr.meets_rest h' hl.2.2⟩

/-- A term derived from the tokens of a text is well formed. -/
theorem Term.Derives.meets {t : Term} {ts : List Token} :
    t.Derives ts → AllLexical ts → t.Meets .wellFormed
  | .mk h h', hl => by
    rw [allLexical_append] at hl
    exact ⟨h.meets hl.1, Term.meets_rest h' hl.2⟩

/-- Further factors derived from the tokens of a text are well formed. -/
theorem Term.meets_rest {rest : List (MulOp × Factor)} {ts : List Token} :
    Operands MulOp.token Factor.Derives rest ts → AllLexical ts → Term.MeetsRest .wellFormed rest
  | .nil, _ => trivial
  | .cons h h', hl => by
    rw [allLexical_cons, allLexical_append] at hl
    exact ⟨h.meets hl.2.1, Term.meets_rest h' hl.2.2⟩

/-- A factor derived from the tokens of a text is well formed: its number is not negative, and a
designator has an access step. -/
theorem Factor.Derives.meets {f : Factor} {ts : List Token} :
    f.Derives ts → AllLexical ts → f.Meets .wellFormed
  | .ident _, hl | .number _, hl => (allLexical_cons.1 hl).1
  | .true, _ | .false, _ | .nil, _ => trivial
  | .designator h, hl => by
    rw [allLexical_cons] at hl
    exact ⟨List.cons_ne_nil _ _, hl.1, Selector.meets_list h hl.2⟩
  | .paren h, hl => by
    rw [allLexical_cons, allLexical_append] at hl
    exact h.meets hl.2.1
  | .not h, hl => h.meets (allLexical_cons.1 hl).2
  | .call h, hl => by
    rw [allLexical_cons] at hl
    exact ⟨hl.1, h.meets hl.2⟩

/-- Arguments derived from the tokens of a text are well formed. -/
theorem Expr.DerivesArguments.meets {args : List Expr} {ts : List Token} :
    Expr.DerivesArguments args ts → AllLexical ts → Expr.MeetsList .wellFormed args
  | .none, _ => trivial
  | .some h, hl => by
    rw [allLexical_cons, allLexical_append] at hl
    exact Expr.meets_list h hl.2.1

/-- Expressions derived from the tokens of a text are well formed. -/
theorem Expr.meets_list {es : List Expr} {ts : List Token} :
    Separated .comma Expr.Derives es ts → AllLexical ts → Expr.MeetsList .wellFormed es
  | .one h, hl => ⟨h.meets hl, trivial⟩
  | .more h h', hl => by
    rw [allLexical_append, allLexical_cons] at hl
    exact ⟨h.meets hl.1, Expr.meets_list h' hl.2.2⟩

/-- An access step derived from the tokens of a text is well formed: an array access has an
index. -/
theorem Selector.Derives.meets {s : Selector} {ts : List Token} :
    s.Derives ts → AllLexical ts → s.Meets .wellFormed
  | .field _, hl => by
    rw [allLexical_cons, allLexical_cons] at hl
    exact hl.2.1
  | .index h, hl => by
    rw [allLexical_cons, allLexical_append] at hl
    exact ⟨h.ne_nil, Expr.meets_list h hl.2.1⟩
  | .deref, _ => trivial

/-- Access steps derived from the tokens of a text are well formed. -/
theorem Selector.meets_list {ss : List Selector} {ts : List Token} :
    Repeated Selector.Derives ss ts → AllLexical ts → Selector.MeetsList .wellFormed ss
  | .nil, _ => trivial
  | .cons h h', hl => by
    rw [allLexical_append] at hl
    exact ⟨h.meets hl.1, Selector.meets_list h' hl.2⟩

end

/-- A label derived from the tokens of a text is not the least number. -/
theorem Label.Derives.meets {l : Label} {ts : List Token} (h : l.Derives ts)
    (hl : AllLexical ts) : l.Meets .wellFormed := by
  have ne_min {n : Int64} (hn : 0 ≤ n.toInt) : n ≠ Int64.minValue := by
    rintro rfl
    exact absurd hn (by decide)
  induction h with
  | number n => exact ne_min (allLexical_cons.1 hl).1
  | negative n hmin =>
    show -n ≠ Int64.minValue
    intro h
    rw [← Int64.neg_neg (a := n), h] at hmin
    exact hmin rfl
  | true | false | nil => trivial
  | ident x => exact (allLexical_cons.1 hl).1
  | plus _ ih => exact ih (allLexical_cons.1 hl).2

/-- Labels derived from the tokens of a text are well formed. -/
theorem Label.meets_list {ls : List Label} {ts : List Token}
    (h : Separated .comma Label.Derives ls ts) (hl : AllLexical ts) :
    ∀ l ∈ ls, l.Meets .wellFormed := by
  induction h with
  | one h => exact List.forall_mem_singleton.2 (h.meets hl)
  | more h _ ih =>
    rw [allLexical_append, allLexical_cons] at hl
    exact List.forall_mem_cons.2 ⟨h.meets hl.1, ih hl.2.2⟩

mutual

/-- A statement derived from the tokens of a text, with each `else` at the nearest `if`, is well
formed. -/
theorem Stmt.Derives.meets {s : Stmt} {ts : List Token} :
    s.Derives ts → s.NearestElse → AllLexical ts → s.Meets .wellFormed
  | .assign h h', _, hl => by
    rw [allLexical_cons, allLexical_append, allLexical_cons] at hl
    exact ⟨⟨hl.1, Selector.meets_list h hl.2.1⟩, h'.meets hl.2.2.2⟩
  | .call _, _, hl => ⟨(allLexical_cons.1 hl).1, trivial⟩
  | .callWith h, _, hl => by
    rw [allLexical_cons] at hl
    exact ⟨hl.1, h.meets hl.2⟩
  | .compound h, hn, hl => by
    rw [allLexical_cons, allLexical_append] at hl
    exact ⟨h.ne_nil, Stmt.meets_list h hn hl.2.1⟩
  | .ifThen h h', hn, hl => by
    rw [allLexical_cons, allLexical_append, allLexical_cons] at hl
    exact ⟨h.meets hl.2.1, h'.meets hn hl.2.2.2⟩
  | .ifThenElse h h' h'', ⟨hclosed, hn, hn'⟩, hl => by
    rw [allLexical_cons, allLexical_append, allLexical_cons, allLexical_append,
      allLexical_cons] at hl
    exact ⟨h.meets hl.2.1, hclosed, h'.meets hn hl.2.2.2.1, h''.meets hn' hl.2.2.2.2.2⟩
  | .caseOfNone h, _, hl => by
    rw [allLexical_cons, allLexical_append] at hl
    exact ⟨h.meets hl.2.1, trivial⟩
  | .caseOf h h' _, hn, hl => by
    rw [allLexical_cons, allLexical_append, allLexical_cons, allLexical_append] at hl
    exact ⟨h.meets hl.2.1, CaseArm.meets_list h' hn hl.2.2.2.1⟩
  | .whileDo h h', hn, hl => by
    rw [allLexical_cons, allLexical_append, allLexical_cons] at hl
    exact ⟨h.meets hl.2.1, h'.meets hn hl.2.2.2⟩
  | .repeatUntil h h', hn, hl => by
    rw [allLexical_cons, allLexical_append, allLexical_cons] at hl
    exact ⟨h.ne_nil, Stmt.meets_list h hn hl.2.1, h'.meets hl.2.2.2⟩
  | .forDo h h' h'', hn, hl => by
    rw [allLexical_cons, allLexical_cons, allLexical_cons, allLexical_append, allLexical_cons,
      allLexical_append, allLexical_cons] at hl
    obtain ⟨-, hx, -, hf, -, ht, -, hb⟩ := hl
    exact ⟨hx, h.meets hf, h'.meets ht, h''.meets hn hb⟩
  | .memory _ _, _, hl => by
    rw [allLexical_cons, allLexical_cons, allLexical_cons] at hl
    exact hl.2.2.1
  | .empty, _, _ => trivial

/-- Statements derived from the tokens of a text are well formed. -/
theorem Stmt.meets_list {body : List Stmt} {ts : List Token} :
    Separated .semicolon Stmt.Derives body ts → Stmt.NearestElseList body → AllLexical ts →
      Stmt.MeetsList .wellFormed body
  | .one h, ⟨hn, _⟩, hl => ⟨h.meets hn hl, trivial⟩
  | .more h h', ⟨hn, hn'⟩, hl => by
    rw [allLexical_append, allLexical_cons] at hl
    exact ⟨h.meets hn hl.1, Stmt.meets_list h' hn' hl.2.2⟩

/-- An arm derived from the tokens of a text is well formed. -/
theorem CaseArm.Derives.meets {a : CaseArm} {ts : List Token} :
    a.Derives ts → a.NearestElse → AllLexical ts → a.Meets .wellFormed
  | .mk h h', hn, hl => by
    rw [allLexical_append, allLexical_cons] at hl
    exact ⟨h.ne_nil, Label.meets_list h hl.1, h'.meets hn hl.2.2⟩

/-- Arms derived from the tokens of a text are well formed. -/
theorem CaseArm.meets_list {arms : List CaseArm} {ts : List Token} :
    Separated .semicolon CaseArm.Derives arms ts → CaseArm.NearestElseList arms →
      AllLexical ts → CaseArm.MeetsList .wellFormed arms
  | .one h, ⟨hn, _⟩, hl => ⟨h.meets hn hl, trivial⟩
  | .more h h', ⟨hn, hn'⟩, hl => by
    rw [allLexical_append, allLexical_cons] at hl
    exact ⟨h.meets hn hl.1, CaseArm.meets_list h' hn' hl.2.2⟩

end

/-- A program derived from the tokens of a text is well formed. -/
theorem Program.Derives.meets {p : Program} {ts : List Token} (h : p.Derives ts)
    (hn : p.NearestElse) (hl : AllLexical ts) : p.Meets .wellFormed := by
  cases h with
  | plain h => exact ⟨h.ne_nil, Stmt.meets_list h hn hl⟩
  | dotted h => exact ⟨h.ne_nil, Stmt.meets_list h hn (Token.allLexical_append.1 hl).1⟩

/-! ## Trees read from a text -/

section
variable {source : String}

/-- A program that was read is well-formed. -/
theorem Program.meets_of_parse {p : Program} (h : Program.parse source = .ok p) :
    p.Meets .wellFormed := by
  obtain ⟨_, _, ts, -, -, hl, hd, hn⟩ := Program.parse_eq_ok_iff.1 h
  exact hd.meets hn hl

/-- An expression that was read is well-formed. -/
theorem Expr.meets_of_parse {e : Expr} (h : Expr.parse source = .ok e) :
    e.Meets .wellFormed := by
  obtain ⟨_, _, ts, -, -, hl, hd⟩ := Expr.parse_eq_ok_iff.1 h
  exact hd.meets hl

end

/-- The text of a program or an expression that was read is read as the same tree. -/
theorem parse_text_of_parse :
    (∀ source p, Program.parse source = .ok p → Program.parse p.text = .ok p) ∧
    (∀ source e, Expr.parse source = .ok e → Expr.parse e.text = .ok e) := by
  constructor
  · intro source p h
    have hp := Program.meets_of_parse h
    have hw := p.meets_mono Requirement.wellFormed_implies_writable hp
    rw [p.parse_text_eq_normal hw, p.normal_eq hp]
  · intro source e h
    have he := Expr.meets_of_parse h
    have hw := e.meets_mono Requirement.wellFormed_implies_writable he
    rw [e.parse_text_eq_normal hw, e.normal_eq he]

/-- Nested `if` statements, an empty arm and signed labels; and a sum with a sign. -/
theorem parse_text_of_parse_case :
    let name (x : String) : Expr := (Factor.ident x).toExpr
    let p : Program :=
      ⟨[.ifThen (name "a") (.ifThenElse (name "b") (.call "c" []) .empty),
        .caseOf (name "n") [⟨[.number (-4), .ident "x"], .empty⟩, ⟨[.nil], .call "q" [name "a"]⟩]]⟩
    let e : Expr :=
      .simple ⟨some .minus, (Factor.number 1).toTerm,
        [(.plus, (Factor.designator ⟨"a", [.deref, .field "b"]⟩).toTerm)]⟩
    Program.parse "if a then if b then c else; case n of -4, +x: ; nil: q(a); end." = .ok p ∧
      Program.parse p.text = .ok p ∧ Expr.parse "-1+a^.b" = .ok e ∧ Expr.parse e.text = .ok e := by
  intro name p e
  have hp : Program.parse "if a then if b then c else; case n of -4, +x: ; nil: q(a); end." =
      .ok p := by
    decide +kernel
  have he : Expr.parse "-1+a^.b" = .ok e := by decide +kernel
  exact ⟨hp, parse_text_of_parse.1 _ p hp, he, parse_text_of_parse.2 _ e he⟩

end MiniPascal
