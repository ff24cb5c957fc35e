import MiniPascal.Proofs.Parser.Exactness
import MiniPascal.Proofs.Text.NormalForm
import MiniPascal.Source

/-!
# Reading the text of a tree

What a source text is read as depends on the tokens of its scan alone: a tree is read if and only if
the grammar derives these tokens with it (`Program.parse_eq_ok_iff`). The tokens of a tree are
derived with its normal form (`Program.derives_normal`), so this is what the text of the tree is
read as (`Program.parse_text`).
-/

namespace MiniPascal

/-! ## What a source text is read as -/

/-- All tokens are such that a text may hold them. -/
def Token.AllLexical (ts : List Token) : Prop :=
  ∀ t ∈ ts, t.IsLexical

/-- No end of input is among the tokens of a text. -/
theorem Token.AllLexical.eof_notMem {ts : List Token} (h : AllLexical ts) : .eof ∉ ts :=
  fun hmem => h _ hmem

open Token (AllLexical)

section
variable {source : String}

/-- A parser is given the tokens of the scan, with an end of input after them. -/
theorem scan_bind_eq_ok_iff {α : Type} {f : List Lexeme → Except Error α} {a : α} :
    ((scan 1 source).toExcept >>= f) = .ok a ↔
      ∃ ls n ts, scan 1 source = .done ls n ∧ ls.map Lexeme.token = ts ++ [.eof] ∧
        AllLexical ts ∧ f ls = .ok a := by
  constructor
  · intro h
    cases hs : scan 1 source with
    | stop e n =>
      rw [hs] at h
      cases h
    | done ls n =>
      rw [hs] at h
      obtain ⟨ts, hts, hl⟩ := scanFrom_isLexical hs
      exact ⟨ls, n, ts, rfl, hts, hl, h⟩
  · rintro ⟨ls, n, ts, hs, -, -, h⟩
    rw [hs]
    exact h

/-- A program is read if the grammar derives the tokens of the scan with it. -/
theorem Program.parse_eq_ok_iff {p : Program} : Program.parse source = .ok p ↔
    ∃ ls n ts, scan 1 source = .done ls n ∧ ls.map Lexeme.token = ts ++ [.eof] ∧
      AllLexical ts ∧ p.Derives ts ∧ p.NearestElse := by
  rw [Program.parse, scan_bind_eq_ok_iff]
  constructor
  · rintro ⟨ls, n, ts, hs, hts, hl, h⟩
    exact ⟨ls, n, ts, hs, hts, hl, (Parser.program_eq_ok_iff hts hl.eof_notMem).1 h⟩
  · rintro ⟨ls, n, ts, hs, hts, hl, h⟩
    exact ⟨ls, n, ts, hs, hts, hl, (Parser.program_eq_ok_iff hts hl.eof_notMem).2 h⟩

/-- An expression is read if the grammar derives the tokens of the scan with it. -/
theorem Expr.parse_eq_ok_iff {e : Expr} : Expr.parse source = .ok e ↔
    ∃ ls n ts, scan 1 source = .done ls n ∧ ls.map Lexeme.token = ts ++ [.eof] ∧
      AllLexical ts ∧ e.Derives ts := by
  rw [Expr.parse, scan_bind_eq_ok_iff]
  constructor
  · rintro ⟨ls, n, ts, hs, hts, hl, h⟩
    exact ⟨ls, n, ts, hs, hts, hl, (Parser.wholeExpression_eq_ok_iff hts hl.eof_notMem).1 h⟩
  · rintro ⟨ls, n, ts, hs, hts, hl, h⟩
    exact ⟨ls, n, ts, hs, hts, hl, (Parser.wholeExpression_eq_ok_iff hts hl.eof_notMem).2 h⟩

/-- The tokens before the only end of input are those that a scan yields. -/
theorem allLexical_of_scan {n : Nat} {ls : List Lexeme} {ts : List Token}
    (h : scan 1 source = .done ls n) (hts : ls.map Lexeme.token = ts ++ [.eof]) :
    AllLexical ts := by
  obtain ⟨us, hus, hl⟩ := scanFrom_isLexical h
  obtain ⟨rfl, -⟩ := List.append_inj' (hts.symm.trans hus) rfl
  exact hl

end

/-! ## Deriving normal forms -/

section
variable {α : Type} {R : α → List Token → Prop}

/-- Derived items with the symbol between their tokens are a list with separators. -/
theorem Separated.of_forall₂ {sep : Symbol} {as : List α} {tss : List (List Token)}
    (h : List.Forall₂ R as tss) (hne : as ≠ []) :
    Separated sep R as ([.symbol sep].intercalate tss) := by
  induction h with
  | nil => exact absurd rfl hne
  | cons ha hs ih =>
    cases hs with
    | nil =>
      rw [List.intercalate_singleton]
      exact .one ha
    | cons hb hs =>
      rw [List.intercalate_cons_cons, List.append_assoc]
      exact .more ha (ih (List.cons_ne_nil _ _))

end

/-- A truth value is derived from its word. -/
theorem Factor.derives_bool (b : Bool) : (Factor.bool b).Derives [Token.ofBool b] := by
  cases b with
  | true => exact .true
  | false => exact .false

/-- A number is derived from its tokens, a negative one as an expression in parentheses. -/
theorem Factor.derives_ofNumber (n : Int64) :
    (Factor.ofNumber n).Derives (Factor.number n).tokens := by
  rw [Factor.ofNumber, Factor.tokens]
  split
  · next hn =>
    rw [Token.ofNumber, if_pos hn]
    have hterm : Term.Derives ⟨.number (-n), []⟩ [.number (-n)] := .mk (.number _) .nil
    have hsimple : SimpleExpr.Derives ⟨some .minus, ⟨.number (-n), []⟩, []⟩
        [.symbol .minus, .number (-n)] := .signed hterm .nil
    exact .paren (.simple hsimple)
  · exact .number n

/-- Derived expressions are arguments between parentheses. -/
theorem Expr.derivesArguments_ofList {args : List Expr} {tss : List (List Token)}
    (h : List.Forall₂ Expr.Derives args tss) :
    Expr.DerivesArguments args (Token.ofList .leftParen tss .rightParen) := by
  cases h with
  | nil => exact .none
  | cons h hs => exact .some (.of_forall₂ (.cons h hs) (List.cons_ne_nil _ _))

mutual

/-- The normal form of an expression is derived from the tokens of the expression. -/
theorem Expr.derives_normal : ∀ e : Expr, e.Meets .writable → e.normal.Derives e.tokens
  | .simple e, h => .simple (SimpleExpr.derives_normal e h)
  | .comparison left _ right, ⟨hl, hr⟩ =>
    .comparison (SimpleExpr.derives_normal left hl) (SimpleExpr.derives_normal right hr)

/-- The normal form of a simple expression is derived from its tokens. -/
theorem SimpleExpr.derives_normal : ∀ e : SimpleExpr, e.Meets .writable →
    e.normal.Derives e.tokens
  | ⟨none, first, rest⟩, ⟨hf, hr⟩ =>
    .unsigned (Term.derives_normal first hf) (SimpleExpr.derives_normalRest rest hr)
  | ⟨some _, first, rest⟩, ⟨hf, hr⟩ =>
    .signed (Term.derives_normal first hf) (SimpleExpr.derives_normalRest rest hr)

/-- The further terms in normal form are derived from their tokens. -/
theorem SimpleExpr.derives_normalRest : ∀ rest : List (AddOp × Term),
    SimpleExpr.MeetsRest .writable rest →
    Operands AddOp.token Term.Derives (SimpleExpr.normalRest rest) (SimpleExpr.restTokens rest)
  | [], _ => .nil
  | (_, t) :: rest, ⟨ht, hr⟩ =>
    .cons (Term.derives_normal t ht) (SimpleExpr.derives_normalRest rest hr)

/-- The normal form of a term is derived from the tokens of the term. -/
theorem Term.derives_normal : ∀ t : Term, t.Meets .writable → t.normal.Derives t.tokens
  | ⟨first, rest⟩, ⟨hf, hr⟩ =>
    .mk (Factor.derives_normal first hf) (Term.derives_normalRest rest hr)

/-- The further factors in normal form are derived from their tokens. -/
theorem Term.derives_normalRest : ∀ rest : List (MulOp × Factor),
    Term.MeetsRest .writable rest →
    Operands MulOp.token Factor.Derives (Term.normalRest rest) (Term.restTokens rest)
  | [], _ => .nil
  | (_, f) :: rest, ⟨hf, hr⟩ =>
    .cons (Factor.derives_normal f hf) (Term.derives_normalRest rest hr)

/-- The normal form of a factor is derived from the tokens of the factor. -/
theorem Factor.derives_normal : ∀ f : Factor, f.Meets .writable → f.normal.Derives f.tokens
  | .ident x, _ => .ident x
  | .number n, _ => Factor.derives_ofNumber n
  | .bool b, _ => Factor.derives_bool b
  | .nil, _ => .nil
  | .designator ⟨x, []⟩, _ => .ident x
  | .designator ⟨_, s :: ss⟩, ⟨_, _, h⟩ => .designator (Selector.derives_normalList (s :: ss) h)
  | .paren e, h => .paren (Expr.derives_normal e h)
  | .not f, h => .not (Factor.derives_normal f h)
  | .call _ args, ⟨_, h⟩ => .call (Expr.derivesArguments_ofList (Expr.derives_normalList args h))

/-- The normal forms of expressions are derived from the tokens of the expressions. -/
theorem Expr.derives_normalList : ∀ es : List Expr, Expr.MeetsList .writable es →
    List.Forall₂ Expr.Derives (Expr.normalList es) (Expr.tokensOf es)
  | [], _ => .nil
  | e :: es, ⟨he, hes⟩ => .cons (Expr.derives_normal e he) (Expr.derives_normalList es hes)

/-- The normal forms of access steps are derived from their tokens, one after the other. -/
theorem Selector.derives_normalList : ∀ ss : List Selector, Selector.MeetsList .writable ss →
    Repeated Selector.Derives (Selector.normalList ss) (Selector.tokensOf ss)
  | [], _ => .nil
  | s :: ss, ⟨h, hss⟩ => .cons (Selector.derives_normal s h) (Selector.derives_normalList ss hss)

/-- The normal form of an access step is derived from its tokens. -/
theorem Selector.derives_normal : ∀ s : Selector, s.Meets .writable →
    s.normal.Derives s.tokens
  | .field x, _ => .field x
  | .index [], ⟨h, _⟩ => absurd rfl h
  | .index (e :: es), ⟨_, h⟩ =>
    .index (.of_forall₂ (Expr.derives_normalList (e :: es) h) (List.cons_ne_nil _ _))
  | .deref, _ => .deref

end

/-- A label is derived from its tokens. -/
theorem Label.derives {l : Label} (h : l.Meets .writable) : l.Derives l.tokens := by
  cases l with
  | number n =>
    rw [Label.tokens, Token.ofNumber]
    split
    · have hn : -n ≠ Int64.minValue := by
        intro hmin
        have hn : n ≠ Int64.minValue := h
        rw [← Int64.neg_neg (a := n), hmin] at hn
        exact hn rfl
      have h := Label.Derives.negative (-n) hn
      rwa [Int64.neg_neg] at h
    · exact .number n
  | bool b =>
    cases b with
    | true => exact .true
    | false => exact .false
  | nil => exact .nil
  | ident x => exact .ident x

/-- Labels are derived from their tokens one by one. -/
theorem Label.derives_list {ls : List Label} (h : ∀ l ∈ ls, l.Meets .writable) :
    List.Forall₂ Label.Derives ls (ls.map Label.tokens) := by
  rw [List.forall₂_map_right_iff, List.forall₂_same]
  exact fun l hl => Label.derives (h l hl)

/-- A statement that is put between `begin` and `end` before an `else` derives these two with its
tokens between them. -/
theorem Stmt.derives_closed {s : Stmt} {ts : List Token} (h : s.Derives ts) :
    s.closed.Derives
      (if s.endsOpen then .keyword .begin :: (ts ++ [.keyword .end]) else ts) := by
  rw [Stmt.closed]
  split
  · exact .compound (.one h)
  · exact h

/-- Statements are derived from their tokens with semicolons between them, and one empty statement
from no tokens. -/
theorem Stmt.derives_orEmpty {ss : List Stmt} {tss : List (List Token)}
    (h : List.Forall₂ Stmt.Derives ss tss) :
    Separated .semicolon Stmt.Derives (Stmt.orEmpty ss)
      ([.symbol .semicolon].intercalate tss) := by
  cases h with
  | nil => exact .one .empty
  | cons h hs => exact .of_forall₂ (.cons h hs) (List.cons_ne_nil _ _)

mutual

/-- The normal form of a statement is derived from the tokens of the statement. -/
theorem Stmt.derives_normal : ∀ s : Stmt, s.Meets .writable → s.normal.Derives s.tokens
  | .assign ⟨_, ss⟩ value, ⟨ht, hv⟩ =>
    .assign (Selector.derives_normalList ss ht.2) (value.derives_normal hv)
  | .call x [], _ => .call x
  | .call _ (e :: es), ⟨_, h⟩ =>
    .callWith (Expr.derivesArguments_ofList (Expr.derives_normalList (e :: es) h))
  | .ifThen cond body, ⟨hc, hb⟩ => .ifThen (cond.derives_normal hc) (Stmt.derives_normal body hb)
  | .ifThenElse cond body other, ⟨hc, _, hb, ho⟩ => by
    have hclosed := Stmt.derives_closed (Stmt.derives_normal body hb)
    rw [Stmt.endsOpen_normal] at hclosed
    exact .ifThenElse (cond.derives_normal hc) hclosed (Stmt.derives_normal other ho)
  | .caseOf subject [], ⟨he, _⟩ => .caseOfNone (subject.derives_normal he)
  | .caseOf subject (a :: as), ⟨he, ha⟩ =>
    .caseOf (subject.derives_normal he)
      (.of_forall₂ (CaseArm.derives_normalList (a :: as) ha) (List.cons_ne_nil _ _)) (.inl rfl)
  | .whileDo cond body, ⟨hc, hb⟩ =>
    .whileDo (cond.derives_normal hc) (Stmt.derives_normal body hb)
  | .repeatUntil body cond, ⟨_, hb, hc⟩ =>
    .repeatUntil (Stmt.derives_orEmpty (Stmt.derives_normalList body hb)) (cond.derives_normal hc)
  | .forDo _ start _ finish body, ⟨_, hf, hl, hb⟩ =>
    .forDo (start.derives_normal hf) (finish.derives_normal hl) (Stmt.derives_normal body hb)
  | .memory kind x, _ => .memory kind x
  | .compound body, ⟨_, hb⟩ => .compound (Stmt.derives_orEmpty (Stmt.derives_normalList body hb))
  | .empty, _ => .empty

/-- The normal forms of statements are derived from the tokens of the statements. -/
theorem Stmt.derives_normalList : ∀ ss : List Stmt, Stmt.MeetsList .writable ss →
    List.Forall₂ Stmt.Derives (Stmt.normalList ss) (Stmt.tokensOf ss)
  | [], _ => .nil
  | s :: ss, ⟨h, hss⟩ => .cons (Stmt.derives_normal s h) (Stmt.derives_normalList ss hss)

/-- The normal form of an arm is derived from the tokens of the arm. -/
theorem CaseArm.derives_normal : ∀ a : CaseArm, a.Meets .writable → a.normal.Derives a.tokens
  | ⟨_, body⟩, ⟨hne, hl, hb⟩ =>
    .mk (.of_forall₂ (Label.derives_list hl) hne) (Stmt.derives_normal body hb)

/-- The normal forms of arms are derived from the tokens of the arms. -/
theorem CaseArm.derives_normalList : ∀ as : List CaseArm, CaseArm.MeetsList .writable as →
    List.Forall₂ CaseArm.Derives (CaseArm.normalList as) (CaseArm.tokensOf as)
  | [], _ => .nil
  | a :: as, ⟨h, has⟩ => .cons (CaseArm.derives_normal a h) (CaseArm.derives_normalList as has)

end

/-- The grammar derives the tokens of a writable program with its normal form. -/
theorem Program.derives_normal (p : Program) (h : p.Meets .writable) :
    p.normal.Derives p.tokens :=
  .plain (Stmt.derives_orEmpty (Stmt.derives_normalList p.body h.2))

mutual

/-- In a well-formed statement each `else` is at the nearest `if`, since no branch before an `else`
ends in an open one. -/
theorem Stmt.nearestElse_of_meets : ∀ s : Stmt, s.Meets .wellFormed → s.NearestElse
  | .assign _ _, _ | .call _ _, _ | .memory _ _, _ | .empty, _ => trivial
  | .ifThen _ body, ⟨_, hb⟩ | .whileDo _ body, ⟨_, hb⟩ => Stmt.nearestElse_of_meets body hb
  | .ifThenElse _ body other, ⟨_, hopen, hb, ho⟩ =>
    ⟨hopen, Stmt.nearestElse_of_meets body hb, Stmt.nearestElse_of_meets other ho⟩
  | .caseOf _ arms, ⟨_, ha⟩ => CaseArm.nearestElseList_of_meets arms ha
  | .repeatUntil body _, ⟨_, hb, _⟩ => Stmt.nearestElseList_of_meets body hb
  | .forDo _ _ _ _ body, ⟨_, _, _, hb⟩ => Stmt.nearestElse_of_meets body hb
  | .compound body, ⟨_, hb⟩ => Stmt.nearestElseList_of_meets body hb

/-- `Stmt.nearestElse_of_meets` for each of the statements. -/
theorem Stmt.nearestElseList_of_meets : ∀ ss : List Stmt, Stmt.MeetsList .wellFormed ss →
    Stmt.NearestElseList ss
  | [], _ => trivial
  | s :: ss, ⟨h, hss⟩ => ⟨Stmt.nearestElse_of_meets s h, Stmt.nearestElseList_of_meets ss hss⟩

/-- In a well-formed arm each `else` is at the nearest `if`. -/
theorem CaseArm.nearestElse_of_meets : ∀ a : CaseArm, a.Meets .wellFormed → a.NearestElse
  | ⟨_, body⟩, ⟨_, _, hb⟩ => Stmt.nearestElse_of_meets body hb

/-- `CaseArm.nearestElse_of_meets` for each of the arms. -/
theorem CaseArm.nearestElseList_of_meets : ∀ as : List CaseArm,
    CaseArm.MeetsList .wellFormed as → CaseArm.NearestElseList as
  | [], _ => trivial
  | a :: as, ⟨h, has⟩ => ⟨CaseArm.nearestElse_of_meets a h, CaseArm.nearestElseList_of_meets as has⟩

end

/-! ## Reading the text -/

/-- The text of a writable program is read as its normal form. -/
theorem Program.parse_text_eq_normal (p : Program) (h : p.Meets .writable) :
    Program.parse p.text = .ok p.normal := by
  obtain ⟨ls, n, hs, hls⟩ :=
    p.scan_text (p.meets_mono Requirement.writable_implies_lexical h) 1
  have hl := allLexical_of_scan hs hls
  have hnear : p.normal.NearestElse := Stmt.nearestElseList_of_meets _ (p.meets_normal h).2
  exact Program.parse_eq_ok_iff.2 ⟨ls, n, _, hs, hls, hl, p.derives_normal h, hnear⟩

/-- The text of a writable expression is read as its normal form. -/
theorem Expr.parse_text_eq_normal (e : Expr) (h : e.Meets .writable) :
    Expr.parse e.text = .ok e.normal := by
  obtain ⟨ls, n, hs, hls⟩ :=
    e.scan_text (e.meets_mono Requirement.writable_implies_lexical h) 1
  have hl := allLexical_of_scan hs hls
  exact Expr.parse_eq_ok_iff.2 ⟨ls, n, _, hs, hls, hl, e.derives_normal h⟩

/-- The text of a program with valid names, no least number and no empty list of indices or labels
is read as the normal form of the program; this has the same text and is its own normal form. -/
theorem Program.parse_text (p : Program) (h : p.Meets .writable) :
    Program.parse p.text = .ok p.normal ∧ p.normal.text = p.text ∧ p.normal.normal = p.normal :=
  ⟨p.parse_text_eq_normal h, p.text_normal h, p.normal.normal_eq (p.meets_normal h)⟩

/-- All four rules apply to this program. -/
theorem Program.parse_text_branch :
    let name : Expr := (Factor.designator ⟨"a", []⟩).toExpr
    let p : Program :=
      ⟨[.ifThenElse name (.ifThen (Factor.number (-5)).toExpr (.compound [])) (.call "b" [])]⟩
    let five : Expr := .simple ⟨some .minus, ⟨.number 5, []⟩, []⟩
    let q : Program :=
      ⟨[.ifThenElse (Factor.ident "a").toExpr
        (.compound [.ifThen (Factor.paren five).toExpr (.compound [.empty])]) (.call "b" [])]⟩
    p.Meets .writable ∧ Program.parse p.text = .ok q ∧ q.text = p.text ∧ q.normal = q := by
  intro name p five q
  have ha : Name.isValid "a".toList = true := by decide +kernel
  have hb : Name.isValid "b".toList = true := by decide +kernel
  have hnumber : (-5 : Int64) ≠ Int64.minValue := by decide
  have h : p.Meets .writable :=
    ⟨trivial, ⟨⟨⟨⟨trivial, ha, trivial⟩, trivial⟩, trivial⟩, trivial,
      ⟨⟨⟨hnumber, trivial⟩, trivial⟩, trivial, trivial⟩, hb, trivial⟩, trivial⟩
  have hq : p.normal = q := rfl
  exact ⟨h, hq ▸ p.parse_text h⟩

end MiniPascal
