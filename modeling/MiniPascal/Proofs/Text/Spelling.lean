import Mathlib.Data.List.Forall2
import MiniPascal.Proofs.Text.LeastNumber
import MiniPascal.Proofs.Text.Scanning
import MiniPascal.Tree.Text

/-!
# The text of a tree and its tokens

The text of a tree with valid names and without the least number is scanned to the tokens of the
tree (`scan_text_tokens`): no two pieces of the text merge, none splits, and no comment is opened.
`Spells` says so of a part of a text, whatever follows it, as long as that is detached. It restricts
no number: with the least number among the tokens a scan stops at it (`Spells.scan_stop`).
-/

namespace MiniPascal

/-! ## Parts of a text -/

/-- The text is scanned to the tokens in front of every detached text. -/
def Spells (text : String) (ts : List Token) : Prop :=
  ∀ ⦃rest us⦄, Detached rest → Scans rest us → Scans (text.toList ++ rest) (ts ++ us)

/-- The requirement that names are valid. -/
def Requirement.named : Requirement where
  name x := Name.isValid x.toList = true

/-- The requirement that names are valid and no number is the least one. -/
def Requirement.lexical : Requirement where
  name x := Name.isValid x.toList = true
  literal n := n ≠ Int64.minValue
  label n := n ≠ Int64.minValue

/-- Valid names and no least number are what `bounded` adds to valid names. -/
theorem Requirement.lexical_implies_bounded : lexical.Implies named.bounded where
  name := id
  literal h := ⟨trivial, h⟩
  label h := ⟨trivial, h⟩
  labels := id
  indices := id
  selectors := id
  body := id
  branch := id

section
variable {rest : List Char} {us : List Token}

/-- A text that begins with a detaching character is detached. -/
theorem detached_text {s : String} (h : (s.toList.head?.any Name.detaches) = true) :
    Detached (s.toList ++ rest) := by
  cases hs : s.toList with
  | nil =>
    rw [hs] at h
    cases h
  | cons c cs =>
    rw [hs] at h
    exact detached_cons h

namespace Scans

/-- A space in front of a text adds no token. -/
theorem space (hs : Scans rest us) : Scans (" ".toList ++ rest) us :=
  .blank hs

/-- A line break and the indentation after it add no token. -/
theorem newline (depth : Nat) (hs : Scans rest us) : Scans ((newline depth).toList ++ rest) us := by
  have hindent (n : Nat) : Scans (List.replicate n ' ' ++ rest) us := by
    induction n with
    | zero => exact hs
    | succ n ih => exact .blank ih
  simp only [MiniPascal.newline, indent, String.toList_append, String.toList_ofList,
    List.append_assoc]
  exact .of_gap (Step.first_blank rfl) (hindent _)

/-- A keyword with a space after it. -/
theorem lead (k : Keyword) {s : String} (h : s = k.word ++ " ") (hs : Scans rest us) :
    Scans (s.toList ++ rest) (.keyword k :: us) := by
  rw [h, String.toList_append, List.append_assoc]
  exact .keyword k (detached_text rfl) hs.space

/-- A keyword with a space before it. -/
theorem trail (k : Keyword) {s : String} (h : s = " " ++ k.word) (hr : Detached rest)
    (hs : Scans rest us) : Scans (s.toList ++ rest) (.keyword k :: us) := by
  rw [h, String.toList_append, List.append_assoc]
  exact .space (.keyword k hr hs)

/-- A keyword or a symbol with a space on either side. -/
theorem operator {t : Token} (ht : t.IsFixed)
    (hs : Scans rest us) :
    Scans (" ".toList ++ (t.spelling.toList ++ (" ".toList ++ rest))) (t :: us) := by
  rcases ht with ⟨k, rfl⟩ | ⟨s, rfl⟩
  · exact .space (.keyword k (detached_text rfl) hs.space)
  · refine .space (.symbol s ?_ hs.space)
    intro c hc
    cases hc
    cases s <;> rfl

/-- A colon in front of a detached text is no part of an assignment sign. -/
theorem colon (hr : Detached rest) (hs : Scans rest us) :
    Scans (":".toList ++ rest) (.symbol .colon :: us) := by
  refine .symbol .colon (fun c hc => ?_) hs
  have := hr c hc
  simp only [Name.detaches, Bool.and_eq_true, bne_iff_ne] at this
  simpa [Symbol.joins] using this.1.2

/-- A closing parenthesis is a symbol whatever follows. -/
theorem rightParen (hs : Scans rest us) : Scans (")".toList ++ rest) (.symbol .rightParen :: us) :=
  .symbol .rightParen (fun _ _ => rfl) hs

/-- An opening parenthesis is a symbol unless a star follows, which would open a comment. -/
theorem leftParen (hs : Scans rest us) (h : us.head? ≠ some (.symbol .multiply)) :
    Scans ("(".toList ++ rest) (.symbol .leftParen :: us) :=
  .symbol .leftParen (hs.not_star h) hs

end Scans

end

/-- Texts with a separator between them spell their tokens with the separator's between them. -/
theorem Spells.intercalate {sep : String} {t : Token} {texts : List String}
    {tss : List (List Token)} (hsep : (sep.toList.head?.any Name.detaches) = true)
    (hscan : ∀ {rest us}, Scans rest us → Scans (sep.toList ++ rest) (t :: us))
    (h : List.Forall₂ Spells texts tss) : Spells (sep.intercalate texts) ([t].intercalate tss) := by
  induction h with
  | nil => exact fun _ _ _ hs => hs
  | cons h hss ih =>
    cases hss with
    | nil =>
      rw [String.intercalate_singleton, List.intercalate_singleton]
      exact h
    | cons h' hss =>
      intro rest us hr hs
      rw [String.intercalate_cons_cons, List.intercalate_cons_cons]
      simp only [String.toList_append, List.append_assoc, List.cons_append, List.nil_append]
      exact h (detached_text hsep) (hscan (ih hr hs))

/-! ## Expressions -/

section
variable {ts : List Token}

/-- The tokens of a factor do not begin with a star, so a parenthesis before them opens no
comment. -/
theorem Factor.head_tokens (f : Factor) : (f.tokens ++ ts).head? ≠ some (.symbol .multiply) := by
  cases f with
  | number n =>
    rw [Factor.tokens]
    split <;> simp
  | bool b => cases b <;> simp [Factor.tokens, Token.ofBool]
  | designator d =>
    cases d
    simp [Factor.tokens, Designator.tokens]
  | _ => simp [Factor.tokens]

/-- No term begins with a star. -/
theorem Term.head_tokens (t : Term) : (t.tokens ++ ts).head? ≠ some (.symbol .multiply) := by
  obtain ⟨first, rest⟩ := t
  rw [Term.tokens, List.append_assoc]
  exact first.head_tokens

/-- No simple expression begins with a star. -/
theorem SimpleExpr.head_tokens (e : SimpleExpr) :
    (e.tokens ++ ts).head? ≠ some (.symbol .multiply) := by
  obtain ⟨sign, first, rest⟩ := e
  cases sign with
  | none =>
    rw [SimpleExpr.tokens, List.append_assoc]
    exact first.head_tokens
  | some sign => cases sign <;> simp [SimpleExpr.tokens, Sign.token]

/-- No expression begins with a star. -/
theorem Expr.head_tokens (e : Expr) : (e.tokens ++ ts).head? ≠ some (.symbol .multiply) := by
  cases e with
  | simple e => exact e.head_tokens
  | comparison left =>
    rw [Expr.tokens, List.append_assoc]
    exact left.head_tokens

/-- No list of expressions begins with a star, unless it is empty and a star follows. -/
theorem Expr.head_tokensOf (es : List Expr) (h : ts.head? ≠ some (.symbol .multiply)) :
    ([.symbol .comma].intercalate (Expr.tokensOf es) ++ ts).head? ≠ some (.symbol .multiply) := by
  match es with
  | [] => exact h
  | [e] =>
    rw [Expr.tokensOf, Expr.tokensOf, List.intercalate_singleton]
    exact e.head_tokens
  | e :: e' :: es =>
    rw [Expr.tokensOf, Expr.tokensOf, List.intercalate_cons_cons, List.append_assoc,
      List.append_assoc]
    exact e.head_tokens

end

section
variable {rest : List Char}

/-- What follows a term begins with a space or is what follows the simple expression. -/
theorem SimpleExpr.detached_restText (ops : List (AddOp × Term)) (hr : Detached rest) :
    Detached ((SimpleExpr.restText ops).toList ++ rest) := by
  obtain _ | ⟨⟨op, term⟩, ops⟩ := ops
  · exact hr
  · simp only [SimpleExpr.restText, String.toList_append, List.append_assoc]
    exact detached_text rfl

/-- What follows a factor begins with a space or is what follows the term. -/
theorem Term.detached_restText (ops : List (MulOp × Factor)) (hr : Detached rest) :
    Detached ((Term.restText ops).toList ++ rest) := by
  obtain _ | ⟨⟨op, factor⟩, ops⟩ := ops
  · exact hr
  · simp only [Term.restText, String.toList_append, List.append_assoc]
    exact detached_text rfl

/-- What follows a name begins with an access step or is what follows the designator. -/
theorem Selector.detached_texts (ss : List Selector) (hr : Detached rest) :
    Detached ((Selector.texts ss).toList ++ rest) := by
  match ss with
  | [] => exact hr
  | .field x :: ss =>
    simp only [Selector.texts, Selector.text, String.toList_append, List.append_assoc]
    exact detached_text rfl
  | .index es :: ss =>
    simp only [Selector.texts, Selector.text, listText, String.toList_append, List.append_assoc]
    exact detached_text rfl
  | .deref :: ss =>
    simp only [Selector.texts, Selector.text, String.toList_append, List.append_assoc]
    exact detached_text rfl

end

/-- The word of a truth value spells it. -/
theorem Spells.bool (b : Bool) : Spells (boolText b) [Token.ofBool b] := by
  cases b with
  | true => exact fun _ _ => Scans.keyword .true
  | false => exact fun _ _ => Scans.keyword .false

/-- Texts with commas between them spell their tokens with commas between them. -/
theorem Spells.commas {texts : List String} {tss : List (List Token)}
    (h : List.Forall₂ Spells texts tss) :
    Spells (", ".intercalate texts) ([.symbol .comma].intercalate tss) :=
  .intercalate rfl (fun hs => .symbol .comma (fun _ _ => rfl) hs.space) h

/-- The digits of a number, after a minus sign if it is negative, spell it. -/
theorem Spells.number (n : Int64) : Spells (Decimal.text n.toInt) (Token.ofNumber n) := by
  intro rest us hr hs
  rw [Token.ofNumber]
  split
  · next hn => exact .negative hn hr hs
  · next hn => exact .number (Int.not_lt.1 hn) hr hs

mutual

/-- The text of an expression spells its tokens. -/
theorem Expr.spells : ∀ e : Expr, e.Meets .named → Spells e.text e.tokens
  | .simple e, h => SimpleExpr.spells e h
  | .comparison left op right, ⟨hl, hr⟩ => by
    intro rest us hd hs
    simp only [Expr.text, Expr.tokens, String.toList_append, List.append_assoc, List.cons_append]
    have hs := SimpleExpr.spells right hr hd hs
    exact SimpleExpr.spells left hl (detached_text rfl) (.operator op.token_fixed hs)

/-- The text of a simple expression spells its tokens. -/
theorem SimpleExpr.spells : ∀ e : SimpleExpr, e.Meets .named → Spells e.text e.tokens
  | ⟨none, first, ops⟩, ⟨hf, hr⟩ => by
    intro rest us hd hs
    simp only [SimpleExpr.text, SimpleExpr.tokens, String.toList_append, List.append_assoc]
    exact Term.spells first hf (SimpleExpr.detached_restText ops hd)
      (SimpleExpr.spells_rest ops hr hd hs)
  | ⟨some sign, first, ops⟩, ⟨hf, hr⟩ => by
    intro rest us hd hs
    simp only [SimpleExpr.text, SimpleExpr.tokens, String.toList_append, List.append_assoc,
      List.cons_append]
    have hs := Term.spells first hf (SimpleExpr.detached_restText ops hd)
      (SimpleExpr.spells_rest ops hr hd hs)
    cases sign with
    | plus => exact .symbol .plus (fun _ _ => rfl) hs
    | minus => exact .symbol .minus (fun _ _ => rfl) hs

/-- The text of the further terms spells their tokens. -/
theorem SimpleExpr.spells_rest : ∀ ops : List (AddOp × Term),
    SimpleExpr.MeetsRest .named ops → Spells (SimpleExpr.restText ops) (SimpleExpr.restTokens ops)
  | [], _ => fun _ _ _ hs => hs
  | (op, term) :: ops, ⟨ht, hr⟩ => by
    intro rest us hd hs
    simp only [SimpleExpr.restText, SimpleExpr.restTokens, String.toList_append, List.append_assoc,
      List.cons_append]
    exact .operator op.token_fixed (Term.spells term ht
      (SimpleExpr.detached_restText ops hd) (SimpleExpr.spells_rest ops hr hd hs))

/-- The text of a term spells its tokens. -/
theorem Term.spells : ∀ t : Term, t.Meets .named → Spells t.text t.tokens
  | ⟨first, ops⟩, ⟨hf, hr⟩ => by
    intro rest us hd hs
    simp only [Term.text, Term.tokens, String.toList_append, List.append_assoc]
    exact Factor.spells first hf (Term.detached_restText ops hd) (Term.spells_rest ops hr hd hs)

/-- The text of the further factors spells their tokens. -/
theorem Term.spells_rest : ∀ ops : List (MulOp × Factor),
    Term.MeetsRest .named ops → Spells (Term.restText ops) (Term.restTokens ops)
  | [], _ => fun _ _ _ hs => hs
  | (op, factor) :: ops, ⟨hf, hr⟩ => by
    intro rest us hd hs
    simp only [Term.restText, Term.restTokens, String.toList_append, List.append_assoc,
      List.cons_append]
    exact .operator op.token_fixed (Factor.spells factor hf
      (Term.detached_restText ops hd) (Term.spells_rest ops hr hd hs))

/-- The text of a factor spells its tokens; a parenthesis in it opens no comment. -/
theorem Factor.spells : ∀ f : Factor, f.Meets .named → Spells f.text f.tokens
  | .ident x, h => fun _ _ => Scans.name h
  | .number n, _ => by
    intro rest us hd hs
    rw [Factor.text, Factor.tokens]
    split
    · next hn =>
      simp only [String.toList_append, List.append_assoc, List.cons_append]
      refine .leftParen (Spells.number n (detached_text rfl) hs.rightParen) ?_
      rw [Token.ofNumber, if_pos hn]
      simp
    · next hn => exact .number (Int.not_lt.1 hn) hd hs
  | .bool b, _ => .bool b
  | .nil, _ => fun _ _ => Scans.keyword .nil
  | .designator d, ⟨_, hd⟩ => Designator.spells d hd
  | .paren e, h => by
    intro rest us hd hs
    simp only [Factor.text, Factor.tokens, String.toList_append, List.append_assoc,
      List.cons_append]
    exact .leftParen (Expr.spells e h (detached_text rfl) hs.rightParen) e.head_tokens
  | .not f, h => by
    intro rest us hd hs
    simp only [Factor.text, Factor.tokens, String.toList_append, List.append_assoc,
      List.cons_append]
    exact .lead .not rfl (Factor.spells f h hd hs)
  | .call x args, ⟨hx, ha⟩ => by
    intro rest us hd hs
    simp only [Factor.text, Factor.tokens, listText, Token.ofList, String.toList_append,
      List.append_assoc, List.cons_append]
    refine .name hx (detached_text rfl) (.leftParen ?_ (Expr.head_tokensOf args (by simp)))
    exact Spells.commas (Expr.spells_texts args ha) (detached_text rfl) hs.rightParen

/-- The texts of expressions spell their tokens one by one. -/
theorem Expr.spells_texts : ∀ es : List Expr,
    Expr.MeetsList .named es → List.Forall₂ Spells (Expr.texts es) (Expr.tokensOf es)
  | [], _ => .nil
  | e :: es, ⟨he, hes⟩ => .cons (Expr.spells e he) (Expr.spells_texts es hes)

/-- The text of a designator spells its tokens. -/
theorem Designator.spells : ∀ d : Designator, d.Meets .named → Spells d.text d.tokens
  | ⟨x, selectors⟩, ⟨hx, hss⟩ => by
    intro rest us hd hs
    simp only [Designator.text, Designator.tokens, String.toList_append, List.append_assoc,
      List.cons_append]
    exact .name hx (Selector.detached_texts selectors hd)
      (Selector.spells_texts selectors hss hd hs)

/-- The text of access steps spells their tokens. -/
theorem Selector.spells_texts : ∀ ss : List Selector,
    Selector.MeetsList .named ss → Spells (Selector.texts ss) (Selector.tokensOf ss)
  | [], _ => fun _ _ _ hs => hs
  | s :: ss, ⟨h, hss⟩ => by
    intro rest us hd hs
    simp only [Selector.texts, Selector.tokensOf, String.toList_append, List.append_assoc]
    exact Selector.spells s h (Selector.detached_texts ss hd) (Selector.spells_texts ss hss hd hs)

/-- The text of an access step spells its tokens. -/
theorem Selector.spells : ∀ s : Selector, s.Meets .named → Spells s.text s.tokens
  | .field x, h => by
    intro rest us hd hs
    simp only [Selector.text, Selector.tokens, String.toList_append, List.append_assoc,
      List.cons_append]
    exact .symbol .dot (fun _ _ => rfl) (.name h hd hs)
  | .index es, ⟨_, h⟩ => by
    intro rest us hd hs
    simp only [Selector.text, Selector.tokens, listText, Token.ofList, String.toList_append,
      List.append_assoc, List.cons_append]
    exact .symbol .leftBracket (fun _ _ => rfl) (Spells.commas (Expr.spells_texts es h)
      (detached_text rfl) (.symbol .rightBracket (fun _ _ => rfl) hs))
  | .deref, _ => fun _ _ _ hs => .symbol .caret (fun _ _ => rfl) hs

end

/-! ## Statements -/

/-- The text of a label spells its tokens. -/
theorem Label.spells {l : Label} (h : l.Meets .named) : Spells l.text l.tokens := by
  cases l with
  | number n => exact .number n
  | bool b => exact .bool b
  | nil => exact fun _ _ => Scans.keyword .nil
  | ident x => exact fun _ _ => Scans.name h

/-- The texts of labels spell their tokens one by one. -/
theorem Label.spells_texts {ls : List Label} (h : ∀ l ∈ ls, l.Meets .named) :
    List.Forall₂ Spells (ls.map Label.text) (ls.map Label.tokens) := by
  rw [List.forall₂_map_left_iff, List.forall₂_map_right_iff, List.forall₂_same]
  exact fun l hl => Label.spells (h l hl)

section
variable {rest : List Char} {depth : Nat}

/-- A line break is detached from what stands before it. -/
theorem detached_newline : Detached ((newline depth).toList ++ rest) := by
  simp only [newline, String.toList_append, List.append_assoc]
  exact detached_text rfl

/-- A statement below another begins with a space or a line break. -/
theorem detached_below {s : Stmt} {text : String} :
    Detached ((below depth s text).toList ++ rest) := by
  rw [below]
  split
  · exact detached_text rfl
  · simp only [String.toList_append, List.append_assoc]
    exact detached_newline

/-- Detached texts are detached also with a separator between them. -/
theorem detached_intercalate {sep : String} {texts : List String}
    (h : ∀ text ∈ texts, ∀ rest, Detached (text.toList ++ rest)) (hr : Detached rest) :
    Detached ((sep.intercalate texts).toList ++ rest) := by
  match texts with
  | [] => exact hr
  | [text] =>
    rw [String.intercalate_singleton]
    exact h text List.mem_cons_self rest
  | text :: text' :: texts =>
    simp only [String.intercalate_cons_cons, String.toList_append, List.append_assoc]
    exact h text List.mem_cons_self _

/-- The lines of a block begin with a line break, or there are none. -/
theorem Stmt.detached_block (body : List Stmt) (hr : Detached rest) :
    Detached ((blockText (Stmt.linesAt depth body)).toList ++ rest) := by
  rw [blockText]
  split
  · exact detached_text rfl
  · refine detached_intercalate (fun text ht rest => ?_) hr
    rw [Stmt.linesAt_eq_map] at ht
    obtain ⟨s, -, rfl⟩ := List.mem_map.1 ht
    exact detached_below

/-- The lines of arms begin with a line break, or there are none. -/
theorem CaseArm.detached_lines (arms : List CaseArm) (hr : Detached rest) :
    Detached ((";".intercalate (CaseArm.linesAt depth arms)).toList ++ rest) := by
  refine detached_intercalate (fun text ht rest => ?_) hr
  rw [CaseArm.linesAt_eq_map] at ht
  obtain ⟨⟨labels, body⟩, -, rfl⟩ := List.mem_map.1 ht
  simp only [CaseArm.lineAt, String.toList_append, List.append_assoc]
  exact detached_newline

end

/-- Texts with semicolons between them spell their tokens with semicolons between them. -/
theorem Spells.semicolons {texts : List String} {tss : List (List Token)}
    (h : List.Forall₂ Spells texts tss) :
    Spells (";".intercalate texts) ([.symbol .semicolon].intercalate tss) :=
  .intercalate rfl (fun hs => .symbol .semicolon (fun _ _ => rfl) hs) h

/-- The lines of a block spell the tokens of its statements. -/
theorem Spells.block {lines : List String} {tss : List (List Token)}
    (h : List.Forall₂ Spells lines tss) :
    Spells (blockText lines) ([.symbol .semicolon].intercalate tss) := by
  cases h with
  | nil => exact fun _ _ _ hs => .of_gap (Step.first_blank rfl) hs
  | cons h hss =>
    rw [blockText, List.isEmpty_cons, if_neg Bool.false_ne_true]
    exact .semicolons (.cons h hss)

/-- A statement laid out below another spells its tokens. -/
theorem Spells.below (depth : Nat) {s : Stmt} {text : String} (h : Spells text s.tokens) :
    Spells (below depth s text) s.tokens := by
  intro rest us hd hs
  rw [MiniPascal.below]
  split
  · next he =>
    rw [Stmt.isEmpty_iff.1 he]
    exact .of_gap (Step.first_blank rfl) hs
  · simp only [String.toList_append, List.append_assoc]
    exact .newline _ (h hd hs)

mutual

/-- The text of a statement spells its tokens at any depth. -/
theorem Stmt.spells : ∀ (s : Stmt) (depth : Nat), s.Meets .named →
    Spells (s.textAt depth) s.tokens
  | .assign target value, depth, ⟨ht, hv⟩ => by
    intro rest us hd hs
    simp only [Stmt.textAt, Stmt.tokens, String.toList_append, List.append_assoc, List.cons_append]
    have hs : Scans (" := ".toList ++ (value.text.toList ++ rest)) _ :=
      .operator (.inr ⟨.assign, rfl⟩) (value.spells hv hd hs)
    exact target.spells ht (detached_text rfl) hs
  | .call x args, depth, ⟨hx, ha⟩ => by
    intro rest us hd hs
    rw [Stmt.textAt, Stmt.tokens]
    split
    · exact .name hx hd hs
    · simp only [listText, Token.ofList, String.toList_append, List.append_assoc, List.cons_append]
      refine .name hx (detached_text rfl) (.leftParen ?_ (Expr.head_tokensOf args (by simp)))
      exact Spells.commas (Expr.spells_texts args ha) (detached_text rfl) hs.rightParen
  | .ifThen cond body, depth, ⟨hc, hb⟩ => by
    intro rest us hd hs
    simp only [Stmt.textAt, Stmt.tokens, String.toList_append, List.append_assoc, List.cons_append]
    have hs := Spells.below (depth + 1) (Stmt.spells body (depth + 1) hb) hd hs
    exact .lead .if rfl (cond.spells hc (detached_text rfl) (.trail .then rfl detached_below hs))
  | .ifThenElse cond body other, depth, ⟨hc, _, hb, ho⟩ => by
    intro rest us hd hs
    simp only [Stmt.textAt, Stmt.tokens, String.toList_append, List.append_assoc, List.cons_append]
    have hs := Spells.below (depth + 1) (Stmt.spells other (depth + 1) ho) hd hs
    have hs := Scans.newline depth (.keyword .else detached_below hs)
    split
    · simp only [String.toList_append, List.append_assoc, List.cons_append, List.nil_append]
      have hs := Stmt.spells body (depth + 2) hb detached_newline
        (.newline (depth + 1) (.keyword .end detached_newline hs))
      have hs := Scans.keyword .begin detached_newline (hs.newline (depth + 2))
      have hs := hs.newline (depth + 1)
      exact .lead .if rfl
        (cond.spells hc (detached_text rfl) (.trail .then rfl detached_newline hs))
    · have hs := Spells.below (depth + 1) (Stmt.spells body (depth + 1) hb)
        detached_newline hs
      exact .lead .if rfl (cond.spells hc (detached_text rfl) (.trail .then rfl detached_below hs))
  | .caseOf subject arms, depth, ⟨hc, ha⟩ => by
    intro rest us hd hs
    simp only [Stmt.textAt, Stmt.tokens, String.toList_append, List.append_assoc, List.cons_append]
    have hs := Spells.semicolons (CaseArm.spells_lines arms (depth + 1) ha) detached_newline
      (.newline depth (.keyword .end hd hs))
    exact .lead .case rfl (subject.spells hc (detached_text rfl)
      (.trail .of rfl (CaseArm.detached_lines arms detached_newline) hs))
  | .whileDo cond body, depth, ⟨hc, hb⟩ => by
    intro rest us hd hs
    simp only [Stmt.textAt, Stmt.tokens, String.toList_append, List.append_assoc, List.cons_append]
    have hs := Spells.below (depth + 1) (Stmt.spells body (depth + 1) hb) hd hs
    exact .lead .while rfl (cond.spells hc (detached_text rfl) (.trail .do rfl detached_below hs))
  | .repeatUntil body cond, depth, ⟨_, hb, hc⟩ => by
    intro rest us hd hs
    simp only [Stmt.textAt, Stmt.tokens, String.toList_append, List.append_assoc, List.cons_append]
    have hs := Spells.block (Stmt.spells_lines body (depth + 1) hb) detached_newline
      (.newline depth (.lead .until rfl (cond.spells hc hd hs)))
    exact .keyword .repeat (Stmt.detached_block body detached_newline) hs
  | .forDo counter start direction finish body, depth, ⟨hx, hf, hl, hb⟩ => by
    intro rest us hd hs
    simp only [Stmt.textAt, Stmt.tokens, String.toList_append, List.append_assoc, List.cons_append]
    have hs := Spells.below (depth + 1) (Stmt.spells body (depth + 1) hb) hd hs
    have hs := finish.spells hl (detached_text rfl) (.trail .do rfl detached_below hs)
    have hs := start.spells hf (detached_text rfl) (.operator direction.token_fixed hs)
    have hs : Scans (" := ".toList ++ _) _ := .operator (.inr ⟨.assign, rfl⟩) hs
    exact .lead .for rfl (.name hx (detached_text rfl) hs)
  | .memory kind x, depth, hx => by
    intro rest us hd hs
    simp only [Stmt.textAt, Stmt.tokens, String.toList_append, List.append_assoc, List.cons_append]
    have hs : Scans ("(".toList ++ (x.toList ++ (")".toList ++ rest))) _ :=
      .leftParen (.name hx (detached_text rfl) hs.rightParen) (by simp)
    cases kind with
    | new => exact .keyword .new (detached_text rfl) hs
    | dispose => exact .keyword .dispose (detached_text rfl) hs
  | .compound body, depth, ⟨_, hb⟩ => by
    intro rest us hd hs
    simp only [Stmt.textAt, Stmt.tokens, String.toList_append, List.append_assoc, List.cons_append]
    have hs := Spells.block (Stmt.spells_lines body (depth + 1) hb) detached_newline
      (.newline depth (.keyword .end hd hs))
    exact .keyword .begin (Stmt.detached_block body detached_newline) hs
  | .empty, _, _ => fun _ _ _ hs => hs

/-- The lines of statements spell their tokens one by one. -/
theorem Stmt.spells_lines : ∀ (body : List Stmt) (depth : Nat), Stmt.MeetsList .named body →
    List.Forall₂ Spells (Stmt.linesAt depth body) (Stmt.tokensOf body)
  | [], _, _ => .nil
  | s :: body, depth, ⟨h, hb⟩ =>
    .cons (Spells.below depth (Stmt.spells s depth h)) (Stmt.spells_lines body depth hb)

/-- The text of an arm spells its tokens at any depth. -/
theorem CaseArm.spells : ∀ (a : CaseArm) (depth : Nat), a.Meets .named →
    Spells (a.lineAt depth) a.tokens
  | ⟨labels, body⟩, depth, ⟨_, hl, hb⟩ => by
    intro rest us hd hs
    simp only [CaseArm.lineAt, CaseArm.tokens, String.toList_append, List.append_assoc,
      List.cons_append]
    refine .newline depth (Spells.commas (Label.spells_texts hl) (detached_text rfl) ?_)
    split
    · next he =>
      rw [Stmt.isEmpty_iff.1 he]
      exact .colon hd hs
    · simp only [String.toList_append, List.append_assoc]
      exact .colon (detached_text rfl) (Stmt.spells body depth hb hd hs).space

/-- The lines of arms spell their tokens one by one. -/
theorem CaseArm.spells_lines : ∀ (arms : List CaseArm) (depth : Nat),
    CaseArm.MeetsList .named arms →
    List.Forall₂ Spells (CaseArm.linesAt depth arms) (CaseArm.tokensOf arms)
  | [], _, _ => .nil
  | a :: arms, depth, ⟨h, ha⟩ =>
    .cons (CaseArm.spells a depth h) (CaseArm.spells_lines arms depth ha)

end

/-- The text of a program is scanned to the tokens of the program. -/
theorem Program.spells (p : Program) (h : p.Meets .named) : Spells p.text p.tokens := by
  have lines : List.Forall₂ Spells (p.body.map Stmt.text) (Stmt.tokensOf p.body) := by
    rw [Stmt.tokensOf_eq_map, List.forall₂_map_left_iff, List.forall₂_map_right_iff,
      List.forall₂_same]
    exact fun s hs => s.spells 0 (Stmt.meetsList_iff.1 h.2 s hs)
  exact .intercalate rfl (fun hs => .symbol .semicolon (fun _ _ => rfl)
    (.of_gap (Step.first_blank rfl) hs)) lines

/-! ## Whole texts -/

section
variable {text : String} {ts : List Token}

/-- A text whose tokens hold no least number is scanned to these tokens and the end of input. -/
theorem Spells.scan_done (h : Spells text ts) (hb : Token.Bounded ts) (line : Nat) :
    ∃ ls n, scan line text = .done ls n ∧ ls.map Lexeme.token = ts ++ [.eof] := by
  have hs := h detached_nil .nil
  rw [List.append_nil] at hs
  exact hs.done (Token.bounded_append.2 ⟨hb, by simp⟩) line

/-- A text whose tokens hold the least number is not scanned to its end. -/
theorem Spells.scan_stop (h : Spells text ts) (hb : ¬Token.Bounded ts) (line : Nat) :
    ∃ n, scan line text = .stop (.invalidNumber "9223372036854775808" n) n := by
  have hs := h detached_nil .nil
  rw [List.append_nil] at hs
  exact hs.stop (List.mem_append_left _ (not_not.1 hb)) line

end

/-- Scanning the text of a program yields the tokens of the program and the end of input. -/
theorem Program.scan_text (p : Program) (h : p.Meets .lexical) (line : Nat) :
    ∃ ls n, scan line p.text = .done ls n ∧ ls.map Lexeme.token = p.tokens ++ [.eof] := by
  obtain ⟨hn, hb⟩ := p.meets_bounded_iff.1 (p.meets_mono Requirement.lexical_implies_bounded h)
  exact (p.spells hn).scan_done hb line

/-- Scanning the text of an expression yields the tokens of the expression and the end of input. -/
theorem Expr.scan_text (e : Expr) (h : e.Meets .lexical) (line : Nat) :
    ∃ ls n, scan line e.text = .done ls n ∧ ls.map Lexeme.token = e.tokens ++ [.eof] := by
  obtain ⟨hn, hb⟩ := e.meets_bounded_iff.1 (e.meets_mono Requirement.lexical_implies_bounded h)
  exact (e.spells hn).scan_done hb line

/-- Scanning the text of a statement, however deep it stands, yields the tokens of the statement and
the end of input. -/
theorem Stmt.scan_textAt (s : Stmt) (h : s.Meets .lexical) (depth line : Nat) :
    ∃ ls n, scan line (s.textAt depth) = .done ls n ∧
      ls.map Lexeme.token = s.tokens ++ [.eof] := by
  obtain ⟨hn, hb⟩ := s.meets_bounded_iff.1 (s.meets_mono Requirement.lexical_implies_bounded h)
  exact (s.spells depth hn).scan_done hb line

/-- Where all names are valid and no factor and no label is the least number, the text of a program,
of an expression and of a statement at any depth is scanned to the tokens of the tree and the end of
input, on whatever line it starts. -/
theorem scan_text_tokens :
    (∀ (p : Program) (line : Nat), p.Meets .lexical → ∃ ls n,
      scan line p.text = .done ls n ∧ ls.map Lexeme.token = p.tokens ++ [.eof]) ∧
    (∀ (e : Expr) (line : Nat), e.Meets .lexical → ∃ ls n,
      scan line e.text = .done ls n ∧ ls.map Lexeme.token = e.tokens ++ [.eof]) ∧
    ∀ (s : Stmt) (depth line : Nat), s.Meets .lexical → ∃ ls n,
      scan line (s.textAt depth) = .done ls n ∧ ls.map Lexeme.token = s.tokens ++ [.eof] :=
  ⟨fun p line h => p.scan_text h line, fun e line h => e.scan_text h line,
    fun s depth line h => s.scan_textAt h depth line⟩

/-- A branch that is put between `begin` and `end`, an arm without labels, an access without
indices, and a sign before a negative number. -/
theorem scan_text_tokens_empty :
    let name (x : String) : Expr := (Factor.ident x).toExpr
    let choice : Stmt := .caseOf (name "x") [⟨[], .empty⟩, ⟨[.number (-7), .nil], .compound []⟩]
    let p : Program := ⟨[.ifThenElse (name "a") (.ifThen (name "b") .empty) (.call "q" []), .empty]⟩
    let e : Expr := .simple ⟨some .minus, (Factor.number (-5)).toTerm,
      [(.or, (Factor.not (.designator ⟨"y", [.deref, .index []]⟩)).toTerm)]⟩
    p.Meets .lexical ∧ e.Meets .lexical ∧ choice.Meets .lexical ∧
      (∃ ls n, scan 1 p.text = .done ls n ∧ ls.map Lexeme.token =
        [.keyword .if, .ident "a", .keyword .then, .keyword .begin, .keyword .if, .ident "b",
          .keyword .then, .keyword .end, .keyword .else, .ident "q", .symbol .semicolon, .eof]) ∧
      (∃ ls n, scan 1 e.text = .done ls n ∧ ls.map Lexeme.token =
        [.symbol .minus, .symbol .leftParen, .symbol .minus, .number 5, .symbol .rightParen,
          .keyword .or, .keyword .not, .ident "y", .symbol .caret, .symbol .leftBracket,
          .symbol .rightBracket, .eof]) ∧
      ∃ ls n, scan 1 (choice.textAt 3) = .done ls n ∧ ls.map Lexeme.token =
        [.keyword .case, .ident "x", .keyword .of, .symbol .colon, .symbol .semicolon,
          .symbol .minus, .number 7, .symbol .comma, .keyword .nil, .symbol .colon,
          .keyword .begin, .keyword .end, .keyword .end, .eof] := by
  intro name choice p e
  have hname {x : String} (h : Name.isValid x.toList = true) : (name x).Meets .lexical :=
    ⟨⟨h, trivial⟩, trivial⟩
  have hp : p.Meets .lexical :=
    ⟨trivial, ⟨hname (by decide +kernel), trivial,
      ⟨hname (by decide +kernel), trivial⟩, (by decide +kernel : Name.isValid _ = true), trivial⟩,
      trivial, trivial⟩
  have he : e.Meets .lexical :=
    ⟨⟨(by decide : (-5 : Int64) ≠ Int64.minValue), trivial⟩,
      ⟨⟨trivial, (by decide +kernel : Name.isValid _ = true), trivial, ⟨trivial, trivial⟩, trivial⟩,
        trivial⟩, trivial⟩
  have hlabels : ∀ l ∈ [Label.number (-7), .nil], l.Meets .lexical := by
    simp only [List.forall_mem_cons, List.not_mem_nil, false_implies, implies_true, and_true]
    exact ⟨(by decide : (-7 : Int64) ≠ Int64.minValue), trivial⟩
  have hchoice : choice.Meets .lexical :=
    ⟨hname (by decide +kernel), ⟨trivial, nofun, trivial⟩, ⟨trivial, hlabels, trivial, trivial⟩,
      trivial⟩
  obtain ⟨hprogram, hexpr, hstmt⟩ := scan_text_tokens
  exact ⟨hp, he, hchoice, hprogram p 1 hp, hexpr e 1 he, hstmt choice 3 1 hchoice⟩

end MiniPascal
