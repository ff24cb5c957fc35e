import MiniPascal.Proofs.Parser.Recursion
import MiniPascal.Proofs.Renaming

/-!
# The parsers do not look at names

A parser that is given other names reads the same tree with these names, or fails at the same place
with the same error, but for the name in the text of the token that was found. This holds of any
change of names, since no decision of a parser depends on one: that a token is a name is all it
asks.

`Renames f r p q` says that `q` does with the names changed by `f` what `p` does, the value being
changed by `r`. It is kept by sequences, by repetitions and by the recursion of the grammar, so each
parser of the grammar renames to itself (`Parser.Renames.program`). Unlike `Parser.Alike`, which
compares runs on the same tokens, it needs no bound on the lexemes: a renaming keeps their number.
-/

namespace MiniPascal

/-- The second error is the first one with the name changed in the token that was found. An error
that points at no line tells of no token. -/
inductive Error.Renamed (f : String → String) : Error → Error → Prop
  | mismatch (expected) (t : Token) (line) :
      Renamed f (.mismatch expected t.text line) (.mismatch expected (t.rename f).text line)
  | unexpectedToken (t : Token) (line) :
      Renamed f (.unexpectedToken t.text line) (.unexpectedToken (t.rename f).text line)
  | unlocated {e} : e.line? = none → Renamed f e e

/-- The second outcome is the first one with names changed by `f`, and the value by `r`. -/
inductive Outcome.Renamed {α : Type} (f : String → String) (r : α → α) :
    Outcome Cursor α → Outcome Cursor α → Prop
  | done (a c) : Renamed f r (.done a c) (.done (r a) (c.rename f))
  | stop {e e'} (c) : Error.Renamed f e e' → Renamed f r (.stop e c) (.stop e' (c.rename f))

namespace Parser

/-- With names changed by `f`, the second parser does what the first one does without, and the value
is changed by `r`. -/
def Renames {α : Type} (f : String → String) (r : α → α) (p q : Parser α) : Prop :=
  ∀ c : Cursor, (p c).Renamed f r (q (c.rename f))

namespace Renames

section
variable {α β : Type} {f : String → String} {r : α → α} {r' : β → β}

/-! ## Steps -/

/-- A value is given without a look at the input, so it need only be renamed itself. -/
theorem pure {a b : α} (h : r a = b) : Renames f r (pure a) (pure b) :=
  fun c => h ▸ .done a c

/-- An error that tells of no token is kept. -/
theorem fail {e : Error} (he : e.line? = none) : Renames f r (Run.fail e) (Run.fail e) :=
  fun c => .stop c (.unlocated he)

/-- An error about the token at the cursor tells of the renamed token. -/
theorem mismatch (expected : String) :
    Renames f r (Parser.mismatch expected) (Parser.mismatch expected) := by
  intro c
  rw [Parser.mismatch, Parser.mismatch, Cursor.token_rename, Cursor.line_rename]
  exact .stop c (.mismatch expected c.token c.line)

/-- An error about a token after the program tells of the renamed token. -/
theorem unexpected : Renames f r Parser.unexpected Parser.unexpected := by
  intro c
  rw [Parser.unexpected, Parser.unexpected, Cursor.token_rename, Cursor.line_rename]
  exact .stop c (.unexpectedToken c.token c.line)

/-- The token that is seen is renamed. -/
theorem token : Renames f (Token.rename f) Parser.token Parser.token := by
  intro c
  rw [token_apply, token_apply, Cursor.token_rename]
  exact .done c.token c

/-- The token that is seen ahead is renamed. -/
theorem nextToken : Renames f (Token.rename f) Parser.nextToken Parser.nextToken := by
  intro c
  rw [Parser.nextToken, Parser.nextToken, Cursor.advance_rename, Cursor.token_rename]
  exact .done c.advance.token c

/-- Going on by a lexeme is the same for all names. -/
theorem advance : Renames f id Parser.advance Parser.advance := by
  intro c
  rw [Parser.advance, Parser.advance, Cursor.advance_rename]
  exact .done () c.advance

/-- Parsers one after the other, where the second is told the value of the first. -/
theorem bind {p q : Parser α} {g k : α → Parser β} (h : Renames f r p q)
    (hg : ∀ a, Renames f r' (g a) (k (r a))) : Renames f r' (p >>= g) (q >>= k) := by
  intro c
  have hc := h c
  rw [Run.bind_apply, Run.bind_apply]
  generalize p c = o, q (c.rename f) = o' at hc
  cases hc with
  | done a d => exact hg a d
  | stop d he => exact .stop d he

/-- A parser whose value is changed. -/
theorem map {p q : Parser α} {g k : α → β} (h : Renames f r p q) (hg : ∀ a, r' (g a) = k (r a)) :
    Renames f r' (g <$> p) (k <$> q) :=
  h.bind fun a => .pure (hg a)

/-- A decision that comes out the same for all names. -/
theorem ite {P Q : Prop} [Decidable P] [Decidable Q] {p q p' q' : Parser α} (hPQ : P ↔ Q)
    (h : Renames f r p q) (h' : Renames f r p' q') :
    Renames f r (if P then p else p') (if Q then q else q') := by
  by_cases hP : P
  · rwa [if_pos hP, if_pos (hPQ.1 hP)]
  · rwa [if_neg hP, if_neg (mt hPQ.2 hP)]

/-- A symbol is expected whatever the names are. -/
theorem expectSymbol (s : Symbol) :
    Renames f id (expect (.symbol s)) (expect (.symbol s)) :=
  .bind .token fun _ => .ite Token.rename_eq_symbol_iff.symm .advance (.mismatch _)

/-- A keyword is expected whatever the names are. -/
theorem expectKeyword (k : Keyword) :
    Renames f id (expect (.keyword k)) (expect (.keyword k)) :=
  .bind .token fun _ => .ite Token.rename_eq_keyword_iff.symm .advance (.mismatch _)

/-- A symbol is accepted whatever the names are. -/
theorem acceptSymbol (s : Symbol) :
    Renames f id (accept (.symbol s)) (accept (.symbol s)) :=
  .bind .token fun _ =>
    .ite Token.rename_eq_symbol_iff.symm (.bind .advance fun _ => .pure rfl) (.pure rfl)

/-- A keyword is accepted whatever the names are. -/
theorem acceptKeyword (k : Keyword) :
    Renames f id (accept (.keyword k)) (accept (.keyword k)) :=
  .bind .token fun _ =>
    .ite Token.rename_eq_keyword_iff.symm (.bind .advance fun _ => .pure rfl) (.pure rfl)

/-- A name has no meaning for `op?`. -/
theorem take? {op? : Token → Option α} (h : ∀ x, op? (.ident x) = none) :
    Renames f id (Parser.take? op?) (Parser.take? op?) :=
  .bind .token fun t => by
    have ht : op? (t.rename f) = op? t := by
      cases t with
      | ident x => rw [Token.rename, h, h]
      | number | keyword | symbol | eof => rfl
    rw [ht]
    cases op? t with
    | some a => exact .bind .advance fun _ => .pure rfl
    | none => exact .pure rfl

/-- The name that is read is renamed. -/
theorem ident : Renames f f Parser.ident Parser.ident :=
  .bind .token fun t => by
    cases t with
    | ident x => exact .bind .advance fun _ => .pure rfl
    | number | keyword | symbol | eof => exact .mismatch _

/-! ## Repetition and recursion -/

/-- A repetition renames every item; as many lexemes are left with the other names, so it ends in
the same round. -/
theorem many {next next' : Parser (Option α)} (h : Renames f (Option.map r) next next') :
    Renames f (List.map r) (Parser.many next) (Parser.many next') := by
  intro c
  -- on the number of lexemes left, which is the same on both sides
  induction hk : c.remaining using Nat.strongRecOn generalizing c with
  | ind k ih =>
    subst hk
    have hc := h c
    generalize hn : next c = o, hn' : next' (c.rename f) = o' at hc
    cases hc with
    | stop m he =>
      rw [many_of_stop hn, many_of_stop hn']
      exact .stop m he
    | done a m =>
      cases a with
      | none =>
        rw [many_of_none hn, many_of_none hn']
        exact .done [] m
      | some a =>
        by_cases hlt : m.remaining < c.remaining
        · have hm := ih m.remaining hlt m rfl
          rw [many_of_some hn hlt, many_of_some hn' hlt]
          generalize Parser.many next m = u, Parser.many next' (m.rename f) = u' at hm
          cases hm with
          | done as d => exact .done (a :: as) d
          | stop d he => exact .stop d he
        · rw [many_of_stuck hn hlt, many_of_stuck hn' hlt]
          exact .done [a] m

/-- A recursive parser renames if its body does: both recursions are cut off at the same places. -/
theorem fix {body : Parser α → Parser α}
    (hbody : ∀ p q, Renames f r p q → Renames f r (body p) (body q)) :
    Renames f r (Parser.fix body) (Parser.fix body) := by
  intro c
  induction hk : c.remaining using Nat.strongRecOn generalizing c with
  | ind k ih =>
    subst hk
    rw [Parser.fix, Run.fix, Run.fix]
    refine hbody _ _ (fun d => ?_) c
    -- the recursion is cut off at the same places on both sides
    by_cases hlt : d.remaining < c.remaining
    · have hd := ih d.remaining hlt d rfl
      simpa [hlt, Parser.fix] using hd
    · simpa [hlt] using unexpected d

/-- A list with separators renames every item. -/
theorem separated {p q : Parser α} (sep : Symbol) (h : Renames f r p q) :
    Renames f (List.map r) (Parser.separated sep p) (Parser.separated sep q) :=
  .bind h fun _ =>
    .bind (.many <| .bind (.acceptSymbol _) fun _ =>
      .ite Iff.rfl (.map h fun _ => rfl) (.pure rfl)) fun _ => .pure rfl

/-- Operands rename if no operator is a name. -/
theorem operands {p q : Parser α} {op? : Token → Option β} (hop : ∀ x, op? (.ident x) = none)
    (h : Renames f r p q) :
    Renames f (List.map (Prod.map id r)) (Parser.operands op? p) (Parser.operands op? q) :=
  .many <| .bind (.take? hop) fun o => by
    cases o with
    | some op => exact .bind h fun _ => .pure rfl
    | none => exact .pure rfl

end

/-! ## Expressions -/

section
variable {f : String → String} {p q : Parser Factor}

/-- Terms rename if factors do. -/
theorem termOf (h : Renames f (Factor.rename f) p q) :
    Renames f (Term.rename f) (Parser.termOf p) (Parser.termOf q) :=
  .bind h fun _ => .bind (.operands (fun _ => rfl) h) fun _ => .pure <| by
    rw [Term.rename, Term.renameRest_eq_map]

/-- Simple expressions rename if factors do. -/
theorem simpleOf (h : Renames f (Factor.rename f) p q) :
    Renames f (SimpleExpr.rename f) (Parser.simpleOf p) (Parser.simpleOf q) :=
  .bind (.take? fun _ => rfl) fun _ => .bind (.termOf h) fun _ =>
    .bind (.operands (fun _ => rfl) (.termOf h)) fun _ => .pure <| by
      rw [SimpleExpr.rename, SimpleExpr.renameRest_eq_map, id]

/-- Expressions rename if factors do. -/
theorem expressionOf (h : Renames f (Factor.rename f) p q) :
    Renames f (Expr.rename f) (Parser.expressionOf p) (Parser.expressionOf q) :=
  .bind (.simpleOf h) fun _ => .bind (.take? fun _ => rfl) fun o => by
    cases o with
    | some op => exact .bind (.simpleOf h) fun _ => .pure rfl
    | none => exact .pure rfl

end

section
variable {f : String → String} {p q : Parser Expr}

/-- The test for an empty list of indices does not look at names. -/
theorem ofIndices (indices : List Expr) : Renames f (Selector.rename f)
    (Run.ofExcept (Selector.ofIndices indices))
    (Run.ofExcept (Selector.ofIndices (indices.map (Expr.rename f)))) := by
  cases indices with
  | nil => exact .fail rfl
  | cons e es => exact .pure (by rw [Selector.rename, Expr.renameList_eq_map, List.map_cons])

/-- Access steps rename if expressions do. -/
theorem selectorOf? (h : Renames f (Expr.rename f) p q) :
    Renames f (Option.map (Selector.rename f)) (Parser.selectorOf? p) (Parser.selectorOf? q) :=
  .bind .token fun t => by
    cases t with
    | symbol s =>
      cases s with
      | dot =>
        refine .bind .nextToken fun t => ?_
        cases t with
        | ident => exact .bind .advance fun _ => .bind .advance fun _ => .pure rfl
        | number | keyword | symbol | eof => exact .pure rfl
      | leftBracket =>
        exact .bind .advance fun _ => .bind (.separated _ h) fun _ =>
          .bind (.expectSymbol _) fun _ => .bind (.ofIndices _) fun _ => .pure rfl
      | caret => exact .bind .advance fun _ => .pure rfl
      | _ => exact .pure rfl
    | ident | number | keyword | eof => exact .pure rfl

/-- Arguments rename if expressions do. -/
theorem argumentsOf (h : Renames f (Expr.rename f) p q) :
    Renames f (List.map (Expr.rename f)) (Parser.argumentsOf p) (Parser.argumentsOf q) :=
  .bind (.expectSymbol _) fun _ => .bind (.acceptSymbol _) fun _ => .ite Iff.rfl (.pure rfl) <|
    .bind (.separated _ h) fun _ => .bind (.expectSymbol _) fun _ => .pure rfl

/-- What begins with a name begins with the new name. -/
theorem namedOf (h : Renames f (Expr.rename f) p q) (x : String) :
    Renames f (Factor.rename f) (Parser.namedOf p x) (Parser.namedOf q (f x)) :=
  .bind .token fun _ => .ite Token.rename_eq_symbol_iff.symm
    (.bind (.argumentsOf h) fun _ => .pure (by rw [Factor.rename, Expr.renameList_eq_map]))
    (.bind (.many (.selectorOf? h)) fun _ => .pure <| by
      rw [List.isEmpty_map, apply_ite (Factor.rename f), Factor.rename, Factor.rename,
        Designator.rename, Selector.renameList_eq_map])

end

section
variable {f : String → String}

/-- Factors rename if the factors in them do. -/
theorem factorOf {p q : Parser Factor} (h : Renames f (Factor.rename f) p q) :
    Renames f (Factor.rename f) (Parser.factorOf p) (Parser.factorOf q) :=
  .bind .token fun t => by
    cases t with
    | ident x => exact .bind .advance fun _ => .namedOf (.expressionOf h) x
    | number => exact .bind .advance fun _ => .pure rfl
    | keyword k =>
      cases k with
      | true | false | nil => exact .bind .advance fun _ => .pure rfl
      | not => exact .bind .advance fun _ => .bind h fun _ => .pure rfl
      | _ => exact .mismatch _
    | symbol s =>
      cases s with
      | leftParen =>
        exact .bind .advance fun _ => .bind (.expressionOf h) fun _ =>
          .bind (.expectSymbol _) fun _ => .pure rfl
      | _ => exact .mismatch _
    | eof => exact .mismatch _

/-- The parser of factors renames. -/
theorem factor : Renames f (Factor.rename f) Parser.factor Parser.factor :=
  .fix fun _ _ h => factorOf h

/-- The parser of expressions renames. -/
theorem expression : Renames f (Expr.rename f) Parser.expression Parser.expression :=
  .expressionOf factor

end

/-! ## Statements -/

/-- Labels rename: a word that is a label is a name. -/
theorem label {f : String → String} : Renames f (Label.rename f) Parser.label Parser.label :=
  .bind (.take? fun _ => rfl) fun o => .bind .token fun t => by
    have hread (l : Label) : Renames f (Label.rename f) (do Parser.advance; return l)
        (do Parser.advance; return l.rename f) :=
      .bind .advance fun _ => .pure rfl
    obtain _ | _ | _ := o <;> cases t with
    | number n =>
      first
      | exact hread (.number n)
      | exact .ite Iff.rfl (.fail rfl) (hread (.number (-n)))
    | ident x => first | exact hread (.ident x) | exact .mismatch _
    | keyword k =>
      cases k with
      | true => first | exact hread (.bool true) | exact .mismatch _
      | false => first | exact hread (.bool false) | exact .mismatch _
      | nil => first | exact hread .nil | exact .mismatch _
      | _ => exact .mismatch _
    | symbol | eof => exact .mismatch _

section
variable {f : String → String} {p q : Parser Stmt}

/-- Arms of a case statement rename if statements do. -/
theorem armOf (h : Renames f (Stmt.rename f) p q) :
    Renames f (CaseArm.rename f) (Parser.armOf p) (Parser.armOf q) :=
  .bind (.separated _ .label) fun _ => .bind (.expectSymbol _) fun _ => .bind h fun _ => .pure rfl

/-- The arms of a case statement rename, since neither `end` nor a semicolon is a name. -/
theorem armsOf (h : Renames f (Stmt.rename f) p q) :
    Renames f (List.map (CaseArm.rename f)) (Parser.armsOf p) (Parser.armsOf q) :=
  .bind .token fun _ => .ite Token.rename_eq_keyword_iff.symm (.pure rfl) <|
    .bind (.armOf h) fun _ =>
      .bind (.many <| .bind (.acceptSymbol _) fun _ => .ite Iff.rfl
        (.bind .token fun _ => .ite Token.rename_eq_keyword_iff.symm (.pure rfl)
          (.map (.armOf h) fun _ => rfl)) (.pure rfl)) fun _ => .pure rfl

/-- A statement that begins with a name begins with the new name. -/
theorem namedStatement (x : String) :
    Renames f (Stmt.rename f) (Parser.namedStatement x) (Parser.namedStatement (f x)) :=
  .bind (.many (.selectorOf? .expression)) fun ss => .bind .token fun t =>
    .ite (by simp)
      (.bind (.expectSymbol _) fun _ => .bind .expression fun _ => .pure (by
        rw [Stmt.rename, Designator.rename, Selector.renameList_eq_map])) <|
    .bind .token fun _ => .ite Token.rename_eq_symbol_iff.symm
      (.bind (.argumentsOf .expression) fun _ => .pure (by
        rw [Stmt.rename, Expr.renameList_eq_map]))
      (.pure rfl)

/-- `if` statements rename if statements do. -/
theorem conditionalOf (h : Renames f (Stmt.rename f) p q) :
    Renames f (Stmt.rename f) (Parser.conditionalOf p) (Parser.conditionalOf q) :=
  .bind .expression fun _ => .bind (.expectKeyword _) fun _ => .bind h fun _ =>
    .bind (.acceptKeyword _) fun _ => .ite Iff.rfl (.bind h fun _ => .pure rfl) (.pure rfl)

/-- Case statements rename if statements do. -/
theorem caseOf (h : Renames f (Stmt.rename f) p q) :
    Renames f (Stmt.rename f) (Parser.caseOf p) (Parser.caseOf q) :=
  .bind .expression fun _ => .bind (.expectKeyword _) fun _ => .bind (.armsOf h) fun _ =>
    .bind (.expectKeyword _) fun _ => .pure (by rw [Stmt.rename, CaseArm.renameList_eq_map])

/-- `while` loops rename if statements do. -/
theorem whileOf (h : Renames f (Stmt.rename f) p q) :
    Renames f (Stmt.rename f) (Parser.whileOf p) (Parser.whileOf q) :=
  .bind .expression fun _ => .bind (.expectKeyword _) fun _ => .bind h fun _ => .pure rfl

/-- `repeat` loops rename if statements do. -/
theorem repeatOf (h : Renames f (Stmt.rename f) p q) :
    Renames f (Stmt.rename f) (Parser.repeatOf p) (Parser.repeatOf q) :=
  .bind (.separated _ h) fun _ => .bind (.expectKeyword _) fun _ => .bind .expression fun _ =>
    .pure (by rw [Stmt.rename, Stmt.renameList_eq_map])

/-- `for` loops rename, with their counters, if statements do. -/
theorem forOf (h : Renames f (Stmt.rename f) p q) :
    Renames f (Stmt.rename f) (Parser.forOf p) (Parser.forOf q) :=
  .bind .ident fun _ => .bind (.expectSymbol _) fun _ => .bind .expression fun _ =>
    .bind (.take? fun _ => rfl) fun o => by
      cases o with
      | some direction =>
        exact .bind .expression fun _ => .bind (.expectKeyword _) fun _ => .bind h fun _ =>
          .pure rfl
      | none => exact .mismatch _

/-- The name that `new` or `dispose` works on is renamed. -/
theorem memoryOf (kind : MemoryKind) :
    Renames f (Stmt.rename f) (Parser.memoryOf kind) (Parser.memoryOf kind) :=
  .bind (.expectSymbol _) fun _ => .bind .ident fun _ => .bind (.expectSymbol _) fun _ => .pure rfl

/-- Compound statements rename if statements do. -/
theorem compoundOf (h : Renames f (Stmt.rename f) p q) :
    Renames f (Stmt.rename f) (Parser.compoundOf p) (Parser.compoundOf q) :=
  .bind (.separated _ h) fun _ => .bind (.expectKeyword _) fun _ =>
    .pure (by rw [Stmt.rename, Stmt.renameList_eq_map])

/-- Statements rename if the statements in them do: the keyword or name at the front decides between
them, and which name it is does not. -/
theorem statementOf (h : Renames f (Stmt.rename f) p q) :
    Renames f (Stmt.rename f) (Parser.statementOf p) (Parser.statementOf q) :=
  .bind .token fun t => by
    cases t with
    | ident x => exact .bind .advance fun _ => .namedStatement x
    | keyword k =>
      cases k with
      | begin => exact .bind .advance fun _ => .compoundOf h
      | «if» => exact .bind .advance fun _ => .conditionalOf h
      | case => exact .bind .advance fun _ => .caseOf h
      | «while» => exact .bind .advance fun _ => .whileOf h
      | «repeat» => exact .bind .advance fun _ => .repeatOf h
      | «for» => exact .bind .advance fun _ => .forOf h
      | new | dispose => exact .bind .advance fun _ => .memoryOf _
      | _ => exact .pure rfl
    | number | symbol | eof => exact .pure rfl

end

section
variable {f : String → String}

/-- The parser of statements renames. -/
theorem statement : Renames f (Stmt.rename f) Parser.statement Parser.statement :=
  .fix fun _ _ h => statementOf h

/-- The parser of programs reads the program with the names it is given. -/
theorem program : Renames f (Program.rename f) Parser.program Parser.program :=
  .bind (.separated _ .statement) fun _ => .bind (.acceptSymbol _) fun _ => .bind .token fun _ =>
    .ite Token.rename_eq_eof_iff.symm (.pure (by rw [Program.rename, Stmt.renameList_eq_map]))
      .unexpected

end

end Renames

end Parser

end MiniPascal
