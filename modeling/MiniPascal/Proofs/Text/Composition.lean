import MiniPascal.Proofs.Text.Concatenation
import MiniPascal.Proofs.Text.Reading

/-!
# Texts composed of texts

What is read from a text alone is read from it also inside a larger text: programs one after the
other with a semicolon between them, a program between `begin` and `end` or before the final dot, an
expression in parentheses (`parse_composed`).

The characters at the seams are no part of a longer lexeme (`Separates`), so the tokens of the parts
are the tokens of the whole (`Splits.scans_append`). The grammar composes the derivations of the
parts in the same way. That nothing before a seam takes up what follows it rests on the parser being
exact for the grammar: no statement goes on with a semicolon, an `end` or a last dot.
-/

namespace MiniPascal

/-- The last token before the end of input, if the text can be scanned and holds a token. -/
def lastToken? (source : String) : Option Token :=
  match scan 1 source with
  | .done ls _ => ls.dropLast.getLast?.map Lexeme.token
  | .stop _ _ => none

/-! ## The tokens of the whole -/

section
variable {c : Char} {cs more rest : List Char} {ts us : List Token}

/-- A symbol's character is part of no other lexeme if it is part of no other symbol. -/
theorem Separates.of_symbol (hpart : Name.isPart c = false)
    (hsymbol : ∀ s : Symbol, c ∈ s.spelling.toList → s.spelling.toList = [c])
    (hopen : c ∉ ['(', '*']) : Separates c where
  alone {w} hw hmem := by
    have not_start {d : Char} (hd : Name.isStart d = true) : d ≠ c := by
      rintro rfl
      cases hpart.symm.trans (isPart_of_isStart hd)
    have not_digit {d : Char} (hd : d.isDigit = true) : d ≠ c := by
      rintro rfl
      cases hpart.symm.trans (isPart_of_isDigit hd)
    obtain ⟨a, w, rfl⟩ := List.exists_cons_of_ne_nil hw.ne_nil
    rcases hw.cases_cons with ⟨ha, hw⟩ | ⟨ha, hw⟩ | ⟨s, hs⟩
    · rcases List.mem_cons.1 hmem with rfl | hmem
      · exact absurd rfl (not_start ha)
      · cases hpart.symm.trans (hw c hmem)
    · rcases List.mem_cons.1 hmem with rfl | hmem
      · exact absurd rfl (not_digit ha)
      · exact absurd rfl (not_digit (hw c hmem))
    · rw [← hs] at hmem ⊢
      exact hsymbol s hmem
  noOpener := hopen

/-- No longer symbol has a semicolon in it. -/
theorem separates_semicolon : Separates ';' :=
  .of_symbol (by decide +kernel) (by intro s; cases s <;> decide) (by decide)

/-- No longer symbol has a dot in it. -/
theorem separates_dot : Separates '.' :=
  .of_symbol (by decide +kernel) (by intro s; cases s <;> decide) (by decide)

/-- No longer symbol has a closing parenthesis in it. Only a comment ends with one, and that begins
with another character. -/
theorem separates_rightParen : Separates ')' :=
  .of_symbol (by decide +kernel) (by intro s; cases s <;> decide) (by decide)

/-- A text that is split to its end is split in the same way as far as a separating character after
it. -/
theorem Splits.append (h : Splits cs ts rest) (hrest : rest = []) (hc : Separates c)
    (more : List Char) : Splits (cs ++ c :: more) ts (c :: more) := by
  induction h with
  | done rest =>
    subst hrest
    exact .done _
  | trivia hw _ ih =>
    rw [List.append_assoc]
    exact .trivia hw (ih hrest)
  | lexeme hw ht _ ih =>
    rw [List.append_assoc]
    exact .lexeme (hw.append hc) ht (ih hrest)

/-- A text is scanned to the tokens of a split, and then to those of the rest. -/
theorem Splits.scans_rest (h : Splits cs ts rest) (hs : Scans rest us) : Scans cs (ts ++ us) := by
  induction h with
  | done => exact hs
  | trivia hw _ ih => exact .of_gap hw.first (ih hs)
  | lexeme hw ht _ ih => exact .of_lexeme (hw.first ht) (ih hs)

/-- The tokens of a text that is split to its end, and after a separating character the tokens of
what follows. -/
theorem Splits.scans_append (h : Splits cs ts []) (hc : Separates c) (hs : Scans (c :: more) us) :
    Scans (cs ++ c :: more) (ts ++ us) :=
  (h.append rfl hc more).scans_rest hs

/-- A text that is split to its end is scanned to the tokens of the split. -/
theorem Splits.scans (h : Splits cs ts []) : Scans cs (ts ++ [.eof]) :=
  h.scans_rest .nil

end

/-! ## The trees of the whole -/

section
variable {source : String} {ts : List Token}

/-- A text is scanned to its tokens where the least number is not among them. -/
theorem Scans.scan_done (hs : Scans source.toList (ts ++ [.eof])) (hb : Token.Bounded ts) :
    ∃ ls n, scan 1 source = .done ls n ∧ ls.map Lexeme.token = ts ++ [.eof] :=
  hs.done (Token.bounded_append.2 ⟨hb, by simp⟩) 1

/-- A text with the tokens of a program is read as the program. -/
theorem Program.parse_of_scans {p : Program} (hs : Scans source.toList (ts ++ [.eof]))
    (hb : Token.Bounded ts) (hd : p.Derives ts) (hn : p.NearestElse) :
    Program.parse source = .ok p := by
  obtain ⟨ls, n, hscan, hls⟩ := hs.scan_done hb
  exact Program.parse_eq_ok_iff.2 ⟨ls, n, ts, hscan, hls, allLexical_of_scan hscan hls, hd, hn⟩

/-- A text with the tokens of an expression is read as the expression. -/
theorem Expr.parse_of_scans {e : Expr} (hs : Scans source.toList (ts ++ [.eof]))
    (hb : Token.Bounded ts) (hd : e.Derives ts) : Expr.parse source = .ok e := by
  obtain ⟨ls, n, hscan, hls⟩ := hs.scan_done hb
  exact Expr.parse_eq_ok_iff.2 ⟨ls, n, ts, hscan, hls, allLexical_of_scan hscan hls, hd⟩

/-- The tokens of a scan are those of a split. -/
theorem splits_of_scan {ls : List Lexeme} {n : Nat} (hs : scan 1 source = .done ls n)
    (hls : ls.map Lexeme.token = ts ++ [.eof]) : Splits source.toList ts [] := by
  obtain ⟨us, hus, heq⟩ := scan_done_iff.1 ⟨ls, n, hs, hls⟩
  obtain ⟨rfl, -⟩ := List.append_inj' heq rfl
  exact hus

/-- No token of a split is the least number. -/
theorem Splits.bounded {cs rest : List Char} (h : Splits cs ts rest) : Token.Bounded ts := by
  induction h with
  | done => exact Token.bounded_nil
  | trivia _ _ ih => exact ih
  | lexeme _ ht _ ih =>
    refine Token.bounded_cons.2 ⟨?_, ih⟩
    rintro rfl
    cases ht with
    | number _ _ hn =>
      have hnonneg : 0 ≤ Int64.minValue.toInt := hn ▸ Int.natCast_nonneg _
      exact absurd hnonneg (by decide)

/-- A program that was read is derived from the tokens of its text. -/
theorem Program.splits_of_parse {p : Program} (h : Program.parse source = .ok p) :
    ∃ ts, Splits source.toList ts [] ∧ p.Derives ts ∧ p.NearestElse := by
  obtain ⟨ls, n, ts, hs, hls, -, hd⟩ := Program.parse_eq_ok_iff.1 h
  exact ⟨ts, splits_of_scan hs hls, hd⟩

/-- An expression that was read is derived from the tokens of its text. -/
theorem Expr.splits_of_parse {e : Expr} (h : Expr.parse source = .ok e) :
    ∃ ts, Splits source.toList ts [] ∧ e.Derives ts := by
  obtain ⟨ls, n, ts, hs, hls, -, hd⟩ := Expr.parse_eq_ok_iff.1 h
  exact ⟨ts, splits_of_scan hs hls, hd⟩

/-- The last token of a text is the last one of its split. -/
theorem lastToken?_of_splits (h : Splits source.toList ts []) :
    lastToken? source = ts.getLast? := by
  obtain ⟨ls, n, hscan, hls⟩ := h.scan_done 1
  obtain ⟨ks, ms, rfl, rfl, hms⟩ := List.map_eq_append_iff.1 hls
  obtain ⟨l, rfl, -⟩ := List.map_eq_singleton_iff.1 hms
  rw [lastToken?, scan, hscan]
  simp

/-- A program whose text does not end in a dot is derived from statements alone. -/
theorem Program.Derives.separated {p : Program} (h : p.Derives ts)
    (hdot : ts.getLast? ≠ some (.symbol .dot)) :
    Separated .semicolon Stmt.Derives p.body ts := by
  cases h with
  | plain h => exact h
  | dotted h => exact absurd List.getLast?_concat hdot

end

/-- The statements of two programs one after the other. -/
theorem Program.Derives.append {p q : Program} {ts us : List Token}
    (h : Separated .semicolon Stmt.Derives p.body ts) (h' : q.Derives us) :
    Program.Derives ⟨p.body ++ q.body⟩ (ts ++ .symbol .semicolon :: us) := by
  cases h' with
  | plain h' => exact .plain (h.append h')
  | dotted h' =>
    have hboth := Program.Derives.dotted (h.append h')
    rwa [List.append_assoc, List.cons_append] at hboth

/-- An `else` stays at the nearest `if` when programs follow one another. -/
theorem Program.NearestElse.append {p q : Program} (h : p.NearestElse) (h' : q.NearestElse) :
    Program.NearestElse ⟨p.body ++ q.body⟩ := by
  rw [Program.NearestElse, Stmt.nearestElseList_iff] at *
  exact List.forall_mem_append.2 ⟨h, h'⟩

/-- An expression in parentheses is a factor by itself. -/
theorem Expr.Derives.parenthesized {e : Expr} {ts : List Token} (h : e.Derives ts) :
    (Factor.paren e).toExpr.Derives (.symbol .leftParen :: (ts ++ [.symbol .rightParen])) := by
  have hterm : (Factor.paren e).toTerm.Derives
      (.symbol .leftParen :: (ts ++ [.symbol .rightParen]) ++ []) :=
    .mk (.paren h) .nil
  have hsimple := SimpleExpr.Derives.unsigned hterm .nil
  rw [List.append_nil, List.append_nil] at hsimple
  exact .simple hsimple

/-! ## How expressions begin -/

section
variable {ts : List Token}

/-- No factor begins with a star, so a parenthesis before it opens no comment. -/
theorem Factor.Derives.head_ne_star {f : Factor} (h : f.Derives ts) (us : List Token) :
    (ts ++ us).head? ≠ some (.symbol .multiply) := by
  cases h <;> simp

/-- No term begins with a star. -/
theorem Term.Derives.head_ne_star {t : Term} (h : t.Derives ts) (us : List Token) :
    (ts ++ us).head? ≠ some (.symbol .multiply) := by
  obtain ⟨h, -⟩ := h
  rw [List.append_assoc]
  exact h.head_ne_star _

/-- No simple expression begins with a star. -/
theorem SimpleExpr.Derives.head_ne_star {e : SimpleExpr} (h : e.Derives ts) (us : List Token) :
    (ts ++ us).head? ≠ some (.symbol .multiply) := by
  cases h with
  | unsigned h =>
    rw [List.append_assoc]
    exact h.head_ne_star _
  | @signed sign => cases sign <;> simp [Sign.token]

/-- An expression does not begin with a star, so a parenthesis before it opens no comment. -/
theorem Expr.Derives.head_ne_star {e : Expr} (h : e.Derives ts) (us : List Token) :
    (ts ++ us).head? ≠ some (.symbol .multiply) := by
  cases h with
  | simple h => exact h.head_ne_star _
  | comparison h =>
    rw [List.append_assoc]
    exact h.head_ne_star _

end

/-! ## Reading composed texts -/

section
variable {a b : String} {p q : Program}

/-- With a semicolon between them, two texts are read as their statements one after the other. -/
theorem Program.parse_semicolon (ha : Program.parse a = .ok p) (hb : Program.parse b = .ok q)
    (hdot : lastToken? a ≠ some (.symbol .dot)) :
    Program.parse (a ++ ";" ++ b) = .ok ⟨p.body ++ q.body⟩ := by
  obtain ⟨ts, hts, hp, hn⟩ := Program.splits_of_parse ha
  obtain ⟨us, hus, hq, hn'⟩ := Program.splits_of_parse hb
  rw [lastToken?_of_splits hts] at hdot
  have hs : Scans (';' :: b.toList) (.symbol .semicolon :: (us ++ [.eof])) :=
    .symbol .semicolon (fun _ _ => rfl) hus.scans
  have hs := hts.scans_append separates_semicolon hs
  refine Program.parse_of_scans ?_ ?_ (.append (hp.separated hdot) hq) (hn.append hn')
  · simpa using hs
  · simp [hts.bounded, hus.bounded]

/-- Between `begin` and `end` a text is read as the compound statement of its statements. -/
theorem Program.parse_compound (ha : Program.parse a = .ok p)
    (hdot : lastToken? a ≠ some (.symbol .dot)) :
    Program.parse ("begin " ++ a ++ " end") = .ok ⟨[.compound p.body]⟩ := by
  obtain ⟨ts, hts, hp, hn⟩ := Program.splits_of_parse ha
  rw [lastToken?_of_splits hts] at hdot
  have hend : Scans (' ' :: "end".toList) [.keyword .end, .eof] :=
    .blank (.keyword .end detached_nil .nil)
  have hs := hts.scans_append (.of_isBlank rfl) hend
  have hs : Scans ("begin".toList ++ ' ' :: (a.toList ++ ' ' :: "end".toList)) _ :=
    .keyword .begin (detached_cons rfl) hs.blank
  have hd : Stmt.Derives (.compound p.body) (.keyword .begin :: (ts ++ [.keyword .end])) :=
    .compound (hp.separated hdot)
  refine Program.parse_of_scans ?_ ?_ (.plain (.one hd)) ⟨hn, trivial⟩
  · simpa using hs
  · simp [hts.bounded]

/-- A final dot changes nothing. -/
theorem Program.parse_dot (ha : Program.parse a = .ok p)
    (hdot : lastToken? a ≠ some (.symbol .dot)) : Program.parse (a ++ ".") = .ok p := by
  obtain ⟨ts, hts, hp, hn⟩ := Program.splits_of_parse ha
  rw [lastToken?_of_splits hts] at hdot
  have hs : Scans ['.'] [.symbol .dot, .eof] := .symbol .dot (fun _ _ => rfl) .nil
  have hs := hts.scans_append separates_dot hs
  refine Program.parse_of_scans ?_ ?_ (.dotted (hp.separated hdot)) hn
  · simpa using hs
  · simp [hts.bounded]

end

/-- In parentheses the text of an expression is read as one factor. -/
theorem Expr.parse_parenthesized {source : String} {e : Expr} (h : Expr.parse source = .ok e) :
    Expr.parse ("(" ++ source ++ ")") = .ok (Factor.paren e).toExpr := by
  obtain ⟨ts, hts, he⟩ := Expr.splits_of_parse h
  have hs : Scans [')'] [.symbol .rightParen, .eof] :=
    .symbol .rightParen (fun _ _ => rfl) .nil
  have hs := hts.scans_append separates_rightParen hs
  have hs : Scans ('(' :: (source.toList ++ [')'])) _ :=
    .symbol .leftParen (hs.not_star (he.head_ne_star _)) hs
  refine Expr.parse_of_scans ?_ ?_ he.parenthesized
  · simpa using hs
  · simp [hts.bounded]

/-- Texts are read inside larger texts as they are alone. Where the last token of the text of a
program is no dot, a semicolon and another program may follow it, it may stand between `begin` and
`end`, and a dot may end it; and the text of an expression may stand in parentheses. -/
theorem parse_composed :
    (∀ a p, Program.parse a = .ok p → lastToken? a ≠ some (.symbol .dot) →
      (∀ b q, Program.parse b = .ok q →
        Program.parse (a ++ ";" ++ b) = .ok ⟨p.body ++ q.body⟩) ∧
      Program.parse ("begin " ++ a ++ " end") = .ok ⟨[.compound p.body]⟩ ∧
      Program.parse (a ++ ".") = .ok p) ∧
    ∀ source e, Expr.parse source = .ok e →
      Expr.parse ("(" ++ source ++ ")") = .ok (Factor.paren e).toExpr := by
  refine ⟨fun a p ha hdot => ⟨fun b q hb => ?_, ?_, ?_⟩, fun source e he => ?_⟩
  · exact Program.parse_semicolon ha hb hdot
  · exact Program.parse_compound ha hdot
  · exact Program.parse_dot ha hdot
  · exact Expr.parse_parenthesized he

/-- An open `if` before the seam takes nothing from behind it; a second program may end in a dot;
and a comment may stand where the parenthesis opens. -/
theorem parse_composed_if :
    let name (x : String) : Expr := (Factor.ident x).toExpr
    let p : Program := ⟨[.ifThen (name "a") (.assign ⟨"x", [.deref]⟩ (name "y"))]⟩
    let q : Program := ⟨[.call "z" [], .empty]⟩
    let e : Expr := (Factor.not (.ident "b")).toExpr
    Program.parse "if a then x^ := y" = .ok p ∧
      lastToken? "if a then x^ := y" ≠ some (.symbol .dot) ∧ Program.parse "z;." = .ok q ∧
      Program.parse ("if a then x^ := y" ++ ";" ++ "z;.") = .ok ⟨p.body ++ q.body⟩ ∧
      Program.parse ("begin " ++ "if a then x^ := y" ++ " end") = .ok ⟨[.compound p.body]⟩ ∧
      Program.parse ("if a then x^ := y" ++ ".") = .ok p ∧
      Expr.parse "(*no*)not b" = .ok e ∧
      Expr.parse ("(" ++ "(*no*)not b" ++ ")") = .ok (Factor.paren e).toExpr := by
  intro name p q e
  have hp : Program.parse "if a then x^ := y" = .ok p := by decide +kernel
  have hdot : lastToken? "if a then x^ := y" ≠ some (.symbol .dot) := by decide +kernel
  have hq : Program.parse "z;." = .ok q := by decide +kernel
  have he : Expr.parse "(*no*)not b" = .ok e := by decide +kernel
  obtain ⟨hprogram, hexpr⟩ := parse_composed
  obtain ⟨hsemicolon, hcompound, hend⟩ := hprogram _ p hp hdot
  exact ⟨hp, hdot, hq, hsemicolon _ q hq, hcompound, hend, he, hexpr _ e he⟩

end MiniPascal
