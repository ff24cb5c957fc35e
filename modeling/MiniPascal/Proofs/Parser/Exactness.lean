import Mathlib.Logic.ExistsUnique
import MiniPascal.Proofs.Parser.Completeness
import MiniPascal.Tree.Equality

/-!
# The parsers accept exactly the grammar

On a list of lexemes that ends with its only end of input, a parser returns a tree if and only if
the grammar derives the tokens before that end with the tree, where an `else` belongs to the nearest
`if`. So a list that is accepted has one such tree, and all its tokens are in the tree, in their
order.
-/

namespace MiniPascal

/-- Whether two results are the same can be computed. -/
instance resultDecidableEq {ε α : Type} [DecidableEq ε] [DecidableEq α] : DecidableEq (Except ε α)
  | .ok a, .ok b => decidable_of_iff (a = b) (by rw [Except.ok.injEq])
  | .error e, .error f => decidable_of_iff (e = f) (by rw [Except.error.injEq])
  | .ok _, .error _ | .error _, .ok _ => isFalse nofun

namespace Cursor

/-- There is one way to pass to the end of input. -/
theorem Passes.unique {c d e : Cursor} {ts us : List Token} (h : c.Passes ts d)
    (hd : d.token = .eof) (h' : c.Passes us e) (he : e.token = .eof) : ts = us ∧ d = e := by
  induction ts generalizing c us with
  | nil =>
    cases h
    cases us with
    | nil => exact ⟨rfl, h'.symm⟩
    | cons u us => exact absurd (h'.1.symm.trans hd) h'.2.1
  | cons t ts ih =>
    obtain ⟨ht, hne, h⟩ := h
    cases us with
    | nil =>
      cases h'
      exact absurd (ht.symm.trans he) hne
    | cons u us =>
      obtain ⟨hu, -, h'⟩ := h'
      obtain ⟨rfl, rfl⟩ := ih h h'
      exact ⟨by rw [← ht, ← hu], rfl⟩

/-- The tokens before the only end of input are passed from the first lexeme. -/
theorem passes_ofLexemes {ls : List Lexeme} {ts : List Token}
    (h : ls.map Lexeme.token = ts ++ [.eof]) (hts : .eof ∉ ts) :
    ∃ d, (ofLexemes ls).Passes ts d ∧ d.token = .eof := by
  obtain ⟨ks, ms, rfl, rfl, hms⟩ := List.map_eq_append_iff.1 h
  obtain ⟨l, rfl, hl⟩ := List.map_eq_singleton_iff.1 hms
  refine ⟨_, passes_before [l] _ fun k hk he => hts ?_, hl⟩
  exact he ▸ List.mem_map_of_mem hk

end Cursor

namespace Parser

section
variable {ls : List Lexeme} {ts : List Token}

/-- The parser of programs accepts the tokens that the grammar derives with each `else` at the
nearest `if`, and it returns the derived program. -/
theorem program_eq_ok_iff (h : ls.map Lexeme.token = ts ++ [.eof]) (hts : .eof ∉ ts)
    {p : Program} :
    (program (.ofLexemes ls)).toExcept = .ok p ↔ p.Derives ts ∧ p.NearestElse := by
  obtain ⟨d, hp, hd⟩ := Cursor.passes_ofLexemes h hts
  rw [Outcome.toExcept_eq_ok_iff]
  constructor
  · rintro ⟨e, hr⟩
    obtain ⟨us, hq, he, hderives, hnear⟩ := program_sound hr
    obtain ⟨rfl, -⟩ := hq.unique he hp hd
    exact ⟨hderives, hnear⟩
  · rintro ⟨hderives, hnear⟩
    exact ⟨d, hderives.reads hnear hp hd⟩

/-- The parser of whole expressions accepts the tokens that the grammar derives, and it returns the
derived expression. -/
theorem wholeExpression_eq_ok_iff (h : ls.map Lexeme.token = ts ++ [.eof]) (hts : .eof ∉ ts)
    {e : Expr} : (wholeExpression (.ofLexemes ls)).toExcept = .ok e ↔ e.Derives ts := by
  obtain ⟨d, hp, hd⟩ := Cursor.passes_ofLexemes h hts
  rw [Outcome.toExcept_eq_ok_iff]
  constructor
  · rintro ⟨k, hr⟩
    obtain ⟨us, hq, hk, hderives⟩ := wholeExpression_sound hr
    obtain ⟨rfl, -⟩ := hq.unique hk hp hd
    exact hderives
  · intro hderives
    exact ⟨d, hderives.reads_whole hp hd⟩

/-- A value that is accepted exactly if it satisfies a condition is the only one. -/
theorem exists_ok_iff_existsUnique {α : Type} {o : Except Error α} {P : α → Prop}
    (h : ∀ a, o = .ok a ↔ P a) : (∃ a, o = .ok a) ↔ ∃! a, P a := by
  constructor
  · rintro ⟨a, ha⟩
    refine ⟨a, (h a).1 ha, fun b hb => ?_⟩
    have hb := ((h b).2 hb).symm.trans ha
    cases hb
    rfl
  · rintro ⟨a, ha, -⟩
    exact ⟨a, (h a).2 ha⟩

/-- The parser of programs accepts the tokens before the only end of input with a tree if and only
if the grammar derives them with this tree and each `else` in it belongs to the nearest `if`; then
there is one such tree. The parser of expressions does the same for the grammar of expressions. -/
theorem accepts_exactly_grammar (h : ls.map Lexeme.token = ts ++ [.eof]) (hts : .eof ∉ ts) :
    (∀ p, (program (.ofLexemes ls)).toExcept = .ok p ↔ p.Derives ts ∧ p.NearestElse) ∧
    ((∃ p, (program (.ofLexemes ls)).toExcept = .ok p) ↔
      ∃! p : Program, p.Derives ts ∧ p.NearestElse) ∧
    (∀ e, (wholeExpression (.ofLexemes ls)).toExcept = .ok e ↔ e.Derives ts) ∧
    ((∃ e, (wholeExpression (.ofLexemes ls)).toExcept = .ok e) ↔ ∃! e : Expr, e.Derives ts) :=
  have hp _ := program_eq_ok_iff h hts
  have he _ := wholeExpression_eq_ok_iff h hts
  ⟨hp, exists_ok_iff_existsUnique hp, he, exists_ok_iff_existsUnique he⟩

/-- Of two `if` statements with one `else` there is one reading: the inner has it. -/
theorem accepts_nested_if :
    let ts : List Token := [.keyword .if, .ident "a", .keyword .then, .keyword .if, .ident "b",
      .keyword .then, .ident "c", .keyword .else, .ident "d"]
    let ls : List Lexeme := (ts ++ [Token.eof]).map fun t => ⟨t, 1⟩
    let e (x : String) : Expr := .simple ⟨none, ⟨.ident x, []⟩, []⟩
    let p : Program :=
      ⟨[.ifThen (e "a") (.ifThenElse (e "b") (.call "c" []) (.call "d" []))]⟩
    ls.map Lexeme.token = ts ++ [.eof] ∧ Token.eof ∉ ts ∧
      p.Derives ts ∧ p.NearestElse ∧ ∃! q : Program, q.Derives ts ∧ q.NearestElse := by
  intro ts ls e p
  have h : ls.map Lexeme.token = ts ++ [.eof] := rfl
  have hts : Token.eof ∉ ts := by decide
  obtain ⟨hp, hunique, -, -⟩ := accepts_exactly_grammar h hts
  have hok : (program (.ofLexemes ls)).toExcept = .ok p := by decide +kernel
  obtain ⟨hd, hn⟩ := (hp p).1 hok
  exact ⟨h, hts, hd, hn, hunique.1 ⟨p, hok⟩⟩

end

end Parser

end MiniPascal
