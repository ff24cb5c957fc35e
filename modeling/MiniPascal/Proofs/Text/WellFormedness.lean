import MiniPascal.Proofs.Parser.ErrorPosition
import MiniPascal.Proofs.Text.RoundTrip
import MiniPascal.Proofs.Text.Splitting

/-!
# What is read from a text

A source text is read as a well-formed tree or answered with an error about the text
(`read_wellFormed`). `Requirement.read` says in full what a tree that was read satisfies. No text
breaks off the run: its numbers are not negative, so the least number is never negated, and an array
access that was read has an index.
-/

namespace MiniPascal

/-- What every tree that was read satisfies: its names are words that spell no keyword in any letter
case, its numbers are in the range of their places, no list is empty that may not be, and an `else`
does not follow an open `if`. -/
def Requirement.read : Requirement where
  name x := Name.isWord x.toList = true ∧ ∀ k : Keyword, Keyword.foldCase x.toList ≠ k.word.toList
  literal n := 0 ≤ n.toInt ∧ n.toInt ≤ 0x7fffffffffffffff
  label n := -0x7fffffffffffffff ≤ n.toInt ∧ n.toInt ≤ 0x7fffffffffffffff
  labels ls := ls ≠ []
  indices es := es ≠ []
  selectors ss := ss ≠ []
  body ss := ss ≠ []
  branch s := s.endsOpen = false

/-- A well-formed tree satisfies, spelled out, what is said of a tree that was read. -/
theorem Requirement.wellFormed_implies_read : wellFormed.Implies read where
  name h := by
    obtain ⟨hword, hkeyword⟩ := Name.isValid_iff.1 h
    exact ⟨hword, Keyword.ofWord?_eq_none_iff.1 hkeyword⟩
  literal {n} h := ⟨h, Int.le_sub_one_of_lt n.toInt_lt⟩
  label {n} h := by
    have hne : n.toInt ≠ -2 ^ 63 := fun he => h (Int64.toInt_inj.1 he)
    have hle := n.le_toInt
    have hlt := n.toInt_lt
    constructor <;> omega
  labels := id
  indices := id
  selectors := id
  body := id
  branch := id

section
variable {source : String} {e : Error} {ts : List Token}

/-- The numbers of a text are not negative. -/
theorem Token.AllLexical.nonneg (h : AllLexical ts) : ∀ n, .number n ∈ ts → 0 ≤ n := by
  intro n hn
  exact Int64.le_iff_toInt_le.2 (h _ hn)

/-- What is wrong with the pieces of a text is an error about the text. -/
theorem isFault_of_scan {line n : Nat} (h : scan line source = .stop e n) : e.isFault = false := by
  obtain ⟨pre, us, rest, -, -, hd⟩ := scan_stop_iff.1 ⟨n, h⟩
  cases hd <;> rfl

/-- Whatever a parser of the tokens of a text fails with is an error about the text. -/
theorem isFault_of_scan_bind {α : Type} {p : Parser α} {V : List Token → Prop}
    (hp : Parser.Stops p V)
    (h : ((scan 1 source).toExcept >>= fun ls => (p (.ofLexemes ls)).toExcept) = .error e) :
    e.isFault = false := by
  cases hs : scan 1 source with
  | stop e' n =>
    rw [hs] at h
    cases h
    exact isFault_of_scan hs
  | done ls n =>
    rw [hs] at h
    obtain ⟨ts, hts, hl⟩ := scanFrom_isLexical hs
    exact hp.isFault_eq_false hts (Token.AllLexical.nonneg hl) h

end

/-- A program or an expression that was read satisfies what `Requirement.read` says, and where none
can be read the answer is an error about the text. -/
theorem read_wellFormed :
    (∀ source p, Program.parse source = .ok p → p.Meets .read) ∧
    (∀ source e, Expr.parse source = .ok e → e.Meets .read) ∧
    (∀ source err, Program.parse source = .error err → err.isFault = false) ∧
    (∀ source err, Expr.parse source = .error err → err.isFault = false) := by
  refine ⟨fun source p h => ?_, fun source e h => ?_, fun source err h => ?_,
    fun source err h => ?_⟩
  · exact p.meets_mono Requirement.wellFormed_implies_read (Program.meets_of_parse h)
  · exact e.meets_mono Requirement.wellFormed_implies_read (Expr.meets_of_parse h)
  · exact isFault_of_scan_bind Parser.program_stops h
  · exact isFault_of_scan_bind Parser.wholeExpression_stops h

/-- A case statement with a branch before an `else`, an access step in an expression, and two texts
that cannot be read. -/
theorem read_wellFormed_case :
    let name (x : String) : Expr := (Factor.ident x).toExpr
    let p : Program :=
      ⟨[.caseOf (name "n")
        [⟨[.number (-9223372036854775807)], .ifThenElse (name "b") .empty (.call "c" [])⟩], .empty]⟩
    let e : Expr := (Factor.designator ⟨"a", [.index [(Factor.number 0).toExpr]]⟩).toExpr
    let tooLarge : Error := .invalidNumber "9223372036854775808" 1
    let noIndex : Error := .mismatch "factor" "RBrack" 1
    (Program.parse "case n of -9223372036854775807: if b then else c end;" = .ok p ∧
      p.Meets .read) ∧
    (Expr.parse "a[0]" = .ok e ∧ e.Meets .read) ∧
    (Program.parse "case n of -9223372036854775808: end" = .error tooLarge ∧
      tooLarge.isFault = false) ∧
    Expr.parse "a[]" = .error noIndex ∧ noIndex.isFault = false := by
  intro name p e tooLarge noIndex
  obtain ⟨hprogram, hexpr, hprogramError, hexprError⟩ := read_wellFormed
  have hp : Program.parse "case n of -9223372036854775807: if b then else c end;" = .ok p := by
    decide +kernel
  have he : Expr.parse "a[0]" = .ok e := by decide +kernel
  have hlarge : Program.parse "case n of -9223372036854775808: end" = .error tooLarge := by
    decide +kernel
  have hindex : Expr.parse "a[]" = .error noIndex := by decide +kernel
  exact ⟨⟨hp, hprogram _ _ hp⟩, ⟨he, hexpr _ _ he⟩, ⟨hlarge, hprogramError _ _ hlarge⟩, hindex,
    hexprError _ _ hindex⟩

end MiniPascal
