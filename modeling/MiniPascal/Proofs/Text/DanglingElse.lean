import MiniPascal.Proofs.Text.Composition

/-!
# The else after a branch

A statement stands between `if c then` and `else`. Whose `else` that is depends on the end of the
statement alone: if it ends in an `if` that has none (`Stmt.endsOpen`), this `if` takes the `else`,
and the outer one is left without; otherwise the `else` is that of the outer `if`
(`parse_branch_else`). So the text of a tree needs `begin` and `end` around a branch exactly where
`Stmt.endsOpen` says so.

Only the last statement within the branch can take the `else` (`Stmt.GainsElse`): nothing after it
closes a branch, an `else` branch or the body of a `while` or `for` loop, while `case`, `repeat` and
compound statements close themselves.
-/

namespace MiniPascal

/-- The second statement is the first one, with `other` as the `else` of the nearest `if` that has
none at the end of it: of the statement itself, or of one in its last branch or body. -/
inductive Stmt.GainsElse (other : Stmt) : Stmt → Stmt → Prop
  | here {cond body} : body.endsOpen = false →
      GainsElse other (.ifThen cond body) (.ifThenElse cond body other)
  | thenBranch {cond body body'} : GainsElse other body body' →
      GainsElse other (.ifThen cond body) (.ifThen cond body')
  | elseBranch {cond body last last'} : GainsElse other last last' →
      GainsElse other (.ifThenElse cond body last) (.ifThenElse cond body last')
  | whileBody {cond body body'} : GainsElse other body body' →
      GainsElse other (.whileDo cond body) (.whileDo cond body')
  | forBody {counter start direction finish body body'} : GainsElse other body body' →
      GainsElse other (.forDo counter start direction finish body)
        (.forDo counter start direction finish body')

/-! ## Deriving an else after a statement -/

/-- After a statement that ends in an open `if`, an `else` is derived as that of this `if`. -/
theorem Stmt.Derives.gainsElse {other : Stmt} {us : List Token} (ho : other.Derives us)
    (hno : other.NearestElse) : ∀ (s : Stmt) {ts : List Token}, s.Derives ts → s.NearestElse →
      s.endsOpen = true → ∃ s', Stmt.GainsElse other s s' ∧
        s'.Derives (ts ++ .keyword .else :: us) ∧ s'.NearestElse
  | .ifThen cond body, _, @Stmt.Derives.ifThen _ _ ts vs hc hb, hn, _ => by
    have happend : .keyword .if :: (ts ++ .keyword .then :: vs) ++ .keyword .else :: us =
        .keyword .if :: (ts ++ .keyword .then :: (vs ++ .keyword .else :: us)) := by
      simp
    rw [happend]
    cases hopen : body.endsOpen with
    | true =>
      obtain ⟨body', hgains, hb', hn'⟩ := gainsElse ho hno body hb hn hopen
      exact ⟨_, .thenBranch hgains, .ifThen hc hb', hn'⟩
    | false => exact ⟨_, .here hopen, .ifThenElse hc hb ho, hopen, hn, hno⟩
  | .ifThenElse cond body last, _, .ifThenElse hc hb hl, hn, hopen => by
    obtain ⟨hclosed, hnb, hnl⟩ := hn
    obtain ⟨last', hgains, hl', hn'⟩ := gainsElse ho hno last hl hnl hopen
    have hd := Stmt.Derives.ifThenElse hc hb hl'
    exact ⟨_, .elseBranch hgains, by simpa using hd, hclosed, hnb, hn'⟩
  | .whileDo cond body, _, .whileDo hc hb, hn, hopen => by
    obtain ⟨body', hgains, hb', hn'⟩ := gainsElse ho hno body hb hn hopen
    have hd := Stmt.Derives.whileDo hc hb'
    exact ⟨_, .whileBody hgains, by simpa using hd, hn'⟩
  | .forDo counter start direction finish body, _, .forDo hs hf hb, hn, hopen => by
    obtain ⟨body', hgains, hb', hn'⟩ := gainsElse ho hno body hb hn hopen
    have hd : Stmt.Derives (.forDo counter start direction finish body') _ := .forDo hs hf hb'
    exact ⟨_, .forBody hgains, by simpa using hd, hn'⟩

/-- A statement gains an `else` only where it ends in an open `if`. -/
theorem Stmt.GainsElse.endsOpen {other s s' : Stmt} (h : Stmt.GainsElse other s s') :
    s.endsOpen = true := by
  induction h with
  | here | thenBranch => rfl
  | elseBranch _ ih | whileBody _ ih | forBody _ ih => exact ih

/-! ## Reading the text -/

section
variable {cond : Expr} {s other : Stmt}

/-- The text of a writable statement is read as its normal form. -/
theorem Stmt.parse_text_eq_normal (h : s.Meets .writable) :
    Program.parse s.text = .ok ⟨[s.normal]⟩ := by
  have hp : Program.Meets .writable ⟨[s]⟩ := ⟨trivial, h, trivial⟩
  have htext : Program.text ⟨[s]⟩ = s.text := String.intercalate_singleton
  exact htext ▸ Program.parse_text_eq_normal ⟨[s]⟩ hp

/-- The tokens of an `if`, with its branch and what follows it on lines of their own. -/
theorem Stmt.scans_branch (hif : (Stmt.ifThen cond s).Meets .writable)
    (ho : other.Meets .writable) :
    Scans ("if " ++ cond.text ++ " then\n" ++ s.text ++ "\nelse\n" ++ other.text).toList
      ((Stmt.ifThen cond s).tokens ++ .keyword .else :: (other.tokens ++ [.eof])) := by
  obtain ⟨hc, hs⟩ := hif
  have hc := cond.meets_mono Requirement.writable_implies_named hc
  have hs := s.meets_mono Requirement.writable_implies_named hs
  have ho := other.meets_mono Requirement.writable_implies_named ho
  have line {rest us} (h : Scans rest us) : Scans ('\n' :: rest) us :=
    .of_gap (Step.first_blank rfl) h
  have hscan := line (Stmt.spells other 0 ho detached_nil .nil)
  have hscan := line (.keyword .else (detached_cons rfl) hscan)
  have hscan := line (Stmt.spells s 0 hs (detached_cons rfl) hscan)
  have hscan := Scans.trail .then (s := " then") rfl (detached_cons rfl) hscan
  have hscan := Scans.lead .if (s := "if ") rfl (cond.spells hc (detached_text rfl) hscan)
  simpa [Stmt.tokens, Stmt.text, Keyword.word] using hscan

/-- With an `else` after it, the text of an `if` without one is read as this `if` with the `else`
where the nearest open `if` is. -/
theorem Program.parse_branch (hif : (Stmt.ifThen cond s).Meets .writable)
    (ho : other.Meets .writable) :
    ∃ r, Stmt.GainsElse other.normal (.ifThen cond.normal s.normal) r ∧
      Program.parse ("if " ++ cond.text ++ " then\n" ++ s.text ++ "\nelse\n" ++ other.text) =
        .ok ⟨[r]⟩ := by
  have nearest {t : Stmt} (h : t.Meets .writable) : t.normal.NearestElse :=
    Stmt.nearestElse_of_meets _ (Stmt.meets_normal t h)
  obtain ⟨r, hgains, hd, hn⟩ := Stmt.Derives.gainsElse (Stmt.derives_normal other ho)
    (nearest ho) _ (Stmt.derives_normal _ hif) (nearest hif) rfl
  have hscan := Stmt.scans_branch hif ho
  rw [← List.cons_append, ← List.append_assoc] at hscan
  refine ⟨r, hgains, Program.parse_of_scans hscan ?_ (.plain (.one hd)) ⟨hn, trivial⟩⟩
  have bounded {t : Stmt} (h : t.Meets .writable) : Token.Bounded t.tokens := by
    have h := t.meets_mono Requirement.writable_implies_lexical h
    exact (t.meets_bounded_iff.1 (t.meets_mono Requirement.lexical_implies_bounded h)).2
  simp [bounded hif, bounded ho]

end

/-- An `else` after a branch is that of the `if` before the branch exactly if the branch does not
end in an open `if`. The text of a statement in the branch and the call of a procedure after the
`else` are always read as one `if`. If the statement does not end in an open `if`, it is the branch
as it is read alone, and the call is the `else` of the whole. If it does, the whole has no `else`,
and an `if` within the statement has the call as its `else`. -/
theorem parse_branch_else {cond : Expr} {s : Stmt} {x : String} (hc : cond.Meets .writable)
    (hs : s.Meets .writable) (hx : Name.isValid x.toList = true) :
    let q : Stmt := .call x []
    Program.parse s.text = .ok ⟨[s.normal]⟩ ∧
    ∃ r, Program.parse ("if " ++ cond.text ++ " then\n" ++ s.text ++ "\nelse\n" ++ q.text) =
        .ok ⟨[r]⟩ ∧
      ((∃ body, r = .ifThenElse cond.normal body q) ↔ s.endsOpen = false) ∧
      (s.endsOpen = false → r = .ifThenElse cond.normal s.normal q) ∧
      (s.endsOpen = true →
        ∃ body, r = .ifThen cond.normal body ∧ Stmt.GainsElse q s.normal body) := by
  intro q
  have hq : q.Meets .writable := ⟨hx, trivial⟩
  obtain ⟨r, hgains, hparse⟩ := Program.parse_branch (s := s) ⟨hc, hs⟩ hq
  refine ⟨Stmt.parse_text_eq_normal hs, r, hparse, ?_⟩
  cases hgains with
  | here hclosed =>
    rw [Stmt.endsOpen_normal] at hclosed
    refine ⟨⟨fun _ => hclosed, fun _ => ⟨_, rfl⟩⟩, fun _ => rfl, fun hopen => ?_⟩
    cases hclosed.symm.trans hopen
  | @thenBranch _ _ body hgains =>
    have hopen := hgains.endsOpen
    rw [Stmt.endsOpen_normal] at hopen
    have hne (hclosed : s.endsOpen = false) : False := by cases hclosed.symm.trans hopen
    refine ⟨⟨?_, fun h => (hne h).elim⟩, fun h => (hne h).elim, fun _ => ⟨body, rfl, hgains⟩⟩
    rintro ⟨_, ⟨⟩⟩

/-- Within a loop in an `else` branch, the open `if` takes the call; a `repeat` loop keeps its `if`
to itself. -/
theorem parse_branch_else_loop :
    let name (x : String) : Expr := (Factor.ident x).toExpr
    let call (x : String) : Stmt := .call x []
    let chain (last : Stmt) : Stmt :=
      .ifThenElse (name "a") (call "p") (.whileDo (name "b") last)
    let inner : Stmt := .ifThen (name "d") (call "r")
    let closed : Stmt := .repeatUntil [inner] (name "e")
    (name "c").Meets .writable ∧ (chain inner).Meets .writable ∧ closed.Meets .writable ∧
      Name.isValid "q".toList = true ∧ (chain inner).endsOpen = true ∧ closed.endsOpen = false ∧
      (∃ body, Stmt.GainsElse (call "q") (chain inner) body ∧
        Program.parse ("if " ++ (name "c").text ++ " then\n" ++ (chain inner).text ++ "\nelse\n"
          ++ (call "q").text) = .ok ⟨[.ifThen (name "c") body]⟩) ∧
      Program.parse ("if " ++ (name "c").text ++ " then\n" ++ closed.text ++ "\nelse\n"
        ++ (call "q").text) = .ok ⟨[.ifThenElse (name "c") closed (call "q")]⟩ := by
  intro name call chain inner closed
  have hname {x : String} (h : Name.isValid x.toList = true) : (name x).Meets .writable :=
    ⟨⟨h, trivial⟩, trivial⟩
  have hcall {x : String} (h : Name.isValid x.toList = true) : (call x).Meets .writable :=
    ⟨h, trivial⟩
  have hq : Name.isValid "q".toList = true := by decide +kernel
  have hc := hname (x := "c") (by decide +kernel)
  have hinner : inner.Meets .writable :=
    ⟨hname (by decide +kernel), hcall (by decide +kernel)⟩
  have hopen : (chain inner).Meets .writable :=
    ⟨hname (by decide +kernel), trivial, hcall (by decide +kernel), hname (by decide +kernel),
      hinner⟩
  have hclosed : closed.Meets .writable := ⟨trivial, ⟨hinner, trivial⟩, hname (by decide +kernel)⟩
  obtain ⟨-, r, hr, -, -, hgains⟩ := parse_branch_else hc hopen hq
  obtain ⟨body, rfl, hbody⟩ := hgains rfl
  obtain ⟨-, r', hr', -, hown, -⟩ := parse_branch_else hc hclosed hq
  have hown := hown rfl
  subst hown
  exact ⟨hc, hopen, hclosed, hq, rfl, rfl, ⟨body, hbody, hr⟩, hr'⟩

end MiniPascal
