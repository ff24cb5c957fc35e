import MiniPascal.Proofs.Text.Splitting

/-!
# The lines of tokens and errors

The line of a token is told by the text before it: the line on which the text starts and one more
for each line break before the token's first character. `Locates` is the split of a text that keeps,
with each token, what stands before it, and a scan gives each token the line that this yields
(`Locates.scanFrom_eq`). The loops of the scan count each line break of the white space or comment
they pass once (`Scan.blanks_eq`, `Scan.braceComment_eq`, `Scan.starComment_eq`), so a scan goes on
behind a gap with the line breaks of the gap counted (`scanFrom_of_gap`); and a token holds none.

The line of an error is that of the defect. The scan leaves the line there too, except that an open
comment runs to the end of the text (`scan_lines`).
-/

namespace MiniPascal

/-- A token and the text before its first character. -/
structure Placed where
  token : Token
  before : List Char

/-- A token of a text that starts on the given line. -/
def Placed.lexeme (line : Nat) (p : Placed) : Lexeme :=
  ⟨p.token, line + newlines p.before⟩

/-- After the text `before`, the text is split into trivia and lexemes as far as the rest, and each
lexeme denotes a token that is placed where the lexeme begins. -/
inductive Locates : List Char → List Char → List Placed → List Char → Prop
  | done (before rest) : Locates before rest [] rest
  | trivia {before w cs ps rest} : Trivia w → Locates (before ++ w) cs ps rest →
      Locates before (w ++ cs) ps rest
  | lexeme {before w t cs ps rest} : LongestLexeme w cs → Token.Denoted w t →
      Locates (before ++ w) cs ps rest → Locates before (w ++ cs) (⟨t, before⟩ :: ps) rest

/-- The tokens at their places in the text, which starts on the given line, and the end of input. -/
def Placed.lexemes (line : Nat) (text : List Char) (ps : List Placed) : List Lexeme :=
  (ps ++ [Placed.mk .eof text]).map (Placed.lexeme line)

/-- Where a scan that fails with the error leaves the line: where the error is, or on the last line
of the text if a comment is open. -/
def Error.lineAfter (line last : Nat) : Error → Nat
  | .unterminatedComment _ => last
  | _ => line

/-- A longer text has no fewer line breaks. -/
theorem newlines_le_newlines {cs ds : List Char} (h : cs <+: ds) : newlines cs ≤ newlines ds :=
  h.sublist.count_le _

/-! ## Places -/

section
variable {before cs rest : List Char} {ps : List Placed} {ts : List Token}

/-- A text that is split has places for its tokens. -/
theorem Splits.locates (h : Splits cs ts rest) (before : List Char) :
    ∃ ps, Locates before cs ps rest ∧ ps.map Placed.token = ts := by
  induction h generalizing before with
  | done rest => exact ⟨[], .done before rest, rfl⟩
  | @trivia w cs ts rest hw _ ih =>
    obtain ⟨ps, hps, hts⟩ := ih (before ++ w)
    exact ⟨ps, .trivia hw hps, hts⟩
  | @lexeme w t cs ts rest hw ht _ ih =>
    obtain ⟨ps, hps, hts⟩ := ih (before ++ w)
    exact ⟨_, .lexeme hw ht hps, congrArg (t :: ·) hts⟩

/-- No token is placed before the text begins. -/
theorem Locates.prefix_before (h : Locates before cs ps rest) : ∀ p ∈ ps, before <+: p.before := by
  induction h with
  | done => nofun
  | trivia _ _ ih => exact fun p hp => (List.prefix_append _ _).trans (ih p hp)
  | lexeme _ _ _ ih =>
    refine List.forall_mem_cons.2 ⟨List.prefix_refl _, fun p hp => ?_⟩
    exact (List.prefix_append _ _).trans (ih p hp)

/-- No token is placed behind the end of the text. -/
theorem Locates.before_prefix_text (h : Locates before cs ps rest) :
    ∀ p ∈ ps, p.before <+: before ++ cs := by
  induction h with
  | done => nofun
  | trivia _ _ ih =>
    rw [← List.append_assoc]
    exact ih
  | lexeme _ _ _ ih =>
    refine List.forall_mem_cons.2 ⟨List.prefix_append _ _, ?_⟩
    rw [← List.append_assoc]
    exact ih

/-- The tokens are placed one behind the other. -/
theorem Locates.pairwise_before (h : Locates before cs ps rest) :
    ps.Pairwise fun p q => p.before <+: q.before := by
  induction h with
  | done => exact .nil
  | trivia _ _ ih => exact ih
  | lexeme _ _ hps ih =>
    exact .cons (fun q hq => (List.prefix_append _ _).trans (hps.prefix_before q hq)) ih

/-- The lines of the tokens and of the end of input never decrease. -/
theorem Locates.pairwise_line (h : Locates [] cs ps rest) (line : Nat) :
    (Placed.lexemes line cs ps).Pairwise fun k l => k.line ≤ l.line := by
  have hpairs : (ps ++ [Placed.mk .eof cs]).Pairwise fun p q => p.before <+: q.before := by
    refine List.pairwise_append.2 ⟨h.pairwise_before, List.pairwise_singleton _ _, ?_⟩
    exact fun p hp => List.forall_mem_singleton.2 (h.before_prefix_text p hp)
  refine List.pairwise_map.2 (hpairs.imp fun hpq => ?_)
  exact Nat.add_le_add_left (newlines_le_newlines hpq) line

end

/-! ## Scans -/

section
variable {before cs rest : List Char} {ps : List Placed} {line : Nat} {e : Error}

/-- A scan goes through a text whose tokens are placed: it gives each token the line of its place,
and goes on with the rest on the line of the rest. -/
theorem Locates.scanFrom_eq (h : Locates before cs ps rest) (line : Nat) :
    ∃ pre, cs = pre ++ rest ∧ scanFrom (line + newlines before) cs =
      (scanFrom (line + newlines (before ++ pre)) rest).map (ps.map (Placed.lexeme line) ++ ·) := by
  induction h with
  | done before rest =>
    refine ⟨[], rfl, ?_⟩
    rw [List.append_nil]
    cases scanFrom (line + newlines before) rest <;> rfl
  | @trivia before w cs ps rest hw _ ih =>
    obtain ⟨pre, rfl, ih⟩ := ih
    refine ⟨w ++ pre, (List.append_assoc ..).symm, ?_⟩
    rw [scanFrom_of_gap hw.first, Nat.add_assoc, ← newlines_append, ih, List.append_assoc]
  | @lexeme before w t cs ps rest hw ht _ ih =>
    obtain ⟨pre, rfl, ih⟩ := ih
    refine ⟨w ++ pre, (List.append_assoc ..).symm, ?_⟩
    have hline : newlines (before ++ w) = newlines before := by
      rw [newlines_append, hw.form.newlines_eq_zero, Nat.add_zero]
    rw [hline] at ih
    rw [scanFrom_of_lexeme (hw.first ht), ih, List.append_assoc]
    cases scanFrom (line + newlines (before ++ (w ++ pre))) rest <;> rfl

/-- A text whose tokens are placed as far as its end is scanned to these tokens. -/
theorem Locates.scan_done (h : Locates [] cs ps []) (line : Nat) :
    scanFrom line cs = .done (Placed.lexemes line cs ps) (line + newlines cs) := by
  obtain ⟨pre, hpre, hscan⟩ := h.scanFrom_eq line
  obtain rfl : cs = pre := hpre.trans (List.append_nil pre)
  rw [scanFrom_nil, Outcome.map_done] at hscan
  rw [Placed.lexemes, List.map_append]
  exact hscan

/-- A scan fails at a defect. It leaves the line there or, in an open comment, on the last line. -/
theorem Defect.scanFrom_eq (h : Defect line cs e) :
    scanFrom line cs = .stop e (e.lineAfter line (line + newlines cs)) := by
  obtain ⟨hfirst, rfl⟩ | ⟨ds, hfirst, rfl⟩ | ⟨c, hfirst, rfl⟩ := h.first
  · exact scanFrom_of_unclosed hfirst
  · exact scanFrom_of_oversized hfirst
  · exact scanFrom_of_unknown hfirst

/-- The scan of a text whose tokens are placed as far as a defect fails there. -/
theorem Locates.scan_stop (h : Locates [] cs ps rest) (hcs : cs = before ++ rest)
    (hd : Defect (line + newlines before) rest e) :
    scanFrom line cs = .stop e (e.lineAfter (line + newlines before) (line + newlines cs)) := by
  obtain ⟨pre, hpre, hscan⟩ := h.scanFrom_eq line
  obtain rfl : before = pre := List.append_cancel_right (hcs.symm.trans hpre)
  have hlast : line + newlines before + newlines rest = line + newlines cs := by
    rw [Nat.add_assoc, ← newlines_append, ← hcs]
  rw [List.nil_append, hd.scanFrom_eq, Outcome.map_stop, hlast] at hscan
  exact hscan

/-- The tokens of every text are placed as far as its end or a defect. -/
theorem locates_cases (line : Nat) (cs : List Char) :
    (∃ ps, Locates [] cs ps []) ∨ ∃ before ps rest e, cs = before ++ rest ∧
      Locates [] cs ps rest ∧ Defect (line + newlines before) rest e := by
  rcases splits_cases line cs with ⟨ts, h⟩ | ⟨before, ts, rest, e, hcs, h, hd⟩
  · obtain ⟨ps, hps, -⟩ := h.locates []
    exact .inl ⟨ps, hps⟩
  · obtain ⟨ps, hps, -⟩ := h.locates []
    exact .inr ⟨before, ps, rest, e, hcs, hps, hd⟩

end

/-- Every scan keeps exact lines. Where the tokens are placed as far as the end of the text, each of
them and the end of input stand on the line on which the text starts and one more for each line
break before them; so the lines never decrease, and the scan leaves the line with all line breaks
counted. Where they are placed only as far as a defect, the scan fails with the line of the defect,
told in the same way; it leaves that line or, in an open comment, the line with all line breaks
counted. -/
theorem scan_lines (line : Nat) (source : String) :
    let last := line + newlines source.toList
    (∃ ps, Locates [] source.toList ps [] ∧
      scan line source = .done (Placed.lexemes line source.toList ps) last ∧
      (Placed.lexemes line source.toList ps).Pairwise fun k l => k.line ≤ l.line) ∨
    ∃ before ps rest e, source.toList = before ++ rest ∧ Locates [] source.toList ps rest ∧
      Defect (line + newlines before) rest e ∧
      scan line source = .stop e (e.lineAfter (line + newlines before) last) := by
  intro last
  rcases locates_cases line source.toList with ⟨ps, h⟩ | ⟨before, ps, rest, e, hsource, h, hd⟩
  · exact .inl ⟨ps, h, h.scan_done line, h.pairwise_line line⟩
  · exact .inr ⟨before, ps, rest, e, hsource, h, hd, h.scan_stop hsource hd⟩

-- a line break after a star in an open comment is counted once, for the line left behind
example : scan 3 "a (*\n*\n" = .stop (.unterminatedComment 3) 5 := by decide +kernel

end MiniPascal
