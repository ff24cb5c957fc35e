import MiniPascal.Proofs.Text.Splitting

/-!
# Scanning a text in parts

White space ends whatever stands before it: no lexeme holds a blank, so what stands first in a text
stands first also in the text with a blank and more after it (`Step.first_append`), unless it is a
comment that the first text does not close. So a text may be scanned in parts that a blank
separates, each part from the line that the one before it reached (`scan_append`). A part that fails
at a character or a number fails in the same way with more after it.
-/

namespace MiniPascal

section
variable {c blank : Char} {v w cs ds rest more : List Char} {line : Nat} {e : Error}

/-! ## What stands before a blank -/

/-- A lexeme holds no white space. -/
theorem LexemeForm.not_blank (h : LexemeForm w) : ∀ c ∈ w, Character.isBlank c = false := by
  intro c hc
  cases h with
  | word hw =>
    have hpart : Name.isPart c = true := by
      cases w with
      | nil => cases hw
      | cons d w =>
        simp only [Name.isWord, Bool.and_eq_true, List.all_eq_true] at hw
        rcases List.mem_cons.1 hc with rfl | hc
        · exact isPart_of_isStart hw.1
        · exact hw.2 c hc
    rw [← Bool.not_eq_true]
    intro hb
    cases hpart.symm.trans (isPart_eq_false_of_isBlank hb)
  | digits _ hds => exact (not_special_of_isDigit (hds c hc)).1
  | symbol s =>
    have hall : s.spelling.toList.all (fun c => !Character.isBlank c) = true := by
      cases s <;> rfl
    simpa using List.all_eq_true.1 hall c hc

/-- What a text begins with, if it does not hold the character `c`, ends before `c`. -/
theorem prefix_of_notMem (h : v <+: w ++ c :: more) (hc : c ∉ v) : v <+: w := by
  obtain ⟨rest, hrest⟩ := h
  obtain ⟨u, rfl, -⟩ | ⟨u, rfl, hu⟩ := List.append_eq_append_iff.1 hrest
  · exact ⟨u, rfl⟩
  · cases u with
    | nil => exact (List.append_nil w).symm ▸ List.prefix_refl w
    | cons d u =>
      cases hu
      exact absurd (List.mem_append_right _ List.mem_cons_self) hc

/-- The character ends the lexeme before it: it is part of no lexeme but itself, and of no opener of
a comment. -/
structure Separates (c : Char) : Prop where
  alone {w : List Char} : LexemeForm w → c ∈ w → w = [c]
  noOpener : c ∉ ['(', '*']

/-- White space is part of no lexeme and opens no comment. -/
theorem Separates.of_isBlank (hb : Character.isBlank c = true) : Separates c where
  alone hw hmem := by cases hb.symm.trans (hw.not_blank c hmem)
  noOpener hmem := by
    simp only [List.mem_cons, List.not_mem_nil, or_false] at hmem
    rcases hmem with rfl | rfl <;> cases hb

/-- The longest lexeme stays the longest with a separating character and more after the text. -/
theorem LongestLexeme.append (h : LongestLexeme w rest) (hc : Separates c) :
    LongestLexeme w (rest ++ c :: more) where
  form := h.form
  longest {v} hv hprefix := by
    rw [← List.append_assoc] at hprefix
    by_cases hmem : c ∈ v
    · rw [hc.alone hv hmem]
      exact List.length_pos_iff.2 h.form.ne_nil
    · exact h.longest hv (prefix_of_notMem hprefix hmem)
  noComment hprefix := by
    rw [← List.append_assoc] at hprefix
    exact h.noComment (prefix_of_notMem hprefix hc.noOpener)

/-- A defect other than an open comment stays one with a blank and more after the text. -/
theorem Defect.append (h : Defect line cs e) (more : List Char)
    (hb : Character.isBlank blank = true) (he : e ≠ .unterminatedComment line) :
    Defect line (cs ++ blank :: more) e := by
  cases h with
  | brace | star => exact absurd rfl he
  | number h hne hds hlt =>
    rw [List.append_assoc]
    exact .number (h.append (.of_isBlank hb)) hne hds hlt
  | unknown htrivia hlexeme => exact .unknown htrivia hlexeme

/-! ## The first piece -/

/-- The piece with more text after it. -/
def Step.followedBy (more : List Char) : Step → Step
  | .gap text rest => .gap text (rest ++ more)
  | .lexeme t text rest => .lexeme t text (rest ++ more)
  | s => s

/-- What stands first in a text stands first also with a blank and more after the text, unless it is
a comment that is not closed. -/
theorem Step.first_append (more : List Char) {s : Step} (h : first cs = s)
    (hstop : s ≠ .stop) (hopen : s ≠ .unclosed) (hb : Character.isBlank blank = true) :
    first (cs ++ blank :: more) = s.followedBy (blank :: more) := by
  subst h
  have hne : cs ≠ [] := by
    rintro rfl
    exact hstop rfl
  cases exists_piece hne with
  | trivia hcs hw =>
    subst hcs
    rw [List.append_assoc, hw.first, hw.first]
    rfl
  | lexeme hcs hw ht =>
    subst hcs
    rw [List.append_assoc, hw.first ht, (hw.append (.of_isBlank hb)).first ht]
    rfl
  | defect hdefect =>
    obtain ⟨e, he⟩ := hdefect 0
    have hmore (hne : e ≠ .unterminatedComment 0) := (he.append more hb hne).first
    obtain ⟨hfirst, -⟩ | ⟨ds, hfirst, rfl⟩ | ⟨c, hfirst, rfl⟩ := he.first
    · exact absurd hfirst hopen
    · simpa [hfirst, followedBy, String.ofList_inj] using hmore
    · simpa [hfirst, followedBy] using hmore

/-! ## The whole text -/

/-- After a text that is scanned to its end, a blank and more are scanned from the line reached. -/
theorem scanFrom_append_of_done (more : List Char) {ls : List Lexeme} {n : Nat}
    (hb : Character.isBlank blank = true) (h : scanFrom line cs = .done ls n) :
    ∃ ks, ls = ks ++ [⟨.eof, n⟩] ∧ scanFrom line (cs ++ blank :: more) =
      (scanFrom (n + newlines [blank]) more).map (ks ++ ·) := by
  induction line, cs using Step.induct generalizing ls with
  | stop line =>
    cases (scanFrom_nil line).symm.trans h
    refine ⟨[], rfl, ?_⟩
    rw [List.nil_append, scanFrom_of_gap (Step.first_blank hb)]
    cases scanFrom (n + newlines [blank]) more <;> rfl
  | gap line cs text rest hf ih =>
    rw [scanFrom_of_gap hf] at h
    obtain ⟨ks, hks, hscan⟩ := ih h
    have hfirst := Step.first_append more hf (by simp) (by simp) hb
    refine ⟨ks, hks, ?_⟩
    rw [scanFrom_of_gap hfirst, hscan]
  | lexeme line cs t text rest hf ih =>
    rw [scanFrom_of_lexeme hf] at h
    obtain ⟨ms, hms, rfl⟩ := Outcome.map_eq_done_iff.1 h
    obtain ⟨ks, rfl, hscan⟩ := ih hms
    have hfirst := Step.first_append more hf (by simp) (by simp) hb
    refine ⟨⟨t, line⟩ :: ks, rfl, ?_⟩
    rw [scanFrom_of_lexeme hfirst, hscan]
    cases scanFrom (n + newlines [blank]) more <;> rfl
  | unclosed line cs hf => cases (scanFrom_of_unclosed hf).symm.trans h
  | oversized line cs digits hf => cases (scanFrom_of_oversized hf).symm.trans h
  | unknown line cs c hf => cases (scanFrom_of_unknown hf).symm.trans h

/-- A text at which the scan fails, unless it is in an open comment, fails in the same way with a
blank and more after it. -/
theorem scanFrom_append_of_stop {n : Nat} (hb : Character.isBlank blank = true)
    (h : scanFrom line cs = .stop e n) (he : ∀ k, e ≠ .unterminatedComment k) :
    scanFrom line (cs ++ blank :: more) = .stop e n := by
  induction line, cs using Step.induct with
  | stop line => cases (scanFrom_nil line).symm.trans h
  | gap line cs text rest hf ih =>
    rw [scanFrom_of_gap hf] at h
    have hfirst := Step.first_append more hf (by simp) (by simp) hb
    rw [scanFrom_of_gap hfirst, ih h]
  | lexeme line cs t text rest hf ih =>
    rw [scanFrom_of_lexeme hf] at h
    have hfirst := Step.first_append more hf (by simp) (by simp) hb
    rw [scanFrom_of_lexeme hfirst, ih (Outcome.map_eq_stop_iff.1 h), Outcome.map_stop]
  | unclosed line cs hf =>
    cases (scanFrom_of_unclosed hf).symm.trans h
    exact absurd rfl (he line)
  | oversized line cs digits hf =>
    have hfirst := Step.first_append more hf (by simp) (by simp) hb
    rw [scanFrom_of_oversized hfirst, ← h, scanFrom_of_oversized hf]
  | unknown line cs c hf =>
    have hfirst := Step.first_append more hf (by simp) (by simp) hb
    rw [scanFrom_of_unknown hfirst, ← h, scanFrom_of_unknown hf]

end

/-- A text in two parts that a blank separates is scanned part by part. Where the scan of the first
part comes to its end, the second part goes on from the line reached there, or from the next line
if the blank is a line break: the tokens of the first part, without its end of input, stand before
those of the second, and an error and the last line are those of the second. Where the scan of the
first part fails at an unknown character or a number that is too large, the whole fails in the same
way. -/
theorem scan_append {blank : Char} (hb : Character.isBlank blank = true) (line : Nat)
    (a b : String) :
    (∀ ls n, scan line a = .done ls n → ∃ ks, ls = ks ++ [⟨.eof, n⟩] ∧
      scan line (a ++ String.singleton blank ++ b) =
        (scan (if blank = '\n' then n + 1 else n) b).map (ks ++ ·)) ∧
    (∀ e n, scan line a = .stop e n →
      (∃ c k, e = .unknownCharacter c k) ∨ (∃ digits k, e = .invalidNumber digits k) →
        scan line (a ++ String.singleton blank ++ b) = .stop e n) := by
  have htext : (a ++ String.singleton blank ++ b).toList = a.toList ++ blank :: b.toList := by
    simp
  have hline (n : Nat) : n + newlines [blank] = if blank = '\n' then n + 1 else n := by
    by_cases h : blank = '\n'
    · rw [if_pos h, h]
      rfl
    · rw [if_neg h, newlines, List.count_eq_zero.2 (by simpa [eq_comm] using h), Nat.add_zero]
  constructor
  · intro ls n h
    obtain ⟨ks, hks, hscan⟩ := scanFrom_append_of_done b.toList hb h
    refine ⟨ks, hks, ?_⟩
    rw [scan, htext, hscan, hline, scan]
  · intro e n h he
    rw [scan, htext]
    refine scanFrom_append_of_stop hb h fun k => ?_
    obtain ⟨c, k', rfl⟩ | ⟨digits, k', rfl⟩ := he <;> simp

/-- A colon and an equals sign on two lines are two tokens; an unknown character is one in a longer
text too. -/
theorem scan_append_colon :
    let ks : List Lexeme := [⟨.ident "x", 1⟩, ⟨.symbol .colon, 1⟩]
    let ms : List Lexeme := [⟨.symbol .equal, 2⟩, ⟨.eof, 2⟩]
    Character.isBlank '\n' = true ∧
      scan 1 "x:" = .done (ks ++ [⟨.eof, 1⟩]) 1 ∧ scan 2 "=" = .done ms 2 ∧
      scan 1 ("x:" ++ String.singleton '\n' ++ "=") = .done (ks ++ ms) 2 ∧
      scan 1 "x?" = .stop (.unknownCharacter '?' 1) 1 ∧
      scan 1 ("x?" ++ String.singleton '\n' ++ "=") = .stop (.unknownCharacter '?' 1) 1 := by
  intro ks ms
  have hb : Character.isBlank '\n' = true := by decide
  have hcolon : scan 1 "x:" = .done (ks ++ [⟨.eof, 1⟩]) 1 := by decide +kernel
  have hequal : scan 2 "=" = .done ms 2 := by decide +kernel
  have hunknown : scan 1 "x?" = .stop (.unknownCharacter '?' 1) 1 := by decide +kernel
  obtain ⟨hdone, -⟩ := scan_append hb 1 "x:" "="
  obtain ⟨-, hstop⟩ := scan_append hb 1 "x?" "="
  obtain ⟨ks', hks, hscan⟩ := hdone _ _ hcolon
  obtain rfl : ks = ks' := List.append_cancel_right hks
  rw [if_pos rfl, hequal, Outcome.map_done] at hscan
  exact ⟨hb, hcolon, hequal, hscan, hunknown, hstop _ _ hunknown (.inl ⟨'?', 1, rfl⟩)⟩

end MiniPascal
