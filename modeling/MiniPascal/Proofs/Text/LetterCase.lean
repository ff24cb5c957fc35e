import Mathlib.Data.List.Forall2
import Mathlib.Data.List.Infix
import MiniPascal.Proofs.Parser.Naming
import MiniPascal.Proofs.Text.Lines
import MiniPascal.Source
import MiniPascal.Tree.Equality

/-!
# Texts that differ in letter case

The letter case of ASCII letters never changes the structure of a text (`parse_letter_case`). It
counts only in the spelling of names, which each text keeps.

For the scanner this follows from the lexical grammar: none of its notions tells a capital letter
from the small one. The first character of what a text begins with, the characters that go on a name
and those that close a comment are the same in every letter case, so texts that are alike
(`CaseAlike`) have the same pieces in the same places, and their words spell the same keywords
(`Locates.alike`). The parsers do not look at names, so they do the same with the tokens of both
texts (`Parser.program_alike`), and a message differs at most in the spelling of a name
(`Token.text_rename_toLower`).
-/

namespace MiniPascal

open Keyword (foldCase)

/-- The texts differ at most in the case of ASCII letters. -/
def CaseAlike (cs ds : List Char) : Prop :=
  foldCase cs = foldCase ds

instance (cs ds : List Char) : Decidable (CaseAlike cs ds) :=
  inferInstanceAs (Decidable (foldCase cs = foldCase ds))

/-! ## Characters -/

section
variable {c d : Char}

/-- Only capital letters are changed. -/
theorem toLower_eq_self_or (c : Char) : c.toLower = c ∨ c.isUpper = true := by
  by_cases h : c.val ≥ 'A'.val ∧ c.val ≤ 'Z'.val
  · exact .inr (decide_eq_true h)
  · exact .inl (dif_neg h)

/-- What is the same for each capital letter and its small letter is the same for every character
and its lower case. -/
theorem apply_toLower {α : Type} {g : Char → α}
    (h : ∀ n ∈ List.range' 65 26, g (Char.ofNat n).toLower = g (Char.ofNat n)) (c : Char) :
    g c.toLower = g c := by
  rcases toLower_eq_self_or c with hc | hc
  · rw [hc]
  · obtain ⟨hlow, hhigh⟩ := of_decide_eq_true hc
    exact of_code_range 65 26 c hlow (Nat.lt_succ_of_le hhigh) h

/-- No letter is white space in either case. -/
theorem isBlank_toLower (c : Char) : Character.isBlank c.toLower = Character.isBlank c :=
  apply_toLower (by decide +kernel) c

/-- A letter begins a name in either case. -/
theorem isStart_toLower (c : Char) : Name.isStart c.toLower = Name.isStart c :=
  apply_toLower (by decide +kernel) c

/-- A letter is part of a name in either case. -/
theorem isPart_toLower (c : Char) : Name.isPart c.toLower = Name.isPart c :=
  apply_toLower (by decide +kernel) c

/-- A letter is one in either case. -/
theorem isAlpha_toLower (c : Char) : c.toLower.isAlpha = c.isAlpha :=
  apply_toLower (by decide +kernel) c

/-- What is no letter has no case. -/
theorem toLower_of_isAlpha (h : c.isAlpha = false) : c.toLower = c := by
  refine (toLower_eq_self_or c).resolve_right fun hupper => ?_
  have hor : (c.isUpper || c.isLower) = false := h
  rw [hupper] at hor
  cases hor

/-- A letter may begin a name. -/
theorem isStart_of_isAlpha (h : c.isAlpha = true) : Name.isStart c = true := by
  have hlt : c.toNat < 0x80 := by
    rcases Bool.or_eq_true_iff.1 h with h | h
    · exact Nat.lt_of_le_of_lt (of_decide_eq_true h).2 (by decide)
    · exact Nat.lt_of_le_of_lt (of_decide_eq_true (Bool.and_eq_true_iff.1 h).2) (by decide)
  rw [Name.isStart, Character.isAlphabetic_ascii hlt, h, Bool.true_or]

/-- A character that is no letter differs from every other one in more than letter case. -/
theorem eq_of_toLower_eq (h : c.toLower = d.toLower) (hc : c.isAlpha = false) : c = d := by
  have hd : d.isAlpha = false := by rw [← isAlpha_toLower d, ← h, isAlpha_toLower c, hc]
  rw [← toLower_of_isAlpha hc, h, toLower_of_isAlpha hd]

end

/-! ## Texts -/

section
variable {cs ds u v w : List Char} {c : Char}

/-- The characters of a text in small letters are folded one by one. -/
theorem toList_toLower (s : String) : s.toLower.toList = foldCase s.toList :=
  String.toList_map

/-- Two strings are alike if they are equal in lower case. -/
theorem caseAlike_toList_iff {s t : String} :
    CaseAlike s.toList t.toList ↔ s.toLower = t.toLower := by
  rw [CaseAlike, ← toList_toLower, ← toList_toLower, String.toList_inj]

namespace CaseAlike

/-- A text has the letters of itself. -/
theorem refl (cs : List Char) : CaseAlike cs cs := rfl

/-- Which of two texts has the small letters does not matter. -/
theorem symm (h : CaseAlike cs ds) : CaseAlike ds cs := Eq.symm h

/-- Texts alike but for case are of one length. -/
theorem length_eq (h : CaseAlike cs ds) : cs.length = ds.length := by
  simpa [foldCase] using congrArg List.length h

/-- Texts alike but for case may be put after one another. -/
theorem append {cs' ds' : List Char} (h : CaseAlike cs ds) (h' : CaseAlike cs' ds') :
    CaseAlike (cs ++ cs') (ds ++ ds') := by
  rw [CaseAlike, foldCase, foldCase, List.map_append, List.map_append]
  exact congrArg₂ _ h h'

/-- Texts that are alike and go on alike begin alike. -/
theorem of_append {u' v' : List Char} (h : CaseAlike (u ++ v) (u' ++ v')) (hv : CaseAlike v v') :
    CaseAlike u u' := by
  rw [CaseAlike, foldCase, foldCase, List.map_append, List.map_append] at h
  exact List.append_cancel_right (h.trans (congrArg _ (Eq.symm hv)))

/-- What is alike to a text in two parts is in two parts that are alike to them. -/
theorem append_cases (h : CaseAlike (u ++ v) ds) :
    ∃ u' v', ds = u' ++ v' ∧ CaseAlike u u' ∧ CaseAlike v v' := by
  rw [CaseAlike, foldCase, List.map_append, eq_comm] at h
  obtain ⟨u', v', rfl, hu, hv⟩ := List.map_eq_append_iff.1 h
  exact ⟨u', v', rfl, hu.symm, hv.symm⟩

/-- A text alike but for case begins with a character alike but for case. -/
theorem cons_cases (h : CaseAlike (c :: cs) ds) :
    ∃ d ds', ds = d :: ds' ∧ c.toLower = d.toLower ∧ CaseAlike cs ds' := by
  rw [CaseAlike, foldCase, List.map_cons, eq_comm] at h
  obtain ⟨d, ds', rfl, hd, hds⟩ := List.map_eq_cons_iff.1 h
  exact ⟨d, ds', rfl, hd.symm, hds.symm⟩

/-- A text without letters is alike to no other one. -/
theorem eq_of_no_letter (h : CaseAlike cs ds) (hcs : cs.any Char.isAlpha = false) : ds = cs := by
  induction cs generalizing ds with
  | nil => exact List.map_eq_nil_iff.1 (Eq.symm h)
  | cons c cs ih =>
    obtain ⟨d, ds, rfl, hd, hds⟩ := h.cons_cases
    rw [List.any_cons, Bool.or_eq_false_iff] at hcs
    rw [eq_of_toLower_eq hd hcs.1, ih hds hcs.2]

/-- What a text begins with, an alike text begins with in another letter case. -/
theorem of_prefix_left (h : CaseAlike cs ds) (hu : u <+: cs) : ∃ v, v <+: ds ∧ CaseAlike u v := by
  obtain ⟨rest, rfl⟩ := hu
  obtain ⟨v, rest', rfl, hv, -⟩ := h.append_cases
  exact ⟨v, List.prefix_append _ _, hv⟩

/-- What a text does not hold, if it has no letters, an alike text does not hold either. -/
theorem not_infix_of (h : CaseAlike cs ds) (hu : ¬u <:+: cs)
    (hletter : u.any Char.isAlpha = false) : ¬u <:+: ds := by
  rintro ⟨a, b, rfl⟩
  obtain ⟨au, b', rfl, hau, -⟩ := h.symm.append_cases
  obtain ⟨a', u', rfl, -, hu'⟩ := hau.append_cases
  exact hu ⟨a', b', by rw [hu'.eq_of_no_letter hletter]⟩

/-- A character that is no letter is in both texts or in neither. -/
theorem notMem_of (h : CaseAlike cs ds) (hc : c ∉ cs) (hletter : c.isAlpha = false) : c ∉ ds := by
  rw [← List.singleton_infix_iff] at hc ⊢
  exact h.not_infix_of hc (by simp [hletter])

/-- Texts alike but for case have the same lines. -/
theorem newlines_eq (h : CaseAlike cs ds) : newlines cs = newlines ds := by
  have hfold (cs : List Char) : newlines (foldCase cs) = newlines cs := by
    rw [newlines, newlines, foldCase, List.count, List.countP_map]
    refine List.countP_congr fun c _ => ?_
    have hc : (c.toLower == '\n') = (c == '\n') :=
      apply_toLower (g := (· == '\n')) (by decide +kernel) c
    rw [Function.comp, hc]
  rw [← hfold cs, h, hfold]

end CaseAlike

end

/-! ## Pieces of a text -/

section
variable {cs ds w w' rest rest' : List Char} {t : Token} {line : Nat} {e : Error}

/-- A word is one in small letters. -/
theorem Name.isWord_foldCase (w : List Char) : isWord (foldCase w) = isWord w := by
  have hpart : isPart ∘ Char.toLower = isPart := funext isPart_toLower
  cases w with
  | nil => rfl
  | cons c w =>
    rw [foldCase, List.map_cons, isWord, isWord, isStart_toLower, List.all_map, hpart]

/-- What is a word is told without looking at the case of letters. -/
theorem CaseAlike.isWord_eq (h : CaseAlike w w') : Name.isWord w' = Name.isWord w := by
  rw [← Name.isWord_foldCase w', ← h, Name.isWord_foldCase]

/-- Digits have no case. -/
theorem CaseAlike.eq_digits (h : CaseAlike w w') (hw : ∀ d ∈ w, d.isDigit = true) : w' = w := by
  refine h.eq_of_no_letter (List.any_eq_false.2 fun d hd hletter => ?_)
  obtain ⟨-, -, -, hstart⟩ := not_special_of_isDigit (hw d hd)
  cases hstart.symm.trans (isStart_of_isAlpha hletter)

/-- Symbols have no case. -/
theorem CaseAlike.eq_spelling {s : Symbol} (h : CaseAlike s.spelling.toList w') :
    w' = s.spelling.toList :=
  h.eq_of_no_letter (by cases s <;> rfl)

/-- Letter case does not matter for the form of a lexeme. -/
theorem LexemeForm.alike (h : LexemeForm w) (hw : CaseAlike w w') : LexemeForm w' := by
  cases h with
  | word h => exact .word (hw.isWord_eq.trans h)
  | digits hne hds =>
    rw [hw.eq_digits hds]
    exact .digits hne hds
  | symbol s =>
    rw [hw.eq_spelling]
    exact .symbol s

/-- Letter case does not matter for where the longest lexeme ends. -/
theorem LongestLexeme.alike (h : LongestLexeme w rest) (hw : CaseAlike w w')
    (hrest : CaseAlike rest rest') : LongestLexeme w' rest' where
  form := h.form.alike hw
  longest {v'} hv hprefix := by
    obtain ⟨v, hprefix, hvv⟩ := (hw.append hrest).symm.of_prefix_left hprefix
    rw [hvv.length_eq, ← hw.length_eq]
    exact h.longest (hv.alike hvv) hprefix
  noComment hprefix := by
    obtain ⟨v, hprefix, hv⟩ := (hw.append hrest).symm.of_prefix_left hprefix
    rw [hv.eq_of_no_letter rfl] at hprefix
    exact h.noComment hprefix

/-- In another letter case a lexeme denotes the same token, with its own spelling if it is a
name. -/
theorem Token.Denoted.alike (h : Token.Denoted w t) (hw : CaseAlike w w') :
    ∃ t', Token.Denoted w' t' ∧ t.rename String.toLower = t'.rename String.toLower := by
  cases h with
  | keyword h hk => exact ⟨_, .keyword (hw.isWord_eq.trans h) (hw.symm.trans hk), rfl⟩
  | name h hk =>
    refine ⟨_, .name (hw.isWord_eq.trans h) fun k hk' => hk k (hw.trans hk'), ?_⟩
    rw [Token.rename, Token.rename, Token.ident.injEq, ← caseAlike_toList_iff,
      String.toList_ofList, String.toList_ofList]
    exact hw
  | number hne hds hn =>
    rw [hw.eq_digits hds]
    exact ⟨_, .number hne hds hn, rfl⟩
  | symbol s =>
    rw [hw.eq_spelling]
    exact ⟨_, .symbol s, rfl⟩

/-- Letter case does not matter for white space and comments. -/
theorem Trivia.alike (h : Trivia w) (hw : CaseAlike w w') : Trivia w' := by
  cases h with
  | blank hb =>
    obtain ⟨d, ds, rfl, hd, hds⟩ := hw.cons_cases
    rw [hds.eq_of_no_letter rfl]
    exact .blank (by rw [← isBlank_toLower, ← hd, isBlank_toLower, hb])
  | @brace body hbody =>
    obtain ⟨c, ds, rfl, hc, hds⟩ := hw.cons_cases
    obtain ⟨body', close, rfl, hbodies, hclose⟩ := hds.append_cases
    rw [← eq_of_toLower_eq hc rfl, hclose.eq_of_no_letter rfl]
    exact .brace (hbodies.notMem_of hbody rfl)
  | @star body hbody =>
    have hw : CaseAlike (['(', '*'] ++ (body ++ ['*', ')'])) w' := hw
    obtain ⟨opener, ds, rfl, hopener, hds⟩ := hw.append_cases
    obtain ⟨body', close, rfl, hbodies, hclose⟩ := hds.append_cases
    rw [hopener.eq_of_no_letter rfl, hclose.eq_of_no_letter rfl]
    exact .star (hbodies.not_infix_of hbody rfl)

/-- Letter case does not matter for a defect. -/
theorem Defect.alike (h : Defect line cs e) (hcs : CaseAlike cs ds) : Defect line ds e := by
  cases h with
  | brace hbody =>
    obtain ⟨c, body', rfl, hc, hbodies⟩ := hcs.cons_cases
    rw [← eq_of_toLower_eq hc rfl]
    exact .brace (hbodies.notMem_of hbody rfl)
  | @star body hbody =>
    have hcs : CaseAlike (['(', '*'] ++ body) ds := hcs
    obtain ⟨opener, body', rfl, hopener, hbodies⟩ := hcs.append_cases
    rw [hopener.eq_of_no_letter rfl]
    exact .star (hbodies.not_infix_of hbody rfl)
  | number h hne hds hlt =>
    obtain ⟨w, rest, rfl, hw, hrest⟩ := hcs.append_cases
    obtain rfl := hw.eq_digits hds
    exact .number (h.alike hw hrest) hne hds hlt
  | @unknown c rest htrivia hlexeme =>
    obtain ⟨d, rest', rfl, hd, -⟩ := hcs.cons_cases
    have hc : c.isAlpha = false := by
      rw [← Bool.not_eq_true]
      intro hletter
      exact hlexeme [] (.word (by simp [Name.isWord, isStart_of_isAlpha hletter]))
    rw [← eq_of_toLower_eq hd hc]
    exact .unknown htrivia hlexeme

end

/-! ## Scans -/

/-- The tokens are the same up to the letter case of names, and stand in the same places. -/
def Placed.Alike (p q : Placed) : Prop :=
  p.token.rename String.toLower = q.token.rename String.toLower ∧
    CaseAlike p.before q.before

section
variable {before before' cs ds rest : List Char} {ps qs : List Placed} {line : Nat} {e : Error}

/-- In another letter case the same tokens are found in the same places. -/
theorem Locates.alike (h : Locates before cs ps rest) (hb : CaseAlike before before')
    (hcs : CaseAlike cs ds) : ∃ qs rest', Locates before' ds qs rest' ∧ CaseAlike rest rest' ∧
      List.Forall₂ Placed.Alike ps qs := by
  induction h generalizing before' ds with
  | done before rest => exact ⟨[], ds, .done before' ds, hcs, .nil⟩
  | trivia hw _ ih =>
    obtain ⟨w', cs', rfl, hww, hcs⟩ := hcs.append_cases
    obtain ⟨qs, rest', hqs, hrest, hpq⟩ := ih (hb.append hww) hcs
    exact ⟨qs, rest', .trivia (hw.alike hww) hqs, hrest, hpq⟩
  | lexeme hw ht _ ih =>
    obtain ⟨w', cs', rfl, hww, hcs⟩ := hcs.append_cases
    obtain ⟨t', ht', htt⟩ := ht.alike hww
    obtain ⟨qs, rest', hqs, hrest, hpq⟩ := ih (hb.append hww) hcs
    exact ⟨⟨t', before'⟩ :: qs, rest', .lexeme (hw.alike hww hcs) ht' hqs, hrest,
      .cons ⟨htt, hb⟩ hpq⟩

/-- Tokens in the same places are on the same lines. -/
theorem Placed.lexemes_alike (h : List.Forall₂ Placed.Alike ps qs) (hcs : CaseAlike cs ds) :
    (lexemes line cs ps).map (Lexeme.rename String.toLower) =
      (lexemes line ds qs).map (Lexeme.rename String.toLower) := by
  have hone {p q : Placed} (hpq : p.Alike q) :
      (p.lexeme line).rename String.toLower = (q.lexeme line).rename String.toLower := by
    rw [Lexeme.rename, Lexeme.rename, lexeme, lexeme, hpq.1, hpq.2.newlines_eq]
  have hend : Placed.Alike ⟨.eof, cs⟩ ⟨.eof, ds⟩ := ⟨rfl, hcs⟩
  rw [lexemes, lexemes, List.map_map, List.map_map]
  induction h with
  | nil => exact congrArg (· :: []) (hone hend)
  | cons hpq _ ih => exact congrArg₂ List.cons (hone hpq) ih

/-- A text with a defect has it in another letter case too, and is scanned to the same error. -/
theorem Locates.scan_stop_alike (h : Locates [] cs ps rest) (hpre : cs = before ++ rest)
    (hd : Defect (line + newlines before) rest e) (hcs : CaseAlike cs ds) :
    ∃ n, scanFrom line cs = .stop e n ∧ scanFrom line ds = .stop e n := by
  obtain ⟨qs, rest', hqs, hrest, -⟩ := h.alike (.refl []) hcs
  obtain ⟨before', hpre', -⟩ := hqs.scanFrom_eq line
  subst hpre hpre'
  have hbefore : CaseAlike before before' := hcs.of_append hrest
  have hd' : Defect (line + newlines before') rest' e := by
    rw [← hbefore.newlines_eq]
    exact hd.alike hrest
  have hscan' := hqs.scan_stop rfl hd'
  rw [← hbefore.newlines_eq, ← hcs.newlines_eq] at hscan'
  exact ⟨_, h.scan_stop rfl hd, hscan'⟩

end

/-- Two texts that are alike are scanned alike: to tokens in the same places, the same but for the
letter case of names, or to the same error. -/
theorem scan_alike {s s' : String} (h : s.toLower = s'.toLower) (line : Nat) :
    (∃ ps ps' n, Locates [] s.toList ps [] ∧ Locates [] s'.toList ps' [] ∧
      scan line s = .done (Placed.lexemes line s.toList ps) n ∧
      scan line s' = .done (Placed.lexemes line s'.toList ps') n ∧
      List.Forall₂ Placed.Alike ps ps') ∨
    ∃ e n, scan line s = .stop e n ∧ scan line s' = .stop e n := by
  have h := caseAlike_toList_iff.2 h
  rcases locates_cases line s.toList with ⟨ps, hps⟩ | ⟨before, ps, rest, e, hs, hps, hd⟩
  · obtain ⟨ps', rest', hps', hrest, halike⟩ := hps.alike (.refl []) h
    obtain rfl := hrest.eq_of_no_letter rfl
    have hscan' := hps'.scan_done line
    rw [← h.newlines_eq] at hscan'
    exact .inl ⟨ps, ps', _, hps, hps', hps.scan_done line, hscan', halike⟩
  · obtain ⟨n, hscan, hscan'⟩ := hps.scan_stop_alike hs hd h
    exact .inr ⟨e, n, hscan, hscan'⟩

/-! ## Messages -/

/-- A character is quoted like its small letter, but for case. -/
theorem Quoted.escape_toLower (c : Char) : CaseAlike (escape c.toLower) (escape c) :=
  apply_toLower (g := fun c => foldCase (escape c)) (by decide +kernel) c

/-- A text is quoted like its small letters, but for case. -/
theorem Quoted.text_toLower (x : String) : CaseAlike (text x.toLower).toList (text x).toList := by
  have hescape (cs : List Char) :
      CaseAlike ((foldCase cs).flatMap escape) (cs.flatMap escape) := by
    induction cs with
    | nil => exact .refl []
    | cons c cs ih => exact (escape_toLower c).append ih
  rw [text, text, String.toList_ofList, String.toList_ofList, toList_toLower]
  exact ((CaseAlike.refl ['"']).append (hescape x.toList)).append (.refl ['"'])

/-- A message names a token in the letter case of its name. -/
theorem Token.text_rename_toLower (t : Token) :
    (t.rename String.toLower).text.toLower = t.text.toLower := by
  cases t with
  | ident x =>
    rw [rename, text, text, ← caseAlike_toList_iff]
    simp only [String.toList_append]
    exact ((CaseAlike.refl _).append (Quoted.text_toLower x)).append (.refl _)
  | number | keyword | symbol | eof => rfl

/-- The error with the text of the token that was found changed by `f`. -/
def Error.mapFound (f : String → String) : Error → Error
  | .mismatch expected found line => .mismatch expected (f found) line
  | .unexpectedToken found line => .unexpectedToken (f found) line
  | e => e

/-- Errors about renamed tokens are equal once the names in them are in small letters. -/
theorem Error.Renamed.mapFound_eq {e e' : Error} (h : Renamed String.toLower e e') :
    e.mapFound String.toLower = e'.mapFound String.toLower := by
  cases h with
  | mismatch expected t line => rw [mapFound, mapFound, t.text_rename_toLower]
  | unexpectedToken t line => rw [mapFound, mapFound, t.text_rename_toLower]
  | unlocated => rfl

/-! ## Trees -/

/-- From tokens that are the same but for the letter case of names, programs are read that are the
same but for this, or the same error is reported but for the token that was found. -/
theorem Parser.program_alike {c c' : Cursor}
    (h : c.rename String.toLower = c'.rename String.toLower) :
    (∃ p p', (program c).toExcept = .ok p ∧ (program c').toExcept = .ok p' ∧
      p.rename String.toLower = p'.rename String.toLower) ∨
    ∃ e e', (program c).toExcept = .error e ∧ (program c').toExcept = .error e' ∧
      e.mapFound String.toLower = e'.mapFound String.toLower := by
  -- both runs are compared with the one on the tokens in lower case
  have hp := Renames.program (f := String.toLower) c
  have hp' := Renames.program (f := String.toLower) c'
  rw [← h] at hp'
  generalize program c = o, program c' = o', program (c.rename String.toLower) = lower at hp hp'
  cases hp with
  | done p d =>
    generalize hv : p.rename String.toLower = v, d.rename String.toLower = m at hp'
    cases hp' with
    | done p' => exact .inl ⟨p, p', rfl, rfl, hv⟩
  | stop d he =>
    generalize d.rename String.toLower = m at hp'
    cases hp' with
    | stop d' he' => exact .inr ⟨_, _, rfl, rfl, he.mapFound_eq.trans he'.mapFound_eq.symm⟩

/-- Letter case does not change the structure of a text. Two texts that are equal in lower case are
scanned to tokens that stand in the same places and on the same lines and that differ at most in the
letter case of names, each name being spelled as in its own text; or both scans fail with the same
error. And the same program is read from both, up to the letter case of names; or both readings
fail, with the same error up to the letter case of the token that was found. -/
theorem parse_letter_case {s s' : String} (h : s.toLower = s'.toLower) (line : Nat) :
    ((∃ ps ps' n, Locates [] s.toList ps [] ∧ Locates [] s'.toList ps' [] ∧
        List.Forall₂ Placed.Alike ps ps' ∧ scan line s = .done (Placed.lexemes line s.toList ps) n ∧
        scan line s' = .done (Placed.lexemes line s'.toList ps') n ∧
        (Placed.lexemes line s.toList ps).map (Lexeme.rename String.toLower) =
          (Placed.lexemes line s'.toList ps').map (Lexeme.rename String.toLower)) ∨
      ∃ e n, scan line s = .stop e n ∧ scan line s' = .stop e n) ∧
    ((∃ p p', Program.parse s = .ok p ∧ Program.parse s' = .ok p' ∧
        p.rename String.toLower = p'.rename String.toLower) ∨
      ∃ e e', Program.parse s = .error e ∧ Program.parse s' = .error e' ∧
        e.mapFound String.toLower = e'.mapFound String.toLower) := by
  have hlists := caseAlike_toList_iff.2 h
  constructor
  · refine (scan_alike h line).imp_left ?_
    rintro ⟨ps, ps', n, hps, hps', hs, hs', halike⟩
    exact ⟨ps, ps', n, hps, hps', halike, hs, hs', Placed.lexemes_alike halike hlists⟩
  · rw [Program.parse, Program.parse]
    obtain ⟨ps, ps', n, -, -, hs, hs', halike⟩ | ⟨e, n, hs, hs'⟩ := scan_alike h 1
    · rw [hs, hs']
      refine Parser.program_alike ?_
      rw [Cursor.rename_ofLexemes, Cursor.rename_ofLexemes, Placed.lexemes_alike halike hlists]
    · rw [hs, hs']
      exact .inr ⟨e, e, rfl, rfl, rfl⟩

/-- Keywords and names in other letter cases; and a name where the program should have ended. -/
theorem parse_letter_case_if :
    let name (x : String) : Expr := (Factor.ident x).toExpr
    let p : Program := ⟨[.ifThen (name "Ab") (.assign ⟨"c", []⟩ (name "X"))]⟩
    let p' : Program := ⟨[.ifThen (name "aB") (.assign ⟨"C", []⟩ (name "x"))]⟩
    let e : Error := .unexpectedToken "Ident(\"B\")" 1
    let e' : Error := .unexpectedToken "Ident(\"b\")" 1
    "IF Ab THEN c:=X".toLower = "if aB Then C:=x".toLower ∧
      Program.parse "IF Ab THEN c:=X" = .ok p ∧ Program.parse "if aB Then C:=x" = .ok p' ∧
      p.rename String.toLower = p'.rename String.toLower ∧
      "a B".toLower = "A b".toLower ∧
      Program.parse "a B" = .error e ∧ Program.parse "A b" = .error e' ∧
      e.mapFound String.toLower = e'.mapFound String.toLower := by
  intro name p p' e e'
  have hlower : "IF Ab THEN c:=X".toLower = "if aB Then C:=x".toLower :=
    caseAlike_toList_iff.1 (by decide +kernel)
  have hp : Program.parse "IF Ab THEN c:=X" = .ok p := by decide +kernel
  have hp' : Program.parse "if aB Then C:=x" = .ok p' := by decide +kernel
  have hlower' : "a B".toLower = "A b".toLower := caseAlike_toList_iff.1 (by decide +kernel)
  have he : Program.parse "a B" = .error e := by decide +kernel
  have he' : Program.parse "A b" = .error e' := by decide +kernel
  have hsame : p.rename String.toLower = p'.rename String.toLower := by
    obtain ⟨-, ⟨q, q', hq, hq', hsame⟩ | ⟨_, _, hq, -⟩⟩ := parse_letter_case hlower 1
    · rwa [Except.ok.inj (hp.symm.trans hq), Except.ok.inj (hp'.symm.trans hq')]
    · cases hp.symm.trans hq
  have hsame' : e.mapFound String.toLower = e'.mapFound String.toLower := by
    obtain ⟨-, ⟨_, _, hr, -⟩ | ⟨r, r', hr, hr', hsame⟩⟩ := parse_letter_case hlower' 1
    · cases he.symm.trans hr
    · rwa [Except.error.inj (he.symm.trans hr), Except.error.inj (he'.symm.trans hr')]
  exact ⟨hlower, hp, hp', hsame, hlower', he, he', hsame'⟩

end MiniPascal
