import MiniPascal.Proofs.Blocks
import MiniPascal.Proofs.Counting
import MiniPascal.Proofs.References
import MiniPascal.Proofs.SourceFile
import MiniPascal.Proofs.Text.WellFormedness

/-!
# What a report is made of

`Inspection` says which blocks there are to print about a source file before the report ends, and
with which text of an error it ends, if any: that depends on the path, on what the file system has
under it and on the pattern to search for. The other options only choose among these blocks
(`report_blocks`).

What makes a test of the pattern is a parameter, so all of this holds whatever patterns there are.
-/

namespace MiniPascal

/-! ## Inspections -/

/-- The text of an error about a source text. -/
inductive Error.Shows : Error → String → Prop
  | unknownCharacter (c line) : Shows (.unknownCharacter c line)
      ("Unknown token '" ++ String.singleton c ++ "' at line " ++ Decimal.text line)
  | unterminatedComment (line) : Shows (.unterminatedComment line)
      ("Unterminated comment at line " ++ Decimal.text line)
  | invalidNumber (digits line) : Shows (.invalidNumber digits line)
      ("Invalid number '" ++ digits ++ "' at line " ++ Decimal.text line)
  | mismatch (expected found line) : Shows (.mismatch expected found line)
      ("Syntax error at line " ++ Decimal.text line ++ ": expected '" ++ expected ++ "', found '" ++
        found ++ "'")
  | unexpectedToken (found line) : Shows (.unexpectedToken found line)
      ("Unexpected token '" ++ found ++ "' at line " ++ Decimal.text line)

/-- The blocks about a source file that was read as a program, up to the search. -/
def Block.progress (path source : String) (tokens : Nat) (p : Program) (shown : Option String) :
    List Block :=
  [.reading path, .bytes source.utf8ByteSize, .scanned tokens, .parsed p.body.length, .tree shown,
    .counts p.count]

section
variable (compile : PatternCompiler)

/-- The blocks of a search: none without a pattern, else one with the references to the names that
fit. -/
inductive Program.Finds (p : Program) : Option String → List Block → Prop
  | nothing : Finds p none []
  | references {pattern keep} : compile pattern = .ok keep →
      Finds p (some pattern) [.matched pattern (p.references.filter fun r => keep r.name)]

/-- The blocks that there are to print about what stands under a path, and the text of the error
with which the inspection ends, if it does so before its last block. -/
inductive Inspection (path : String) (find : Option String) (entry : FileEntry) :
    List Block → Option String → Prop
  | unread {text} : SourceFile.Unreadable path entry text →
      Inspection path find entry [.reading path] (some text)
  | unscanned {source e n text} : SourceFile.Holds path entry source → scan 1 source = .stop e n →
      e.Shows text →
      Inspection path find entry [.reading path, .bytes source.utf8ByteSize] (some text)
  | unparsed {source ls n e c text} : SourceFile.Holds path entry source →
      scan 1 source = .done ls n → Parser.program (.ofLexemes ls) = .stop e c → e.Shows text →
      Inspection path find entry
        [.reading path, .bytes source.utf8ByteSize, .scanned ls.length] (some text)
  | unmatched {source ls n p c shown pattern detail} : SourceFile.Holds path entry source →
      scan 1 source = .done ls n → Parser.program (.ofLexemes ls) = .done p c → p.Shown shown →
      find = some pattern → compile pattern = .error detail →
      Inspection path find entry (Block.progress path source ls.length p shown)
        (some ("Invalid identifier pattern: " ++ detail))
  | complete {source ls n p c shown found} : SourceFile.Holds path entry source →
      scan 1 source = .done ls n → Parser.program (.ofLexemes ls) = .done p c → p.Shown shown →
      p.Finds compile find found →
      Inspection path find entry
        (Block.progress path source ls.length p shown ++ found ++ [.timing ls.length, .success])
        none

end

/-! ## Texts of errors -/

section
variable {source text : String} {e : Error} {ls : List Lexeme} {n : Nat} {c : Cursor}

/-- The message of an error about a source text is the text for it. -/
theorem Error.Shows.message_eq (h : e.Shows text) : e.message = text := by
  cases h <;> rfl

/-- There is a text for every error about the pieces of a source text. -/
theorem Error.exists_shows_of_scan (h : scan 1 source = .stop e n) : ∃ text, e.Shows text := by
  obtain ⟨pre, us, rest, -, -, hdefect⟩ := scan_stop_iff.1 ⟨n, h⟩
  cases hdefect with
  | brace | star => exact ⟨_, .unterminatedComment _⟩
  | number => exact ⟨_, .invalidNumber _ _⟩
  | unknown => exact ⟨_, .unknownCharacter _ _⟩

/-- There is a text for every error about the tokens of a source text, since none of its numbers is
negative. -/
theorem Error.exists_shows_of_program (hscan : scan 1 source = .done ls n)
    (hparse : Parser.program (.ofLexemes ls) = .stop e c) : ∃ text, e.Shows text := by
  obtain ⟨ts, hts, hlexical⟩ := scanFrom_isLexical hscan
  have hfault : e.isFault = false :=
    Parser.program_stops.isFault_eq_false hts (Token.AllLexical.nonneg hlexical)
      (Outcome.toExcept_eq_error_iff.2 ⟨c, hparse⟩)
  obtain ⟨us, -, -, hreports⟩ := Parser.program_stops _ hparse
  cases hreports with
  | mismatch => exact ⟨_, .mismatch _ _ _⟩
  | unexpected => exact ⟨_, .unexpectedToken _ _⟩
  | overflow => cases hfault

end

/-- What is shown of a tree. -/
theorem Program.exists_shown (p : Program) : ∃ shown, p.Shown shown := by
  by_cases h : ∀ s ∈ p.body, s = .empty
  · exact ⟨none, .nothing h⟩
  · push Not at h
    exact ⟨some p.text, .text h⟩

/-! ## Runs -/

section
variable {α : Type}

/-- A run goes on with a result that is no error. -/
theorem orStop_ok (a : α) : orStop (.ok a) = pure a := rfl

/-- A run gives up with a result that is an error. -/
theorem orStop_error (e : Error) : (orStop (.error e) : Run String α) = Run.fail e := rfl

end

/-- Going on after a text is printed or not, in the same way. -/
theorem ite_printIf (asked : Bool) (text : String) (next : Run String Unit) :
    (if asked = true then printIf true text >>= fun _ => next else next) =
      printIf asked text >>= fun _ => next := by
  cases asked <;> rfl

/-- How a run ends that prints a text: with an error that has the given message, or with none. -/
inductive Ends (out : String) : Option String → Outcome String Unit → Prop
  | done : Ends out none (.done () out)
  | stop {e text} : e.message = text → Ends out (some text) (.stop e out)

/-- Prints a block if it was asked for. -/
def Block.print (o : Options) (t : Timing) (out : String) (b : Block) : String :=
  if o.asksFor b.kind then out ++ b.text t else out

/-- Printing blocks one after the other. -/
theorem Block.foldl_print (o : Options) (t : Timing) (blocks : List Block) (out : String) :
    blocks.foldl (print o t) out = out ++ printed o t blocks := by
  induction blocks generalizing out with
  | nil => exact (String.append_empty ..).symm
  | cons b blocks ih =>
    rw [List.foldl_cons, ih, print, printed, printed, List.filter_cons]
    split
    · rw [List.map_cons, String.join_cons, String.append_assoc]
    · rfl

section
variable {compile : PatternCompiler} {o : Options} {entry : FileEntry} {t : Timing}
  {blocks : List Block} {failure : Option String}

/-- Every source file has an inspection. -/
theorem exists_inspection (compile : PatternCompiler) (path : String) (find : Option String)
    (entry : FileEntry) : ∃ blocks failure, Inspection compile path find entry blocks failure := by
  obtain ⟨source, hholds⟩ | ⟨text, hunreadable⟩ := SourceFile.holds_or_unreadable path entry
  swap
  · exact ⟨_, _, .unread hunreadable⟩
  cases hscan : scan 1 source with
  | stop e n =>
    obtain ⟨text, htext⟩ := Error.exists_shows_of_scan hscan
    exact ⟨_, _, .unscanned hholds hscan htext⟩
  | done ls n =>
    cases hparse : Parser.program (.ofLexemes ls) with
    | stop e c =>
      obtain ⟨text, htext⟩ := Error.exists_shows_of_program hscan hparse
      exact ⟨_, _, .unparsed hholds hscan hparse htext⟩
    | done p c =>
      obtain ⟨shown, hshown⟩ := p.exists_shown
      cases find with
      | none => exact ⟨_, _, .complete hholds hscan hparse hshown .nothing⟩
      | some pattern =>
        cases hcompile : compile pattern with
        | error detail => exact ⟨_, _, .unmatched hholds hscan hparse hshown rfl hcompile⟩
        | ok keep => exact ⟨_, _, .complete hholds hscan hparse hshown (.references hcompile)⟩

/-- A source file that holds a program is read as that program. -/
theorem buildTree_apply {source : String} {ls : List Lexeme} {n : Nat} {p : Program} {c : Cursor}
    (hholds : SourceFile.Holds o.path entry source) (hscan : scan 1 source = .done ls n)
    (hparse : Parser.program (.ofLexemes ls) = .done p c) :
    buildTree o entry t "" = .done (p, ls.length)
      ([.reading o.path, .bytes source.utf8ByteSize, .scanned ls.length,
        .parsed p.body.length].foldl (Block.print o t) "") := by
  simp only [buildTree, hholds.exists?, hholds.read_eq, orStop_ok, pure_bind, hscan,
    Outcome.toExcept_done, hparse, reading_eq t, bytes_eq t, scanned_eq, parsed_eq]
  rfl

/-- A run prints the blocks of the inspection, and it fails if the inspection does. -/
theorem Inspection.report_ends (h : Inspection compile o.path o.find entry blocks failure) :
    Ends (Block.printed o t blocks) failure (report compile o entry t "") := by
  have hfold : blocks.foldl (Block.print o t) "" = Block.printed o t blocks := by
    rw [Block.foldl_print, String.empty_append]
  rw [← hfold]
  obtain ⟨path, verbose, timing, showTree, stats, find⟩ := o
  cases h with
  | unread hunreadable =>
    by_cases hentry : entry = .absent
    · subst hentry
      cases hunreadable with
      | missing =>
        simp only [report, buildTree, FileEntry.exists?, reading_eq t]
        exact .stop rfl
      | foreign hne => exact absurd rfl hne
    · obtain ⟨hexists, e, hread, hmessage⟩ := hunreadable.exists_read_eq hentry
      simp only [report, buildTree, hexists, hread, orStop_error, reading_eq t]
      exact .stop hmessage
  | unscanned hholds hscan htext =>
    simp only [report, buildTree, hholds.exists?, hholds.read_eq, orStop_ok, pure_bind, hscan,
      Outcome.toExcept_stop, orStop_error, reading_eq t, bytes_eq t]
    exact .stop htext.message_eq
  | unparsed hholds hscan hparse htext =>
    simp only [report, buildTree, hholds.exists?, hholds.read_eq, orStop_ok, pure_bind, hscan,
      Outcome.toExcept_done, hparse, Outcome.toExcept_stop, orStop_error, reading_eq t, bytes_eq t,
      scanned_eq]
    exact .stop htext.message_eq
  | unmatched hholds hscan hparse hshown hfind hcompile =>
    obtain rfl : find = _ := hfind
    rw [report, Run.bind_apply, buildTree_apply hholds hscan hparse]
    simp only [treeBlock_eq t hshown, Program.countNodes_eq, countsBlock_eq t, orStop_ok, pure_bind,
      ite_printIf, Program.search, hcompile, orStop_error]
    exact .stop rfl
  | complete hholds hscan hparse hshown hfinds =>
    rw [report, Run.bind_apply, buildTree_apply hholds hscan hparse]
    simp only [treeBlock_eq t hshown, Program.countNodes_eq, countsBlock_eq t, orStop_ok, pure_bind,
      ite_printIf, timingBlock_eq, success_eq t]
    cases hfinds with
    | nothing => exact .done
    | references hcompile =>
      simp only [Program.search_of_ok hcompile, orStop_ok, pure_bind, matchesBlock_eq t]
      exact .done

/-- A run leaves behind the blocks of the inspection, and the text of its error. -/
theorem Inspection.ofRun_report (h : Inspection compile o.path o.find entry blocks failure) :
    Report.ofRun (report compile o entry t) =
      ⟨if failure.isSome then 1 else 0, Block.printed o t blocks,
        failure.elim "" fun text => "Error: Failed: " ++ text ++ "\n"⟩ := by
  have hends := h.report_ends (t := t)
  rw [Report.ofRun]
  generalize report compile o entry t "" = outcome at hends
  cases hends with
  | done => rfl
  | stop hmessage =>
    subst hmessage
    rfl

end

/-! ## Failures -/

section
variable {compile : PatternCompiler} {path : String} {find : Option String} {entry : FileEntry}
  {blocks : List Block} {failure : Option String}

/-- The path names a source file, the text of the file is a program, and the pattern to search for,
if there is one, is well formed. -/
structure Acceptable (compile : PatternCompiler) (path : String) (find : Option String)
    (entry : FileEntry) : Prop where
  extension : SourceFile.Named path
  program : ∃ bytes source p, entry = .file bytes ∧ String.fromUTF8? bytes = some source ∧
    Program.parse source = .ok p
  pattern : ∀ text ∈ find, ∃ keep, compile text = .ok keep

/-- A text is read as a program if the scan of the text succeeds and then the parser. -/
theorem Program.parse_eq_ok_iff_done {source : String} {p : Program} :
    Program.parse source = .ok p ↔ ∃ ls n c, scan 1 source = .done ls n ∧
      Parser.program (.ofLexemes ls) = .done p c := by
  rw [Program.parse]
  cases hscan : scan 1 source with
  | stop e n => simp [bind, Except.bind]
  | done ls n =>
    show (Parser.program (.ofLexemes ls)).toExcept = .ok p ↔ _
    simp [Outcome.toExcept_eq_ok_iff]

/-- The pattern of a search that finds something is well formed. -/
theorem Program.Finds.pattern {p : Program} (h : p.Finds compile find blocks) :
    ∀ text ∈ find, ∃ keep, compile text = .ok keep := by
  rintro text hmem
  cases h with
  | nothing => cases hmem
  | references hcompile =>
    cases hmem
    exact ⟨_, hcompile⟩

/-- An inspection goes to its last block if what it inspects is acceptable. -/
theorem Inspection.failure_eq_none_iff (h : Inspection compile path find entry blocks failure) :
    failure = none ↔ Acceptable compile path find entry := by
  constructor
  · rintro rfl
    cases h with
    | complete hholds hscan hparse _ hfinds =>
      obtain ⟨hnamed, hdecoded⟩ := hholds
      have hprogram := Program.parse_eq_ok_iff_done.2 ⟨_, _, _, hscan, hparse⟩
      exact ⟨hnamed, ⟨_, _, _, rfl, hdecoded, hprogram⟩, hfinds.pattern⟩
  · rintro ⟨hnamed, ⟨bytes, source, p, rfl, hdecoded, hprogram⟩, hpattern⟩
    have hread := (SourceFile.Holds.file hnamed hdecoded).read_eq
    obtain ⟨ls, n, c, hscan, hparse⟩ := Program.parse_eq_ok_iff_done.1 hprogram
    -- every other end contradicts one of these facts
    cases h with
    | unread hunreadable =>
      exact absurd hunreadable (SourceFile.Holds.file hnamed hdecoded).not_unreadable
    | unscanned hholds hscan' =>
      cases hread.symm.trans hholds.read_eq
      cases hscan.symm.trans hscan'
    | unparsed hholds hscan' hparse' =>
      cases hread.symm.trans hholds.read_eq
      cases hscan.symm.trans hscan'
      cases hparse.symm.trans hparse'
    | unmatched _ _ _ _ hfind hrefused =>
      obtain ⟨keep, hcompile⟩ := hpattern _ hfind
      cases hcompile.symm.trans hrefused
    | complete => rfl

/-- The kinds of the blocks before the search, in their order. -/
def BlockKind.progress : List BlockKind :=
  [.reading, .bytes, .scanned, .parsed, .tree, .counts]

/-- The kinds of the blocks of a whole report, in their order. -/
def BlockKind.order (find : Option String) : List BlockKind :=
  progress ++ (if find.isSome then [.matched] else []) ++ [.timing, .success]

/-- The blocks stand in a fixed order, and a failure cuts them off before the search. -/
theorem Inspection.kinds (h : Inspection compile path find entry blocks failure) :
    if failure.isSome then blocks.map Block.kind <+: BlockKind.progress
    else blocks.map Block.kind = BlockKind.order find := by
  cases h with
  | unread => exact ⟨[.bytes, .scanned, .parsed, .tree, .counts], rfl⟩
  | unscanned => exact ⟨[.scanned, .parsed, .tree, .counts], rfl⟩
  | unparsed => exact ⟨[.parsed, .tree, .counts], rfl⟩
  | unmatched => exact ⟨[], rfl⟩
  | complete _ _ _ _ hfinds => cases hfinds <;> rfl

/-- Without a pattern there are the same blocks to print, but no found references; a failure leaves
out the blocks after it. -/
theorem Inspection.others (h : Inspection compile path find entry blocks failure) :
    ∃ whole ended, Inspection compile path none entry whole ended ∧
      if failure.isSome then blocks <+: whole
      else (blocks.filter fun b => b.kind ≠ .matched) = whole := by
  cases h with
  | unread hunreadable => exact ⟨_, _, .unread hunreadable, List.prefix_rfl⟩
  | unscanned hholds hscan htext =>
    exact ⟨_, _, .unscanned hholds hscan htext, List.prefix_rfl⟩
  | unparsed hholds hscan hparse htext =>
    exact ⟨_, _, .unparsed hholds hscan hparse htext, List.prefix_rfl⟩
  | unmatched hholds hscan hparse hshown =>
    refine ⟨_, _, .complete hholds hscan hparse hshown .nothing, ?_⟩
    exact (List.prefix_append _ _).trans (List.prefix_append _ _)
  | complete hholds hscan hparse hshown hfinds =>
    refine ⟨_, _, .complete hholds hscan hparse hshown .nothing, ?_⟩
    cases hfinds <;> rfl

end

/-! ## All options -/

/-- What a report prints is decided by the path, by what stands under it and by the pattern to
search for, up to which blocks are asked for. These three give a list of blocks, in a fixed order,
and perhaps the text of an error. With any other options and any times, the output is the texts of
the blocks asked for, the exit code tells whether there is an error, and the error output is its
text. There is none exactly if the file is an acceptable source file, and then the report is whole;
otherwise it ends before the search. The pattern decides about no other block. -/
theorem report_blocks (compile : PatternCompiler) (path : String) (find : Option String)
    (entry : FileEntry) :
    ∃ blocks failure, Inspection compile path find entry blocks failure ∧
      (∀ verbose timing showTree stats t,
        let o : Options := ⟨path, verbose, timing, showTree, stats, find⟩
        Report.ofRun (report compile o entry t) =
          ⟨if failure.isSome then 1 else 0, Block.printed o t blocks,
            failure.elim "" fun text => "Error: Failed: " ++ text ++ "\n"⟩) ∧
      (failure = none ↔ Acceptable compile path find entry) ∧
      (if failure.isSome then blocks.map Block.kind <+: BlockKind.progress
      else blocks.map Block.kind = BlockKind.order find) ∧
      ∃ whole ended, Inspection compile path none entry whole ended ∧
        if failure.isSome then blocks <+: whole
        else (blocks.filter fun b => b.kind ≠ .matched) = whole := by
  obtain ⟨blocks, failure, h⟩ := exists_inspection compile path find entry
  exact ⟨blocks, failure, h, fun _ _ _ _ _ => h.ofRun_report, h.failure_eq_none_iff, h.kinds,
    h.others⟩

/-- A whole report without the times. -/
example :
    let keep : PatternCompiler := fun _ => .ok (· = "n")
    let source := "if n > 1 then halt(n);"
    Report.ofRun (report keep ⟨"dir/x.pas", false, false, true, true, some "^n$"⟩
      (.file source.toUTF8) ⟨0, 0, 0⟩) = ⟨0,
        "\nAbstract Syntax Tree:\nif n > 1 then\n  halt(n);\n\n" ++
        "\nNode counts:\n  Statements:          3\n  Case arms:           0\n" ++
        "  Case labels:         0\n  Expressions:         2\n  Simple expressions:  3\n" ++
        "  Terms:               3\n  Factors:             3\n  Designators:         0\n" ++
        "  Designator items:    0\n  Total:               14\n" ++
        "\nIdentifiers matching '^n$':\n  n                    read\n" ++
        "  n                    read\n", ""⟩ := by
  decide +kernel

/-- A report that ends with the scan. -/
example :
    let refuse : PatternCompiler := fun _ => .error "no"
    Report.ofRun (report refuse ⟨"x.p", true, true, true, true, some ""⟩
      (.file "a\n(* b".toUTF8) ⟨0, 0, 0⟩) = ⟨1,
        "Reading: x.p\nRead 6 bytes from input file\n",
        "Error: Failed: Unterminated comment at line 2\n"⟩ := by
  decide +kernel

end MiniPascal
