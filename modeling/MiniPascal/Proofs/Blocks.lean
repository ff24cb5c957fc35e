import MiniPascal.CommandLine.Report

/-!
# Blocks of a report

What a report prints comes in blocks, each with a kind and with lines of its own. The lines are
written out here in full, and the functions that print are shown to give them.
-/

namespace MiniPascal

/-! ## Blocks -/

/-- The kinds of blocks. -/
inductive BlockKind where
  | reading | bytes | scanned | parsed | tree | counts | matched | timing | success
  deriving DecidableEq

/-- A block and what it tells about the source file. A tree has no text if there is nothing in it
but empty statements. -/
inductive Block where
  | reading (path : String)
  | bytes (count : Nat)
  | scanned (tokens : Nat)
  | parsed (statements : Nat)
  | tree (text : Option String)
  | counts (c : NodeCount)
  | matched (pattern : String) (refs : List Reference)
  | timing (tokens : Nat)
  | success

/-- The text of lines, each with a line break at its end. -/
def unlines (ls : List String) : String :=
  String.join (ls.map fun line => line ++ "\n")

/-- A text of nothing but spaces. -/
def spaces (n : Nat) : String :=
  String.ofList (List.replicate n ' ')

/-- Milliseconds in seconds, with three digits for the milliseconds. -/
def Timing.seconds (ms : Nat) : String :=
  Decimal.text (ms / 1000) ++ "." ++
    String.ofList
      [Nat.digitChar (ms % 1000 / 100), Nat.digitChar (ms % 1000 / 10 % 10),
        Nat.digitChar (ms % 1000 % 10)]

/-- The words for the part that a name plays. -/
def Reference.words (r : Reference) : String :=
  match r.role with
  | .read => "read"
  | .assigned => "assigned"
  | .called => "called"
  | .loopVariable => "loop variable"
  | .memoryTarget => "memory target"
  | .caseLabel => "case label"

namespace Block

/-- The kind of a block. -/
def kind : Block → BlockKind
  | .reading _ => .reading
  | .bytes _ => .bytes
  | .scanned _ => .scanned
  | .parsed _ => .parsed
  | .tree _ => .tree
  | .counts _ => .counts
  | .matched _ _ => .matched
  | .timing _ => .timing
  | .success => .success

/-- The lines of a block. -/
def lines (t : Timing) : Block → List String
  | .reading path => ["Reading: " ++ path]
  | .bytes count => ["Read " ++ Decimal.text count ++ " bytes from input file"]
  | .scanned tokens =>
    ["Lexical analysis completed in " ++ Timing.seconds t.scanning ++ "s",
      "  Generated " ++ Decimal.text tokens ++ " tokens"]
  | .parsed statements =>
    ["Parsing completed in " ++ Timing.seconds t.parsing ++ "s",
      "  Parsed " ++ Decimal.text statements ++ " top-level statements"]
  | .tree none => ["", "Abstract Syntax Tree:", "  (empty)"]
  | .tree (some text) => ["", "Abstract Syntax Tree:", text]
  | .counts c =>
    ["", "Node counts:",
      "  Statements:          " ++ Decimal.text c.statements,
      "  Case arms:           " ++ Decimal.text c.caseArms,
      "  Case labels:         " ++ Decimal.text c.caseLabels,
      "  Expressions:         " ++ Decimal.text c.expressions,
      "  Simple expressions:  " ++ Decimal.text c.simpleExpressions,
      "  Terms:               " ++ Decimal.text c.terms,
      "  Factors:             " ++ Decimal.text c.factors,
      "  Designators:         " ++ Decimal.text c.designators,
      "  Designator items:    " ++ Decimal.text c.selectors,
      "  Total:               " ++ Decimal.text (c.toList.foldr (· + ·) 0 : Nat)]
  | .matched pattern [] => ["", "Identifiers matching '" ++ pattern ++ "':", "  (none)"]
  | .matched pattern refs =>
    "" :: ("Identifiers matching '" ++ pattern ++ "':") ::
      refs.map fun r => "  " ++ r.name ++ spaces (20 - r.name.length) ++ " " ++ r.words
  | .timing tokens =>
    let column (s : String) : String := spaces (8 - s.length) ++ s
    ["", "Phase timing:",
      "  Lexical analysis  " ++ column (Timing.seconds t.scanning) ++ "s",
      "  Parsing           " ++ column (Timing.seconds t.parsing) ++ "s",
      "  Total             " ++ column (Timing.seconds t.total) ++ "s",
      "  Tokens            " ++ column (Decimal.text tokens)]
  | .success => ["Parsing successful!"]

/-- The text of a block. -/
def text (t : Timing) (b : Block) : String :=
  unlines (b.lines t)

end Block

/-- The options ask for blocks of the kind. -/
def Options.asksFor (o : Options) : BlockKind → Bool
  | .reading | .bytes | .scanned | .parsed | .success => o.verbose
  | .tree => o.showTree
  | .counts => o.stats
  | .matched => o.find.isSome
  | .timing => o.timing

/-- The texts of the blocks that were asked for, one after the other. -/
def Block.printed (o : Options) (t : Timing) (blocks : List Block) : String :=
  String.join ((blocks.filter fun b => o.asksFor b.kind).map (text t))

/-- What is shown of the tree: nothing if there are only empty statements, else its text. -/
inductive Program.Shown (p : Program) : Option String → Prop
  | nothing : (∀ s ∈ p.body, s = .empty) → Shown p none
  | text : (∃ s ∈ p.body, s ≠ .empty) → Shown p (some p.text)

/-! ## Layout -/

theorem unlines_nil : unlines [] = "" := rfl

theorem unlines_cons (line : String) (ls : List String) :
    unlines (line :: ls) = line ++ "\n" ++ unlines ls := by
  rw [unlines, List.map_cons, String.join_cons, unlines]

theorem unlines_map {α : Type} (f : α → String) (xs : List α) :
    unlines (xs.map f) = String.join (xs.map fun x => f x ++ "\n") := by
  rw [unlines, List.map_map]
  rfl

/-- The digits of a number of milliseconds below a second. -/
theorem replicate_append_digits {k : Nat} (hk : k < 1000) :
    List.replicate (3 - (Decimal.digits k).length) '0' ++ Decimal.digits k =
      [Nat.digitChar (k / 100), Nat.digitChar (k / 10 % 10), Nat.digitChar (k % 10)] := by
  rw [Decimal.digits]
  by_cases h10 : k < 10
  · rw [Nat.toDigits_of_lt_base h10, Nat.div_eq_of_lt h10, Nat.mod_eq_of_lt h10,
      Nat.div_eq_of_lt (Nat.lt_trans h10 (by decide))]
    rfl
  rw [Nat.toDigits_of_base_le (by decide) (Nat.le_of_not_lt h10)]
  by_cases h100 : k < 100
  · have htens : k / 10 < 10 := by omega
    rw [Nat.toDigits_of_lt_base htens, Nat.div_eq_of_lt h100, Nat.mod_eq_of_lt htens]
    rfl
  · have hhundreds : k / 10 / 10 < 10 := by omega
    rw [Nat.toDigits_of_base_le (by decide) (by omega), Nat.toDigits_of_lt_base hhundreds,
      Nat.div_div_eq_div_mul]
    rfl

/-- Seconds are shown with the digits of the milliseconds. -/
theorem secondsText_eq (ms : Nat) : secondsText ms = Timing.seconds ms := by
  rw [secondsText, Timing.seconds, replicate_append_digits (Nat.mod_lt _ (by decide))]

/-- The text of a role is the words for it. -/
theorem text_eq_words (r : Reference) : r.role.text = r.words := by
  rw [Reference.words]
  cases r.role <;> rfl

/-- A line of the counts begins with its label and the spaces after it. -/
theorem countLine_eq {label start : String} (h : "  " ++ padRight 21 label = start) (n : Nat) :
    countLine label n = start ++ Decimal.text n ++ "\n" := by
  rw [countLine, h]

/-- The counts are printed line by line. -/
theorem countsBlock_eq (t : Timing) (c : NodeCount) : countsBlock c = (Block.counts c).text t := by
  have htotal : c.toList.foldr (· + ·) 0 = c.total := by
    simp [NodeCount.toList, NodeCount.total, Nat.add_assoc]
  have hheading : "\nNode counts:\n" = "\n" ++ "Node counts:" ++ "\n" := rfl
  unfold countsBlock
  rw [Block.text, Block.lines, htotal, hheading,
    @countLine_eq "Statements:" "  Statements:          " rfl,
    @countLine_eq "Case arms:" "  Case arms:           " rfl,
    @countLine_eq "Case labels:" "  Case labels:         " rfl,
    @countLine_eq "Expressions:" "  Expressions:         " rfl,
    @countLine_eq "Simple expressions:" "  Simple expressions:  " rfl,
    @countLine_eq "Terms:" "  Terms:               " rfl,
    @countLine_eq "Factors:" "  Factors:             " rfl,
    @countLine_eq "Designators:" "  Designators:         " rfl,
    @countLine_eq "Designator items:" "  Designator items:    " rfl,
    @countLine_eq "Total:" "  Total:               " rfl]
  simp only [unlines_cons, unlines_nil, String.append_assoc, String.append_empty,
    String.empty_append]

/-- What was found is printed line by line. -/
theorem matchesBlock_eq (t : Timing) (pattern : String) (refs : List Reference) :
    matchesBlock pattern refs = (Block.matched pattern refs).text t := by
  have hstart : "\nIdentifiers matching '" = "\n" ++ "Identifiers matching '" := rfl
  have hend : "':\n" = "':" ++ "\n" := rfl
  have hnone : "  (none)\n" = "  (none)" ++ "\n" := rfl
  unfold matchesBlock
  rw [hstart, hend, Block.text]
  cases refs with
  | nil =>
    simp only [Block.lines, hnone, unlines_cons, unlines_nil, String.append_assoc,
      String.append_empty, String.empty_append, List.isEmpty_nil, if_true]
  | cons r refs =>
    rw [Block.lines, unlines_cons, unlines_cons, unlines_map]
    · simp only [text_eq_words, padRight, spaces, List.isEmpty_cons, String.append_assoc,
        String.empty_append]
      rfl
    · nofun

/-- The times are printed line by line. -/
theorem timingBlock_eq (t : Timing) (tokens : Nat) :
    timingBlock t tokens = (Block.timing tokens).text t := by
  have hheading : "\nPhase timing:\n" = "\n" ++ "Phase timing:" ++ "\n" := rfl
  have hend : "s\n" = "s" ++ "\n" := rfl
  unfold timingBlock
  simp only [Block.text, Block.lines, hheading, hend, secondsText_eq, padLeft, spaces,
    unlines_cons, unlines_nil, String.append_assoc, String.append_empty, String.empty_append]

/-- The tree is printed, unless there is nothing to show of it. -/
theorem treeBlock_eq (t : Timing) {p : Program} {shown : Option String} (h : p.Shown shown) :
    treeBlock p = (Block.tree shown).text t := by
  have hheading : "\nAbstract Syntax Tree:\n" = "\n" ++ "Abstract Syntax Tree:" ++ "\n" := rfl
  unfold treeBlock
  rw [hheading, Block.text]
  cases h with
  | nothing hempty =>
    have hall : p.body.all Stmt.isEmpty = true := by simpa using hempty
    rw [if_pos hall]
    simp only [Block.lines, unlines_cons, unlines_nil, String.append_assoc, String.append_empty,
      String.empty_append]
  | text hsome =>
    have hall : ¬p.body.all Stmt.isEmpty = true := by simpa using hsome
    rw [if_neg hall]
    simp only [Block.lines, unlines_cons, unlines_nil, String.append_assoc, String.append_empty,
      String.empty_append]

section
variable (t : Timing)

/-- The line with the path is printed as its block. -/
theorem reading_eq (path : String) : "Reading: " ++ path ++ "\n" = (Block.reading path).text t := by
  rw [Block.text, Block.lines, unlines_cons, unlines_nil, String.append_empty]

/-- The line with the length of the source is printed as its block. -/
theorem bytes_eq (count : Nat) :
    "Read " ++ Decimal.text count ++ " bytes from input file\n" = (Block.bytes count).text t := by
  have hend : " bytes from input file\n" = " bytes from input file" ++ "\n" := rfl
  rw [Block.text, Block.lines, unlines_cons, unlines_nil, String.append_empty, hend,
    ← String.append_assoc]

/-- The lines about the scan are printed as their block. -/
theorem scanned_eq (tokens : Nat) :
    "Lexical analysis completed in " ++ secondsText t.scanning ++ "s\n" ++ "  Generated " ++
      Decimal.text tokens ++ " tokens\n" = (Block.scanned tokens).text t := by
  have hend : "s\n" = "s" ++ "\n" := rfl
  have hend' : " tokens\n" = " tokens" ++ "\n" := rfl
  simp only [hend, hend', secondsText_eq, Block.text, Block.lines, unlines_cons, unlines_nil,
    String.append_assoc, String.append_empty]

/-- The lines about the parser are printed as their block. -/
theorem parsed_eq (statements : Nat) :
    "Parsing completed in " ++ secondsText t.parsing ++ "s\n" ++ "  Parsed " ++
      Decimal.text statements ++ " top-level statements\n" = (Block.parsed statements).text t := by
  have hend : "s\n" = "s" ++ "\n" := rfl
  have hend' : " top-level statements\n" = " top-level statements" ++ "\n" := rfl
  simp only [hend, hend', secondsText_eq, Block.text, Block.lines, unlines_cons, unlines_nil,
    String.append_assoc, String.append_empty]

/-- The last line is printed as its block. -/
theorem success_eq : "Parsing successful!\n" = Block.success.text t := by
  rw [Block.text, Block.lines, unlines_cons, unlines_nil, String.append_empty]
  rfl

end

end MiniPascal
