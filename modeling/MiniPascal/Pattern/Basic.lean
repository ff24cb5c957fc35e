/-!
# Name patterns

A pattern describes texts by characters, conditions on the place between two characters, sequence,
choice and repetition. `Pattern.matchesIn` tells whether some part of a text fits. A match is
computed for all places of the text at once: `Pattern.advance` sends the places where a part may
begin to the places where it may then end, following the pattern.
-/

namespace MiniPascal

/-- A description of texts. -/
inductive Pattern where
  /-- The empty text. -/
  | empty
  /-- One character of a set. -/
  | char (set : Char → Bool)
  /-- The empty text where the characters before and after satisfy a condition. -/
  | place (holds : Option Char → Option Char → Bool)
  /-- One part after the other. -/
  | seq (p q : Pattern)
  /-- One part or the other. -/
  | alt (p q : Pattern)
  /-- The part at least `least` times and, if `most` is given, at most that often. -/
  | rep (p : Pattern) (least : Nat) (most : Option Nat)

/-! ## Places of a text -/

/-- A choice among the places of a text: one mark for the place before each character, and one for
the end. -/
abbrev Places := List Bool

namespace Places

/-- All places of a text. -/
def all (text : List Char) : Places := List.replicate (text.length + 1) true

/-- The places in either choice. -/
def union (is js : Places) : Places := List.zipWith or is js

/-- The places after the characters of a set that stand at the given places. -/
def after (set : Char → Bool) (text : List Char) (is : Places) : Places :=
  false :: List.zipWith (fun c marked => marked && set c) text is

/-- The places where the characters before and after satisfy a condition; `before` is the character
that stands before the text. -/
def filter (holds : Option Char → Option Char → Bool) :
    (before : Option Char) → List Char → Places → Places
  | before, c :: rest, marked :: is =>
    (marked && holds before (some c)) :: filter holds (some c) rest is
  | before, [], marked :: _ => [marked && holds before none]
  | _, _, [] => []

end Places

/-! ## Matching -/

namespace Pattern

/-- The function applied a number of times, or fewer if that changes nothing any more. -/
def iterate {α : Type} [DecidableEq α] (f : α → α) : Nat → α → α
  | 0, a => a
  | n + 1, a => if f a = a then a else iterate f n (f a)

/-- The places where a text that begins at one of the given places may end. Repeating a part more
often than there are places reaches nothing new. -/
def advance (text : List Char) : Pattern → Places → Places
  | .empty, is => is
  | .char set, is => Places.after set text is
  | .place holds, is => Places.filter holds none text is
  | .seq p q, is => q.advance text (p.advance text is)
  | .alt p q, is => Places.union (p.advance text is) (q.advance text is)
  | .rep p least most, is =>
    let rounds := text.length + 1
    let further := match most with
      | none => rounds
      | some n => Nat.min (n - least) rounds
    iterate (fun js => Places.union js (p.advance text js)) further
      (iterate (p.advance text) (Nat.min least rounds) is)

/-- Some part of the text fits the pattern. -/
def matchesIn (p : Pattern) (text : List Char) : Bool :=
  (p.advance text (Places.all text)).any id

/-- The number of single characters and places, each repetition counted out. -/
def size : Pattern → Nat
  | .empty => 0
  | .char _ | .place _ => 1
  | .seq p q | .alt p q => p.size + q.size
  | .rep p least most => p.size * Nat.max 1 (Nat.max least (most.getD 0))

end Pattern

end MiniPascal
