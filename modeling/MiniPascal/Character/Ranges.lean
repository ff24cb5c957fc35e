/-!
# Sets of characters as closed ranges

A set of characters is written as a list of closed ranges of code points. `Ranges.contains` is its
membership test; the tables of the character properties are such lists, and the classes of a name
pattern are computed with them.
-/

namespace MiniPascal

/-- A set of code points: the union of the closed ranges listed. -/
abbrev Ranges := List (Nat × Nat)

namespace Ranges

/-- The code point `n` lies in one of the ranges. -/
def containsCode (rs : Ranges) (n : Nat) : Bool :=
  rs.any fun r => r.1 ≤ n && n ≤ r.2

/-- The character `c` lies in one of the ranges. -/
def contains (rs : Ranges) (c : Char) : Bool :=
  rs.containsCode c.toNat

@[simp] theorem containsCode_nil (n : Nat) : containsCode [] n = false := rfl

@[simp] theorem containsCode_cons (lo hi : Nat) (rs : Ranges) (n : Nat) :
    containsCode ((lo, hi) :: rs) n = ((lo ≤ n && n ≤ hi) || containsCode rs n) := rfl

/-- Membership in the union of two range lists is membership in one of them. -/
@[simp] theorem containsCode_append (rs ss : Ranges) (n : Nat) :
    containsCode (rs ++ ss) n = (rs.containsCode n || ss.containsCode n) := by
  simp [containsCode, List.any_append]

end Ranges

end MiniPascal
