import MiniPascal.Character.Ranges

/-!
# The property White_Space

The twenty-five white space characters and the test `isBlank`.
-/

namespace MiniPascal.Character

/-- The white space characters. -/
def blankRanges : Ranges := [
  (0x9, 0xd), (0x20, 0x20), (0x85, 0x85), (0xa0, 0xa0), (0x1680, 0x1680), (0x2000, 0x200a),
  (0x2028, 0x2029), (0x202f, 0x202f), (0x205f, 0x205f), (0x3000, 0x3000)]

/-- The character is white space. -/
def isBlank (c : Char) : Bool :=
  blankRanges.contains c

end MiniPascal.Character
