import MiniPascal.Token

/-!
# Operators

The operators of expressions, the two directions of a counted loop and the two memory statements.
Each is written as one token (`token`); `ofToken?` is the inverse of that, so the same table serves
reading and writing.
-/

namespace MiniPascal

/-- How a token is written in a program. -/
def Token.spelling : Token → String
  | .ident name => name
  | .number n => Decimal.text n.toInt
  | .keyword k => k.word
  | .symbol s => s.spelling
  | .eof => ""

/-! ## Signs -/

/-- The leading sign of a simple expression. -/
inductive Sign where
  | plus | minus
  deriving DecidableEq

namespace Sign

/-- Both signs. -/
def all : List Sign := [.plus, .minus]

/-- The name of a sign. -/
def name : Sign → String
  | .plus => "Plus"
  | .minus => "Minus"

/-- The token a sign is written as. -/
def token : Sign → Token
  | .plus => .symbol .plus
  | .minus => .symbol .minus

/-- The sign that a token is. -/
def ofToken? : Token → Option Sign
  | .symbol .plus => some .plus
  | .symbol .minus => some .minus
  | _ => none

/-- The spelling of a sign. -/
def symbol (s : Sign) : String := s.token.spelling

/-- A sign is read from its token. -/
theorem ofToken?_eq_some_iff {t : Token} {s : Sign} : ofToken? t = some s ↔ t = s.token := by
  constructor
  · intro h
    unfold ofToken? at h
    split at h <;> cases h <;> rfl
  · rintro rfl
    cases s <;> rfl

end Sign

/-! ## Operators between factors -/

/-- The operators inside a term. -/
inductive MulOp where
  | multiply | divide | div | mod | and
  deriving DecidableEq

namespace MulOp

/-- Every multiplying operator once. -/
def all : List MulOp := [.multiply, .divide, .div, .mod, .and]

/-- The name of a multiplying operator. -/
def name : MulOp → String
  | .multiply => "Multiply"
  | .divide => "Divide"
  | .div => "Div"
  | .mod => "Mod"
  | .and => "And"

/-- The token a multiplying operator is written as. -/
def token : MulOp → Token
  | .multiply => .symbol .multiply
  | .divide => .symbol .divide
  | .div => .keyword .div
  | .mod => .keyword .mod
  | .and => .keyword .and

/-- The multiplying operator that a token is. -/
def ofToken? : Token → Option MulOp
  | .symbol .multiply => some .multiply
  | .symbol .divide => some .divide
  | .keyword .div => some .div
  | .keyword .mod => some .mod
  | .keyword .and => some .and
  | _ => none

/-- The spelling of a multiplying operator. -/
def symbol (o : MulOp) : String := o.token.spelling

/-- A multiplication is read from its token. -/
theorem ofToken?_eq_some_iff {t : Token} {o : MulOp} : ofToken? t = some o ↔ t = o.token := by
  constructor
  · intro h
    unfold ofToken? at h
    split at h <;> cases h <;> rfl
  · rintro rfl
    cases o <;> rfl

end MulOp

/-! ## Operators between terms -/

/-- The operators between the terms of a simple expression. -/
inductive AddOp where
  | plus | minus | or
  deriving DecidableEq

namespace AddOp

/-- Every adding operator once. -/
def all : List AddOp := [.plus, .minus, .or]

/-- The name of an adding operator. -/
def name : AddOp → String
  | .plus => "Plus"
  | .minus => "Minus"
  | .or => "Or"

/-- The token an adding operator is written as. -/
def token : AddOp → Token
  | .plus => .symbol .plus
  | .minus => .symbol .minus
  | .or => .keyword .or

/-- The adding operator that a token is. -/
def ofToken? : Token → Option AddOp
  | .symbol .plus => some .plus
  | .symbol .minus => some .minus
  | .keyword .or => some .or
  | _ => none

/-- The spelling of an adding operator. -/
def symbol (o : AddOp) : String := o.token.spelling

/-- An addition is read from its token. -/
theorem ofToken?_eq_some_iff {t : Token} {o : AddOp} : ofToken? t = some o ↔ t = o.token := by
  constructor
  · intro h
    unfold ofToken? at h
    split at h <;> cases h <;> rfl
  · rintro rfl
    cases o <;> rfl

end AddOp

/-! ## Comparisons -/

/-- The comparison operators; an expression has at most one. -/
inductive RelOp where
  | equal | notEqual | less | lessEqual | greater | greaterEqual
  deriving DecidableEq

namespace RelOp

/-- Every comparison operator once. -/
def all : List RelOp := [.equal, .notEqual, .less, .lessEqual, .greater, .greaterEqual]

/-- The name of a comparison operator. -/
def name : RelOp → String
  | .equal => "Equal"
  | .notEqual => "NotEqual"
  | .less => "Less"
  | .lessEqual => "LessEqual"
  | .greater => "Greater"
  | .greaterEqual => "GreaterEqual"

/-- The token a comparison operator is written as. -/
def token : RelOp → Token
  | .equal => .symbol .equal
  | .notEqual => .symbol .notEqual
  | .less => .symbol .less
  | .lessEqual => .symbol .lessEqual
  | .greater => .symbol .greater
  | .greaterEqual => .symbol .greaterEqual

/-- The comparison operator that a token is. -/
def ofToken? : Token → Option RelOp
  | .symbol .equal => some .equal
  | .symbol .notEqual => some .notEqual
  | .symbol .less => some .less
  | .symbol .lessEqual => some .lessEqual
  | .symbol .greater => some .greater
  | .symbol .greaterEqual => some .greaterEqual
  | _ => none

/-- The spelling of a comparison operator. -/
def symbol (o : RelOp) : String := o.token.spelling

/-- A comparison is read from its token. -/
theorem ofToken?_eq_some_iff {t : Token} {o : RelOp} : ofToken? t = some o ↔ t = o.token := by
  constructor
  · intro h
    unfold ofToken? at h
    split at h <;> cases h <;> rfl
  · rintro rfl
    cases o <;> rfl

end RelOp

/-! ## Directions of a counted loop -/

/-- Whether a counted loop counts up or down. -/
inductive Direction where
  | to | downto
  deriving DecidableEq

namespace Direction

/-- Both directions. -/
def all : List Direction := [.to, .downto]

/-- The name of a direction. -/
def name : Direction → String
  | .to => "To"
  | .downto => "DownTo"

/-- What is added to the loop variable after each round. -/
def step : Direction → Int
  | .to => 1
  | .downto => -1

/-- The token a direction is written as. -/
def token : Direction → Token
  | .to => .keyword .to
  | .downto => .keyword .downto

/-- The direction that a token is. -/
def ofToken? : Token → Option Direction
  | .keyword .to => some .to
  | .keyword .downto => some .downto
  | _ => none

/-- The spelling of a direction. -/
def word (d : Direction) : String := d.token.spelling

/-- A direction is read from its token. -/
theorem ofToken?_eq_some_iff {t : Token} {d : Direction} : ofToken? t = some d ↔ t = d.token := by
  constructor
  · intro h
    unfold ofToken? at h
    split at h <;> cases h <;> rfl
  · rintro rfl
    cases d <;> rfl

end Direction

/-! ## Memory statements -/

/-- Whether a memory statement allocates or frees. -/
inductive MemoryKind where
  | new | dispose
  deriving DecidableEq

namespace MemoryKind

/-- Both memory statements. -/
def all : List MemoryKind := [.new, .dispose]

/-- The name of a memory statement. -/
def name : MemoryKind → String
  | .new => "New"
  | .dispose => "Dispose"

/-- The token a memory statement begins with. -/
def token : MemoryKind → Token
  | .new => .keyword .new
  | .dispose => .keyword .dispose

/-- The memory statement that a token begins. -/
def ofToken? : Token → Option MemoryKind
  | .keyword .new => some .new
  | .keyword .dispose => some .dispose
  | _ => none

/-- The word a memory statement begins with. -/
def word (k : MemoryKind) : String := k.token.spelling

/-- The kind of a memory statement is read from its token. -/
theorem ofToken?_eq_some_iff {t : Token} {k : MemoryKind} : ofToken? t = some k ↔ t = k.token := by
  constructor
  · intro h
    unfold ofToken? at h
    split at h <;> cases h <;> rfl
  · rintro rfl
    cases k <;> rfl

end MemoryKind

end MiniPascal
