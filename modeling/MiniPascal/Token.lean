import MiniPascal.Decimal
import MiniPascal.Quoted

/-!
# Tokens

The words and symbols of the language and the tokens built from them. Keywords are recognised
whatever the ASCII case of their letters (`Keyword.ofWord?`). `Token.text` is how a token is named
in messages: its kind, and for names and numbers what it carries.
-/

namespace MiniPascal

/-! ## Keywords -/

/-- The reserved words. -/
inductive Keyword where
  | begin | «end» | «if» | «then» | «else» | case | of | while | «do» | repeat | until | «for» | to
  | downto | new | dispose | true | false | nil | not | and | or | div | mod
  deriving DecidableEq

namespace Keyword

/-- Every keyword once. -/
def all : List Keyword :=
  [.begin, .end, .if, .then, .else, .case, .of, .while, .do, .repeat, .until, .for, .to, .downto,
    .new, .dispose, .true, .false, .nil, .not, .and, .or, .div, .mod]

/-- The spelling of a keyword in a program, in lower case. -/
def word : Keyword → String
  | .begin => "begin"
  | .end => "end"
  | .if => "if"
  | .then => "then"
  | .else => "else"
  | .case => "case"
  | .of => "of"
  | .while => "while"
  | .do => "do"
  | .repeat => "repeat"
  | .until => "until"
  | .for => "for"
  | .to => "to"
  | .downto => "downto"
  | .new => "new"
  | .dispose => "dispose"
  | .true => "true"
  | .false => "false"
  | .nil => "nil"
  | .not => "not"
  | .and => "and"
  | .or => "or"
  | .div => "div"
  | .mod => "mod"

/-- The name of a keyword in messages. -/
def name : Keyword → String
  | .begin => "Begin"
  | .end => "End"
  | .if => "If"
  | .then => "Then"
  | .else => "Else"
  | .case => "Case"
  | .of => "Of"
  | .while => "While"
  | .do => "Do"
  | .repeat => "Repeat"
  | .until => "Until"
  | .for => "For"
  | .to => "To"
  | .downto => "DownTo"
  | .new => "New"
  | .dispose => "Dispose"
  | .true => "True"
  | .false => "False"
  | .nil => "Nil"
  | .not => "Not"
  | .and => "And"
  | .or => "Or"
  | .div => "Div"
  | .mod => "Mod"

/-- The letters with the ASCII capitals replaced by small letters. -/
def foldCase (cs : List Char) : List Char :=
  cs.map Char.toLower

/-- The keyword that a word spells, whatever the ASCII case of its letters. -/
def ofWord? (cs : List Char) : Option Keyword :=
  all.find? fun k => k.word.toList == foldCase cs

/-- Each keyword is read back from its spelling. -/
theorem ofWord?_word (k : Keyword) : ofWord? k.word.toList = some k := by
  cases k <;> decide +kernel

/-- Keywords are spelled in small letters. -/
theorem foldCase_word (k : Keyword) : foldCase k.word.toList = k.word.toList := by
  cases k <;> decide +kernel

/-- A word is a keyword if its letters, in lower case, spell it. -/
theorem ofWord?_eq_some_iff {cs : List Char} {k : Keyword} :
    ofWord? cs = some k ↔ foldCase cs = k.word.toList := by
  constructor
  · intro h
    have hk := List.find?_some h
    exact (beq_iff_eq.1 hk).symm
  · intro h
    rw [ofWord?, h, ← ofWord?_word k, ofWord?, foldCase_word]

/-- A word is no keyword if it spells none in any letter case. -/
theorem ofWord?_eq_none_iff {cs : List Char} :
    ofWord? cs = none ↔ ∀ k : Keyword, foldCase cs ≠ k.word.toList := by
  rw [Option.eq_none_iff_forall_ne_some]
  exact forall_congr' fun k => not_congr ofWord?_eq_some_iff

end Keyword

/-! ## Symbols -/

/-- The operators and punctuation marks that are written without letters. -/
inductive Symbol where
  | assign | colon | semicolon | comma | dot | caret | equal | notEqual | less | lessEqual | greater
  | greaterEqual | plus | minus | multiply | divide | leftParen | rightParen | leftBracket
  | rightBracket
  deriving DecidableEq

namespace Symbol

/-- Every symbol once. -/
def all : List Symbol :=
  [.assign, .colon, .semicolon, .comma, .dot, .caret, .equal, .notEqual, .less, .lessEqual,
    .greater, .greaterEqual, .plus, .minus, .multiply, .divide, .leftParen, .rightParen,
    .leftBracket, .rightBracket]

/-- The spelling of a symbol in a program. -/
def spelling : Symbol → String
  | .assign => ":="
  | .colon => ":"
  | .semicolon => ";"
  | .comma => ","
  | .dot => "."
  | .caret => "^"
  | .equal => "="
  | .notEqual => "<>"
  | .less => "<"
  | .lessEqual => "<="
  | .greater => ">"
  | .greaterEqual => ">="
  | .plus => "+"
  | .minus => "-"
  | .multiply => "*"
  | .divide => "/"
  | .leftParen => "("
  | .rightParen => ")"
  | .leftBracket => "["
  | .rightBracket => "]"

/-- The name of a symbol in messages. -/
def name : Symbol → String
  | .assign => "Assign"
  | .colon => "Colon"
  | .semicolon => "Semicolon"
  | .comma => "Comma"
  | .dot => "Dot"
  | .caret => "Caret"
  | .equal => "Equal"
  | .notEqual => "NotEqual"
  | .less => "LessThan"
  | .lessEqual => "LessThanEqual"
  | .greater => "GreaterThan"
  | .greaterEqual => "GreaterThanEqual"
  | .plus => "Plus"
  | .minus => "Minus"
  | .multiply => "Multiply"
  | .divide => "Divide"
  | .leftParen => "LParen"
  | .rightParen => "RParen"
  | .leftBracket => "LBrack"
  | .rightBracket => "RBrack"

end Symbol

/-! ## Tokens -/

/-- A token of a program. The end of the input is a token of its own. -/
inductive Token where
  | ident (name : String)
  | number (n : Int64)
  | keyword (k : Keyword)
  | symbol (s : Symbol)
  | eof
  deriving DecidableEq

namespace Token

/-- The tokens that carry neither a name nor a number. -/
def plain : List Token :=
  Keyword.all.map .keyword ++ Symbol.all.map .symbol ++ [.eof]

/-- Two tokens are of one kind if they differ at most in the name or number they carry. -/
def sameKind : Token → Token → Bool
  | .ident _, .ident _ => true
  | .number _, .number _ => true
  | .keyword k, .keyword l => k == l
  | .symbol s, .symbol t => s == t
  | .eof, .eof => true
  | _, _ => false

/-- How messages name a token. -/
def text : Token → String
  | .ident name => "Ident(" ++ Quoted.text name ++ ")"
  | .number n => "Number(" ++ Decimal.text n.toInt ++ ")"
  | .keyword k => k.name
  | .symbol s => s.name
  | .eof => "Eof"

end Token

/-- A token together with the line of the source on which it begins. -/
structure Lexeme where
  token : Token
  line : Nat
  deriving DecidableEq

end MiniPascal
