import Stencil.Unicode.Letter

/-!
# Tokens

A token is a piece of a template: its kind, its text and the number of characters before it. Two
tokens are `alike` when kind and text agree, wherever they stand. Punctuation, operators and the
three reserved words have fixed spellings (`Kind.spellings`); the spelling `=` and the spelling `==`
are of one kind.
-/

namespace Stencil

/-- The kinds of token. -/
inductive Kind where
  | eof | whitespace
  | integerConst | realConst | textLiteral | identifier
  | comma | lParen | rParen | lBrace | rBrace | lSquare | rSquare
  | plus | minus | mul | div
  | not | eq | neq | gt | lt | gte | lte
  | and | or
  | dot | question | colon
  | null | false | true
deriving DecidableEq, Repr, Inhabited

namespace Kind

/-- Every kind, in the order of declaration. -/
def all : List Kind :=
  [eof, whitespace, integerConst, realConst, textLiteral, identifier, comma, lParen, rParen, lBrace,
   rBrace, lSquare, rSquare, plus, minus, mul, div, not, eq, neq, gt, lt, gte, lte, and, or, dot,
   question, colon, null, false, true]

/-- The name of a kind in messages. -/
def name : Kind → String
  | eof => "Eof"
  | whitespace => "Whitespace"
  | integerConst => "IntegerConst"
  | realConst => "RealConst"
  | textLiteral => "TextLiteral"
  | identifier => "Identifier"
  | comma => "Comma"
  | lParen => "LParen"
  | rParen => "RParen"
  | lBrace => "LBrace"
  | rBrace => "RBrace"
  | lSquare => "LSquare"
  | rSquare => "RSquare"
  | plus => "Plus"
  | minus => "Minus"
  | mul => "Mul"
  | div => "Div"
  | not => "Not"
  | eq => "Eq"
  | neq => "Neq"
  | gt => "Gt"
  | lt => "Lt"
  | gte => "Gte"
  | lte => "Lte"
  | and => "And"
  | or => "Or"
  | dot => "Dot"
  | question => "Question"
  | colon => "Colon"
  | null => "Null"
  | false => "False"
  | true => "True"

/-- The kind of a given name. -/
def ofName? (name : String) : Option Kind := all.find? fun k => k.name == name

/-- The fixed spellings of tokens, with their kinds. -/
def spellings : List (List Char × Kind) :=
  [(['{'], lBrace), (['}'], rBrace), (['('], lParen), ([')'], rParen), (['['], lSquare),
   ([']'], rSquare), (['+'], plus), (['-'], minus), (['*'], mul), (['/'], div), (['!'], not),
   (['='], eq), (['=', '='], eq), (['!', '='], neq), (['>'], gt), (['<'], lt), (['>', '='], gte),
   (['<', '='], lte), (['&', '&'], and), (['|', '|'], or), (['.'], dot), ([','], comma),
   (['?'], question), ([':'], colon), (['n', 'u', 'l', 'l'], null),
   (['f', 'a', 'l', 's', 'e'], false), (['t', 'r', 'u', 'e'], true)]

/-- The kind with exactly this spelling. -/
def ofSpelling? (text : List Char) : Option Kind := spellings.lookup text

/-- Does some spelling other than that of a word start with this character? -/
def startsOperator (c : Char) : Bool :=
  spellings.any fun (text, _) => text.head? == some c && !Unicode.isAlphabetic c

end Kind

/-- A token of a template. -/
structure Token where
  kind : Kind
  text : String
  /-- The number of characters before the token. -/
  offset : Nat
deriving DecidableEq, Repr, Inhabited

namespace Token

/-- Equal kind and equal text. -/
def alike (a b : Token) : Bool := a.kind == b.kind && a.text == b.text

/-- A token in messages. -/
def display (t : Token) : String := s!"{t.kind.name} '{t.text}' @{t.offset}"

/-- The token that stands where the input ends. -/
def eof (offset : Nat) : Token := ⟨.eof, "", offset⟩

end Token

end Stencil
