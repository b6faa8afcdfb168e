import Stencil.Token.Lexer

/-!
# A supply of tokens

Whoever needs tokens one at a time pulls them from a supply: those that lie ahead, and then over and
over the token for the end, or the error at which the text stops making sense. The supply counts the
pulls.
-/

namespace Stencil.Token

/-- Tokens to be pulled one at a time. -/
structure Supply where
  ahead : List Token
  /-- What every pull gives once nothing is ahead: the token for the end, by its offset, or an error. -/
  last : Except LexError Nat
  /-- The number of pulls so far. -/
  pulled : Nat := 0

namespace Supply

/-- The next token, or the error that stands in its place. -/
def pull (supply : Supply) : Except LexError Token × Supply :=
  match supply.ahead with
  | token :: ahead => (.ok token, { supply with ahead, pulled := supply.pulled + 1 })
  | [] => (supply.last.map Token.eof, { supply with pulled := supply.pulled + 1 })

/-- Tokens that are already there. The end is where the last one ends. -/
def ofTokens (tokens : List Token) : Supply :=
  let stop := match tokens.getLast? with
    | some token => token.offset + token.text.length
    | none => 0
  { ahead := tokens, last := .ok stop }

/-- The tokens of a text. -/
def ofText (mode : Mode) (source : List Char) : Supply :=
  match (Cursor.start mode source).drain with
  | (tokens, none, stop) => { ahead := tokens, last := .ok stop.offset }
  | (tokens, some e, _) => { ahead := tokens, last := .error e }

end Supply

end Stencil.Token
