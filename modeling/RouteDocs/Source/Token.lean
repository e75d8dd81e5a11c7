/-!
Tokens of a source text.

A token carries the place where it stands. What a place is, the later stages do not ask: they take it from tokens and
hand it on.
-/

namespace RouteDocs.Source

/-- what a token is, apart from its place -/
inductive Lexeme where
  /-- an identifier or a keyword -/
  | name (s : String)
  /-- a number as it is written -/
  | number (raw : List Char)
  /-- a string as it is written: the letters before the quotes, and what stands between the quotes -/
  | text (marks body : List Char)
  /-- an operator or a delimiter -/
  | op (s : String)
  /-- the end of a logical line -/
  | newline
  /-- the following line is further in -/
  | indent
  /-- the following line is further out -/
  | dedent
  /-- the beginning of a formatted string -/
  | formatStart
  /-- literal text inside a formatted string -/
  | formatText (s : List Char)
  /-- the beginning of a replacement field; its expression follows -/
  | fieldStart
  /-- the expression of a field is also printed as the text that it is written as -/
  | fieldEcho (s : List Char)
  /-- the letter of a conversion -/
  | fieldConversion (c : Char)
  /-- the beginning of a format specification -/
  | specStart
  /-- the end of a format specification -/
  | specEnd
  /-- the end of a replacement field -/
  | fieldEnd
  /-- the end of a formatted string -/
  | formatEnd
deriving DecidableEq, Inhabited

structure Token (π : Type) where
  lexeme : Lexeme
  place : π
deriving DecidableEq

end RouteDocs.Source
