/-!
# Tokens

The kinds of token the scanner produces, in their fixed order, with the name
each kind is shown by. Keywords are the kinds from `letWord` to `exportWord`
together with booleans and null; operators are the kinds from `assign` to
`logicalNot`. A token carries its kind, its payload (the spelled text, or the
contents of a string without its quotes) and the byte span it covers.
-/

set_option autoImplicit false

namespace Vernacular

/-- Every kind of token, in the order that fixes the keyword and operator classes. -/
inductive TokenKind where
  | unknown
  | endOfInput
  | comma
  | semicolon
  | colon
  | dot
  | openParen
  | closeParen
  | openCurly
  | closeCurly
  | openSquare
  | closeSquare
  | assign
  | compoundAssign
  | logicalOr
  | logicalAnd
  | equality
  | relational
  | additive
  | multiplicative
  | step
  | logicalNot
  | letWord
  | constWord
  | ifWord
  | elseWord
  | functionWord
  | whileWord
  | forWord
  | returnWord
  | tryWord
  | catchWord
  | throwWord
  | breakWord
  | continueWord
  | importWord
  | exportWord
  | identifier
  | number
  | string
  | boolean
  | null
deriving DecidableEq, Repr, Inhabited

namespace TokenKind

/-- The name a kind is shown by in messages and listings. -/
def name : TokenKind → String
  | unknown => "Unknown"
  | endOfInput => "EOF"
  | comma => "Comma"
  | semicolon => "Semicolon"
  | colon => "Colon"
  | dot => "Dot"
  | openParen => "OpenParen"
  | closeParen => "CloseParen"
  | openCurly => "OpenCurly"
  | closeCurly => "CloseCurly"
  | openSquare => "OpenSquare"
  | closeSquare => "CloseSquare"
  | assign => "SimpleAssignment"
  | compoundAssign => "ComplexAssignment"
  | logicalOr => "LogicalOr"
  | logicalAnd => "LogicalAnd"
  | equality => "EqualityOperator"
  | relational => "RelationalOperator"
  | additive => "AdditiveOperator"
  | multiplicative => "MultiplicativeOperator"
  | step => "AdditiveOneOperator"
  | logicalNot => "LogicalNot"
  | letWord => "Let"
  | constWord => "Const"
  | ifWord => "If"
  | elseWord => "Else"
  | functionWord => "Function"
  | whileWord => "While"
  | forWord => "For"
  | returnWord => "Return"
  | tryWord => "Try"
  | catchWord => "Catch"
  | throwWord => "Throw"
  | breakWord => "Break"
  | continueWord => "Continue"
  | importWord => "Import"
  | exportWord => "Export"
  | identifier => "Identifier"
  | number => "Number"
  | string => "String"
  | boolean => "Boolean"
  | null => "Null"

/-- Keywords are the statement words, booleans and null. -/
def isKeyword : TokenKind → Bool
  | letWord | constWord | ifWord | elseWord | functionWord | whileWord | forWord
  | returnWord | tryWord | catchWord | throwWord | breakWord | continueWord
  | importWord | exportWord | boolean | null => true
  | _ => false

/-- Operators are the assignment, logical, comparison and arithmetic kinds. -/
def isOperator : TokenKind → Bool
  | assign | compoundAssign | logicalOr | logicalAnd | equality | relational
  | additive | multiplicative | step | logicalNot => true
  | _ => false

end TokenKind

/-- A token: its kind, its payload and the half-open byte span `[start, stop)`
it covers in the source. A string's span includes its quotes. -/
structure Token where
  kind : TokenKind
  payload : String
  start : Nat
  stop : Nat
deriving DecidableEq, Repr, Inhabited

namespace Token

/-- How a token is shown in listings: names, strings and numbers are tagged,
the end of input is `EOF`, and every other token shows its spelling. -/
def display (token : Token) : String :=
  match token.kind with
  | .endOfInput => "EOF"
  | .identifier => "var(" ++ token.payload ++ ")"
  | .string => "string(" ++ token.payload ++ ")"
  | .number => "number(" ++ token.payload ++ ")"
  | _ => token.payload

end Token

/-- A 1-based line and column; the column counts runes. -/
structure Position where
  line : Nat
  column : Nat
deriving DecidableEq, Repr, Inhabited

end Vernacular
