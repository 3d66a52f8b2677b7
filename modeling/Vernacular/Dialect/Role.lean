import Vernacular.Syntax.Token
/-!
# Roles

A dialect spells a fixed set of canonical roles, grouped in four tables:
keywords, operators, brackets and specials. The order of the roles within each
table and the order of the tables are part of the contract, since validation
reports the first role that fails in this order.
-/

set_option autoImplicit false

namespace Vernacular

/-- The four tables of a dialect document. -/
inductive RoleTable where
  | keywords
  | operators
  | brackets
  | specials
deriving DecidableEq, Repr, Inhabited

/-- Every canonical role a dialect must spell. -/
inductive Role where
  | letWord | constWord | ifWord | elseWord | funWord | trueWord | falseWord | nullWord
  | whileWord | forWord | returnWord | tryWord | catchWord | throwWord | breakWord
  | continueWord | importWord | exportWord
  | plus | minus | mul | div | equal | equalEqual | notEqual
  | plusEqual | minusEqual | mulEqual | divEqual | plusPlus | minusMinus
  | andAnd | orOr | not | less | great | lessOrEqual | greatOrEqual
  | parenOpen | parenClose | curlyOpen | curlyClose | sqrOpen | sqrClose
  | comma | colon | dot | semiColon
deriving DecidableEq, Repr, Inhabited

namespace RoleTable

/-- The key of the table in a dialect document. -/
def key : RoleTable → String
  | keywords => "keywords"
  | operators => "operators"
  | brackets => "brackets"
  | specials => "specials"

/-- The roles of a table, in validation order. -/
def roles : RoleTable → List Role
  | keywords =>
    [.letWord, .constWord, .ifWord, .elseWord, .funWord, .trueWord, .falseWord, .nullWord,
     .whileWord, .forWord, .returnWord, .tryWord, .catchWord, .throwWord, .breakWord,
     .continueWord, .importWord, .exportWord]
  | operators =>
    [.plus, .minus, .mul, .div, .equal, .equalEqual, .notEqual,
     .plusEqual, .minusEqual, .mulEqual, .divEqual, .plusPlus, .minusMinus,
     .andAnd, .orOr, .not, .less, .great, .lessOrEqual, .greatOrEqual]
  | brackets => [.parenOpen, .parenClose, .curlyOpen, .curlyClose, .sqrOpen, .sqrClose]
  | specials => [.comma, .colon, .dot, .semiColon]

/-- The tables in validation order. -/
def all : List RoleTable := [keywords, operators, brackets, specials]

end RoleTable

namespace Role

/-- The key of the role within its table. -/
def key : Role → String
  | letWord => "let" | constWord => "const" | ifWord => "if" | elseWord => "else"
  | funWord => "fun" | trueWord => "true" | falseWord => "false" | nullWord => "null"
  | whileWord => "while" | forWord => "for" | returnWord => "return" | tryWord => "try"
  | catchWord => "catch" | throwWord => "throw" | breakWord => "break"
  | continueWord => "continue" | importWord => "import" | exportWord => "export"
  | plus => "plus" | minus => "minus" | mul => "mul" | div => "div" | equal => "equal"
  | equalEqual => "equalEqual" | notEqual => "notEqual" | plusEqual => "plusEqual"
  | minusEqual => "minusEqual" | mulEqual => "mulEqual" | divEqual => "divEqual"
  | plusPlus => "plusPlus" | minusMinus => "minusMinus" | andAnd => "andAnd"
  | orOr => "orOr" | not => "not" | less => "less" | great => "great"
  | lessOrEqual => "lessOrEqual" | greatOrEqual => "greatOrEqual"
  | parenOpen => "parenOpen" | parenClose => "parenClose" | curlyOpen => "curlyOpen"
  | curlyClose => "curlyClose" | sqrOpen => "sqrOpen" | sqrClose => "sqrClose"
  | comma => "comma" | colon => "colon" | dot => "dot" | semiColon => "semiColon"

/-- The table the role belongs to. -/
def table : Role → RoleTable
  | letWord | constWord | ifWord | elseWord | funWord | trueWord | falseWord | nullWord
  | whileWord | forWord | returnWord | tryWord | catchWord | throwWord | breakWord
  | continueWord | importWord | exportWord => .keywords
  | parenOpen | parenClose | curlyOpen | curlyClose | sqrOpen | sqrClose => .brackets
  | comma | colon | dot | semiColon => .specials
  | _ => .operators

/-- The token kind a spelling of the role scans as. -/
def tokenKind : Role → TokenKind
  | letWord => .letWord | constWord => .constWord | ifWord => .ifWord
  | elseWord => .elseWord | funWord => .functionWord | trueWord => .boolean
  | falseWord => .boolean | nullWord => .null | whileWord => .whileWord
  | forWord => .forWord | returnWord => .returnWord | tryWord => .tryWord
  | catchWord => .catchWord | throwWord => .throwWord | breakWord => .breakWord
  | continueWord => .continueWord | importWord => .importWord | exportWord => .exportWord
  | plus | minus => .additive
  | mul | div => .multiplicative
  | equal => .assign
  | equalEqual | notEqual => .equality
  | plusEqual | minusEqual | mulEqual | divEqual => .compoundAssign
  | plusPlus | minusMinus => .step
  | andAnd => .logicalAnd
  | orOr => .logicalOr
  | not => .logicalNot
  | less | great | lessOrEqual | greatOrEqual => .relational
  | parenOpen => .openParen | parenClose => .closeParen
  | curlyOpen => .openCurly | curlyClose => .closeCurly
  | sqrOpen => .openSquare | sqrClose => .closeSquare
  | comma => .comma | colon => .colon | dot => .dot | semiColon => .semicolon

/-- The symbol roles in the order the scanner tries them before sorting by
length: specials, brackets, then operators. Keywords are looked up as words. -/
def symbolOrder : List Role :=
  [.comma, .semiColon, .colon, .dot,
   .parenOpen, .parenClose, .curlyOpen, .curlyClose, .sqrOpen, .sqrClose,
   .equalEqual, .notEqual, .equal, .plusEqual, .minusEqual, .mulEqual, .divEqual,
   .plusPlus, .minusMinus, .plus, .minus, .mul, .div, .andAnd, .orOr, .not,
   .lessOrEqual, .greatOrEqual, .less, .great]

end Role

end Vernacular
