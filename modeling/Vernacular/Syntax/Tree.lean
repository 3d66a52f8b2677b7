import Vernacular.Dialect.Role
/-!
# Syntax trees

The abstract syntax of the language, the same for every dialect. Operators are
canonical roles, not spellings, so a tree prints back in one canonical syntax
whatever dialect it was read in.

Expressions and statements are mutually inductive because a function
expression holds a body of statements.
-/

set_option autoImplicit false

namespace Vernacular

/-- The arithmetic and comparison operators. -/
inductive BinaryOp where
  | add | sub | mul | div
  | eq | ne | lt | gt | le | ge
deriving DecidableEq, Repr, Inhabited

/-- The short-circuit operators. -/
inductive LogicalOp where
  | and | or
deriving DecidableEq, Repr, Inhabited

/-- The prefix operators. -/
inductive UnaryOp where
  | plus | minus | not
deriving DecidableEq, Repr, Inhabited

/-- The prefix step operators `++` and `--`. -/
inductive StepOp where
  | increment | decrement
deriving DecidableEq, Repr, Inhabited

/-- Plain assignment and the compound assignments. -/
inductive AssignOp where
  | set | add | sub | mul | div
deriving DecidableEq, Repr, Inhabited

namespace BinaryOp

/-- The operator a role spells, if it is a binary operator. -/
def ofRole : Role → Option BinaryOp
  | .plus => some add | .minus => some sub | .mul => some mul | .div => some div
  | .equalEqual => some eq | .notEqual => some ne | .less => some lt | .great => some gt
  | .lessOrEqual => some le | .greatOrEqual => some ge
  | _ => none

/-- The canonical spelling. -/
def symbol : BinaryOp → String
  | add => "+" | sub => "-" | mul => "*" | div => "/"
  | eq => "==" | ne => "!=" | lt => "<" | gt => ">" | le => "<=" | ge => ">="

end BinaryOp

namespace LogicalOp

/-- The operator a role spells, if it is a logical operator. -/
def ofRole : Role → Option LogicalOp
  | .andAnd => some and | .orOr => some or | _ => none

/-- The canonical spelling. -/
def symbol : LogicalOp → String
  | and => "&&" | or => "||"

end LogicalOp

namespace UnaryOp

/-- The operator a role spells, if it is a prefix operator. -/
def ofRole : Role → Option UnaryOp
  | .plus => some plus | .minus => some minus | .not => some not | _ => none

/-- The canonical spelling. -/
def symbol : UnaryOp → String
  | plus => "+" | minus => "-" | not => "!"

end UnaryOp

namespace StepOp

/-- The operator a role spells, if it is a step operator. -/
def ofRole : Role → Option StepOp
  | .plusPlus => some increment | .minusMinus => some decrement | _ => none

/-- The canonical spelling. -/
def symbol : StepOp → String
  | increment => "++" | decrement => "--"

/-- The binary operator a step applies with the number one. -/
def binary : StepOp → BinaryOp
  | increment => .add | decrement => .sub

end StepOp

namespace AssignOp

/-- The operator a role spells, if it is an assignment operator. -/
def ofRole : Role → Option AssignOp
  | .equal => some set | .plusEqual => some add | .minusEqual => some sub
  | .mulEqual => some mul | .divEqual => some div | _ => none

/-- The canonical spelling. -/
def symbol : AssignOp → String
  | set => "=" | add => "+=" | sub => "-=" | mul => "*=" | div => "/="

/-- The binary operator a compound assignment applies, if any. -/
def binary : AssignOp → Option BinaryOp
  | set => none | add => some .add | sub => some .sub | mul => some .mul | div => some .div

end AssignOp

mutual

/-- Expressions. A member access names a property (`o.name`), gives a
number (`o.0`) or computes the key (`o[k]`). -/
inductive Expr where
  | ident (name : String)
  | number (value : Float)
  | string (value : String)
  | boolean (value : Bool)
  | null
  | binary (op : BinaryOp) (left right : Expr)
  | logical (op : LogicalOp) (left right : Expr)
  | unary (op : UnaryOp) (argument : Expr)
  | step (op : StepOp) (name : String)
  | call (callee : Expr) (arguments : List Expr)
  | field (object : Expr) (name : String)
  | index (object : Expr) (position : Float)
  | computed (object : Expr) (key : Expr)
  | assign (op : AssignOp) (target value : Expr)
  | array (elements : List Expr)
  | object (entries : List Entry)
  | function (params : List String) (body : List Stmt)

/-- An entry of an object literal: `key: value`, or the shorthand `key`
for `key: key`. -/
inductive Entry where
  | keyed (key : String) (value : Expr)
  | shorthand (key : String)

/-- Statements. The start of a `for` loop is a declaration or an expression
statement. -/
inductive Stmt where
  | empty
  | expr (expression : Expr)
  | declare (constant : Bool) (name : String) (init : Option Expr)
  | function (name : String) (params : List String) (body : List Stmt)
  | block (body : List Stmt)
  | ifElse (test : Expr) (consequent : Stmt) (alternate : Option Stmt)
  | loop (test : Expr) (body : Stmt)
  | forLoop (start : Option Stmt) (test update : Option Expr) (body : Stmt)
  | tryCatch (body : List Stmt) (param : String) (handler : List Stmt)
  | throw (argument : Expr)
  | ret (argument : Option Expr)
  | brk
  | cont
  | importModule (path boundName : String)
  | export (names : List String)

end

instance : Inhabited Expr := ⟨.null⟩
instance : Inhabited Stmt := ⟨.empty⟩

/-- A program is its list of statements. -/
structure Program where
  body : List Stmt
deriving Inhabited

end Vernacular
