import Vernacular.Syntax.Tree
import Vernacular.Number.Decimal
import Vernacular.Text.Quoted
/-!
# Canonical source

Every tree prints as source in the canonical dialect. Binary and logical
expressions are fully parenthesised, and an assignment, prefix or step
expression used as their operand, or as the operand of a prefix operator, gets
parentheses of its own, so the printed text reads back as the same tree.

A block indents each line of its body by two spaces, text inside string
literals included.
-/

set_option autoImplicit false

namespace Vernacular

/-- Indent every line of a text by two spaces. -/
def indentLines (s : String) : String :=
  "  " ++ String.intercalate "\n  " (s.splitOn "\n")

mutual

/-- The canonical source of an expression. -/
def Expr.render : Expr → String
  | .ident name => name
  | .number value => Decimal.format value
  | .string value => sourceLiteral value
  | .boolean value => if value then "true" else "false"
  | .null => "null"
  | .binary op left right =>
    "(" ++ left.operand ++ " " ++ op.symbol ++ " " ++ right.operand ++ ")"
  | .logical op left right =>
    "(" ++ left.operand ++ " " ++ op.symbol ++ " " ++ right.operand ++ ")"
  | .unary op argument => op.symbol ++ argument.operand
  | .step op name => op.symbol ++ name
  | .call callee arguments => callee.render ++ "(" ++ Expr.renderList arguments ++ ")"
  | .field object name => object.render ++ "." ++ name
  | .index object position => object.render ++ "." ++ Decimal.format position
  | .computed object key => object.render ++ "[" ++ key.render ++ "]"
  | .assign op target value => target.render ++ " " ++ op.symbol ++ " " ++ value.render
  | .array elements => "[" ++ Expr.renderList elements ++ "]"
  | .object [] => "\x7b\x7d"
  | .object (entry :: entries) => "\x7b " ++ Entry.renderList (entry :: entries) ++ " \x7d"
  | .function params body => "func(" ++ ", ".intercalate params ++ ") " ++ Stmt.renderBlock body

/-- An expression as an operand: assignments, prefix and step expressions in
parentheses. -/
def Expr.operand : Expr → String
  | .assign op target value => "(" ++ target.render ++ " " ++ op.symbol ++ " " ++ value.render ++ ")"
  | .unary op argument => "(" ++ op.symbol ++ argument.operand ++ ")"
  | .step op name => "(" ++ op.symbol ++ name ++ ")"
  | e => e.render

/-- Expressions separated by commas. -/
def Expr.renderList : List Expr → String
  | [] => ""
  | [e] => e.render
  | e :: rest => e.render ++ ", " ++ Expr.renderList rest

/-- An entry of an object literal. -/
def Entry.render : Entry → String
  | .keyed key value => key ++ ": " ++ value.render
  | .shorthand key => key

/-- Entries separated by commas. -/
def Entry.renderList : List Entry → String
  | [] => ""
  | [e] => e.render
  | e :: rest => e.render ++ ", " ++ Entry.renderList rest

/-- The canonical source of a statement. -/
def Stmt.render : Stmt → String
  | .empty => ";"
  | .expr expression => expression.render ++ ";"
  | .declare constant name init =>
    let keyword := if constant then "const" else "let"
    match init with
    | none => keyword ++ " " ++ name ++ ";"
    | some e => keyword ++ " " ++ name ++ " = " ++ e.render ++ ";"
  | .function name params body =>
    "func " ++ name ++ "(" ++ ", ".intercalate params ++ ") " ++ Stmt.renderBlock body
  | .block body => Stmt.renderBlock body
  | .ifElse test consequent alternate =>
    let head := "if (" ++ test.render ++ ") " ++ consequent.render
    match alternate with
    | none => head
    | some alt => head ++ " else " ++ alt.render
  | .loop test body => "while (" ++ test.render ++ ") " ++ body.render
  | .forLoop start test update body =>
    let start := match start with
      | none => ";"
      | some s => s.render
    let test := match test with
      | none => ""
      | some e => e.render
    let update := match update with
      | none => ""
      | some e => e.render
    "for (" ++ start ++ " " ++ test ++ "; " ++ update ++ ") " ++ body.render
  | .tryCatch body param handler =>
    "try " ++ Stmt.renderBlock body ++ " catch (" ++ param ++ ") " ++ Stmt.renderBlock handler
  | .throw argument => "throw " ++ argument.render ++ ";"
  | .ret none => "return;"
  | .ret (some e) => "return " ++ e.render ++ ";"
  | .brk => "break;"
  | .cont => "continue;"
  | .importModule path boundName => "import " ++ sourceLiteral path ++ " " ++ boundName ++ ";"
  | .export names => "export \x7b " ++ ", ".intercalate names ++ " \x7d;"

/-- Statements one per line. -/
def Stmt.renderLines : List Stmt → String
  | [] => ""
  | [s] => s.render
  | s :: rest => s.render ++ "\n" ++ Stmt.renderLines rest

/-- A block: `{}` when empty, else its statements indented between braces. -/
def Stmt.renderBlock : List Stmt → String
  | [] => "\x7b\x7d"
  | s :: rest => "\x7b\n" ++ indentLines (Stmt.renderLines (s :: rest)) ++ "\n\x7d"

end

/-- The canonical source of a program: its statements one per line. -/
def Program.render (p : Program) : String := Stmt.renderLines p.body

end Vernacular
