import Vernacular.Syntax.Lexer
import Vernacular.Syntax.Tree
import Vernacular.Number.Decimal
/-!
# Parsing

A recursive-descent parser over the scanned tokens with one token of
lookahead. Statements are chosen by their first token; a `{` at the start of
a statement opens an object literal when the token after the first name is a
comma, a colon or a closing brace, and a block otherwise; `func` followed by a
name declares a function, and otherwise starts an expression statement.

Expressions bind, loosest first: assignment (right associative, only to a
name or a member), `||`, `&&`, equality, comparison, `+ -`, `* /`, the prefix
operators, the step operators `++ --` on a name, and member access and calls.

Errors carry the position of the token where they were noticed; an
unreadable character is reported when the parser first moves onto it.

Every parsing function takes fuel. `Program.parse` gives enough for any
input, so the parser never runs out on a real source.
-/

set_option autoImplicit false

namespace Vernacular

/-- What the parser reads: the source, its tokens, the unreadable character
that ends them if any, and the dialect for operator spellings. -/
structure Stream where
  source : List Char
  tokens : Array Token
  fault : Option ScanFault
  dialect : Dialect

/-- Why parsing stopped. Running out of fuel is kept apart from syntax errors. -/
inductive ParseFault where
  | error (e : ParseError)
  | exhausted
deriving Repr, Inhabited

/-- Parsers read a stream at a token index. -/
abbrev Parser := ReaderT Stream (StateT Nat (Except ParseFault))

namespace Parser

/-- The end-of-input token. -/
def endToken : Token := ⟨.endOfInput, "EOF", 0, 0⟩

/-- The token under the cursor. -/
def current : Parser Token := do
  let s ← read
  let i ← get
  return (s.tokens[i]?).getD endToken

/-- Fail with a message at the start of the current token. -/
def fail {α : Type} (message : String) : Parser α := do
  let s ← read
  let tok ← current
  let pos := positionAt s.source tok.start
  throw (.error { message, line := pos.line, column := pos.column })

/-- Whether the current token has one of the kinds. -/
def isAny (kinds : List TokenKind) : Parser Bool := do
  let tok ← current
  return kinds.contains tok.kind

/-- Whether the current token has a kind. -/
def is (kind : TokenKind) : Parser Bool := isAny [kind]

/-- Move to the next token. Moving onto an unreadable character fails there;
at the end of input the cursor stays on the end token. -/
def advance : Parser Unit := do
  let s ← read
  let i ← get
  if i + 1 < s.tokens.size then set (i + 1)
  else match s.fault with
    | some fault => throw (.error (fault.toParseError s.source))
    | none => pure ()

/-- Consume a token of the expected kind. -/
def eat (kind : TokenKind) : Parser Token := do
  let tok ← current
  if tok.kind == .endOfInput && kind != .endOfInput then
    fail ("Unexpected end of input, expected " ++ kind.name)
  else if tok.kind != kind then
    fail ("Unexpected token: " ++ escapedQuote tok.payload ++ ", expected " ++ kind.name)
  else
    advance
    return tok

/-- The error for a token that cannot start what is expected. -/
def unexpected {α : Type} : Parser α := do
  let tok ← current
  if tok.kind == .endOfInput then fail "Unexpected end of input"
  else fail ("Unexpected token: " ++ escapedQuote tok.payload)

/-- The operator role of a token's spelling. -/
def roleOf (tok : Token) : Parser Role := do
  let s ← read
  match s.dialect.operatorRole? tok.payload with
  | some role => return role
  | none => fail ("Unexpected token: " ++ escapedQuote tok.payload)

/-- Read an operator of a family from a token. -/
def operatorOf {β : Type} (pick : Role → Option β) (tok : Token) : Parser β := do
  match pick (← roleOf tok) with
  | some op => return op
  | none => fail ("Unexpected token: " ++ escapedQuote tok.payload)

/-- A number literal; its digits must read as a finite double. The error
stands at the token after the number. -/
def number : Parser Float := do
  let tok ← eat .number
  match (Decimal.readLiteral tok.payload.toList).bind Decimal.Literal.toFloat? with
  | some value => return value
  | none => fail ("Invalid number " ++ escapedQuote tok.payload)

/-- Run a parser and put the cursor back where it was. -/
def probe {α : Type} (p : Parser α) : Parser α := do
  let i ← get
  let a ← p
  set i
  return a

/-- Whether an expression may be assigned to. -/
def Expr.isTarget : Expr → Bool
  | .ident _ | .field _ _ | .index _ _ | .computed _ _ => true
  | _ => false

/-- The binary levels, loosest first, with the token kind of their operators. -/
def binaryKinds : List TokenKind := [.equality, .relational, .additive, .multiplicative]

mutual

/-- A statement, chosen by its first token. -/
def statement : Nat → Parser Stmt
  | 0 => throw .exhausted
  | fuel + 1 => do
    match (← current).kind with
    | .letWord | .constWord => declaration fuel
    | .semicolon => do let _ ← eat .semicolon; return .empty
    | .openCurly => blockOrObject fuel
    | .functionWord => functionStatement fuel
    | .ifWord => do
      let _ ← eat .ifWord
      let test ← condition fuel
      let consequent ← statement fuel
      if ← is .elseWord then
        let _ ← eat .elseWord
        return .ifElse test consequent (some (← statement fuel))
      else return .ifElse test consequent none
    | .whileWord => do
      let _ ← eat .whileWord
      let test ← condition fuel
      return .loop test (← statement fuel)
    | .forWord => forStatement fuel
    | .tryWord => do
      let _ ← eat .tryWord
      let body ← block fuel
      let _ ← eat .catchWord
      let _ ← eat .openParen
      let param ← eat .identifier
      let _ ← eat .closeParen
      return .tryCatch body param.payload (← block fuel)
    | .throwWord => do
      let _ ← eat .throwWord
      let argument ← expression fuel
      let _ ← eat .semicolon
      return .throw argument
    | .returnWord => do
      let _ ← eat .returnWord
      let argument ← if ← is .semicolon then pure none else some <$> expression fuel
      let _ ← eat .semicolon
      return .ret argument
    | .breakWord => do let _ ← eat .breakWord; let _ ← eat .semicolon; return .brk
    | .continueWord => do let _ ← eat .continueWord; let _ ← eat .semicolon; return .cont
    | .importWord => do
      let _ ← eat .importWord
      let path ← eat .string
      let boundName ← eat .identifier
      let _ ← eat .semicolon
      return .importModule path.payload boundName.payload
    | .exportWord => do
      let _ ← eat .exportWord
      let _ ← eat .openCurly
      let names ← exportNames fuel
      let _ ← eat .closeCurly
      let _ ← eat .semicolon
      return .export names
    | _ => expressionStatement fuel

/-- An expression followed by a semicolon. -/
def expressionStatement : Nat → Parser Stmt
  | 0 => throw .exhausted
  | fuel + 1 => do
    let e ← expression fuel
    let _ ← eat .semicolon
    return .expr e

/-- `let` or `const`, a name, an optional initializer and a semicolon; a
constant needs its initializer. -/
def declaration : Nat → Parser Stmt
  | 0 => throw .exhausted
  | fuel + 1 => do
    let keyword ← current
    let _ ← eat keyword.kind
    let name ← eat .identifier
    let constant := keyword.kind == .constWord
    let init ←
      if ← is .assign then do
        let _ ← eat .assign
        some <$> expression fuel
      else if constant then
        fail ("Missing initializer in const declaration " ++ escapedQuote name.payload)
      else pure none
    let _ ← eat .semicolon
    return .declare constant name.payload init

/-- A block, or an object literal statement when the brace is followed by a
name and then a comma, a colon or a closing brace. -/
def blockOrObject : Nat → Parser Stmt
  | 0 => throw .exhausted
  | fuel + 1 => do
    let isObject ← probe do
      let _ ← eat .openCurly
      if ← is .identifier then
        let _ ← eat .identifier
        isAny [.comma, .colon, .closeCurly]
      else pure false
    if isObject then
      let obj ← objectLiteral fuel
      let _ ← eat .semicolon
      return .expr obj
    else return .block (← block fuel)

/-- A braced list of statements. -/
def block : Nat → Parser (List Stmt)
  | 0 => throw .exhausted
  | fuel + 1 => do
    let _ ← eat .openCurly
    let body ← blockBody fuel
    let _ ← eat .closeCurly
    return body

/-- Statements up to a closing brace or the end of input. -/
def blockBody : Nat → Parser (List Stmt)
  | 0 => throw .exhausted
  | fuel + 1 => do
    if ← isAny [.closeCurly, .endOfInput] then return []
    let s ← statement fuel
    return s :: (← blockBody fuel)

/-- A named function declaration, or an expression statement that starts
with an anonymous function. -/
def functionStatement : Nat → Parser Stmt
  | 0 => throw .exhausted
  | fuel + 1 => do
    let named ← probe do
      let _ ← eat .functionWord
      is .identifier
    if !named then expressionStatement fuel
    else
      let _ ← eat .functionWord
      let name ← eat .identifier
      let (params, body) ← functionRest fuel
      return .function name.payload params body

/-- Parameters in parentheses and a body. -/
def functionRest : Nat → Parser (List String × List Stmt)
  | 0 => throw .exhausted
  | fuel + 1 => do
    let _ ← eat .openParen
    let params ← names .closeParen fuel
    let _ ← eat .closeParen
    return (params, ← block fuel)

/-- Names separated by commas, up to a closing token (not consumed). -/
def names (close : TokenKind) : Nat → Parser (List String)
  | 0 => throw .exhausted
  | fuel + 1 => do
    if ← is close then return []
    let name ← eat .identifier
    if !(← is close) then
      let _ ← eat .comma
    return name.payload :: (← names close fuel)

/-- The names of an export list. -/
def exportNames : Nat → Parser (List String)
  | 0 => throw .exhausted
  | fuel + 1 => names .closeCurly fuel

/-- A test, with or without parentheses around it. -/
def condition : Nat → Parser Expr
  | 0 => throw .exhausted
  | fuel + 1 => do
    if !(← is .openParen) then expression fuel
    else
      let _ ← eat .openParen
      let test ← expression fuel
      let _ ← eat .closeParen
      return test

/-- `for (start; test; update) body`, each of the three parts optional. -/
def forStatement : Nat → Parser Stmt
  | 0 => throw .exhausted
  | fuel + 1 => do
    let _ ← eat .forWord
    let _ ← eat .openParen
    let start ←
      if ← isAny [.letWord, .constWord] then some <$> declaration fuel
      else if ← is .semicolon then do
        let _ ← eat .semicolon
        pure none
      else do
        let e ← expression fuel
        let _ ← eat .semicolon
        pure (some (Stmt.expr e))
    let test ← if ← is .semicolon then pure none else some <$> expression fuel
    let _ ← eat .semicolon
    let update ← if ← is .closeParen then pure none else some <$> expression fuel
    let _ ← eat .closeParen
    return .forLoop start test update (← statement fuel)

/-- An expression: an assignment or anything looser than it. -/
def expression : Nat → Parser Expr
  | 0 => throw .exhausted
  | fuel + 1 => do
    let left ← logical .logicalOr fuel
    if !(← isAny [.assign, .compoundAssign]) then return left
    if !Expr.isTarget left then fail "Invalid left-hand side in assignment expression"
    let tok ← current
    let _ ← eat tok.kind
    let right ← expression fuel
    return .assign (← operatorOf AssignOp.ofRole tok) left right

/-- A left-associative chain of `||` or of `&&`. -/
def logical (kind : TokenKind) : Nat → Parser Expr
  | 0 => throw .exhausted
  | fuel + 1 => do
    let first ← logicalOperand kind fuel
    logicalRest kind first fuel

/-- The operand of a logical chain: `&&` chains under `||`, equality under `&&`. -/
def logicalOperand (kind : TokenKind) : Nat → Parser Expr
  | 0 => throw .exhausted
  | fuel + 1 =>
    if kind == .logicalOr then logical .logicalAnd fuel else binary binaryKinds fuel

/-- The rest of a logical chain after its left operand. -/
def logicalRest (kind : TokenKind) (left : Expr) : Nat → Parser Expr
  | 0 => throw .exhausted
  | fuel + 1 => do
    if !(← is kind) then return left
    let tok ← eat kind
    let right ← logicalOperand kind fuel
    logicalRest kind (.logical (← operatorOf LogicalOp.ofRole tok) left right) fuel

/-- A left-associative chain at the first of the given binary levels. -/
def binary (levels : List TokenKind) : Nat → Parser Expr
  | 0 => throw .exhausted
  | fuel + 1 =>
    match levels with
    | [] => unary fuel
    | kind :: tighter => do
      let first ← binary tighter fuel
      binaryRest kind tighter first fuel

/-- The rest of a binary chain after its left operand. -/
def binaryRest (kind : TokenKind) (tighter : List TokenKind) (left : Expr) :
    Nat → Parser Expr
  | 0 => throw .exhausted
  | fuel + 1 => do
    if !(← is kind) then return left
    let tok ← eat kind
    let right ← binary tighter fuel
    binaryRest kind tighter (.binary (← operatorOf BinaryOp.ofRole tok) left right) fuel

/-- Prefix `+`, `-` and `!`, nested to the right. -/
def unary : Nat → Parser Expr
  | 0 => throw .exhausted
  | fuel + 1 => do
    if !(← isAny [.additive, .logicalNot]) then stepExpression fuel
    else
      let tok ← current
      let _ ← eat tok.kind
      let argument ← unary fuel
      return .unary (← operatorOf UnaryOp.ofRole tok) argument

/-- `++name` and `--name`. -/
def stepExpression : Nat → Parser Expr
  | 0 => throw .exhausted
  | fuel + 1 => do
    if !(← is .step) then accessChain fuel
    else
      let tok ← eat .step
      let name ← eat .identifier
      return .step (← operatorOf StepOp.ofRole tok) name.payload

/-- A primary expression followed by member accesses and calls. -/
def accessChain : Nat → Parser Expr
  | 0 => throw .exhausted
  | fuel + 1 => do
    let e ← primary fuel
    accessRest e fuel

/-- Member accesses and calls after an expression. -/
def accessRest (e : Expr) : Nat → Parser Expr
  | 0 => throw .exhausted
  | fuel + 1 => do
    match (← current).kind with
    | .dot =>
      let _ ← eat .dot
      if ← is .number then
        let position ← number
        accessRest (.index e position) fuel
      else
        let name ← eat .identifier
        accessRest (.field e name.payload) fuel
    | .openSquare =>
      let _ ← eat .openSquare
      let key ← expression fuel
      let _ ← eat .closeSquare
      accessRest (.computed e key) fuel
    | .openParen =>
      let _ ← eat .openParen
      let args ← listed .closeParen fuel
      let _ ← eat .closeParen
      accessRest (.call e args) fuel
    | _ => return e

/-- Expressions separated by commas, up to a closing token (not consumed). -/
def listed (close : TokenKind) : Nat → Parser (List Expr)
  | 0 => throw .exhausted
  | fuel + 1 => do
    if ← is close then return []
    let e ← expression fuel
    if !(← is close) then
      let _ ← eat .comma
    return e :: (← listed close fuel)

/-- Literals, names, parenthesised expressions, array and object literals and
function expressions. -/
def primary : Nat → Parser Expr
  | 0 => throw .exhausted
  | fuel + 1 => do
    let tok ← current
    match tok.kind with
    | .number => return .number (← number)
    | .string => do let _ ← eat .string; return .string tok.payload
    | .boolean => do
      let _ ← eat .boolean
      let s ← read
      return .boolean (tok.payload == s.dialect.spelling .trueWord)
    | .null => do let _ ← eat .null; return .null
    | .identifier => do let _ ← eat .identifier; return .ident tok.payload
    | .openParen => do
      let _ ← eat .openParen
      let e ← expression fuel
      let _ ← eat .closeParen
      return e
    | .openSquare => do
      let _ ← eat .openSquare
      let elements ← listed .closeSquare fuel
      let _ ← eat .closeSquare
      return .array elements
    | .openCurly => objectLiteral fuel
    | .functionWord => do
      let _ ← eat .functionWord
      let (params, body) ← functionRest fuel
      return .function params body
    | _ => unexpected

/-- A braced object literal. -/
def objectLiteral : Nat → Parser Expr
  | 0 => throw .exhausted
  | fuel + 1 => do
    let _ ← eat .openCurly
    let entries ← objectEntries fuel
    let _ ← eat .closeCurly
    return .object entries

/-- Object entries separated by commas, up to the closing brace. -/
def objectEntries : Nat → Parser (List Entry)
  | 0 => throw .exhausted
  | fuel + 1 => do
    if ← is .closeCurly then return []
    let key ← eat .identifier
    let entry ←
      if ← is .colon then do
        let _ ← eat .colon
        pure (Entry.keyed key.payload (← expression fuel))
      else pure (Entry.shorthand key.payload)
    if !(← is .closeCurly) then
      let _ ← eat .comma
    return entry :: (← objectEntries fuel)

end

/-- Statements up to the end of input. -/
def statements : Nat → Parser (List Stmt)
  | 0 => throw .exhausted
  | fuel + 1 => do
    if ← is .endOfInput then return []
    let s ← statement fuel
    return s :: (← statements fuel)

end Parser

/-- Enough fuel to parse a stream: every chain of calls that reads no token
is shorter than this per token. -/
def Stream.fuel (s : Stream) : Nat := 64 * (s.tokens.size + 2)

/-- Parse a source in a dialect. -/
def Program.parse (d : Dialect) (source : String) : Except ParseFault Program :=
  let chars := source.toList
  let scan := d.lexicon.scan source
  let stream : Stream := ⟨chars, scan.tokens.toArray, scan.fault, d⟩
  if scan.tokens.isEmpty then
    match scan.fault with
    | some fault => .error (.error (fault.toParseError chars))
    | none => .ok ⟨[]⟩
  else
    match (Parser.statements stream.fuel).run stream |>.run 0 with
    | .ok (body, _) => .ok ⟨body⟩
    | .error e => .error e

end Vernacular
