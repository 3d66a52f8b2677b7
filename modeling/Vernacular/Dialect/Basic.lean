import Vernacular.Dialect.Role
import Vernacular.Text.Quoted
/-!
# Dialects

A dialect is a surface syntax: one spelling for every canonical role, a file
extension, and renames for the native globals. A dialect document (`Spelling
tables`) becomes a dialect only through `DialectSpec.validate`, which checks
that every role has a nonempty spelling, that no spelling is claimed twice,
that no table names an unknown role, and that every keyword is a word.

The scanner reads a validated dialect through its symbol list: the spellings
of the specials, brackets and operators, longest first, where a spelling that
starts with a letter only matches a whole word and any other spelling matches
as a prefix.
-/

set_option autoImplicit false

namespace Vernacular

/-! ## Words -/

/-- ASCII letters. -/
def isLetterChar (c : Char) : Bool := ('a' ≤ c && c ≤ 'z') || ('A' ≤ c && c ≤ 'Z')

/-- ASCII digits. -/
def isDigitChar (c : Char) : Bool := '0' ≤ c && c ≤ '9'

/-- Word characters are ASCII letters, digits and the underscore. -/
def isWordChar (c : Char) : Bool := isLetterChar c || isDigitChar c || c == '_'

/-- A word is a nonempty run of word characters. -/
def isWord (s : String) : Bool := !s.isEmpty && s.toList.all isWordChar

/-! ## Documents -/

/-- A dialect document as decoded: each table lists its keys and spellings in
document order, and a key occurs at most once per table. -/
structure DialectSpec where
  name : String := ""
  extension : String := ""
  keywords : List (String × String) := []
  operators : List (String × String) := []
  brackets : List (String × String) := []
  specials : List (String × String) := []
  globals : List (String × String) := []
deriving Repr, Inhabited

namespace DialectSpec

/-- The entries of one table. -/
def table (spec : DialectSpec) : RoleTable → List (String × String)
  | .keywords => spec.keywords
  | .operators => spec.operators
  | .brackets => spec.brackets
  | .specials => spec.specials

/-- The spelling the document gives a role, if any. -/
def spellingOf (spec : DialectSpec) (role : Role) : Option String :=
  (spec.table role.table).lookup role.key

end DialectSpec

/-- Why a dialect document is refused. -/
inductive DialectFault where
  | missingName
  | notSpelled (role : Role)
  | spelledTwice (spelling : String) (first second : Role)
  | unknownRole (table : RoleTable) (key : String)
  | keywordNotWord (role : Role) (spelling : String)
deriving Repr, Inhabited

/-- The qualified name of a role, such as `operators.plus`. -/
def Role.qualifiedKey (role : Role) : String := role.table.key ++ "." ++ role.key

/-- A refusal names the dialect and the first fault found. -/
structure DialectRefusal where
  dialect : String
  fault : DialectFault
deriving Repr, Inhabited

namespace DialectRefusal

/-- The reason part of a refusal. -/
def reason : DialectFault → String
  | .missingName => "missing name"
  | .notSpelled role => role.qualifiedKey ++ " is not spelled"
  | .spelledTwice spelling first second =>
    escapedQuote spelling ++ " spells both " ++ first.qualifiedKey ++ " and " ++ second.qualifiedKey
  | .unknownRole table key => "unknown role " ++ table.key ++ "." ++ key
  | .keywordNotWord role spelling =>
    "keyword " ++ role.key ++ " must be a word, got " ++ escapedQuote spelling

/-- The message of a refusal: the quoted dialect name, then the reason. -/
def message (refusal : DialectRefusal) : String :=
  "dialect " ++ escapedQuote refusal.dialect ++ ": " ++ reason refusal.fault

end DialectRefusal

/-! ## Validated dialects -/

/-- A validated dialect. `spelling` is total: every role has a nonempty spelling. -/
structure Dialect where
  name : String
  extension : String
  spelling : Role → String
  globals : List (String × String)

instance : Inhabited Dialect := ⟨⟨"", "", fun _ => "", []⟩⟩

namespace DialectSpec

/-- Check the roles of one table in order against the spellings seen so far. -/
def checkRoles (spec : DialectSpec) :
    List Role → List (String × Role) → Except DialectFault (List (String × Role))
  | [], seen => .ok seen
  | role :: rest, seen =>
    match spec.spellingOf role with
    | none => .error (.notSpelled role)
    | some spelling =>
      if spelling.isEmpty then .error (.notSpelled role)
      else match seen.lookup spelling with
        | some first => .error (.spelledTwice spelling first role)
        | none => checkRoles spec rest (seen ++ [(spelling, role)])

/-- The first key of a table, in sorted order, that names no role of the table. -/
def unknownKey (spec : DialectSpec) (table : RoleTable) : Option String :=
  let known := table.roles.map Role.key
  let extra := (spec.table table).map Prod.fst |>.filter (fun key => !known.contains key)
  (extra.mergeSort (fun a b => decide (a ≤ b))).head?

/-- Check the tables in order, each one's roles before its unknown keys. -/
def checkTables (spec : DialectSpec) :
    List RoleTable → List (String × Role) → Except DialectFault Unit
  | [], _ => .ok ()
  | table :: rest, seen => do
    let seen ← spec.checkRoles table.roles seen
    match spec.unknownKey table with
    | some key => .error (.unknownRole table key)
    | none => spec.checkTables rest seen

/-- The first keyword role whose spelling is not a word. -/
def nonWordKeyword (spec : DialectSpec) : Option (Role × String) :=
  RoleTable.keywords.roles.findSome? fun role =>
    let spelling := (spec.spellingOf role).getD ""
    if isWord spelling then none else some (role, spelling)

/-- The dialect a document spells, or the first fault in validation order. -/
def validate (spec : DialectSpec) : Except DialectRefusal Dialect :=
  match spec.checkTables RoleTable.all [] with
  | .error fault => .error ⟨spec.name, fault⟩
  | .ok () =>
    match spec.nonWordKeyword with
    | some (role, spelling) => .error ⟨spec.name, .keywordNotWord role spelling⟩
    | none =>
      .ok { name := spec.name, extension := spec.extension,
            spelling := fun role => (spec.spellingOf role).getD "",
            globals := spec.globals }

end DialectSpec

/-! ## Reading a dialect -/

/-- A symbol the scanner tries: a spelling, the role it spells and its token kind.
A word symbol starts with a letter and matches only a whole word. -/
structure Symbol where
  spelling : String
  role : Role
  isWord : Bool
deriving Repr, Inhabited

namespace Dialect

/-- The name a native global is declared under: its rename when one is given
and nonempty, else the name itself. -/
def global (d : Dialect) (name : String) : String :=
  match d.globals.lookup name with
  | some renamed => if renamed.isEmpty then name else renamed
  | none => name

/-- The symbols in the order the scanner tries them: longest spelling (in
bytes) first, ties in the order of `Role.symbolOrder`. -/
def symbols (d : Dialect) : List Symbol :=
  let all := Role.symbolOrder.map fun role =>
    let spelling := d.spelling role
    { spelling, role, isWord := (spelling.toList.head?.map isLetterChar).getD false : Symbol }
  all.mergeSort (fun a b => decide (b.spelling.utf8ByteSize ≤ a.spelling.utf8ByteSize))

/-- The keyword roles, whose spellings are looked up as whole words. -/
def keywordRoles : List Role := RoleTable.keywords.roles

/-- The token kind of a word that spells a keyword. -/
def keywordKind? (d : Dialect) (word : String) : Option TokenKind :=
  (keywordRoles.find? (fun role => d.spelling role == word)).map Role.tokenKind

/-- The operator role a spelling stands for. -/
def operatorRole? (d : Dialect) (spelling : String) : Option Role :=
  RoleTable.operators.roles.find? (fun role => d.spelling role == spelling)

/-- A word is reserved when it spells a keyword or a word symbol. -/
def reserved (d : Dialect) (word : String) : Bool :=
  (d.keywordKind? word).isSome || d.symbols.any (fun sym => sym.isWord && sym.spelling == word)

end Dialect

end Vernacular
