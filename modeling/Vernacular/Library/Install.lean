import Vernacular.Library.Core
import Vernacular.Library.Methods
/-!
# The global scope

A fresh global scope holds the library: the functions `print`, `input`,
`format`, `typeof` and `len`, the namespaces `math`, `dt`, `json`, `fs` and
`http`, and the method tables. All are constants, and the namespaces are
frozen. The dialect may rename the globals, but not the method tables.

Every global scope gets its own buffered reader of standard input, and its
own copies of the namespaces, so namespaces of two global scopes are
different objects.
-/

set_option autoImplicit false

namespace Vernacular

namespace Library

/-- A namespace object of named natives and values, frozen. -/
def namespaceOf (entries : List (String × Sum Native Value)) : Eval Value := do
  let mut fields : List (Text × Value) := []
  for (name, entry) in entries do
    let v ← match entry with
      | .inl n => Eval.newNative n
      | .inr v => pure v
    fields := fields ++ [(Text.ofString name, v)]
  Eval.newObject fields true

/-- The math namespace. -/
def mathEntries : List (String × Sum Native Value) :=
  [("rand", .inl .random), ("abs", .inl (.math .abs)), ("ceil", .inl (.math .ceil)),
   ("floor", .inl (.math .floor)), ("round", .inl (.math .round)), ("cos", .inl (.math .cos)),
   ("sin", .inl (.math .sin)), ("tan", .inl (.math .tan)),
   ("pi", .inr (.number 3.141592653589793)), ("e", .inr (.number 2.718281828459045))]

/-- The file-system namespace. -/
def fileEntries : List (String × Sum Native Value) :=
  [("read", .inl (.file .read)), ("write", .inl (.file .write)), ("rmrf", .inl (.file .rmrf)),
   ("mkdir", .inl (.file .mkdir)), ("readdir", .inl (.file .readdir)), ("stat", .inl (.file .stat))]

/-- The string method table. -/
def stringEntries : List (String × Sum Native Value) :=
  [("length", .inl (.stringMethod .length)), ("replace", .inl (.stringMethod .replace)),
   ("uppercase", .inl (.stringMethod .uppercase)), ("lowercase", .inl (.stringMethod .lowercase)),
   ("split", .inl (.stringMethod .split)), ("char_code", .inl (.stringMethod .charCode)),
   ("trim", .inl (.stringMethod .trim)), ("includes", .inl (.stringMethod .includes))]

/-- The array method table. -/
def arrayEntries : List (String × Sum Native Value) :=
  [("length", .inl (.arrayMethod .length)), ("foreach", .inl (.arrayMethod .foreach)),
   ("join", .inl (.arrayMethod .join)), ("pop", .inl (.arrayMethod .pop)),
   ("push", .inl (.arrayMethod .push)), ("includes", .inl (.arrayMethod .includes))]

/-- A new buffered reader of standard input. -/
def newReader : Eval Nat :=
  modifyGet fun m => (m.readers.size, { m with readers := m.readers.push [] })

/-- What a global of the library is: a native function, or a namespace of
natives and constants. -/
abbrev GlobalEntry := Sum Native (List (String × Sum Native Value))

/-- The globals of a fresh scope in the order they are installed, under the
names the dialect gives them; the method tables keep their names. -/
def globalEntries (d : Dialect) (reader : Nat) : List (String × GlobalEntry) :=
  [(d.global "print", .inl .print), (d.global "input", .inl (.input reader)),
   (d.global "format", .inl .format), (d.global "typeof", .inl .typeOf),
   (d.global "len", .inl .length), (d.global "math", .inr mathEntries),
   (d.global "dt", .inr [("now", .inl .now), ("date", .inl .date)]),
   (d.global "json", .inr [("parse", .inl .jsonParse), ("stringify", .inl .jsonStringify)]),
   (d.global "fs", .inr fileEntries), (d.global "http", .inr [("server", .inl .server)]),
   ("__string__", .inr stringEntries), ("__array__", .inr arrayEntries),
   ("__number__", .inr [("code_to_str", .inl (.numberMethod .codeToStr)),
     ("format", .inl (.numberMethod .format))])]

/-- A fresh global scope with the library installed, names renamed by the
dialect. -/
def globalScope (d : Dialect) : Eval Nat := do
  let scope ← Eval.onHeap (·.allocScope none)
  let reader ← newReader
  for (name, entry) in globalEntries d reader do
    let v ← match entry with
      | .inl n => Eval.newNative n
      | .inr entries => namespaceOf entries
    Eval.updateHeap (·.install scope name v)
  return scope

end Library

end Vernacular
