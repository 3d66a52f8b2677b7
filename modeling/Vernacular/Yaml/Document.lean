import Vernacular.Yaml.Scanner
/-!
# Reading YAML documents

The reader builds the node tree of the first document of a stream from the
scanner's tokens, one token of lookahead at a time. Block collections are
delimited by the scanner's start and end tokens; a block sequence directly
under a mapping key may also be written at the key's own indentation. Flow
collections are delimited by their brackets and separated by commas, and a
`key: value` pair inside a flow sequence is a one-pair mapping.

A missing node (an empty value, or a key with no value) is an empty plain
scalar. Anchors name the node they precede; an alias refers to a node named
earlier. A tag is resolved against the handles the document's `%TAG`
directives declare, then the primary handle `!` and the secondary handle `!!`
(the YAML types, written `!!name`); any other handle is undefined. The
non-specific tag `!` is no tag at all.

Directives come before an explicit document, one that starts with `---`: at
most one `%YAML`, which must name version 1.1, and `%TAG` directives each
declaring a different handle.

Each node remembers its one-based line, which messages about the document
quote.
-/

set_option autoImplicit false

namespace Vernacular.Yaml

/-- A node of a document, with its explicit tag in short form (empty when
it has none). -/
inductive Node where
  | scalar (text : String) (style : ScalarStyle) (tag : String) (line : Nat)
  | mapping (pairs : List (Node × Node)) (tag : String) (line : Nat)
  | sequence (items : List Node) (tag : String) (line : Nat)
  | aliasRef (name : String) (target : Node) (line : Nat)
deriving Inhabited

namespace Node

/-- The one-based line the node starts on. -/
def line : Node → Nat
  | scalar _ _ _ l | mapping _ _ l | sequence _ _ l | aliasRef _ _ l => l

/-- The text of a scalar and the name of an alias; collections have none. -/
def value : Node → String
  | scalar t _ _ _ => t
  | aliasRef name _ _ => name
  | _ => ""

/-- The kind of node, for comparing keys. -/
def kindIndex : Node → Nat
  | scalar .. => 0
  | mapping .. => 1
  | sequence .. => 2
  | aliasRef .. => 3

/-- An empty plain scalar at a mark. -/
def empty (m : Mark) : Node := scalar "" .plain "" (m.line + 1)

end Node

/-- The reader state: the scanner, the anchors defined so far, and the tag
handles the document declares with their prefixes. -/
structure Reader where
  scanner : Scanner
  anchors : List (String × Node)
  handles : List (String × String)

/-- Reading steps. -/
abbrev ReadM := StateT Reader (Except Problem)

namespace Read

/-- Run a scanning step. -/
def scan {α : Type} (m : ScanM α) : ReadM α := fun r =>
  match m r.scanner with
  | .ok (a, s) => .ok (a, { r with scanner := s })
  | .error e => .error e

/-- The next token. -/
def peek : ReadM Token := scan Scan.peek

/-- Take the next token. -/
def skip : ReadM Unit := scan Scan.skip

/-- Fail with a structural problem in the construct starting at `context`. -/
def fail {α : Type} (context : Option Mark) (problem : String) (place : Mark) : ReadM α :=
  throw ⟨false, context.getD ⟨0, 0, 0⟩, problem, place⟩

/-- The problem of a document too large to read. -/
def exhausted {α : Type} : ReadM α := throw ⟨false, ⟨0, 0, 0⟩, "document too deeply nested", ⟨0, 0, 0⟩⟩

/-- The prefix the secondary handle `!!` stands for. -/
def yamlTagPrefix : String := "tag:yaml.org,2002:"

/-- The short form of a tag: the YAML types as `!!name`, others as they are. -/
def shortTag (tag : String) : String :=
  if tag.startsWith yamlTagPrefix then "!!" ++ String.ofList (tag.toList.drop yamlTagPrefix.length)
  else tag

/-- The explicit tag a tag token gives a node, in short form, or the problem
of an undefined handle. The non-specific tag `!` gives none. -/
def tagOf (context : Mark) (tok : Token) : ReadM String := do
  let declared := (← get).handles ++ [("!", "!"), ("!!", yamlTagPrefix)]
  let full :=
    if tok.handle.isEmpty then some tok.text
    else (declared.lookup tok.handle).map (· ++ tok.text)
  match full with
  | none => fail (some context) "found undefined tag handle" tok.start
  | some t => pure (if t.isEmpty || t == "!" then "" else shortTag t)

/-- Whether a token is one of the given sorts. -/
def Token.isAny (t : Token) (sorts : List TokenSort) : Bool := sorts.contains t.sort

mutual

/-- A node. In a block context block collections may start here; with
`indentless` a sequence may start at the current indentation. -/
def node : Nat → Bool → Bool → ReadM Node
  | 0, _, _ => exhausted
  | fuel + 1, block, indentless => do
    let first ← peek
    if first.sort == .aliasRef then
      skip
      match (← get).anchors.lookup first.text with
      | some target => return .aliasRef first.text target (first.start.line + 1)
      | none => throw ⟨false, ⟨0, 0, 0⟩, "unknown anchor '" ++ first.text ++ "' referenced", ⟨0, 0, 0⟩⟩
    let mut tok := first
    let mut anchor : Option String := none
    let mut tagged := false
    let mut tag := ""
    if tok.sort == .anchor then
      anchor := some tok.text
      skip
      tok ← peek
      if tok.sort == .tag then
        tagged := true
        tag ← tagOf first.start tok
        skip
        tok ← peek
    else if tok.sort == .tag then
      tagged := true
      tag ← tagOf first.start tok
      skip
      tok ← peek
      if tok.sort == .anchor then
        anchor := some tok.text
        skip
        tok ← peek
    let line := first.start.line + 1
    let result ←
      if indentless && tok.sort == .blockEntry then indentlessSequence fuel #[] tag line
      else if tok.sort == .scalar then do
        skip
        pure (Node.scalar tok.text tok.style tag line)
      else if tok.sort == .flowSequenceStart then do
        skip
        flowSequence fuel tok.start true #[] tag line
      else if tok.sort == .flowMappingStart then do
        skip
        flowMapping fuel tok.start true #[] tag line
      else if block && tok.sort == .blockSequenceStart then do
        skip
        blockSequence fuel tok.start #[] tag line
      else if block && tok.sort == .blockMappingStart then do
        skip
        blockMapping fuel tok.start #[] tag line
      else if anchor.isSome || tagged then pure (Node.scalar "" .plain tag line)
      else fail (some first.start) "did not find expected node content" tok.start
    if let some name := anchor then
      modify fun r => { r with anchors := (name, result) :: r.anchors }
    return result

/-- The entries of a block sequence, each after a `-`. -/
def blockSequence : Nat → Mark → Array Node → String → Nat → ReadM Node
  | 0, _, _, _, _ => exhausted
  | fuel + 1, mark, acc, tag, line => do
    let tok ← peek
    if tok.sort == .blockEntry then
      skip
      let next ← peek
      let item ← if Token.isAny next [.blockEntry, .blockEnd] then pure (Node.empty tok.stop)
        else node fuel true false
      blockSequence fuel mark (acc.push item) tag line
    else if tok.sort == .blockEnd then
      skip
      return .sequence acc.toList tag line
    else fail (some mark) "did not find expected '-' indicator" tok.start

/-- The entries of a sequence written at its key's indentation. -/
def indentlessSequence : Nat → Array Node → String → Nat → ReadM Node
  | 0, _, _, _ => exhausted
  | fuel + 1, acc, tag, line => do
    let tok ← peek
    if tok.sort == .blockEntry then
      skip
      let next ← peek
      let item ← if Token.isAny next [.blockEntry, .key, .value, .blockEnd] then
          pure (Node.empty tok.stop)
        else node fuel true false
      indentlessSequence fuel (acc.push item) tag line
    else return .sequence acc.toList tag line

/-- The pairs of a block mapping. -/
def blockMapping : Nat → Mark → Array (Node × Node) → String → Nat → ReadM Node
  | 0, _, _, _, _ => exhausted
  | fuel + 1, mark, acc, tag, line => do
    let tok ← peek
    if tok.sort == .key then
      skip
      let next ← peek
      let key ← if Token.isAny next [.key, .value, .blockEnd] then pure (Node.empty tok.stop)
        else node fuel true true
      let tok ← peek
      let value ←
        if tok.sort == .value then do
          skip
          let next ← peek
          if Token.isAny next [.key, .value, .blockEnd] then pure (Node.empty tok.stop)
          else node fuel true true
        else pure (Node.empty tok.start)
      blockMapping fuel mark (acc.push (key, value)) tag line
    else if tok.sort == .blockEnd then
      skip
      return .mapping acc.toList tag line
    else fail (some mark) "did not find expected key" tok.start

/-- The entries of a flow sequence after its `[`. -/
def flowSequence : Nat → Mark → Bool → Array Node → String → Nat → ReadM Node
  | 0, _, _, _, _, _ => exhausted
  | fuel + 1, mark, first, acc, tag, line => do
    let tok ← peek
    if tok.sort == .flowSequenceEnd then
      skip
      return .sequence acc.toList tag line
    let tok ←
      if first then pure tok
      else if tok.sort == .flowEntry then do
        skip
        peek
      else fail (some mark) "did not find expected ',' or ']'" tok.start
    if tok.sort == .key then
      skip
      let next ← peek
      let key ← if Token.isAny next [.value, .flowEntry, .flowSequenceEnd] then
          pure (Node.empty next.start)
        else node fuel false false
      let after ← peek
      let value ←
        if after.sort == .value then do
          skip
          let next ← peek
          if Token.isAny next [.flowEntry, .flowSequenceEnd] then pure (Node.empty next.start)
          else node fuel false false
        else pure (Node.empty after.start)
      flowSequence fuel mark false (acc.push (.mapping [(key, value)] "" (tok.start.line + 1))) tag line
    else if tok.sort == .flowSequenceEnd then
      skip
      return .sequence acc.toList tag line
    else
      let item ← node fuel false false
      flowSequence fuel mark false (acc.push item) tag line

/-- The pairs of a flow mapping after its `{`. -/
def flowMapping : Nat → Mark → Bool → Array (Node × Node) → String → Nat → ReadM Node
  | 0, _, _, _, _, _ => exhausted
  | fuel + 1, mark, first, acc, tag, line => do
    let tok ← peek
    if tok.sort == .flowMappingEnd then
      skip
      return .mapping acc.toList tag line
    let tok ←
      if first then pure tok
      else if tok.sort == .flowEntry then do
        skip
        peek
      else fail (some mark) "did not find expected ',' or '\x7d'" tok.start
    if tok.sort == .key then
      skip
      let next ← peek
      let key ← if Token.isAny next [.value, .flowEntry, .flowMappingEnd] then
          pure (Node.empty next.start)
        else node fuel false false
      let after ← peek
      let value ←
        if after.sort == .value then do
          skip
          let next ← peek
          if Token.isAny next [.flowEntry, .flowMappingEnd] then pure (Node.empty next.start)
          else node fuel false false
        else pure (Node.empty after.start)
      flowMapping fuel mark false (acc.push (key, value)) tag line
    else if tok.sort == .flowMappingEnd then
      skip
      return .mapping acc.toList tag line
    else
      let key ← node fuel false false
      let after ← peek
      flowMapping fuel mark false (acc.push (key, Node.empty after.start)) tag line

end

/-- The directives before a document, with the tag handles declared so far. -/
def directives : Nat → Bool → List (String × String) → ReadM (List (String × String))
  | 0, _, handles => pure handles
  | fuel + 1, versioned, handles => do
    let tok ← peek
    if tok.sort == .versionDirective then
      if versioned then fail none "found duplicate %YAML directive" tok.start
      if tok.text != "1.1" then fail none "found incompatible YAML document" tok.start
      skip
      directives fuel true handles
    else if tok.sort == .tagDirective then
      if (handles.lookup tok.handle).isSome then fail none "found duplicate %TAG directive" tok.start
      skip
      directives fuel versioned (handles ++ [(tok.handle, tok.text)])
    else pure handles

/-- The root node of the first document, or nothing for an empty stream. -/
def firstDocument (fuel : Nat) : ReadM (Option Node) := do
  let _ ← peek
  skip
  let tok ← peek
  if tok.sort == .streamEnd then return none
  let root ←
    if !Token.isAny tok [.versionDirective, .tagDirective, .documentStart] then node fuel true false
    else do
      let handles ← directives fuel false []
      modify fun r => { r with handles }
      let tok ← peek
      if tok.sort != .documentStart then fail none "did not find expected <document start>" tok.start
      skip
      let tok ← peek
      if Token.isAny tok [.versionDirective, .tagDirective, .documentStart, .documentEnd, .streamEnd] then
        pure (Node.empty tok.start)
      else node fuel true false
  let tok ← peek
  if tok.sort == .documentEnd then skip
  return some root

end Read

/-- The root node of the first document of a stream, nothing if the stream
has no document, or the problem that stops reading it. -/
def firstDocument (source : String) : Except Problem (Option Node) :=
  (Read.firstDocument (4 * source.length + 64) |>.run ⟨Scanner.init source, [], []⟩).map Prod.fst

end Vernacular.Yaml
