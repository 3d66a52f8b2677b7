import Vernacular.Locale.Subtags
/-!
# Language tags

A language tag such as `de-CH`, `sr-Latn-RS`, `pt_BR` or `en-u-nu-arab` is
read subtag by subtag: `-` and `_` both separate subtags, each of one to
eight ASCII letters and digits. The first names the language (two or three
letters), optionally followed by further three-letter language subtags that
replace it, then a four-letter script, a region (two letters or three
digits), registered variants, extensions introduced by a one-character
singleton, and private-use subtags after `x`. A tag that breaks the grammar or
names a subtag that is not registered is refused.

Whole tags from before the grammar are looked up first. A read tag is then
brought to its preferred form: withdrawn language and region codes are
replaced (`iw` is `he`, `mo` is `ro-MD`, `BU` is `MM`), and so are the legacy
codes `sh` (`sr-Latn`) and `tl` (`fil`).
-/

set_option autoImplicit false

namespace Vernacular

/-- A language tag read into its parts: the language (`und` for none), the
script in title case, the region in upper case or as three digits, the
variants, the extensions with their subtags, and the private-use subtags. -/
structure LanguageTag where
  language : String
  script : Option String
  region : Option String
  variants : List String
  extensions : List (Char × List String)
  privateUse : List String
deriving Inhabited, Repr, BEq

namespace LanguageTag

/-- An ASCII letter. -/
def isLetter (c : Char) : Bool := ('a' ≤ c && c ≤ 'z') || ('A' ≤ c && c ≤ 'Z')

/-- An ASCII digit. -/
def isDigit (c : Char) : Bool := '0' ≤ c && c ≤ '9'

/-- A subtag lower-cased. -/
def lower (s : String) : String := s.map fun c => if 'A' ≤ c && c ≤ 'Z' then Char.ofNat (c.toNat + 32) else c

/-- A subtag upper-cased. -/
def upper (s : String) : String := s.map fun c => if 'a' ≤ c && c ≤ 'z' then Char.ofNat (c.toNat - 32) else c

/-- A subtag title-cased. -/
def title (s : String) : String :=
  match (lower s).toList with
  | c :: rest => String.ofList ((upper (String.ofList [c])).toList ++ rest)
  | [] => ""

/-- Whether a subtag starts with a letter. -/
def startsWithLetter (s : String) : Bool := (s.toList.head?.map isLetter).getD false

/-- The subtags of a tag, lower-cased: none when one is empty, longer than
eight characters, or holds anything but ASCII letters and digits. -/
def subtags? (s : String) : Option (List String) :=
  let parts := (s.splitOn "-").flatMap (·.splitOn "_")
  if parts.all fun p => 1 ≤ p.length && p.length ≤ 8 && p.all fun c => isLetter c || isDigit c then
    some (parts.map lower)
  else none

/-- The language a lower-cased language subtag names, when registered: a
three-letter code with a two-letter equivalent is replaced by it. -/
def language? (s : String) : Option String :=
  if s.length == 2 then
    if Subtags.twoLetterLanguages.contains s then some s else none
  else if s.length == 3 && s.all isLetter then
    some ((Subtags.threeLetterSynonyms.lookup s).getD s)
  else none

/-- Three-letter language subtags after the first, each replacing the
language; an unregistered one refuses the tag. -/
def extendedLanguages (language : String) : List String → Option (String × List String)
  | [] => some (language, [])
  | s :: rest =>
    if s.length == 3 && startsWithLetter s then
      match language? s with
      | some l => extendedLanguages l rest
      | none => none
    else some (language, s :: rest)

/-- An optional script subtag: four characters starting with a letter. -/
def scriptPart : List String → Option (Option String × List String)
  | s :: rest =>
    if s.length == 4 && startsWithLetter s then
      if Subtags.isScript (title s) then some (some (title s), rest) else none
    else some (none, s :: rest)
  | [] => some (none, [])

/-- An optional region subtag: two letters or three digits. -/
def regionPart : List String → Option (Option String × List String)
  | s :: rest =>
    if s.length == 2 then
      if s.all isLetter && Subtags.isRegion (upper s) then some (some (upper s), rest) else none
    else if s.length == 3 then
      if Subtags.areas.contains s then some (some s, rest) else none
    else some (none, s :: rest)
  | [] => some (none, [])

/-- Variant subtags, of four characters or more, each registered; repeats are
dropped. -/
def variantPart (seen : List String) : List String → Option (List String × List String)
  | s :: rest =>
    if s.length ≥ 4 then
      if Subtags.variants.contains s then
        variantPart (if seen.contains s then seen else seen ++ [s]) rest
      else none
    else some (seen, s :: rest)
  | [] => some (seen, [])

/-- Whether the body of a `u` extension is well formed: attributes of three
to eight characters, then keys of two characters each followed by at least
one type of three to eight; a key given twice must be given the same types. -/
def unicodeBodyValid (body : List String) : Bool :=
  let keyed := body.dropWhile (·.length ≥ 3)
  let rec keys (fuel : Nat) (seen : List (String × List String)) (xs : List String) : Bool :=
    match fuel, xs with
    | _, [] => true
    | 0, _ => false
    | fuel + 1, k :: more =>
      let types := more.takeWhile (·.length ≥ 3)
      if types.isEmpty then false
      else
        match seen.lookup k with
        | some before => before == types && keys fuel seen (more.drop types.length)
        | none => keys fuel ((k, types) :: seen) (more.drop types.length)
  keys keyed.length [] keyed

/-- The extensions and the private-use subtags: each singleton other than `x`
takes the following subtags of two characters or more, at least one; `x`
takes all the rest, at least one. -/
def extensionPart : List String → Option (List (Char × List String) × List String)
  | [] => some ([], [])
  | s :: rest =>
    if s == "x" then
      if rest.isEmpty then none else some ([], rest)
    else if s.length == 1 then
      let body := rest.takeWhile (·.length ≥ 2)
      let more := rest.drop body.length
      let singleton := (s.toList.head?).getD 'x'
      if body.isEmpty || (singleton == 'u' && !unicodeBodyValid body) then none
      else
        match extensionPart more with
        | some (exts, priv) => some ((singleton, body) :: exts, priv)
        | none => none
    else none
termination_by parts => parts.length
decreasing_by simp only [List.length_drop, List.length_cons]; omega

/-- Read the subtags of a tag that does not start with a singleton. -/
def ofSubtags : List String → Option LanguageTag
  | [] => none
  | first :: rest =>
    if first.length ≤ 1 then
      if first == "x" && !rest.isEmpty then some ⟨"und", none, none, [], [], rest⟩ else none
    else if first.length ≥ 4 then none
    else do
      let language ← language? first
      let (language, rest) ← extendedLanguages language rest
      let (script, rest) ← scriptPart rest
      let (region, rest) ← regionPart rest
      let (variants, rest) ← variantPart [] rest
      let valid := match rest with
        | s :: _ => s.length == 1
        | [] => true
      if !valid then none
      else
        let (extensions, privateUse) ← extensionPart rest
        some ⟨language, script, region, variants, extensions, privateUse⟩

/-- Bring a tag to its preferred form: withdrawn and legacy language codes,
withdrawn region codes and the withdrawn inherited-script code are replaced. -/
def canonical (t : LanguageTag) : LanguageTag :=
  let t := match Subtags.deprecatedLanguages.lookup t.language with
    | some l => if t.language == "mo" && t.region.isNone then { t with language := l, region := some "MD" }
      else { t with language := l }
    | none => t
  let t := if t.language == "sh" then { t with language := "sr", script := t.script.orElse fun _ => some "Latn" }
    else if t.language == "tl" then { t with language := "fil" } else t
  let t := match t.region with
    | some r => { t with region := some ((Subtags.deprecatedRegions.lookup r).getD r) }
    | none => t
  if t.script == some "Qaai" then { t with script := some "Zinh" } else t

/-- Read a language tag, or none when it is not a valid one. -/
def parse? (s : String) : Option LanguageTag :=
  if s.isEmpty then none
  else
    let key := lower (s.map fun c => if c == '_' then '-' else c)
    let read := match (if s.utf8ByteSize ≤ 11 then Subtags.grandfathered.lookup key else none) with
      | some replacement => (subtags? replacement).bind ofSubtags
      | none => (subtags? s).bind ofSubtags
    read.map canonical

/-- The types a key of the `u` extension is given, joined by `-`. -/
def typeForKey (t : LanguageTag) (key : String) : Option String :=
  match t.extensions.lookup 'u' with
  | some body =>
    let rec find : List String → Option String
      | [] => none
      | k :: more =>
        if k.length == 2 && k == key then
          let types := more.takeWhile (·.length ≥ 3)
          some ("-".intercalate types)
        else find more
    find (body.dropWhile (·.length ≥ 3))
  | none => none

/-- The tag with only its language, script and region. -/
def core (t : LanguageTag) : LanguageTag := ⟨t.language, t.script, t.region, [], [], []⟩

/-- The language, script and region written as a tag, such as `sr-Latn-RS`. -/
def coreName (t : LanguageTag) : String :=
  "-".intercalate (t.language :: (t.script.toList ++ t.region.toList))

end LanguageTag

end Vernacular
