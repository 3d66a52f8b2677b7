import Vernacular.Locale.Tag
import Vernacular.Locale.NumberData
import Vernacular.Number.Binary
/-!
# Writing numbers for a locale

A language tag is matched to the locale whose number data it uses: the locale
named by its language, script and region when there is one, else the locale
named after filling in the likely script of a language written in a region
(`sr-ME` is `sr-Latn-ME`), else the nearest locale above it. Going up, a
region is dropped (or the tag moves to the regional locale its region stands
below, `en-GB` to `en-001`), a script that is not the language's usual one
keeps the tag apart from the language (`sr-Latn` goes up to the root, not to
`sr`), and the language goes up to the root. Two locales are named by more
than these: `ca-ES-valencia` and the POSIX locale `en-US-u-va-posix`.

The numbering system is the locale's own default unless the tag's `nu` key
names one with ten digits. The symbols for a named system come from the
nearest locale that gives symbols for it; a locale that gives symbols for
some systems but not the named one sends the search back to the tag's locale
for its Latin-digit symbols instead, and a search for Latin-digit symbols that
passes such a locale ends at the root's.

A finite number is rounded to the pattern's fraction digits, ties to even on
the exact binary value, and written without trailing fraction zeros, its whole
digits grouped as the pattern says.
-/

set_option autoImplicit false

namespace Vernacular

namespace Locales

/-- The number data a locale tag has of its own, if any. -/
def own? (tag : String) : Option LocaleNumbers := NumberData.locales.find? (·.tag == tag)

/-- Whether a tag names a locale: one with data, one without, or the root. -/
def isLocale (tag : String) : Bool :=
  tag == "und" || NumberData.localeTags.contains tag || NumberData.datalessTags.contains tag ||
    tag == NumberData.valencianTag || tag == NumberData.posixTag

/-- The likely script of a language, in a region when one is given. -/
def likelyScript (language : String) (region : Option String) : Option String :=
  match region.bind fun r => NumberData.regionalScripts.lookup (language ++ "-" ++ r) with
  | some s => some s
  | none => NumberData.likelyScripts.lookup language

/-- The tag one step nearer the root, for a tag of language, script and
region. -/
def parentOf (t : LanguageTag) : LanguageTag :=
  let root : LanguageTag := ⟨"und", none, none, [], [], []⟩
  let only (language : String) (script : Option String) : LanguageTag := ⟨language, script, none, [], [], []⟩
  if t.language == "und" then root
  else
    match t.region, t.script with
    | some r, s =>
      let maxScript := s.orElse fun _ => likelyScript t.language (some r)
      let rule := NumberData.regionParents.find? fun (l, script, regions, _) =>
        l == t.language && some script == maxScript && regions.contains r
      match rule with
      | some (_, _, _, parent) =>
        match parent.splitOn "-" with
        | [l, s, r] => ⟨l, some s, some r, [], [], []⟩
        | [l, r] => ⟨l, none, some r, [], [], []⟩
        | _ => root
      | none =>
        if likelyScript t.language none != maxScript then only t.language maxScript
        else only t.language none
    | none, some s => if likelyScript t.language none != some s then root else only t.language none
    | none, none => root

/-- The locale a tag's numbers come from, found within `fuel` steps up. -/
def localeWithin (fuel : Nat) (t : LanguageTag) : String :=
  if isLocale t.coreName then t.coreName
  else
    match fuel with
    | 0 => "und"
    | fuel + 1 => localeWithin fuel (parentOf t)

/-- The locale a tag's numbers come from. -/
def localeOf (t : LanguageTag) : String :=
  let special :=
    if !t.variants.isEmpty then
      if t.coreName == "ca-ES" && t.variants == ["valencia"] then some NumberData.valencianTag else none
    else if t.coreName == "en-US" && t.typeForKey "va" == some "posix" then some NumberData.posixTag
    else none
  match special with
  | some locale => locale
  | none =>
    let c := t.core
    if isLocale c.coreName then c.coreName
    else
      let filled := match c.region, c.script with
        | some r, none => (likelyScript c.language (some r)).map fun s => { c with script := some s }
        | _, _ => none
      match filled with
      | some f => if isLocale f.coreName then f.coreName else localeWithin 8 (parentOf c)
      | none => localeWithin 8 (parentOf c)

/-- A locale's tag read back into its parts. -/
def tagOf (locale : String) : LanguageTag :=
  if locale == NumberData.valencianTag then ⟨"ca", none, some "ES", ["valencia"], [], []⟩
  else if locale == NumberData.posixTag then ⟨"en", none, some "US", [], [('u', ["va", "posix"])], []⟩
  else
    match locale.splitOn "-" with
    | [l] => ⟨l, none, none, [], [], []⟩
    | [l, x] => if x.length == 4 then ⟨l, some x, none, [], [], []⟩ else ⟨l, none, some x, [], [], []⟩
    | [l, s, r] => ⟨l, some s, some r, [], [], []⟩
    | _ => ⟨"und", none, none, [], [], []⟩

/-- The locale above a locale. -/
def parentLocale (locale : String) : String :=
  let t := tagOf locale
  if locale == NumberData.valencianTag || locale == NumberData.posixTag then localeWithin 8 t.core
  else localeWithin 8 (parentOf t)

/-- The first answer `pick` gives for a locale or one above it, within
`fuel` steps. -/
def inherited {α : Type} (pick : LocaleNumbers → Option α) (fallback : α) : Nat → String → α
  | 0, _ => fallback
  | fuel + 1, locale =>
    if locale == "und" then fallback
    else
      match (own? locale).bind pick with
      | some a => a
      | none => inherited pick fallback fuel (parentLocale locale)

/-- The root locale's symbols for Latin digits. -/
def rootLatin : NumberSymbols := (NumberData.rootSymbols.lookup "latn").getD default

/-- A locale's symbols for Latin digits. A language without data of its own
takes the root's. -/
def latinSymbols (locale : String) : NumberSymbols :=
  if NumberData.datalessTags.contains locale then rootLatin
  else inherited (·.symbols) rootLatin 6 locale

/-- A locale's decimal pattern. -/
def decimalPattern (locale : String) : DecimalPattern :=
  inherited (·.pattern) DecimalPattern.standard 6 locale

/-- The numbering systems a locale gives symbols for, with those symbols,
its default first; none for a locale that gives only Latin-digit symbols. -/
def alternatives (locale : String) : Option (List (String × NumberSymbols)) :=
  if locale == "und" then some NumberData.rootSymbols
  else
    match own? locale with
    | some d =>
      match d.system, d.native with
      | some s, some n =>
        let latin := latinSymbols locale
        some ((s, n) :: (if latin == n then [] else [("latn", latin)]))
      | _, _ => none
    | none => none

/-- The symbols for the numbering system `system` as found from `locale` up,
for a tag whose locale is `start`. -/
def symbolsFrom (start : String) : Nat → String → String → NumberSymbols
  | 0, _, _ => rootLatin
  | fuel + 1, locale, system =>
    match alternatives locale with
    | none =>
      if system == "latn" then latinSymbols locale
      else symbolsFrom start fuel (parentLocale locale) system
    | some alts =>
      match alts.lookup system with
      | some s => s
      | none =>
        if system == "latn" then rootLatin
        else symbolsFrom start fuel start "latn"

/-- The numbering system and symbols a tag's locale writes numbers with. -/
def systemAndSymbols (t : LanguageTag) : String × NumberSymbols :=
  let locale := localeOf t
  match (t.typeForKey "nu").filter fun n => (NumberData.numberingSystems.lookup n).isSome with
  | some system => (system, symbolsFrom locale 16 locale system)
  | none =>
    match alternatives locale with
    | some ((system, s) :: _) => (system, s)
    | _ => ("latn", latinSymbols locale)

end Locales

/-- Group the digits of a whole number: the group nearest the point has
`primary` digits and the others `secondary`; no grouping when `primary` is
zero. -/
def groupDigits (digits : List Char) (sep : String) (primary secondary : Nat) : String :=
  let n := digits.length
  if primary == 0 || n ≤ primary then String.ofList digits
  else
    let head := digits.take (n - primary)
    let tail := String.ofList (digits.drop (n - primary))
    let size := if secondary == 0 then primary else secondary
    let rec chunks (fuel : Nat) (cs : List Char) : List String :=
      match fuel with
      | 0 => [String.ofList cs]
      | fuel + 1 =>
        if cs.length ≤ size then [String.ofList cs]
        else chunks fuel (cs.take (cs.length - size)) ++ [String.ofList (cs.drop (cs.length - size))]
    sep.intercalate (chunks head.length head ++ [tail])

/-- A finite magnitude times `10^places`, rounded to a whole number, ties to
even. -/
def scaledRound (mantissa : Nat) (exponent : Int) (places : Nat) : Nat :=
  let scale := Nat.pow 10 places
  if 0 ≤ exponent then mantissa * Nat.pow 2 exponent.toNat * scale
  else Binary64.roundHalfEven (mantissa * scale) (Nat.pow 2 (-exponent).toNat)

/-- A number written with the given digits, symbols and pattern. The digits
are those from `zeroCode` on. -/
def writeNumber (zeroCode : Nat) (sym : NumberSymbols) (pat : DecimalPattern) (x : Float) : String :=
  let localize (s : String) : String :=
    s.map fun c => if '0' ≤ c && c ≤ '9' then Char.ofNat (zeroCode + (c.toNat - '0'.toNat)) else c
  match Binary64.shape x with
  | .nan => sym.nan
  | .infinite negative => (if negative then sym.minus else "") ++ sym.infinity
  | .finite negative mantissa exponent =>
    let scale := Nat.pow 10 pat.maxFraction
    let n := scaledRound mantissa exponent pat.maxFraction
    let whole := (toString (n / scale)).toList
    let fraction := ((toString (n % scale + scale)).toList.drop 1).reverse.dropWhile (· == '0') |>.reverse
    let sign := if negative && mantissa != 0 then sym.minus else ""
    let body := localize (groupDigits whole "\x00" pat.primary pat.secondary)
    let body := body.replace "\x00" sym.group
    sign ++ body ++ (if fraction.isEmpty then "" else sym.decimal ++ localize (String.ofList fraction))

/-- A number written for a language tag. -/
def formatForLocale (t : LanguageTag) (x : Float) : String :=
  let (system, sym) := Locales.systemAndSymbols t
  let zeroCode := (NumberData.numberingSystems.lookup system).getD 0x30
  writeNumber zeroCode sym (Locales.decimalPattern (Locales.localeOf t)) x

end Vernacular
