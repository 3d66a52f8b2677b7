import Vernacular.Library.Install
import Vernacular.Locale.Numbers
/-!
# Formatting numbers for a locale

`number.format(x, locale)` writes a number the way a locale does, `en-US`
when no locale is given. The locale is a language tag such as `de`, `en-IN`,
`pt_BR` or `en-u-nu-arab`; a tag that is not a valid one is refused.
-/

set_option autoImplicit false

namespace Vernacular

namespace Library

/-- `number.format(x, locale)`. -/
def numberFormat (args : List Value) : Eval Value := do
  let x ← numberArg "number.format" args 0
  let tag ←
    if args.length > 1 then do
      let locale ← stringArg "number.format" args 1
      match LanguageTag.parse? locale.toStringLossy with
      | some tag => pure tag
      | none => Eval.throwMessage ("number.format: invalid locale " ++ locale.quoted)
    else pure ⟨"en", none, some "US", [], [], []⟩
  return .string (Text.ofString (formatForLocale tag x))

end Library

end Vernacular
