import Vernacular.Library.Install
import Vernacular.Time.Civil
import Vernacular.Text.Letters
/-!
# Dates

`dt.now()` is the clock in milliseconds since the epoch, and `dt.date(ms)`
describes an instant in UTC: an object whose `date`, `year`, `month`, `day`
and `time` give the day of the month, the year, the month counted from zero,
the weekday counted from Sunday and the milliseconds, and whose `format`
writes the instant with a layout.

A layout is a reference time, `Monday, 2 January 2006 15:04`, written the way
the instant should be: each element of the reference (`2006`, `Jan`, `02`,
`15`, `PM`, `.000`, `MST`, ...) is replaced by the same element of the
instant, and everything else is copied.

With a locale, the names of weekdays and months and the day periods are then
translated: the written text and the layout are cut into runs of letters, of
decimal digits and of other characters (letters and digits of any script), and
each run of the text that stands where the layout has `Monday`, `Mon`,
`January`, `Jan`, `PM` or `pm` is looked up in the locale's tables. Some
languages decline a month after a day number: when the nearest run before the
month that is not punctuation or space is a number of one or two digits, they
use the genitive names. A text whose runs do not line up with the layout's is
left in English, as is every text for an unknown locale.
-/

set_option autoImplicit false

namespace Vernacular

/-- English month names. -/
def monthNames : List String :=
  ["January", "February", "March", "April", "May", "June", "July", "August", "September",
   "October", "November", "December"]

/-- English weekday names, from Sunday. -/
def weekdayNames : List String :=
  ["Sunday", "Monday", "Tuesday", "Wednesday", "Thursday", "Friday", "Saturday"]

/-! ## Layouts -/

/-- The elements of a layout. -/
inductive LayoutElement where
  | literal (c : Char)
  | longMonth | month | numMonth | zeroMonth
  | longWeekday | weekday
  | day | underDay | zeroDay | underYearDay | zeroYearDay
  | hour | hour12 | zeroHour12 | minute | zeroMinute | second | zeroSecond
  | longYear | year | upperPeriod | lowerPeriod | zoneName
  | isoZone (pattern : String) | numericZone (pattern : String)
  | fraction (trim : Bool) (digits : Nat) (separator : Char)
deriving Inhabited, Repr

/-- Whether a character list starts with a string. -/
def startsWithText (cs : List Char) (s : String) : Bool := s.toList.isPrefixOf cs

/-- The layout element at the head of a layout, with the characters it takes. -/
def layoutElementAt (cs : List Char) : LayoutElement × Nat :=
  let lowerNext (k : Nat) : Bool := match cs.drop k with
    | c :: _ => 'a' ≤ c && c ≤ 'z'
    | [] => false
  let at_ (k : Nat) : Char := cs.getD k '\x00'
  let zones (sign : String) (mk : String → LayoutElement) : Option (LayoutElement × Nat) :=
    [sign ++ "070000", sign ++ "07:00:00", sign ++ "0700", sign ++ "07:00", sign ++ "07"].findSome?
      fun p => if startsWithText cs p then some (mk p, p.length) else none
  let fallback := (LayoutElement.literal (cs.headD ' '), 1)
  match cs with
  | [] => fallback
  | c :: _ =>
    if c == 'J' && startsWithText cs "Jan" then
      if startsWithText cs "January" then (.longMonth, 7)
      else if !lowerNext 3 then (.month, 3) else fallback
    else if c == 'M' && startsWithText cs "Mon" then
      if startsWithText cs "Monday" then (.longWeekday, 6)
      else if !lowerNext 3 then (.weekday, 3) else fallback
    else if c == 'M' && startsWithText cs "MST" then (.zoneName, 3)
    else if c == '0' && '1' ≤ at_ 1 && at_ 1 ≤ '6' then
      (match at_ 1 with
        | '1' => .zeroMonth | '2' => .zeroDay | '3' => .zeroHour12 | '4' => .zeroMinute
        | '5' => .zeroSecond | _ => .year, 2)
    else if c == '0' && at_ 1 == '0' && at_ 2 == '2' then (.zeroYearDay, 3)
    else if c == '1' then (if at_ 1 == '5' then (.hour, 2) else (.numMonth, 1))
    else if c == '2' then (if startsWithText cs "2006" then (.longYear, 4) else (.day, 1))
    else if c == '_' && at_ 1 == '2' then
      (if startsWithText (cs.drop 1) "2006" then fallback else (.underDay, 2))
    else if c == '_' && at_ 1 == '_' && at_ 2 == '2' then (.underYearDay, 3)
    else if c == '3' then (.hour12, 1)
    else if c == '4' then (.minute, 1)
    else if c == '5' then (.second, 1)
    else if c == 'P' && at_ 1 == 'M' then (.upperPeriod, 2)
    else if c == 'p' && at_ 1 == 'm' then (.lowerPeriod, 2)
    else if c == '-' then (zones "-" LayoutElement.numericZone).getD fallback
    else if c == 'Z' then (zones "Z" LayoutElement.isoZone).getD fallback
    else if (c == '.' || c == ',') && (at_ 1 == '0' || at_ 1 == '9') then
      let ch := at_ 1
      let run := ((cs.drop 1).takeWhile (· == ch)).length
      if isDigitChar (at_ (run + 1)) then fallback else (.fraction (ch == '9') run c, run + 1)
    else fallback

/-- The elements of a layout. -/
def layoutElements (cs : List Char) : List LayoutElement :=
  let rec go (fuel : Nat) (cs : List Char) : List LayoutElement :=
    match fuel, cs with
    | 0, _ => []
    | _, [] => []
    | fuel + 1, cs =>
      let (e, n) := layoutElementAt cs
      e :: go fuel (cs.drop (max n 1))
  go cs.length cs

/-- A whole number padded with zeros to a width; a negative one gets its sign first. -/
def padInt (x : Int) (width : Nat) : String :=
  let digits := toString x.natAbs
  let padded := String.ofList (List.replicate (width - digits.length) '0') ++ digits
  if x < 0 then "-" ++ padded else padded

/-- An element written for an instant. -/
def LayoutElement.render (t : CivilTime) : LayoutElement → String
  | .literal c => c.toString
  | .longMonth => monthNames.getD (t.month - 1) ""
  | .month => String.ofList ((monthNames.getD (t.month - 1) "").toList.take 3)
  | .numMonth => toString t.month
  | .zeroMonth => padInt t.month 2
  | .longWeekday => weekdayNames.getD t.weekday ""
  | .weekday => String.ofList ((weekdayNames.getD t.weekday "").toList.take 3)
  | .day => toString t.day
  | .underDay => (if t.day < 10 then " " else "") ++ toString t.day
  | .zeroDay => padInt t.day 2
  | .underYearDay =>
    (if t.yearDay < 100 then " " else "") ++ (if t.yearDay < 10 then " " else "") ++ toString t.yearDay
  | .zeroYearDay => padInt t.yearDay 3
  | .hour => padInt t.hour 2
  | .hour12 => toString (if t.hour % 12 == 0 then 12 else t.hour % 12)
  | .zeroHour12 => padInt (if t.hour % 12 == 0 then 12 else t.hour % 12) 2
  | .minute => toString t.minute
  | .zeroMinute => padInt t.minute 2
  | .second => toString t.second
  | .zeroSecond => padInt t.second 2
  | .longYear => padInt t.year 4
  | .year => padInt (t.year.tmod 100) 2
  | .upperPeriod => if t.hour ≥ 12 then "PM" else "AM"
  | .lowerPeriod => if t.hour ≥ 12 then "pm" else "am"
  | .zoneName => "UTC"
  | .isoZone _ => "Z"
  | .numericZone p =>
    match p with
    | "-070000" => "+000000" | "-07:00:00" => "+00:00:00" | "-0700" => "+0000"
    | "-07:00" => "+00:00" | _ => "+00"
  | .fraction trim digits separator =>
    let nanos := (padInt (t.millis * 1000000) 9).toList.take (min digits 9)
    if trim then
      let kept := (nanos.reverse.dropWhile (· == '0')).reverse
      if kept.isEmpty then "" else String.ofList (separator :: kept)
    else String.ofList (separator :: nanos)

/-- An instant written with a layout. -/
def CivilTime.format (t : CivilTime) (layout : String) : String :=
  String.join ((layoutElements layout.toList).map (·.render t))

/-! ## Locales -/

/-- The names a locale gives to weekdays, months and day periods. Lists run
from Sunday and from January; genitive month names are for languages that
decline a month after a day number. -/
structure DateLocale where
  longDays : List String
  shortDays : List String
  longMonths : List String
  shortMonths : List String
  genitiveLong : Option (List String)
  genitiveShort : Option (List String)
  periods : List (String × String)
deriving Inhabited

namespace DateLocale

/-- English. -/
def english : DateLocale :=
  ⟨weekdayNames, weekdayNames.map (fun s => String.ofList (s.toList.take 3)), monthNames,
   monthNames.map (fun s => String.ofList (s.toList.take 3)), none, none, []⟩

/-- Month names `1月` to `12月` and the like. -/
def numberedMonths (suffix : String) : List String :=
  (List.range 12).map fun k => toString (k + 1) ++ suffix

/-- The locales by name. -/
def table : List (String × DateLocale) :=
  let german : DateLocale :=
    ⟨["Sonntag", "Montag", "Dienstag", "Mittwoch", "Donnerstag", "Freitag", "Samstag"],
     ["So", "Mo", "Di", "Mi", "Do", "Fr", "Sa"],
     ["Januar", "Februar", "März", "April", "Mai", "Juni", "Juli", "August", "September",
      "Oktober", "November", "Dezember"],
     ["Jan", "Feb", "Mär", "Apr", "Mai", "Juni", "Juli", "Aug", "Sep", "Okt", "Nov", "Dez"],
     none, none, []⟩
  let french : DateLocale :=
    ⟨["dimanche", "lundi", "mardi", "mercredi", "jeudi", "vendredi", "samedi"],
     ["dim", "lun", "mar", "mer", "jeu", "ven", "sam"],
     ["janvier", "février", "mars", "avril", "mai", "juin", "juillet", "août", "septembre",
      "octobre", "novembre", "décembre"],
     ["janv", "févr", "mars", "avr", "mai", "juin", "juil", "août", "sept", "oct", "nov", "déc"],
     none, none, []⟩
  let spanish : DateLocale :=
    ⟨["domingo", "lunes", "martes", "miércoles", "jueves", "viernes", "sábado"],
     ["dom", "lun", "mar", "mié", "jue", "vie", "sáb"],
     ["enero", "febrero", "marzo", "abril", "mayo", "junio", "julio", "agosto", "septiembre",
      "octubre", "noviembre", "diciembre"],
     ["ene", "feb", "mar", "abr", "may", "jun", "jul", "ago", "sep", "oct", "nov", "dic"],
     none, none, []⟩
  let italian : DateLocale :=
    ⟨["domenica", "lunedì", "martedì", "mercoledì", "giovedì", "venerdì", "sabato"],
     ["dom", "lun", "mar", "mer", "gio", "ven", "sab"],
     ["gennaio", "febbraio", "marzo", "aprile", "maggio", "giugno", "luglio", "agosto",
      "settembre", "ottobre", "novembre", "dicembre"],
     ["gen", "feb", "mar", "apr", "mag", "giu", "lug", "ago", "set", "ott", "nov", "dic"],
     none, none, []⟩
  let portuguese : DateLocale :=
    ⟨["Domingo", "Segunda-feira", "Terça-feira", "Quarta-feira", "Quinta-feira", "Sexta-feira",
      "Sábado"],
     ["dom", "seg", "ter", "qua", "qui", "sex", "sáb"],
     ["Janeiro", "Fevereiro", "Março", "Abril", "Maio", "Junho", "Julho", "Agosto", "Setembro",
      "Outubro", "Novembro", "Dezembro"],
     ["Jan", "Fev", "Mar", "Abr", "Mai", "Jun", "Jul", "Ago", "Set", "Out", "Nov", "Dez"],
     none, none, []⟩
  let brazilian : DateLocale :=
    ⟨["domingo", "segunda-feira", "terça-feira", "quarta-feira", "quinta-feira", "sexta-feira",
      "sábado"],
     ["dom", "seg", "ter", "qua", "qui", "sex", "sáb"],
     ["janeiro", "fevereiro", "março", "abril", "maio", "junho", "julho", "agosto", "setembro",
      "outubro", "novembro", "dezembro"],
     ["jan", "fev", "mar", "abr", "mai", "jun", "jul", "ago", "set", "out", "nov", "dez"],
     none, none, []⟩
  let dutch : DateLocale :=
    ⟨["zondag", "maandag", "dinsdag", "woensdag", "donderdag", "vrijdag", "zaterdag"],
     ["zo", "ma", "di", "wo", "do", "vr", "za"],
     ["januari", "februari", "maart", "april", "mei", "juni", "juli", "augustus", "september",
      "oktober", "november", "december"],
     ["jan", "feb", "mrt", "apr", "mei", "jun", "jul", "aug", "sep", "okt", "nov", "dec"],
     none, none, []⟩
  let russian : DateLocale :=
    ⟨["Воскресенье", "Понедельник", "Вторник", "Среда", "Четверг", "Пятница", "Суббота"],
     ["Вс", "Пн", "Вт", "Ср", "Чт", "Пт", "Сб"],
     ["Январь", "Февраль", "Март", "Апрель", "Май", "Июнь", "Июль", "Август", "Сентябрь",
      "Октябрь", "Ноябрь", "Декабрь"],
     ["Янв", "Фев", "Мар", "Апр", "Май", "Июн", "Июл", "Авг", "Сен", "Окт", "Ноя", "Дек"],
     some ["января", "февраля", "марта", "апреля", "мая", "июня", "июля", "августа", "сентября",
       "октября", "ноября", "декабря"],
     some ["янв", "фев", "мар", "апр", "мая", "июн", "июл", "авг", "сен", "окт", "ноя", "дек"],
     []⟩
  let polish : DateLocale :=
    ⟨["Niedziela", "Poniedziałek", "Wtorek", "Środa", "Czwartek", "Piątek", "Sobota"],
     ["Nie", "Pon", "Wto", "Śro", "Czw", "Pią", "Sob"],
     ["Styczeń", "Luty", "Marzec", "Kwiecień", "Maj", "Czerwiec", "Lipiec", "Sierpień",
      "Wrzesień", "Październik", "Listopad", "Grudzień"],
     ["Sty", "Lut", "Mar", "Kwi", "Maj", "Cze", "Lip", "Sie", "Wrz", "Paź", "Lis", "Gru"],
     some ["stycznia", "lutego", "marca", "kwietnia", "maja", "czerwca", "lipca", "sierpnia",
       "września", "października", "listopada", "grudnia"],
     some ["sty", "lut", "mar", "kwi", "maj", "cze", "lip", "sie", "wrz", "paź", "lis", "gru"],
     []⟩
  let japanese : DateLocale :=
    ⟨["日曜日", "月曜日", "火曜日", "水曜日", "木曜日", "金曜日", "土曜日"],
     ["日", "月", "火", "水", "木", "金", "土"],
     numberedMonths "月", numberedMonths "月", none, none,
     [("AM", "午前"), ("PM", "午後"), ("am", "午前"), ("pm", "午後")]⟩
  let chinese : DateLocale :=
    ⟨["星期日", "星期一", "星期二", "星期三", "星期四", "星期五", "星期六"],
     ["日", "一", "二", "三", "四", "五", "六"],
     numberedMonths " 月", numberedMonths "", none, none,
     [("AM", "上午"), ("PM", "下午"), ("am", "上午"), ("pm", "下午")]⟩
  let korean : DateLocale :=
    ⟨["일요일", "월요일", "화요일", "수요일", "목요일", "금요일", "토요일"],
     ["일", "월", "화", "수", "목", "금", "토"],
     numberedMonths "월", numberedMonths "월", none, none,
     [("AM", "오전"), ("PM", "오후"), ("am", "오전"), ("pm", "오후")]⟩
  let turkish : DateLocale :=
    ⟨["Pazar", "Pazartesi", "Salı", "Çarşamba", "Perşembe", "Cuma", "Cumartesi"],
     ["Paz", "Pzt", "Sal", "Çar", "Per", "Cum", "Cmt"],
     ["Ocak", "Şubat", "Mart", "Nisan", "Mayıs", "Haziran", "Temmuz", "Ağustos", "Eylül",
      "Ekim", "Kasım", "Aralık"],
     ["Oca", "Şub", "Mar", "Nis", "May", "Haz", "Tem", "Ağu", "Eyl", "Eki", "Kas", "Ara"],
     none, none, []⟩
  [("en", english), ("en_us", english), ("en_gb", english), ("de", german), ("de_de", german),
   ("fr", french), ("fr_fr", french), ("fr_ca", french), ("es", spanish), ("es_es", spanish),
   ("it", italian), ("it_it", italian), ("pt", portuguese), ("pt_pt", portuguese),
   ("pt_br", brazilian), ("nl", dutch), ("nl_nl", dutch), ("ru", russian), ("ru_ru", russian),
   ("pl", polish), ("pl_pl", polish), ("ja", japanese), ("ja_jp", japanese), ("zh", chinese),
   ("zh_cn", chinese), ("ko", korean), ("ko_kr", korean), ("tr", turkish), ("tr_tr", turkish)]

/-- The locale a name selects: case and `-` or `_` do not matter, and an
unknown name selects English. -/
def named (name : String) : DateLocale :=
  let key := (name.map Char.toLower).replace "-" "_"
  (table.lookup key).getD english

end DateLocale

/-- The class of a character when cutting a text into runs: letters, digits
or anything else. -/
def runClass (c : Char) : Nat :=
  if Unicode.isLetter c then 0 else if Unicode.isDecimalDigit c then 1 else 2

/-- A text cut into maximal runs of one class. -/
def cutRuns (s : String) : List String :=
  let step (acc : List (List Char)) (c : Char) : List (List Char) :=
    match acc with
    | (d :: run) :: rest => if runClass c == runClass d then (c :: d :: run) :: rest
      else [c] :: (d :: run) :: rest
    | _ => [c] :: acc
  ((s.toList.foldl step []).map fun run => String.ofList run.reverse).reverse

/-- Whether the last run before a month that is not punctuation or space is
a number of one or two digits, the shape of a day of the month. -/
def followsDayNumber (before : List String) : Bool :=
  match before.reverse.dropWhile (fun r => r.all fun c => runClass c == 2) with
  | r :: _ => r.length ≤ 2 && r.all fun c => runClass c == 1
  | [] => false

/-- Look up an English name in a translated list. -/
def translateName (english translated : List String) (name : String) : String :=
  match english.idxOf? name with
  | some i => translated.getD i name
  | none => name

/-- Translate the names in a text written with a layout. -/
def DateLocale.translate (loc : DateLocale) (text layout : String) : String :=
  let values := cutRuns text
  let pattern := cutRuns layout
  if values.length != pattern.length then text
  else
    let shortEnglish := fun (l : List String) => l.map fun s => String.ofList (s.toList.take 3)
    let months (i : Nat) (nominative : List String) (genitive : Option (List String)) : List String :=
      if followsDayNumber (values.take i) then genitive.getD nominative else nominative
    String.join ((values.zip pattern).zipIdx.map fun ((v, p), i) =>
      match p with
      | "Mon" => translateName (shortEnglish weekdayNames) loc.shortDays v
      | "Monday" => translateName weekdayNames loc.longDays v
      | "Jan" => translateName (shortEnglish monthNames) (months i loc.shortMonths loc.genitiveShort) v
      | "January" => translateName monthNames (months i loc.longMonths loc.genitiveLong) v
      | "PM" | "pm" => (loc.periods.lookup v).getD v
      | _ => v)

namespace Library

/-- The default layout of `format`. -/
def defaultLayout : String := "Monday, 2 January 2006 15:04"

/-- `dt.now()`. -/
def now : Eval Value := do return .number (Float.ofInt (← get).clock)

/-- The object describing an instant: its calendar fields as constant
functions, allocated in field order, then its `format` method. -/
def dateObject (ms : Int) : Eval Value := do
  let t := CivilTime.ofMillis ms
  let fields : List (String × Float) := [("date", Float.ofNat t.day), ("year", Float.ofInt t.year),
    ("month", Float.ofNat (t.month - 1)), ("day", Float.ofNat t.weekday), ("time", Float.ofInt ms)]
  let constants ← fields.mapM fun (name, x) => do
    return (Text.ofString name, ← Eval.newNative (.constant (.number x)))
  let format ← Eval.newNative (.dateFormat ms)
  Eval.newObject (constants ++ [(Text.ofString "format", format)]) false

/-- The instant `dt.date` describes: its argument in milliseconds, or the
clock when it has none. -/
def dateInstant (args : List Value) : Eval Int :=
  if args.isEmpty then do return (← get).clock
  else do return toInt64Truncated (← numberArg "dt.date" args 0)

/-- `dt.date(ms)`: the object describing an instant, the clock when no
argument is given. -/
def date (args : List Value) : Eval Value := dateInstant args >>= dateObject

/-- `date.format(layout, locale)` for an instant. -/
def dateFormat (ms : Int) (args : List Value) : Eval Value := do
  let layout ← if args.length > 0 then
      (·.toStringLossy) <$> stringArg "date.format" args 0
    else pure defaultLayout
  let locale ← if args.length > 1 then
      (·.toStringLossy) <$> stringArg "date.format" args 1
    else pure "en_US"
  let text := (CivilTime.ofMillis ms).format layout
  return .string (Text.ofString ((DateLocale.named locale).translate text layout))

end Library

end Vernacular
