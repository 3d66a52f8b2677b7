import Vernacular.Text.Quoted
/-!
# Request lines

A request to serve is described by a method and a target, and is read back
from the request line `METHOD TARGET HTTP/1.0`, the way a server reads it.
The line is cut at its first two spaces into the method, the request URI and
the protocol version, so a target that holds a space leaves a protocol that
is not a version. The method must be a token. The request URI is then
parsed:

* `*` stands for itself;
* a scheme before the first colon is split off, and the query after the first
  `?` (a lone `?` at the very end asks for an empty query);
* without a scheme the rest must be an absolute path; with one, a rest that is
  not a path is kept as it is, and a rest that starts with `//` carries an
  authority, `userinfo@host:port`, which is checked and dropped;
* the path's escapes must be well formed. The path is given back as it came
  when it is already a valid escaped path, and escaped again otherwise.

The request URI is the path, `/` when it is empty, then `?` and the query when
there is one. Every refusal names its reason in the words a server uses.
-/

set_option autoImplicit false

namespace Vernacular

namespace RequestLine

/-- The byte of an ASCII character. -/
def byteOf (c : Char) : UInt8 := c.toNat.toUInt8

/-- Whether a byte is one of the ASCII characters of a string. -/
def oneOf (chars : String) (b : UInt8) : Bool := chars.toList.any fun c => byteOf c == b

/-- ASCII letters. -/
def isAlpha (b : UInt8) : Bool := (97 ≤ b && b ≤ 122) || (65 ≤ b && b ≤ 90)

/-- ASCII digits. -/
def isDigit (b : UInt8) : Bool := 48 ≤ b && b ≤ 57

/-- The value of a hexadecimal digit. -/
def hexValue? (b : UInt8) : Option Nat :=
  if isDigit b then some (b.toNat - 48)
  else if 97 ≤ b && b ≤ 102 then some (b.toNat - 87)
  else if 65 ≤ b && b ≤ 70 then some (b.toNat - 55)
  else none

/-- Hexadecimal digits. -/
def isHex (b : UInt8) : Bool := (hexValue? b).isSome

/-- Control characters, which no URL may hold. -/
def isControl (b : UInt8) : Bool := b < 0x20 || b == 0x7f

/-- Characters of a token, the form of a method name. -/
def isTokenByte (b : UInt8) : Bool := isAlpha b || isDigit b || oneOf "!#$%&'*+-.^_`|~" b

/-- The bytes in double quotes with escapes, as reasons quote them. -/
def quote (bytes : List UInt8) : String := Text.quoted ⟨bytes⟩

/-- The text of bytes cut from a well-formed text at ASCII characters. -/
def textOf (bytes : List UInt8) : String := (Text.mk bytes).toStringLossy

/-- The bytes before and after the first occurrence of a byte. -/
def cutAt (sep : UInt8) : List UInt8 → Option (List UInt8 × List UInt8)
  | [] => none
  | b :: rest =>
    if b == sep then some ([], rest)
    else (cutAt sep rest).map fun (before, after) => (b :: before, after)

/-- The bytes before and after the last occurrence of a byte. -/
def cutAtLast (sep : UInt8) (bytes : List UInt8) : Option (List UInt8 × List UInt8) :=
  (cutAt sep bytes.reverse).map fun (after, before) => (before.reverse, after.reverse)

/-- The first line of a text as a line reader gives it: without its line
break, and without a carriage return right before the break. -/
def firstLine (bytes : List UInt8) : List UInt8 :=
  match cutAt 10 bytes with
  | some (line, _) => if line.getLast? == some 13 then line.dropLast else line
  | none => bytes

/-- Whether a protocol is an HTTP version `HTTP/d.d`. -/
def isVersion (proto : List UInt8) : Bool :=
  match proto with
  | [h, t1, t2, p, slash, major, dot, minor] =>
    [h, t1, t2, p, slash] == "HTTP/".toUTF8.toList && dot == byteOf '.' &&
      isDigit major && isDigit minor
  | _ => false

/-! ## Escapes -/

/-- The parts of a URL whose escapes are checked. -/
inductive Part where
  | path
  | host
  | userinfo
deriving DecidableEq

/-- Whether an ASCII byte has to be escaped in a host. -/
def hostEscapes (b : UInt8) : Bool :=
  !(isAlpha b || isDigit b || oneOf "-_.~!$&'()*+,;=:[]<>\"" b)

/-- The reason an escape is malformed: the escape, cut to three bytes. -/
def escapeReason (bytes : List UInt8) : String := "invalid URL escape " ++ quote (bytes.take 3)

/-- Why a part of a URL cannot be unescaped: a `%` that is not followed by
two hexadecimal digits, or, in a host, an escape of an ASCII character other
than `%` or an ASCII character that a host cannot hold. -/
def escapeFault (part : Part) : List UInt8 → Option String
  | [] => none
  | b :: rest =>
    if b == byteOf '%' then
      match rest with
      | h :: l :: more =>
        match hexValue? h, hexValue? l with
        | some x, some _ =>
          if part == .host && x < 8 && !(h == byteOf '2' && l == byteOf '5') then
            some (escapeReason [b, h, l])
          else escapeFault part more
        | _, _ => some (escapeReason (b :: rest))
      | _ => some (escapeReason (b :: rest))
    else if part == .host && b < 0x80 && hostEscapes b then
      some ("invalid character " ++ quote [b] ++ " in host name")
    else escapeFault part rest

/-- Decode the `%XX` escapes of a part whose escapes are well formed. -/
def unescape : List UInt8 → List UInt8
  | [] => []
  | b :: h :: l :: more =>
    match hexValue? h, hexValue? l with
    | some x, some y =>
      if b == byteOf '%' then UInt8.ofNat (16 * x + y) :: unescape more
      else b :: unescape (h :: l :: more)
    | _, _ => b :: unescape (h :: l :: more)
  | b :: rest => b :: unescape rest
termination_by bytes => bytes.length

/-- Whether a byte is left as it is in an escaped path. -/
def pathKeeps (b : UInt8) : Bool := isAlpha b || isDigit b || oneOf "-_.~$&+,/:;=@" b

/-- Whether a path is already a valid escaped path. -/
def isEscapedPath (path : List UInt8) : Bool :=
  path.all fun b => pathKeeps b || oneOf "!'()*[]%" b

/-- A path with the bytes that need it written as `%XX`. -/
def escapePath (bytes : List UInt8) : String :=
  String.join (bytes.map fun b =>
    if pathKeeps b then (Char.ofNat b.toNat).toString
    else "%" ++ (hexPadded 2 b.toNat).toUpper)

/-- The escaped form of a path: as it came when that is valid, else escaped
again; `/` when it is empty. -/
def escapedPath (path : List UInt8) : String :=
  if path.isEmpty then "/"
  else if isEscapedPath path then textOf path
  else escapePath (unescape path)

/-! ## Authorities -/

/-- Whether a port suffix is empty or a colon and digits. -/
def isPortSuffix (suffix : List UInt8) : Bool :=
  match suffix with
  | [] => true
  | c :: digits => c == byteOf ':' && digits.all isDigit

/-- Why a host cannot be read: a bracketed address without its closing
bracket, a port that is not digits, or a malformed escape or character. -/
def hostFault (host : List UInt8) : Option String :=
  let portFault (suffix : List UInt8) : Option String :=
    if isPortSuffix suffix then none else some ("invalid port " ++ quote suffix ++ " after host")
  if host.head? == some (byteOf '[') then
    match cutAtLast (byteOf ']') host with
    | none => some "missing ']' in host"
    | some (_, suffix) => (portFault suffix).orElse fun _ => escapeFault .host host
  else
    match cutAtLast (byteOf ':') host with
    | some (_, port) => (portFault (byteOf ':' :: port)).orElse fun _ => escapeFault .host host
    | none => escapeFault .host host

/-- Characters a userinfo may hold. -/
def userinfoKeeps (b : UInt8) : Bool := isAlpha b || isDigit b || oneOf "-._:~!$&'()*+,;=%@" b

/-- Why a userinfo cannot be read: a character it cannot hold, or a malformed
escape in its name or, after the first colon, its password. -/
def userinfoFault (info : List UInt8) : Option String :=
  if !info.all userinfoKeeps then some "net/url: invalid userinfo"
  else match cutAt (byteOf ':') info with
    | none => escapeFault .userinfo info
    | some (name, password) =>
      (escapeFault .userinfo name).orElse fun _ => escapeFault .userinfo password

/-- Why an authority cannot be read: its host, after the last `@`, is read
first, then its userinfo. -/
def authorityFault (authority : List UInt8) : Option String :=
  match cutAtLast (byteOf '@') authority with
  | none => hostFault authority
  | some (info, host) => (hostFault host).orElse fun _ => userinfoFault info

/-! ## Request URIs -/

/-- The scheme of a URL and the rest after its colon. A URL has no scheme
when a character other than a letter comes first or a character outside the
scheme alphabet comes before any colon; a colon first is refused. -/
def splitScheme (whole : List UInt8) : List UInt8 → List UInt8 → Except String (List UInt8 × List UInt8)
  | _, [] => .ok ([], whole)
  | seen, b :: rest =>
    if isAlpha b then splitScheme whole (seen ++ [b]) rest
    else if isDigit b || oneOf "+-." b then
      if seen.isEmpty then .ok ([], whole) else splitScheme whole (seen ++ [b]) rest
    else if b == byteOf ':' then
      if seen.isEmpty then .error "missing protocol scheme" else .ok (seen, rest)
    else .ok ([], whole)

/-- The part before the query and the query, if there is one: after the
first `?`, or empty for a single `?` at the very end. -/
def splitQuery (rest : List UInt8) : List UInt8 × Option (List UInt8) :=
  if rest.getLast? == some (byteOf '?') && rest.count (byteOf '?') == 1 then (rest.dropLast, some [])
  else match cutAt (byteOf '?') rest with
    | some (before, after) => (before, some after)
    | none => (rest, none)

/-- The request URI a raw target stands for, or why it is refused. -/
def requestURI (raw : List UInt8) : Except String String :=
  let fail (why : String) : Except String String := .error ("parse " ++ quote raw ++ ": " ++ why)
  if raw.any isControl then fail "net/url: invalid control character in URL"
  else if raw.isEmpty then fail "empty url"
  else if raw == [byteOf '*'] then .ok "*"
  else match splitScheme raw [] raw with
    | .error why => fail why
    | .ok (scheme, rest) =>
      let (rest, query) := splitQuery rest
      let suffix := match query with
        | some q => "?" ++ textOf q
        | none => ""
      if rest.head? != some (byteOf '/') then
        if scheme.isEmpty then fail "invalid URI for request"
        else .ok ((if rest.isEmpty then "/" else textOf rest) ++ suffix)
      else
        let (authority, path) :=
          if !scheme.isEmpty && rest.take 2 == [byteOf '/', byteOf '/'] then
            match cutAt (byteOf '/') (rest.drop 2) with
            | some (authority, path) => (some authority, byteOf '/' :: path)
            | none => (some (rest.drop 2), [])
          else (none, rest)
        match authority.bind authorityFault with
        | some why => fail why
        | none =>
          match escapeFault .path path with
          | some why => fail why
          | none => .ok (escapedPath path ++ suffix)

/-- Read the request line of a method and a target: the method and the
request URI, or why a server would refuse the line. A `CONNECT` request whose
target is not a path names an authority. -/
def read (method target : String) : Except String (String × String) :=
  let refuse (why : String) : Except String (String × String) :=
    .error ("invalid NewRequest arguments; " ++ why)
  let line := firstLine ((method ++ " " ++ target ++ " HTTP/1.0\r\n").toUTF8.toList)
  let malformed := refuse ("malformed HTTP request " ++ quote line)
  match cutAt (byteOf ' ') line with
  | none => malformed
  | some (name, rest) =>
    match cutAt (byteOf ' ') rest with
    | none => malformed
    | some (uri, proto) =>
      if name.isEmpty || !name.all isTokenByte then refuse ("invalid method " ++ quote name)
      else if !isVersion proto then refuse ("malformed HTTP version " ++ quote proto)
      else
        let raw :=
          if name == "CONNECT".toUTF8.toList && uri.head? != some (byteOf '/') then
            "http://".toUTF8.toList ++ uri
          else uri
        match requestURI raw with
        | .ok path => .ok (textOf name, path)
        | .error why => refuse why

end RequestLine

end Vernacular
