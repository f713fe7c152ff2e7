import Resilience.Yaml.Token

/-!
# Node properties and directives in YAML text

Reading what may stand before a node, and the directives before a document.

An anchor `&name` names the node that follows and an alias `*name` writes a named node
again; a name is a run of ASCII letters, digits, `_` and `-`, and must be followed by a
blank, the end of a line or one of `?:,]}%@` and the backquote.

A tag is written `!<uri>` (verbatim), `!handle!suffix` with a named handle, `!!suffix`
with the secondary handle, `!suffix` with the primary handle, or `!` alone, the
non-specific tag. The suffix and the verbatim form are URI characters, where `%` with two
hexadecimal digits writes one byte of a character's UTF-8 encoding. A tag ends at a blank
or the end of a line, or at a `,` in flow context.

A directive stands at the start of a line: `%YAML major.minor` with numbers of at most nine
digits, or `%TAG handle prefix`; any other name is an error. The rest of the line may hold
only blanks and a comment.

## Main definitions

* `anchorName`: Anchors and aliases.
* `tagToken`: Tags.
* `directive`: Directives.
-/

namespace Resilience

namespace Yaml

/-- Read an anchor (`&`) or alias (`*`) from its indicator. -/
def anchorName (isAlias : Bool) (s : Scanner) : Except Problem (Scanner × Token) := do
  let start := s.mark
  let (s, name) := Scanner.takeWhile isWordChar s.input.size (s.advance, "")
  let c := s.here
  if name.isEmpty || !(isBlankEnd c || "?:,]\x7d%@".contains c || c == '\x60') then
    throw { problem := "did not find expected alphabetic or numeric character", mark := s.mark,
            context := some (if isAlias then "while scanning an alias" else "while scanning an anchor",
              start) }
  return (s, ⟨if isAlias then .alias name else .anchor name, start, s.mark⟩)

/-- A character of a URI: a word character or one of `;/?:@&=+$.%!~*'()`, and in a
verbatim tag or a `%TAG` prefix also `,`, `[` and `]`. -/
def isUriChar (verbatim : Bool) (c : Char) : Bool :=
  isWordChar c || ";/?:@&=+$.%!~*'()".contains c || (verbatim && ",[]".contains c)

/-- The number of bytes of a UTF-8 sequence announced by its first byte, or zero. -/
def utf8Width (octet : Nat) : Nat :=
  if octet < 0x80 then 1
  else if octet / 32 == 6 then 2
  else if octet / 16 == 14 then 3
  else if octet / 8 == 30 then 4
  else 0

/-- Read the `%`-escaped bytes of one character of a URI: a first byte announcing the
width, then that many continuation bytes in all. `width` is zero before the first byte. -/
def uriEscapes (context : Option (String × Mark)) :
    Nat → Nat → Scanner × ByteArray → Except Problem (Scanner × ByteArray)
  | 0, _, st => pure st
  | fuel + 1, width, (s, bytes) =>
    match s.here, hexValue (s.ahead 1), hexValue (s.ahead 2) with
    | '%', some hi, some lo =>
      let octet := hi * 16 + lo
      if width == 0 && utf8Width octet == 0 then
        throw { problem := "found an incorrect leading UTF-8 octet", mark := s.mark, context }
      else if width != 0 && octet / 64 != 2 then
        throw { problem := "found an incorrect trailing UTF-8 octet", mark := s.mark, context }
      else
        let width := if width == 0 then utf8Width octet else width
        let s := s.advance.advance.advance
        let bytes := bytes.push octet.toUInt8
        if width ≤ 1 then pure (s, bytes) else uriEscapes context fuel (width - 1) (s, bytes)
    | _, _, _ => throw { problem := "did not find URI escaped octet", mark := s.mark, context }

/-- Read URI characters into bytes, counting the characters and escapes read. -/
def uriChars (verbatim : Bool) (context : Option (String × Mark)) :
    Nat → Scanner × ByteArray × Nat → Except Problem (Scanner × ByteArray × Nat)
  | 0, st => pure st
  | fuel + 1, (s, bytes, count) =>
    if !isUriChar verbatim s.here then pure (s, bytes, count)
    else if s.here == '%' then do
      let (s, bytes) ← uriEscapes context 4 0 (s, bytes)
      uriChars verbatim context fuel (s, bytes, count + 1)
    else uriChars verbatim context fuel (s.advance, bytes ++ s.here.toString.toUTF8, count + 1)

/-- Read a URI after the text `head` already read as a would-be handle, whose leading `!`
is dropped. Head and URI together must not be empty. The bytes stop at the first zero
byte. -/
def uri (verbatim : Bool) (context : Option (String × Mark)) (head : String) (s : Scanner) :
    Except Problem (Scanner × Tag) := do
  let init := (String.ofList (head.toList.drop 1)).toUTF8
  let (s, bytes, count) ← uriChars verbatim context s.input.size (s, init, head.length)
  if count == 0 then
    throw { problem := "did not find expected tag URI", mark := s.mark, context }
  return (s, ⟨bytes.toList.takeWhile (· != 0)⟩)

/-- Read a tag handle: `!`, word characters, and a closing `!` if there is one. In a `%TAG`
directive a handle other than `!` must be closed. -/
def tagHandle (directive : Bool) (start : Mark) (s : Scanner) : Except Problem (Scanner × String) := do
  if s.here != '!' then
    throw { problem := "did not find expected '!'", mark := s.mark,
            context := some (if directive then "while scanning a tag directive" else "while scanning a tag",
              start) }
  let (s, handle) := Scanner.takeWhile isWordChar s.input.size (s.advance, "!")
  if s.here == '!' then return (s.advance, handle.push '!')
  if directive && handle != "!" then
    throw { problem := "did not find expected '!'", mark := s.mark,
            context := some ("while parsing a tag directive", start) }
  return (s, handle)

/-- Read a tag from its `!`: the handle as written and the suffix. A verbatim tag has an
empty handle; the non-specific tag `!`, and a tag whose suffix starts with a zero byte, have
an empty handle and the suffix `!`. -/
def tagToken (s : Scanner) : Except Problem (Scanner × Token) := do
  let start := s.mark
  let context := some ("while parsing a tag", start)
  let (s, handle, suffix) ← do
    if s.ahead 1 == '<' then
      let (s, suffix) ← uri true context "" s.advance.advance
      if s.here != '>' then
        throw { problem := "did not find the expected '>'", mark := s.mark,
                context := some ("while scanning a tag", start) }
      pure (s.advance, "", suffix)
    else
      let (s, handle) ← tagHandle false start s
      if handle.length > 1 && handle.endsWith "!" then
        let (s, suffix) ← uri false context "" s
        pure (s, handle, suffix)
      else
        let (s, suffix) ← uri false context handle s
        if suffix.bytes.isEmpty then pure (s, "", Tag.ofString "!") else pure (s, "!", suffix)
  if !isBlankEnd s.here && !(s.flowLevel != 0 && s.here == ',') then
    throw { problem := "did not find expected whitespace or line break", mark := s.mark,
            context := some ("while scanning a tag", start) }
  return (s, ⟨.tag handle suffix, start, s.mark⟩)

/-- Read a version number of at most nine digits. -/
def versionNumber (start : Mark) (s : Scanner) : Except Problem (Scanner × Nat) := do
  let context := some ("while scanning a %YAML directive", start)
  let (s, digits) := Scanner.takeWhile Char.isDigit 9 (s, "")
  if s.here.isDigit then
    throw { problem := "found extremely long version number", mark := s.mark, context }
  if digits.isEmpty then
    throw { problem := "did not find expected version number", mark := s.mark, context }
  return (s, digits.foldl (fun n c => 10 * n + (c.toNat - '0'.toNat)) 0)

/-- Read the value of a `%YAML` directive: `major.minor`. -/
def versionDirective (start : Mark) (s : Scanner) : Except Problem (Scanner × TokenKind) := do
  let (s, major) ← versionNumber start s.skipBlanks
  if s.here != '.' then
    throw { problem := "did not find expected digit or '.' character", mark := s.mark,
            context := some ("while scanning a %YAML directive", start) }
  let (s, minor) ← versionNumber start s.advance
  return (s, .versionDirective major minor)

/-- Read the value of a `%TAG` directive: a handle, blanks, and a prefix. -/
def tagDirective (start : Mark) (s : Scanner) : Except Problem (Scanner × TokenKind) := do
  let context := some ("while scanning a %TAG directive", start)
  let (s, handle) ← tagHandle true start s.skipBlanks
  if !isBlank s.here then
    throw { problem := "did not find expected whitespace", mark := s.mark, context }
  let (s, pfx) ← uri true (some ("while parsing a %TAG directive", start)) "" s.skipBlanks
  if !isBlankEnd s.here then
    throw { problem := "did not find expected whitespace or line break", mark := s.mark, context }
  return (s, .tagDirective handle pfx)

/-- Read a directive from its `%`, up to and past the end of its line. -/
def directive (s : Scanner) : Except Problem (Scanner × Token) := do
  let start := s.mark
  let context := some ("while scanning a directive", start)
  let (s, name) := Scanner.takeWhile isWordChar s.input.size (s.advance, "")
  if name.isEmpty then
    throw { problem := "could not find expected directive name", mark := s.mark, context }
  if !isBlankEnd s.here then
    throw { problem := "found unexpected non-alphabetical character", mark := s.mark, context }
  let (s, kind) ←
    if name == "YAML" then versionDirective start s
    else if name == "TAG" then tagDirective start s
    else throw { problem := "found unknown directive name", mark := s.mark, context }
  let stop := s.mark
  let s := s.skipBlanks.skipComment
  if !(isBreak s.here || isEnd s.here) then
    throw { problem := "did not find expected comment or line break", mark := s.mark, context }
  return (s.advanceLine, ⟨kind, start, stop⟩)

end Yaml

end Resilience
