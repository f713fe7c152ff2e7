import Resilience.Yaml.Token

/-!
# Scalars in YAML text

Reading the three flow scalar styles and the two block scalar styles.

A plain scalar runs up to a `: `, a comment, a flow indicator in flow context, a document
marker, or a line indented no deeper than the enclosing block; its line breaks fold: one
break becomes a space, and of several breaks all but the first are kept. A quoted scalar
runs to its closing quote, with the same folding; single quotes are escaped by doubling
them, and a double-quoted scalar has backslash escapes, hexadecimal character codes among
them, and may continue a line with a backslash before the break.

A block scalar after `|` keeps its line breaks, and one after `>` folds breaks between
lines that do not start with a blank. Its indentation is given by a digit after the
indicator, or else is the column of its first non-empty line (at least one more than the
enclosing block's). A `-` after the indicator drops the final line break, a `+` keeps the
final break and the empty lines after it, and otherwise the final break alone is kept.

## Main definitions

* `ScalarText`: The text of a scalar being read, with its pending breaks and blanks.
* `plainScalar`, `quotedScalar`: Flow scalars.
* `blockScalar`: Block scalars.
-/

namespace Resilience

namespace Yaml

/-- The working state of a scalar being read: its text, the pending line breaks and blanks,
and where it stops so far. -/
structure ScalarText where
  text : String := ""
  leadingBreak : String := ""
  trailingBreaks : String := ""
  whitespaces : String := ""
  leadingBlanks : Bool := false
  stop : Mark

namespace ScalarText

/-- Fold the pending line breaks into the text: a single break becomes a space, more breaks
keep all but the first; breaks that are separators stay as they are. -/
def foldBreaks (t : ScalarText) : ScalarText :=
  if t.leadingBreak.startsWith "\n" then
    if t.trailingBreaks.isEmpty then { t with text := t.text ++ " ", leadingBreak := "" }
    else { t with text := t.text ++ t.trailingBreaks, leadingBreak := "", trailingBreaks := "" }
  else
    { t with text := t.text ++ t.leadingBreak ++ t.trailingBreaks, leadingBreak := "",
             trailingBreaks := "" }

/-- Join pending breaks or blanks before more text. -/
def join (t : ScalarText) : ScalarText :=
  if t.leadingBlanks then { t.foldBreaks with leadingBlanks := false }
  else { t with text := t.text ++ t.whitespaces, whitespaces := "" }

end ScalarText

/-- Whether the scanner is at a document marker `---` or `...` at the start of a line. -/
def atDocumentMarker (s : Scanner) : Bool :=
  s.mark.column == 0 &&
    ((s.ahead 0 == '-' && s.ahead 1 == '-' && s.ahead 2 == '-') ||
     (s.ahead 0 == '.' && s.ahead 1 == '.' && s.ahead 2 == '.')) &&
    isBlankEnd (s.ahead 3)

/-- Read the non-blank characters of a plain scalar up to an indicator that ends it. -/
def plainWord (start : Mark) : Nat → Scanner × ScalarText → Except Problem (Scanner × ScalarText)
  | 0, st => pure st
  | fuel + 1, (s, t) =>
    let c := s.here
    if isBlankEnd c then pure (s, t)
    else if s.flowLevel != 0 && c == ':' && ",?[]\x7b\x7d".contains (s.ahead 1) then
      throw { problem := "found unexpected ':'", mark := s.mark,
              context := some ("while scanning a plain scalar", start) }
    else if (c == ':' && isBlankEnd (s.ahead 1)) || (s.flowLevel != 0 && ",[]\x7b\x7d".contains c) then
      pure (s, t)
    else
      let t := if t.leadingBlanks || !t.whitespaces.isEmpty then t.join else t
      let s := s.advance
      plainWord start fuel (s, { t with text := t.text.push c, stop := s.mark })

/-- Read the blanks and line breaks after a word of a plain scalar. -/
def plainBlanks (start : Mark) (indent : Int) :
    Nat → Scanner × ScalarText → Except Problem (Scanner × ScalarText)
  | 0, st => pure st
  | fuel + 1, (s, t) =>
    let c := s.here
    if isBlank c then
      if t.leadingBlanks && (s.mark.column : Int) < indent && c == '\t' then
        throw { problem := "found a tab character that violates indentation", mark := s.mark,
                context := some ("while scanning a plain scalar", start) }
      else if !t.leadingBlanks then
        plainBlanks start indent fuel (s.advance, { t with whitespaces := t.whitespaces.push c })
      else plainBlanks start indent fuel (s.advance, t)
    else if isBreak c then
      if !t.leadingBlanks then
        plainBlanks start indent fuel
          (s.advanceLine, { t with whitespaces := "", leadingBreak := s.breakText,
                                   leadingBlanks := true })
      else
        plainBlanks start indent fuel
          (s.advanceLine, { t with trailingBreaks := t.trailingBreaks ++ s.breakText })
    else pure (s, t)

/-- Read a plain scalar: words separated by blanks and folded line breaks, up to a comment,
a document marker, an indicator, or a line indented no deeper than the enclosing block. -/
def plainScalar (start : Mark) (indent : Int) :
    Nat → Scanner × ScalarText → Except Problem (Scanner × ScalarText)
  | 0, st => pure st
  | fuel + 1, (s, t) => do
    if atDocumentMarker s || s.here == '#' then return (s, t)
    let (s, t) ← plainWord start s.input.size (s, t)
    if !(isBlank s.here || isBreak s.here) then return (s, t)
    let (s, t) ← plainBlanks start indent s.input.size (s, t)
    if s.flowLevel == 0 && (s.mark.column : Int) < indent then return (s, t)
    plainScalar start indent fuel (s, t)

/-- The character an escape letter of a double-quoted scalar stands for, or the number of
hexadecimal digits it takes. -/
def escapeOf (c : Char) : Option (Sum Char Nat) :=
  match c with
  | '0' => some (.inl '\x00')
  | 'a' => some (.inl '\x07')
  | 'b' => some (.inl '\x08')
  | 't' | '\t' => some (.inl '\t')
  | 'n' => some (.inl '\n')
  | 'v' => some (.inl '\x0b')
  | 'f' => some (.inl '\x0c')
  | 'r' => some (.inl '\r')
  | 'e' => some (.inl '\x1b')
  | ' ' => some (.inl ' ')
  | '"' => some (.inl '"')
  | '/' => some (.inl '/')
  | '\'' => some (.inl '\'')
  | '\\' => some (.inl '\\')
  | 'N' => some (.inl '\u0085')
  | '_' => some (.inl '\u00A0')
  | 'L' => some (.inl '\u2028')
  | 'P' => some (.inl '\u2029')
  | 'x' => some (.inr 2)
  | 'u' => some (.inr 4)
  | 'U' => some (.inr 8)
  | _ => none

/-- The value of `n` hexadecimal digits from position `k` on. -/
def hexDigits (s : Scanner) (k : Nat) : Nat → Nat → Option Nat
  | 0, acc => some acc
  | n + 1, acc =>
    match hexValue (s.ahead k) with
    | some v => hexDigits s (k + 1) n (acc * 16 + v)
    | none => none

/-- Read the non-blank characters of a quoted scalar up to the closing quote or a blank;
returns whether an escaped line break was met. -/
def quotedWord (single : Bool) (start : Mark) :
    Nat → Scanner × ScalarText → Except Problem (Scanner × ScalarText × Bool)
  | 0, (s, t) => pure (s, t, false)
  | fuel + 1, (s, t) =>
    let c := s.here
    let context := some ("while parsing a quoted scalar", start)
    if isBlankEnd c then pure (s, t, false)
    else if single && c == '\'' && s.ahead 1 == '\'' then
      quotedWord single start fuel (s.advance.advance, { t with text := t.text.push '\'' })
    else if c == (if single then '\'' else '"') then pure (s, t, false)
    else if !single && c == '\\' && isBreak (s.ahead 1) then
      pure (s.advance.advanceLine, t, true)
    else if !single && c == '\\' then
      match escapeOf (s.ahead 1) with
      | none => throw { problem := "found unknown escape character", mark := s.mark, context }
      | some (.inl e) => quotedWord single start fuel (s.advance.advance, { t with text := t.text.push e })
      | some (.inr n) =>
        -- the digits are checked after the backslash and the letter
        let s := s.advance.advance
        match hexDigits s 0 n 0 with
        | none =>
          throw { problem := "did not find expected hexdecimal number", mark := s.mark, context }
        | some v =>
          if (0xD800 ≤ v && v ≤ 0xDFFF) || 0x10FFFF < v then
            throw { problem := "found invalid Unicode character escape code", mark := s.mark,
                    context }
          else
            let s := (List.range n).foldl (fun s _ => s.advance) s
            quotedWord single start fuel (s, { t with text := t.text.push (Char.ofNat v) })
    else quotedWord single start fuel (s.advance, { t with text := t.text.push c })

/-- Read the blanks and line breaks inside a quoted scalar. -/
def quotedBlanks : Nat → Scanner × ScalarText → Scanner × ScalarText
  | 0, st => st
  | fuel + 1, (s, t) =>
    let c := s.here
    if isBlank c then
      quotedBlanks fuel (s.advance,
        if t.leadingBlanks then t else { t with whitespaces := t.whitespaces.push c })
    else if isBreak c then
      if !t.leadingBlanks then
        quotedBlanks fuel (s.advanceLine,
          { t with whitespaces := "", leadingBreak := s.breakText, leadingBlanks := true })
      else
        quotedBlanks fuel (s.advanceLine, { t with trailingBreaks := t.trailingBreaks ++ s.breakText })
    else (s, t)

/-- Read a quoted scalar after its opening quote, up to and past the closing quote. -/
def quotedScalar (single : Bool) (start : Mark) :
    Nat → Scanner × ScalarText → Except Problem (Scanner × ScalarText)
  | 0, st => pure st
  | fuel + 1, (s, t) => do
    let context := some ("while scanning a quoted scalar", start)
    if atDocumentMarker s then
      throw { problem := "found unexpected document indicator", mark := s.mark, context }
    if isEnd s.here then
      throw { problem := "found unexpected end of stream", mark := s.mark, context }
    let (s, t, escapedBreak) ← quotedWord single start s.input.size (s, { t with leadingBlanks := false })
    let t := if escapedBreak then { t with leadingBlanks := true } else t
    if s.here == (if single then '\'' else '"') then
      let s := s.advance
      return (s, { t with stop := s.mark })
    let (s, t) := quotedBlanks s.input.size (s, t)
    let t := if t.leadingBlanks then t.foldBreaks else { t with text := t.text ++ t.whitespaces, whitespaces := "" }
    quotedScalar single start fuel (s, t)

/-- The chomping indicator and the indentation digit after `|` or `>`, in either order: the
chomping is `1` for `+`, `-1` for `-` and `0` for none, and the digit is `0` when absent. -/
def blockIndicators (start : Mark) (s : Scanner) : Except Problem (Scanner × Int × Nat) := do
  let context := some ("while scanning a block scalar", start)
  let chomp (c : Char) : Int := if c == '+' then 1 else -1
  let isChomp (c : Char) : Bool := c == '+' || c == '-'
  let digit (c : Char) : Nat := c.toNat - '0'.toNat
  if isChomp s.here then
    let chomping := chomp s.here
    let s := s.advance
    if s.here.isDigit then
      if s.here == '0' then
        throw { problem := "found an indentation indicator equal to 0", mark := s.mark, context }
      return (s.advance, chomping, digit s.here)
    return (s, chomping, 0)
  else if s.here.isDigit then
    if s.here == '0' then
      throw { problem := "found an indentation indicator equal to 0", mark := s.mark, context }
    let increment := digit s.here
    let s := s.advance
    if isChomp s.here then return (s.advance, chomp s.here, increment)
    return (s, 0, increment)
  else return (s, 0, 0)

/-- Skip the spaces of a block scalar's indentation: up to `indent`, or all of them while
the indentation is not known (`indent = 0`). -/
def skipIndent (indent : Nat) : Nat → Scanner → Scanner
  | 0, s => s
  | fuel + 1, s =>
    if (indent == 0 || s.mark.column < indent) && s.here == ' ' then
      skipIndent indent fuel s.advance
    else s

/-- Read the indentation and the empty lines before a line of a block scalar, collecting
the line breaks. An unknown indentation becomes the deepest column seen, at least one more
than the enclosing block's and at least one. Returns the scanner, the indentation, the
breaks and where the scalar stops so far. -/
def blockBreaks (start : Mark) (blockIndent : Int) :
    Nat → Scanner × Nat × Nat × String × Mark → Except Problem (Scanner × Nat × String × Mark)
  | 0, (s, indent, _, breaks, stop) => pure (s, indent, breaks, stop)
  | fuel + 1, (s, indent, deepest, breaks, stop) => do
    let s := skipIndent indent s.input.size s
    let deepest := max deepest s.mark.column
    if (indent == 0 || s.mark.column < indent) && s.here == '\t' then
      throw { problem := "found a tab character where an indentation space is expected",
              mark := s.mark, context := some ("while scanning a block scalar", start) }
    if !isBreak s.here then
      let indent := if indent == 0 then max (max deepest (blockIndent + 1).toNat) 1 else indent
      return (s, indent, breaks, stop)
    let breaks := breaks ++ s.breakText
    let s := s.advanceLine
    blockBreaks start blockIndent fuel (s, indent, deepest, breaks, s.mark)

/-- The lines of a block scalar at its indentation. Each line is preceded by the break that
ended the line before and the empty lines between; a literal scalar keeps them, a folded
one turns a lone break between two lines that do not start with a blank into a space.
Returns the scanner, the text, the break after the last line, the empty lines after it, and
where the scalar stops. -/
def blockLines (literal : Bool) (start : Mark) (blockIndent : Int) (indent : Nat) :
    Nat → Scanner × String × String × String × Mark × Bool →
      Except Problem (Scanner × String × String × String × Mark)
  | 0, (s, text, leading, trailing, stop, _) => pure (s, text, leading, trailing, stop)
  | fuel + 1, (s, text, leading, trailing, stop, leadingBlank) => do
    if s.mark.column != indent || isEnd s.here then return (s, text, leading, trailing, stop)
    let trailingBlank := isBlank s.here
    let text :=
      if !literal && leading.startsWith "\n" && !leadingBlank && !trailingBlank then
        if trailing.isEmpty then text ++ " " else text
      else text ++ leading
    let text := text ++ trailing
    let leadingBlank := isBlank s.here
    let (s, line) := Scanner.takeWhile (fun c => !isBreak c) s.input.size (s, "")
    let leading := if isBreak s.here then s.breakText else ""
    let s := s.advanceLine
    let (s, _, trailing, stop) ←
      blockBreaks start blockIndent s.input.size (s, indent, 0, "", s.mark)
    blockLines literal start blockIndent indent fuel
      (s, text ++ line, leading, trailing, stop, leadingBlank)

/-- Read a block scalar from its indicator `|` (literal) or `>` (folded): the indicators,
the rest of the line, which may hold only blanks and a comment, and the lines at the
scalar's indentation, chomped as the indicator says. -/
def blockScalar (literal : Bool) (s : Scanner) : Except Problem (Scanner × Token) := do
  let start := s.mark
  let (s, chomping, increment) ← blockIndicators start s.advance
  let s := s.skipBlanks.skipComment
  if !(isBreak s.here || isEnd s.here) then
    throw { problem := "did not find expected comment or line break", mark := s.mark,
            context := some ("while scanning a block scalar", start) }
  let s := s.advanceLine
  let indent : Nat :=
    if increment == 0 then 0
    else if s.indent ≥ 0 then s.indent.toNat + increment else increment
  let (s, indent, trailing, stop) ←
    blockBreaks start s.indent s.input.size (s, indent, 0, "", s.mark)
  let (s, text, leading, trailing, stop) ←
    blockLines literal start s.indent indent (s.input.size + 1) (s, "", "", trailing, stop, false)
  let text := if chomping != -1 then text ++ leading else text
  let text := if chomping == 1 then text ++ trailing else text
  return (s, ⟨.scalar text (if literal then .literal else .folded), start, stop⟩)

end Yaml

end Resilience
