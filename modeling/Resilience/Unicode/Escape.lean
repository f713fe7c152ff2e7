import Resilience.Unicode.Data

/-!
# Quoting text for debugging

The debugging printer writes a text in double quotes so that every character can be seen.
A character that is printed as itself is one that shows on its own: not a control, format,
surrogate, private-use or unassigned character, not a separator but the space, not an
invisible default-ignorable character such as a Hangul filler, and not a character that
extends the one before it (a combining mark, a joiner). Those are written as
`\u{...}` with their code point in lowercase hexadecimal. The null character, tab, carriage
return, line feed, backslash and double quote have short escapes; the single quote is left
alone.

## Main definitions

* `isPrintable`, `isGraphemeExtended`: The two properties that decide.
* `escapeChar`: How one character is written.
* `debugQuote`: A whole text, quoted.
-/

namespace Resilience

namespace Unicode

/-- Whether a character shows on its own: the space, or a character neither in the general
categories `C` or `Z` nor default-ignorable. -/
def isPrintable (c : Char) : Bool := !unprintable.contains c.toNat

/-- Whether a character has the property `Grapheme_Extend`. -/
def isGraphemeExtended (c : Char) : Bool := graphemeExtend.contains c.toNat

/-- A character as `\u{...}`, its code point in lowercase hexadecimal. -/
def codeEscape (c : Char) : String :=
  "\\u\x7b" ++ String.ofList (Nat.toDigits 16 c.toNat) ++ "\x7d"

/-- How a character is written between double quotes. -/
def escapeChar (c : Char) : String :=
  match c with
  | '\x00' => "\\0"
  | '\t' => "\\t"
  | '\r' => "\\r"
  | '\n' => "\\n"
  | '\\' => "\\\\"
  | '"' => "\\\""
  | _ => if isGraphemeExtended c || !isPrintable c then codeEscape c else c.toString

/-- A text in double quotes, each character written by `escapeChar`. -/
def debugQuote (s : String) : String :=
  "\"" ++ String.join (s.toList.map escapeChar) ++ "\""

end Unicode

end Resilience
