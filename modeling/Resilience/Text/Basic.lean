import Resilience.Unicode.Case

/-!
# Text

Two operations on text that message matching needs: folding case and finding one text
inside another.

Case folding is Unicode lowercasing (see `Unicode.toLower`): every character becomes its
lowercase, the capital sigma taking its final form at the end of a word. Containment is on
characters: the empty text is inside every text.

## Main definitions

* `Text.lower`: Case folding.
* `Text.isInfix`: Whether one character list occurs inside another.
* `Text.contains`: The same on strings.
-/

namespace Resilience

namespace Text

/-- The text lowercased, as `Unicode.toLower` does it. -/
def lower (s : String) : String := Unicode.toLower s

/-- Whether `needle` occurs as a contiguous part of `hay`. -/
def isInfix (needle : List Char) : List Char → Bool
  | [] => needle.isEmpty
  | c :: rest => needle.isPrefixOf (c :: rest) || isInfix needle rest

/-- Whether `needle` occurs inside `hay`. -/
def contains (hay needle : String) : Bool := isInfix needle.toList hay.toList

end Text

end Resilience
