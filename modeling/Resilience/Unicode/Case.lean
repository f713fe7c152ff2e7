import Resilience.Unicode.Data

/-!
# Lowercasing text

Every character is replaced by its lowercase. That is its simple lowercase mapping, except
for two characters whose lowercase the simple mapping does not give:

* the capital I with dot above becomes a small i and a combining dot above, two characters;
* the capital sigma becomes the final sigma `ς` at the end of a word and the small sigma
  `σ` elsewhere. It ends a word when a cased character comes before it and none comes after
  it, case-ignorable characters (marks, apostrophes, periods and the like) being skipped in
  both directions.

## Main definitions

* `lowerChar`: The lowercase of one character out of context.
* `casedFirst`: Whether the first character that matters in a direction is cased.
* `toLower`: The lowercase of a text.
-/

namespace Resilience

namespace Unicode

/-- Whether a character has the property `Cased`. -/
def isCased (c : Char) : Bool := cased.contains c.toNat

/-- Whether a character has the property `Case_Ignorable`. -/
def isCaseIgnorable (c : Char) : Bool := caseIgnorable.contains c.toNat

/-- The lowercase of a character out of context: the capital I with dot above becomes two
characters, every other character one. -/
def lowerChar (c : Char) : List Char :=
  if c.toNat == 0x130 then ['i', '\u0307'] else [Char.ofNat (lowercase.apply c.toNat)]

/-- Whether, after skipping case-ignorable characters, the first of `cs` is cased. -/
def casedFirst : List Char → Bool
  | [] => false
  | c :: cs => if isCaseIgnorable c then casedFirst cs else isCased c

/-- The lowercase of the characters `cs`, where `before` holds the characters before them,
nearest first. -/
def lowerFrom : List Char → List Char → List Char
  | [], _ => []
  | c :: rest, before =>
    let lowered :=
      if c == 'Σ' then [if casedFirst before && !casedFirst rest then 'ς' else 'σ']
      else lowerChar c
    lowered ++ lowerFrom rest (c :: before)

/-- The lowercase of a text. -/
def toLower (s : String) : String := String.ofList (lowerFrom s.toList [])

end Unicode

end Resilience
