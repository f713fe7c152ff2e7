import Resilience.Target
import Resilience.Text.Utf8

/-!
# Reading type paths byte by byte

`Target.ofTypeName` reads a type path as a list of characters. The reader it stands for works
on UTF-8 text and byte offsets instead, and there it has ways to panic that a list of
characters does not show. It walks the characters together with the byte offset each starts
at; it records a split as `index - 1`, a subtraction on an unsigned word that panics below
zero; and it cuts the path, the owner and each segment with slices at byte offsets, which
panic unless the offset is a character boundary (`Utf8.cutAt`).

`Target.parse` is that reader, step by step, with every such panic a possible result. Around
the scan it uses library operations that cannot panic: stripping a known suffix or prefix, and
keeping the text before the first ` as ` or after the last `::`. The loop that strips closure
segments ends because every round drops a whole segment from the path.

## Main definitions

* `Target.Panic`: Why reading would panic.
* `Target.Bytes.scan`: The bracket scan over characters and their byte offsets.
* `Target.Bytes.splitLastSegment`, `Target.Bytes.stripGenerics`, `Target.Bytes.typeSegment`:
  The reader's helpers, at byte level.
* `Target.parse`: The target read off a type name, or the panic met on the way.
-/

namespace Resilience

namespace Target

/-- Why reading a type path would panic. -/
inductive Panic where
  /-- A subtraction on unsigned words went below zero. -/
  | subtractBelowZero
  /-- A slice ended at a byte offset that is not a character boundary. -/
  | sliceOffBoundary (offset : Nat)
  deriving DecidableEq, Repr

namespace Bytes

/-- `a - b` on unsigned words, which panics below zero. -/
def checkedSub (a b : Nat) : Except Panic Nat :=
  if b ≤ a then .ok (a - b) else .error .subtractBelowZero

/-- The text before a byte offset, which must be a character boundary. -/
def sliceTo (text : List Char) (offset : Nat) : Except Panic (List Char) :=
  match Utf8.cutAt text offset with
  | some cut => .ok cut.1
  | none => .error (.sliceOffBoundary offset)

/-- The text from a byte offset on, which must be a character boundary. -/
def sliceFrom (text : List Char) (offset : Nat) : Except Panic (List Char) :=
  match Utf8.cutAt text offset with
  | some cut => .ok cut.2
  | none => .error (.sliceOffBoundary offset)

/-- The closure segment `::{{closure}}` as it ends a path. -/
def closureTail : List Char :=
  [':', ':', '{', '{', 'c', 'l', 'o', 's', 'u', 'r', 'e', '}', '}']

/-- The path without a given tail, when it ends with it. -/
def stripSuffix? (tail path : List Char) : Option (List Char) :=
  if tail.isSuffixOf path then some (path.take (path.length - tail.length)) else none

theorem length_lt_of_stripSuffix? {tail path shorter : List Char} (htail : tail ≠ [])
    (h : stripSuffix? tail path = some shorter) : shorter.length < path.length := by
  unfold stripSuffix? at h
  split at h
  · cases h
    have hsuffix : tail <:+ path := List.isSuffixOf_iff_suffix.mp ‹_›
    have hle : tail.length ≤ path.length := hsuffix.length_le
    have hpos : 0 < tail.length := List.length_pos_iff.mpr htail
    simp only [List.length_take]
    omega
  · cases h

/-- Strip closure segments off the end of a path for as long as it ends in one. -/
def stripClosures (path : List Char) : List Char :=
  match h : stripSuffix? closureTail path with
  | some shorter =>
    have : shorter.length < path.length := length_lt_of_stripSuffix? (by simp [closureTail]) h
    stripClosures shorter
  | none => path
termination_by path.length

/-- The scan for the last `::` outside angle brackets, over the characters of a path and the
byte offsets they start at. `depth` counts open brackets, saturating at zero; `previous` is
the character before the current one; `split` is the offset of the latest split found, taken
one byte before the second colon. -/
def scan (depth : Nat) (previous : Option Char) (split : Option Nat) :
    List (Nat × Char) → Except Panic (Option Nat)
  | [] => .ok split
  | (index, c) :: rest =>
    if c = '<' then scan (depth + 1) (some c) split rest
    else if c = '>' ∧ previous ≠ some '-' then scan (depth - 1) (some c) split rest
    else if c = ':' ∧ depth = 0 ∧ previous = some ':' then do
      let cut ← checkedSub index 1
      scan depth (some c) (some cut) rest
    else scan depth (some c) split rest

/-- Split a path at its last `::` outside angle brackets into the owner before it and the
segment after it. -/
def splitLastSegment (path : List Char) : Except Panic (Option (List Char × List Char)) := do
  match ← scan 0 none none (Utf8.charIndices 0 path) with
  | none => pure none
  | some cut => pure (some (← sliceTo path cut, ← sliceFrom path (cut + 2)))

/-- A segment with its generic arguments cut off, at the byte offset of its first `<`. -/
def stripGenerics (segment : List Char) : Except Panic (List Char) :=
  match Utf8.findByte '<' segment with
  | some cut => sliceTo segment cut
  | none => .ok segment

/-- The self type of a qualified owner `<T as Trait>`, or the owner itself. -/
def selfOwner : List Char → List Char
  | '<' :: qualified =>
    beforeAs (if qualified.getLast? = some '>' then qualified.dropLast else qualified)
  | owner => owner

/-- The declaring type named by an owner path: the self type of a qualified path, without
generics, last segment only. -/
def typeSegment (owner : List Char) : Except Panic (List Char) := do
  let owner ← stripGenerics (selfOwner owner)
  pure (lastSegmentRev owner.reverse).reverse

end Bytes

/-- The target read off a type name, at byte level: the panic met on the way, if any. -/
def parse (name : String) : Except Panic Target := do
  let path := Bytes.stripClosures name.toList
  match ← Bytes.splitLastSegment path with
  | some (owner, method) =>
    pure { declaringType := String.ofList (← Bytes.typeSegment owner)
           method := String.ofList (← Bytes.stripGenerics method) }
  | none => pure { declaringType := "", method := String.ofList (← Bytes.stripGenerics path) }

end Target

end Resilience
