/-!
# Byte offsets in UTF-8 text

Text is stored as UTF-8: every character takes one to four bytes, and a position in a text is
a byte offset. An offset is a character boundary when a character starts there, or when it is
the end of the text; cutting a text anywhere else would split a character's encoding, and
slicing there panics.

Here a text is its list of characters, and byte offsets are counted from the encoded size of
each character (`Char.utf8Size`). `cutAt` cuts a text at a byte offset and has no answer
exactly where slicing panics; `cutAt_isSome_iff` checks this against the character boundaries
of Lean's own strings, which are stored the same way.

## Main definitions

* `Utf8.byteLength`: The number of bytes a text takes.
* `Utf8.charIndices`: Every character with the byte offset it starts at.
* `Utf8.findByte`: The byte offset of the first occurrence of a character.
* `Utf8.cutAt`: The text before a byte offset and the text after it.

## Theorems

* `Utf8.byteLength_eq_utf8ByteSize`: The byte length is the size of the encoding.
* `Utf8.cutAt_eq_some_iff`: A cut splits the text after a prefix of that many bytes.
* `Utf8.cutAt_isSome_iff`: A cut exists exactly at a character boundary.
* `Utf8.findByte_eq`: The offset found is the byte length of the text before the character.
-/

namespace Resilience

namespace Utf8

/-- The number of bytes the characters take up in UTF-8. -/
def byteLength : List Char → Nat
  | [] => 0
  | c :: rest => c.utf8Size + byteLength rest

/-- Every character with the byte offset it starts at, counting from `offset`. -/
def charIndices (offset : Nat) : List Char → List (Nat × Char)
  | [] => []
  | c :: rest => (offset, c) :: charIndices (offset + c.utf8Size) rest

/-- The byte offset at which a character first occurs. -/
def findByte (target : Char) : List Char → Option Nat
  | [] => none
  | c :: rest => if c = target then some 0 else (findByte target rest).map (c.utf8Size + ·)

/-- Cut a text at a byte offset: the characters that take up the bytes before it, and the
rest. There is no cut when the offset falls inside a character or past the end. -/
def cutAt : List Char → Nat → Option (List Char × List Char)
  | text, 0 => some ([], text)
  | [], _ + 1 => none
  | c :: rest, offset + 1 =>
    if c.utf8Size ≤ offset + 1 then
      (cutAt rest (offset + 1 - c.utf8Size)).map fun cut => (c :: cut.1, cut.2)
    else none

@[simp]
theorem byteLength_nil : byteLength [] = 0 := rfl

@[simp]
theorem byteLength_cons (c : Char) (rest : List Char) :
    byteLength (c :: rest) = c.utf8Size + byteLength rest := rfl

@[simp]
theorem byteLength_append (xs ys : List Char) :
    byteLength (xs ++ ys) = byteLength xs + byteLength ys := by
  induction xs with
  | nil => simp
  | cons c rest ih => simp [ih, Nat.add_assoc]

theorem byteLength_eq_utf8ByteSize (text : List Char) :
    byteLength text = (String.ofList text).utf8ByteSize := by
  induction text with
  | nil => rfl
  | cons c rest ih =>
    simp [ih, String.ofList_cons, String.utf8ByteSize_append, String.utf8ByteSize_singleton]

@[simp]
theorem cutAt_zero (text : List Char) : cutAt text 0 = some ([], text) := by
  cases text <;> rfl

/-- A text cut after a prefix of its characters gives that prefix and the rest. -/
theorem cutAt_append (before after : List Char) :
    cutAt (before ++ after) (byteLength before) = some (before, after) := by
  induction before with
  | nil => simp
  | cons c rest ih =>
    -- the offset is positive, so the third equation of `cutAt` applies
    have hsize := c.utf8Size_pos
    obtain ⟨offset, hoffset⟩ : ∃ offset, c.utf8Size + byteLength rest = offset + 1 :=
      ⟨c.utf8Size + byteLength rest - 1, by omega⟩
    simp only [List.cons_append, byteLength_cons, hoffset, cutAt]
    rw [if_pos (by omega), show offset + 1 - c.utf8Size = byteLength rest by omega, ih]
    rfl

theorem cutAt_eq_some_iff {text before after : List Char} {offset : Nat} :
    cutAt text offset = some (before, after) ↔
      before ++ after = text ∧ byteLength before = offset := by
  constructor
  · intro h
    -- by the recursion of `cutAt`: only its third equation cuts, one character further on
    fun_induction cutAt text offset generalizing before after with
    | case1 text =>
      simp only [Option.some.injEq, Prod.mk.injEq] at h
      simp [← h.1, ← h.2]
    | case2 => cases h
    | case3 c rest offset hsize ih =>
      obtain ⟨cut, hcut, hpair⟩ := Option.map_eq_some_iff.mp h
      simp only [Prod.mk.injEq] at hpair
      obtain ⟨hjoin, hbytes⟩ := ih hcut
      rw [← hpair.1, ← hpair.2]
      refine ⟨by simp [hjoin], ?_⟩
      simp only [byteLength_cons, hbytes]
      omega
    | case4 => cases h
  · rintro ⟨rfl, rfl⟩
    exact cutAt_append before after

/-- A cut exists exactly at the byte offsets that are character boundaries of the text. -/
theorem cutAt_isSome_iff (text : List Char) (offset : Nat) :
    (cutAt text offset).isSome ↔ (⟨offset⟩ : String.Pos.Raw).IsValid (String.ofList text) := by
  rw [String.Pos.Raw.isValid_ofList]
  constructor
  · intro h
    obtain ⟨⟨before, after⟩, hcut⟩ := Option.isSome_iff_exists.mp h
    obtain ⟨rfl, rfl⟩ := cutAt_eq_some_iff.mp hcut
    exact ⟨before.length, by simp [byteLength_eq_utf8ByteSize]⟩
  · rintro ⟨count, hcount⟩
    have hoffset : offset = byteLength (text.take count) := by
      simpa [byteLength_eq_utf8ByteSize] using hcount
    have hcut := cutAt_append (text.take count) (text.drop count)
    rw [List.take_append_drop] at hcut
    rw [hoffset, hcut]
    rfl

-- `é` takes two bytes: a text can be cut before it or after it, not inside it
example : cutAt ['é', ':'] 1 = none ∧ cutAt ['é', ':'] 2 = some (['é'], [':']) := by decide

theorem findByte_eq (target : Char) (text : List Char) :
    findByte target text =
      if target ∈ text then some (byteLength (text.takeWhile (· ≠ target))) else none := by
  induction text with
  | nil => simp [findByte]
  | cons c rest ih =>
    by_cases hc : c = target
    · simp [findByte, hc]
    · have hne : target ≠ c := Ne.symm hc
      rw [findByte, if_neg hc, ih, List.takeWhile_cons_of_pos (by simpa using hc)]
      by_cases hmem : target ∈ rest <;> simp [hmem, hne]

end Utf8

end Resilience
