import Mathlib
import Resilience.Target.Bytes
import Resilience.Proofs.Target

/-!
# Reading a type path never panics

`Target.parse` reads a type path the way the machine does, over UTF-8 bytes, and could in
principle panic in two ways: by the subtraction `index - 1` that locates a split, and by a
slice at a byte offset that is not a character boundary. Neither happens, on any text at
all, and what is read is what `Target.ofTypeName` reads (`Target.parse_eq_ok`).

The reason is that every offset the reader subtracts from or cuts at is the byte length of
a prefix of the text it cuts. The bracket scan keeps the byte offset of each character in
step with its position (`Bytes.scan_charIndices`): both are the position's offset. It
records a split only at a colon that follows another colon outside brackets
(`scanSplit_colonsAt`); that colon is one byte wide, so `index - 1` is the offset of the
first colon, a boundary, and two bytes on is the boundary after the second. The first `<`
of a segment likewise starts after the prefix before it (`Utf8.findByte_eq`). Every slice is
then a cut after a prefix, which always exists (`Utf8.cutAt_append`). The closure segments
are stripped one whole segment at a time, as the list reader drops them.

## Main definitions

* `Target.ColonsAt`: A text has `::` at a position.

## Theorems

* `Target.Bytes.stripClosures_eq`: The closure loop drops what the list reader drops.
* `Target.Bytes.scan_charIndices`: The byte scan is the list scan, read at byte offsets.
* `Target.scanSplit_colonsAt`: The list scan splits only at `::`.
* `Target.Bytes.splitLastSegment_eq`, `Target.Bytes.stripGenerics_eq`,
  `Target.Bytes.typeSegment_eq`: Each helper gives the list reader's answer.
* `Target.parse_eq_ok`: Reading never panics, and reads the target of the list reader.
-/

namespace Resilience

namespace Target

open Utf8

/-- The text has `::` at a position: it is some text of that many characters, `::`, and
more. -/
def ColonsAt (path : List Char) (position : Nat) : Prop :=
  ∃ before after, path = before ++ ':' :: ':' :: after ∧ before.length = position

@[simp]
theorem utf8Size_colon : ':'.utf8Size = 1 := rfl

/-- The list scan records a split only where two colons stand, whatever it found before. -/
theorem scanSplit_colonsAt {path pre rest : List Char} (hpath : pre ++ rest = path)
    {depth : Nat} {found : Option Nat} (hfound : ∀ j, found = some j → ColonsAt path j)
    {k : Nat} (h : scanSplit depth pre.getLast? pre.length found rest = some k) :
    ColonsAt path k := by
  induction rest generalizing pre depth found with
  | nil => exact hfound k h
  | cons c rest ih =>
    have hpath' : (pre ++ [c]) ++ rest = path := by simp [← hpath]
    -- every branch goes on with `c` read; only the colon branch records a new split
    have hnext : ∀ depth' found', (∀ j, found' = some j → ColonsAt path j) →
        scanSplit depth' (some c) (pre.length + 1) found' rest = some k → ColonsAt path k := by
      intro depth' found' hfound' h'
      exact ih hpath' hfound' (by simpa using h')
    simp only [scanSplit] at h
    split_ifs at h with hlt hgt hcolon
    · exact hnext _ _ hfound h
    · exact hnext _ _ hfound h
    · refine hnext _ _ ?_ h
      rintro j ⟨⟩
      -- the character before this colon is a colon too, and the split is at it
      obtain ⟨init, rfl⟩ := List.getLast?_eq_some_iff.mp hcolon.2.2
      exact ⟨init, rest, by simp [← hpath, hcolon.1], by simp⟩
    · exact hnext _ _ hfound h

theorem lastSplit?_colonsAt {path : List Char} {k : Nat} (h : lastSplit? path = some k) :
    ColonsAt path k := by
  have hscan : scanSplit 0 ([] : List Char).getLast? ([] : List Char).length none path = some k :=
    h
  exact scanSplit_colonsAt (List.nil_append path) (fun _ hj => by cases hj) hscan

namespace Bytes

/-! ### Closure segments -/

theorem stripSuffix?_eq_some_iff {tail path shorter : List Char} :
    stripSuffix? tail path = some shorter ↔ path = shorter ++ tail := by
  unfold stripSuffix?
  constructor
  · intro h
    split at h
    · cases h
      obtain ⟨front, rfl⟩ := List.isSuffixOf_iff_suffix.mp ‹_›
      simp
    · cases h
  · rintro rfl
    simp

theorem stripClosures_eq (path : List Char) :
    stripClosures path = (dropClosures path.reverse).reverse := by
  fun_induction stripClosures path with
  | case1 path shorter h _ ih =>
    -- a closure segment comes off the end, as it comes off the front of the reversed path
    obtain rfl := stripSuffix?_eq_some_iff.mp h
    rw [ih, List.reverse_append]
    rfl
  | case2 path h =>
    -- no closure segment ends the path, so none starts the reversed path
    have hnot : ∀ rest, path.reverse ≠ (':' :: ':' :: closureMarker).reverse ++ rest := by
      intro rest hrest
      have hpath : path = rest.reverse ++ closureTail := by
        rw [← List.reverse_reverse path, hrest, List.reverse_append, List.reverse_reverse]
        rfl
      have hsome : stripSuffix? closureTail path = some rest.reverse :=
        stripSuffix?_eq_some_iff.mpr hpath
      rw [h] at hsome
      cases hsome
    rw [dropClosures_of_ne hnot, List.reverse_reverse]

/-! ### The bracket scan -/

/-- The byte scan from any point of a path agrees with the list scan from the same point:
the offset where a character starts is the byte length of the text before it, and a split
the list scan finds at a position is found by the byte scan at that position's offset,
without the subtraction ever going below zero. -/
theorem scan_charIndices {path pre rest : List Char} (hpath : pre ++ rest = path)
    {depth : Nat} {found split : Option Nat}
    (hsplit : split = found.map fun j => byteLength (path.take j)) :
    scan depth pre.getLast? split (charIndices (byteLength pre) rest) =
      .ok ((scanSplit depth pre.getLast? pre.length found rest).map
        fun j => byteLength (path.take j)) := by
  induction rest generalizing pre depth found split with
  | nil => simp [charIndices, scan, scanSplit, hsplit]
  | cons c rest ih =>
    have hpath' : (pre ++ [c]) ++ rest = path := by simp [← hpath]
    have hnext : ∀ depth' found' split', split' = found'.map (fun j => byteLength (path.take j)) →
        scan depth' (some c) split' (charIndices (byteLength pre + c.utf8Size) rest) =
          .ok ((scanSplit depth' (some c) (pre.length + 1) found' rest).map
            fun j => byteLength (path.take j)) := by
      intro depth' found' split' hsplit'
      simpa using ih hpath' hsplit'
    simp only [charIndices, scan, scanSplit]
    split_ifs with hlt hgt hcolon
    · exact hnext _ _ _ hsplit
    · exact hnext _ _ _ hsplit
    · -- the previous character is a colon, one byte wide, so the subtraction stays in range
      obtain ⟨init, rfl⟩ := List.getLast?_eq_some_iff.mp hcolon.2.2
      have hcut : checkedSub (byteLength (init ++ [':'])) 1 = .ok (byteLength init) := by
        simp [checkedSub]
      have htake : path.take init.length = init := by simp [← hpath]
      rw [hcut]
      exact hnext _ _ _ (by simp [htake])
    · exact hnext _ _ _ hsplit

theorem scan_eq (path : List Char) :
    scan 0 none none (charIndices 0 path) =
      .ok ((lastSplit? path).map fun j => byteLength (path.take j)) :=
  @scan_charIndices path [] path (List.nil_append path) 0 none none rfl

/-! ### The helpers -/

theorem sliceTo_append (before after : List Char) :
    sliceTo (before ++ after) (byteLength before) = .ok before := by
  simp [sliceTo, cutAt_append]

theorem sliceFrom_append (before after : List Char) :
    sliceFrom (before ++ after) (byteLength before) = .ok after := by
  simp [sliceFrom, cutAt_append]

/-- Splitting at the last `::` outside brackets cuts the path where the list reader does. -/
theorem splitLastSegment_eq (path : List Char) :
    splitLastSegment path =
      .ok ((lastSplit? path).map fun k => (path.take k, path.drop (k + 2))) := by
  unfold splitLastSegment
  rw [scan_eq]
  cases hsplit : lastSplit? path with
  | none => rfl
  | some k =>
    obtain ⟨before, after, rfl, rfl⟩ := lastSplit?_colonsAt hsplit
    -- both cuts fall after a prefix: the text before the colons, and that text with them
    have hto : sliceTo (before ++ ':' :: ':' :: after) (byteLength before) = .ok before :=
      sliceTo_append before _
    have hfrom : sliceFrom ((before ++ [':', ':']) ++ after) (byteLength (before ++ [':', ':'])) =
        .ok after :=
      sliceFrom_append _ after
    simp only [List.append_assoc, List.cons_append, List.nil_append, byteLength_append,
      byteLength_cons, utf8Size_colon, byteLength_nil] at hfrom
    simp [hto, hfrom, bind, Except.bind, pure, Except.pure]

/-- Cutting generics off at the byte offset of the first `<` keeps what the list reader
keeps. -/
theorem stripGenerics_eq (segment : List Char) :
    stripGenerics segment = .ok (Target.stripGenerics segment) := by
  unfold stripGenerics Target.stripGenerics
  rw [findByte_eq]
  split_ifs with hmem
  · have hcut := sliceTo_append (segment.takeWhile (· ≠ '<')) (segment.dropWhile (· ≠ '<'))
    rwa [List.takeWhile_append_dropWhile] at hcut
  · rw [List.takeWhile_eq_self_iff.mpr
      (fun c hc => by simpa using ne_of_mem_of_not_mem hc hmem)]

theorem typeSegment_eq (owner : List Char) :
    typeSegment owner = .ok (Target.typeSegment owner) := by
  -- both readers pick the self type out of a qualified owner and keep any other owner
  have hself : Target.typeSegment owner =
      (lastSegmentRev (Target.stripGenerics (selfOwner owner)).reverse).reverse := by
    by_cases hhead : owner.head? = some '<'
    · obtain ⟨qualified, rfl⟩ : ∃ qualified, owner = '<' :: qualified := by
        cases owner with
        | nil => simp at hhead
        | cons c rest => exact ⟨rest, by simp_all⟩
      rfl
    · have hkept : selfOwner owner = owner := by
        unfold selfOwner
        split
        · simp at hhead
        · rfl
      rw [typeSegment_of_head?_ne hhead, hkept]
  simp [typeSegment, stripGenerics_eq, hself, bind, Except.bind, pure, Except.pure]

end Bytes

/-- Reading a type name never panics. For every text, balanced or not and with any
characters, the byte-level reader strips the closure segments, splits at the last `::`
outside brackets, cuts generics at the first `<` and picks the owner's type without a
subtraction below zero or a slice off a character boundary, and reads the target that the
reader over characters reads. -/
theorem parse_eq_ok (name : String) : parse name = .ok (ofTypeName name) := by
  unfold parse ofTypeName
  dsimp only
  rw [Bytes.stripClosures_eq, Bytes.splitLastSegment_eq]
  cases lastSplit? (dropClosures name.toList.reverse).reverse <;>
    simp [Bytes.typeSegment_eq, Bytes.stripGenerics_eq, bind, Except.bind, pure, Except.pure]

end Target

end Resilience
