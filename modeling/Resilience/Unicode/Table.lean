/-!
# Tables of code points

Unicode properties are sets of code points, and case mappings are functions on them; both
are stored as sorted runs and looked up by halving the search interval.

A set is a sorted list of disjoint inclusive ranges. A case mapping is a sorted list of
disjoint runs: a run covers the code points from `lo` to `hi` in steps of `step`, and maps
each of them to `target` plus its distance from `lo`, so a block of capitals maps to the
block of small letters, and alternating capitals and small letters map with step two. Code
points outside every run map to themselves.

Both are written as lines of text, one item per word, with code points in hexadecimal: a
range is `lo-hi` or a single `lo`, and a run is a range, then `/2` for step two, then
`>target`.

## Main definitions

* `CodeRanges`, `CodeRanges.ofLines`, `CodeRanges.contains`: Sets of code points.
* `CaseRun`, `CaseRuns`, `CaseRuns.ofLines`, `CaseRuns.apply`: Mappings of code points.
-/

namespace Resilience

namespace Unicode

/-- The value of a word of hexadecimal digits; other characters count as zero. -/
def hexValue (s : String) : Nat :=
  s.foldl (fun n c =>
    let d := if '0' ≤ c && c ≤ '9' then c.toNat - '0'.toNat
      else if 'A' ≤ c && c ≤ 'F' then c.toNat - 'A'.toNat + 10
      else if 'a' ≤ c && c ≤ 'f' then c.toNat - 'a'.toNat + 10
      else 0
    16 * n + d) 0

/-- The words of lines of text, split at spaces. -/
def words (lines : List String) : List String :=
  (lines.flatMap (·.splitOn " ")).filter (!·.isEmpty)

/-- A range `lo-hi` or a single code point `lo`. -/
def rangeOf (w : String) : Nat × Nat :=
  match w.splitOn "-" with
  | [lo, hi] => (hexValue lo, hexValue hi)
  | _ => (hexValue w, hexValue w)

/-- A set of code points: sorted, disjoint, inclusive ranges. -/
structure CodeRanges where
  ranges : Array (Nat × Nat)

namespace CodeRanges

/-- The set written as ranges, one per word. -/
def ofLines (lines : List String) : CodeRanges := ⟨((words lines).map rangeOf).toArray⟩

/-- Whether `c` lies in one of the ranges with index in `[lo, hi)`. -/
def search (r : Array (Nat × Nat)) (c lo hi : Nat) : Bool :=
  if lo < hi then
    let mid := (lo + hi) / 2
    let (a, b) := r.getD mid (0, 0)
    if c < a then search r c lo mid
    else if b < c then search r c (mid + 1) hi
    else true
  else false
termination_by hi - lo

/-- Whether the set holds `c`. -/
def contains (t : CodeRanges) (c : Nat) : Bool := search t.ranges c 0 t.ranges.size

end CodeRanges

/-- A run of a case mapping: the code points `lo`, `lo + step`, ... up to `hi` map to
`target`, `target + step`, ... -/
structure CaseRun where
  lo : Nat
  hi : Nat
  step : Nat
  target : Nat

/-- A run written `lo-hi/2>target`, with `-hi` and `/2` optional. -/
def CaseRun.ofWord (w : String) : CaseRun :=
  match w.splitOn ">" with
  | [source, target] =>
    let (range, step) := match source.splitOn "/" with
      | [range, step] => (range, hexValue step)
      | _ => (source, 1)
    let (lo, hi) := rangeOf range
    { lo, hi, step, target := hexValue target }
  | _ => { lo := 1, hi := 0, step := 1, target := 0 }

/-- The image of `c` under a run that covers it. -/
def CaseRun.image? (r : CaseRun) (c : Nat) : Option Nat :=
  if r.lo ≤ c && c ≤ r.hi && (c - r.lo) % r.step == 0 then some (r.target + (c - r.lo))
  else none

/-- A case mapping: sorted runs whose spans do not overlap. -/
structure CaseRuns where
  runs : Array CaseRun

namespace CaseRuns

/-- The mapping written as runs, one per word. -/
def ofLines (lines : List String) : CaseRuns := ⟨((words lines).map CaseRun.ofWord).toArray⟩

/-- The image of `c` under the last run with index in `[lo, hi)` that starts at or before
`c`, if that run covers it. -/
def search (r : Array CaseRun) (c lo hi : Nat) : Option Nat :=
  if lo + 1 < hi then
    let mid := (lo + hi) / 2
    if c < (r.getD mid ⟨1, 0, 1, 0⟩).lo then search r c lo mid else search r c mid hi
  else if lo < hi then (r.getD lo ⟨1, 0, 1, 0⟩).image? c
  else none
termination_by hi - lo

/-- The image of `c`: what its run maps it to, or `c` itself. -/
def apply (t : CaseRuns) (c : Nat) : Nat := (search t.runs c 0 t.runs.size).getD c

end CaseRuns

end Unicode

end Resilience
