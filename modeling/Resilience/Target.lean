/-!
# Operation targets

Every operation carries the identity of the function it runs, a declaring type and a method
name, used only in diagnostics such as aggregate messages. The identity is read off a
compiler-generated type path such as `app::Repo<u8>::fetch<u16>` or
`<app::Repo<u8> as app::Load>::load::{{closure}}`.

The reading follows the path's bracket structure. Trailing closure segments are dropped,
the path is split at its last `::` outside angle brackets (an arrow `->` closes no bracket),
and generics are cut off both halves. The owner half keeps only its last segment, after
the self type of a qualified path `<T as Trait>` has been picked out. A path without a
split names no type.

## Main definitions

* `Target`: A declaring type and a method name; `Target.render` writes `Type.method`.
* `Target.ofTypeName`: The target read off a type path.
-/

namespace Resilience

/-- The identity of the function an operation runs. -/
structure Target where
  declaringType : String
  method : String
  deriving DecidableEq, Repr, Inhabited

namespace Target

/-- The identity written as `Type.method`. -/
def render (target : Target) : String :=
  target.declaringType ++ "." ++ target.method

/-- Drop trailing closure segments, on a path given back to front: a reversed
`::{{closure}}` at the front is removed as often as it occurs. -/
def dropClosures : List Char → List Char
  | '}' :: '}' :: 'e' :: 'r' :: 'u' :: 's' :: 'o' :: 'l' :: 'c' :: '{' :: '{' :: ':' :: ':' ::
      rest => dropClosures rest
  | path => path

/-- Scan a path for its last `::` outside angle brackets. `depth` counts open brackets (a
stray closing one leaves it at zero), `previous` is the character before the current one,
`index` its position, and `found` the position of the latest split so far. -/
def scanSplit (depth : Nat) (previous : Option Char) (index : Nat) (found : Option Nat) :
    List Char → Option Nat
  | [] => found
  | c :: rest =>
    if c = '<' then scanSplit (depth + 1) (some c) (index + 1) found rest
    else if c = '>' ∧ previous ≠ some '-' then scanSplit (depth - 1) (some c) (index + 1) found rest
    else if c = ':' ∧ depth = 0 ∧ previous = some ':' then
      scanSplit depth (some c) (index + 1) (some (index - 1)) rest
    else scanSplit depth (some c) (index + 1) found rest

/-- The position of the first colon of the last `::` outside angle brackets. -/
def lastSplit? (path : List Char) : Option Nat :=
  scanSplit 0 none 0 none path

/-- A segment with its generic arguments cut off: everything before the first `<`. -/
def stripGenerics (segment : List Char) : List Char :=
  segment.takeWhile (· ≠ '<')

/-- The text before the first occurrence of ` as `. -/
def beforeAs : List Char → List Char
  | [] => []
  | ' ' :: 'a' :: 's' :: ' ' :: _ => []
  | c :: rest => c :: beforeAs rest

/-- The text after the last occurrence of `::`, given back to front and returned back to
front. -/
def lastSegmentRev : List Char → List Char
  | [] => []
  | ':' :: ':' :: _ => []
  | c :: rest => c :: lastSegmentRev rest

/-- The declaring type named by an owner path: the self type of a qualified path, without
generics, last segment only. -/
def typeSegment (owner : List Char) : List Char :=
  let owner := match owner with
    | '<' :: qualified =>
      let qualified := if qualified.getLast? = some '>' then qualified.dropLast else qualified
      beforeAs qualified
    | _ => owner
  (lastSegmentRev (stripGenerics owner).reverse).reverse

/-- The target read off a type path. -/
def ofTypeName (name : String) : Target :=
  let path := (dropClosures name.toList.reverse).reverse
  match lastSplit? path with
  | some cut =>
    { declaringType := String.ofList (typeSegment (path.take cut))
      method := String.ofList (stripGenerics (path.drop (cut + 2))) }
  | none => { declaringType := "", method := String.ofList (stripGenerics path) }

end Target

end Resilience
