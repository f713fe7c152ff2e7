import Resilience.Yaml.Event
import Resilience.Yaml.Scalar
import Resilience.Unicode.Escape

/-!
# Reading typed values from YAML events

A typed reader walks the events of a document from left to right: each read takes the
events of one value and checks them against the type it expects. A failed check reports
what was found and what was expected, with the path of keys and indexes that leads to the
value and the position of its first event. A read past the last event reports the problem
that ended the document, or the end of the input.

What was found is described from the event: a sequence, a map, or for a scalar what the
scalar stands for. Quoted scalars are always text; a plain one may be nothing, a boolean, an
integer (unsigned first, then negative, then the same at 128 bits) or a float, and is
otherwise text. A scalar tagged as a boolean, integer, float or null is read as one, and
one that is not is an invalid value; a scalar with a local tag (`!name`) is described as if
untagged when plain, and any other tagged scalar is text. Text is shown as the debugging
printer quotes it (`Unicode.debugQuote`), and floats in plain notation with a point.

A boolean, an integer or a float is read from a plain scalar, whatever its tag, or from a
literal block scalar tagged as that type; anything else fails, and the failure describes
the event as above.

Every read follows an alias to the node it names and goes on after the alias, so errors
inside an aliased node are reported at that node; the aliases followed while reading one
document are counted, and more than a hundred per event is an error. A key written as an
alias leaves its value's place in the path unknown (`?`).

Records may leave out any field and ignore unknown ones, but give a field at most once.
Maps keep the last value of a repeated key. An empty plain scalar, or an empty document,
reads as an empty record, map or sequence. A variant is an untagged scalar naming it, or a
local tag naming it (`!name`) on an empty or null plain scalar. A tag naming no variant is
reported at the record around the variant, or at the alias that led to it.

## Main definitions

* `Path`, `DecodeError`: Where a value is, and what went wrong reading it.
* `Cursor`, `Decoder`: Readers of typed values.
* `Decoder.bool`, `Decoder.u64`, `Decoder.u32`, `Decoder.f64`, `Decoder.string`,
  `Decoder.variant`: Scalars.
* `Decoder.record`, `Decoder.map`, `Decoder.sequence`: Collections.
-/

namespace Resilience

namespace Yaml

/-- Where a value sits: the keys and indexes that lead to it. -/
inductive Path where
  | root
  | key (parent : Path) (name : String)
  | index (parent : Path) (i : Nat)
  | unknown (parent : Path)
  deriving Inhabited

/-- A path as reports write it: keys joined by dots, indexes in brackets, the root alone as
a dot. -/
def Path.render : Path → String
  | .root => "."
  | .key .root name => name
  | .key parent name => parent.render ++ "." ++ name
  | .index parent i => parent.render ++ "[" ++ toString i ++ "]"
  | .unknown .root => "?"
  | .unknown parent => parent.render ++ ".?"

/-- What went wrong reading a value. -/
inductive DecodeError where
  /-- The value was not what was expected; the position is that of the value. -/
  | message (text : String) (position : Option (Mark × Path))
  /-- The text could not be parsed this far. -/
  | problem (p : Problem)
  /-- The events ran out. -/
  | endOfStream
  /-- The text holds more than one document. -/
  | moreThanOneDocument
  /-- Aliases were followed too often. -/
  | repetitionLimit
  deriving Inhabited

/-- The report of an error: the path unless it is the root, the text, and the position
unless it is the origin. -/
def DecodeError.render : DecodeError → String
  | .message text none => text
  | .message text (some (mark, path)) =>
    let prefix_ := match path with
      | .root => ""
      | p => p.render ++ ": "
    prefix_ ++ text ++ (if mark.atOrigin then "" else " at " ++ mark.describe)
  | .problem p => p.message
  | .endOfStream => "EOF while parsing a value"
  | .moreThanOneDocument =>
    "deserializing from YAML containing more than one document is not supported"
  | .repetitionLimit => "repetition limit exceeded"

/-- What a reader found where it expected something else. -/
inductive Unexpected where
  | bool (b : Bool)
  | unsigned (n : Nat)
  | signed (i : Int)
  | float (x : Float)
  | text (s : String)
  | unit
  | sequence
  | map
  | other (what : String)

/-- The description of what was found. -/
def Unexpected.describe : Unexpected → String
  | .bool b => "boolean \x60" ++ toString b ++ "\x60"
  | .unsigned n => "integer \x60" ++ toString n ++ "\x60"
  | .signed i => "integer \x60" ++ toString i ++ "\x60"
  | .float x => "floating point \x60" ++ Decimal.withPoint x ++ "\x60"
  | .text s => "string " ++ Unicode.debugQuote s
  | .unit => "unit value"
  | .sequence => "sequence"
  | .map => "map"
  | .other what => what

/-- What a scalar stands for as an integer: below `2^64`, negative down to `-2^63`, or the
same at 128 bits. -/
def Unexpected.integer? (text : String) : Option Unexpected :=
  match Scalar.unsigned? (Nat.pow 2 64) text with
  | some n => some (.unsigned n)
  | none =>
    match Scalar.negative? (Nat.pow 2 63) text with
    | some i => some (.signed i)
    | none =>
      match Scalar.unsigned? (Nat.pow 2 128) text with
      | some n => some (.other ("integer \x60" ++ toString n ++ "\x60 as u128"))
      | none =>
        match Scalar.negative? (Nat.pow 2 127) text with
        | some i => some (.other ("integer \x60" ++ toString i ++ "\x60 as i128"))
        | none => none

/-- What a plain scalar stands for, or text for a quoted one. -/
def Unexpected.ofScalar (text : String) (style : ScalarStyle) : Unexpected :=
  if style != .plain then .text text
  else if Scalar.isNull text then .unit
  else match Scalar.bool? text with
  | some b => .bool b
  | none =>
    match Unexpected.integer? text with
    | some u => u
    | none =>
      if Scalar.leadingZeroDigits text then .text text
      else match Scalar.float? text with
        | some x => .float x
        | none => .text text

/-- The error for a value of the wrong kind. -/
def invalidType (found : Unexpected) (expected : String) : DecodeError :=
  .message ("invalid type: " ++ found.describe ++ ", expected " ++ expected) none

/-- The error for a value of the right kind out of range. -/
def invalidValue (found : Unexpected) (expected : String) : DecodeError :=
  .message ("invalid value: " ++ found.describe ++ ", expected " ++ expected) none

/-- A tag of the core schema. -/
def coreTag (name : String) : Tag := Tag.ofString ("tag:yaml.org,2002:" ++ name)

/-- The error for an event of the wrong kind, against what was expected. A scalar tagged as
a boolean, integer, float or null that does not read as one is an invalid value of that
kind instead; a scalar with any other tag is text, unless the tag is local and the scalar
plain. -/
def invalidTypeOf (event : Event) (expected : String) : DecodeError :=
  match event with
  | .scalar text style props =>
    match props.tag with
    | none => invalidType (.ofScalar text style) expected
    | some tag =>
      if tag == coreTag "bool" then
        match Scalar.bool? text with
        | some b => invalidType (.bool b) expected
        | none => invalidValue (.text text) "a boolean"
      else if tag == coreTag "int" then
        match Unexpected.integer? text with
        | some u => invalidType u expected
        | none => invalidValue (.text text) "an integer"
      else if tag == coreTag "float" then
        match Scalar.float? text with
        | some x => invalidType (.float x) expected
        | none => invalidValue (.text text) "a float"
      else if tag == coreTag "null" then
        if !text.isEmpty && Scalar.isNull text then invalidType .unit expected
        else invalidValue (.text text) "null"
      else if tag.isLocal && style == .plain then
        invalidType (.ofScalar text style) expected
      else invalidType (.text text) expected
  | .sequenceStart _ => invalidType .sequence expected
  | .mappingStart _ => invalidType .map expected
  | .void => .endOfStream
  | _ => invalidType .unit expected

/-- The place in the path of the value after a key whose first event is `key`: under the
key's text when the key is a scalar, unknown when it is an alias. -/
def Event.valuePath (key : Event) (parent : Path) (text : String) : Path :=
  match key with
  | .scalar _ _ _ => .key parent text
  | _ => .unknown parent

/-- Where a reader stands: the index of the next event, and how many aliases it has
followed. -/
structure Cursor where
  pos : Nat := 0
  jumps : Nat := 0

/-- Reading typed values from the events of a document, from a position. -/
abbrev Decoder := ReaderT Document (StateT Cursor (Except DecodeError))

namespace Decoder

/-- The next event, without taking it. -/
def peek : Decoder (Event × Mark) := do
  let doc ← read
  let c ← get
  match doc.events[c.pos]? with
  | some em => return em
  | none =>
    match doc.problem with
    | some p => throw (.problem p)
    | none => throw .endOfStream

/-- Take the next event. -/
def next : Decoder (Event × Mark) := do
  let em ← peek
  modify fun c => { c with pos := c.pos + 1 }
  return em

/-- Give an error without a position the position of the value being read. -/
def locate {α : Type} (mark : Mark) (path : Path) (action : Decoder α) : Decoder α :=
  tryCatch action fun e =>
    match e with
    | .message text none => throw (.message text (some (mark, path)))
    | e => throw e

/-- Read a value with `action` at the node with index `target`, named by the alias that is
the next event; reading goes on after the alias. Following more than a hundred aliases per
event of the document is an error. -/
def jump {α : Type} (target : Nat) (action : Decoder α) : Decoder α := do
  let doc ← read
  let c ← get
  let jumps := c.jumps + 1
  if doc.events.size * 100 < jumps then throw .repetitionLimit
  set ({ pos := target, jumps } : Cursor)
  let a ← action
  modify fun c' => { c' with pos := c.pos + 1 }
  return a

/-- Read a value with `action`, first following an alias. -/
def follow {α : Type} (action : Decoder α) : Decoder α := do
  let (event, _) ← peek
  match event with
  | .alias _ target => jump target action
  | _ => action

/-- Skip the events of one value. -/
def skipValue : Nat → Nat → Decoder Unit
  | 0, _ => pure ()
  | fuel + 1, depth => do
    let (event, _) ← next
    let depth := match event with
      | .sequenceStart _ | .mappingStart _ => depth + 1
      | .sequenceEnd | .mappingEnd => depth - 1
      | _ => depth
    if depth != 0 then skipValue fuel depth

/-- Skip the events of one value. -/
def skip : Decoder Unit := do
  let doc ← read
  let (event, _) ← peek
  match event with
  | .sequenceStart _ | .mappingStart _ => skipValue (doc.events.size + 1) 0
  | _ =>
    let _ ← next
    pure ()

/-- Whether a scalar is read directly as a value of the core type `name`: a plain scalar,
whatever its tag, or a literal block scalar tagged with that type. -/
def readsAs (name : String) (style : ScalarStyle) (tag : Option Tag) : Bool :=
  style == .plain || (style == .literal && tag == some (coreTag name))

/-- A boolean: `true` or `false` in one of three spellings. -/
def bool (path : Path) : Decoder Bool := follow do
  let (event, mark) ← next
  locate mark path do
    match event with
    | .scalar text style props =>
      match readsAs "bool" style props.tag, Scalar.bool? text with
      | true, some b => return b
      | _, _ => throw (invalidTypeOf event "a boolean")
    | _ => throw (invalidTypeOf event "a boolean")

/-- An unsigned integer below `2^64`, reported as `expected`, and then below `bound`. -/
def unsignedBelow (expected : String) (bound : Nat) (path : Path) : Decoder Nat := follow do
  let (event, mark) ← next
  locate mark path do
    match event with
    | .scalar text style props =>
      match readsAs "int" style props.tag, Scalar.unsigned? (Nat.pow 2 64) text with
      | true, some n =>
        if n < bound then return n else throw (invalidValue (.unsigned n) expected)
      | _, _ => throw (invalidTypeOf event expected)
    | _ => throw (invalidTypeOf event expected)

/-- A 64-bit unsigned integer. -/
def u64 (path : Path) : Decoder UInt64 := do
  return (← unsignedBelow "u64" (Nat.pow 2 64) path).toUInt64

/-- A 32-bit unsigned integer. -/
def u32 (path : Path) : Decoder UInt32 := do
  return (← unsignedBelow "u32" (Nat.pow 2 32) path).toUInt32

/-- A double: a float or integer, or a named infinity or not-a-number. -/
def f64 (path : Path) : Decoder Float := follow do
  let (event, mark) ← next
  locate mark path do
    match event with
    | .scalar text style props =>
      match readsAs "float" style props.tag, Scalar.float? text with
      | true, some x => return x
      | _, _ => throw (invalidTypeOf event "f64")
    | _ => throw (invalidTypeOf event "f64")

/-- Text: any scalar, as written. -/
def string (expected : String) (path : Path) : Decoder String := follow do
  let (event, mark) ← next
  locate mark path do
    match event with
    | .scalar text _ _ => return text
    | _ => throw (invalidTypeOf event expected)

/-- The list of names a report offers: one name, two joined by "or", or "one of" a list. -/
def oneOf (names : List String) : String :=
  let quote (n : String) := "\x60" ++ n ++ "\x60"
  match names with
  | [a] => quote a
  | [a, b] => quote a ++ " or " ++ quote b
  | _ => "one of " ++ ", ".intercalate (names.map quote)

/-- The variant a local tag names: the text after its `!`, or `!` itself when nothing
follows. A tag that is not UTF-8 names none. -/
def tagVariant? : Option Tag → Option String
  | some ⟨33 :: rest⟩ => if rest.isEmpty then some "!" else Tag.text? ⟨rest⟩
  | _ => none

/-- One of a fixed list of names, at a node that is not an alias. An untagged scalar names
the variant. A local tag names it instead, and the node must then be nothing: an empty or
null plain scalar. A tag naming no variant gives an error without a position. -/
def variantAt (names : List String) (path : Path) : Decoder String := do
  let (event, mark) ← peek
  let unknown (name : String) : DecodeError :=
    .message ("unknown variant \x60" ++ name ++ "\x60, expected " ++ oneOf names) none
  let collection (found : Unexpected) (tag : Option Tag) : Decoder String :=
    match tagVariant? tag with
    | some name =>
      if !names.contains name then throw (unknown name)
      else locate mark path (throw (invalidType found "unit"))
    | none => locate mark path (throw (invalidType found "a YAML tag starting with '!'"))
  match event with
  | .scalar text style props =>
    match tagVariant? props.tag with
    | some name =>
      if !names.contains name then throw (unknown name)
      let _ ← next
      locate mark path do
        if style == .plain && Scalar.isNull text then return name
        else throw (invalidValue (.text text) "null")
    | none =>
      let _ ← next
      locate mark path do
        if names.contains text then return text else throw (unknown text)
  | .sequenceStart props => collection .sequence props.tag
  | .mappingStart props => collection .map props.tag
  | _ => throw .endOfStream

/-- One of a fixed list of names (see `variantAt`). Behind an alias, an error without a
position is reported at the alias. -/
def variant (names : List String) (path : Path) : Decoder String := do
  let (event, mark) ← peek
  match event with
  | .alias _ target => locate mark path (jump target (variantAt names path))
  | _ => variantAt names path

/-- Whether an event stands for an empty collection: an empty document or an empty plain
scalar. -/
def isEmptyCollection : Event → Bool
  | .void => true
  | .scalar "" .plain _ => true
  | _ => false

/-- The entries of a mapping after its start, each read by `entry`, until the mapping
ends. -/
def entries {σ : Type} (entry : σ → Decoder σ) : Nat → σ → Decoder σ
  | 0, acc => pure acc
  | fuel + 1, acc => do
    let (event, _) ← peek
    match event with
    | .mappingEnd =>
      let _ ← next
      return acc
    | _ =>
      let acc ← entry acc
      entries entry fuel acc

/-- A record named `name` whose fields are read by `field`, starting from `init`. Unknown
fields are skipped; a field given twice is an error. -/
def record {σ : Type} (name : String) (fields : List String) (init : σ)
    (field : String → Path → σ → Decoder σ) (path : Path) : Decoder σ := follow do
  let (event, mark) ← next
  let doc ← read
  locate mark path do
    match event with
    | .mappingStart _ =>
      let step (acc : σ × List String) : Decoder (σ × List String) := do
        let (keyEvent, _) ← peek
        let key ← string "field identifier" path
        if fields.contains key then
          if acc.2.contains key then
            throw (.message ("duplicate field \x60" ++ key ++ "\x60") none)
          let value ← field key (keyEvent.valuePath path key) acc.1
          return (value, key :: acc.2)
        else
          skip
          return acc
      let (value, _) ← entries step (doc.events.size + 1) (init, [])
      return value
    | e =>
      if isEmptyCollection e then return init
      else throw (invalidTypeOf e ("struct " ++ name))

/-- A map from text keys to values read by `value`; a repeated key keeps its last value,
in the place of its first. -/
def map {α : Type} (value : Path → Decoder α) (path : Path) :
    Decoder (List (String × α)) := follow do
  let (event, mark) ← next
  let doc ← read
  locate mark path do
    match event with
    | .mappingStart _ =>
      let step (acc : List (String × α)) : Decoder (List (String × α)) := do
        let (keyEvent, _) ← peek
        let key ← string "a string" path
        let v ← value (keyEvent.valuePath path key)
        if acc.any (·.1 == key) then
          return acc.map fun (k, old) => if k == key then (k, v) else (k, old)
        else return acc ++ [(key, v)]
      entries step (doc.events.size + 1) []
    | e =>
      if isEmptyCollection e then return []
      else throw (invalidTypeOf e "a map")

/-- The items of a sequence after its start, until it ends. -/
def items {α : Type} (item : Path → Decoder α) (path : Path) :
    Nat → Nat → List α → Decoder (List α)
  | 0, _, acc => pure acc.reverse
  | fuel + 1, i, acc => do
    let (event, _) ← peek
    match event with
    | .sequenceEnd =>
      let _ ← next
      return acc.reverse
    | _ =>
      let x ← item (.index path i)
      items item path fuel (i + 1) (x :: acc)

/-- A sequence of values read by `item`. -/
def sequence {α : Type} (item : Path → Decoder α) (path : Path) : Decoder (List α) := follow do
  let (event, mark) ← next
  let doc ← read
  locate mark path do
    match event with
    | .sequenceStart _ => items item path (doc.events.size + 1) 0 []
    | e =>
      if isEmptyCollection e then return []
      else throw (invalidTypeOf e "a sequence")

/-- Read a whole document: the value, then no further document. -/
def run {α : Type} (d : Decoder α) (doc : Document) : Except DecodeError α :=
  match StateT.run (ReaderT.run d doc) {} with
  | .error e => .error e
  | .ok (a, _) =>
    match doc.problem with
    | some p => .error (.problem p)
    | none => if doc.more then .error .moreThanOneDocument else .ok a

end Decoder

end Yaml

end Resilience
