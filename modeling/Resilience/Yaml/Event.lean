import Resilience.Yaml.Token.Stream

/-!
# YAML events

The parser reads tokens into events: a stack of states says what the grammar expects
next, and every event carries the position where it starts, which for a node with an anchor
or a tag is the position of the first of them. A missing value becomes an empty plain scalar
at the position where it was expected, and a problem names what was being parsed and where
that began.

A tag is resolved when its node is parsed: a verbatim tag stands as written, and a handle is
replaced by the prefix a `%TAG` directive of the document gives it, where `!` stands for
itself and `!!` for `tag:yaml.org,2002:` unless a directive says otherwise. A document may
declare the version 1.1 or 1.2 at most once, and each handle at most once.

A document is the list of events of the first document of the text, taken until its end or
until the first problem; the problem is kept beside the events, to be reported only if a
reader needs an event past it. An alias points at the last node before it with its anchor;
an alias with no such node is a problem at the alias. An empty text is one document holding
a single `void` event. A text with a second document is recorded as such. Before any of
this, a text holding a control character other than tab and line breaks, a delete, a
surrogate or a non-character is refused at that character's byte offset.

## Main definitions

* `Properties`, `Event`: Events.
* `Parser`, `Parser.next`: The parser.
* `Document`, `Document.load`: The first document of a text.
-/

namespace Resilience

namespace Yaml

/-- The anchor and the resolved tag written before a node. -/
structure Properties where
  anchor : Option String := none
  tag : Option Tag := none
  deriving Inhabited, BEq

/-- An event of the parse. -/
inductive Event where
  | streamStart
  | streamEnd
  | documentStart
  | documentEnd
  | scalar (text : String) (style : ScalarStyle) (props : Properties)
  | sequenceStart (props : Properties)
  | sequenceEnd
  | mappingStart (props : Properties)
  | mappingEnd
  /-- A node written again by the name of its anchor; in a document, `target` is the index
  of the event that starts the named node. -/
  | alias (name : String) (target : Nat)
  /-- The content of an empty text. -/
  | void
  deriving Inhabited, BEq

/-- What the grammar expects next. -/
inductive ParseState where
  | streamStart
  | implicitDocumentStart
  | documentStart
  | documentContent
  | documentEnd
  | blockNode
  | blockNodeOrIndentlessSequence
  | flowNode
  | blockSequenceFirstEntry
  | blockSequenceEntry
  | indentlessSequenceEntry
  | blockMappingFirstKey
  | blockMappingKey
  | blockMappingValue
  | flowSequenceFirstEntry
  | flowSequenceEntry
  | flowSequenceEntryMappingKey
  | flowSequenceEntryMappingValue
  | flowSequenceEntryMappingEnd
  | flowMappingFirstKey
  | flowMappingKey
  | flowMappingValue
  | flowMappingEmptyValue
  | finished
  deriving Inhabited, BEq

/-- The parser: the scanner, the current state, the states to return to, the starting
positions of the open collections, and the tag handles the current document declares. -/
structure Parser where
  scanner : Scanner
  state : ParseState := .streamStart
  states : List ParseState := []
  marks : List Mark := []
  tagDirectives : List (String × Tag) := []

/-- Parsing: a state change that may stop at a problem. -/
abbrev Parse := StateT Parser (Except Problem)

namespace Parser

/-- Run a scanner step inside the parser. -/
def scan {α : Type} (step : Scan α) : Parse α := do
  let p ← get
  match step.run p.scanner with
  | .ok (a, scanner) =>
    set { p with scanner }
    return a
  | .error e => throw e

/-- The next token. -/
def peek : Parse Token := scan Scanner.peek

/-- Hand the next token out. -/
def skip : Parse Unit := scan Scanner.skip

/-- Set the state. -/
def goTo (state : ParseState) : Parse Unit := modify fun p => { p with state }

/-- Remember a state to return to. -/
def pushState (state : ParseState) : Parse Unit := modify fun p => { p with states := state :: p.states }

/-- Return to the last remembered state. -/
def popState : Parse Unit :=
  modify fun p => match p.states with
    | s :: rest => { p with state := s, states := rest }
    | [] => { p with state := .finished }

/-- Remember where a collection starts. -/
def pushMark (m : Mark) : Parse Unit := modify fun p => { p with marks := m :: p.marks }

/-- Forget where the innermost collection starts, returning it. -/
def popMark : Parse Mark := do
  let p ← get
  match p.marks with
  | m :: rest =>
    set { p with marks := rest }
    return m
  | [] => return {}

/-- Stop with a problem at a token, naming what was being parsed. -/
def fail {α : Type} (context : String) (contextMark : Mark) (problem : String) (at_ : Mark) :
    Parse α :=
  throw { problem, mark := at_, context := some (context, contextMark) }

/-- An empty plain scalar at a position. -/
def empty (m : Mark) : Parse (Event × Mark) := return (.scalar "" .plain {}, m)

/-- The prefix a tag handle stands for in the current document. -/
def tagPrefix? (handle : String) : Parse (Option Tag) := do
  match (← get).tagDirectives.lookup handle with
  | some pfx => return some pfx
  | none =>
    if handle == "!" then return some (Tag.ofString "!")
    else if handle == "!!" then return some (Tag.ofString "tag:yaml.org,2002:")
    else return none

/-- Read the anchor and the tag before a node, in either order. Returns the anchor, the tag
as written with its position, and the token after them. -/
def properties (t : Token) : Parse (Option String × Option (String × Tag × Mark) × Token) := do
  match t.kind with
  | .anchor name =>
    skip
    let u ← peek
    match u.kind with
    | .tag handle suffix =>
      skip
      return (some name, some (handle, suffix, u.start), ← peek)
    | _ => return (some name, none, u)
  | .tag handle suffix =>
    skip
    let u ← peek
    match u.kind with
    | .anchor name =>
      skip
      return (some name, some (handle, suffix, t.start), ← peek)
    | _ => return (none, some (handle, suffix, t.start), u)
  | _ => return (none, none, t)

/-- Parse a node: an alias, or properties followed by a scalar or the start of a
collection. In block context a block collection may start here, and an indentless sequence
where the caller allows it. Properties with nothing after them make an empty scalar. -/
def node (block indentless : Bool) : Parse (Event × Mark) := do
  let first ← peek
  if let .alias name := first.kind then
    popState
    skip
    return (.alias name 0, first.start)
  let start := first.start
  let (anchor, written, t) ← properties first
  let tag ← match written with
    | none => pure none
    | some (handle, suffix, tagMark) =>
      if handle.isEmpty then pure (some suffix)
      else match ← tagPrefix? handle with
        | some pfx => pure (some (pfx ++ suffix))
        | none => fail "while parsing a node" start "found undefined tag handle" tagMark
  let props : Properties := { anchor, tag }
  let context := if block then "while parsing a block node" else "while parsing a flow node"
  match t.kind with
  | .blockEntry =>
    if indentless then
      goTo .indentlessSequenceEntry
      return (.sequenceStart props, start)
    else if anchor.isSome || tag.isSome then
      popState
      return (.scalar "" .plain props, start)
    else fail context start "did not find expected node content" t.start
  | .scalar text style =>
    popState
    skip
    return (.scalar text style props, start)
  | .flowSequenceStart =>
    goTo .flowSequenceFirstEntry
    return (.sequenceStart props, start)
  | .flowMappingStart =>
    goTo .flowMappingFirstKey
    return (.mappingStart props, start)
  | .blockSequenceStart =>
    if block then
      goTo .blockSequenceFirstEntry
      return (.sequenceStart props, start)
    else if anchor.isSome || tag.isSome then
      popState
      return (.scalar "" .plain props, start)
    else fail context start "did not find expected node content" t.start
  | .blockMappingStart =>
    if block then
      goTo .blockMappingFirstKey
      return (.mappingStart props, start)
    else if anchor.isSome || tag.isSome then
      popState
      return (.scalar "" .plain props, start)
    else fail context start "did not find expected node content" t.start
  | _ =>
    if anchor.isSome || tag.isSome then
      popState
      return (.scalar "" .plain props, start)
    else fail context start "did not find expected node content" t.start

/-- Whether a token is a directive. -/
def isDirective (t : Token) : Bool :=
  match t.kind with
  | .versionDirective _ _ | .tagDirective _ _ => true
  | _ => false

/-- Read the directives before a document: at most one version, 1.1 or 1.2, and each tag
handle at most once. -/
def directives : Nat → Bool → Parse Unit
  | 0, _ => pure ()
  | fuel + 1, versionSeen => do
    let t ← peek
    match t.kind with
    | .versionDirective major minor =>
      if versionSeen then throw { problem := "found duplicate %YAML directive", mark := t.start }
      if major != 1 || (minor != 1 && minor != 2) then
        throw { problem := "found incompatible YAML document", mark := t.start }
      skip
      directives fuel true
    | .tagDirective handle pfx =>
      if ((← get).tagDirectives.lookup handle).isSome then
        throw { problem := "found duplicate %TAG directive", mark := t.start }
      modify fun p => { p with tagDirectives := p.tagDirectives ++ [(handle, pfx)] }
      skip
      directives fuel versionSeen
    | _ => pure ()

/-- The start of a document, explicit or implicit, or the end of the stream. -/
def documentStart (implicit : Bool) : Parse (Event × Mark) := do
  let mut t ← peek
  if !implicit then
    for _ in [0:t.start.index + 4] do
      if t.kind == .documentEnd then
        skip
        t ← peek
  if implicit && !isDirective t && t.kind != .documentStart && t.kind != .streamEnd then
    pushState .documentEnd
    goTo .blockNode
    return (.documentStart, t.start)
  else if t.kind != .streamEnd then
    let start := t.start
    directives ((← get).scanner.input.size + 1) false
    t ← peek
    if t.kind != .documentStart then
      throw { problem := "did not find expected <document start>", mark := t.start }
    pushState .documentEnd
    goTo .documentContent
    skip
    return (.documentStart, start)
  else
    goTo .finished
    skip
    return (.streamEnd, t.start)

/-- The content of an explicit document, which may be empty. -/
def documentContent : Parse (Event × Mark) := do
  let t ← peek
  match t.kind with
  | .documentStart | .documentEnd | .streamEnd =>
    popState
    empty t.start
  | _ => node true false

/-- The end of a document, explicit or implicit. -/
def documentEnd : Parse (Event × Mark) := do
  let t ← peek
  if t.kind == .documentEnd then skip
  modify fun p => { p with tagDirectives := [] }
  goTo .documentStart
  return (.documentEnd, t.start)

/-- An entry of a block sequence, or its end. -/
def blockSequenceEntry (first : Bool) : Parse (Event × Mark) := do
  if first then
    let t ← peek
    pushMark t.start
    skip
  let t ← peek
  match t.kind with
  | .blockEntry =>
    let m := t.stop
    skip
    let t ← peek
    if t.kind != .blockEntry && t.kind != .blockEnd then
      pushState .blockSequenceEntry
      node true false
    else
      goTo .blockSequenceEntry
      empty m
  | .blockEnd =>
    popState
    let _ ← popMark
    skip
    return (.sequenceEnd, t.start)
  | _ =>
    let m ← popMark
    fail "while parsing a block collection" m "did not find expected '-' indicator" t.start

/-- An entry of a sequence written without indentation under a mapping key, or its end. -/
def indentlessSequenceEntry : Parse (Event × Mark) := do
  let t ← peek
  if t.kind == .blockEntry then
    let m := t.stop
    skip
    let t ← peek
    if t.kind != .blockEntry && t.kind != .key && t.kind != .value && t.kind != .blockEnd then
      pushState .indentlessSequenceEntry
      node true false
    else
      goTo .indentlessSequenceEntry
      empty m
  else
    popState
    return (.sequenceEnd, t.start)

/-- A key of a block mapping, or its end. -/
def blockMappingKey (first : Bool) : Parse (Event × Mark) := do
  if first then
    let t ← peek
    pushMark t.start
    skip
  let t ← peek
  match t.kind with
  | .key =>
    let m := t.stop
    skip
    let t ← peek
    if t.kind != .key && t.kind != .value && t.kind != .blockEnd then
      pushState .blockMappingValue
      node true true
    else
      goTo .blockMappingValue
      empty m
  | .blockEnd =>
    popState
    let _ ← popMark
    skip
    return (.mappingEnd, t.start)
  | _ =>
    let m ← popMark
    fail "while parsing a block mapping" m "did not find expected key" t.start

/-- A value of a block mapping, which may be empty. -/
def blockMappingValue : Parse (Event × Mark) := do
  let t ← peek
  if t.kind == .value then
    let m := t.stop
    skip
    let t ← peek
    if t.kind != .key && t.kind != .value && t.kind != .blockEnd then
      pushState .blockMappingKey
      node true true
    else
      goTo .blockMappingKey
      empty m
  else
    goTo .blockMappingKey
    empty t.start

/-- An entry of a flow sequence, or its end. -/
def flowSequenceEntry (first : Bool) : Parse (Event × Mark) := do
  if first then
    let t ← peek
    pushMark t.start
    skip
  let mut t ← peek
  if t.kind != .flowSequenceEnd then
    if !first then
      if t.kind == .flowEntry then
        skip
        t ← peek
      else
        let m ← popMark
        fail "while parsing a flow sequence" m "did not find expected ',' or ']'" t.start
    if t.kind == .key then
      goTo .flowSequenceEntryMappingKey
      skip
      return (.mappingStart {}, t.start)
    else if t.kind != .flowSequenceEnd then
      pushState .flowSequenceEntry
      return ← node false false
  popState
  let _ ← popMark
  skip
  return (.sequenceEnd, t.start)

/-- The key of a one-pair mapping inside a flow sequence. -/
def flowSequenceEntryMappingKey : Parse (Event × Mark) := do
  let t ← peek
  if t.kind != .value && t.kind != .flowEntry && t.kind != .flowSequenceEnd then
    pushState .flowSequenceEntryMappingValue
    node false false
  else
    goTo .flowSequenceEntryMappingValue
    empty t.start

/-- The value of a one-pair mapping inside a flow sequence. -/
def flowSequenceEntryMappingValue : Parse (Event × Mark) := do
  let mut t ← peek
  if t.kind == .value then
    skip
    t ← peek
    if t.kind != .flowEntry && t.kind != .flowSequenceEnd then
      pushState .flowSequenceEntryMappingEnd
      return ← node false false
  goTo .flowSequenceEntryMappingEnd
  empty t.start

/-- The end of a one-pair mapping inside a flow sequence. -/
def flowSequenceEntryMappingEnd : Parse (Event × Mark) := do
  let t ← peek
  goTo .flowSequenceEntry
  return (.mappingEnd, t.start)

/-- A key of a flow mapping, or its end. -/
def flowMappingKey (first : Bool) : Parse (Event × Mark) := do
  if first then
    let t ← peek
    pushMark t.start
    skip
  let mut t ← peek
  if t.kind != .flowMappingEnd then
    if !first then
      if t.kind == .flowEntry then
        skip
        t ← peek
      else
        let m ← popMark
        fail "while parsing a flow mapping" m "did not find expected ',' or '\x7d'" t.start
    if t.kind == .key then
      skip
      let u ← peek
      if u.kind != .value && u.kind != .flowEntry && u.kind != .flowMappingEnd then
        pushState .flowMappingValue
        return ← node false false
      else
        goTo .flowMappingValue
        return ← empty u.start
    else if t.kind != .flowMappingEnd then
      pushState .flowMappingEmptyValue
      return ← node false false
  popState
  let _ ← popMark
  skip
  return (.mappingEnd, t.start)

/-- A value of a flow mapping, which may be empty. -/
def flowMappingValue (isEmpty : Bool) : Parse (Event × Mark) := do
  let mut t ← peek
  if isEmpty then
    goTo .flowMappingKey
    return ← empty t.start
  if t.kind == .value then
    skip
    t ← peek
    if t.kind != .flowEntry && t.kind != .flowMappingEnd then
      pushState .flowMappingKey
      return ← node false false
  goTo .flowMappingKey
  empty t.start

/-- The next event. -/
def next : Parse (Event × Mark) := do
  let p ← get
  match p.state with
  | .streamStart =>
    let t ← peek
    if t.kind != .streamStart then
      throw { problem := "did not find expected <stream-start>", mark := t.start }
    goTo .implicitDocumentStart
    skip
    return (.streamStart, t.start)
  | .implicitDocumentStart => documentStart true
  | .documentStart => documentStart false
  | .documentContent => documentContent
  | .documentEnd => documentEnd
  | .blockNode => node true false
  | .blockNodeOrIndentlessSequence => node true true
  | .flowNode => node false false
  | .blockSequenceFirstEntry => blockSequenceEntry true
  | .blockSequenceEntry => blockSequenceEntry false
  | .indentlessSequenceEntry => indentlessSequenceEntry
  | .blockMappingFirstKey => blockMappingKey true
  | .blockMappingKey => blockMappingKey false
  | .blockMappingValue => blockMappingValue
  | .flowSequenceFirstEntry => flowSequenceEntry true
  | .flowSequenceEntry => flowSequenceEntry false
  | .flowSequenceEntryMappingKey => flowSequenceEntryMappingKey
  | .flowSequenceEntryMappingValue => flowSequenceEntryMappingValue
  | .flowSequenceEntryMappingEnd => flowSequenceEntryMappingEnd
  | .flowMappingFirstKey => flowMappingKey true
  | .flowMappingKey => flowMappingKey false
  | .flowMappingValue => flowMappingValue false
  | .flowMappingEmptyValue => flowMappingValue true
  | .finished => return (.streamEnd, p.scanner.mark)

end Parser

/-- The events of the first document of a text, with the problem that stopped the parse,
if any, and whether the text holds a further document. -/
structure Document where
  events : Array (Event × Mark)
  problem : Option Problem := none
  more : Bool := false
  deriving Inhabited

namespace Document

/-- The anchor an event gives its node, if any. -/
def anchorOf : Event → Option String
  | .scalar _ _ props | .sequenceStart props | .mappingStart props => props.anchor
  | _ => none

/-- Record an anchor on the event at `index`. Anchors are numbered as they come by how many
distinct names are anchored so far, and an alias reaches its node through the number of its
name: a name anchored again takes the next number, which the next new name takes as well,
so that both names then reach the later of the two nodes. -/
def Anchors.add (anchors : List (String × Nat)) (targets : List (Nat × Nat)) (name : String)
    (index : Nat) : List (String × Nat) × List (Nat × Nat) :=
  let id := anchors.length
  ((name, id) :: anchors.filter (·.1 != name), (id, index) :: targets)

/-- Collect the events of one document: stream and document starts are dropped, and the
document ends at its end event, at the end of the stream, or at a problem. An alias gets
the index of the node its name reaches (see `Anchors.add`), and one without is a problem.
Returns the events, the problem, whether the stream ended, and the parser after them. -/
def collect : Nat → Parser → Array (Event × Mark) → List (String × Nat) → List (Nat × Nat) →
    Array (Event × Mark) × Option Problem × Bool × Parser
  | 0, p, acc, _, _ => (acc, none, true, p)
  | fuel + 1, p, acc, anchors, targets =>
    match Parser.next.run p with
    | .error e => (acc, some e, false, p)
    | .ok ((event, mark), p) =>
      match event with
      | .streamStart | .documentStart => collect fuel p acc anchors targets
      | .streamEnd => (if acc.isEmpty then acc.push (.void, mark) else acc, none, true, p)
      | .documentEnd => (acc, none, false, p)
      | .alias name _ =>
        match (anchors.lookup name).bind (fun id => targets.lookup id) with
        | some target => collect fuel p (acc.push (.alias name target, mark)) anchors targets
        | none => (acc, some { problem := "unknown anchor", mark }, false, p)
      | _ =>
        let (anchors, targets) := match anchorOf event with
          | some name => Anchors.add anchors targets name acc.size
          | none => (anchors, targets)
        collect fuel p (acc.push (event, mark)) anchors targets

/-- Whether a character may appear in a text: tab, line feed, carriage return, the printable
ASCII characters, next line, and the rest of the Unicode range but surrogates and the
non-characters U+FFFE and U+FFFF. -/
def allowedChar (c : Char) : Bool :=
  let n := c.toNat
  n == 0x09 || n == 0x0A || n == 0x0D || (0x20 ≤ n && n ≤ 0x7E) || n == 0x85 ||
    (0xA0 ≤ n && n ≤ 0xD7FF) || (0xE000 ≤ n && n ≤ 0xFFFD) || 0x10000 ≤ n

/-- The byte offset of the first character a text may not hold. -/
def forbiddenOffset? : List Char → Nat → Option Nat
  | [], _ => none
  | c :: cs, offset => if allowedChar c then forbiddenOffset? cs (offset + c.utf8Size) else some offset

/-- The first document of a text. An empty stream is one document holding `void`; a
problem ends the document where it was found. After a complete first document the parse
goes on to see whether another one follows: one that starts, even with a problem, counts. -/
def load (text : String) : Document :=
  match forbiddenOffset? text.toList 0 with
  | some offset =>
    { events := #[], problem := some { problem := "control characters are not allowed", mark := {}, offset } }
  | none =>
    let fuel := 4 * text.length + 16
    let p : Parser := { scanner := Scanner.ofString text }
    let (events, problem, ended, p) := collect fuel p #[] [] []
    match problem with
    | some e => { events, problem := some e }
    | none =>
      if ended then { events }
      else
        let (rest, problem, ended, _) := collect fuel p #[] [] []
        let more := problem.isSome || !ended || !(rest.isEmpty || rest.all (·.1 == .void))
        { events, more }

end Document

end Yaml

end Resilience
