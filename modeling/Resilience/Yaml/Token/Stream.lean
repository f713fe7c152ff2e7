import Resilience.Yaml.Token.Scalar
import Resilience.Yaml.Token.Property

/-!
# The token stream of YAML text

The next token is chosen by the first character after blanks and comments: the end of the
text, a directive or document marker at the start of a line, a flow indicator, a block
entry, key or value indicator, an alias, anchor or tag, a block scalar in block context, a
quoted scalar, or a plain scalar; any other character cannot start a token. Each token
updates the simple keys and the indentation as the grammar requires.

Tokens are read into a queue, and the first one is handed out only when no possible simple
key starts at it any more, since a later `:` would put a key token in front of it.

## Main definitions

* `fetchNext`: Read the next token into the queue.
* `Scanner.ofString`, `Scanner.peek`, `Scanner.skip`: The token stream.
-/

namespace Resilience

namespace Yaml

/-- Fetch a plain scalar token. -/
def fetchPlain : Scan Unit := do
  saveKey
  modify fun s => { s with keyAllowed := false }
  let s ← get
  let start := s.mark
  match plainScalar start (s.indent + 1) (s.input.size + 1) (s, { stop := start }) with
  | .error e => throw e
  | .ok (s, t) =>
    let s := if t.leadingBlanks then { s with keyAllowed := true } else s
    set (s.enqueue (.scalar t.text .plain) start t.stop)

/-- Fetch a quoted scalar token. -/
def fetchQuoted (single : Bool) : Scan Unit := do
  saveKey
  modify fun s => { s with keyAllowed := false }
  let s ← get
  let start := s.mark
  match quotedScalar single start (s.input.size + 1) (s.advance, { stop := start }) with
  | .error e => throw e
  | .ok (s, t) =>
    set (s.enqueue (.scalar t.text (if single then .singleQuoted else .doubleQuoted)) start t.stop)

/-- Fetch a token read by `read` from the scanner's position. -/
def fetchWith (read : Scanner → Except Problem (Scanner × Token)) : Scan Unit := do
  match read (← get) with
  | .error e => throw e
  | .ok (s, t) => set { s with queue := s.queue.push t }

/-- Fetch a block scalar token; a simple key may follow it. -/
def fetchBlockScalar (literal : Bool) : Scan Unit := do
  removeKey
  modify fun s => { s with keyAllowed := true }
  fetchWith (blockScalar literal)

/-- Fetch an anchor or an alias, which may begin a simple key. -/
def fetchAnchor (isAlias : Bool) : Scan Unit := do
  saveKey
  modify fun s => { s with keyAllowed := false }
  fetchWith (anchorName isAlias)

/-- Fetch a tag, which may begin a simple key. -/
def fetchTag : Scan Unit := do
  saveKey
  modify fun s => { s with keyAllowed := false }
  fetchWith tagToken

/-- Fetch a directive: it closes every block and forgets the simple key. -/
def fetchDirective : Scan Unit := do
  unrollIndent (-1)
  removeKey
  modify fun s => { s with keyAllowed := false }
  fetchWith directive

/-- Fetch a one-character indicator token. -/
def fetchIndicator (kind : TokenKind) : Scan Unit := do
  let s ← get
  let start := s.mark
  let s := s.advance
  set (s.enqueue kind start s.mark)

/-- Fetch the end of the stream: close every block and forget the simple key. -/
def fetchStreamEnd : Scan Unit := do
  modify fun s => if s.mark.column != 0 then
    { s with mark := { s.mark with column := 0, line := s.mark.line + 1 } } else s
  unrollIndent (-1)
  removeKey
  modify fun s => { (s.enqueue .streamEnd s.mark s.mark) with keyAllowed := false, ended := true }

/-- Fetch a document marker. -/
def fetchDocumentMarker (kind : TokenKind) : Scan Unit := do
  unrollIndent (-1)
  removeKey
  modify fun s => { s with keyAllowed := false }
  let s ← get
  let start := s.mark
  let s := s.advance.advance.advance
  set (s.enqueue kind start s.mark)

/-- Fetch the start of a flow collection, which may begin a simple key. -/
def fetchFlowStart (kind : TokenKind) : Scan Unit := do
  saveKey
  modify fun s => { s with keys := {} :: s.keys, flowLevel := s.flowLevel + 1, keyAllowed := true }
  fetchIndicator kind

/-- Fetch the end of a flow collection. -/
def fetchFlowEnd (kind : TokenKind) : Scan Unit := do
  removeKey
  modify fun s => if s.flowLevel != 0 then
    { s with flowLevel := s.flowLevel - 1, keys := s.keys.tail, keyAllowed := false }
    else { s with keyAllowed := false }
  fetchIndicator kind

/-- Fetch a `,` between flow entries. -/
def fetchFlowEntry : Scan Unit := do
  removeKey
  modify fun s => { s with keyAllowed := true }
  fetchIndicator .flowEntry

/-- Fetch a `-` block entry, opening a block sequence at its column. -/
def fetchBlockEntry : Scan Unit := do
  let s ← get
  if s.flowLevel == 0 then
    if !s.keyAllowed then
      scanFail none "block sequence entries are not allowed in this context"
    rollIndent s.mark.column none .blockSequenceStart s.mark
  removeKey
  modify fun s => { s with keyAllowed := true }
  fetchIndicator .blockEntry

/-- Fetch a `?` key indicator. -/
def fetchKey : Scan Unit := do
  let s ← get
  if s.flowLevel == 0 then
    if !s.keyAllowed then
      scanFail none "mapping keys are not allowed in this context"
    rollIndent s.mark.column none .blockMappingStart s.mark
  removeKey
  modify fun s => { s with keyAllowed := s.flowLevel == 0 }
  fetchIndicator .key

/-- Fetch a `:` value indicator. A possible simple key becomes a key: its token is inserted
where the key began, after a mapping start if the key opens a block mapping. -/
def fetchValue : Scan Unit := do
  let s ← get
  let k := s.topKey
  if k.possible then
    set (s.insertAt (k.tokenNumber - s.handedOut) ⟨.key, k.mark, k.mark⟩)
    rollIndent k.mark.column (some k.tokenNumber) .blockMappingStart k.mark
    modify fun s => { (s.setTopKey { k with possible := false }) with keyAllowed := false }
  else
    if s.flowLevel == 0 then
      if !s.keyAllowed then
        scanFail none "mapping values are not allowed in this context"
      rollIndent s.mark.column none .blockMappingStart s.mark
    modify fun s => { s with keyAllowed := s.flowLevel == 0 }
  fetchIndicator .value

/-- Whether the current character starts a plain scalar. -/
def startsPlain (s : Scanner) : Bool :=
  let c := s.here
  !(isBlankEnd c || "-?:,[]\x7b\x7d#&*!|>'\"%@".contains c || c == '\x60') ||
    (c == '-' && !isBlank (s.ahead 1)) ||
    (s.flowLevel == 0 && (c == '?' || c == ':') && !isBlankEnd (s.ahead 1))

/-- Fetch the next token, after skipping to it and closing the blocks it ends. -/
def fetchNext : Scan Unit := do
  let s ← get
  if !s.started then
    set { s with indent := -1, keys := [{}], keyAllowed := true, started := true }
    modify fun s => s.enqueue .streamStart s.mark s.mark
    return
  set (skipToToken (s.input.size + 1) s)
  staleKeys
  let s ← get
  unrollIndent s.mark.column
  let s ← get
  let c := s.here
  let flow := s.flowLevel != 0
  if isEnd c then fetchStreamEnd
  else if s.mark.column == 0 && c == '%' then fetchDirective
  else if s.mark.column == 0 && c == '-' && s.ahead 1 == '-' && s.ahead 2 == '-' && isBlankEnd (s.ahead 3) then
    fetchDocumentMarker .documentStart
  else if s.mark.column == 0 && c == '.' && s.ahead 1 == '.' && s.ahead 2 == '.' && isBlankEnd (s.ahead 3) then
    fetchDocumentMarker .documentEnd
  else if c == '[' then fetchFlowStart .flowSequenceStart
  else if c == '{' then fetchFlowStart .flowMappingStart
  else if c == ']' then fetchFlowEnd .flowSequenceEnd
  else if c == '}' then fetchFlowEnd .flowMappingEnd
  else if c == ',' then fetchFlowEntry
  else if c == '-' && isBlankEnd (s.ahead 1) then fetchBlockEntry
  else if c == '?' && (flow || isBlankEnd (s.ahead 1)) then fetchKey
  else if c == ':' && (flow || isBlankEnd (s.ahead 1)) then fetchValue
  else if c == '*' then fetchAnchor true
  else if c == '&' then fetchAnchor false
  else if c == '!' then fetchTag
  else if c == '|' && !flow then fetchBlockScalar true
  else if c == '>' && !flow then fetchBlockScalar false
  else if c == '\'' then fetchQuoted true
  else if c == '"' then fetchQuoted false
  else if startsPlain s then fetchPlain
  else scanFail (some ("while scanning for the next token", s.mark)) "found character that cannot start any token"

/-- Whether more tokens must be read before the first queued one is settled: the queue is
empty, or a simple key may still begin at that token. -/
def needMore : Scan Bool := do
  let s ← get
  if s.queue.isEmpty then return !s.ended
  staleKeys
  let s ← get
  return s.keys.any fun k => k.possible && k.tokenNumber == s.handedOut

/-- Read tokens until the first queued one is settled. -/
def fetchMore : Nat → Scan Unit
  | 0 => pure ()
  | fuel + 1 => do
    if ← needMore then
      fetchNext
      fetchMore fuel

namespace Scanner

/-- A scanner at the start of a text. -/
def ofString (text : String) : Scanner := { input := text.toList.toArray }

/-- The next token, without handing it out. -/
def peek : Scan Token := do
  let s ← get
  fetchMore (2 * s.input.size + 8)
  let s ← get
  match s.queue[0]? with
  | some t => return t
  | none => return ⟨.streamEnd, s.mark, s.mark⟩

/-- Hand out the next token. -/
def skip : Scan Unit := do
  let _ ← peek
  modify fun s => { s with queue := s.queue.extract 1 s.queue.size, handedOut := s.handedOut + 1 }

end Scanner

end Yaml

end Resilience
