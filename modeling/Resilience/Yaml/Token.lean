/-!
# YAML tokens

The scanner turns YAML 1.1 text into tokens. Every token carries the positions where it
starts and ends, and every problem names what was being scanned and where.

Block structure is read from indentation: a key at a deeper column than the current indent
opens a block mapping, a `-` entry opens a block sequence, and a shallower line closes them
with block-end tokens. A *simple key* is a scalar or flow collection that turns out to be a
key only when a `:` follows it on the same line; the scanner remembers where each possible
simple key began and, on finding the `:`, inserts the key token (and the mapping start, if
the key opens a mapping) back at that place in the queue. A key the block structure
requires that never meets its `:` is an error.

Tokens are handed out one at a time, and the scanner reads ahead only while the next token
might still turn out to be a simple key. An error in the text is therefore reported only
when the reader needs the tokens past it, which is what lets a consumer that stops early
report its own error first.

This module holds the tokens, the scanner's state, and the bookkeeping of simple keys and
indentation. The readers of scalars and of node properties, and the token stream built from
them, follow in the modules under `Yaml/Token/`.

## Main definitions

* `Mark`, `Problem`: Positions, and the problems the reader reports with them.
* `ScalarStyle`, `TokenKind`, `Token`: Tokens.
* `Scanner`: The scanner's state.
* `saveKey`, `removeKey`, `staleKeys`: Possible simple keys.
* `rollIndent`, `unrollIndent`: Opening and closing block collections.
-/

namespace Resilience

namespace Yaml

/-- A position in the text: the character index, the byte offset in UTF-8, and the line and
column from zero. -/
structure Mark where
  index : Nat := 0
  offset : Nat := 0
  line : Nat := 0
  column : Nat := 0
  deriving Inhabited, BEq, Repr

namespace Mark

/-- Whether the mark is at line and column zero. -/
def atOrigin (m : Mark) : Bool := m.line == 0 && m.column == 0

/-- The position as reports write it, counting lines and columns from one. -/
def describe (m : Mark) : String :=
  "line " ++ toString (m.line + 1) ++ " column " ++ toString (m.column + 1)

end Mark

/-- A problem found while reading: what went wrong and where, and what was being read and
where that began. A problem found before scanning, in the characters of the text, has no
line and column but the byte offset of the character. -/
structure Problem where
  problem : String
  mark : Mark
  context : Option (String × Mark) := none
  offset : Nat := 0
  deriving Inhabited

/-- The report of a problem. Positions at the origin are left out, a byte offset is given
when there is no line and column, and a context position equal to the problem's is left
out. -/
def Problem.message (p : Problem) : String :=
  let head := p.problem ++
    (if !p.mark.atOrigin then " at " ++ p.mark.describe
     else if p.offset != 0 then " at position " ++ toString p.offset else "")
  match p.context with
  | none => head
  | some (context, m) =>
    head ++ ", " ++ context ++
      (if !m.atOrigin && (m.line != p.mark.line || m.column != p.mark.column) then
        " at " ++ m.describe else "")

/-- The bytes of a tag, of the suffix of a tag as written, or of the prefix a `%TAG`
directive gives a handle. They come from `%`-escapes as well as characters, so they need not
be UTF-8, and like every text the reader hands on they stop at the first zero byte. -/
structure Tag where
  bytes : List UInt8
  deriving Inhabited, BEq

namespace Tag

/-- The bytes of a text. -/
def ofString (s : String) : Tag := ⟨s.toUTF8.toList⟩

instance : Append Tag := ⟨fun a b => ⟨a.bytes ++ b.bytes⟩⟩

/-- The text of the tag, when its bytes are UTF-8. -/
def text? (t : Tag) : Option String := String.fromUTF8? ⟨t.bytes.toArray⟩

/-- Whether the tag is local: its first byte is `!`. -/
def isLocal (t : Tag) : Bool := t.bytes.head? == some 33

end Tag

/-- How a scalar is written. -/
inductive ScalarStyle where
  | plain
  | singleQuoted
  | doubleQuoted
  /-- A block scalar after `|`, keeping its line breaks. -/
  | literal
  /-- A block scalar after `>`, folding its line breaks. -/
  | folded
  deriving Inhabited, BEq, DecidableEq, Repr

/-- The kinds of token. -/
inductive TokenKind where
  | streamStart
  | streamEnd
  | documentStart
  | documentEnd
  | blockSequenceStart
  | blockMappingStart
  | blockEnd
  | flowSequenceStart
  | flowSequenceEnd
  | flowMappingStart
  | flowMappingEnd
  | blockEntry
  | flowEntry
  | key
  | value
  | scalar (text : String) (style : ScalarStyle)
  /-- `*name`: a node written again by the name of its anchor. -/
  | alias (name : String)
  /-- `&name`: a name for the node that follows. -/
  | anchor (name : String)
  /-- A tag: the handle as written (empty for a verbatim tag) and the suffix. -/
  | tag (handle : String) (suffix : Tag)
  /-- `%YAML major.minor`. -/
  | versionDirective (major minor : Nat)
  /-- `%TAG handle prefix`. -/
  | tagDirective (handle : String) (pfx : Tag)
  deriving Inhabited, BEq

/-- A token with where it starts and stops. -/
structure Token where
  kind : TokenKind
  start : Mark
  stop : Mark
  deriving Inhabited

/-- A place where a simple key may have started. -/
structure SimpleKey where
  possible : Bool := false
  required : Bool := false
  tokenNumber : Nat := 0
  mark : Mark := {}
  deriving Inhabited

/-- The scanner: the text, the position, the queue of tokens not yet handed out, and the
block and flow structure read so far. -/
structure Scanner where
  input : Array Char
  mark : Mark := {}
  queue : Array Token := #[]
  handedOut : Nat := 0
  started : Bool := false
  ended : Bool := false
  indent : Int := -1
  indents : List Int := []
  flowLevel : Nat := 0
  keyAllowed : Bool := false
  keys : List SimpleKey := []

/-- Scanning: a state change that may stop at a problem. -/
abbrev Scan := StateT Scanner (Except Problem)

/-- A line break: carriage return, line feed, next line, line or paragraph separator. -/
def isBreak (c : Char) : Bool :=
  c == '\r' || c == '\n' || c == '\u0085' || c == '\u2028' || c == '\u2029'

/-- A space or a tab. -/
def isBlank (c : Char) : Bool := c == ' ' || c == '\t'

/-- The end of the text. -/
def isEnd (c : Char) : Bool := c == '\x00'

/-- A blank, a break or the end of the text. -/
def isBlankEnd (c : Char) : Bool := isBlank c || isBreak c || isEnd c

/-- A character of an anchor name, a tag handle or a directive name: an ASCII letter or
digit, `_` or `-`. -/
def isWordChar (c : Char) : Bool := c.isAlphanum || c == '_' || c == '-'

/-- A hexadecimal digit's value. -/
def hexValue (c : Char) : Option Nat :=
  if '0' ≤ c && c ≤ '9' then some (c.toNat - '0'.toNat)
  else if 'a' ≤ c && c ≤ 'f' then some (c.toNat - 'a'.toNat + 10)
  else if 'A' ≤ c && c ≤ 'F' then some (c.toNat - 'A'.toNat + 10)
  else none

namespace Scanner

/-- The character `k` places ahead; the end of the text reads as a null character. -/
def ahead (s : Scanner) (k : Nat) : Char := s.input.getD (s.mark.index + k) '\x00'

/-- The current character. -/
def here (s : Scanner) : Char := s.ahead 0

/-- Move past one character of a line. -/
def advance (s : Scanner) : Scanner :=
  let m := s.mark
  { s with mark := { m with index := m.index + 1, offset := m.offset + s.here.utf8Size,
                            column := m.column + 1 } }

/-- Move past a line break; a carriage return and line feed count as one break of two
characters. -/
def advanceLine (s : Scanner) : Scanner :=
  if s.here == '\r' && s.ahead 1 == '\n' then
    { s with mark := { index := s.mark.index + 2, offset := s.mark.offset + 2,
                       line := s.mark.line + 1, column := 0 } }
  else if isBreak s.here then
    { s with mark := { index := s.mark.index + 1, offset := s.mark.offset + s.here.utf8Size,
                       line := s.mark.line + 1, column := 0 } }
  else s

/-- The text a line break stands for in a scalar: a line feed, except that line and
paragraph separators stand for themselves. -/
def breakText (s : Scanner) : String :=
  if s.here == '\u2028' || s.here == '\u2029' then s.here.toString else "\n"

/-- Append a token to the queue. -/
def enqueue (s : Scanner) (kind : TokenKind) (start stop : Mark) : Scanner :=
  { s with queue := s.queue.push ⟨kind, start, stop⟩ }

/-- Insert a token into the queue at a position. -/
def insertAt (s : Scanner) (i : Nat) (t : Token) : Scanner :=
  { s with queue := (s.queue.toList.take i ++ t :: s.queue.toList.drop i).toArray }

/-- Read the characters that satisfy `p` (the end of the text never does), at most
`fuel` of them, appending them to `acc`. -/
def takeWhile (p : Char → Bool) : Nat → Scanner × String → Scanner × String
  | 0, st => st
  | fuel + 1, (s, acc) =>
    if p s.here && !isEnd s.here then takeWhile p fuel (s.advance, acc.push s.here) else (s, acc)

/-- Skip spaces and tabs. -/
def skipBlanks (s : Scanner) : Scanner := (Scanner.takeWhile isBlank s.input.size (s, "")).1

/-- Skip a comment, if one starts here, up to the line break. -/
def skipComment (s : Scanner) : Scanner :=
  if s.here == '#' then (Scanner.takeWhile (fun c => !isBreak c) s.input.size (s, "")).1 else s

/-- The simple key of the current flow level. -/
def topKey (s : Scanner) : SimpleKey := s.keys.headD {}

/-- Replace the simple key of the current flow level. -/
def setTopKey (s : Scanner) (k : SimpleKey) : Scanner :=
  { s with keys := match s.keys with
    | [] => [k]
    | _ :: rest => k :: rest }

end Scanner

/-- Stop with a problem at the current position. -/
def scanFail {α : Type} (context : Option (String × Mark)) (problem : String) : Scan α := do
  let s ← get
  throw { problem, mark := s.mark, context }

/-- A simple key that has not met its `:` by the end of its line, or within 1024 bytes, is
no longer possible; if the block structure required it, that is an error. -/
def staleKeys : Scan Unit := do
  let s ← get
  let stale (k : SimpleKey) : Bool :=
    k.possible && (k.mark.line < s.mark.line || k.mark.offset + 1024 < s.mark.offset)
  match s.keys.reverse.find? (fun k => stale k && k.required) with
  | some k => scanFail (some ("while scanning a simple key", k.mark)) "could not find expected ':'"
  | none => set { s with keys := s.keys.map fun k => if stale k then { k with possible := false } else k }

/-- Forget the simple key of the current flow level; a required one is an error. -/
def removeKey : Scan Unit := do
  let s ← get
  let k := s.topKey
  if k.possible && k.required then
    scanFail (some ("while scanning a simple key", k.mark)) "could not find expected ':'"
  set (s.setTopKey { k with possible := false })

/-- Remember that a simple key may start here. In block context at the indentation column
it is required. -/
def saveKey : Scan Unit := do
  let s ← get
  if s.keyAllowed then
    let required := s.flowLevel == 0 && s.indent == (s.mark.column : Int)
    let key : SimpleKey :=
      { possible := true, required, tokenNumber := s.handedOut + s.queue.size, mark := s.mark }
    removeKey
    modify (·.setTopKey key)

/-- Open a deeper block collection at `column`, with its start token appended or inserted
at token number `number`. Flow context has no indentation. -/
def rollIndent (column : Int) (number : Option Nat) (kind : TokenKind) (mark : Mark) :
    Scan Unit := do
  let s ← get
  if s.flowLevel == 0 && s.indent < column then
    let s := { s with indents := s.indent :: s.indents, indent := column }
    let t : Token := ⟨kind, mark, mark⟩
    match number with
    | none => set { s with queue := s.queue.push t }
    | some n => set (s.insertAt (n - s.handedOut) t)

/-- Close block collections deeper than `column`, one block-end token each. -/
def closeBlocks (column : Int) (mark : Mark) :
    Int → List Int → Array Token → Int × List Int × Array Token
  | indent, indents, queue =>
    match indents with
    | i :: rest =>
      if column < indent then closeBlocks column mark i rest (queue.push ⟨.blockEnd, mark, mark⟩)
      else (indent, indents, queue)
    | [] => (indent, indents, queue)

/-- Close the block collections deeper than `column` at the current position. -/
def unrollIndent (column : Int) : Scan Unit := do
  let s ← get
  if s.flowLevel == 0 then
    let (indent, indents, queue) := closeBlocks column s.mark s.indent s.indents s.queue
    set { s with indent, indents, queue }

/-- Skip blanks, comments and line breaks up to the next token. Tabs are skipped only in
flow context or where no simple key may start; a line break in block context allows a
simple key again. -/
def skipToToken : Nat → Scanner → Scanner
  | 0, s => s
  | fuel + 1, s =>
    let s := if s.mark.column == 0 && s.here == '\uFEFF' then s.advance else s
    let s := skipBlanks s.input.size s
    let s := if s.here == '#' then skipComment s.input.size s else s
    if isBreak s.here then
      let s := s.advanceLine
      skipToToken fuel (if s.flowLevel == 0 then { s with keyAllowed := true } else s)
    else s
where
  /-- Skip spaces, and tabs where they may be skipped. -/
  skipBlanks : Nat → Scanner → Scanner
    | 0, s => s
    | fuel + 1, s =>
      if s.here == ' ' || ((s.flowLevel != 0 || !s.keyAllowed) && s.here == '\t') then
        skipBlanks fuel s.advance
      else s
  /-- Skip a comment up to the line break. -/
  skipComment : Nat → Scanner → Scanner
    | 0, s => s
    | fuel + 1, s => if isBreak s.here || isEnd s.here then s else skipComment fuel s.advance

end Yaml

end Resilience
