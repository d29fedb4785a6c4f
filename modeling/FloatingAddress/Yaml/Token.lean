import FloatingAddress.Text.Utf8
import FloatingAddress.Yaml.Scalar

/-!
# Tokens of a YAML text

A text is cut into tokens. Most of them are visible signs, but the beginning and the end of a
block collection show only in the indentation, and the beginning of a key shows only in the colon
that comes after it: such a key is short, lies on one line, and gets its token afterwards
(`Lexer.fetchValue?`).
-/

namespace FloatingAddress.Yaml

inductive Token
  | versionDirective (major minor : Nat)
  /-- The meaning of a tag handle in the next document. -/
  | tagDirective (handle stem : String)
  | documentStart
  | documentEnd
  | blockSequenceStart
  | blockMappingStart
  | blockEnd
  | flowSequenceStart
  | flowSequenceEnd
  | flowMappingStart
  | flowMappingEnd
  | blockEntry
  | flowEntry
  | key
  | value
  | alias (name : String)
  | anchor (name : String)
  | tag (handle suffix : String)
  | scalar (style : Style) (text : String)
deriving DecidableEq, Repr

/-- A place where a key may have begun that is known as one only by its colon. -/
structure KeyStart where
  /-- The number of tokens before the place. -/
  position : Nat
  /-- Whether nothing else than a key can stand there. -/
  required : Bool
  index : Nat
  line : Nat
  column : Nat

/-- The state of the cutting. -/
structure Lexer where
  cursor : Cursor
  tokens : Array Token := #[]
  /-- The columns of the open block collections, the innermost one first. -/
  indents : List Nat := []
  /-- For every open flow collection and for the text around them, the innermost one first, the
  place where a key may have begun. -/
  keyStart : Option KeyStart := none
  outerKeyStarts : List (Option KeyStart) := []
  /-- Whether a key may begin here. -/
  keyAllowed : Bool := true

namespace Lexer

def inFlow (lx : Lexer) : Bool := !lx.outerKeyStarts.isEmpty

/-- The column of the innermost block collection. -/
def indent (lx : Lexer) : Option Nat := lx.indents.head?

/-- Add a token and go on to a place. -/
def emit (lx : Lexer) (token : Token) (cursor : Cursor) : Lexer :=
  { lx with tokens := lx.tokens.push token, cursor }

/-- Give up the place where a key may have begun, unless there has to be one. -/
def dropKey? (lx : Lexer) : Option Lexer :=
  if lx.keyStart.any (·.required) then none else some { lx with keyStart := none }

/-- Remember that a key may begin here. -/
def saveKey? (lx : Lexer) : Option Lexer :=
  if !lx.keyAllowed then some lx
  else do
    let lx ← lx.dropKey?
    let c := lx.cursor
    let required := !lx.inFlow && lx.indent = some c.column
    some { lx with keyStart := some {
      position := lx.tokens.size, required, index := c.index, line := c.line, column := c.column } }

/-- The greatest length of a key without a sign of its own. -/
def maxKeyLength : Nat := 1024

/-- Whether a key that began at a place can still be met by its colon. -/
def isStale (c : Cursor) (start : KeyStart) : Bool :=
  start.line < c.line || start.index + maxKeyLength < c.index

/-- Give up all places where a key began too long ago. -/
def dropStale? (lx : Lexer) : Option Lexer :=
  let stale (start : Option KeyStart) : Bool := start.any (isStale lx.cursor)
  let fresh (start : Option KeyStart) : Option KeyStart := start.filter (!isStale lx.cursor ·)
  if (lx.keyStart :: lx.outerKeyStarts).any fun s => stale s && s.any (·.required) then none
  else some { lx with
    keyStart := fresh lx.keyStart, outerKeyStarts := lx.outerKeyStarts.map fresh }

/-- Open a block collection at a column that is deeper than the innermost one. Its token goes to
the given position. -/
def openBlock (lx : Lexer) (column position : Nat) (token : Token) : Lexer :=
  if lx.inFlow || lx.indent.any (column ≤ ·) then lx
  else { lx with
    indents := column :: lx.indents
    tokens := lx.tokens.insertIdxIfInBounds position token }

/-- Close the block collections that are deeper than a column; without a column, all of them. -/
def closeBlocks (lx : Lexer) (column : Option Nat) : Lexer :=
  if lx.inFlow then lx
  else
    let isDeeper (n : Nat) : Bool := column.all (· < n)
    let closed := (lx.indents.takeWhile isDeeper).length
    { lx with
      indents := lx.indents.drop closed
      tokens := lx.tokens ++ Array.replicate closed .blockEnd }

/-- Skip everything between two tokens: blanks, comments and line breaks. A tab is no indentation:
where a key may begin outside flow collections, it is not skipped. -/
def skipGaps : Nat → Lexer → Lexer
  | 0, lx => lx
  | fuel + 1, lx =>
    let tabs := lx.inFlow || !lx.keyAllowed
    let c := lx.cursor.skipWhile fun ch => ch = ' ' || (tabs && ch = '\t')
    let c := if c.startsWith "#" then c.skipWhile (!isBreak ·) else c
    if c.atBreak then
      skipGaps fuel { lx with cursor := c.skipBreak, keyAllowed := lx.keyAllowed || !lx.inFlow }
    else { lx with cursor := c }

/-- The end of everything that belongs to a document: no block collection stays open, and no key
may begin. -/
def endDocument? (lx : Lexer) : Option Lexer := do
  let lx ← (lx.closeBlocks none).dropKey?
  some { lx with keyAllowed := false }

/-- A marker between documents. -/
def fetchMarker? (lx : Lexer) (token : Token) : Option Lexer := do
  let lx ← lx.endDocument?
  some (lx.emit token (lx.cursor.skip 3))

/-- The opening sign of a flow collection. -/
def fetchFlowStart? (lx : Lexer) (token : Token) : Option Lexer := do
  let lx ← lx.saveKey?
  let lx := lx.emit token (lx.cursor.skip 1)
  some { lx with
    keyStart := none, outerKeyStarts := lx.keyStart :: lx.outerKeyStarts, keyAllowed := true }

/-- The closing sign of a flow collection. -/
def fetchFlowEnd? (lx : Lexer) (token : Token) : Option Lexer := do
  let lx ← lx.dropKey?
  let lx := lx.emit token (lx.cursor.skip 1)
  let lx := match lx.outerKeyStarts with
    | [] => lx
    | start :: outer => { lx with keyStart := start, outerKeyStarts := outer }
  some { lx with keyAllowed := false }

/-- The comma of a flow collection. -/
def fetchFlowEntry? (lx : Lexer) : Option Lexer := do
  let lx ← lx.dropKey?
  some { lx.emit .flowEntry (lx.cursor.skip 1) with keyAllowed := true }

/-- The hyphen of a block sequence. -/
def fetchBlockEntry? (lx : Lexer) : Option Lexer := do
  if !lx.inFlow && !lx.keyAllowed then none
  let lx := lx.openBlock lx.cursor.column lx.tokens.size .blockSequenceStart
  let lx ← lx.dropKey?
  some { lx.emit .blockEntry (lx.cursor.skip 1) with keyAllowed := true }

/-- The question mark before a key. -/
def fetchKey? (lx : Lexer) : Option Lexer := do
  if !lx.inFlow && !lx.keyAllowed then none
  let lx := lx.openBlock lx.cursor.column lx.tokens.size .blockMappingStart
  let lx ← lx.dropKey?
  some { lx.emit .key (lx.cursor.skip 1) with keyAllowed := !lx.inFlow }

/-- The colon after a key. If a key began shortly before, it gets its token now, and perhaps a
block mapping begins with it. -/
def fetchValue? (lx : Lexer) : Option Lexer :=
  match lx.keyStart with
  | some start =>
    let lx := { lx with tokens := lx.tokens.insertIdxIfInBounds start.position .key, keyStart := none }
    let lx := lx.openBlock start.column start.position .blockMappingStart
    some { lx.emit .value (lx.cursor.skip 1) with keyAllowed := false }
  | none =>
    if !lx.inFlow && !lx.keyAllowed then none
    else
      let lx := lx.openBlock lx.cursor.column lx.tokens.size .blockMappingStart
      some { lx.emit .value (lx.cursor.skip 1) with keyAllowed := !lx.inFlow }

def fetchName? (lx : Lexer) (token : String → Token) : Option Lexer := do
  let lx ← lx.saveKey?
  let c := lx.cursor.skip 1
  let name := c.rest.takeWhile isNameChar
  let after := c.skip name.length
  let ends := after.gapAhead 0 ||
    after.aheadIs 0 (· ∈ ['?', ':', ',', ']', '\x7d', '%', '@', '\x60'])
  if name.isEmpty || !ends then none
  some { lx.emit (token (String.ofList name)) after with keyAllowed := false }

/-- The characters of a tag. Inside angle brackets and in directives the signs of flow
collections are among them. -/
def isTagChar (anyUri : Bool) (c : Char) : Bool :=
  isNameChar c || c ∈ ";/?:@&=+$.%!~*'()".toList || (anyUri && (c = ',' || c = '[' || c = ']'))

/-- The bytes that the escapes of a tag stand for, and its other characters as they are. -/
def tagBytes? : List Char → Option (List UInt8)
  | [] => some []
  | '%' :: a :: b :: rest => do
    let code ← Json.Reader.hexNumber? [a, b]
    let bytes ← tagBytes? rest
    some (UInt8.ofNat code :: bytes)
  | '%' :: _ => none
  | c :: rest => (tagBytes? rest).map (UInt8.ofNat c.toNat :: ·)

/-- Read the characters of a tag; `stem` is the part that has been read already. -/
def tagText? (anyUri : Bool) (stem : List Char) (c : Cursor) : Option (String × Cursor) := do
  let chars := c.rest.takeWhile (isTagChar anyUri)
  if stem.isEmpty && chars.isEmpty then none
  let bytes ← tagBytes? chars
  match Text.Utf8.decode bytes with
  | .error _ => none
  | .ok text => some (String.ofList (stem.drop 1) ++ text, c.skip chars.length)

/-- The handle at the front of a tag: an exclamation mark, or a name between two of them. -/
def tagHandle (c : Cursor) : List Char :=
  let name := (c.rest.drop 1).takeWhile isNameChar
  let closing := ((c.rest.drop 1).drop name.length).takeWhile (· = '!') |>.take 1
  '!' :: name ++ closing

/-- Handle and rest of a tag that is not given between angle brackets. -/
def shortTag? (c : Cursor) : Option (String × String × Cursor) := do
  let handle := tagHandle c
  let after := c.skip handle.length
  if 1 < handle.length && handle.getLast? = some '!' then
    let (suffix, after) ← tagText? false [] after
    some (String.ofList handle, suffix, after)
  else
    let (suffix, after) ← tagText? false handle after
    if suffix.isEmpty then some ("", "!", after) else some ("!", suffix, after)

def fetchTag? (lx : Lexer) : Option Lexer := do
  let lx ← lx.saveKey?
  let c := lx.cursor
  let (handle, suffix, after) ←
    if c.aheadIs 1 (· = '<') then do
      let (suffix, after) ← tagText? true [] (c.skip 2)
      if !after.startsWith ">" then none
      some ("", suffix, after.skip 1)
    else shortTag? c
  if !after.gapAhead 0 && !(lx.inFlow && after.startsWith ",") then none
  some { lx.emit (.tag handle suffix) after with keyAllowed := false }

def directiveNumber? (c : Cursor) : Option (Nat × Cursor) :=
  let digits := c.rest.takeWhile Text.isDigit
  if digits.isEmpty || 9 < digits.length then none
  else some (Text.digitsValue digits, c.skip digits.length)

def versionDirective? (c : Cursor) : Option (Token × Cursor) := do
  let (major, c) ← directiveNumber? (c.skipWhile isBlank)
  if !c.startsWith "." then none
  let (minor, c) ← directiveNumber? (c.skip 1)
  some (.versionDirective major minor, c)

def tagDirective? (c : Cursor) : Option (Token × Cursor) := do
  let c := c.skipWhile isBlank
  if !c.startsWith "!" then none
  let handle := tagHandle c
  if handle ≠ ['!'] && handle.getLast? ≠ some '!' then none
  let c := c.skip handle.length
  if !c.aheadIs 0 isBlank then none
  let (stem, c) ← tagText? true [] (c.skipWhile isBlank)
  if !c.gapAhead 0 then none
  some (.tagDirective (String.ofList handle) stem, c)

def fetchDirective? (lx : Lexer) : Option Lexer := do
  let lx ← lx.endDocument?
  let c := lx.cursor.skip 1
  let name := c.rest.takeWhile isNameChar
  let c := c.skip name.length
  if !c.gapAhead 0 then none
  let (token, c) ←
    if name = "YAML".toList then versionDirective? c
    else if name = "TAG".toList then tagDirective? c
    else none
  let c := c.skipToLineEnd
  if !(c.atEnd || c.atBreak) then none
  some (lx.emit token c.skipBreak)

def fetchQuoted? (lx : Lexer) (style : Style) (quote : Char) : Option Lexer := do
  let lx ← lx.saveKey?
  let (text, after) ← quoted? quote lx.cursor
  some { lx.emit (.scalar style text) after with keyAllowed := false }

def fetchBlock? (lx : Lexer) (style : Style) : Option Lexer := do
  let lx ← lx.dropKey?
  let (text, after) ← block? (style = .folded) lx.indent lx.cursor
  some { lx.emit (.scalar style text) after with keyAllowed := true }

def fetchPlain? (lx : Lexer) : Option Lexer := do
  let lx ← lx.saveKey?
  let indent := match lx.indent with
    | none => 0
    | some n => n + 1
  let p ← plain? lx.inFlow indent lx.cursor
  some { lx.emit (.scalar .plain p.text) p.cursor with keyAllowed := p.crossedLine }

/-- The characters with which no plain scalar begins, except the three that may if something
follows them. -/
def isIndicator (c : Char) : Bool :=
  c ∈ "-?:,[]\x7b\x7d#&*!|>'\"%@\x60".toList

def plainStarts (lx : Lexer) : Bool :=
  let c := lx.cursor
  !(c.gapAhead 0 || c.aheadIs 0 isIndicator) ||
    (c.startsWith "-" && !c.aheadIs 1 isBlank) ||
    (!lx.inFlow && (c.startsWith "?" || c.startsWith ":") && !c.gapAhead 1)

/-- Cut off the token at the cursor. -/
def fetch? (lx : Lexer) : Option Lexer :=
  let c := lx.cursor
  match c.rest with
  | [] => none
  | ch :: _ =>
    if c.column = 0 && ch = '%' then lx.fetchDirective?
    else if c.column = 0 && c.startsWith "---" && c.gapAhead 3 then lx.fetchMarker? .documentStart
    else if c.column = 0 && c.startsWith "..." && c.gapAhead 3 then lx.fetchMarker? .documentEnd
    else match ch with
      | '[' => lx.fetchFlowStart? .flowSequenceStart
      | '\x7b' => lx.fetchFlowStart? .flowMappingStart
      | ']' => lx.fetchFlowEnd? .flowSequenceEnd
      | '\x7d' => lx.fetchFlowEnd? .flowMappingEnd
      | ',' => lx.fetchFlowEntry?
      | '*' => lx.fetchName? .alias
      | '&' => lx.fetchName? .anchor
      | '!' => lx.fetchTag?
      | '\'' => lx.fetchQuoted? .singleQuoted '\''
      | '"' => lx.fetchQuoted? .doubleQuoted '"'
      | ch =>
        if ch = '-' && c.gapAhead 1 then lx.fetchBlockEntry?
        else if ch = '?' && (lx.inFlow || c.gapAhead 1) then lx.fetchKey?
        else if ch = ':' && (lx.inFlow || c.gapAhead 1) then lx.fetchValue?
        else if ch = '|' && !lx.inFlow then lx.fetchBlock? .literal
        else if ch = '>' && !lx.inFlow then lx.fetchBlock? .folded
        else if lx.plainStarts then lx.fetchPlain?
        else none

/-- The end of the text: the line ends as well, and all block collections are closed. -/
def finish? (lx : Lexer) : Option Lexer := lx.endDocument?

/-- Cut off tokens until the end of the text. Every token takes at least one character, so their
number is bounded by the length of the text. -/
def run? : Nat → Lexer → Option Lexer
  | 0, _ => none
  | fuel + 1, lx => do
    let lx ← (skipGaps (lx.cursor.rest.length + 1) lx).dropStale?
    let lx := lx.closeBlocks (some lx.cursor.column)
    if lx.cursor.atEnd then lx.finish? else run? fuel (← lx.fetch?)

end Lexer

/-- The tokens of a text. A byte order mark at the very beginning is skipped. -/
def tokens? (s : String) : Option (List Token) :=
  let chars := match s.toList with
    | '\uFEFF' :: rest => rest
    | cs => cs
  if !chars.all isAllowed then none
  else (Lexer.run? (chars.length + 1) { cursor := { rest := chars } }).map (·.tokens.toList)

end FloatingAddress.Yaml
