import FloatingAddress.Json.Reader
import FloatingAddress.Yaml.Cursor

/-!
# The texts of YAML scalars

A scalar is a piece of text in one of five styles. Inside quoted and plain scalars a single line
break is read as a space and further ones as line feeds; folded blocks do the same between lines
of equal indentation, and literal blocks keep their line breaks.

Every reader here takes the cursor at the beginning of the scalar and gives the text with the
cursor behind it, or nothing if the text is not well formed.
-/

namespace FloatingAddress.Yaml

inductive Style
  | plain | singleQuoted | doubleQuoted | literal | folded
deriving DecidableEq, Repr

/-- The blanks and line breaks between two pieces of a scalar. -/
structure Gap where
  /-- Blanks before the first line break. -/
  blanks : List Char := []
  /-- The first line break, once there is one. -/
  first : Option (List Char) := none
  /-- The line breaks after the first. -/
  more : List Char := []

namespace Gap

/-- What a gap contributes to the text: a line break counts as a space unless more of them
follow. -/
def text (gap : Gap) : List Char :=
  match gap.first with
  | none => gap.blanks
  | some ['\n'] => if gap.more.isEmpty then [' '] else gap.more
  | some lineBreak => lineBreak ++ gap.more

/-- Read a gap. Below the column `limit`, a tab at the beginning of a line is refused. -/
def read (limit : Nat) (gap : Gap) : Nat → Cursor → Option (Gap × Cursor)
  | 0, c => some (gap, c)
  | fuel + 1, c =>
    match c.rest with
    | [] => some (gap, c)
    | ch :: _ =>
      if isBlank ch then
        if gap.first.isNone then read limit { gap with blanks := gap.blanks ++ [ch] } fuel (c.skip 1)
        else if ch = '\t' && c.column < limit then none
        else read limit gap fuel (c.skip 1)
      else if isBreak ch then
        match gap.first with
        | none => read limit { gap with first := some c.breakText } fuel c.skipBreak
        | some _ => read limit { gap with more := gap.more ++ c.breakText } fuel c.skipBreak
      else some (gap, c)

end Gap

/-- The character of a simple escape in a double-quoted scalar. -/
def escaped? : Char → Option Char
  | '0' => some '\x00'
  | 'a' => some '\x07'
  | 'b' => some '\x08'
  | 't' => some '\t'
  | '\t' => some '\t'
  | 'n' => some '\n'
  | 'v' => some '\x0B'
  | 'f' => some '\x0C'
  | 'r' => some '\r'
  | 'e' => some '\x1B'
  | ' ' => some ' '
  | '"' => some '"'
  | '/' => some '/'
  | '\\' => some '\\'
  | 'N' => some '\u0085'
  | '_' => some '\u00A0'
  | 'L' => some '\u2028'
  | 'P' => some '\u2029'
  | _ => none

/-- The number of hexadecimal digits after an escape that gives a character by its number. -/
def escapeDigits? : Char → Option Nat
  | 'x' => some 2
  | 'u' => some 4
  | 'U' => some 8
  | _ => none

def charOfCode? (n : Nat) : Option Char :=
  if n < 0xD800 || (0xDFFF < n && n ≤ 0x10FFFF) then some (Char.ofNat n) else none

/-- Read the escape after a backslash: the character, and the length of the escape without the
backslash. -/
def escape? (rest : List Char) : Option (Char × Nat) :=
  match rest with
  | [] => none
  | mark :: rest =>
    match escapeDigits? mark with
    | none => (escaped? mark).map (·, 1)
    | some n =>
      if (rest.take n).length < n then none
      else do
        let code ← Json.Reader.hexNumber? (rest.take n)
        let ch ← charOfCode? code
        some (ch, n + 1)

/-- Why the reading of a piece of a quoted scalar stopped. -/
inductive Stop
  /-- The closing quote is next. -/
  | quote
  /-- A gap is next. -/
  | gap
  /-- The line break was escaped and is gone. -/
  | joined

/-- Read a piece of a quoted scalar without gaps. The characters read come last first. -/
def quotedPiece (quote : Char) (read : List Char) :
    Nat → Cursor → Option (List Char × Stop × Cursor)
  | 0, _ => none
  | fuel + 1, c =>
    if c.gapAhead 0 then some (read, .gap, c)
    else match c.rest with
      | [] => none
      | ch :: rest =>
        if quote = '\'' && ch = '\'' && rest.head? = some '\'' then
          quotedPiece quote ('\'' :: read) fuel (c.skip 2)
        else if ch = quote then some (read, .quote, c)
        else if quote = '"' && ch = '\\' then
          if rest.head?.any isBreak then some (read, .joined, (c.skip 1).skipBreak)
          else match escape? rest with
            | none => none
            | some (e, n) => quotedPiece quote (e :: read) fuel (c.skip (n + 1))
        else quotedPiece quote (ch :: read) fuel (c.skip 1)

/-- Read the pieces of a quoted scalar and the gaps between them. -/
def quotedPieces (quote : Char) (read : List Char) :
    Nat → Cursor → Option (String × Cursor)
  | 0, _ => none
  | fuel + 1, c =>
    if c.atDocumentMarker || c.atEnd then none
    else match quotedPiece quote read (c.rest.length + 1) c with
      | none => none
      | some (read, stop, c) =>
        match stop with
        | .quote => some (String.ofList read.reverse, c.skip 1)
        | _ =>
          let gap : Gap := match stop with
            | .joined => { first := some [] }
            | _ => {}
          match Gap.read 0 gap c.rest.length c with
          | none => none
          | some (gap, c) => quotedPieces quote (gap.text.reverse ++ read) fuel c

def quoted? (quote : Char) (c : Cursor) : Option (String × Cursor) :=
  quotedPieces quote [] (c.rest.length + 1) (c.skip 1)

/-- The indicators of flow collections. -/
def isFlowIndicator (c : Char) : Bool := c = ',' || c = '[' || c = ']' || c = '\x7b' || c = '\x7d'

/-- Whether a colon inside a flow collection stands where it can neither belong to a plain scalar
nor separate it from a value. -/
def misplacedColon (inFlow : Bool) (c : Cursor) : Bool :=
  inFlow && c.startsWith ":" && c.aheadIs 1 fun ch => isFlowIndicator ch || ch = '?'

def plainEnds (inFlow : Bool) (c : Cursor) : Bool :=
  (c.startsWith ":" && c.gapAhead 1) || (inFlow && c.aheadIs 0 isFlowIndicator)

/-- Read a piece of a plain scalar without gaps. The characters read come last first. -/
def plainPiece (inFlow : Bool) (read : List Char) :
    Nat → Cursor → Option (List Char × Cursor)
  | 0, c => some (read, c)
  | fuel + 1, c =>
    match c.rest with
    | [] => some (read, c)
    | ch :: _ =>
      if c.gapAhead 0 then some (read, c)
      else if misplacedColon inFlow c then none
      else if plainEnds inFlow c then some (read, c)
      else plainPiece inFlow (ch :: read) fuel (c.skip 1)

/-- A plain scalar and what follows it. -/
structure PlainText where
  text : String
  /-- Whether the cursor stands on a later line than the end of the text. -/
  crossedLine : Bool
  cursor : Cursor

/-- Read the pieces of a plain scalar and the gaps between them. The characters read come last
first, and `gap` is what lies between them and the cursor. Outside flow collections the scalar
ends with the first line that is indented less than `indent`. -/
def plainPieces (inFlow : Bool) (indent : Nat) (read : List Char) (gap : Gap) :
    Nat → Cursor → Option PlainText
  | 0, _ => none
  | fuel + 1, c =>
    let finish (read : List Char) (gap : Gap) (c : Cursor) : Option PlainText :=
      some { text := String.ofList read.reverse, crossedLine := gap.first.isSome, cursor := c }
    if c.atDocumentMarker || c.startsWith "#" then finish read gap c
    else match plainPiece inFlow [] c.rest.length c with
      | none => none
      | some ([], _) => finish read gap c
      | some (piece, after) =>
        let read := piece ++ gap.text.reverse ++ read
        if after.atEnd || !after.gapAhead 0 then finish read {} after
        else match Gap.read indent {} after.rest.length after with
          | none => none
          | some (gap, next) =>
            if !inFlow && next.column < indent then finish read gap next
            else plainPieces inFlow indent read gap fuel next

def plain? (inFlow : Bool) (indent : Nat) (c : Cursor) : Option PlainText :=
  plainPieces inFlow indent [] {} (c.rest.length + 1) c

/-- What happens to the line breaks at the end of a block scalar. -/
inductive Chomping
  /-- All of them are dropped. -/
  | strip
  /-- The first one is kept. -/
  | clip
  /-- All of them are kept. -/
  | keep

/-- The signs after the indicator of a block scalar. -/
structure BlockHeader where
  chomping : Chomping := .clip
  /-- How much deeper than its surroundings the text is indented, unless this is to be seen from
  the text. -/
  deeper : Option Nat := none

def chompingOf? : Char → Option Chomping
  | '+' => some .keep
  | '-' => some .strip
  | _ => none

/-- Read the signs after the indicator of a block scalar, in either order. -/
def blockHeader? (c : Cursor) : Option (BlockHeader × Cursor) :=
  match c.rest with
  | [] => some ({}, c)
  | first :: rest =>
    match chompingOf? first with
    | some chomping =>
      match rest.head?.filter Char.isDigit with
      | some '0' => none
      | some d => some ({ chomping, deeper := some (d.toNat - '0'.toNat) }, c.skip 2)
      | none => some ({ chomping }, c.skip 1)
    | none =>
      if first = '0' then none
      else if first.isDigit then
        let deeper := some (first.toNat - '0'.toNat)
        match rest.head?.bind chompingOf? with
        | some chomping => some ({ chomping, deeper }, c.skip 2)
        | none => some ({ deeper }, c.skip 1)
      else some ({}, c)

/-- Skip the indentation of a block line, but no more than `indent` columns if that is given. -/
def skipIndent (indent : Option Nat) (c : Cursor) : Cursor :=
  let spaces := (c.rest.takeWhile (· = ' ')).length
  match indent with
  | none => c.skip spaces
  | some n => c.skip (min spaces (n - c.column))

/-- Skip the empty lines before a line of a block scalar. The results are the greatest column that
was reached, the line breaks, and the cursor. A tab in the indentation is refused. -/
def emptyLines (indent : Option Nat) (deepest : Nat) (breaks : List Char) :
    Nat → Cursor → Option (Nat × List Char × Cursor)
  | 0, c => some (deepest, breaks, c)
  | fuel + 1, c =>
    let c := skipIndent indent c
    let deepest := max deepest c.column
    let inIndent := match indent with
      | none => true
      | some n => c.column < n
    if inIndent && c.aheadIs 0 (· = '\t') then none
    else if c.atBreak then emptyLines indent deepest (breaks ++ c.breakText) fuel c.skipBreak
    else some (deepest, breaks, c)

/-- What has been read of a block scalar: the lines so far, last character first, the break that
ended the last line, and the empty lines after it. -/
structure BlockText where
  read : List Char := []
  lineBreak : List Char := []
  breaks : List Char := []
  /-- Whether the last line began with a blank. -/
  blankBefore : Bool := false

/-- The text so far, with everything that precedes the next line. In a folded block a single line
break between two lines that do not begin with a blank counts as a space. -/
def BlockText.joined (folded : Bool) (t : BlockText) (blankNow : Bool) : List Char :=
  let between :=
    if folded && t.lineBreak = ['\n'] && !t.blankBefore && !blankNow then
      if t.breaks.isEmpty then [' '] else t.breaks
    else t.lineBreak ++ t.breaks
  between.reverse ++ t.read

def blockLines (folded : Bool) (indent : Nat) (t : BlockText) :
    Nat → Cursor → Option (BlockText × Cursor)
  | 0, c => some (t, c)
  | fuel + 1, c =>
    if c.column ≠ indent || c.atEnd then some (t, c)
    else
      let blankNow := c.aheadIs 0 isBlank
      let line := c.rest.takeWhile (!isBreak ·)
      let read := line.reverse ++ t.joined folded blankNow
      let c := c.skip line.length
      let (lineBreak, c) := if c.atEnd then ([], c) else (c.breakText, c.skipBreak)
      match emptyLines (some indent) 0 [] (c.rest.length + 1) c with
      | none => none
      | some (_, breaks, c) =>
        blockLines folded indent { read, lineBreak, breaks, blankBefore := blankNow } fuel c

/-- Read a block scalar inside a node that is indented by `outer` columns, if it is indented at
all. -/
def block? (folded : Bool) (outer : Option Nat) (c : Cursor) : Option (String × Cursor) := do
  let (header, c) ← blockHeader? (c.skip 1)
  let c := c.skipToLineEnd
  if !(c.atEnd || c.atBreak) then none
  let c := c.skipBreak
  let indent := header.deeper.map (outer.getD 0 + ·)
  let (deepest, breaks, c) ← emptyLines indent 0 [] (c.rest.length + 1) c
  let least := match outer with
    | none => 1
    | some n => n + 1
  let indent := indent.getD (max deepest least)
  let (t, c) ← blockLines folded indent { breaks } (c.rest.length + 1) c
  let ending := match header.chomping with
    | .strip => []
    | .clip => t.lineBreak
    | .keep => t.lineBreak ++ t.breaks
  some (String.ofList (t.read.reverse ++ ending), c)

end FloatingAddress.Yaml
