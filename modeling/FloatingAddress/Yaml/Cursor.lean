/-!
# A position in a YAML text

YAML is sensitive to columns, so reading keeps track of where it is. A cursor is what is left of
the text together with its position. The five line breaks of YAML are the line feed, the carriage
return, both together, the next-line character and the two Unicode separators.
-/

namespace FloatingAddress.Yaml

def isBreak (c : Char) : Bool :=
  c = '\n' || c = '\r' || c = '\u0085' || c = '\u2028' || c = '\u2029'

/-- A space or a tab. -/
def isBlank (c : Char) : Bool := c = ' ' || c = '\t'

/-- The characters of names: ASCII letters and digits, the underscore and the hyphen. -/
def isNameChar (c : Char) : Bool := c.isAlphanum || c = '_' || c = '-'

/-- Whether a text may hold a character at all: controls, the byte order mark inside a text, and
noncharacters are refused. -/
def isAllowed (c : Char) : Bool :=
  let n := c.toNat
  n = 0x09 || n = 0x0A || n = 0x0D || (0x20 ≤ n && n ≤ 0x7E) || n = 0x85 ||
    (0xA0 ≤ n && n ≤ 0xFFFD && n ≠ 0xFEFF) || 0x10000 ≤ n

/-- What is left of a text, and where that is. -/
structure Cursor where
  rest : List Char
  index : Nat := 0
  line : Nat := 0
  column : Nat := 0

namespace Cursor

/-- Go on by some characters within the line. -/
def skip (c : Cursor) (n : Nat) : Cursor :=
  { c with rest := c.rest.drop n, index := c.index + n, column := c.column + n }

/-- Go on as long as the characters have a property. -/
def skipWhile (c : Cursor) (p : Char → Bool) : Cursor := c.skip (c.rest.takeWhile p).length

/-- Go on to the next line; the text is at a line break. -/
def skipBreak (c : Cursor) : Cursor :=
  match c.rest with
  | '\r' :: '\n' :: rest => { rest, index := c.index + 2, line := c.line + 1 }
  | _ :: rest => { rest, index := c.index + 1, line := c.line + 1 }
  | [] => c

/-- What a line break at the front contributes to a text: a line feed, or one of the two Unicode
separators as it is. -/
def breakText (c : Cursor) : List Char :=
  match c.rest with
  | '\u2028' :: _ => ['\u2028']
  | '\u2029' :: _ => ['\u2029']
  | _ => ['\n']

/-- The character some places ahead. -/
def ahead (c : Cursor) (n : Nat) : Option Char := c.rest[n]?

/-- Whether the character some places ahead has a property. -/
def aheadIs (c : Cursor) (n : Nat) (p : Char → Bool) : Bool := (c.ahead n).any p

def atEnd (c : Cursor) : Bool := c.rest.isEmpty

def atBreak (c : Cursor) : Bool := c.aheadIs 0 isBreak

/-- Whether a blank, a line break or the end stands some places ahead. -/
def gapAhead (c : Cursor) (n : Nat) : Bool :=
  match c.ahead n with
  | none => true
  | some ch => isBlank ch || isBreak ch

def startsWith (c : Cursor) (s : String) : Bool := s.toList.isPrefixOf c.rest

/-- Whether a line begins here with a marker that separates documents. -/
def atDocumentMarker (c : Cursor) : Bool :=
  c.column = 0 && (c.startsWith "---" || c.startsWith "...") && c.gapAhead 3

/-- Skip blanks and a comment, up to the end of the line. -/
def skipToLineEnd (c : Cursor) : Cursor :=
  let c := c.skipWhile isBlank
  if c.startsWith "#" then c.skipWhile (!isBreak ·) else c

end Cursor

end FloatingAddress.Yaml
