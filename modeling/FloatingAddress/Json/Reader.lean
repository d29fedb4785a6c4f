import FloatingAddress.Json.Basic
import FloatingAddress.Text.Decimal

/-!
# Reading JSON

A document is one value with nothing but blanks around it. The reader is strict: no superfluous
zeros, no bare control characters, surrogates only in pairs, and at most 127 arrays and objects
inside one another.
-/

namespace FloatingAddress.Json.Reader

/-- The characters that may stand between tokens. -/
def isGap (c : Char) : Bool := c = ' ' || c = '\n' || c = '\t' || c = '\r'

def skipGaps (cs : List Char) : List Char := cs.dropWhile isGap

def hexValue? (c : Char) : Option Nat :=
  if Text.isDigit c then some (Text.digitValue c)
  else if 'a' ≤ c && c ≤ 'f' then some (c.toNat - 'a'.toNat + 10)
  else if 'A' ≤ c && c ≤ 'F' then some (c.toNat - 'A'.toNat + 10)
  else none

/-- The number that hexadecimal digits write. -/
def hexNumber? (digits : List Char) : Option Nat :=
  digits.foldlM (fun n c => (hexValue? c).map (n * 16 + ·)) 0

/-- The character that a short escape stands for. -/
def shortEscape? : Char → Option Char
  | '"' => some '"'
  | '\\' => some '\\'
  | '/' => some '/'
  | 'b' => some '\x08'
  | 'f' => some '\x0C'
  | 'n' => some '\n'
  | 'r' => some '\r'
  | 't' => some '\t'
  | _ => none

/-- Read the rest of a text, up to its closing quote. The characters read so far come last
first. -/
def text? (read : List Char) : List Char → Option (String × List Char)
  | [] => none
  | '"' :: rest => some (String.ofList read.reverse, rest)
  | '\\' :: 'u' :: a :: b :: c :: d :: rest => do
    let high ← hexNumber? [a, b, c, d]
    if high < 0xD800 || 0xDFFF < high then text? (Char.ofNat high :: read) rest
    else if 0xDBFF < high then none
    else match rest with
      | '\\' :: 'u' :: a :: b :: c :: d :: rest => do
        let low ← hexNumber? [a, b, c, d]
        if low < 0xDC00 || 0xDFFF < low then none
        else
          let code := 0x10000 + (high - 0xD800) * 0x400 + (low - 0xDC00)
          text? (Char.ofNat code :: read) rest
      | _ => none
  | '\\' :: c :: rest => do
    let c ← shortEscape? c
    text? (c :: read) rest
  | c :: rest => if c.toNat < 0x20 then none else text? (c :: read) rest

/-- Split off the digits at the front. -/
def digits (cs : List Char) : List Char × List Char := cs.span Text.isDigit

/-- The fraction of a number, its point included. -/
def fraction? (cs : List Char) : Option (List Char × List Char) :=
  match cs with
  | '.' :: rest =>
    let (ds, rest) := digits rest
    if ds.isEmpty then none else some ('.' :: ds, rest)
  | _ => some ([], cs)

/-- The exponent of a number, its mark included. -/
def exponent? (cs : List Char) : Option (List Char × List Char) :=
  match cs with
  | mark :: rest =>
    if mark = 'e' || mark = 'E' then
      let (sign, rest) := match rest with
        | '+' :: rest => (['+'], rest)
        | '-' :: rest => (['-'], rest)
        | rest => ([], rest)
      let (ds, rest) := digits rest
      if ds.isEmpty then none else some (mark :: sign ++ ds, rest)
    else some ([], cs)
  | [] => some ([], [])

/-- Whether a whole number fits into 64 bits, with or without a sign. -/
def fitsWord (n : Int) : Bool := -0x8000000000000000 ≤ n && n < 0x10000000000000000

def number? (cs : List Char) : Option (Json × List Char) := do
  let (negative, rest) := match cs with
    | '-' :: rest => (true, rest)
    | rest => (false, rest)
  let (ds, rest) := digits rest
  if ds.isEmpty || (ds.head? = some '0' && 1 < ds.length) then none
  let (frac, rest) ← fraction? rest
  let (exp, rest) ← exponent? rest
  let magnitude : Int := Text.digitsValue ds
  let value := if negative then -magnitude else magnitude
  let isWhole := frac.isEmpty && exp.isEmpty && fitsWord value && !(negative && value = 0)
  if isWhole then some (.int value, rest)
  else
    let sign := if negative then ['-'] else []
    some (.real (String.ofList (sign ++ ds ++ frac ++ exp)), rest)

/-- Read the elements of an array up to its closing bracket. The number bounds how many there
can be. -/
def elements? (value? : List Char → Option (Json × List Char)) (read : List Json) :
    Nat → List Char → Option (List Json × List Char)
  | 0, _ => none
  | room + 1, cs => do
    let (item, rest) ← value? (skipGaps cs)
    match skipGaps rest with
    | ',' :: rest => elements? value? (item :: read) room rest
    | ']' :: rest => some ((item :: read).reverse, rest)
    | _ => none

/-- Read the fields of an object up to its closing brace. The number bounds how many there can
be. -/
def fields? (value? : List Char → Option (Json × List Char)) (read : List (String × Json)) :
    Nat → List Char → Option (List (String × Json) × List Char)
  | 0, _ => none
  | room + 1, cs =>
    match skipGaps cs with
    | '"' :: rest => do
      let (name, rest) ← text? [] rest
      match skipGaps rest with
      | ':' :: rest => do
        let (value, rest) ← value? (skipGaps rest)
        match skipGaps rest with
        | ',' :: rest => fields? value? ((name, value) :: read) room rest
        | '\x7d' :: rest => some (((name, value) :: read).reverse, rest)
        | _ => none
      | _ => none
    | _ => none

/-- Read a value from the front of a text. The number is how many arrays and objects may still
be opened inside one another. -/
def value? (depth : Nat) (cs : List Char) : Option (Json × List Char) :=
  match cs with
  | 'n' :: 'u' :: 'l' :: 'l' :: rest => some (.null, rest)
  | 't' :: 'r' :: 'u' :: 'e' :: rest => some (.bool true, rest)
  | 'f' :: 'a' :: 'l' :: 's' :: 'e' :: rest => some (.bool false, rest)
  | '"' :: rest => (text? [] rest).map fun (s, rest) => (.str s, rest)
  | '[' :: rest =>
    match depth with
    | 0 => none
    | depth + 1 =>
      match skipGaps rest with
      | ']' :: rest => some (.arr [], rest)
      | rest => (elements? (value? depth) [] rest.length rest).map fun (items, rest) =>
          (.arr items, rest)
  | '\x7b' :: rest =>
    match depth with
    | 0 => none
    | depth + 1 =>
      match skipGaps rest with
      | '\x7d' :: rest => some (.obj [], rest)
      | rest => (fields? (value? depth) [] rest.length rest).map fun (fields, rest) =>
          (ofFields fields, rest)
  | cs => number? cs

/-- How many arrays and objects may be open at once. -/
def maxDepth : Nat := 127

end FloatingAddress.Json.Reader

namespace FloatingAddress.Json

def ofText? (s : String) : Option Json :=
  match Reader.value? Reader.maxDepth (Reader.skipGaps s.toList) with
  | some (value, rest) => if (Reader.skipGaps rest).isEmpty then some value else none
  | none => none

end FloatingAddress.Json
