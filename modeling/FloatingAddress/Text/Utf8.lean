/-!
# Bytes as UTF-8 text

Secrets and the output of commands arrive as bytes. `decode` accepts exactly the well-formed
sequences of the standard (shortest form, no surrogates, nothing above U+10FFFF) and tells where
the first fault lies; `decodeLossy` replaces every maximal ill-formed part by U+FFFD instead.
Both walk over the bytes with the same `step`.
-/

namespace FloatingAddress.Text.Utf8

/-- Where and how a sequence of bytes stops being UTF-8. -/
inductive Fault
  /-- `length` bytes from `index` on begin no character. -/
  | invalid (length index : Nat)
  /-- The bytes end inside the character that starts at `index`. -/
  | incomplete (index : Nat)
deriving DecidableEq, Repr

def Fault.message : Fault → String
  | .invalid length index => s!"invalid utf-8 sequence of {length} bytes from index {index}"
  | .incomplete index => s!"incomplete utf-8 byte sequence from index {index}"

/-- What the front of a sequence of bytes holds. -/
inductive Front
  /-- A character, and how many bytes after the first belong to it. -/
  | char (c : Char) (more : Nat)
  /-- No character; the first byte and `more` further ones are to be given up together. -/
  | invalid (more : Nat)
  /-- The beginning of a character whose remaining bytes are missing. -/
  | incomplete

/-- Whether a byte continues a character. -/
def isContinuation (b : UInt8) : Bool := 0x80 ≤ b && b ≤ 0xBF

/-- The bytes allowed after a first byte that opens a character of three bytes. -/
def secondOfThree (first second : UInt8) : Bool :=
  if first = 0xE0 then 0xA0 ≤ second && second ≤ 0xBF
  else if first = 0xED then 0x80 ≤ second && second ≤ 0x9F
  else isContinuation second

/-- The bytes allowed after a first byte that opens a character of four bytes. -/
def secondOfFour (first second : UInt8) : Bool :=
  if first = 0xF0 then 0x90 ≤ second && second ≤ 0xBF
  else if first = 0xF4 then 0x80 ≤ second && second ≤ 0x8F
  else isContinuation second

/-- The six bits that a continuation byte carries. -/
def payload (b : UInt8) : Nat := b.toNat % 64

/-- Look at the character that starts with `first`. -/
def front (first : UInt8) (rest : List UInt8) : Front :=
  if first < 0x80 then .char (Char.ofNat first.toNat) 0
  else if 0xC2 ≤ first && first ≤ 0xDF then
    match rest with
    | [] => .incomplete
    | b :: _ =>
      if isContinuation b then .char (Char.ofNat (first.toNat % 32 * 64 + payload b)) 1
      else .invalid 0
  else if 0xE0 ≤ first && first ≤ 0xEF then
    match rest with
    | [] => .incomplete
    | b :: rest =>
      if !secondOfThree first b then .invalid 0
      else match rest with
        | [] => .incomplete
        | c :: _ =>
          if isContinuation c then
            .char (Char.ofNat ((first.toNat % 16 * 64 + payload b) * 64 + payload c)) 2
          else .invalid 1
  else if 0xF0 ≤ first && first ≤ 0xF4 then
    match rest with
    | [] => .incomplete
    | b :: rest =>
      if !secondOfFour first b then .invalid 0
      else match rest with
        | [] => .incomplete
        | c :: rest =>
          if !isContinuation c then .invalid 1
          else match rest with
            | [] => .incomplete
            | d :: _ =>
              if isContinuation d then
                .char (Char.ofNat
                  (((first.toNat % 8 * 64 + payload b) * 64 + payload c) * 64 + payload d)) 3
              else .invalid 2
  else .invalid 0

/-- Read bytes from position `index` on as characters. -/
def decodeFrom (index : Nat) (bytes : List UInt8) : Except Fault (List Char) :=
  match bytes with
  | [] => .ok []
  | b :: rest =>
    match front b rest with
    | .char c more => (decodeFrom (index + more + 1) (rest.drop more)).map (c :: ·)
    | .invalid more => .error (.invalid (more + 1) index)
    | .incomplete => .error (.incomplete index)
termination_by bytes.length
decreasing_by simp only [List.length_drop, List.length_cons]; omega

/-- The text that well-formed bytes write, or the first fault. -/
def decode (bytes : List UInt8) : Except Fault String :=
  (decodeFrom 0 bytes).map String.ofList

/-- The characters of a sequence of bytes, with U+FFFD for every maximal ill-formed part. -/
def lossyChars (bytes : List UInt8) : List Char :=
  match bytes with
  | [] => []
  | b :: rest =>
    match front b rest with
    | .char c more => c :: lossyChars (rest.drop more)
    | .invalid more => '\uFFFD' :: lossyChars (rest.drop more)
    | .incomplete => ['\uFFFD']
termination_by bytes.length
decreasing_by all_goals simp only [List.length_drop, List.length_cons]; omega

/-- The text of a sequence of bytes, with U+FFFD for every maximal ill-formed part. -/
def decodeLossy (bytes : List UInt8) : String := String.ofList (lossyChars bytes)

end FloatingAddress.Text.Utf8
