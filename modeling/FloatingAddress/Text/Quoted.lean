import FloatingAddress.Text.Printable

/-!
# Quoted texts in messages

A message that shows a value taken from outside puts it between double quotes. The quote, the
backslash, the tab, the line breaks and the null character have a short escape; any other
character that is not printable is written by its number, so two different values never look
alike.
-/

namespace FloatingAddress.Text

/-- Lower-case hexadecimal digits of a number, without leading zeros. -/
def hexDigits (n : Nat) : String := String.ofList (Nat.toDigits 16 n)

/-- How one character appears between the quotes. -/
def quoteChar (c : Char) : String :=
  match c with
  | '"' => "\\\""
  | '\\' => "\\\\"
  | '\t' => "\\t"
  | '\n' => "\\n"
  | '\r' => "\\r"
  | '\x00' => "\\0"
  | c => if isPrintable c then c.toString else "\\u\x7b" ++ hexDigits c.toNat ++ "\x7d"

/-- A text between double quotes, with everything escaped that would not be visible. -/
def quote (s : String) : String :=
  "\"" ++ String.join (s.toList.map quoteChar) ++ "\""

/-- An optional value shown together with the fact whether it is there. -/
def showOption (render : α → String) : Option α → String
  | none => "None"
  | some a => "Some(" ++ render a ++ ")"

/-- A list shown between brackets, its elements separated by commas. -/
def showList (render : α → String) (as : List α) : String :=
  "[" ++ ", ".intercalate (as.map render) ++ "]"

end FloatingAddress.Text
