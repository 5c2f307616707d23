import TriggerLedger.Text.Unseen
/-!
# Strings shown in messages

A string inside a message is quoted, and characters that would not be seen are
written as escapes.
-/

namespace TriggerLedger.Text

/-- A code point in lower-case hexadecimal digits. -/
def hexadecimal (value : Nat) : String :=
  String.ofList (Nat.toDigits 16 value)

/-- A character as it is shown between quotes. -/
def inspectChar (c : Char) : String :=
  match c with
  | '\x00' => "\\0"
  | '\t' => "\\t"
  | '\n' => "\\n"
  | '\r' => "\\r"
  | '"' => "\\\""
  | '\\' => "\\\\"
  | c =>
    if 0x20 ≤ c.toNat ∧ c.toNat < 0x7f then c.toString
    else if isUnseen c then "\\u\x7b" ++ hexadecimal c.toNat ++ "\x7d"
    else c.toString

def inspect (text : String) : String :=
  "\"" ++ String.join (text.toList.map inspectChar) ++ "\""

end TriggerLedger.Text
