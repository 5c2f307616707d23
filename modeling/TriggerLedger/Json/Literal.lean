/-!
# String literals

A string literal is kept as it is written between its quotes: `scan` finds its
end and checks its escapes one by one, `unescape` gives the characters it stands
for, and `escape` writes characters so that `unescape` gives them back.
-/

namespace TriggerLedger.Json.Literal

/-- The value of a hexadecimal digit. -/
def hexDigit? (c : Char) : Option Nat :=
  if '0' ≤ c ∧ c ≤ '9' then some (c.toNat - '0'.toNat)
  else if 'a' ≤ c ∧ c ≤ 'f' then some (c.toNat - 'a'.toNat + 10)
  else if 'A' ≤ c ∧ c ≤ 'F' then some (c.toNat - 'A'.toNat + 10)
  else none

/-- The value of four hexadecimal digits. -/
def hexUnit? (a b c d : Char) : Option Nat := do
  let a ← hexDigit? a
  let b ← hexDigit? b
  let c ← hexDigit? c
  let d ← hexDigit? d
  return ((a * 16 + b) * 16 + c) * 16 + d

/-- The character that a one-letter escape stands for. -/
def shortEscape? : Char → Option Char
  | '"' => some '"'
  | '\\' => some '\\'
  | '/' => some '/'
  | 'b' => some '\x08'
  | 'f' => some '\x0c'
  | 'n' => some '\n'
  | 'r' => some '\r'
  | 't' => some '\t'
  | _ => none

/-- Scan to the closing quote, where `seen` holds the raw characters so far in reverse. -/
def scanFrom (seen : List Char) : List Char → Option (List Char × List Char)
  | [] => none
  | '"' :: rest => some (seen.reverse, rest)
  | '\\' :: 'u' :: a :: b :: c :: d :: rest =>
    if (hexUnit? a b c d).isSome then
      scanFrom (d :: c :: b :: a :: 'u' :: '\\' :: seen) rest
    else none
  | '\\' :: c :: rest =>
    if (shortEscape? c).isSome then scanFrom (c :: '\\' :: seen) rest else none
  | c :: rest => if c.toNat < 0x20 then none else scanFrom (c :: seen) rest

/-- Split after an opening quote: the raw literal, and what follows its closing quote. -/
def scan (text : List Char) : Option (List Char × List Char) :=
  scanFrom [] text

/-- Whether a code unit opens a surrogate pair. -/
def isHighSurrogate (unit : Nat) : Bool := 0xd800 ≤ unit && unit ≤ 0xdbff

/-- Whether a code unit closes a surrogate pair. -/
def isLowSurrogate (unit : Nat) : Bool := 0xdc00 ≤ unit && unit ≤ 0xdfff

/-- The character of a surrogate pair. -/
def pairChar (high low : Nat) : Char :=
  Char.ofNat ((high - 0xd800) * 0x400 + (low - 0xdc00) + 0x10000)

/-- Undo escapes, where `done` holds the characters so far in reverse. -/
def unescapeFrom (done : List Char) : List Char → Option (List Char)
  | [] => some done.reverse
  | '\\' :: 'u' :: a :: b :: c :: d :: rest =>
    match hexUnit? a b c d with
    | none => none
    | some unit =>
      if isLowSurrogate unit then none
      else if isHighSurrogate unit then
        match rest with
        | '\\' :: 'u' :: e :: f :: g :: h :: rest =>
          match hexUnit? e f g h with
          | none => none
          | some low =>
            if isLowSurrogate low then unescapeFrom (pairChar unit low :: done) rest else none
        | _ => none
      else unescapeFrom (Char.ofNat unit :: done) rest
  | '\\' :: c :: rest =>
    match shortEscape? c with
    | some plain => unescapeFrom (plain :: done) rest
    | none => none
  | c :: rest => unescapeFrom (c :: done) rest

/-- The characters of a raw literal; a surrogate without its partner stands for none. -/
def unescape (raw : List Char) : Option (List Char) :=
  unescapeFrom [] raw

/-- The string of a raw literal. -/
def toString? (raw : List Char) : Option String :=
  (unescape raw).map String.ofList

/-- A lower-case hexadecimal digit. -/
def hexChar (value : Nat) : Char :=
  if value < 10 then Char.ofNat ('0'.toNat + value) else Char.ofNat ('a'.toNat + (value - 10))

/-- Only quotes, backslashes and control characters are written as escapes. -/
def escapeChar (c : Char) : List Char :=
  if c = '"' then ['\\', '"']
  else if c = '\\' then ['\\', '\\']
  else if c = '\x08' then ['\\', 'b']
  else if c = '\x0c' then ['\\', 'f']
  else if c = '\n' then ['\\', 'n']
  else if c = '\r' then ['\\', 'r']
  else if c = '\t' then ['\\', 't']
  else if c.toNat < 0x20 then ['\\', 'u', '0', '0', hexChar (c.toNat / 16), hexChar (c.toNat % 16)]
  else [c]

/-- The raw literal of a list of characters. -/
def escape (characters : List Char) : List Char :=
  characters.flatMap escapeChar

end TriggerLedger.Json.Literal
