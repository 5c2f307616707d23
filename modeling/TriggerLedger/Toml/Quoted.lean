import TriggerLedger.Json.Literal
/-!
# Quoted strings of TOML

A basic string stands between double quotes and knows escapes, a literal string
stands between single quotes and knows none.  Between triple quotes a string may
have several lines, a line feed right after the opening quotes being dropped.
-/

namespace TriggerLedger.Toml

/-- Whether a character may stand in strings and comments. -/
def isPrintable (c : Char) : Bool :=
  c == '\t' || (0x20 ≤ c.toNat && c.toNat ≠ 0x7f)

/-- The character with a code, unless it is a surrogate or too large. -/
def charOf? (code : Nat) : Option Char :=
  if code.isValidChar then some (Char.ofNat code) else none

/-- The character of an escape by hexadecimal digits, and what follows. -/
def readCode (width : Nat) (text : List Char) : Option (Char × List Char) := do
  let digits ← (text.take width).mapM Json.Literal.hexDigit?
  let c ← charOf? (digits.foldl (fun code digit => code * 16 + digit) 0)
  if digits.length = width then return (c, text.drop width) else none

/-- The character of an escape after its backslash, and what follows. -/
def readEscape : List Char → Option (Char × List Char)
  | '"' :: rest => some ('"', rest)
  | '\\' :: rest => some ('\\', rest)
  | 'b' :: rest => some ('\x08', rest)
  | 'e' :: rest => some ('\x1b', rest)
  | 'f' :: rest => some ('\x0c', rest)
  | 'n' :: rest => some ('\n', rest)
  | 'r' :: rest => some ('\r', rest)
  | 't' :: rest => some ('\t', rest)
  | 'x' :: rest => readCode 2 rest
  | 'u' :: rest => readCode 4 rest
  | 'U' :: rest => readCode 8 rest
  | _ => none

/-- Whether a character is a blank of a line. -/
def isLineSpace (c : Char) : Bool := c == ' ' || c == '\t'

/-- Skip blanks and line ends. -/
def skipLines : List Char → List Char
  | '\r' :: '\n' :: rest => skipLines rest
  | c :: rest => if isLineSpace c || c == '\n' then skipLines rest else c :: rest
  | [] => []

/-- After a backslash: the next line's text, if only blanks end this line. -/
def continueLine (text : List Char) : Option (List Char) :=
  match text.dropWhile isLineSpace with
  | '\n' :: rest => some (skipLines rest)
  | '\r' :: '\n' :: rest => some (skipLines rest)
  | _ => none

/-- Read a basic string after its opening quote, where `done` is what was read in reverse. -/
def readBasic (done : List Char) : Nat → List Char → Option (String × List Char)
  | 0, _ => none
  | fuel + 1, text =>
    match text with
    | '"' :: rest => some (String.ofList done.reverse, rest)
    | '\\' :: rest => do
      let (c, rest) ← readEscape rest
      readBasic (c :: done) fuel rest
    | c :: rest => if isPrintable c then readBasic (c :: done) fuel rest else none
    | [] => none

/-- Read a literal string after its opening quote. -/
def readLiteral (done : List Char) : List Char → Option (String × List Char)
  | '\'' :: rest => some (String.ofList done.reverse, rest)
  | c :: rest => if isPrintable c then readLiteral (c :: done) rest else none
  | [] => none

/-- Split off the quotes at the front. -/
def spanQuotes (quote : Char) (text : List Char) : List Char × List Char :=
  text.span (· == quote)

/-- Read a string of several lines after its opening quotes.  Up to two quotes may stand
right before the closing ones, and every line end is read as a line feed. -/
def readMultiline (quote : Char) (done : List Char) : Nat → List Char → Option (String × List Char)
  | 0, _ => none
  | fuel + 1, text =>
    match spanQuotes quote text with
    | ([], '\\' :: rest) =>
      if quote = '"' then
        match continueLine rest with
        | some rest => readMultiline quote done fuel rest
        | none => do
          let (c, rest) ← readEscape rest
          readMultiline quote (c :: done) fuel rest
      else readMultiline quote ('\\' :: done) fuel rest
    | ([], '\r' :: '\n' :: rest) => readMultiline quote ('\n' :: done) fuel rest
    | ([], c :: rest) =>
      if isPrintable c || c == '\n' then readMultiline quote (c :: done) fuel rest else none
    | ([], []) => none
    | (quotes, rest) =>
      if quotes.length < 3 then readMultiline quote (quotes ++ done) fuel rest
      else if quotes.length ≤ 5 then
        some (String.ofList ((quotes.drop 3) ++ done).reverse, rest)
      else none

/-- Drop a line end right after opening quotes. -/
def dropLineEnd : List Char → List Char
  | '\n' :: rest => rest
  | '\r' :: '\n' :: rest => rest
  | text => text

/-- Read a string of one line. -/
def readQuoted : List Char → Option (String × List Char)
  | '"' :: rest => readBasic [] (rest.length + 1) rest
  | '\'' :: rest => readLiteral [] rest
  | _ => none

/-- Read a string of any form. -/
def readString : List Char → Option (String × List Char)
  | '"' :: '"' :: '"' :: rest => readMultiline '"' [] (rest.length + 1) (dropLineEnd rest)
  | '\'' :: '\'' :: '\'' :: rest => readMultiline '\'' [] (rest.length + 1) (dropLineEnd rest)
  | text => readQuoted text

end TriggerLedger.Toml
