import DigitalAsset.Json.Basic
import DigitalAsset.Text.Utf8

/-!
# Reading JSON

`Json.parse` reads one value with blanks around it.  Containers may be nested 127 deep; the depth
that is left is the measure of the recursion, and the loops over the parts of a container are
bounded by the characters that are left.  A text that is no JSON is answered by the first thing
that is wrong with it, and by the line and column where the reader stands then.
-/

namespace DigitalAsset.Json

/-- What is wrong with a text that is no JSON. -/
inductive Flaw where
  | eofValue
  | eofList
  | eofObject
  | eofString
  | expectedIdent
  | expectedValue
  | expectedColon
  | expectedListCommaOrEnd
  | expectedObjectCommaOrEnd
  | keyNotString
  | trailingComma
  | trailingCharacters
  | invalidNumber
  | numberOutOfRange
  | invalidEscape
  | loneSurrogate
  | endOfHexEscape
  | controlCharacter
  | tooDeep
  deriving DecidableEq, Repr

/-- The text of a flaw. -/
def Flaw.message : Flaw → String
  | .eofValue => "EOF while parsing a value"
  | .eofList => "EOF while parsing a list"
  | .eofObject => "EOF while parsing an object"
  | .eofString => "EOF while parsing a string"
  | .expectedIdent => "expected ident"
  | .expectedValue => "expected value"
  | .expectedColon => "expected `:`"
  | .expectedListCommaOrEnd => "expected `,` or `]`"
  | .expectedObjectCommaOrEnd => "expected `,` or `\x7d`"
  | .keyNotString => "key must be a string"
  | .trailingComma => "trailing comma"
  | .trailingCharacters => "trailing characters"
  | .invalidNumber => "invalid number"
  | .numberOutOfRange => "number out of range"
  | .invalidEscape => "invalid escape"
  | .loneSurrogate => "lone leading surrogate in hex escape"
  | .endOfHexEscape => "unexpected end of hex escape"
  | .controlCharacter => "control character (\\u0000-\\u001F) found while parsing a string"
  | .tooDeep => "recursion limit exceeded"

/-- A flaw and where it is found, as a line and the number of bytes of that line that are read. -/
structure Fault where
  flaw : Flaw
  line : Nat
  column : Nat
  deriving DecidableEq, Repr

/-- The text of a fault. -/
def Fault.message (f : Fault) : String :=
  f.flaw.message ++ " at line " ++ toString f.line ++ " column " ++ toString f.column

/-- What turns texts into JSON values, or says what is wrong with them. -/
abbrev Spelling := String → Except Fault Json

/-- A flaw, and how many bytes of the text are not read when it is found. -/
structure Stop where
  flaw : Flaw
  unread : Nat

/-- The fault at which reading a text stops. -/
def Stop.fault (text : String) (stop : Stop) : Fault :=
  let bytes := Utf8.encode text
  let read := bytes.take (bytes.length - stop.unread)
  { flaw := stop.flaw
    line := 1 + read.count 10
    column := (read.reverse.takeWhile (· ≠ 10)).length }

/-- The number of bytes that characters take in UTF-8. -/
def byteLength (cs : List Char) : Nat := cs.foldl (fun length c => length + c.utf8Size) 0

/-- Stop before the characters `cs`. -/
def stopBefore (flaw : Flaw) (cs : List Char) : Except Stop α := .error ⟨flaw, byteLength cs⟩

/-- Stop at the characters `cs`, the first byte of which is read. -/
def stopAt (flaw : Flaw) (cs : List Char) : Except Stop α := .error ⟨flaw, byteLength cs - 1⟩

/-- A parser takes the characters that are left and answers a value and the characters after it. -/
abbrev Parser (α : Type) := List Char → Except Stop (α × List Char)

/-! ## Blanks and words -/

/-- The blanks of JSON: space, tab, line feed and carriage return. -/
def isBlank (c : Char) : Bool := c = ' ' || c = '\t' || c = '\n' || c = '\r'

/-- The characters from the first that is no blank. -/
def skipBlanks (cs : List Char) : List Char := cs.dropWhile isBlank

/-- Read the rest of a word of which the first letter is read. -/
def word (value : Json) : (letters : List Char) → Parser Json
  | [], cs => .ok (value, cs)
  | _ :: _, [] => stopBefore .eofValue []
  | l :: letters, c :: cs =>
    if c = l then word value letters cs else stopAt .expectedIdent (c :: cs)

/-! ## Numbers -/

/-- The value of a decimal digit. -/
def digitValue (c : Char) : Nat := c.toNat - 48

/-- The significand and decimal exponent of a number, its sign, and how it goes on. -/
structure Scan where
  significand : Nat
  exponent : Int
  rest : List Char

/-- The greatest significand: digits that would go beyond it do not count. -/
def significandLimit : Nat := Nat.pow 2 64

/-- The greatest exponent that is followed digit by digit. -/
def exponentLimit : Nat := Nat.pow 2 31

/-- Take digits into a significand while it stays below the limit; `step` is added to the exponent
for each digit taken. -/
def takeDigits (step : Int) : (significand : Nat) → (exponent : Int) → List Char → Scan
  | s, e, [] => ⟨s, e, []⟩
  | s, e, c :: cs =>
    if c.isDigit ∧ 10 * s + digitValue c < significandLimit then
      takeDigits step (10 * s + digitValue c) (e + step) cs
    else ⟨s, e, c :: cs⟩

/-- Divide by `10^n` in steps of at most `10^308`. -/
def divTens (f : Binary64) (n : Nat) : Binary64 :=
  if n ≤ 308 then f.div (Binary64.tenPow n)
  else if f.isZero then f
  else divTens (f.div (Binary64.tenPow 308)) (n - 308)
termination_by n
decreasing_by omega

/-- The number `± significand · 10^exponent`, which is followed by `rest`: the significand is rounded
first, then multiplied or divided by a power of ten. -/
def floatOf (negative : Bool) (significand : Nat) (exponent : Int) : Parser Number := fun rest =>
  let f := Binary64.ofNat significand
  let signed := fun x : Binary64 => Number.float (if negative then x.neg else x)
  if exponent < 0 then .ok (signed (divTens f exponent.natAbs), rest)
  else if f.isZero then .ok (signed f, rest)
  else if 308 < exponent then stopBefore .numberOutOfRange rest
  else
    let g := f.mul (Binary64.tenPow exponent.toNat)
    if g.isSpecial then stopBefore .numberOutOfRange rest else .ok (signed g, rest)

/-- The value of the exponent digits that a text begins with, or the characters after the digit with
which it reaches the exponent limit. -/
def exponentValue : (value : Nat) → List Char → Except (List Char) Nat
  | v, [] => .ok v
  | v, c :: cs =>
    if ¬ c.isDigit then .ok v
    else if 10 * v + digitValue c < exponentLimit then exponentValue (10 * v + digitValue c) cs
    else .error cs

/-- Read an exponent, the letter of which is read. -/
def exponentPart (negative : Bool) (s : Nat) (e : Int) : Parser Number := fun cs =>
  let (down, cs) :=
    match cs with
    | '+' :: r => (false, r)
    | '-' :: r => (true, r)
    | r => (false, r)
  match cs with
  | [] => stopBefore .eofValue []
  | c :: _ =>
    if ¬ c.isDigit then stopAt .invalidNumber cs
    else
      let rest := cs.dropWhile Char.isDigit
      match exponentValue 0 cs with
      | .error unread =>
        if s ≠ 0 ∧ ¬ down then stopBefore .numberOutOfRange unread
        else .ok (.float (Binary64.zero negative), rest)
      | .ok v => floatOf negative s (if down then e - v else e + v) rest

/-- Read what may follow the digits of a number: an exponent or nothing. -/
def afterDigits (negative : Bool) (s : Nat) (e : Int) : Parser Number
  | 'e' :: r => exponentPart negative s e r
  | 'E' :: r => exponentPart negative s e r
  | r => floatOf negative s e r

/-- Read a fraction, the point of which is read. -/
def fractionPart (negative : Bool) (s : Nat) (e : Int) : Parser Number := fun cs =>
  match cs with
  | [] => stopBefore .eofValue []
  | c :: _ =>
    if ¬ c.isDigit then stopAt .invalidNumber cs
    else
      let scan := takeDigits (-1) s e cs
      afterDigits negative scan.significand scan.exponent (scan.rest.dropWhile Char.isDigit)

/-- The integer `± n`, which is a floating-point number if it is negative zero or less than
`-2^63`. -/
def integer (negative : Bool) (n : Nat) : Number :=
  if ¬ negative then .int n
  else if 0 < n ∧ n ≤ Nat.pow 2 63 then .int (-n)
  else .float (Binary64.ofNat n).neg

/-- Read what follows a significand that holds all digits so far. -/
def afterInteger (negative : Bool) (n : Nat) : Parser Number
  | '.' :: r => fractionPart negative n 0 r
  | 'e' :: r => exponentPart negative n 0 r
  | 'E' :: r => exponentPart negative n 0 r
  | r => .ok (integer negative n, r)

/-- Read a number whose integer part has more digits than the significand can hold: each further
digit only counts as a power of ten. -/
def longInteger (negative : Bool) (s : Nat) : Parser Number := fun cs =>
  let dropped := (cs.takeWhile Char.isDigit).length
  match cs.dropWhile Char.isDigit with
  | '.' :: r => fractionPart negative s dropped r
  | r => afterDigits negative s dropped r

/-- Read a number after its sign. -/
def unsigned (negative : Bool) : Parser Number
  | [] => stopBefore .eofValue []
  | '0' :: r =>
    if (r.head?.map Char.isDigit).getD false then stopAt .invalidNumber r
    else afterInteger negative 0 r
  | c :: r =>
    if ¬ c.isDigit then stopAt .invalidNumber (c :: r)
    else
      let scan := takeDigits 0 (digitValue c) 0 r
      if (scan.rest.head?.map Char.isDigit).getD false then
        longInteger negative scan.significand scan.rest
      else afterInteger negative scan.significand scan.rest

/-! ## Strings -/

/-- The value of a hexadecimal digit. -/
def hexDigit? (c : Char) : Option Nat :=
  if c.isDigit then some (c.toNat - 48)
  else if 'a' ≤ c ∧ c ≤ 'f' then some (c.toNat - 87)
  else if 'A' ≤ c ∧ c ≤ 'F' then some (c.toNat - 55)
  else none

/-- The number that four hexadecimal digits spell, with the characters after them. -/
def hexDigits? : List Char → Option (Nat × List Char)
  | a :: b :: c :: d :: rest =>
    match hexDigit? a, hexDigit? b, hexDigit? c, hexDigit? d with
    | some a, some b, some c, some d => some (((a * 16 + b) * 16 + c) * 16 + d, rest)
    | _, _, _, _ => none
  | _ => none

/-- Read four hexadecimal digits.  Four bytes are taken in one piece, whatever they are. -/
def hexEscape : Parser Nat := fun cs =>
  match hexDigits? cs with
  | some found => .ok found
  | none =>
    if byteLength cs < 4 then stopBefore .eofString []
    else .error ⟨.invalidEscape, byteLength cs - 4⟩

/-- Read the second half of a pair of surrogates. -/
def lowSurrogate (high : Nat) : Parser Char
  | [] => stopBefore .eofString []
  | ['\\'] => stopBefore .eofString []
  | '\\' :: 'u' :: rest =>
    match hexEscape rest with
    | .error stop => .error stop
    | .ok (low, rest) =>
      if 0xDC00 ≤ low ∧ low ≤ 0xDFFF then
        .ok (Char.ofNat (0x10000 + (high - 0xD800) * 0x400 + (low - 0xDC00)), rest)
      else stopBefore .loneSurrogate rest
  | '\\' :: rest => stopAt .endOfHexEscape rest
  | rest => stopAt .endOfHexEscape rest

/-- Read an escape, the backslash of which is read. -/
def escape : Parser Char
  | [] => stopBefore .eofString []
  | '"' :: r => .ok ('"', r)
  | '\\' :: r => .ok ('\\', r)
  | '/' :: r => .ok ('/', r)
  | 'b' :: r => .ok ('\x08', r)
  | 'f' :: r => .ok ('\x0c', r)
  | 'n' :: r => .ok ('\n', r)
  | 'r' :: r => .ok ('\r', r)
  | 't' :: r => .ok ('\t', r)
  | 'u' :: r =>
    match hexEscape r with
    | .error stop => .error stop
    | .ok (n, rest) =>
      if 0xDC00 ≤ n ∧ n ≤ 0xDFFF then stopBefore .loneSurrogate rest
      else if 0xD800 ≤ n ∧ n ≤ 0xDBFF then lowSurrogate n rest
      else .ok (Char.ofNat n, rest)
  | cs => stopAt .invalidEscape cs

/-- Read the characters of a string up to its closing quote; `fuel` bounds their number. -/
def stringBody : (fuel : Nat) → (read : List Char) → Parser String
  | 0, _, _ => stopBefore .eofString []
  | _ + 1, _, [] => stopBefore .eofString []
  | _ + 1, read, '"' :: rest => .ok (String.ofList read.reverse, rest)
  | fuel + 1, read, '\\' :: rest =>
    match escape rest with
    | .error stop => .error stop
    | .ok (c, rest) => stringBody fuel (c :: read) rest
  | fuel + 1, read, c :: rest =>
    if c.toNat < 0x20 then stopAt .controlCharacter (c :: rest)
    else stringBody fuel (c :: read) rest

/-- Read a string, the opening quote of which is read. -/
def stringLiteral : Parser String := fun cs => stringBody (cs.length + 1) [] cs

/-! ## Containers -/

/-- Read the items of a list after its bracket or after an item; `fuel` bounds their number. -/
def items (value : Parser Json) : (fuel : Nat) → (first : Bool) → (read : List Json) → Parser Json
  | 0, _, _, _ => stopBefore .eofList []
  | fuel + 1, first, read, cs =>
    match skipBlanks cs, first with
    | [], _ => stopBefore .eofList []
    | ']' :: rest, _ => .ok (.array read.reverse, rest)
    | ',' :: rest, false =>
      match skipBlanks rest with
      | [] => stopBefore .eofValue []
      | ']' :: rest => stopAt .trailingComma (']' :: rest)
      | rest =>
        match value rest with
        | .error stop => .error stop
        | .ok (v, rest) => items value fuel false (v :: read) rest
    | rest, false => stopAt .expectedListCommaOrEnd rest
    | rest, true =>
      match value rest with
      | .error stop => .error stop
      | .ok (v, rest) => items value fuel false (v :: read) rest

/-- Read a member of an object, the opening quote of its name being read. -/
def member (value : Parser Json) : Parser (String × Json) := fun cs =>
  match stringLiteral cs with
  | .error stop => .error stop
  | .ok (name, rest) =>
    match skipBlanks rest with
    | [] => stopBefore .eofObject []
    | ':' :: rest =>
      match value rest with
      | .error stop => .error stop
      | .ok (v, rest) => .ok ((name, v), rest)
    | rest => stopAt .expectedColon rest

/-- Read the members of an object after its brace or after a member; `fuel` bounds their number. -/
def members (value : Parser Json) : (fuel : Nat) → (first : Bool) →
    (read : List (String × Json)) → Parser Json
  | 0, _, _, _ => stopBefore .eofObject []
  | fuel + 1, first, read, cs =>
    match skipBlanks cs, first with
    | [], _ => stopBefore .eofObject []
    | '}' :: rest, _ => .ok (.object read, rest)
    | ',' :: rest, false =>
      match skipBlanks rest with
      | [] => stopBefore .eofValue []
      | '}' :: rest => stopAt .trailingComma ('}' :: rest)
      | '"' :: rest =>
        match member value rest with
        | .error stop => .error stop
        | .ok ((name, v), rest) => members value fuel false (insertMember read name v) rest
      | rest => stopAt .keyNotString rest
    | rest, false => stopAt .expectedObjectCommaOrEnd rest
    | '"' :: rest, true =>
      match member value rest with
      | .error stop => .error stop
      | .ok ((name, v), rest) => members value fuel false (insertMember read name v) rest
    | rest, true => stopAt .keyNotString rest

/-- Read a value; `depth` is one more than the number of containers that may still be opened. -/
def value : (depth : Nat) → Parser Json
  | depth, cs =>
    match skipBlanks cs with
    | [] => stopBefore .eofValue []
    | 'n' :: rest => word .null "ull".toList rest
    | 't' :: rest => word (.bool true) "rue".toList rest
    | 'f' :: rest => word (.bool false) "alse".toList rest
    | '"' :: rest => (stringLiteral rest).map fun (s, rest) => (.string s, rest)
    | '-' :: rest => (unsigned true rest).map fun (n, rest) => (.number n, rest)
    | '[' :: rest =>
      match depth with
      | depth + 2 => items (value (depth + 1)) (rest.length + 1) true [] rest
      | _ => stopAt .tooDeep ('[' :: rest)
    | '{' :: rest =>
      match depth with
      | depth + 2 => members (value (depth + 1)) (rest.length + 1) true [] rest
      | _ => stopAt .tooDeep ('{' :: rest)
    | c :: rest =>
      if c.isDigit then (unsigned false (c :: rest)).map fun (n, rest) => (.number n, rest)
      else stopAt .expectedValue (c :: rest)

/-- The greatest number of containers around a value, plus one. -/
def depthLimit : Nat := 128

/-- Read a value and the blanks after it, up to the end. -/
def document (cs : List Char) : Except Stop Json :=
  match value depthLimit cs with
  | .error stop => .error stop
  | .ok (v, rest) =>
    match skipBlanks rest with
    | [] => .ok v
    | rest => stopAt .trailingCharacters rest

/-- The value that a text spells. -/
def parse : Spelling := fun text => (document text.toList).mapError (Stop.fault text)

/-- The letter that begins no value is the third byte of the second line. -/
example : parse "[1,\n  x]" = .error ⟨.expectedValue, 2, 3⟩ := by rfl

end DigitalAsset.Json
