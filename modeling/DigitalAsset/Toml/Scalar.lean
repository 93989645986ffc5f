import DigitalAsset.Toml.Basic
import DigitalAsset.Toml.Parser

/-!
# Scalar values of TOML

Strings in four kinds of quotes, integers in four bases, numbers with a fraction or an exponent,
truth values, and dates and times.
-/

namespace DigitalAsset.Toml

open Toml.Parser

/-! ## Strings -/

/-- The value of a hexadecimal digit. -/
def hexDigit? (c : Char) : Option Nat :=
  if c.isDigit then some (c.toNat - 48)
  else if 'a' ≤ c ∧ c ≤ 'f' then some (c.toNat - 87)
  else if 'A' ≤ c ∧ c ≤ 'F' then some (c.toNat - 55)
  else none

/-- Whether a character is a hexadecimal digit. -/
def isHexDigit (c : Char) : Bool := (hexDigit? c).isSome

/-- The number that digits spell in a base of at most 16. -/
def digitsValue (base : Nat) (ds : List Char) : Nat :=
  ds.foldl (fun n d => base * n + (hexDigit? d).getD 0) 0

/-- The character whose code is written with `n` hexadecimal digits. -/
def codePoint (n : Nat) : Parser Char := do
  let code := digitsValue 16 (← exactly isHexDigit n)
  if Nat.isValidChar code then return Char.ofNat code else failure

/-- A character written with a backslash. -/
def escape : Parser Char := do
  char '\\'
  match ← satisfy fun _ => true with
  | 'b' => return '\x08'
  | 't' => return '\t'
  | 'n' => return '\n'
  | 'f' => return '\x0c'
  | 'r' => return '\r'
  | '"' => return '"'
  | '\\' => return '\\'
  | 'u' => codePoint 4
  | 'U' => codePoint 8
  | _ => failure

/-- A character that stands for itself in double quotes. -/
def isPlain (c : Char) : Bool := isText c && c ≠ '"' && c ≠ '\\'

/-- A character that stands for itself in single quotes. -/
def isLiteral (c : Char) : Bool := isText c && c ≠ '\''

/-- A string in double quotes on one line. -/
def basicString : Parser (List Char) := do
  char '"'
  let cs ← many (satisfy isPlain <|> escape)
  char '"'
  return cs

/-- A string in single quotes on one line: every character stands for itself. -/
def literalString : Parser (List Char) := do
  char '\''
  let cs ← takeWhile isLiteral
  char '\''
  return cs

/-- A backslash at the end of a line: it and all blanks and line ends after it stand for nothing. -/
def lineContinuation : Parser (List Char) := do
  char '\\'
  blanks
  newline
  blankLines
  return []

/-- The pieces of a string over several lines up to three quotes, of which up to two more before
the end belong to the string; `fuel` bounds the number of pieces. -/
def pieces (quote : Char) (piece : Parser (List Char)) : (fuel : Nat) → Parser (List Char)
  | 0 => failure
  | fuel + 1 => do
    let quotes ← takeWhile (· = quote)
    if quotes.length < 3 then
      let cs ← piece
      return quotes ++ cs ++ (← pieces quote piece fuel)
    else
      let own := min 2 (quotes.length - 3)
      modify (quotes.drop (own + 3) ++ ·)
      return quotes.take own

/-- A string between three quotes; a line end right after the first three does not count. -/
def multiline (quote : Char) (piece : Parser (List Char)) : Parser (List Char) := do
  word (String.ofList [quote, quote, quote])
  let _ ← Parser.optional newline
  fun cs => pieces quote piece (cs.length + 1) cs

/-- A line end inside a string is read as a line feed. -/
def lineFeed : Parser (List Char) := do
  newline
  return ['\n']

/-- A string between three double quotes. -/
def multilineBasic : Parser (List Char) :=
  multiline '"'
    (([·]) <$> satisfy isPlain <|> lineContinuation <|> ([·]) <$> escape <|> lineFeed)

/-- A string between three single quotes. -/
def multilineLiteral : Parser (List Char) :=
  multiline '\'' (([·]) <$> satisfy isLiteral <|> lineFeed)

/-- A string. -/
def string : Parser String :=
  String.ofList <$> (multilineBasic <|> basicString <|> multilineLiteral <|> literalString)

/-! ## Numbers -/

/-- Whether digits with underscores have each underscore between two digits. -/
def isSpaced : (afterDigit : Bool) → List Char → Bool
  | afterDigit, [] => afterDigit
  | afterDigit, c :: rest =>
    if c = '_' then afterDigit && isSpaced false rest else isSpaced true rest

/-- One or more digits, with single underscores between them that do not count. -/
def digits (isDigit : Char → Bool) : Parser (List Char) := do
  let run ← takeWhile fun c => isDigit c || c = '_'
  if isSpaced false run then return run.filter (· ≠ '_') else failure

/-- A sign, or none. -/
def sign : Parser (Option Char) := Parser.optional (satisfy fun c => c = '+' || c = '-')

/-- Decimal digits, the first of which is no zero unless it is the only one. -/
def decimalDigits : Parser (List Char) := do
  let ds ← digits Char.isDigit
  if ds.length = 1 ∨ ds.head? ≠ some '0' then return ds else failure

/-- An integer in the range of 64 bits with a sign. -/
def inRange (n : Int) : Parser Value :=
  if -(Nat.pow 2 63 : Int) ≤ n ∧ n < Nat.pow 2 63 then pure (.integer n) else failure

/-- An integer in a base that its first two characters name. -/
def basedInteger (mark : String) (base : Nat) (isDigit : Char → Bool) : Parser Value := do
  word mark
  inRange (digitsValue base (← digits isDigit))

/-- Whether `n · 10^e` lies beyond the greatest binary number of 64 bits and rounds to infinity. -/
def overflows (n : Nat) (e : Int) : Bool :=
  let bound := Nat.pow 2 1024 - Nat.pow 2 970
  let magnitude := e + (Nat.toDigits 10 n).length
  if n = 0 ∨ magnitude < 309 then false
  else if 310 < magnitude then true
  else bound * Nat.pow 10 (-e).toNat ≤ n * Nat.pow 10 e.toNat

/-- An exponent. -/
def exponent : Parser Int := do
  let _ ← satisfy fun c => c = 'e' || c = 'E'
  let s ← sign
  let n := digitsValue 10 (← digits Char.isDigit)
  return if s = some '-' then -n else n

/-- A decimal number: an integer unless it has a fraction or an exponent. -/
def decimal : Parser Value := do
  let start ← get
  let negative := (← sign) = some '-'
  let whole ← decimalDigits
  let fraction ← Parser.optional (do char '.'; digits Char.isDigit)
  let power ← Parser.optional exponent
  if fraction.isNone ∧ power.isNone then
    let n := digitsValue 10 whole
    inRange (if negative then -n else n)
  else
    let places := fraction.getD []
    if ¬ negative ∧ overflows (digitsValue 10 (whole ++ places)) (power.getD 0 - places.length) then
      failure
    else
      return .float (String.ofList (start.take (start.length - (← get).length)))

/-- An infinity, or what is no number. -/
def special : Parser Value := do
  let text ← consumed (do let _ ← sign; word "inf" <|> word "nan")
  return .float (String.ofList text)

/-! ## Dates and times -/

/-- A number of exactly `n` digits between two bounds. -/
def bounded (n low high : Nat) : Parser Nat := do
  let v := digitsValue 10 (← exactly Char.isDigit n)
  if low ≤ v ∧ v ≤ high then return v else failure

/-- The number of days of a month. -/
def daysIn (year month : Nat) : Nat :=
  if month = 2 then
    if year % 4 = 0 ∧ (year % 100 ≠ 0 ∨ year % 400 = 0) then 29 else 28
  else if month = 4 ∨ month = 6 ∨ month = 9 ∨ month = 11 then 30
  else 31

/-- A day of the calendar. -/
def date : Parser Unit := do
  let year ← bounded 4 0 9999
  char '-'
  let month ← bounded 2 1 12
  char '-'
  let _ ← bounded 2 1 (daysIn year month)

/-- A time of day; a minute may have a leap second. -/
def time : Parser Unit := do
  let _ ← bounded 2 0 23
  char ':'
  let _ ← bounded 2 0 59
  char ':'
  let _ ← bounded 2 0 60
  let _ ← Parser.optional (do char '.'; let _ ← satisfy Char.isDigit; takeWhile Char.isDigit)

/-- The distance of a time from universal time. -/
def zone : Parser Unit :=
  (do let _ ← satisfy fun c => c = 'Z' || c = 'z') <|> do
    let _ ← satisfy fun c => c = '+' || c = '-'
    let _ ← bounded 2 0 23
    char ':'
    let _ ← bounded 2 0 59

/-- A date, a time of day, or both with or without a zone. -/
def moment : Parser Value := do
  let dated : Parser Unit := do
    date
    let _ ← Parser.optional do
      let _ ← satisfy fun c => c = 'T' || c = 't' || c = ' '
      time
      Parser.optional zone
  let text ← consumed (dated <|> time)
  return .moment (String.ofList text)

/-! ## All of them -/

/-- A truth value. -/
def boolean : Parser Value :=
  (do word "true"; return .boolean true) <|> (do word "false"; return .boolean false)

/-- A value that holds no other. -/
def scalar : Parser Value :=
  Value.string <$> string <|> boolean <|> moment <|>
    basedInteger "0x" 16 isHexDigit <|> basedInteger "0o" 8 (fun c => '0' ≤ c && c ≤ '7') <|>
    basedInteger "0b" 2 (fun c => c = '0' || c = '1') <|> decimal <|> special

end DigitalAsset.Toml
