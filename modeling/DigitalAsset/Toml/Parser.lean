/-!
# Parsers of TOML text

A parser takes the characters that are left and answers a value and the characters after it, or
nothing.  An alternative starts again from the characters that its predecessor was given.
-/

namespace DigitalAsset.Toml

/-- A parser: the characters that are left are its state. -/
abbrev Parser := StateT (List Char) Option

namespace Parser

/-- The next character, if it satisfies a condition. -/
def satisfy (p : Char → Bool) : Parser Char
  | [] => none
  | c :: rest => if p c then some (c, rest) else none

/-- A given character. -/
def char (c : Char) : Parser Unit := do
  let _ ← satisfy (· = c)

/-- Exactly the given characters. -/
def word (text : String) : Parser Unit := fun cs =>
  if text.toList.isPrefixOf cs then some ((), cs.drop text.length) else none

/-- The characters up to the first that fails a condition. -/
def takeWhile (p : Char → Bool) : Parser (List Char) := fun cs =>
  some (cs.takeWhile p, cs.dropWhile p)

/-- A given number of characters that satisfy a condition. -/
def exactly (p : Char → Bool) (n : Nat) : Parser (List Char) := fun cs =>
  let run := cs.take n
  if run.length = n ∧ run.all p then some (run, cs.drop n) else none

/-- What a parser answers, or none where it fails. -/
def optional (p : Parser α) : Parser (Option α) := (some <$> p) <|> pure none

/-- The answers of a parser until it fails; `fuel` bounds their number. -/
def repeated (p : Parser α) : (fuel : Nat) → Parser (List α)
  | 0 => pure []
  | fuel + 1 => do
    match ← optional p with
    | none => pure []
    | some a => return a :: (← repeated p fuel)

/-- The answers of a parser until it fails. -/
def many (p : Parser α) : Parser (List α) := fun cs => repeated p cs.length cs

/-- The characters that a parser takes. -/
def consumed (p : Parser α) : Parser (List Char) := fun cs =>
  (p cs).map fun (_, rest) => (cs.take (cs.length - rest.length), rest)

/-- Nothing, where no characters are left. -/
def atEnd : Parser Unit
  | [] => some ((), [])
  | _ :: _ => none

/-! ## Blanks, line ends and comments -/

/-- The blanks inside a line: space and tab. -/
def isBlank (c : Char) : Bool := c = ' ' || c = '\t'

/-- A character that may stand in a comment or in quotes: a tab or no control character. -/
def isText (c : Char) : Bool := c = '\t' || (0x20 ≤ c.toNat && c.toNat ≠ 0x7F)

/-- Blanks inside a line, or none. -/
def blanks : Parser Unit := do
  let _ ← takeWhile isBlank

/-- The end of a line: a line feed, with or without a carriage return before it. -/
def newline : Parser Unit := char '\n' <|> word "\r\n"

/-- A comment, up to the end of its line. -/
def comment : Parser Unit := do
  char '#'
  let _ ← takeWhile isText

/-- Blanks, line ends and comments in any order, or none. -/
def gap : Parser Unit := do
  let _ ← many ((do let _ ← satisfy isBlank) <|> newline <|> comment)

/-- Blanks and line ends in any order, or none. -/
def blankLines : Parser Unit := do
  let _ ← many ((do let _ ← satisfy isBlank) <|> newline)

end Parser

end DigitalAsset.Toml
