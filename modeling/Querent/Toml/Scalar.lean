import Querent.Calendar.Day
import Querent.Decimal.Reading

/-!
# Values of TOML

The values that a document in the format TOML is made of and the texts that stand for those without
parts: numbers, truth values, dates and texts in quotes.
-/

namespace Querent

/-- A value of a document. -/
inductive Toml where
  | text (value : String)
  | integer (value : Int)
  | float (value : Float)
  | boolean (value : Bool)
  /-- A day, a time of day or both, in its canonical text. -/
  | moment (text : String)
  | list (items : List Toml)
  | table (fields : List (String × Toml))

namespace Toml

/-- Digits among which single underscores may stand. -/
def grouped (isDigit : Char → Bool) : List Char → Option (List Char)
  | [] => none
  | [c] => if isDigit c then some [c] else none
  | c :: '_' :: rest => if isDigit c then (grouped isDigit rest).map (c :: ·) else none
  | c :: rest => if isDigit c then (grouped isDigit rest).map (c :: ·) else none

/-- A number that fits into a signed machine word. -/
def inWord (n : Int) : Option Int :=
  if -Nat.pow 2 63 ≤ n && n < Nat.pow 2 63 then some n else none

/-- Digits of a base, each below the base. -/
def readBase (base : Nat) (text : List Char) : Option Int := do
  let digits ← grouped (fun c => Text.isHexDigit c && Text.hexDigitValue c < base) text
  inWord (digits.foldl (fun n c => n * base + Text.hexDigitValue c) 0 : Nat)

/-- The digits of a whole number without zeros before it. -/
def wholeDigits (text : List Char) : Option (List Char) := do
  let digits ← grouped Text.isAsciiDigit text
  if digits.head? == some '0' && digits.length > 1 then none else return digits

/-- A whole number. -/
def readInteger (text : List Char) : Option Int :=
  match text with
  | '0' :: 'x' :: rest => readBase 16 rest
  | '0' :: 'o' :: rest => readBase 8 rest
  | '0' :: 'b' :: rest => readBase 2 rest
  | _ => do
    let (negative, rest) := Decimal.splitSign text
    let value : Int := Decimal.ofDigits (← wholeDigits rest)
    inWord (if negative then -value else value)

/-- A number with a point, a power of ten or both, or one of the names for other numbers. -/
def readFloat (text : List Char) : Option Float := do
  let (negative, rest) := Decimal.splitSign text
  let sign := if negative then ['-'] else []
  if rest == "inf".toList || rest == "nan".toList then
    Decimal.read? (String.ofList (sign ++ rest))
  else
    let isMark (c : Char) : Bool := c == '.' || c == 'e' || c == 'E'
    let whole ← wholeDigits (rest.takeWhile (!isMark ·))
    let (fraction, rest) ← match rest.dropWhile (!isMark ·) with
      | '.' :: after => do
        let fraction ← grouped Text.isAsciiDigit (after.takeWhile (!isMark ·))
        pure ('.' :: fraction, after.dropWhile (!isMark ·))
      | after => some ([], after)
    let power ← match rest with
      | [] => some []
      | '.' :: _ => none
      | _ :: after => do
        let (negative, digits) := Decimal.splitSign after
        let digits ← grouped Text.isAsciiDigit digits
        pure ('e' :: (if negative then ['-'] else []) ++ digits)
    if fraction.isEmpty && power.isEmpty then none
    else Decimal.read? (String.ofList (sign ++ whole ++ fraction ++ power))

/-- A number of so many digits at the start of a text. -/
def takeNumber (count : Nat) (text : List Char) : Option (Nat × List Char) :=
  let digits := text.take count
  if digits.length == count && digits.all Text.isAsciiDigit then
    some (Decimal.ofDigits digits, text.drop count)
  else none

/-- A character that must be there. -/
def takeMark (mark : Char) : List Char → Option (List Char)
  | c :: rest => if c == mark then some rest else none
  | [] => none

/-- A day at the start of a text. -/
def takeDay (text : List Char) : Option (List Char × List Char) := do
  let (year, rest) ← takeNumber 4 text
  let (month, rest) ← takeNumber 2 (← takeMark '-' rest)
  let (day, rest) ← takeNumber 2 (← takeMark '-' rest)
  if Calendar.isDay year month day then some (text.take 10, rest) else none

/-- The digits of a fraction of a second, cut off after the ninth and without zeros at the end. -/
def fractionText (digits : List Char) : List Char :=
  let kept := ((digits.take 9).reverse.dropWhile (· == '0')).reverse
  if kept.isEmpty then [] else '.' :: kept

/-- A time of day at the start of a text. -/
def takeTime (text : List Char) : Option (List Char × List Char) := do
  let (hour, rest) ← takeNumber 2 text
  let (minute, rest) ← takeNumber 2 (← takeMark ':' rest)
  let (second, rest) ← takeNumber 2 (← takeMark ':' rest)
  if hour > 23 || minute > 59 || second > 60 then none
  else
    match rest with
    | '.' :: after =>
      let digits := after.takeWhile Text.isAsciiDigit
      if digits.isEmpty then none
      else some (text.take 8 ++ fractionText digits, after.drop digits.length)
    | _ => some (text.take 8, rest)

/-- An offset at the end of a text, which may be left out. -/
def readOffset (text : List Char) : Option (List Char) :=
  match text with
  | [] => some []
  | ['Z'] | ['z'] => some ['Z']
  | sign :: rest => do
    let (hours, after) ← takeNumber 2 rest
    let (minutes, after) ← takeNumber 2 (← takeMark ':' after)
    if (sign == '+' || sign == '-') && hours ≤ 23 && minutes ≤ 59 && after.isEmpty then some text
    else none

/-- A day, a time of day or both in their canonical text. -/
def readMoment (text : List Char) : Option String :=
  match takeDay text with
  | some (day, []) => some (String.ofList day)
  | some (day, mark :: rest) => do
    if mark == 'T' || mark == 't' || mark == ' ' then
      let (time, rest) ← takeTime rest
      let offset ← readOffset rest
      return String.ofList (day ++ 'T' :: time ++ offset)
    else none
  | none => do
    let (time, rest) ← takeTime text
    if rest.isEmpty then return String.ofList time else none

/-- The value that a text without quotes stands for. -/
def readBare (text : List Char) : Option Toml :=
  if text == "true".toList then some (.boolean true)
  else if text == "false".toList then some (.boolean false)
  else
    (readInteger text).map .integer <|> (readFloat text).map .float <|>
      (readMoment text).map .moment

/-- Whether a character may stand in a text as it is. -/
def isPlain (c : Char) : Bool :=
  c == '\t' || (32 ≤ c.toNat && c.toNat != 127)

/-- The character that hexadecimal digits at the start of a text stand for. -/
def takeCode (count : Nat) (text : List Char) : Option (Char × List Char) :=
  let digits := text.take count
  let code := digits.foldl (fun n c => n * 16 + Text.hexDigitValue c) 0
  if digits.length == count && digits.all Text.isHexDigit && code.isValidChar then
    some (Char.ofNat code, text.drop count)
  else none

/-- The character that is meant after a backslash. -/
def takeEscape : List Char → Option (Char × List Char)
  | 'b' :: rest => some ('\x08', rest)
  | 't' :: rest => some ('\t', rest)
  | 'n' :: rest => some ('\n', rest)
  | 'f' :: rest => some ('\x0c', rest)
  | 'r' :: rest => some ('\r', rest)
  | '"' :: rest => some ('"', rest)
  | '\\' :: rest => some ('\\', rest)
  | 'u' :: rest => takeCode 4 rest
  | 'U' :: rest => takeCode 8 rest
  | _ => none

/-- A text on one line up to the quote that closes it; at most so many steps are taken. -/
def takeLine (quote : Char) : Nat → List Char → List Char → Option (String × List Char)
  | 0, _, _ => none
  | _ + 1, _, [] => none
  | steps + 1, read, c :: rest =>
    if c == quote then some (String.ofList read.reverse, rest)
    else if c == '\\' && quote == '"' then do
      let (meant, rest) ← takeEscape rest
      takeLine quote steps (meant :: read) rest
    else if isPlain c then takeLine quote steps (c :: read) rest
    else none

/-- The text after a backslash that joins lines, if nothing but blanks is left on the line. -/
def joinLines (text : List Char) : Option (List Char) :=
  let rest := text.dropWhile fun c => c == ' ' || c == '\t'
  match rest with
  | '\n' :: _ | '\r' :: '\n' :: _ =>
    some (rest.dropWhile fun c => c == ' ' || c == '\t' || c == '\n' || c == '\r')
  | _ => none

/--
A text on several lines up to the three quotes that close it, before which up to two more quotes
may stand; at most so many steps are taken.
-/
def takeLines (quote : Char) : Nat → List Char → List Char → Option (String × List Char)
  | 0, _, _ => none
  | _ + 1, _, [] => none
  | steps + 1, read, c :: rest =>
    if c == quote then
      let run := (c :: rest).takeWhile (· == quote)
      let after := (c :: rest).drop run.length
      if run.length < 3 then takeLines quote steps (run ++ read) after
      else if run.length ≤ 5 then
        some (String.ofList ((run.drop 3) ++ read).reverse, after)
      else none
    else if c == '\\' && quote == '"' then
      match joinLines rest with
      | some after => takeLines quote steps read after
      | none => do
        let (meant, after) ← takeEscape rest
        takeLines quote steps (meant :: read) after
    else if c == '\r' then
      match rest with
      | '\n' :: after => takeLines quote steps ('\n' :: read) after
      | _ => none
    else if c == '\n' || isPlain c then takeLines quote steps (c :: read) rest
    else none

/-- A text without the end of the line that it may start with. -/
def withoutFirstEnd : List Char → List Char
  | '\n' :: rest => rest
  | '\r' :: '\n' :: rest => rest
  | other => other

/-- A text after its opening quote. -/
def takeQuoted (quote : Char) (text : List Char) : Option (String × List Char) :=
  match text with
  | first :: second :: rest =>
    if first == quote && second == quote then
      takeLines quote (rest.length + 1) [] (withoutFirstEnd rest)
    else takeLine quote (text.length + 1) [] text
  | _ => takeLine quote (text.length + 1) [] text

end Toml

end Querent
