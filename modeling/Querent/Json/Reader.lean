import Querent.Json.Node
import Querent.Decimal.Binary
import Querent.Text.Digit

/-!
# Reading documents

From a text to a document with places.  Reading never fails as a whole: a fault becomes a part of
the document.  A number with a point or a power of ten is a floating-point number, and so is a whole
number that does not fit into 64 bits; it is computed from its first digits, as many as fit into 64
bits, by one multiplication or division with a power of ten.
-/

namespace Querent.Json

/-- The text that is left to read, and the place where it starts. -/
structure Cursor where
  rest : List Char
  place : Place

/-- What a rule reads and what it leaves, or a fault. -/
abbrev Read (α : Type) := Except (Fault × Place) (α × Cursor)

namespace Cursor

/-- The cursor at the start of a text. -/
def ofText (text : String) : Cursor :=
  ⟨text.toList, Place.start⟩

/-- The cursor after its first character. -/
def advance (cursor : Cursor) : Cursor :=
  match cursor.rest with
  | [] => cursor
  | c :: rest => ⟨rest, cursor.place.next c⟩

/-- The cursor after so many characters. -/
def skip : Nat → Cursor → Cursor
  | 0, cursor => cursor
  | n + 1, cursor => skip n cursor.advance

/-- The place after the first byte that is left. -/
def peekPlace (cursor : Cursor) : Place :=
  match cursor.rest with
  | [] => cursor.place
  | c :: _ => if c == '\n' then ⟨cursor.place.line + 1, 0⟩ else
    ⟨cursor.place.line, cursor.place.column + 1⟩

/-- Whether a character may stand between the parts of a document. -/
def isGap (c : Char) : Bool :=
  c == ' ' || c == '\n' || c == '\t' || c == '\r'

/-- The cursor after the gap at its start. -/
def skipGap (cursor : Cursor) : Cursor :=
  cursor.skip (cursor.rest.takeWhile isGap).length

/-- A fault at the next byte. -/
def faultAhead {α : Type} (cursor : Cursor) (fault : Fault) : Read α :=
  .error (fault, cursor.peekPlace)

/-- A fault at the place that was reached. -/
def faultHere {α : Type} (cursor : Cursor) (fault : Fault) : Read α :=
  .error (fault, cursor.place)

end Cursor

/-- The rest of a word that must be there. -/
def readWord : List Char → Cursor → Read Unit
  | [], cursor => .ok ((), cursor)
  | expected :: more, cursor =>
    match cursor.rest with
    | [] => cursor.faultHere .valueEnds
    | c :: _ =>
      if c == expected then readWord more cursor.advance
      else cursor.advance.faultHere .wordExpected

/-- The number that four hexadecimal digits stand for. -/
def hexValue (digits : List Char) : Nat :=
  digits.foldl (fun n c => n * 16 + Text.hexDigitValue c) 0

/-- Four hexadecimal digits. -/
def readHex (cursor : Cursor) : Read Nat :=
  let digits := cursor.rest.take 4
  if (digits.foldl (fun n c => n + c.utf8Size) 0) < 4 then
    (cursor.skip digits.length).faultHere .textEnds
  else if digits.length == 4 && digits.all Text.isHexDigit then
    .ok (hexValue digits, cursor.skip 4)
  else .error (.badEscape, ⟨cursor.place.line, cursor.place.column + 4⟩)

/-- A character that must be there in the second half of an escape. -/
def readEscapeMark (mark : Char) (cursor : Cursor) : Read Unit :=
  match cursor.rest with
  | [] => cursor.faultHere .textEnds
  | c :: _ =>
    if c == mark then .ok ((), cursor.advance) else cursor.advance.faultHere .escapeEnds

/-- A character that is written by its code, after the letter that says so. -/
def readCode (cursor : Cursor) : Except (Fault × Place) (Char × Cursor) := do
  let (high, cursor) ← readHex cursor
  if 0xDC00 ≤ high && high ≤ 0xDFFF then cursor.faultHere .loneSurrogate
  else if 0xD800 ≤ high && high ≤ 0xDBFF then
    let ((), cursor) ← readEscapeMark '\\' cursor
    let ((), cursor) ← readEscapeMark 'u' cursor
    let (low, cursor) ← readHex cursor
    if 0xDC00 ≤ low && low ≤ 0xDFFF then
      return (Char.ofNat (0x10000 + (high - 0xD800) * 0x400 + (low - 0xDC00)), cursor)
    else cursor.faultHere .loneSurrogate
  else return (Char.ofNat high, cursor)

/-- A character after a backslash. -/
def readEscape (cursor : Cursor) : Read Char :=
  match cursor.rest with
  | [] => cursor.faultHere .textEnds
  | c :: _ =>
    match c with
    | '"' | '\\' | '/' => .ok (c, cursor.advance)
    | 'b' => .ok (Char.ofNat 8, cursor.advance)
    | 'f' => .ok (Char.ofNat 12, cursor.advance)
    | 'n' => .ok ('\n', cursor.advance)
    | 'r' => .ok ('\r', cursor.advance)
    | 't' => .ok ('\t', cursor.advance)
    | 'u' => readCode cursor.advance
    | _ => .error (.badEscape, ⟨cursor.place.line, cursor.place.column + 1⟩)

/-- The rest of a text after its opening quote, given what was read of it in reverse. -/
def readTextFrom : Nat → List Char → Cursor → Read String
  | 0, _, cursor => cursor.faultHere .textEnds
  | steps + 1, read, cursor =>
    match cursor.rest with
    | [] => cursor.faultHere .textEnds
    | c :: _ =>
      if c == '"' then .ok (String.ofList read.reverse, cursor.advance)
      else if c == '\\' then
        match readEscape cursor.advance with
        | .ok (value, cursor) => readTextFrom steps (value :: read) cursor
        | .error fault => .error fault
      else if c.toNat < 32 then
        .error (.controlCharacter, cursor.place.next c)
      else readTextFrom steps (c :: read) cursor.advance

/-- The rest of a text after its opening quote. -/
def readText (cursor : Cursor) : Read String :=
  readTextFrom (cursor.rest.length + 1) [] cursor

/-- The greatest number of 64 bits. -/
def largestWord : Nat := Nat.pow 2 64 - 1

/-- The digits at the start, as far as their number fits into 64 bits after a number before them. -/
def takeDigits (significand : Nat) : List Char → Nat × Nat
  | [] => (significand, 0)
  | c :: rest =>
    let extended := significand * 10 + Text.digitValue c
    if Text.isAsciiDigit c && extended ≤ largestWord then
      let (all, count) := takeDigits extended rest
      (all, count + 1)
    else (significand, 0)

/-- The number of digits at the start. -/
def countDigits (text : List Char) : Nat :=
  (text.takeWhile Text.isAsciiDigit).length

/-- A power of ten as a floating-point number. -/
def powerOfTen (n : Nat) : Float :=
  Decimal.ofQuotient false (Nat.pow 10 n) 1

/-- A significand times a power of ten, if it is not too large. -/
def scaleFloat : Nat → Float → Int → Option Float
  | 0, x, _ => some x
  | steps + 1, x, exponent =>
    if exponent.natAbs ≤ 308 then
      let scaled :=
        if 0 ≤ exponent then x * powerOfTen exponent.natAbs else x / powerOfTen exponent.natAbs
      if scaled.isInf then none else some scaled
    else if x == 0 then some x
    else if 0 ≤ exponent then none
    else scaleFloat steps (x / powerOfTen 308) (exponent + 308)

/-- A floating-point number from its sign, its significand and its power of ten. -/
def floatOfParts (negative : Bool) (significand : Nat) (exponent : Int) (cursor : Cursor) :
    Read Json :=
  match scaleFloat 8 (Decimal.ofQuotient false significand 1) exponent with
  | some x => .ok (.float (if negative then -x else x), cursor)
  | none => cursor.faultHere .numberTooLarge

/-- A power of ten after its letter, given the rest of the number. -/
def readPower (negative : Bool) (significand : Nat) (exponent : Int) (cursor : Cursor) :
    Read Json :=
  let (down, cursor) := match cursor.rest with
    | '+' :: _ => (false, cursor.advance)
    | '-' :: _ => (true, cursor.advance)
    | _ => (false, cursor)
  match cursor.rest with
  | [] => cursor.faultHere .valueEnds
  | c :: _ =>
    if Text.isAsciiDigit c then
      let count := countDigits cursor.rest
      let power := (cursor.rest.take count).foldl (fun n c => n * 10 + Text.digitValue c) 0
      if power > 2147483647 then
        if significand != 0 && !down then
          let kept := (cursor.rest.take count).foldl
            (fun (n, used) c =>
              if n * 10 + Text.digitValue c ≤ 2147483647 then (n * 10 + Text.digitValue c, used + 1)
              else (2147483648, used)) (0, 1)
          (cursor.skip kept.2).faultHere .numberTooLarge
        else .ok (.float (if negative then -0.0 else 0.0), cursor.skip count)
      else
        let change : Int := if down then -(power : Int) else power
        floatOfParts negative significand (exponent + change) (cursor.skip count)
    else
      .error (.badNumber, cursor.place.next c)

/-- What may follow the digits of a number: a power of ten or nothing. -/
def readTail (negative : Bool) (significand : Nat) (exponent : Int) (cursor : Cursor) :
    Read Json :=
  match cursor.rest with
  | 'e' :: _ => readPower negative significand exponent cursor.advance
  | 'E' :: _ => readPower negative significand exponent cursor.advance
  | _ => floatOfParts negative significand exponent cursor

/-- The decimals of a number after its point. -/
def readFraction (negative : Bool) (significand : Nat) (exponent : Int) (cursor : Cursor) :
    Read Json :=
  let all := countDigits cursor.rest
  let (extended, used) := takeDigits significand cursor.rest
  if all == 0 then
    if cursor.rest.isEmpty then cursor.faultAhead .valueEnds else cursor.faultAhead .badNumber
  else readTail negative extended (exponent - used) (cursor.skip all)

/-- A whole number that fits into 64 bits, or the number that zero with a sign is. -/
def wholeNumber (negative : Bool) (significand : Nat) : Json :=
  if !negative then .integer significand
  else if significand == 0 || significand > Nat.pow 2 63 then
    .float (-(Decimal.ofQuotient false significand 1))
  else .integer (-(significand : Int))

/-- A number after its sign. -/
def readNumber (negative : Bool) (cursor : Cursor) : Read Json :=
  match cursor.rest with
  | [] => cursor.faultHere .valueEnds
  | c :: _ =>
    if !Text.isAsciiDigit c then .error (.badNumber, cursor.place.next c)
    else
      let all := if c == '0' then 1 else countDigits cursor.rest
      let (significand, used) := takeDigits 0 (cursor.rest.take all)
      let after := cursor.skip all
      let dropped : Int := all - used
      match after.rest with
      | '.' :: _ => readFraction negative significand dropped after.advance
      | 'e' :: _ => readTail negative significand dropped after
      | 'E' :: _ => readTail negative significand dropped after
      | next :: _ =>
        if c == '0' && Text.isAsciiDigit next then after.faultAhead .badNumber
        else if dropped == 0 then .ok (wholeNumber negative significand, after)
        else floatOfParts negative significand dropped after
      | [] =>
        if dropped == 0 then .ok (wholeNumber negative significand, after)
        else floatOfParts negative significand dropped after

/-- A document without parts, or the fault in it. -/
def leafOf (value : Json) (result : Read Unit) : Node × Cursor :=
  match result with
  | .ok ((), cursor) => (.leaf value (some cursor.place), cursor)
  | .error (fault, place) => (.broken fault (some place), ⟨[], place⟩)

/-- A document without parts that was read, or the fault in it. -/
def leafOfRead (result : Read Json) : Node × Cursor :=
  match result with
  | .ok (value, cursor) => (.leaf value (some cursor.place), cursor)
  | .error (fault, place) => (.broken fault (some place), ⟨[], place⟩)

/-- The number of lists and records that may be open at once. -/
def deepest : Nat := 127

mutual

/-- A document, given how many lists and records may still be opened. -/
def readValue : Nat → Nat → Cursor → Node × Cursor
  | 0, _, cursor => (.broken .valueEnds (some cursor.place), cursor)
  | steps + 1, depth, cursor =>
    let cursor := cursor.skipGap
    match cursor.rest with
    | [] => (.broken .valueEnds (some cursor.place), cursor)
    | c :: _ =>
      match c with
      | 'n' => leafOf .null (readWord "ull".toList cursor.advance)
      | 't' => leafOf (.bool true) (readWord "rue".toList cursor.advance)
      | 'f' => leafOf (.bool false) (readWord "alse".toList cursor.advance)
      | '"' =>
        match readText cursor.advance with
        | .ok (text, cursor) => (.leaf (.string text) (some cursor.place), cursor)
        | .error (fault, place) => (.broken fault (some place), ⟨[], place⟩)
      | '-' => leafOfRead (readNumber true cursor.advance)
      | '[' =>
        match depth with
        | 0 => (.broken .tooDeep (some cursor.peekPlace), cursor)
        | depth + 1 =>
          let (items, after) := readItems steps depth true cursor.advance
          (.array (some cursor.place) items, after)
      | '\x7b' =>
        match depth with
        | 0 => (.broken .tooDeep (some cursor.peekPlace), cursor)
        | depth + 1 =>
          let (entries, after) := readEntries steps depth true cursor.advance
          (.object (some cursor.place) entries, after)
      | c =>
        if Text.isAsciiDigit c then leafOfRead (readNumber false cursor)
        else (.broken .valueExpected (some cursor.peekPlace), cursor)

/-- The items of a list, of which the first has no comma before it. -/
def readItems : Nat → Nat → Bool → Cursor → Items × Cursor
  | 0, _, _, cursor => (.broken .listEnds (some cursor.place), cursor)
  | steps + 1, depth, isFirst, cursor =>
    let cursor := cursor.skipGap
    let item (cursor : Cursor) : Items × Cursor :=
      let (node, after) := readValue steps depth cursor
      let (rest, last) := readItems steps depth false after
      (.item (some cursor.peekPlace) node rest, last)
    match cursor.rest with
    | [] => (.broken .listEnds (some cursor.place), cursor)
    | c :: _ =>
      if c == ']' then (.done (some cursor.advance.place), cursor.advance)
      else if isFirst then item cursor
      else if c == ',' then
        let cursor := cursor.advance.skipGap
        match cursor.rest with
        | [] => (.broken .valueEnds (some cursor.place), cursor)
        | c :: _ =>
          if c == ']' then (.broken .trailingComma (some cursor.peekPlace), cursor)
          else item cursor
      else (.broken .commaOrBracketExpected (some cursor.peekPlace), cursor)

/-- The fields of a record, of which the first has no comma before it. -/
def readEntries : Nat → Nat → Bool → Cursor → Entries × Cursor
  | 0, _, _, cursor => (.broken .objectEnds (some cursor.place), cursor)
  | steps + 1, depth, isFirst, cursor =>
    let cursor := cursor.skipGap
    let entry (cursor : Cursor) : Entries × Cursor :=
      match cursor.rest with
      | [] => (.broken .valueEnds (some cursor.place), cursor)
      | '"' :: _ =>
        match readText cursor.advance with
        | .error (fault, place) => (.broken fault (some place), cursor)
        | .ok (name, afterName) =>
          let colon := afterName.skipGap
          let (node, after) := match colon.rest with
            | [] => (Node.broken .objectEnds (some colon.place), colon)
            | ':' :: _ => readValue steps depth colon.advance
            | _ => (.broken .colonExpected (some colon.peekPlace), colon)
          let (rest, last) := readEntries steps depth false after
          (.entry name (some colon.place) node rest, last)
      | c :: _ =>
        if c == '\x7d' then (.broken .trailingComma (some cursor.peekPlace), cursor)
        else (.broken .keyExpected (some cursor.peekPlace), cursor)
    match cursor.rest with
    | [] => (.broken .objectEnds (some cursor.place), cursor)
    | c :: _ =>
      if c == '\x7d' then (.done (some cursor.advance.place), cursor.advance)
      else if isFirst then entry cursor
      else if c == ',' then entry cursor.advance.skipGap
      else (.broken .commaOrBraceExpected (some cursor.peekPlace), cursor)

end

/-- A text as a document, and what is left of the text after it. -/
structure Reading where
  node : Node
  /-- The place of the first character after the document that does not belong there. -/
  trailing : Option Place

/-- Reads a text as a document. -/
def read (text : String) : Reading :=
  let (node, cursor) := readValue (2 * text.length + 2) deepest (Cursor.ofText text)
  let cursor := cursor.skipGap
  ⟨node, if cursor.rest.isEmpty then none else some cursor.peekPlace⟩

end Querent.Json
