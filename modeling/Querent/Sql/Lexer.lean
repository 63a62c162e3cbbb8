import Querent.Sql.Dialect
import Querent.Sql.Token
import Querent.Text.Blank

/-!
# Reading tokens

A query is read from left to right.  `scan` reads the first token of a text, or skips the first
blank or comment, and returns what follows; `tokensOf` repeats it to the end of the text.  Every
step consumes at least one character, so the length of the text bounds their number.
-/

namespace Querent.Sql

/-- Why a text cannot be divided into tokens. -/
inductive LexFault where
  | unterminatedText
  | unterminatedEscapedText
  | unclosedName (closing : Char)
  | unterminatedComment
  | unterminatedDollarText
  | differentDollarTag (tag : String)
  | missingDollar
  | unterminatedDollarTag
  deriving DecidableEq, Repr

/-- The wording of a fault. -/
def LexFault.message : LexFault → String
  | unterminatedText => "Unterminated string literal"
  | unterminatedEscapedText => "Unterminated encoded string literal"
  | unclosedName closing => "Expected close delimiter '" ++ String.singleton closing ++
      "' before EOF."
  | unterminatedComment => "Unexpected EOF while in a multi-line comment"
  | unterminatedDollarText => "Unterminated dollar-quoted string"
  | differentDollarTag tag => "Unterminated dollar-quoted string at or near \"" ++ tag ++ "\""
  | missingDollar => "Unterminated dollar-quoted string, expected $"
  | unterminatedDollarTag => "Unterminated dollar-quoted, expected $"

/-- A fault and the place where it was noticed. -/
structure LexError where
  fault : LexFault
  position : Position
  deriving DecidableEq, Repr

/-- The wording of a fault with its place. -/
def LexError.message (error : LexError) : String :=
  error.fault.message ++ error.position.text

namespace Lexer

/-- A value that was read and the text after it. -/
abbrev Read (α : Type) := Option (α × List Char)

/-- Puts a character before a value that was read. -/
def Read.cons (c : Char) (read : Read (List Char)) : Read (List Char) :=
  read.map fun (value, rest) => (c :: value, rest)

/-- The character that a backslash and a letter stand for in quoted text. -/
def backslashed : Char → Char
  | '0' => Char.ofNat 0
  | 'b' => Char.ofNat 8
  | 'n' => '\n'
  | 'r' => '\r'
  | 't' => '\t'
  | 'Z' => Char.ofNat 26
  | c => c

/--
Reads quoted text after its opening quote.  A doubled quote stands for one quote; a backslash is an
escape only where the dialect says so.
-/
def quotedText (escapes : Bool) (quote : Char) : List Char → Read (List Char)
  | [] => none
  | c :: rest =>
    if c == quote then
      match rest with
      | second :: after =>
        if second == quote then Read.cons c (quotedText escapes quote after) else some ([], rest)
      | [] => some ([], [])
    else if escapes && c == '\\' then
      match rest with
      | letter :: after => Read.cons (backslashed letter) (quotedText escapes quote after)
      | [] => none
    else Read.cons c (quotedText escapes quote rest)

/-- The character that an escape in an escaped text stands for. -/
def controlLetter : Char → Char
  | 'n' => '\n'
  | 'r' => '\r'
  | 't' => '\t'
  | c => c

/-- Reads escaped text after its opening quote, knowing whether a backslash was just read. -/
def escapedText : Bool → List Char → Read (List Char)
  | _, [] => none
  | true, c :: rest => Read.cons (controlLetter c) (escapedText false rest)
  | false, '\'' :: '\'' :: rest => Read.cons '\'' (escapedText false rest)
  | false, '\'' :: rest => some ([], rest)
  | false, '\\' :: rest => escapedText true rest
  | false, c :: rest => Read.cons c (escapedText false rest)

/-- Reads a quoted name after its opening quote; a doubled closing quote stands for one. -/
def quotedName (closing : Char) : List Char → Read (List Char) :=
  quotedText false closing

/-- The text after a block comment, given how many comments are open and the last character. -/
def afterBlockComment : Nat → Char → List Char → Option (List Char)
  | _, _, [] => none
  | depth, last, c :: rest =>
    if last == '/' && c == '*' then afterBlockComment (depth + 1) c rest
    else if last == '*' && c == '/' then
      if depth ≤ 1 then some rest else afterBlockComment (depth - 1) c rest
    else afterBlockComment depth c rest

/-- The text after a comment that ends with its line. -/
def afterLine (text : List Char) : List Char :=
  (text.dropWhile (· != '\n')).drop 1

/-- Reads text between two pairs of dollar signs after the first pair. -/
def dollarText : Bool → List Char → Read (List Char)
  | _, [] => none
  | true, c :: rest =>
    if c == '$' then some ([], rest) else Read.cons '$' (Read.cons c (dollarText false rest))
  | false, c :: rest =>
    if c == '$' then dollarText true rest else Read.cons c (dollarText false rest)

/-- A fault and the text from the place where it was noticed. -/
abbrev Fault := LexFault × List Char

/-- What scanning yields: a token, or none for a blank or comment, and the text after it. -/
abbrev Scan := Except Fault (Option Token × List Char)

/-- Yields a token. -/
def found (token : Token) (rest : List Char) : Scan :=
  .ok (some token, rest)

/-- Yields a symbol. -/
def mark (symbol : Symbol) (rest : List Char) : Scan :=
  found (.symbol symbol) rest

/-- The text after the closing tag of a dollar-quoted text, whose dollar sign was just read. -/
def afterClosingTag (tag : String) : List Char → List Char → Except Fault (List Char)
  | [], '$' :: rest => .ok rest
  | [], rest => .error (.missingDollar, rest)
  | _ :: _, [] => .error (.differentDollarTag tag, [])
  | c :: letters, d :: rest =>
    if c == d then afterClosingTag tag letters rest else .error (.differentDollarTag tag, rest)

/-- Scans what a dollar sign starts: quoted text or a placeholder. -/
def scanDollar (rest : List Char) : Scan :=
  match rest with
  | '$' :: body =>
    match dollarText false body with
    | some (value, after) => found (.dollarQuoted none (String.ofList value)) after
    | none => .error (.unterminatedDollarText, [])
  | _ =>
    let inTag := fun c => Text.isAlphanumeric c || c == '_'
    let letters := rest.takeWhile inTag
    let tag := String.ofList letters
    match rest.dropWhile inTag with
    | '$' :: body =>
      match body.dropWhile (· != '$') with
      | '$' :: closing => do
        let after ← afterClosingTag tag letters closing
        let value := String.ofList (body.takeWhile (· != '$'))
        found (.dollarQuoted (if letters.isEmpty then none else some tag) value) after
      | _ => .error (.unterminatedDollarTag, [])
    | after => found (.placeholder ("$" ++ tag)) after

/-- The exponent at the start of a text, complete only if digits follow the sign. -/
def exponent (text : List Char) : List Char × Bool :=
  match text with
  | e :: rest =>
    if e == 'e' || e == 'E' then
      let sign := rest.take 1 |>.filter fun c => c == '+' || c == '-'
      let digits := (rest.drop sign.length).takeWhile Text.isAsciiDigit
      (e :: sign ++ digits, !digits.isEmpty)
    else ([], false)
  | [] => ([], false)

/-- Scans a number, a hexadecimal literal or a period. -/
def scanNumber (dialect : Dialect) (text : List Char) : Scan :=
  let whole := text.takeWhile Text.isAsciiDigit
  let afterWhole := text.drop whole.length
  match whole, afterWhole with
  | ['0'], 'x' :: digits =>
    let value := digits.takeWhile Text.isHexDigit
    found (.quoted .hex (String.ofList value)) (digits.drop value.length)
  | _, _ =>
    let point := afterWhole.take 1 |>.filter (· == '.')
    let afterPoint := afterWhole.drop point.length
    let fraction := if point.isEmpty then [] else afterPoint.takeWhile Text.isAsciiDigit
    let mantissa := whole ++ point ++ fraction
    let afterMantissa := afterPoint.drop fraction.length
    if mantissa == ['.'] then mark .period afterMantissa
    else
      let (scale, complete) := exponent afterMantissa
      let digits := if complete then mantissa ++ scale else mantissa
      let rest := if complete then afterMantissa.drop scale.length else afterMantissa
      let letters :=
        if dialect = .mySql && scale.isEmpty then rest.takeWhile dialect.continuesName else []
      if letters.isEmpty then
        match rest with
        | 'L' :: after => found (.number (String.ofList digits) true) after
        | _ => found (.number (String.ofList digits) false) rest
      else found (.word (.plain (digits ++ letters))) (rest.drop letters.length)

/-- Scans a word whose first letters were read. -/
def scanWord (dialect : Dialect) (first rest : List Char) : Scan :=
  let letters := rest.takeWhile dialect.continuesName
  found (.word (.plain (first ++ letters))) (rest.drop letters.length)

/-- Scans text in quotes after its opening quote; a fault is noticed at `start`. -/
def scanQuoted (dialect : Dialect) (form : QuotedForm) (quote : Char) (start rest : List Char) :
    Scan :=
  match quotedText (dialect = .mySql) quote rest with
  | some (value, after) => found (.quoted form (String.ofList value)) after
  | none => .error (.unterminatedText, start)

/-- Scans a name in quotes. -/
def scanQuotedName (quote : Char) (start rest : List Char) : Scan :=
  match quotedName (closingQuote quote) rest with
  | some (value, after) => found (.word (.quoted quote value)) after
  | none => .error (.unclosedName (closingQuote quote), start)

/-- Scans what `#` or `@` starts where the character may start a name. -/
def scanNameSign (dialect : Dialect) (sign : Char) (first rest : List Char) (symbol : Symbol) :
    Scan :=
  match rest with
  | [] => mark symbol rest
  | ' ' :: _ => mark symbol rest
  | c :: after =>
    if dialect.startsName sign then scanWord dialect (first ++ [c]) after else mark symbol rest

/-- Scans a letter that introduces a form of quoted text when a quote follows it. -/
def scanIntroduced (dialect : Dialect) (letter : Char) (forms : List (Char × QuotedForm))
    (rest : List Char) : Scan :=
  match rest with
  | quote :: body =>
    match forms.lookup quote with
    | some form => scanQuoted dialect form quote rest body
    | none => scanWord dialect [letter] rest
  | [] => scanWord dialect [letter] rest

/-- Scans punctuation and operators, and what is left when nothing else applies. -/
def scanSymbol (dialect : Dialect) (c : Char) (rest : List Char) : Scan :=
  match c, rest with
  | '(', _ => mark .openParen rest
  | ')', _ => mark .closeParen rest
  | ',', _ => mark .comma rest
  | '-', '-' :: after => .ok (none, afterLine after)
  | '-', '>' :: '>' :: after => mark .longArrow after
  | '-', '>' :: after => mark .arrow after
  | '-', _ => mark .minus rest
  | '/', '*' :: after =>
    match afterBlockComment 1 ' ' after with
    | some behind => .ok (none, behind)
    | none => .error (.unterminatedComment, [])
  | '/', '/' :: after =>
    if dialect = .duckDb || dialect = .generic then mark .integerDivide after
    else mark .divide rest
  | '/', _ => mark .divide rest
  | '+', _ => mark .plus rest
  | '*', _ => mark .times rest
  | '%', _ => mark .modulo rest
  | '|', '/' :: after => mark .squareRoot after
  | '|', '|' :: '/' :: after => mark .cubeRoot after
  | '|', '|' :: after => mark .concat after
  | '|', _ => mark .pipe rest
  | '=', '>' :: after => mark .fatArrow after
  | '=', '=' :: after => mark .doubleEqual after
  | '=', _ => mark .equal rest
  | '!', '=' :: after => mark .notEqual after
  | '!', '!' :: after => mark .doubleExclamation after
  | '!', '~' :: '*' :: after => mark .notTildeStar after
  | '!', '~' :: after => mark .notTilde after
  | '!', _ => mark .exclamation rest
  | '<', '=' :: '>' :: after => mark .spaceship after
  | '<', '=' :: after => mark .lessEqual after
  | '<', '>' :: after => mark .notEqual after
  | '<', '<' :: after => mark .shiftLeft after
  | '<', '@' :: after => mark .arrowAt after
  | '<', _ => mark .less rest
  | '>', '=' :: after => mark .greaterEqual after
  | '>', '>' :: after => mark .shiftRight after
  | '>', _ => mark .greater rest
  | ':', ':' :: after => mark .doubleColon after
  | ':', '=' :: after => mark .assign after
  | ':', _ => mark .colon rest
  | ';', _ => mark .semicolon rest
  | '\\', _ => mark .backslash rest
  | '[', _ => mark .openBracket rest
  | ']', _ => mark .closeBracket rest
  | '&', '&' :: after => mark .doubleAmpersand after
  | '&', _ => mark .ampersand rest
  | '^', _ => mark .caret rest
  | '\x7b', _ => mark .openBrace rest
  | '\x7d', _ => mark .closeBrace rest
  | '~', '*' :: after => mark .tildeStar after
  | '~', _ => mark .tilde rest
  | '#', '-' :: after => mark .hashMinus after
  | '#', '>' :: '>' :: after => mark .hashLongArrow after
  | '#', '>' :: after => mark .hashArrow after
  | '#', _ => scanNameSign dialect '#' ['#'] rest .sharp
  | '@', '>' :: after => mark .atArrow after
  | '@', '?' :: after => mark .atQuestion after
  | '@', '@' :: after => scanNameSign dialect '@' ['@', '@'] after .doubleAt
  | '@', _ => scanNameSign dialect '@' ['@'] rest .atSign
  | '?', _ =>
    let digits := rest.takeWhile Text.isNumeric
    found (.placeholder (String.ofList ('?' :: digits))) (rest.drop digits.length)
  | _, _ =>
    if dialect.startsName c then scanWord dialect [c] rest
    else if c == '$' then scanDollar rest
    else if Text.isBlank c then .ok (none, rest)
    else found (.stray c) rest

/-- Scans the token, blank or comment that starts with the given character. -/
def scan (dialect : Dialect) (c : Char) (rest : List Char) : Scan :=
  match c with
  | ' ' | '\t' | '\n' | '\r' => .ok (none, rest)
  | 'b' | 'B' =>
    if dialect = .generic then
      scanIntroduced dialect c [('\'', .bytes), ('"', .doubleBytes)] rest
    else scanWord dialect [c] rest
  | 'r' | 'R' =>
    if dialect = .generic then scanIntroduced dialect c [('\'', .raw), ('"', .raw)] rest
    else scanWord dialect [c] rest
  | 'n' | 'N' => scanIntroduced dialect c [('\'', .national)] rest
  | 'e' | 'E' =>
    match rest with
    | '\'' :: body =>
      match escapedText false body with
      | some (value, after) => found (.quoted .escaped (String.ofList value)) after
      | none => .error (.unterminatedEscapedText, c :: rest)
    | _ => scanWord dialect [c] rest
  | 'x' | 'X' => scanIntroduced dialect c [('\'', .hex)] rest
  | '\'' => scanQuoted dialect .single '\'' (c :: rest) rest
  | _ =>
    if dialect.opensQuotedName c then scanQuotedName c (c :: rest) rest
    else if c == '"' then scanQuoted dialect .double '"' (c :: rest) rest
    else if Text.isAsciiDigit c || c == '.' then scanNumber dialect (c :: rest)
    else if c.isAlpha then scanWord dialect [c] rest
    else scanSymbol dialect c rest

/-- The place of `rest`, which ends the text that starts at the given place. -/
def positionOf (start : Position) (text rest : List Char) : Position :=
  (text.take (text.length - rest.length)).foldl Position.next start

/-- The tokens of a text that starts at a place, in at most the given number of steps. -/
def tokensFrom (dialect : Dialect) : Nat → Position → List Char → Except LexError (List Located)
  | 0, _, _ => .ok []
  | _, _, [] => .ok []
  | steps + 1, position, c :: rest =>
    match scan dialect c rest with
    | .error (fault, behind) => .error ⟨fault, positionOf position (c :: rest) behind⟩
    | .ok (token, behind) =>
      match tokensFrom dialect steps (positionOf position (c :: rest) behind) behind with
      | .error error => .error error
      | .ok tokens =>
        match token with
        | some token => .ok (⟨token, position⟩ :: tokens)
        | none => .ok tokens

end Lexer

/-- The tokens of a query with their places. -/
def locatedTokens (dialect : Dialect) (text : String) : Except LexError (List Located) :=
  Lexer.tokensFrom dialect text.toList.length Position.start text.toList

/-- The tokens of a query. -/
def tokens (dialect : Dialect) (text : String) : Except LexError (List Token) :=
  (locatedTokens dialect text).map fun located => located.map (·.token)

end Querent.Sql
