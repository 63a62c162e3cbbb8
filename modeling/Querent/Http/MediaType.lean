import Querent.Text.Case

/-!
# Media types

What a body is said to be: a type and a subtype, perhaps with a suffix that tells its general form,
and parameters.  Letter case does not matter.
-/

namespace Querent.Http

/-- Whether a character may stand in a name of a media type. -/
def isTokenChar (c : Char) : Bool :=
  c.isAlphanum || "!#$%&'*+-.^_\x60|~".toList.contains c

/-- Whether a character may stand between quotes in a parameter. -/
def isQuotedChar (c : Char) : Bool :=
  32 ≤ c.toNat && c.toNat < 127

/-- Whether a text is the rest of a parameter in quotes, and of the parameters after it. -/
def closesQuote (text : List Char) : Option (List Char) :=
  let body := text.takeWhile fun c => isQuotedChar c && c != '"'
  match text.drop body.length with
  | '"' :: rest =>
    if body.isEmpty then none
    else
      match rest.dropWhile (· == ' ') with
      | [] => some []
      | ';' :: more => some more
      | _ => none
  | _ => none

/-- Whether a text is a list of at most so many parameters. -/
def areParameters : Nat → List Char → Bool
  | 0, _ => false
  | count + 1, text =>
    let text := text.dropWhile (· == ' ')
    let name := text.takeWhile isTokenChar
    match text.drop name.length with
    | '=' :: '"' :: rest =>
      !name.isEmpty &&
        match closesQuote rest with
        | some [] => true
        | some more => areParameters count more
        | none => false
    | '=' :: rest =>
      let value := rest.takeWhile isTokenChar
      !name.isEmpty &&
        match rest.drop value.length with
        | [] => true
        | ';' :: more => !value.isEmpty && areParameters count more
        | _ => false
    | _ => false

/-- The part of a subtype before its suffix, and the suffix. -/
def splitSuffix (subtype : List Char) : List Char × Option (List Char) :=
  let suffix := (subtype.reverse.takeWhile (· != '+')).reverse
  let before := subtype.take (subtype.length - suffix.length - 1)
  if suffix.length == subtype.length || before.isEmpty then (subtype, none)
  else (before, some suffix)

/-- Whether a media type is that of a document. -/
def isDocumentType (text : String) : Bool :=
  let lower := Text.lowerAscii text.toList
  let type := lower.takeWhile isTokenChar
  match lower.drop type.length with
  | '/' :: rest =>
    let subtype := rest.takeWhile isTokenChar
    let parameters := rest.drop subtype.length
    let (name, suffix) := splitSuffix subtype
    let wellFormed := match parameters with
      | [] => true
      | mark :: more => (mark == ';' || mark == ' ') && areParameters (more.length + 1) more
    type == "application".toList && wellFormed &&
      (name == "json".toList || suffix == some "json".toList)
  | _ => false

end Querent.Http
