import Querent.Json.Basic
import Querent.Text.Digit

/-!
# Requests and responses

What the service is sent and what it sends back.  The target of a request has a path and perhaps a
query, which is a list of names with values; in the query a plus sign stands for a blank, and a
percent sign with two hexadecimal digits for a byte.
-/

namespace Querent.Http

/-- What the service is sent. -/
structure Request where
  method : String
  path : String
  query : String
  contentType : Option String
  body : String
  deriving DecidableEq, Repr

/-- The body of a response. -/
inductive Body where
  | document (content : Json)
  | text (content : String)

/-- What the service sends back. -/
structure Response where
  status : Nat
  body : Body

/-- A response without a body. -/
def Response.bare (status : Nat) : Response :=
  ⟨status, .text ""⟩

/-- A request to a target, which may have a query after a question mark. -/
def Request.ofTarget (method target : String) (contentType : Option String) (body : String) :
    Request :=
  let plain := target.toList.takeWhile (· != '#')
  let path := plain.takeWhile (· != '?')
  ⟨method, String.ofList path, String.ofList (plain.drop (path.length + 1)), contentType, body⟩

/-- The character for a byte; bytes of other characters than those of ASCII are not told apart. -/
def byteChar (byte : Nat) : Char :=
  if byte < 128 then Char.ofNat byte else '\ufffd'

/-- A name or a value in a query as it is meant. -/
def decoded : List Char → List Char
  | '%' :: high :: low :: rest =>
    if Text.isHexDigit high && Text.isHexDigit low then
      byteChar (Text.hexDigitValue high * 16 + Text.hexDigitValue low) :: decoded rest
    else '%' :: decoded (high :: low :: rest)
  | '+' :: rest => ' ' :: decoded rest
  | c :: rest => c :: decoded rest
  | [] => []

/-- A name and the value after an equals sign, which may be left out. -/
def splitPair (text : List Char) : String × String :=
  let name := text.takeWhile (· != '=')
  (String.ofList (decoded name), String.ofList (decoded (text.drop (name.length + 1))))

/-- The names and values in a query. -/
def queryPairs (query : String) : List (String × String) :=
  ((query.toList.splitOn '&').filter (!·.isEmpty)).map splitPair

end Querent.Http
