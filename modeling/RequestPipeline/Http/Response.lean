import RequestPipeline.Http.Headers
import RequestPipeline.Http.Status
import RequestPipeline.Json.Reader
import RequestPipeline.Text.Codec
import RequestPipeline.Text.LetterCase

/-!
# Responses

A response has a status, header fields and a body.  The body reads as JSON in an encoding found from
its first bytes, and as text by the codec that goes by the character set in its headers.  The codecs
belong to the program that receives the response, so a response carries the one that was found for
it.  Without a name, or with one that no codec has, the text is UTF-8.
-/

namespace RequestPipeline

open Text (Bytes Codec CodecFault Codecs Str)

/-- The answer to a request. -/
structure Response where
  status : Int
  headers : Headers
  body : Bytes
  /-- The codec for the text of the body. -/
  codec : Codec

namespace MediaType

/-- Cuts at semicolons outside quotes. -/
def parameters (inQuotes : Bool) (current : List Char) : List Char → List (List Char)
  | [] => [current.reverse]
  | '\\' :: '"' :: rest => parameters inQuotes ('"' :: '\\' :: current) rest
  | '"' :: rest => parameters (!inQuotes) ('"' :: current) rest
  | ';' :: rest =>
    if inQuotes then parameters inQuotes (';' :: current) rest
    else current.reverse :: parameters false [] rest
  | c :: rest => parameters inQuotes (c :: current) rest

/-- Reads the escapes inside quotes. -/
def unescape : List Char → List Char
  | '\\' :: '\\' :: rest => '\\' :: unescape rest
  | '\\' :: '"' :: rest => '"' :: unescape rest
  | c :: rest => c :: unescape rest
  | [] => []

/-- A value without quotes or angle brackets around it. -/
def unquote (s : List Char) : List Char :=
  if 1 < s.length ∧ s.head? = some '"' ∧ s.getLast? = some '"' then unescape s.tail.dropLast
  else if 1 < s.length ∧ s.head? = some '<' ∧ s.getLast? = some '>' then s.tail.dropLast
  else s

/-- The name and value of a parameter. -/
def nameAndValue (parameter : List Char) : List Char × List Char :=
  let name := parameter.takeWhile (· != '=')
  (Text.lower (Text.trim name), unquote (Text.trim (parameter.drop (name.length + 1))))

/-- The character set that a content type declares. -/
def charset? (contentType : List Char) : Option String :=
  match (parameters false [] contentType).map nameAndValue |>.find? fun (name, _) =>
      name == "charset".toList with
  | some (_, value) =>
    if value.all isAscii then some (String.ofList (value.map Char.toLower)) else none
  | none => none

end MediaType

namespace Response

/-- The codec for the text of a message, by the character set that its headers declare. -/
def codecIn (codecs : Codecs) (headers : Headers) : Codec :=
  (((headers.get? "content-type").bind MediaType.charset?).bind codecs).getD .utf8

/-- A response received where `codecs` are known.  The length of a body that is not empty stands in
the headers unless they give one. -/
def receivedBy (codecs : Codecs) (status : Int) (headers : Headers) (body : Bytes) : Response :=
  { status, body
    headers := if body.isEmpty then headers
      else headers.setDefault "content-length" (toString body.length)
    codec := codecIn codecs headers }

/-- A response received where the codecs of this library are known. -/
def received : Int → Headers → Bytes → Response := receivedBy Codec.builtin

/-- The placeholder for the response of a request that got none. -/
def missing : Response := ⟨0, Headers.empty, [], .utf8⟩

def isSuccess (r : Response) : Bool := Status.isSuccess r.status

/-- The body as text. -/
def text (r : Response) : Except CodecFault Str :=
  if r.body.isEmpty then .ok [] else r.codec.decode r.body

/-- The body as JSON. -/
def json (r : Response) : Except Json.Fault Value := Json.readBytes r.body

/-- The `Location` of a redirect. -/
def location? (r : Response) : Option (List Char) :=
  if Status.redirects r.status then r.headers.get? "location" else none

end Response

end RequestPipeline
