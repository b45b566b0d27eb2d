import RequestPipeline.Failure

/-!
# Words of the command line

A header is typed as a name and a value with a colon between them, and a body as JSON; a body that
is not JSON is sent as it was typed.
-/

namespace RequestPipeline.CommandLine

/-- The name and the value of a header, without the blanks around them. -/
def parseHeader (typed : String) : Except Failure.Reason (List Char × List Char) :=
  match Url.cut ':' typed.toList with
  | (name, some value) =>
    if (Text.trim name).isEmpty then .error (.badHeader typed)
    else .ok (Text.trim name, Text.trim value)
  | (_, none) => .error (.badHeader typed)

/-- The payload of a body: the value of a JSON text, or else the bytes of the text. -/
def parseBody (typed : String) : Except Failure.Reason Value :=
  match Json.read typed with
  | .ok v => .ok v
  | .error (.badSyntax _ _ _ _) => .ok (.bytes (Text.encodeUtf8 typed.toList))
  | .error fault => .error (.json fault)

end RequestPipeline.CommandLine
