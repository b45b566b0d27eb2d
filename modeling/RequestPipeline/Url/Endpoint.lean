import RequestPipeline.Url

/-!
# Endpoints and paths

`joinPath` appends the path of an operation to an endpoint.  A query belongs to the operation: the
endpoint's own is dropped as soon as there is a path.  `withScheme` puts `http://` or `https://` in
front of an endpoint in which `hasScheme` finds no scheme.
-/

namespace RequestPipeline.Url

/-- What stands before the first question mark. -/
def beforeQuery (s : List Char) : List Char := (cut '?' s).1

/-- What stands behind the first question mark. -/
def afterQuery (s : List Char) : List Char := (cut '?' s).2.getD []

/-- Two texts with one slash at the seam where both have one there. -/
def seam (front back : List Char) : List Char :=
  match back with
  | '/' :: rest => if front.getLast? = some '/' then front ++ rest else front ++ back
  | _ => front ++ back

/-- The target of an endpoint and a path; without a path it is the endpoint. -/
def joinPath (endpoint path : List Char) : List Char :=
  if path.isEmpty then endpoint
  else
    let base := seam (beforeQuery endpoint) (beforeQuery path)
    let query := afterQuery path
    if query.isEmpty then base else base ++ '?' :: query

/-- Something stands before the first colon, and two slashes behind it. -/
def hasScheme (endpoint : List Char) : Bool :=
  match cut ':' endpoint with
  | (_ :: _, some ('/' :: '/' :: _)) => true
  | _ => false

/-- The scheme put in front of an endpoint that has none. -/
def impliedScheme (disableSsl : Bool) : List Char :=
  if disableSsl then "http://".toList else "https://".toList

/-- An endpoint with a scheme. -/
def withScheme (endpoint : List Char) (disableSsl : Bool) : List Char :=
  if hasScheme endpoint then endpoint else impliedScheme disableSsl ++ endpoint

end RequestPipeline.Url
