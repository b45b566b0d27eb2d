import RequestPipeline.Url

/-!
# References

A reference names a URL as seen from another one, its base: what the reference leaves out is taken
from the base, and a path without a slash in front stands beside the last segment of the base's
path.  `Url.redirectTarget` reads the `Location` of a redirecting answer as such a reference.
-/

namespace RequestPipeline.Url

/-- Schemes whose URLs have references; among them is the missing one. -/
def referenceSchemes : List String := ["", "ftp", "http", "gopher", "nntp", "imap", "wais", "file",
  "https", "shttp", "mms", "prospero", "rtsp", "rtsps", "rtspu", "sftp", "svn", "svn+ssh", "ws",
  "wss"]

/-- Schemes of which the last segment of a path may carry parameters. -/
def parameterSchemes : List String := ["", "ftp", "prospero", "http", "imap", "https", "shttp",
  "rtsp", "rtsps", "rtspu", "mms", "sftp"]

/-- The last segment of a path ends at its first semicolon; parameters follow. -/
def cutParameters (scheme path : List Char) : List Char × List Char :=
  if parameterSchemes.contains (String.ofList scheme) then
    let segments := splitAll '/' path
    let (name, parameters) := cut ';' (segments.getLast?.getD [])
    (['/'].intercalate (segments.dropLast ++ [name]), parameters.getD [])
  else (path, [])

/-- Follows dots between segments; going back from the beginning stays there. -/
def followAll : (followed : List (List Char)) → List (List Char) → List (List Char)
  | followed, [] => followed.reverse
  | followed, segment :: rest =>
    if segment = ['.', '.'] then followAll followed.tail rest
    else if segment = ['.'] then followAll followed rest
    else followAll (segment :: followed) rest

/-- Leaves out empty segments other than the first and the last. -/
def withoutInnerGaps : List (List Char) → List (List Char)
  | [] => []
  | first :: rest => match rest.getLast? with
    | none => [first]
    | some last => first :: (rest.dropLast.filter (fun s => !s.isEmpty) ++ [last])

/-- The path that a reference's path names beside a base path. -/
def joinPaths (base path : List Char) : List Char :=
  let steps := splitAll '/' path
  let segments :=
    if path.head? = some '/' then steps
    else
      let beside := splitAll '/' base
      let directory := if beside.getLast? = some [] then beside else beside.dropLast
      withoutInnerGaps (directory ++ steps)
  let followed := followAll [] segments
  let last := segments.getLast?.getD []
  let closed := if last = ['.'] ∨ last = ['.', '.'] then followed ++ [[]] else followed
  let joined := ['/'].intercalate closed
  if joined.isEmpty then ['/'] else joined

/-- The text of parts; queries and fragments without text are left out. -/
def assemble (scheme netLocation path query fragment : List Char) : List Char :=
  let located :=
    if !netLocation.isEmpty || !scheme.isEmpty || ['/', '/'].isPrefixOf path then
      let path := if path.isEmpty || path.head? = some '/' then path else '/' :: path
      '/' :: '/' :: (netLocation ++ path)
    else path
  (if scheme.isEmpty then [] else scheme ++ [':']) ++ located
    ++ (if query.isEmpty then [] else '?' :: query)
    ++ (if fragment.isEmpty then [] else '#' :: fragment)

/-- The text of the URL that the text of a reference names as seen from `base`. -/
def join (base : Url) (reference : List Char) : List Char :=
  let given := Cuts.read reference
  let scheme := if given.scheme.isEmpty then base.scheme else lowerAscii given.scheme
  let query := given.query.getD []
  let fragment := given.fragment.getD []
  if base.text.isEmpty then reference
  else if reference.isEmpty then base.text
  else if scheme ≠ base.scheme ∨ ¬ referenceSchemes.contains (String.ofList scheme) then
    reference
  else
    let (path, parameters) := cutParameters scheme given.path
    let withParameters (path parameters : List Char) :=
      if parameters.isEmpty then path else path ++ ';' :: parameters
    let (basePath, baseParameters) := cutParameters base.scheme base.path
    if !given.authority.isEmpty then
      assemble scheme given.authority (withParameters path parameters) query fragment
    else if path.isEmpty && parameters.isEmpty then
      let query := if query.isEmpty then base.query.getD [] else query
      assemble scheme base.authority (withParameters basePath baseParameters) query fragment
    else
      assemble scheme base.authority (withParameters (joinPaths basePath path) parameters) query
        fragment

/-- What is wrong with the place a redirecting response names. -/
inductive RedirectFault where
  /-- The place itself is no URL. -/
  | location (fault : UrlFault)
  /-- Seen from the request's URL it is none. -/
  | target (fault : UrlFault)
  deriving DecidableEq, Repr

/-- The URL that a redirecting response names to a request for `current`: a host and a fragment are
kept where the new URL has none. -/
def redirectTarget (current : Url) (location : List Char) : Except RedirectFault Url := do
  let named ← (read location).mapError .location
  let hosted ←
    if !named.scheme.isEmpty && named.host.isEmpty then
      (ofParts { named.parts with host := current.hostText }).mapError .target
    else pure named
  let joined ←
    if hosted.isAbsolute then pure hosted
    else (read (current.join hosted.text)).mapError .target
  match current.fragment with
  | some (c :: rest) =>
    if (joined.fragment.getD []).isEmpty then
      (ofParts { joined.parts with fragment := some (c :: rest) }).mapError .target
    else pure joined
  | _ => pure joined

end RequestPipeline.Url
