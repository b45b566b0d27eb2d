import RequestPipeline.Text.LetterCase
import RequestPipeline.Text.Quoted
import RequestPipeline.Url.Domain
import RequestPipeline.Url.Percent

/-!
# URLs

`Url.read` cuts a URL into its parts and puts them into normal form: scheme and host in lower case,
no port where it is the scheme's own, dot segments followed, and characters escaped that a part may
not hold.  `Url.text` puts the parts together again.  `UrlFault` has the ways in which a text is no
URL, with the messages they are reported by.
-/

namespace RequestPipeline

/-- A URL in its normal form. -/
structure Url where
  scheme : List Char
  /-- The name and password in front of the host. -/
  userInfo : List Char
  /-- An address of eight groups stands here without its brackets. -/
  host : List Char
  port : Option Int
  path : List Char
  query : Option (List Char)
  fragment : Option (List Char)
  deriving DecidableEq, Repr

/-- What may be wrong with a URL. -/
inductive UrlFault where
  | tooLong
  | notPrintable (c : Char) (position : Nat)
  | badFourParts (host : List Char)
  | badEightGroups (host : List Char)
  | badDomain (host : List Char)
  | badPort (port : List Char)
  /-- There is a host, and the path does not begin with a slash. -/
  | looseAbsolutePath
  /-- There is neither scheme nor host, and the path begins with two slashes. -/
  | doubleSlash
  /-- There is neither scheme nor host, and the path begins with a colon. -/
  | leadingColon
  deriving DecidableEq, Repr

/-- The fault in words. -/
def UrlFault.message : UrlFault → List Char
  | .tooLong => "URL too long".toList
  | .notPrintable c position =>
    "Invalid non-printable ASCII character in URL, ".toList ++ Text.quoted [c]
      ++ s!" at position {position}.".toList
  | .badFourParts host => "Invalid IPv4 address: ".toList ++ Text.quoted host
  | .badEightGroups host => "Invalid IPv6 address: ".toList ++ Text.quoted host
  | .badDomain host => "Invalid IDNA hostname: ".toList ++ Text.quoted host
  | .badPort port => "Invalid port: ".toList ++ Text.quoted port
  | .looseAbsolutePath =>
    "For absolute URLs, path must be empty or begin with ".toList ++ Text.quoted ['/']
  | .doubleSlash =>
    "Relative URLs cannot have a path starting with ".toList ++ Text.quoted ['/', '/']
  | .leadingColon =>
    "Relative URLs cannot have a path starting with ".toList ++ Text.quoted [':']

namespace Url

/-! ## Parts of a text -/

/-- A text cut into the parts of a URL, of which none has been checked. -/
structure Parts where
  scheme : List Char
  userInfo : List Char
  host : List Char
  port : List Char
  path : List Char
  query : Option (List Char)
  fragment : Option (List Char)
  deriving DecidableEq, Repr

/-- What stands before the first `mark`, and what stands after it if it is there. -/
def cut (mark : Char) (s : List Char) : List Char × Option (List Char) :=
  match s.dropWhile (· != mark) with
  | [] => (s, none)
  | _ :: rest => (s.takeWhile (· != mark), some rest)

/-- What stands before and after the last `mark`, if it is there. -/
def cutLast? (mark : Char) (s : List Char) : Option (List Char × List Char) :=
  match cut mark s.reverse with
  | (_, none) => none
  | (after, some before) => some (before.reverse, after.reverse)

def isSchemeChar (c : Char) : Bool := c.isAlphanum || c == '+' || c == '-' || c == '.'

/-- A scheme is empty or begins with a letter. -/
def isScheme : List Char → Bool
  | [] => true
  | c :: rest => c.isAlpha && rest.all isSchemeChar

/-- The scheme in front of the first colon; a colon at the beginning is an empty one. -/
def cutScheme (s : List Char) : List Char × List Char :=
  match cut ':' s with
  | (scheme, some rest) => if isScheme scheme then (scheme, rest) else ([], s)
  | (_, none) => ([], s)

/-- The host and port of an authority; brackets hold a host with colons in it. -/
def cutHost (s : List Char) : List Char × List Char :=
  let afterColon : List Char → List Char
    | ':' :: port => port
    | port => port
  match s, cutLast? ']' s with
  | '[' :: _, some (inside, after) => (inside ++ [']'], afterColon after)
  | _, _ =>
    let host := s.takeWhile fun c => c != ':' && c != '@'
    (host, afterColon (s.drop host.length))

/-- A text cut at the marks between the parts of a URL. -/
structure Cuts where
  scheme : List Char
  authority : List Char
  path : List Char
  query : Option (List Char)
  fragment : Option (List Char)
  deriving DecidableEq, Repr

def Cuts.read (s : List Char) : Cuts :=
  let (scheme, rest) := cutScheme s
  let (authority, rest) := match rest with
    | '/' :: '/' :: more =>
      let authority := more.takeWhile fun c => c != '/' && c != '?' && c != '#'
      (authority, more.drop authority.length)
    | _ => ([], rest)
  let (hierarchy, fragment) := cut '#' rest
  let (path, query) := cut '?' hierarchy
  { scheme, authority, path, query, fragment }

def Parts.read (s : List Char) : Parts :=
  let cuts := Cuts.read s
  let (userInfo, address) := (cutLast? '@' cuts.authority).getD ([], cuts.authority)
  let (host, port) := cutHost address
  { scheme := cuts.scheme, userInfo, host, port
    path := cuts.path, query := cuts.query, fragment := cuts.fragment }

/-! ## Checks and normal forms -/

def lowerAscii (s : List Char) : List Char := s.map Char.toLower

/-- The host in the form that goes on the wire. -/
def normalHost (host : List Char) : Except UrlFault (List Char) :=
  if host.isEmpty then .ok []
  else if looksLikeFourParts host then
    if isFourParts host then .ok host else .error (.badFourParts host)
  else if host.head? = some '[' ∧ host.getLast? = some ']' then
    let address := host.tail.dropLast
    if isEightGroups address then .ok address else .error (.badEightGroups host)
  else if host.all fun c => c.toNat < 128 then .ok (escape keptInHost (lowerAscii host))
  else match Domain.asciiName? (Text.lower host) with
    | some name => .ok name
    | none => .error (.badDomain host)

/-- The port that a scheme implies. -/
def impliedPort? (scheme : List Char) : Option Int :=
  match String.ofList scheme with
  | "ftp" => some 21
  | "http" => some 80
  | "https" => some 443
  | "ws" => some 80
  | "wss" => some 443
  | _ => none

/-- The port, unless it is empty or the scheme implies it. -/
def normalPort (scheme port : List Char) : Except UrlFault (Option Int) :=
  if port.isEmpty then .ok none
  else match Decimal.readWhole? port with
    | some n => .ok (if impliedPort? scheme = some n then none else some n)
    | none => .error (.badPort port)

/-- A path that cannot be told from other parts is refused. -/
def checkPath (hasScheme hasAuthority : Bool) (path : List Char) : Except UrlFault Unit :=
  if hasAuthority then
    if !path.isEmpty && path.head? != some '/' then .error .looseAbsolutePath else .ok ()
  else if hasScheme then .ok ()
  else match path with
    | '/' :: '/' :: _ => .error .doubleSlash
    | ':' :: _ => .error .leadingColon
    | _ => .ok ()

/-- Follows the segments of a path: one dot stays, two dots go back unless at the beginning. -/
def followDots : (followed : List (List Char)) → List (List Char) → List (List Char)
  | followed, [] => followed.reverse
  | followed, segment :: rest =>
    if segment = ['.'] then followDots followed rest
    else if segment = ['.', '.'] then
      followDots (if followed = [[]] then followed else followed.tail) rest
    else followDots (segment :: followed) rest

def withoutDots (path : List Char) : List Char :=
  ['/'].intercalate (followDots [] (splitAll '/' path))

/-- The URL of parts, or the first fault. -/
def ofParts (p : Parts) : Except UrlFault Url := do
  let host ← normalHost p.host
  let port ← normalPort p.scheme p.port
  let scheme := lowerAscii p.scheme
  let userInfo := escape keptInUserInfo p.userInfo
  let hasScheme := !scheme.isEmpty
  let hasAuthority := !userInfo.isEmpty || !host.isEmpty || port.isSome
  checkPath hasScheme hasAuthority p.path
  let path := if hasScheme || hasAuthority then withoutDots p.path else p.path
  pure
    { scheme, userInfo, host, port
      path := escape keptInPath path
      query := p.query.map (escape keptInQuery)
      fragment := p.fragment.map (escape keptInFragment) }

def lengthLimit : Nat := 65536

/-- Control characters of ASCII. -/
def isControl (c : Char) : Bool := c.toNat < 0x20 || c.toNat == 0x7f

/-- The URL of a text. -/
def read (s : List Char) : Except UrlFault Url :=
  if lengthLimit < s.length then .error .tooLong
  else match s.dropWhile (fun c => !isControl c) with
    | c :: rest => .error (.notPrintable c (s.length - rest.length - 1))
    | [] => ofParts (Parts.read s)

/-! ## Text -/

/-- Brackets around a host with colons in it. -/
def hostText (u : Url) : List Char :=
  if u.host.contains ':' then '[' :: (u.host ++ [']']) else u.host

def portText (u : Url) : List Char :=
  match u.port with
  | some n => ':' :: (toString n).toList
  | none => []

/-- Host and port, as requests name the host they go to. -/
def netLocation (u : Url) : List Char := u.hostText ++ u.portText

/-- User, host and port. -/
def authority (u : Url) : List Char :=
  (if u.userInfo.isEmpty then [] else u.userInfo ++ ['@']) ++ u.netLocation

def queryText (u : Url) : List Char := (u.query.map ('?' :: ·)).getD []

def text (u : Url) : List Char :=
  (if u.scheme.isEmpty then [] else u.scheme ++ [':'])
    ++ (if u.authority.isEmpty then [] else '/' :: '/' :: u.authority)
    ++ u.path ++ u.queryText ++ (u.fragment.map ('#' :: ·)).getD []

/-! ## Derived URLs -/

/-- A URL with scheme and host says by itself where it leads. -/
def isAbsolute (u : Url) : Bool := !u.scheme.isEmpty && !u.host.isEmpty

/-- The parts of a URL, to be changed and read again. -/
def parts (u : Url) : Parts :=
  let host := u.hostText
  { scheme := u.scheme, userInfo := u.userInfo, host, port := u.portText.drop 1
    path := u.path, query := u.query, fragment := u.fragment }

/-- The user before the first colon and the password after it, their escapes read. -/
def credentials? (u : Url) : Option (List Char × List Char) :=
  let (user, password) := cut ':' u.userInfo
  let user := unescape user
  let password := unescape (password.getD [])
  if user.isEmpty && password.isEmpty then none else some (user, password)

/-- The port of the URL or the one its scheme implies to web clients. -/
def effectivePort? (u : Url) : Option Int :=
  u.port.or (if u.scheme = "http".toList then some 80
    else if u.scheme = "https".toList then some 443 else none)

/-- Scheme, host and port agree. -/
def sameOrigin (u v : Url) : Bool :=
  u.scheme == v.scheme && u.host == v.host && u.effectivePort? == v.effectivePort?

/-- The second URL is the first one made secure. -/
def isUpgrade (u v : Url) : Bool :=
  u.host == v.host && u.scheme == "http".toList && u.effectivePort? == some 80
    && v.scheme == "https".toList && v.effectivePort? == some 443

/-- A URL that does not say where it leads becomes a path from the root. -/
def rooted (u : Url) : Url :=
  if u.isAbsolute then u
  else { scheme := [], userInfo := [], host := [], port := none
         path := '/' :: u.path.dropWhile (· == '/'), query := u.query, fragment := none }

end Url

end RequestPipeline
