import ContractSuite.Text.FormEncoded
import ContractSuite.Url.Host

namespace ContractSuite.Url

/-- White space that is ignored inside an address. -/
def isIgnored (c : Char) : Bool :=
  c == '\t' || c == '\n' || c == '\r'

/-- Characters that are ignored at the two ends of an address. -/
def isMargin (c : Char) : Bool :=
  c.toNat ≤ 0x20

/-- A text without what is ignored in an address. -/
def cleaned (s : List Char) : List Char :=
  let inner := ((s.dropWhile isMargin).reverse.dropWhile isMargin).reverse
  inner.filter (!isIgnored ·)

/-- A slash of either kind. -/
def isSlash (c : Char) : Bool :=
  c == '/' || c == '\\'

/-- Characters with which the authority of an address ends. -/
def endsAuthority (c : Char) : Bool :=
  isSlash c || c == '?' || c == '#'

/-- Characters that are escaped in a fragment. -/
def isEscapedInFragment (c : Char) : Bool :=
  c == ' ' || c == '"' || c == '<' || c == '>' || c.toNat == 0x60

/-- Characters that are escaped in a query. -/
def isEscapedInQuery (c : Char) : Bool :=
  c == ' ' || c == '"' || c == '<' || c == '>' || c == '#' || c.toNat == 0x27

/-- Characters that are escaped in a path. -/
def isEscapedInPath (c : Char) : Bool :=
  isEscapedInFragment c || c == '#' || c == '?' || c == '{' || c == '}'

/-- Characters that are escaped in user information. -/
def isEscapedInCredentials (c : Char) : Bool :=
  isEscapedInPath c || ['/', ':', ';', '=', '@', '[', '\\', ']', '^', '|'].contains c

/-- User information, still written as it was given, and the text behind it. -/
structure Authority where
  username : List Char := []
  password : List Char := []
  /-- The host and the port. -/
  rest : List Char

/-- Cuts the user information off an authority. -/
def splitAuthority (authority : List Char) : Authority :=
  match Text.cutLast? '@' authority with
  | none => { rest := authority }
  | some (before, rest) =>
    let username := before.takeWhile (· != ':')
    { username, password := before.drop (username.length + 1), rest }

/-- The host at the front of a text, which ends at a colon outside of brackets. -/
def hostPart (inBrackets : Bool) : List Char → List Char
  | [] => []
  | c :: rest =>
    if c = ':' ∧ !inBrackets then []
    else c :: hostPart (if c = '[' then true else if c = ']' then false else inBrackets) rest

/-- Reads a port behind its colon. The usual one is left out, as is an empty one. -/
def readPort (scheme : Scheme) (s : List Char) : Except Fault (Option Nat) :=
  match Text.digits? 10 s with
  | none => .error .invalidPort
  | some n =>
    if n ≥ Network.portLimit then .error .invalidPort
    else if s.isEmpty ∨ n = scheme.usualPort then .ok none
    else .ok (some n)

/-- Holds of the path segments that mean the same place. -/
def isHere (segment : List Char) : Bool :=
  let s := segment.map Char.toLower
  s == ['.'] || s == ['%', '2', 'e']

/-- Holds of the path segments that mean the place above. -/
def isAbove (segment : List Char) : Bool :=
  let s := segment.map Char.toLower
  s == ['.', '.'] || s == ['.', '%', '2', 'e'] || s == ['%', '2', 'e', '.'] ||
    s == ['%', '2', 'e', '%', '2', 'e']

/-- Follows path segments from those found so far, the last one first. -/
def resolveSegments : List (List Char) → List (List Char) → List (List Char)
  | found, [] => found.reverse
  | found, segment :: more =>
    let kept := Text.Percent.encode isEscapedInPath segment
    if isAbove segment then
      resolveSegments (if more.isEmpty then [] :: found.drop 1 else found.drop 1) more
    else if isHere segment then
      resolveSegments (if more.isEmpty then [] :: found else found) more
    else resolveSegments (kept :: found) more

/-- A text cut at each slash of either kind. -/
def slashSegments (s : List Char) : List (List Char) :=
  Text.parts isSlash s

/-- Segments as a path. -/
def pathText (segments : List (List Char)) : String :=
  String.ofList (segments.flatMap fun segment => '/' :: segment)

/-- The segments of a path that is written already. -/
def pathSegments (path : String) : List (List Char) :=
  (slashSegments path.toList).drop 1

/-- The query and the fragment at the end of an address. -/
def readTail (s : List Char) : Option String × Option String :=
  let written (isEscaped : Char → Bool) (s : List Char) : String :=
    String.ofList (Text.Percent.encode isEscaped s)
  let query := s.takeWhile (· != '#')
  let fragment := match s.drop query.length with
    | [] => none
    | _ :: fragment => some (written isEscapedInFragment fragment)
  match query with
  | '?' :: query => (some (written isEscapedInQuery query), fragment)
  | _ => (none, fragment)

/-- Holds of the characters of a path. -/
def isPathChar (c : Char) : Bool :=
  c != '?' && c != '#'

/-- Reads an address from its authority on. -/
def readFromAuthority (scheme : Scheme) (s : List Char) : Except Fault Url := do
  let authority := s.takeWhile (!endsAuthority ·)
  let s := s.drop authority.length
  let { username, password, rest } := splitAuthority authority
  let hostText := hostPart false rest
  let host ← readHost hostText
  let port ← readPort scheme (rest.drop (hostText.length + 1))
  let path := s.takeWhile isPathChar
  let segments := (slashSegments path).drop 1
  let (query, fragment) := readTail (s.drop path.length)
  let written (s : List Char) : String :=
    String.ofList (Text.Percent.encode isEscapedInCredentials s)
  return {
    scheme, host, port, query, fragment
    username := written username
    password := written password
    path := if segments.isEmpty then "/" else pathText (resolveSegments [] segments) }

/-- Reads an address behind the colon of its scheme. Slashes in front of the authority do not count. -/
def readAbsolute (scheme : Scheme) (s : List Char) : Except Fault Url :=
  readFromAuthority scheme (s.dropWhile isSlash)

/-- The scheme in front of a text, in small letters, and the text behind its colon. -/
def splitScheme? (s : List Char) : Option (String × List Char) :=
  let isSchemeChar (c : Char) : Bool := c.isAlphanum || c == '+' || c == '-' || c == '.'
  let word := s.takeWhile isSchemeChar
  match word, s.drop word.length with
  | first :: _, ':' :: rest =>
    if first.isAlpha then some (String.ofList (word.map Char.toLower), rest) else none
  | _, _ => none

/-- The scheme of a word, if resources on servers have it. -/
def Scheme.ofWord? (word : String) : Option Scheme :=
  if word = "http" then some .http else if word = "https" then some .https else none

/-- Reads an address that starts with its scheme. -/
def parse (text : String) : Except Fault Url :=
  match splitScheme? (cleaned text.toList) with
  | none => .error .missingScheme
  | some (word, rest) => match Scheme.ofWord? word with
    | none => .error .foreignScheme
    | some scheme => readAbsolute scheme rest

/-- Reads a text that is relative to an address. -/
def relative (base : Url) (s : List Char) : Except Fault Url :=
  let path := s.takeWhile isPathChar
  let (query, fragment) := readTail (s.drop path.length)
  let moved (segments : List (List Char)) : Except Fault Url :=
    .ok { base with path := pathText (resolveSegments [] segments), query, fragment }
  match path with
  | [] => .ok { base with query := query.or base.query, fragment }
  | first :: more =>
    if !isSlash first then moved ((pathSegments base.path).dropLast ++ slashSegments path)
    else if more.head?.any isSlash then readAbsolute base.scheme s
    else moved (slashSegments more)

/-- The address that a text means when it is found at another address. -/
def join (base : Url) (text : String) : Except Fault Url :=
  let s := cleaned text.toList
  match splitScheme? s with
  | none => relative base s
  | some (word, rest) =>
    let isAbsolute := (rest.take 2).length = 2 && (rest.take 2).all isSlash
    if word = base.scheme.word && !isAbsolute then relative base rest else parse text

/-- The address with parameters added to its query. -/
def addParameters (u : Url) (parameters : List (String × String)) : Url :=
  let added := Text.FormEncoded.query parameters
  match u.query with
  | none => { u with query := some added }
  | some "" => { u with query := some added }
  | some query => { u with query := some (query ++ "&" ++ added) }

end ContractSuite.Url
