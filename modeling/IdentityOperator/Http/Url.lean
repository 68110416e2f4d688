import IdentityOperator.Http.Host

/-!
URLs: reading a text as a browser does, and the one written form of each.

Blanks around the text go, and so do line ends and tabs inside it. In schemes with hosts `\` counts
as `/`. Dot segments of a path are resolved, also when their dots are percent-encoded, and
characters that a part cannot hold are percent-encoded.
-/

namespace IdentityOperator

/-- A URL, part by part, each part as it is written. -/
structure Url where
  scheme : String
  /-- A user name and a password; a user name may be empty beside a password. -/
  user : Option (String × Option String) := none
  /-- The host, which may be empty; a URL without a place for one has none. -/
  host : Option String := none
  /-- A port other than the one of the scheme. -/
  port : Option Nat := none
  path : String
  query : Option String := none
  fragment : Option String := none
  deriving DecidableEq, Repr

namespace Url

/-! ## Characters that stand for themselves -/

/-- A visible ASCII character or a blank. -/
def isPlain (c : Char) : Bool := ' ' ≤ c && c < '\x7f'

def inFragment (c : Char) : Bool := isPlain c && !" \"<>`".toList.contains c

def inPath (c : Char) : Bool := inFragment c && !"#?\x7b\x7d".toList.contains c

/-- A character of a user name or password. -/
def inUser (c : Char) : Bool := inPath c && !"/:;=@[\\]^|".toList.contains c

/-- A character of a query; schemes with hosts also encode the apostrophe. -/
def inQuery (special : Bool) (c : Char) : Bool :=
  isPlain c && !" \"#<>".toList.contains c && !(special && c = '\'')

def encoded (kept : Char → Bool) (cs : List Char) : String := String.ofList (Percent.encode kept cs)

/-! ## Schemes -/

def defaultPort? : (scheme : String) → Option Nat
  | "http" | "ws" => some 80
  | "https" | "wss" => some 443
  | "ftp" => some 21
  | _ => none

def isSpecial (scheme : String) : Bool := (defaultPort? scheme).isSome || scheme = "file"

/-- A character of a scheme behind its first one. -/
def inScheme (c : Char) : Bool := c.isAlphanum || c = '+' || c = '-' || c = '.'

/-- The scheme in front of a colon, in lower case, and the text behind the colon. -/
def scheme? (cs : List Char) : Option (String × List Char) :=
  let name := cs.takeWhile inScheme
  match name, cs.dropWhile inScheme with
  | first :: _, ':' :: rest =>
    if first.isAlpha then some (String.ofList (name.map Char.toLower), rest) else none
  | _, _ => none

/-! ## Paths -/

/-- The segment that stands for the place where it is. -/
def isSingleDot (segment : List Char) : Bool :=
  [".", "%2e"].contains (String.ofList (segment.map Char.toLower))

/-- The segment that stands for the place above. -/
def isDoubleDot (segment : List Char) : Bool :=
  ["..", ".%2e", "%2e.", "%2e%2e"].contains (String.ofList (segment.map Char.toLower))

/-- A segment that names a disk: a letter and a colon or a bar. -/
def isDrive : List Char → Bool
  | [letter, mark] => letter.isAlpha && (mark = ':' || mark = '|')
  | _ => false

/-- The segments above the last one, the last ones being in front. Nothing is above a disk. -/
def above : List (List Char) → List (List Char)
  | [] => []
  | segment :: found =>
    if isDrive (segment.take 2) && (segment.drop 2).head?.all (· = '\\') then segment :: found
    else found

/-- Add a segment. The disk in front of the path of a file is written with a colon. -/
def extend (isFile : Bool) (segment : List Char) (found : List (List Char)) : List (List Char) :=
  if isFile && found.isEmpty && isDrive segment then [segment.take 1 ++ [':']]
  else segment :: found

/-- Resolve dot segments, the last segments found being in front. A path that ends in a dot segment
ends in a slash. -/
def resolve (isFile : Bool) (found : List (List Char)) : List (List Char) → List (List Char)
  | [] => found.reverse
  | [last] =>
    if isDoubleDot last then ([] :: above found).reverse
    else if isSingleDot last then ([] :: found).reverse
    else (extend isFile last found).reverse
  | segment :: rest =>
    if isDoubleDot segment then resolve isFile (above found) rest
    else if isSingleDot segment then resolve isFile found rest
    else resolve isFile (extend isFile segment found) rest

/-- The segments of the text behind the first slash of a path. -/
def segments (isFile : Bool) (cs : List Char) : List (List Char) :=
  resolve isFile [] (Split.pieces '/' cs)

def joined (segments : List (List Char)) : List Char := segments.flatMap ('/' :: ·)

/-- A path, from the text behind its first slash. -/
def pathOf (cs : List Char) : String := encoded inPath (joined (segments false cs))

/-- The path behind a host, which starts with a slash unless it is empty. -/
def hostedPath (special : Bool) : List Char → String
  | [] => if special then "/" else ""
  | '/' :: rest => pathOf rest
  | cs => pathOf cs

/-! ## What follows the host -/

/-- The end of a path or of a host. -/
def isTail (c : Char) : Bool := c = '?' || c = '#'

/-- The query and the fragment of the text behind a path. -/
def tailOf (special : Bool) (cs : List Char) : Option String × Option String :=
  let (front, fragment) := match cs.dropWhile (· ≠ '#') with
    | _ :: rest => (cs.takeWhile (· ≠ '#'), some (encoded inFragment rest))
    | [] => (cs, none)
  match front with
  | '?' :: query => (some (encoded (inQuery special) query), fragment)
  | _ => (none, fragment)

/-- Put a query and a fragment behind a URL. -/
def withTail (special : Bool) (cs : List Char) (url : Url) : Url :=
  let (query, fragment) := tailOf special cs
  { url with query, fragment }

/-! ## Hosts with what stands around them -/

/-- A user name and a password, from the text before an `@`. -/
def userOf (cs : List Char) : Option (String × Option String) :=
  let (name, password) := Split.first ':' cs
  if cs.isEmpty ∨ (name.isEmpty ∧ password.isEmpty) then none
  else some (encoded inUser name, if password.isEmpty then none else some (encoded inUser password))

/-- The host of a text up to a colon outside brackets, and the text from that colon on. -/
def hostText : (inBrackets : Bool) → List Char → List Char × List Char
  | _, [] => ([], [])
  | inBrackets, c :: rest =>
    if c = ':' ∧ ¬ inBrackets then ([], c :: rest)
    else
      let (host, behind) :=
        hostText (if c = '[' then true else if c = ']' then false else inBrackets) rest
      (c :: host, behind)

/-- A port as digits behind a colon, and what is behind the port; without a digit there is none. -/
def port? : List Char → Option (Option Nat × List Char)
  | ':' :: cs =>
    let digits := cs.takeWhile Char.isDigit
    let behind := cs.dropWhile Char.isDigit
    if behind.head?.any (· ≠ '\\') then none
    else if digits.isEmpty then some (none, behind)
    else ((Host.numberIn? 10 digits).filter (· < 65536)).map fun n => (some n, behind)
  | _ => some (none, [])

/-- The user, host and port between two slashes and the path, and what is left in front of the path.
Only a scheme without hosts of its own may leave the host empty, and then nothing else may stand
there. -/
def authority? (scheme : String) (cs : List Char) : Option (Url × List Char) := do
  let behind := Split.afterLast '@' cs
  let user := userOf (cs.take (cs.length - behind.length - 1))
  let (host, portText) := hostText false behind
  if host.isEmpty ∧ (isSpecial scheme ∨ user.isSome ∨ ¬ portText.isEmpty) then none
  let host ← if isSpecial scheme then Host.ofText? host else Host.ofOpaqueText? host
  let (port, rest) ← port? portText
  let port := if port = defaultPort? scheme then none else port
  some ({ scheme, user, host := some host, port, path := "" }, rest)

/-! ## Reading -/

/-- A URL whose host follows two slashes that have been read. An `@` alone is no place of a host
where anything follows. -/
def hosted? (scheme : String) (cs : List Char) : Option Url := do
  let special := isSpecial scheme
  let isEnd (c : Char) : Bool := c = '/' || isTail c
  let behind := cs.dropWhile (!isEnd ·)
  if cs.takeWhile (!isEnd ·) = ['@'] ∧ ¬ behind.isEmpty then none
  let (url, rest) ← authority? scheme (cs.takeWhile (!isEnd ·))
  let path := hostedPath special (rest ++ behind.takeWhile (!isTail ·))
  some (withTail special (behind.dropWhile (!isTail ·)) { url with path })

/-- The host and the text of the path of a local file; the computer itself is no host. -/
def filePlace? : List Char → Option (String × List Char)
  | '/' :: '/' :: rest =>
    let name := rest.takeWhile (· ≠ '/')
    if isDrive name then some ("", rest)
    else do
      let host ← if name.isEmpty then some "" else Host.ofText? name
      some (if host = "localhost" then "" else host, (rest.dropWhile (· ≠ '/')).drop 1)
  | '/' :: rest => some ("", rest)
  | rest => some ("", rest)

/-- A URL of a local file. A path that begins with a disk is one without a host, and a path begins
with one slash. -/
def file? (cs : List Char) : Option Url := do
  let (host, text) ← filePlace? (cs.takeWhile (!isTail ·))
  let segments := segments true text
  let path := '/' :: (joined segments).dropWhile (· = '/')
  some (withTail true (cs.dropWhile (!isTail ·))
    { scheme := "file"
      host := some (if segments.head?.any isDrive then "" else host)
      path := encoded inPath path })

/-- A URL without a host. A path that does not start with a slash is left as it is. -/
def hostless (scheme : String) (cs : List Char) : Url :=
  let path := match cs.takeWhile (!isTail ·) with
    | '/' :: rest => pathOf rest
    | front => encoded isPlain front
  withTail false (cs.dropWhile (!isTail ·)) { scheme, path }

/-- A text without the blanks around it and the line ends and tabs inside it. -/
def cleaned (text : String) : List Char :=
  let cs := (text.toList.dropWhile (· ≤ ' ')).reverse.dropWhile (· ≤ ' ')
  cs.reverse.filter fun c => c ≠ '\t' ∧ c ≠ '\n' ∧ c ≠ '\r'

/-- A text in which `\` before the query and the fragment is `/`. -/
def slashed (cs : List Char) : List Char :=
  (cs.takeWhile (!isTail ·)).map (fun c => if c = '\\' then '/' else c) ++ cs.dropWhile (!isTail ·)

def ofText? (text : String) : Option Url := do
  let (scheme, rest) ← scheme? (cleaned text)
  if scheme = "file" then file? (slashed rest)
  else if isSpecial scheme then hosted? scheme ((slashed rest).dropWhile (· = '/'))
  else match rest with
    | '/' :: '/' :: rest => hosted? scheme rest
    | rest => some (hostless scheme rest)

/-! ## Writing -/

/-- A user name and a password in front of a host. -/
def userText : Option (String × Option String) → String
  | none => ""
  | some (name, none) => name ++ "@"
  | some (name, some password) => name ++ ":" ++ password ++ "@"

/-- The path and the query, which a request names. -/
def target (url : Url) : String :=
  url.path ++ (url.query.map ("?" ++ ·)).getD ""

/-- The written form. Without a host, a path that begins with two slashes is written behind a dot
segment, which keeps it a path. -/
def render (url : Url) : String :=
  let place := match url.host with
    | some host => "//" ++ userText url.user ++ host ++ (url.port.map (":" ++ toString ·)).getD ""
    | none => if ['/', '/'].isPrefixOf url.path.toList then "/." else ""
  url.scheme ++ ":" ++ place ++ url.target ++ (url.fragment.map ("#" ++ ·)).getD ""

def hasHost (url : Url) : Bool := url.host.any (· ≠ "")

/-- The user name and the password behind their percent-encoding, if the name is well-formed UTF-8;
an ill-formed password counts as none. -/
def credentials? (url : Url) : Option (String × Option String) := do
  let (name, password) ← url.user
  let name ← Percent.decode? name
  let password := password.bind Percent.decode?
  if name = "" ∧ password.isNone then none else some (name, password)

def withoutUser (url : Url) : Url := { url with user := none }

end Url

end IdentityOperator
