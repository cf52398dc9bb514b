import ChainArchive.Url.Host

namespace ChainArchive

/-! Reading addresses that stand for themselves. -/

namespace Url

/-! What is percent-encoded where. -/

def fragmentSet : String := " \"<>\x60"

def querySet : String := " \"#<>"

def specialQuerySet : String := " \"#<>'"

def pathSet : String := " \"<>\x60#?\x7b\x7d"

def userSet : String := " \"<>\x60#?\x7b\x7d/:;=@[\\]^|"

def cleaned (text : String) : List Char :=
  let inner := text.toList.dropWhile (·.toNat ≤ 32)
  let inner := (inner.reverse.dropWhile (·.toNat ≤ 32)).reverse
  inner.filter fun c => c ≠ '\t' && c ≠ '\n' && c ≠ '\r'

def isLetter (c : Char) : Bool := ('a' ≤ c && c ≤ 'z') || ('A' ≤ c && c ≤ 'Z')

def isSchemeChar (c : Char) : Bool :=
  isLetter c || Host.isAsciiDigit c || c == '+' || c == '-' || c == '.'

def scheme? (text : List Char) : Option (String × List Char) :=
  let name := text.takeWhile isSchemeChar
  match name, text.drop name.length with
  | first :: _, ':' :: rest =>
      if isLetter first then some (String.ofList (name.map Char.toLower), rest) else none
  | _, _ => none

def isSlash (special : Bool) (c : Char) : Bool := c == '/' || (special && c == '\\')

def endsAuthority (special : Bool) (c : Char) : Bool :=
  isSlash special c || c == '?' || c == '#'

/-! The authority: credentials, host and port. -/

structure Credentials where
  username : String
  password : Option String

def ofUserInfo (text : List Char) : Credentials :=
  let user := text.takeWhile (· ≠ ':')
  let password := text.drop (user.length + 1)
  { username := Percent.encode userSet user
    password := if password.isEmpty then none else some (Percent.encode userSet password) }

def splitUserInfo (authority : List Char) : Option (List Char) × List Char :=
  let host := (authority.reverse.takeWhile (· ≠ '@')).reverse
  if host.length = authority.length then (none, authority)
  else (some (authority.take (authority.length - host.length - 1)), host)

/-- The host ends at a colon outside brackets. -/
def hostText : Bool → List Char → List Char
  | _, [] => []
  | bracket, c :: rest =>
      if c = ':' ∧ !bracket then []
      else c :: hostText (if c = '[' then true else if c = ']' then false else bracket) rest

def parseHost (special : Bool) (text : List Char) : Except UrlFault (Option Host) :=
  if special then
    if text.isEmpty then .error .emptyHost else (Host.ofDomain text).map some
  else (Host.ofOpaque text).map some

def portOf (scheme : String) (digits : List Char) : Except UrlFault (Option Nat) :=
  match ofDigits? 10 (Bytes.ofString (String.ofList digits)) with
  | none => .error .badPort
  | some port =>
      if 65535 < port then .error .badPort
      else if digits.isEmpty || defaultPort? scheme = some port then .ok none
      else .ok (some port)

/-- A backslash ends the port where it does not end the authority; the path begins there. -/
def parsePort (scheme : String) (text : List Char) :
    Except UrlFault (Option Nat × List Char) :=
  let digits := text.takeWhile Host.isAsciiDigit
  let after := text.drop digits.length
  if after.isEmpty || after.head? == some '\\' then (portOf scheme digits).map (·, after)
  else .error .badPort

structure Authority where
  credentials : Credentials
  host : Option Host
  port : Option Nat

def parseAuthority (scheme : String) (special : Bool) (text following : List Char) :
    Except UrlFault (Authority × List Char) := do
  let (user, rest) := splitUserInfo text
  let credentials := ofUserInfo (user.getD [])
  if user = some [] ∧ rest.isEmpty ∧ !following.isEmpty then .error .emptyHost
  else
    let host := hostText false rest
    let afterHost := rest.drop host.length
    let parsed ← parseHost special host
    if host.isEmpty ∧ !afterHost.isEmpty then .error .emptyHost
    else if host.isEmpty ∧ user.isSome ∧
        (credentials.username ≠ "" ∨ credentials.password.isSome) then .error .emptyHost
    else
      let (port, after) ← parsePort scheme (afterHost.drop 1)
      return (⟨credentials, parsed, port⟩, after)

/-! The path. -/

def splitSegments (special : Bool) : List Char → List (List Char)
  | [] => [[]]
  | c :: rest =>
      match splitSegments special rest with
      | [] => [[c]]
      | name :: names =>
          if isSlash special c then [] :: name :: names else (c :: name) :: names

def isDot (name : String) : Bool := name == "." || name.toLower == "%2e"

def isDoubleDot (name : String) : Bool :=
  ["..", "%2e.", ".%2e", "%2e%2e"].contains name.toLower

def isDrive : List Char → Bool
  | [letter, mark] => isLetter letter && (mark == ':' || mark == '|')
  | _ => false

/-- The names above the last one; nothing is above a drive. -/
def above (path : List String) : List String :=
  match path.getLast? with
  | none => []
  | some name =>
      if isDrive (name.toList.takeWhile (· ≠ '\\')) then path else path.dropLast

/-- A dot names the directory itself and two dots the one above; as a last name each
leaves an empty one. The first name of a file may be a drive. -/
def addSegments (inFiles : Bool) (path : List String) : List (List Char) → List String
  | [] => path
  | name :: rest =>
      let text := Percent.encode pathSet name
      if isDoubleDot text then
        addSegments inFiles (above path ++ if rest.isEmpty then [""] else []) rest
      else if isDot text then
        addSegments inFiles (path ++ if rest.isEmpty then [""] else []) rest
      else if inFiles && path.isEmpty && isDrive name then
        addSegments inFiles [String.ofList (name.take 1 ++ [':'])] rest
      else addSegments inFiles (path ++ [text]) rest

def parsePath (special : Bool) (text : List Char) : UrlPath :=
  match text with
  | [] => .segments (if special then [""] else [])
  | c :: rest =>
      let names := if isSlash special c then rest else text
      .segments (addSegments false [] (splitSegments special names))

/-! The whole. -/

structure Tail where
  before : List Char
  query : Option (List Char)
  fragment : Option (List Char)

def splitTail (text : List Char) : Tail :=
  let main := text.takeWhile (· ≠ '#')
  let before := main.takeWhile (· ≠ '?')
  { before
    query := if before.length < main.length then some (main.drop (before.length + 1)) else none
    fragment := if main.length < text.length then some (text.drop (main.length + 1)) else none }

def assemble (scheme : String) (authority : Authority) (path : UrlPath) (tail : Tail) : Url where
  scheme
  username := authority.credentials.username
  password := authority.credentials.password
  host := authority.host
  port := authority.port
  path
  query := tail.query.map
    (Percent.encode (if isSpecial scheme then specialQuerySet else querySet))
  fragment := tail.fragment.map (Percent.encode fragmentSet)

def noAuthority : Authority := ⟨⟨"", none⟩, none, none⟩

def withAuthority (scheme : String) (special : Bool) (text : List Char) :
    Except UrlFault Url := do
  let tail := splitTail text
  let host := tail.before.takeWhile (!endsAuthority special ·)
  let (authority, after) ← parseAuthority scheme special host (text.drop host.length)
  return assemble scheme authority
    (parsePath special (after ++ tail.before.drop host.length)) tail

def fileHost (text : List Char) : Except UrlFault (Option Host) :=
  if text.isEmpty then .ok none
  else
    (Host.ofDomain text).map fun host =>
      if host = .domain "localhost" then none else some host

def filePlace (text : List Char) : Except UrlFault (Option Host × List Char) :=
  match text with
  | a :: b :: rest =>
      if isSlash true a && isSlash true b then
        let name := rest.takeWhile (!isSlash true ·)
        if isDrive name then .ok (none, rest)
        else
          (fileHost name).map fun host =>
            (host, (rest.drop name.length).drop (if host.isSome then 1 else 0))
      else if isSlash true a then .ok (none, b :: rest)
      else .ok (none, text)
  | [a] => .ok (none, if isSlash true a then [] else text)
  | [] => .ok (none, [])

def withoutLeading : List String → List String
  | "" :: name :: rest => withoutLeading (name :: rest)
  | names => names

def ofFile (text : List Char) : Except UrlFault Url := do
  let tail := splitTail text
  let (host, path) ← filePlace tail.before
  let names := addSegments true [] (splitSegments true path)
  let onDrive := (names.head?.map fun name => isDrive name.toList).getD false
  return assemble "file" { noAuthority with host := if onDrive then none else host }
    (.segments (withoutLeading names)) tail

def ofOther (scheme : String) (text : List Char) : Except UrlFault Url :=
  match text with
  | '/' :: '/' :: rest => withAuthority scheme false rest
  | _ =>
      let tail := splitTail text
      match tail.before with
      | '/' :: _ => .ok (assemble scheme noAuthority (parsePath false tail.before) tail)
      | before =>
          .ok (assemble scheme noAuthority (.opaquePath (Percent.encode "" before)) tail)

def parse (text : String) : Except UrlFault Url :=
  match scheme? (cleaned text) with
  | none => .error .noScheme
  | some (scheme, rest) =>
      if scheme = "file" then ofFile rest
      else if isSpecial scheme then
        withAuthority scheme true (rest.dropWhile (isSlash true))
      else ofOther scheme rest

end Url

end ChainArchive
