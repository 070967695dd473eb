import PluginFlow.Net.Host
import PluginFlow.Text.Blank

/-!
Absolute URLs. Tabs and line ends are left out wherever they stand, schemes and hosts are put into
lower case, dots in paths are followed, and characters that a part must not hold are written as
`%` and two hexadecimal digits.
-/

namespace PluginFlow.Net

structure Url where
  scheme : String
  username : String := ""
  password : String := ""
  /-- Whether two slashes stand before a host, which may be absent. -/
  hasAuthority : Bool := false
  host : Option Host := none
  port : Option Nat := none
  path : String
  query : Option String := none
  fragment : Option String := none
  deriving DecidableEq

namespace Url

def specialPorts : List (String × Nat) :=
  [("http", 80), ("https", 443), ("ws", 80), ("wss", 443), ("ftp", 21)]

def defaultPort? (scheme : String) : Option Nat := specialPorts.lookup scheme

def port? (u : Url) : Option Nat := u.port.or (defaultPort? u.scheme)

def hostText? (u : Url) : Option String := u.host.map Host.text

def credentials (u : Url) : String :=
  if u.username = "" ∧ u.password = "" then ""
  else u.username ++ (if u.password = "" then "" else ":" ++ u.password) ++ "@"

def text (u : Url) : String :=
  let authority :=
    if u.hasAuthority then
      "//" ++ u.credentials ++ u.hostText?.getD "" ++
        ((u.port.map fun p => ":" ++ Number.intText p).getD "")
    else ""
  u.scheme ++ ":" ++ authority ++ u.path ++ ((u.query.map ("?" ++ ·)).getD "") ++
    ((u.fragment.map ("#" ++ ·)).getD "")

def percentByte (b : UInt8) : List Char :=
  '%' :: (Text.hexByte b).map fun c => if 'a' ≤ c then Char.ofNat (c.toNat - 32) else c

def percentEncode (special : String) (cs : List Char) : String :=
  String.ofList <| cs.flatMap fun c =>
    if c.toNat < 0x20 || 0x7F ≤ c.toNat || special.toList.contains c then
      (Text.Utf8.encodeChar c).flatMap percentByte
    else [c]

def fragmentSpecial : String := " \"<>`"

def pathSpecial : String := fragmentSpecial ++ "#?\x7b\x7d"

def userSpecial : String := pathSpecial ++ "/:;=@[\\]^|"

def querySpecial : String := " \"#<>"

def isLetter (c : Char) : Bool := ('a' ≤ c && c ≤ 'z') || ('A' ≤ c && c ≤ 'Z')

def isSchemeChar (c : Char) : Bool :=
  isLetter c || Text.isDigit c || c == '+' || c == '-' || c == '.'

def scheme? (cs : List Char) : Option (String × List Char) :=
  match cs, cs.dropWhile isSchemeChar with
  | c :: _, ':' :: rest =>
    if isLetter c then
      some (String.ofList ((cs.takeWhile isSchemeChar).map Text.lowerChar), rest)
    else none
  | _, _ => none

def isSlash (isSpecial : Bool) (c : Char) : Bool := c == '/' || (isSpecial && c == '\\')

def endsAuthority (isSpecial : Bool) (c : Char) : Bool :=
  isSlash isSpecial c || c == '?' || c == '#'

def splitLastAt? (cs : List Char) : Option (List Char × List Char) :=
  let fromEnd := cs.reverse
  match fromEnd.dropWhile (· ≠ '@') with
  | _ :: before => some (before.reverse, (fromEnd.takeWhile (· ≠ '@')).reverse)
  | [] => none

/-- The characters of a host: up to a colon outside brackets. -/
def takeHost (inBrackets : Bool) : List Char → List Char × List Char
  | [] => ([], [])
  | c :: rest =>
    if c == ':' && !inBrackets then ([], c :: rest)
    else
      let (host, rest) := takeHost (c == '[' || (inBrackets && c ≠ ']')) rest
      (c :: host, rest)

def isDot (s : List Char) : Bool :=
  (String.ofList (s.map Text.lowerChar)) ∈ [".", "%2e"]

def isDoubleDot (s : List Char) : Bool :=
  (String.ofList (s.map Text.lowerChar)) ∈ ["..", ".%2e", "%2e.", "%2e%2e"]

/-- Segments after following dots; a dot at the end leaves an empty segment. -/
def followDots (done : List String) : List (List Char) → List String
  | [] => done
  | s :: rest =>
    let ending := if rest.isEmpty then [""] else []
    if isDoubleDot s then followDots (done.dropLast ++ ending) rest
    else if isDot s then followDots (done ++ ending) rest
    else followDots (done ++ [percentEncode pathSpecial s]) rest

def pathText (isSpecial : Bool) (cs : List Char) : String :=
  match cs with
  | [] => if isSpecial then "/" else ""
  | c :: rest =>
    let cs := (if isSlash isSpecial c then rest else c :: rest).map fun c =>
      if isSlash isSpecial c then '/' else c
    "/" ++ "/".intercalate (followDots [] (Idna.splitOn '/' cs))

def withRest (u : Url) (isSpecial : Bool) (pathOf : List Char → String) (cs : List Char) : Url :=
  let beforeFragment := cs.takeWhile (· ≠ '#')
  let special := if isSpecial then querySpecial ++ "'" else querySpecial
  let query := match beforeFragment.dropWhile (· ≠ '?') with
    | _ :: q => some (percentEncode special q)
    | [] => none
  let fragment := match cs.dropWhile (· ≠ '#') with
    | _ :: f => some (percentEncode fragmentSpecial f)
    | [] => none
  { u with path := pathOf (beforeFragment.takeWhile (· ≠ '?')), query := query,
           fragment := fragment }

/-- A host of a scheme that is not special: brackets or any text without separators. -/
def opaqueHost (s : List Char) : Except UrlFault Host :=
  match Host.bracketed? s with
  | some inner => Host.ofBrackets inner
  | none =>
    if s.any Host.isForbiddenElsewhere then .error .invalidCharacter
    else .ok (.domain (percentEncode "" s))

/-- The port behind a colon, unless it is the one of the scheme, and what follows it. -/
def takePort (scheme : String) (cs : List Char) : Except UrlFault (Option Nat × List Char) :=
  let digits := cs.takeWhile Text.isDigit
  let rest := cs.dropWhile Text.isDigit
  let port := digits.foldl (fun n c => 10 * n + Text.digitValue c) 0
  let ended := match rest with
    | [] => true
    | c :: _ => endsAuthority true c
  if 65535 < port || !ended then .error .invalidPort
  else if digits.isEmpty || defaultPort? scheme == some port then .ok (none, rest)
  else .ok (some port, rest)

def authority (scheme : String) (cs : List Char) : Except UrlFault Url := do
  let isSpecial := (defaultPort? scheme).isSome
  let part := cs.takeWhile (!endsAuthority isSpecial ·)
  let after := cs.dropWhile (!endsAuthority isSpecial ·)
  let (user, hostPart) ← match splitLastAt? part with
    | none => pure ([], part)
    | some (user, hostPart) =>
      if user.isEmpty && hostPart.isEmpty && !after.isEmpty then throw .emptyHost
      else pure (user, hostPart)
  let (hostText, portPart) := takeHost false hostPart
  if hostText.isEmpty && (isSpecial || !portPart.isEmpty) then throw .emptyHost
  let host ← if isSpecial then Host.parse (String.ofList hostText) else opaqueHost hostText
  let (port, rest) ← match portPart with
    | [] => pure (none, after)
    | _ :: p => takePort scheme (p ++ after)
  let name := user.takeWhile (· ≠ ':')
  let u : Url := { scheme := scheme, hasAuthority := true, path := "", port := port,
                   host := if hostText.isEmpty then none else some host,
                   username := percentEncode userSpecial name,
                   password := percentEncode userSpecial (user.drop (name.length + 1)) }
  if u.host.isNone && u.credentials ≠ "" then throw .emptyHost
  return u.withRest isSpecial (pathText isSpecial) rest

/-- Whether a text is a letter with a colon or a bar, which names a drive and no host. -/
def isDrive (cs : List Char) : Bool :=
  match cs with
  | [c, m] => isLetter c && (m == ':' || m == '|')
  | _ => false

def fileUrl (cs : List Char) : Except UrlFault Url := do
  let u : Url := { scheme := "file", hasAuthority := true, path := "" }
  match cs with
  | a :: b :: rest =>
    if isSlash true a && isSlash true b then
      let hostText := rest.takeWhile (!endsAuthority true ·)
      if hostText.isEmpty || isDrive hostText then
        return u.withRest true (pathText true) rest
      let host ← Host.parse (String.ofList hostText)
      let host := if host == .domain "localhost" then none else some host
      return { u with host := host }.withRest true (pathText true)
        (rest.dropWhile (!endsAuthority true ·))
    else return u.withRest true (pathText true) cs
  | _ => return u.withRest true (pathText true) cs

def otherUrl (scheme : String) (cs : List Char) : Except UrlFault Url :=
  let u : Url := { scheme := scheme, path := "" }
  match cs with
  | '/' :: '/' :: rest => authority scheme rest
  | '/' :: _ => .ok (u.withRest false (pathText false) cs)
  | _ => .ok (u.withRest false (percentEncode "") cs)

/-- The characters that count: blanks and control characters around a text do not, nor do tabs
and line ends. -/
def significant (s : String) : List Char :=
  (Text.stripBoth (fun c => c.toNat ≤ 0x20) s.toList).filter fun c =>
    c ≠ '\t' && c ≠ '\n' && c ≠ '\r'

def parse (s : String) : Except UrlFault Url :=
  match scheme? (significant s) with
  | none => .error .notAbsolute
  | some (scheme, rest) =>
    if scheme = "file" then fileUrl rest
    else if (defaultPort? scheme).isSome then authority scheme (rest.dropWhile (isSlash true))
    else otherUrl scheme rest

end Url
end PluginFlow.Net
