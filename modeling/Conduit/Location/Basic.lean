import Conduit.Location.Host
import Conduit.Number.Numeral
import Conduit.Text.Bytes
import Conduit.Text.Search

/-!
# Locations

Where a request is sent: a scheme and a host, a path, and perhaps a query and a fragment. A location
is kept in its plain spelling: scheme and host are in lower case, no number after the host goes
without saying, no step back is left in its path, and every character that may not stand where it is
stands as bytes, each a percent sign and two digits.

* `Location.read` — the location that a text spells, or what is wrong with the text;
* `Location.text` — the plain spelling;
* `Location.isAbsolute`, `Location.rooted` — whether it tells of a host, and what else it tells of.
-/

namespace Conduit

/-- Where a request is sent. -/
structure Location where
  /-- How it is sent; empty when that is not told. -/
  scheme : List Char := []
  /-- The name of the sender, perhaps with a word to prove it. -/
  user : List Char := []
  /-- The host; empty when there is none. -/
  host : List Char := []
  /-- The number after the host, when it does not go without saying. -/
  port : Option Int := none
  /-- The path. -/
  path : List Char
  /-- The query. -/
  query : Option (List Char) := none
  /-- The fragment. -/
  fragment : Option (List Char) := none
deriving DecidableEq, Inhabited

namespace Location

/-! ## What is wrong with a text -/

/-- What is wrong with the text of a location. -/
inductive Flaw where
  /-- It is too long. -/
  | length
  /-- It holds a control character at a place. -/
  | control (c : Char) (place : Nat)
  /-- A host that resembles four numbers is none. -/
  | numbers (host : String)
  /-- A host in square brackets is no address. -/
  | groups (host : String)
  /-- A host is no name. -/
  | name (host : String)
  /-- What follows the host is no number. -/
  | port (text : String)
  /-- A location without a host begins with two slashes. -/
  | slashes
  /-- A location without a scheme begins with a colon. -/
  | colon
deriving DecidableEq, Inhabited

/-- The wording of a flaw. -/
def Flaw.message : Flaw → String
  | length => "URL too long"
  | control c place =>
    "Invalid non-printable ASCII character in URL, " ++ Text.quoted (String.singleton c)
      ++ " at position " ++ toString place ++ "."
  | numbers host => "Invalid IPv4 address: " ++ Text.quoted host
  | groups host => "Invalid IPv6 address: " ++ Text.quoted host
  | name host => "Invalid IDNA hostname: " ++ Text.quoted host
  | port text => "Invalid port: " ++ Text.quoted text
  | slashes => "Relative URLs cannot have a path starting with '//'"
  | colon => "Relative URLs cannot have a path starting with ':'"

/-- The greatest length of the text of a location. -/
def lengthLimit : Nat := 65536

/-- Whether a character is one that no location holds. -/
def isForbidden (c : Char) : Bool := c.toNat < 0x20 || c.toNat = 0x7F

/-! ## Escapes -/

/-- A digit of an escape. -/
def escapeDigit (n : Nat) : Char := (Text.hexDigit n).toUpper

/-- A byte as an escape. -/
def escapeByte (b : Nat) : List Char := ['%', escapeDigit (b / 16), escapeDigit (b % 16)]

/-- A character as escapes. -/
def escapeChar (c : Char) : List Char := (Text.bytesOf c).flatMap escapeByte

/-- Escapes the characters that are not kept. -/
def escape (keep : Char → Bool) (s : List Char) : List Char :=
  s.flatMap fun c => if keep c then [c] else escapeChar c

/-- Whether a character can be seen. -/
def isVisible (c : Char) : Bool := 0x20 < c.toNat && c.toNat < 0x7F

/-- Whether a character may stand in a query. -/
def staysInQuery (c : Char) : Bool := isVisible c && c ∉ ['"', '#', '<', '>']

/-- Whether a character may stand in a path. -/
def staysInPath (c : Char) : Bool := staysInQuery c && c ∉ ['?', '\x60', '\x7b', '\x7d']

/-- Whether a character may stand in the name of a sender. -/
def staysInUser (c : Char) : Bool :=
  staysInPath c && c ∉ ['/', ';', '=', '@', '[', '\\', ']', '^', '|']

/-- Whether a character may stand in a host. -/
def staysInHost (c : Char) : Bool :=
  isVisible c && c ∉ ['#', '/', ':', '<', '>', '?', '@', '[', ']', '^']

/-- Whether a character may stand in a fragment. -/
def staysInFragment (c : Char) : Bool := isVisible c && c ∉ ['"', '<', '>', '\x60']

/-! ## Paths -/

/-- The parts of a path without those that stay in place or go a step back; `kept` holds the parts
so far, in reverse. -/
def withoutSteps (kept : List (List Char)) : List (List Char) → List (List Char)
  | [] => kept.reverse
  | ['.'] :: rest => withoutSteps kept rest
  | ['.', '.'] :: rest =>
    withoutSteps (if kept = [[]] then kept else kept.drop 1) rest
  | part :: rest => withoutSteps (part :: kept) rest

/-- A path without steps. -/
def plainPath (path : List Char) : List Char :=
  ['/'].intercalate (withoutSteps [] (Text.splitOn ['/'] path))

/-! ## Reading -/

/-- Whether a character may stand in a scheme that is begun. -/
def isSchemeChar (c : Char) : Bool := c.isAlphanum || c = '+' || c = '.' || c = '-'

/-- The scheme of a text, and what follows its colon. A colon may stand without a scheme. -/
def splitScheme (s : List Char) : List Char × List Char :=
  let word :=
    match s with
    | c :: _ => if c.isAlpha then s.takeWhile isSchemeChar else []
    | [] => []
  match s.drop word.length with
  | ':' :: rest => (word, rest)
  | _ => ([], s)

/-- What stands between two slashes at the start of a text and the path, with the rest. -/
def splitAuthority (s : List Char) : List Char × List Char :=
  match s with
  | '/' :: '/' :: rest =>
    let part := rest.takeWhile fun c => c != '/' && c != '?' && c != '#'
    (part, rest.drop part.length)
  | _ => ([], s)

/-- The parts of a text around the last of a character. -/
def aroundLast (mark : Char) (s : List Char) : List Char × List Char :=
  if s.contains mark then
    let after := (s.reverse.takeWhile (· ≠ mark)).reverse
    (s.take (s.length - after.length - 1), after)
  else ([], s)

/-- The host at the start of a text, and what follows it without its colon. -/
def hostAndPort (s : List Char) : List Char × List Char :=
  let host :=
    if s.head? = some '[' ∧ s.contains ']' then (aroundLast ']' s).1 ++ [']']
    else s.takeWhile (· ≠ ':')
  match s.drop host.length with
  | ':' :: rest => (host, rest)
  | rest => (host, rest)

/-- The plain spelling of a host. -/
def plainHost (s : List Char) : Except Flaw (List Char) :=
  if s.isEmpty then .ok []
  else if Host.resemblesNumbers s then
    if Host.isNumbers s then .ok s else .error (.numbers (String.ofList s))
  else if s.head? = some '[' ∧ s.getLast? = some ']' then
    let inside := (s.drop 1).dropLast
    if Host.isGroups inside then .ok inside else .error (.groups (String.ofList s))
  else if s.all fun c => decide (c.toNat < 0x80) then .ok (escape staysInHost (s.map Char.toLower))
  else
    match Host.plainName? (Text.lower s) with
    | some name => .ok name
    | none => .error (.name (String.ofList s))

/-- The numbers that go without saying. -/
def usualPorts : List (String × Int) :=
  [("ftp", 21), ("http", 80), ("https", 443), ("ws", 80), ("wss", 443)]

/-- The number after a host, unless it goes without saying with this spelling of the scheme. -/
def plainPort (scheme s : List Char) : Except Flaw (Option Int) :=
  if s.isEmpty then .ok none
  else
    match Numeral.integer s with
    | .ok n => .ok (if usualPorts.lookup (String.ofList scheme) = some n then none else some n)
    | .error _ => .error (.port (String.ofList s))

/-- What is wrong with the characters of a text. -/
def flaw? (s : List Char) : Option Flaw :=
  if lengthLimit < s.length then some .length
  else (s.find? isForbidden).map fun c => .control c (s.idxOf c)

/-- The location with these parts, of which scheme, query and fragment are as they are spelled. -/
def ofParts (scheme user host : List Char) (port : Option Int) (path : List Char)
    (query fragment : Option (List Char)) : Except Flaw Location :=
  let isLocal := scheme.isEmpty && user.isEmpty && host.isEmpty && port.isNone
  if isLocal && Text.startsWith path ['/', '/'] then .error .slashes
  else if isLocal && path.head? = some ':' then .error .colon
  else
    .ok
      { scheme := scheme.map Char.toLower, user := user, host := host, port := port
        path := escape staysInPath (if isLocal then path else plainPath path)
        query := query.map (escape staysInQuery)
        fragment := fragment.map (escape staysInFragment) }

/-- The location that a text spells. -/
def read (text : String) : Except Flaw Location := do
  let s := text.toList
  if let some flaw := flaw? s then throw flaw
  let (scheme, s) := splitScheme s
  let (place, s) := splitAuthority s
  let (user, place) := aroundLast '@' place
  let (host, port) := hostAndPort place
  let host ← plainHost host
  let port ← plainPort scheme port
  let path := s.takeWhile fun c => c != '?' && c != '#'
  let query := (s.drop path.length).takeWhile (· != '#')
  let fragment := s.drop (path.length + query.length)
  let after (part : List Char) : Option (List Char) :=
    if part.isEmpty then none else some (part.drop 1)
  ofParts scheme (escape staysInUser user) host port path (after query) (after fragment)

/-! ## Spelling -/

/-- Whether a location tells how and where a request is sent. -/
def isAbsolute (l : Location) : Bool := !l.scheme.isEmpty && !l.host.isEmpty

/-- The path from the root and the query of a location, and nothing else. -/
def rooted (l : Location) : Location where
  path := '/' :: l.path.dropWhile (· = '/')
  query := l.query

/-- The plain spelling of what stands between two slashes and the path. -/
def authorityText (l : Location) : List Char :=
  (if l.user.isEmpty then [] else l.user ++ ['@'])
    ++ (if l.host.contains ':' then '[' :: l.host ++ [']'] else l.host)
    ++ match l.port with
      | some n => ':' :: (toString n).toList
      | none => []

/-- The plain spelling of a location. -/
def text (l : Location) : String :=
  let marked (mark : Char) : Option (List Char) → List Char
    | some part => mark :: part
    | none => []
  String.ofList
    ((if l.scheme.isEmpty then [] else l.scheme ++ [':'])
      ++ (if l.authorityText.isEmpty then [] else '/' :: '/' :: l.authorityText)
      ++ l.path ++ marked '?' l.query ++ marked '#' l.fragment)

end Location

end Conduit
