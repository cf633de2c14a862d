import Conduit.Json.Reader
import Conduit.Text.Bytes
import Conduit.Text.Search

/-!
# Addresses

What a request is addressed to: a path and, after a question mark, a query of names with texts. A
percent sign and two hexadecimal digits stand for a byte in a query; a path stands for itself.

* `Address`, `Address.ofText`;
* `Address.parameter?` — the text of a name in the query.
-/

namespace Conduit

/-- What a request is addressed to. -/
structure Address where
  /-- The parts of the path, which the slashes divide. -/
  path : List String
  /-- The query. -/
  query : List (String × String) := []
deriving DecidableEq, Inhabited

namespace Address

/-- The bytes that a text stands for. -/
def escapedBytes : List Char → List Nat
  | '%' :: a :: b :: rest =>
    match Json.hexValue? a, Json.hexValue? b with
    | some high, some low => (16 * high + low) :: escapedBytes rest
    | _, _ => Text.bytesOf '%' ++ escapedBytes (a :: b :: rest)
  | c :: rest => Text.bytesOf c ++ escapedBytes rest
  | [] => []

/-- The text that an escaped text stands for. -/
def unescape (s : List Char) : List Char := Text.ofBytes (escapedBytes s)

/-- A text of a query, where a plus sign stands for a space. -/
def queryText (s : List Char) : String :=
  String.ofList (unescape (s.map fun c => if c = '+' then ' ' else c))

/-- The name and the text of an entry of a query. -/
def queryEntry (s : List Char) : String × String :=
  (queryText (s.takeWhile (· ≠ '=')), queryText ((s.dropWhile (· ≠ '=')).drop 1))

/-- The entries of a query; empty ones do not count. -/
def queryEntries (s : List Char) : List (String × String) :=
  ((Text.splitOn ['&'] s).filter (!·.isEmpty)).map queryEntry

/-- The parts of a path; the first one lies before the first slash. -/
def pathNames (s : List Char) : List String := (Text.splitOn ['/'] s).map String.ofList

/-- The address that a text spells. -/
def ofText (text : String) : Address :=
  let s := text.toList
  { path := pathNames (s.takeWhile (· ≠ '?'))
    query := queryEntries ((s.dropWhile (· ≠ '?')).drop 1) }

/-- The text of a name in the query; the last of several counts. -/
def parameter? (a : Address) (name : String) : Option String := a.query.reverse.lookup name

end Address

end Conduit
