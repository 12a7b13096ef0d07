import ObservatoryWatch.Text.Percent
import ObservatoryWatch.Text.Search
import ObservatoryWatch.Text.Segment

/-!
Addresses of web resources.

An address is kept in parts and in a normal form: scheme and host in small letters,
no port that the scheme implies, no dot segments in the path, and an escape for
every character that its part does not allow. Escapes that are already there stay
as they are.
-/

namespace ObservatoryWatch.Http

open Text

structure Url where
  scheme : String
  authority : String
  path : String
  query : Option String
  /-- A place inside the resource; the host is not told of it. -/
  fragment : Option String
  deriving DecidableEq

namespace Url

/-! ## Escapes -/

/-- Printable ASCII characters except those of a list. -/
def isPrintableExcept (excluded : List Char) (character : Char) : Bool :=
  ' ' ≤ character && character ≤ '~' && !excluded.contains character

def excludedFromQuery : List Char := [' ', '"', '#', '<', '>']

def excludedFromFragment : List Char := [' ', '"', '<', '>', Char.ofNat 0x60]

def excludedFromPath : List Char :=
  excludedFromQuery ++ [Char.ofNat 0x3F, Char.ofNat 0x60, Char.ofNat 0x7B, Char.ofNat 0x7D]

/-- Escapes the characters that a part must not hold. -/
def escapeWith (excluded : List Char) (text : List Char) : String :=
  String.ofList (text.flatMap fun character =>
    if isPrintableExcept excluded character then [character] else percentChar character)

/-! ## Dot segments -/

/-- One more segment of a path whose earlier segments are given in reverse. -/
def pushSegment (earlier : List String) (segment : String) : List String :=
  if segment == "." then earlier
  else if segment == ".." then
    match earlier with
    | [] | [""] => earlier
    | _ :: rest => rest
  else segment :: earlier

/-- The path without segments that stand for the same or the outer place. -/
def withoutDots (path : String) : String :=
  "/".intercalate (((segments '/' path).foldl pushSegment []).reverse)

/-! ## Authority -/

def impliedPorts : List (String × String) := [("http", ":80"), ("https", ":443")]

/-- The host in small letters, without the port that the scheme implies. -/
def normalAuthority (scheme authority : String) : String :=
  let small := authority.map Char.toLower
  match impliedPorts.lookup scheme with
  | some port =>
    if endsWith small port then String.ofList (small.toList.take (small.length - port.length))
    else small
  | none => small

/-! ## Reading and writing -/

/-- Splits off what stands before a mark; the mark itself belongs to neither part. -/
def splitAt (mark : Char) (text : List Char) : List Char × Option (List Char) :=
  match text.span (· != mark) with
  | (before, []) => (before, none)
  | (before, _ :: after) => (before, some after)

/-- The scheme and what follows its two slashes. -/
def splitScheme (text : List Char) : String × List Char :=
  match splitAt ':' text with
  | (scheme, some ('/' :: '/' :: rest)) =>
    ((String.ofList scheme).map Char.toLower, rest)
  | _ => ("", text)

/-- Reads an address. -/
def ofText (text : String) : Url :=
  let (main, fragment) := splitAt '#' text.toList
  let (scheme, rest) := splitScheme main
  let (place, query) := splitAt '?' rest
  let (authority, path) := place.span (· != '/')
  { scheme
    authority := normalAuthority scheme (String.ofList authority)
    path := withoutDots (escapeWith excludedFromPath path)
    query := query.map (escapeWith excludedFromQuery)
    fragment := fragment.map (escapeWith excludedFromFragment) }

/-- Takes the slashes away that the text of an address ends in. -/
def withoutLastSlashes (address : String) : String :=
  String.ofList (address.toList.reverse.dropWhile (· == '/')).reverse

/-- Names and values as a query. -/
def queryText (parameters : List (String × String)) : String :=
  "&".intercalate (parameters.map fun (name, value) =>
    percentQueryValue name ++ "=" ++ percentQueryValue value)

/-- The address with a query made of these parameters; without any it stays as it is. -/
def withParameters (url : Url) (parameters : List (String × String)) : Url :=
  if parameters.isEmpty then url else { url with query := some (queryText parameters) }

/-- A part with the mark that it begins with, if it is there. -/
def marked (mark : String) : Option String → String
  | some part => mark ++ part
  | none => ""

/-- The part of the address that the host is told. -/
def target (url : Url) : String :=
  (if url.path.isEmpty then "/" else url.path) ++ marked "?" url.query

def toText (url : Url) : String :=
  url.scheme ++ "://" ++ url.authority ++ url.path ++ marked "?" url.query ++
    marked "#" url.fragment

end Url

end ObservatoryWatch.Http
