import ObservatoryWatch.Text.Hexadecimal

/-!
Percent-encoding.

Letters, digits and the marks `_.-~` stand for themselves; every other character is
written as the octets of its UTF-8 form, each a percent sign and two capital
digits. A query value differs from a path segment in one point only: a blank
becomes a plus sign.
-/

namespace ObservatoryWatch.Text

/-- Characters that never need an escape. -/
def isUnreserved (character : Char) : Bool :=
  character.isAlphanum || character ∈ ['_', '.', '-', '~']

def percentOctet (octet : UInt8) : List Char := '%' :: hexPair upperHexDigits octet

def percentChar (character : Char) : List Char :=
  (String.utf8EncodeChar character).flatMap percentOctet

/-- Escapes a text for use as one path segment. -/
def percentSegment (text : String) : String :=
  String.ofList (text.toList.flatMap fun character =>
    if isUnreserved character then [character] else percentChar character)

/-- Escapes a text for use as a query value. -/
def percentQueryValue (text : String) : String :=
  String.ofList (text.toList.flatMap fun character =>
    if isUnreserved character then [character]
    else if character == ' ' then ['+']
    else percentChar character)

example : percentSegment "!room:example.org" = "%21room%3Aexample.org" := by decide
example : percentQueryValue "a é" = "a+%C3%A9" := by decide

end ObservatoryWatch.Text
