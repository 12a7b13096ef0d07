import ObservatoryWatch.Json.Basic
import ObservatoryWatch.Number.Style
import ObservatoryWatch.Text.Hexadecimal
import ObservatoryWatch.Text.Printable

/-!
Showing a JSON value to a person.

A text is shown as it is. Inside a list or an object texts are quoted, by preference
with single quotes, and characters that cannot be shown are escaped.
-/

namespace ObservatoryWatch.Json

open Text

def escapedPoint (quote : Char) : CodePoint → List Char
  | .lone surrogate => '\\' :: 'u' :: hexDigits 4 surrogate.code
  | .char character =>
    if character == quote || character == '\\' then ['\\', character]
    else if character == '\n' then ['\\', 'n']
    else if character == '\r' then ['\\', 'r']
    else if character == '\t' then ['\\', 't']
    else if isPrintable character then [character]
    else if character.toNat < 0x100 then '\\' :: 'x' :: hexDigits 2 character.toNat
    else if character.toNat < 0x10000 then '\\' :: 'u' :: hexDigits 4 character.toNat
    else '\\' :: 'U' :: hexDigits 8 character.toNat

/-- A text in single quotes, or in double quotes if it holds only single ones. -/
def quotedPoints (text : List CodePoint) : String :=
  let quote :=
    if text.contains (.char '\'') && !text.contains (.char '"') then '"' else '\''
  String.ofList (quote :: text.flatMap (escapedPoint quote) ++ [quote])

def quoted (text : String) : String := quotedPoints (points text.toList)

mutual
def inspect : Json → String
  | .null => "None"
  | .bool value => if value then "True" else "False"
  | .integer value => toString value
  | .float value => value.toText
  | .string text => quoted text
  | .ragged text => quotedPoints text.points
  | .array items => "[" ++ ", ".intercalate (inspectItems items) ++ "]"
  | .object members => "\x7b" ++ ", ".intercalate (inspectMembers members) ++ "\x7d"

def inspectItems : List Json → List String
  | [] => []
  | item :: rest => inspect item :: inspectItems rest

def inspectMembers : List (String × Json) → List String
  | [] => []
  | (key, value) :: rest => (quoted key ++ ": " ++ inspect value) :: inspectMembers rest
end

def display : Json → String
  | .string text => text
  | .ragged text => text.shown
  | value => inspect value

end ObservatoryWatch.Json
