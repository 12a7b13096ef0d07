import ObservatoryWatch.Json.Basic
import ObservatoryWatch.Number.Style

/-!
Writing JSON.

The three forms in use differ in the marks between items, in which characters are
escaped and in how numbers are spelled; a `Form` holds these choices. Every control
character is escaped in all of them, so a written value never spans two lines, and so
is every surrogate without a partner.
-/

namespace ObservatoryWatch.Json

open Number Text

/-- The choices of one written form. -/
structure Form where
  betweenItems : String
  afterKey : String
  /-- Characters other than quote and backslash that are written as they are. -/
  isPlain : Char → Bool
  numbers : Style

/-- Numbers with names for the values that JSON itself cannot express. -/
def namedNumbers : Style :=
  { Style.standard with
    notANumber := "NaN"
    infinity := fun negative => signText negative ++ "Infinity" }

/-- The form of log lines: blanks after the marks, characters of all scripts as they are. -/
def Form.line : Form where
  betweenItems := ", "
  afterKey := ": "
  isPlain := (' ' ≤ ·)
  numbers := namedNumbers

/-- The form of message bodies: blanks after the marks, ASCII only. -/
def Form.ascii : Form where
  betweenItems := ", "
  afterKey := ": "
  isPlain := fun character => ' ' ≤ character && character ≤ '~'
  numbers := namedNumbers

/-- The form of requests and of what identifies records: no blanks, small numbers positional from
0.00001. -/
def Form.compact : Form where
  betweenItems := ","
  afterKey := ":"
  isPlain := (' ' ≤ ·)
  numbers :=
    { Style.standard with
      leastPositional := -5
      exponentWidth := 1
      notANumber := "null"
      infinity := fun _ => "null" }

/-! ## Strings -/

def shortEscapes : List (Char × Char) :=
  [('"', '"'), ('\\', '\\'), ('\x08', 'b'), ('\x0c', 'f'), ('\n', 'n'), ('\r', 'r'),
    ('\t', 't')]

/-- An escaped 16-bit unit. -/
def unitEscape (unit : Nat) : List Char :=
  '\\' :: 'u' ::
    (hexPair lowerHexDigits (UInt8.ofNat (unit / 256)) ++
      hexPair lowerHexDigits (UInt8.ofNat (unit % 256)))

/-- A character as one escaped unit, or two if it lies beyond the first plane. -/
def longEscape (character : Char) : List Char :=
  let code := character.toNat
  if code < 0x10000 then unitEscape code
  else
    unitEscape (0xD800 + (code - 0x10000) / 0x400) ++
      unitEscape (0xDC00 + (code - 0x10000) % 0x400)

def writeChar (form : Form) (character : Char) : List Char :=
  match shortEscapes.lookup character with
  | some mark => ['\\', mark]
  | none => if form.isPlain character then [character] else longEscape character

def writeString (form : Form) (text : String) : String :=
  String.ofList ('"' :: text.toList.flatMap (writeChar form) ++ ['"'])

def writePoint (form : Form) : CodePoint → List Char
  | .char character => writeChar form character
  | .lone surrogate => unitEscape surrogate.code

def writeRagged (form : Form) (text : Ragged) : String :=
  String.ofList ('"' :: text.points.flatMap (writePoint form) ++ ['"'])

/-! ## Values -/

mutual
def write (form : Form) : Json → String
  | .null => "null"
  | .bool value => if value then "true" else "false"
  | .integer value => toString value
  | .float value => form.numbers.write value
  | .string text => writeString form text
  | .ragged text => writeRagged form text
  | .array items => "[" ++ form.betweenItems.intercalate (writeItems form items) ++ "]"
  | .object members =>
    "\x7b" ++ form.betweenItems.intercalate (writeMembers form members) ++ "\x7d"

def writeItems (form : Form) : List Json → List String
  | [] => []
  | item :: rest => write form item :: writeItems form rest

def writeMembers (form : Form) : List (String × Json) → List String
  | [] => []
  | (key, value) :: rest =>
    (writeString form key ++ form.afterKey ++ write form value) :: writeMembers form rest
end

/-! ## What cannot be sent

A request holds its texts without escapes for surrogates, so a text with a surrogate that has no
partner keeps it from being written. -/

/-- Where a text's first surrogates stand after its opening quote. -/
def raggedFault (text : Ragged) : EncodingFault :=
  let fault := text.fault .utf8 []
  let before := (text.points.take fault.position).flatMap (writePoint .compact)
  { fault with position := before.length + 1 }

mutual
/-- Why a value cannot be sent, with the place in its text. -/
def fault? : Json → Option EncodingFault
  | .ragged text => some (raggedFault text)
  | .array items => itemFault? 1 items
  | .object members => memberFault? 1 members
  | _ => none

/-- The same for items of which the first stands after so many characters. -/
def itemFault? (before : Nat) : List Json → Option EncodingFault
  | [] => none
  | item :: rest =>
    match fault? item with
    | some fault => some (fault.shifted before)
    | none => itemFault? (before + (write .compact item).length + 1) rest

/-- The same for members of which the first stands after so many characters. -/
def memberFault? (before : Nat) : List (String × Json) → Option EncodingFault
  | [] => none
  | (key, value) :: rest =>
    let start := before + (writeString .compact key).length + 1
    match fault? value with
    | some fault => some (fault.shifted start)
    | none => memberFault? (start + (write .compact value).length + 1) rest
end

end ObservatoryWatch.Json
