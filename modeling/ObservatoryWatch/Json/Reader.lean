import ObservatoryWatch.Json.Basic
import ObservatoryWatch.Number.Decimal
import ObservatoryWatch.Text.Wide

/-!
Reading JSON.

Beyond the standard grammar the reader knows the names `NaN`, `Infinity` and
`-Infinity`, because observatory software writes them. A number is whole unless it
has a point or an exponent. A repeated key keeps its first place and its last value.
A surrogate that has no partner is kept, whether it is escaped or spelled by octets.
Each part of the reader gives what it found together with the text after it.
-/

namespace ObservatoryWatch.Json

open Number Text

def isGap (point : CodePoint) : Bool := point ∈ points [' ', '\t', '\n', '\r']

def skipGaps (text : List CodePoint) : List CodePoint := text.dropWhile isGap

/-- The text after a word; none if the text does not begin with the word. -/
def afterWord? (word : String) (text : List CodePoint) : Option (List CodePoint) :=
  if (points word.toList).isPrefixOf text then some (text.drop word.length) else none

/-! ## Numbers -/

/-- The digits that a text begins with. -/
def takeDigits : List CodePoint → List Char × List CodePoint
  | .char digit :: rest =>
    if digit.isDigit then
      let (digits, after) := takeDigits rest
      (digit :: digits, after)
    else ([], .char digit :: rest)
  | text => ([], text)

/-- The digits before any point: a zero alone, or digits that do not begin with one. -/
def readWhole? : List CodePoint → Option (List Char × List CodePoint)
  | .char '0' :: rest => some (['0'], rest)
  | text =>
    let (digits, rest) := takeDigits text
    if digits.isEmpty then none else some (digits, rest)

/-- A point and digits; nothing is taken if no digit follows the point. -/
def readFraction : List CodePoint → List Char × List CodePoint
  | .char '.' :: rest =>
    let (digits, after) := takeDigits rest
    if digits.isEmpty then ([], .char '.' :: rest) else (digits, after)
  | text => ([], text)

def takeSign : List CodePoint → Bool × List CodePoint
  | .char '-' :: rest => (true, rest)
  | .char '+' :: rest => (false, rest)
  | text => (false, text)

/-- A mark, a sign and digits; nothing is taken if the form is not complete. -/
def readExponent (text : List CodePoint) : Option Int × List CodePoint :=
  match text with
  | mark :: rest =>
    if mark ∈ points ['e', 'E'] then
      let (negative, unsigned) := takeSign rest
      let (digits, after) := takeDigits unsigned
      if digits.isEmpty then (none, text)
      else (some (Binary64.signed negative (digitsValue digits)), after)
    else (none, text)
  | [] => (none, [])

def readUnsigned? (negative : Bool) (text : List CodePoint) : Option (Json × List CodePoint) := do
  let (whole, afterWhole) ← readWhole? text
  let (fraction, afterFraction) := readFraction afterWhole
  let (power, rest) := readExponent afterFraction
  if fraction.isEmpty && power.isNone then
    if digitLimit < whole.length then none
    else some (.integer (Binary64.signed negative (digitsValue whole)), rest)
  else
    let decimal : Decimal :=
      { negative
        coefficient := digitsValue (whole ++ fraction)
        exponent := power.getD 0 - fraction.length }
    some (.float decimal.toBinary64, rest)

def readNumber? : List CodePoint → Option (Json × List CodePoint)
  | .char '-' :: rest => readUnsigned? true rest
  | text => readUnsigned? false text

/-! ## Strings -/

def simpleEscapes : List (Char × Char) :=
  [('"', '"'), ('\\', '\\'), ('/', '/'), ('b', '\x08'), ('f', '\x0c'), ('n', '\n'),
    ('r', '\r'), ('t', '\t')]

def digit? : CodePoint → Option Nat
  | .char character => hexValue? character
  | .lone _ => none

/-- Four hexadecimal digits as a number. -/
def readUnit? : List CodePoint → Option (Nat × List CodePoint)
  | a :: b :: c :: d :: rest => do
    let digits ← [a, b, c, d].mapM digit?
    some (digits.foldl (fun value digit => 16 * value + digit) 0, rest)
  | _ => none

/-- The code point of an escape after its backslash, joined with a partner if there is one. -/
def readEscape? : List CodePoint → Option (CodePoint × List CodePoint)
  | .char 'u' :: rest => do
    let (unit, after) ← readUnit? rest
    let alone := (CodePoint.ofNat? unit).map (·, after)
    match after with
    | .char '\\' :: .char 'u' :: more =>
      match readUnit? more with
      | some (partner, afterPair) =>
        if isHighSurrogate unit && isLowSurrogate partner then
          (CodePoint.ofNat? (joined unit partner)).map (·, afterPair)
        else alone
      | none => alone
    | _ => alone
  | .char mark :: rest => (simpleEscapes.lookup mark).map (.char ·, rest)
  | _ => none

/-- What a string holds as written, up to its closing quote, and the text after that. -/
def rawString? : List CodePoint → Option (List CodePoint × List CodePoint)
  | [] => none
  | .char '"' :: rest => some ([], rest)
  | .char '\\' :: escaped :: rest => do
    let (inside, after) ← rawString? rest
    some (.char '\\' :: escaped :: inside, after)
  | point :: rest =>
    if point.code < ' '.toNat then none
    else do
      let (inside, after) ← rawString? rest
      some (point :: inside, after)

/-- What the inside of a string stands for; each step takes at least one code point of it. -/
def resolve? : Nat → List CodePoint → Option (List CodePoint)
  | _, [] => some []
  | 0, _ => none
  | bound + 1, .char '\\' :: rest => do
    let (point, after) ← readEscape? rest
    some (point :: (← resolve? bound after))
  | bound + 1, point :: rest => (resolve? bound rest).map (point :: ·)

/-- Reads a string after its opening quote. -/
def readString? (text : List CodePoint) : Option (Label × List CodePoint) := do
  let (raw, rest) ← rawString? text
  some (.ofPoints (← resolve? raw.length raw), rest)

/-! ## Values

Each call takes a code point before it calls again, or hands the same text to a
reader that does, so twice the length of the text is always enough. -/

def words : List (String × Json) :=
  [("null", .null), ("true", .bool true), ("false", .bool false), ("NaN", .float .nan),
    ("Infinity", .float (.infinite false)), ("-Infinity", .float (.infinite true))]

def readWord? (text : List CodePoint) : Option (Json × List CodePoint) :=
  words.findSome? fun (word, value) => (afterWord? word text).map (value, ·)

mutual
def readValue? : Nat → List CodePoint → Option (Json × List CodePoint)
  | 0, _ => none
  | fuel + 1, text =>
    match text with
    | .char '"' :: rest => (readString? rest).map fun (label, rest) => (ofLabel label, rest)
    | .char '[' :: rest =>
      match skipGaps rest with
      | .char ']' :: rest => some (.array [], rest)
      | rest => (readItems? fuel rest).map fun (items, rest) => (.array items, rest)
    | .char '{' :: rest =>
      match skipGaps rest with
      | .char '}' :: rest => some (.object [], rest)
      | rest => (readMembers? fuel rest).map fun (written, rest) =>
        (.object (Members.ofWritten written), rest)
    | text => readWord? text <|> readNumber? text

/-- The items of a list from the first one on. -/
def readItems? : Nat → List CodePoint → Option (List Json × List CodePoint)
  | 0, _ => none
  | fuel + 1, text => do
    let (item, rest) ← readValue? fuel text
    match skipGaps rest with
    | .char ']' :: rest => some ([item], rest)
    | .char ',' :: rest =>
      let (items, rest) ← readItems? fuel (skipGaps rest)
      some (item :: items, rest)
    | _ => none

/-- The members of an object from the first one on. -/
def readMembers? : Nat → List CodePoint → Option (List (String × Json) × List CodePoint)
  | 0, _ => none
  | fuel + 1, .char '"' :: rest => do
    let (key, rest) ← readString? rest
    match skipGaps rest with
    | .char ':' :: rest =>
      let (value, rest) ← readValue? fuel (skipGaps rest)
      match skipGaps rest with
      | .char '}' :: rest => some ([(key.shown, value)], rest)
      | .char ',' :: rest =>
        let (members, rest) ← readMembers? fuel (skipGaps rest)
        some ((key.shown, value) :: members, rest)
      | _ => none
    | _ => none
  | _, _ => none
end

/-- Reads a whole text as one value. -/
def ofPoints? (text : List CodePoint) : Option Json :=
  match readValue? (2 * text.length + 2) (skipGaps text) with
  | some (value, rest) => if (skipGaps rest).isEmpty then some value else none
  | none => none

def ofText? (text : String) : Option Json := ofPoints? (points text.toList)

/-! ## Octets

The encoding shows in the first octets: a byte order mark, or the places of the
zeros around the first characters, which are always ASCII. -/

/-- The surrogate that two octets spell after the one that begins it. -/
def spelledSurrogate? (second third : UInt8) : Option CodePoint :=
  if 0xA0 ≤ second && second ≤ 0xBF && 0x80 ≤ third && third ≤ 0xBF then
    CodePoint.ofNat? (0xD000 + (second.toNat - 0x80) * 64 + (third.toNat - 0x80))
  else none

/-- Decodes octets in which surrogates may be spelled as if they were characters. The octets since
the last of these come in reverse. -/
def decodeFrom? (before : Bytes) : Bytes → Option (List CodePoint)
  | [] => (decode? before.reverse).map points
  | 0xED :: second :: third :: rest =>
    match spelledSurrogate? second third with
    | some surrogate => do
      let early ← decode? before.reverse
      (decodeFrom? [] rest).map (points early ++ surrogate :: ·)
    | none => decodeFrom? (0xED :: before) (second :: third :: rest)
  | octet :: rest => decodeFrom? (octet :: before) rest

def decodeOctets? : Bytes → Option (List CodePoint)
  | 0x00 :: 0x00 :: 0xFE :: 0xFF :: rest => decodeUtf32? .bigEndian rest
  | 0xFF :: 0xFE :: 0x00 :: 0x00 :: rest => decodeUtf32? .littleEndian rest
  | 0xFE :: 0xFF :: rest => decodeUtf16? .bigEndian rest
  | 0xFF :: 0xFE :: rest => decodeUtf16? .littleEndian rest
  | 0xEF :: 0xBB :: 0xBF :: rest => decodeFrom? [] rest
  | bytes =>
    match bytes with
    | 0x00 :: second :: _ :: _ :: _ =>
      if second == 0x00 then decodeUtf32? .bigEndian bytes else decodeUtf16? .bigEndian bytes
    | _ :: 0x00 :: third :: fourth :: _ =>
      if third == 0x00 && fourth == 0x00 then decodeUtf32? .littleEndian bytes
      else decodeUtf16? .littleEndian bytes
    | [0x00, _] => decodeUtf16? .bigEndian bytes
    | [_, 0x00] => decodeUtf16? .littleEndian bytes
    | _ => decodeFrom? [] bytes

/-- Reads octets as one value. -/
def ofOctets? (bytes : Bytes) : Option Json := decodeOctets? bytes >>= ofPoints?

/-- The text of what octets are read as, if that is one text. -/
example : (ofOctets? [0x22, 0x61, 0xED, 0xA0, 0x80, 0x22]).bind label? =
    (ofText? "\"a\\ud800\"").bind label? := by decide +kernel

end ObservatoryWatch.Json
