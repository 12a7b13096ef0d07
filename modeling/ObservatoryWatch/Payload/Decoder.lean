import ObservatoryWatch.Json.Basic
import ObservatoryWatch.Number.Decimal
import ObservatoryWatch.Number.Word
import ObservatoryWatch.Payload.Checked
import ObservatoryWatch.Text.Blank
import ObservatoryWatch.Text.Segment

/-!
Lenient decoding of payload fields.

Software in the field spells the same value in several ways, so a decoder takes any
spelling that leaves no doubt: a whole number may come as a number without a
fraction or as digits in a text, a truth value as one of a few words.
-/

namespace ObservatoryWatch.Payload

open Checked Number Text

abbrev Decoder (α : Type) := Json → Checked α

variable {α : Type}

/-! ## Values -/

/-- A text as it came. -/
def label : Decoder Label
  | .string text => valid (.whole text)
  | .ragged text => valid (.ragged text)
  | _ => complain .notText

/-- A text as a person is shown it. -/
def text : Decoder String
  | .string text => valid text
  | .ragged text => valid text.shown
  | _ => complain .notText

/-- Takes out underscores that stand one at a time inside a text; none if there are no such
underscores, or others too. -/
def dropInnerUnderscores? (characters : List Char) : Option (List Char) :=
  let parts := segmentsOf '_' characters
  if characters.contains '_' && parts.all (!·.isEmpty) then some parts.flatten else none

/-- Digits with an optional sign, and after them at most a point and zeros. A minus stands inside the
text like a digit does: an underscore may follow it, and it counts to the length of the number. Zeros
in front do not count. -/
def wholeOfText (characters : List Char) : Checked Int :=
  let (negative, body) := Decimal.takeSign (trimWith isWhiteSpace characters)
  let minus := if negative then ['-'] else []
  let (written, rest) := body.span (· != '.')
  let digits := ((dropInnerUnderscores? (minus ++ written)).getD (minus ++ written)).drop minus.length
  let zeros := match rest with
    | '.' :: zeros => !zeros.isEmpty && zeros.all (· == '0')
    | _ => true
  if !zeros || digits.isEmpty || !digits.all Char.isDigit then complain .unreadableWhole
  else if digitLimit < minus.length + (digits.dropWhile (· == '0')).length then complain .tooLarge
  else valid (Binary64.signed negative (digitsValue digits))

/-- A number without a fraction. It must lie between the ends of a word of 64 bits. -/
def wholeOfNumber (value : Binary64) : Checked Int :=
  match value.truncate? with
  | none => complain .notFinite
  | some number =>
    if !value.isWhole then complain .fractional
    else if leastWord 64 < number && number < greatestWord 64 then valid number
    else complain .tooLarge

def whole : Decoder Int
  | .integer value => valid value
  | .bool value => valid (if value then 1 else 0)
  | .float value => wholeOfNumber value
  | .string text => wholeOfText text.toList
  | .ragged _ => complain .notEncodable
  | _ => complain .notWhole

/-- A number with blanks around it, or with underscores in it. -/
def numberOfText? (characters : List Char) : Option Binary64 :=
  readBinary64? (trimWith isWhiteSpace characters) <|>
    (dropInnerUnderscores? characters >>= readBinary64?)

example : numberOfText? ['1', '_', '.', '5'] = numberOfText? [' ', '1', '.', '5'] ∧
    numberOfText? [' ', '1', '_', '5'] = none := by decide +kernel

def number : Decoder Binary64
  | .float value => valid value
  | .integer value =>
    match Binary64.ofInt? value with
    | some value => valid value
    | none => complain .notNumber
  | .bool value => valid (.ofNat (if value then 1 else 0))
  | .string text =>
    match numberOfText? text.toList with
    | some value => valid value
    | none => complain .unreadableNumber
  | .ragged _ => complain .notEncodable
  | _ => complain .notNumber

/-- A number for which a text may also spell not-a-number with blanks around it. -/
def numberOrName : Decoder Binary64
  | .string text =>
    if String.ofList ((trimWith isBlank text.toList).map Char.toLower) == "nan" then valid .nan
    else number (.string text)
  | value => number value

def trueWords : List String := ["1", "on", "t", "true", "y", "yes"]

def falseWords : List String := ["0", "off", "f", "false", "n", "no"]

/-- A whole number of more than 64 bits is not even looked at as a truth value. -/
def truth : Decoder Bool
  | .bool value => valid value
  | .integer value =>
    if value = 0 then valid false
    else if value = 1 then valid true
    else if isWord 64 value then complain .unreadableTruth
    else complain .notTruth
  | .float value =>
    if value.isEqual (.ofNat 0) then valid false
    else if value.isEqual (.ofNat 1) then valid true
    else complain .notTruth
  | .string text =>
    let word := text.map Char.toLower
    if trueWords.contains word then valid true
    else if falseWords.contains word then valid false
    else complain .unreadableTruth
  | .ragged _ => complain .notEncodable
  | _ => complain .notTruth

/-- A text that is one of the given ones. -/
def oneOf (choices : List String) : Decoder String
  | .string text => if choices.contains text then valid text else complain (.notOneOf choices)
  | .ragged _ => complain .notEncodable
  | _ => complain (.notOneOf choices)

def nullable (decode : Decoder α) : Decoder (Option α)
  | .null => valid none
  | value => some <$> decode value

/-- Any value at all. -/
def anything : Decoder Json := valid

/-- Decodes items from a position on, each under its position. -/
def itemsFrom (decode : Decoder α) : Nat → List Json → Checked (List α)
  | _, [] => valid []
  | position, item :: rest =>
    List.cons <$> (decode item).under (.position position) <*>
      itemsFrom decode (position + 1) rest

def list (decode : Decoder α) : Decoder (List α)
  | .array items => itemsFrom decode 0 items
  | _ => complain .notList

/-! ## Fields

A field has a name on the wire and a plain name; where both are given the wire name
counts. -/

structure Field where
  wire : String
  plain : String

/-- The key under which a field is given, and its value. -/
def Field.find? (field : Field) (members : Json.Members) : Option (String × Json) :=
  match members.find? field.wire with
  | some value => some (field.wire, value)
  | none => (members.find? field.plain).map (field.plain, ·)

/-- A field that must be there. -/
def Field.required (field : Field) (decode : Decoder α) (members : Json.Members) : Checked α :=
  match field.find? members with
  | some (key, value) => (decode value).under (.key key)
  | none => (complain .missing).under (.key field.wire)

/-- A field with a value for its absence. -/
def Field.optional (field : Field) (absent : α) (decode : Decoder α) (members : Json.Members) :
    Checked α :=
  match field.find? members with
  | some (key, value) => (decode value).under (.key key)
  | none => valid absent

/-- A record of the named kind, decoded from its members. -/
def record (model : String) (decode : Json.Members → Checked α) : Decoder α
  | .object members => decode members
  | _ => complain (.notRecord model)

end ObservatoryWatch.Payload
