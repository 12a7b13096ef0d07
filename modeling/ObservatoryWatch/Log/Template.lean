import ObservatoryWatch.Json.Display
import ObservatoryWatch.Number.Conversion

/-!
Message templates.

A template is a text in which a percent sign begins a directive: flags, a width, a
point with a precision, and a letter that says how an argument is written there.
Two percent signs stand for one. Every argument has to be used exactly once, in
order.
-/

namespace ObservatoryWatch.Log.Template

open Number

inductive TemplateFault where
  | tooFewArguments
  | tooManyArguments
  | unfinished
  | unknownLetter (letter : Char) (position : Nat)
  | notWhole (letter : Char) (kind : String)
  | notExact (letter : Char) (kind : String)
  | notNumber (kind : String)
  | conversion (fault : ConversionFault)
  deriving Repr

def TemplateFault.message : TemplateFault → String
  | tooFewArguments => "not enough arguments for format string"
  | tooManyArguments => "not all arguments converted during string formatting"
  | unfinished => "incomplete format"
  | unknownLetter letter position =>
    "unsupported format character '" ++ String.singleton letter ++ "' (0x" ++
      String.ofList (Nat.toDigits 16 letter.toNat) ++ ") at index " ++ toString position
  | notWhole letter kind =>
    "%" ++ String.singleton letter ++ " format: a real number is required, not " ++ kind
  | notExact letter kind =>
    "%" ++ String.singleton letter ++ " format: an integer is required, not " ++ kind
  | notNumber kind => "must be real number, not " ++ kind
  | conversion fault => fault.message

/-! ## Directives -/

/-- What has been read of a directive. -/
structure Directive where
  leftAligned : Bool
  zeroFilled : Bool
  signed : Bool
  spaced : Bool
  width : Nat
  hasWidth : Bool
  precision : Option Nat

def Directive.plain : Directive := ⟨false, false, false, false, 0, false, none⟩

/-- A directive with one more character of its flags, width or precision. -/
def Directive.extend? (directive : Directive) (character : Char) : Option Directive :=
  match directive.precision, digitValue? character with
  | some precision, some digit =>
    some { directive with precision := some (10 * precision + digit) }
  | some _, none => none
  | none, digit =>
    if character == '.' then some { directive with precision := some 0 }
    else if directive.hasWidth || (digit.isSome && character != '0') then
      digit.map fun digit =>
        { directive with width := 10 * directive.width + digit, hasWidth := true }
    else if character == '0' then some { directive with zeroFilled := true }
    else if character == '-' then some { directive with leftAligned := true }
    else if character == '+' then some { directive with signed := true }
    else if character == ' ' then some { directive with spaced := true }
    else if character == '#' then some directive
    else none

/-- Fills a sign and a body up to the width. -/
def Directive.fill (directive : Directive) (zeros : Bool) (sign body : List Char) : List Char :=
  let missing := directive.width - (sign.length + body.length)
  if directive.leftAligned then sign ++ body ++ List.replicate missing ' '
  else if zeros then sign ++ List.replicate missing '0' ++ body
  else List.replicate missing ' ' ++ sign ++ body

/-- Fills the text of a number, which may begin with a minus sign. -/
def Directive.fillNumber (directive : Directive) (text : String) : List Char :=
  let fill := directive.fill directive.zeroFilled
  match text.toList with
  | '-' :: body => fill ['-'] body
  | body =>
    if directive.signed then fill ['+'] body
    else if directive.spaced then fill [' '] body
    else fill [] body

def Directive.writeText (directive : Directive) (text : String) : List Char :=
  directive.fill false [] (match directive.precision with
    | some precision => text.toList.take precision
    | none => text.toList)

/-- A number for a letter that counts; what stands after the point is left out. -/
def wholeArgument (letter : Char) : Json → Except TemplateFault Int
  | .integer value => .ok value
  | .bool value => .ok (if value then 1 else 0)
  | .float value => (wholePart value).mapError .conversion
  | other => .error (.notWhole letter other.kindName)

/-- A number for a letter with another base than ten; it must be whole. -/
def exactArgument (letter : Char) : Json → Except TemplateFault Int
  | .integer value => .ok value
  | .bool value => .ok (if value then 1 else 0)
  | other => .error (.notExact letter other.kindName)

def numberArgument : Json → Except TemplateFault Binary64
  | .float value => .ok value
  | .integer value => (ofWhole value).mapError .conversion
  | .bool value => .ok (.ofNat (if value then 1 else 0))
  | other => .error (.notNumber other.kindName)

def Directive.writeWhole (directive : Directive) (base : Nat) (value : Int) : List Char :=
  let digits := Nat.toDigits base value.natAbs
  let zeros := List.replicate (directive.precision.getD 1 - digits.length) '0'
  directive.fillNumber (signText (value < 0) ++ String.ofList (zeros ++ digits))

/-- The digits after the point, or the significant ones, that a directive asks for. -/
def Directive.places (directive : Directive) : Nat := directive.precision.getD 6

/-- Letters by the way in which they write an argument. -/
def textLetters : List Char := ['s', 'r']

def wholeLetters : List Char := ['d', 'i', 'u']

def exactLetters : List Char := ['x', 'X', 'o']

def numberLetters : List Char := ['f', 'F', 'e', 'E', 'g', 'G']

def letters : List Char := textLetters ++ wholeLetters ++ exactLetters ++ numberLetters

/-- A number in the notation of a small letter: fixed places, an exponent, or the shorter. -/
def numberText (letter : Char) (places : Nat) (value : Binary64) : String :=
  if letter == 'e' then value.toExponentText places
  else if letter == 'g' then value.toGeneralText places
  else value.toFixedText places

/-- A large letter asks for large letters. -/
def inCaseOf (letter : Char) (characters : List Char) : List Char :=
  if letter.isUpper then characters.map Char.toUpper else characters

/-- Writes an argument as the directive's letter says; none if the letter says nothing. -/
def Directive.write? (directive : Directive) (letter : Char) (argument : Json) :
    Option (Except TemplateFault (List Char)) :=
  if textLetters.contains letter then
    some (.ok (directive.writeText
      (if letter == 's' then argument.display else argument.inspect)))
  else if wholeLetters.contains letter then
    some ((wholeArgument letter argument).map (directive.writeWhole 10))
  else if exactLetters.contains letter then
    some ((exactArgument letter argument).map fun value =>
      inCaseOf letter (directive.writeWhole (if letter == 'o' then 8 else 16) value))
  else if numberLetters.contains letter then
    some ((numberArgument argument).map fun value =>
      inCaseOf letter
        (directive.fillNumber (numberText letter.toLower directive.places value)))
  else none

/-! ## Filling in -/

/-- Fills arguments into a template, given the directive that is being read, if any, and
the position of the next character. -/
def fillFrom (position : Nat) : Option Directive → List Json → List Char →
    Except TemplateFault (List Char)
  | none, [], [] => .ok []
  | none, _ :: _, [] => .error .tooManyArguments
  | some _, _, [] => .error .unfinished
  | none, arguments, character :: rest =>
    if character == '%' then fillFrom (position + 1) (some .plain) arguments rest
    else (fillFrom (position + 1) none arguments rest).map (character :: ·)
  | some directive, arguments, character :: rest =>
    match directive.extend? character with
    | some directive => fillFrom (position + 1) (some directive) arguments rest
    | none =>
      if character == '%' then
        (fillFrom (position + 1) none arguments rest).map ('%' :: ·)
      else match arguments with
        | [] =>
          .error (if letters.contains character then .tooFewArguments
            else .unknownLetter character position)
        | argument :: others =>
          match directive.write? character argument with
          | some written => do
            let written ← written
            return written ++ (← fillFrom (position + 1) none others rest)
          | none => .error (.unknownLetter character position)

/-- The text of a template; without arguments it is taken as it is. -/
def fillIn (template : String) (arguments : List Json) : Except TemplateFault String :=
  if arguments.isEmpty then .ok template
  else (fillFrom 0 none arguments template.toList).map String.ofList

end ObservatoryWatch.Log.Template
