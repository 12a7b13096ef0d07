import ObservatoryWatch.Number.Decimal
import ObservatoryWatch.Text.Blank
import ObservatoryWatch.Text.DecimalDigit
import ObservatoryWatch.Text.Search

/-!
The words of the command line.

The first plain word names a command; without any the monitor is run. Options may be
shortened as long as they stay unambiguous, and take their value from the same word
or from the next. After two hyphens every word is plain.
-/

namespace ObservatoryWatch.Command

open Number Text

/-- What the program is asked to do. -/
inductive Order where
  | run (interval : Option Binary64) (maxCycles : Option Int)
  | events (count : Int)
  | images (count : Int)
  | sequence
  | lastAutofocus
  | thumbnail (index : Int) (output : String) (imageType : Option String)
  deriving DecidableEq

/-- Why there is no command: help was asked for, or the words make no sense. -/
inductive Exit where
  | helped
  | refused
  deriving DecidableEq, Repr

def Exit.code : Exit → Nat
  | helped => 0
  | refused => 2

/-! ## Values -/

/-- The characters of a number with blanks at the ends and foreign digits replaced. -/
def plainCharacters (text : String) : List Char :=
  (trimWith isBlank text.toList).map asciiDigit

def readWhole? (text : String) : Option Int := do
  let (negative, body) := Decimal.takeSign (plainCharacters text)
  let digits ← dropDigitSeparators? body
  if digits.isEmpty || !digits.all Char.isDigit || digitLimit < digits.length then none
  else some (Binary64.signed negative (digitsValue digits))

def readNumber? (text : String) : Option Binary64 := readSeparated? (plainCharacters text)

/-! ## Commands and their options -/

inductive Parameter where
  | help
  | interval
  | maxCycles
  | count
  | output
  | imageType
  deriving DecidableEq, Repr

/-- Each spelling of an option, and what it sets. -/
abbrev Spellings := List (String × Parameter)

def helpSpellings : Spellings := [("-h", .help), ("--help", .help)]

namespace Order

/-- The commands by name, each with the values that hold unless others are given. -/
def named : List (String × Order) :=
  [("run", .run none none), ("events", .events 20), ("images", .images 10),
    ("sequence", .sequence), ("last-af", .lastAutofocus),
    ("thumbnail", .thumbnail 0 "thumbnail.jpg" none)]

/-- What is done if no command is named. -/
def standard : Order := .run none none

def spellings : Order → Spellings
  | run _ _ => helpSpellings ++ [("--interval", .interval), ("--max-cycles", .maxCycles)]
  | events _ | images _ => helpSpellings ++ [("--count", .count)]
  | sequence | lastAutofocus => helpSpellings
  | thumbnail _ _ _ =>
    helpSpellings ++ [("-o", .output), ("--output", .output), ("--image-type", .imageType)]

/-- The command with an option set; none if the text is no value for it. -/
def assign? : Order → Parameter → String → Option Order
  | run _ maxCycles, .interval, text =>
    (readNumber? text).map fun interval => run (some interval) maxCycles
  | run interval _, .maxCycles, text =>
    (readWhole? text).map fun maxCycles => run interval (some maxCycles)
  | events _, .count, text => (readWhole? text).map events
  | images _, .count, text => (readWhole? text).map images
  | thumbnail index _ imageType, .output, text => some (thumbnail index text imageType)
  | thumbnail index output _, .imageType, text => some (thumbnail index output (some text))
  | _, _, _ => none

/-- Whether the command takes a plain word of its own. -/
def takesWord : Order → Bool
  | thumbnail _ _ _ => true
  | _ => false

/-- The command with its plain word; none if the word is no value for it. -/
def place? : Order → String → Option Order
  | thumbnail _ output imageType, text =>
    (readWhole? text).map fun index => thumbnail index output imageType
  | _, _ => none

end Order

/-- What is said to a person whose words ask for help or make no sense. -/
def usage : String :=
  "usage: observatory-watch [run|events|images|sequence|last-af|thumbnail] [options]"

/-! ## Kinds of words -/

inductive Word where
  | plain (text : String)
  | divider
  | option (spelling : String) (parameter : Parameter) (attached : Option String)
  | unknown
  deriving DecidableEq, Repr

/-- A hyphen and a number: a value rather than an option. -/
def isNegativeNumber (text : String) : Bool :=
  match text.toList with
  | '-' :: rest =>
    match rest.span isDecimalDigit with
    | (whole, []) => !whole.isEmpty
    | (_, '.' :: places) => !places.isEmpty && places.all isDecimalDigit
    | _ => false
  | _ => false

/-- A word's part before its first equals sign, and the part after it. -/
def splitValue (text : String) : String × Option String :=
  match text.toList.span (· != '=') with
  | (_, []) => (text, none)
  | (name, _ :: value) => (String.ofList name, some (String.ofList value))

/-- The options that a word may be short for. -/
def candidates (known : Spellings) (text : String) : List Word :=
  if startsWith text "--" then
    let (name, attached) := splitValue text
    (known.filter fun (spelling, _) => startsWith spelling name).map fun (spelling, parameter) =>
      .option spelling parameter attached
  else
    let letter := String.ofList (text.toList.take 2)
    (known.filter (·.1 == letter)).map fun (spelling, parameter) =>
      .option spelling parameter (some (String.ofList (text.toList.drop 2)))

/-- What a word that stands before the divider is; none if it is short for several options. -/
def classify? (known : Spellings) (text : String) : Option Word :=
  let (name, attached) := splitValue text
  if !startsWith text "-" then some (.plain text)
  else match known.lookup text with
    | some parameter => some (.option text parameter none)
    | none =>
      if text == "-" then some (.plain text)
      else match attached, known.lookup name with
        | some value, some parameter => some (.option name parameter (some value))
        | _, _ =>
          match candidates known text with
          | [word] => some word
          | _ :: _ => none
          | [] =>
            if isNegativeNumber text || text.toList.contains ' ' then some (.plain text)
            else some .unknown

def classifyAll? (known : Spellings) : List String → Option (List Word)
  | [] => some []
  | text :: rest =>
    if text == "--" then some (.divider :: rest.map .plain)
    else do return (← classify? known text) :: (← classifyAll? known rest)

/-! ## Reading a command's words -/

/-- Letters written after a letter that takes no value: each is an option of its own, and
one that takes a value takes the remaining letters or the next word. -/
def followHelp (known : Spellings) (nextIsPlain : Bool) : List Char → Exit
  | [] => .helped
  | letter :: rest =>
    match known.lookup (String.ofList ['-', letter]) with
    | none => .refused
    | some .help => followHelp known nextIsPlain rest
    | some _ => if rest.isEmpty && !nextIsPlain then .refused else .helped

def beginsPlain : List Word → Bool
  | .plain _ :: _ => true
  | _ => false

/-- What asking for help comes to, with a value attached to it or not. -/
def askForHelp (known : Spellings) (spelling : String) (attached : Option String)
    (rest : List Word) : Exit :=
  match attached with
  | none => .helped
  | some value =>
    if startsWith spelling "--" || value.isEmpty then .refused
    else followHelp known (beginsPlain rest) value.toList

/-- A command whose words are being read. -/
structure Progress where
  command : Order
  /-- The command's plain word has been read. -/
  placed : Bool
  /-- There were words that the command has no use for. -/
  leftOver : Bool

/-- A plain word would still find its place. -/
def Progress.takesWord (progress : Progress) : Bool :=
  progress.command.takesWord && !progress.placed

def Progress.finish (progress : Progress) : Except Exit Order :=
  if progress.leftOver then .error .refused else .ok progress.command

/-- Reads the words of a command one after the other. -/
def readWords (progress : Progress) : List Word → Except Exit Order
  | [] => progress.finish
  | .unknown :: rest => readWords { progress with leftOver := true } rest
  | .option spelling .help attached :: rest =>
    .error (askForHelp progress.command.spellings spelling attached rest)
  | .option _ parameter (some value) :: rest =>
    match progress.command.assign? parameter value with
    | some command => readWords { progress with command } rest
    | none => .error .refused
  | .option _ parameter none :: .plain value :: rest =>
    match progress.command.assign? parameter value with
    | some command => readWords { progress with command } rest
    | none => .error .refused
  | .option _ _ none :: _ => .error .refused
  | .plain value :: .divider :: rest =>
    if progress.takesWord then
      match progress.command.place? value with
      | some command => readWords { progress with command, placed := true } rest
      | none => .error .refused
    else readWords { progress with leftOver := true } rest
  | .plain value :: rest =>
    if progress.takesWord then
      match progress.command.place? value with
      | some command => readWords { progress with command, placed := true } rest
      | none => .error .refused
    else readWords { progress with leftOver := true } rest
  | .divider :: rest =>
    readWords { progress with leftOver := progress.leftOver || !progress.takesWord } rest

def readCommand (command : Order) (words : List String) : Except Exit Order :=
  match classifyAll? command.spellings words with
  | some words => readWords ⟨command, false, false⟩ words
  | none => .error .refused

/-! ## The whole line -/

/-- Reads words up to the name of a command, and then the command. -/
def readLine (leftOver : Bool) : List String → Except Exit Order
  | [] => if leftOver then .error .refused else .ok .standard
  | text :: rest =>
    if text == "--" then .error .refused
    else match classify? helpSpellings text with
      | none => .error .refused
      | some .unknown => readLine true rest
      | some (.option spelling _ attached) =>
        .error (askForHelp helpSpellings spelling attached [])
      | some _ =>
        match Order.named.lookup text with
        | none => .error .refused
        | some command => do
          let command ← readCommand command rest
          if leftOver then .error .refused else .ok command

/-- The command that the words of a command line ask for. -/
def parse (words : List String) : Except Exit Order := readLine false words

end ObservatoryWatch.Command
