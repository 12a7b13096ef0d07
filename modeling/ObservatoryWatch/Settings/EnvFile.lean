import ObservatoryWatch.Text.Blank

/-!
Files of environment variables.

A file is a row of bindings, one a line: a name, an equals sign and a value, with
blanks around each of them. A value may stand in single or double quotes, where a
backslash escapes the quote and a line break is part of the value; without quotes
it ends at a comment or at the end of the line. A line that fits no form is passed
over. A value may refer to variables that are known where it stands.
-/

namespace ObservatoryWatch.EnvFile

open Text

/-! ## Lines -/

/-- The text with the same character at the end of every line. -/
def unifyLineEnds : List Char → List Char
  | '\r' :: '\n' :: rest => '\n' :: unifyLineEnds rest
  | '\r' :: rest => '\n' :: unifyLineEnds rest
  | character :: rest => character :: unifyLineEnds rest
  | [] => []

/-- A blank that does not end the line. -/
def isGap (character : Char) : Bool := isBlank character && character != '\n'

def skipGaps (characters : List Char) : List Char := characters.dropWhile isGap

/-- What has been read and what follows it, or the place at which reading stopped. -/
abbrev Reading (α : Type) := Except (List Char) (α × List Char)

/-- Reads the end of the line; only blanks may come before it. -/
def readLineEnd (characters : List Char) : Reading Unit :=
  match skipGaps characters with
  | [] => .ok ((), [])
  | '\n' :: rest => .ok ((), rest)
  | _ => .error characters

/-- What follows a comment, if there is one. -/
def skipComment (characters : List Char) : List Char :=
  match skipGaps characters with
  | '#' :: rest => rest.dropWhile (· != '\n')
  | _ => characters

/-- What follows the line. -/
def skipLine (characters : List Char) : List Char :=
  (characters.dropWhile (· != '\n')).drop 1

/-! ## Names -/

def skipExport (characters : List Char) : List Char :=
  if "export".toList.isPrefixOf characters then
    match characters.drop 6 with
    | character :: rest => if isGap character then skipGaps rest else characters
    | [] => characters
  else characters

def endsName (character : Char) : Bool :=
  character == '=' || character == '#' || isBlank character

/-- Reads a name; where a comment begins there is none. -/
def readName (characters : List Char) : Reading (Option String) :=
  match characters with
  | '#' :: _ => .ok (none, characters)
  | '\'' :: rest =>
    match rest.span (· != '\'') with
    | (first :: name, _ :: after) => .ok (some (String.ofList (first :: name)), after)
    | _ => .error characters
  | _ =>
    match characters.span (!endsName ·) with
    | ([], _) => .error characters
    | (name, after) => .ok (some (String.ofList name), after)

/-! ## Values -/

/-- The text up to the closing quote, escapes as they are, and what follows the quote.
A quote after a backslash closes the text only if no later one does. -/
def readQuoted? (quote : Char) : List Char → Option (List Char × List Char)
  | [] => none
  | '\\' :: character :: rest =>
    if character == quote then
      match readQuoted? quote rest with
      | some (text, after) => some ('\\' :: quote :: text, after)
      | none => some (['\\'], rest)
    else
      (readQuoted? quote (character :: rest)).map fun (text, after) => ('\\' :: text, after)
  | character :: rest =>
    if character == quote then some ([], rest)
    else (readQuoted? quote rest).map fun (text, after) => (character :: text, after)

/-- What the escapes of a quoted value stand for. -/
def escapes (quote : Char) : List (Char × Char) :=
  if quote == '"' then
    [('\\', '\\'), ('\'', '\''), ('"', '"'), ('a', '\x07'), ('b', '\x08'), ('f', '\x0c'),
      ('n', '\n'), ('r', '\r'), ('t', '\t'), ('v', '\x0b')]
  else [('\\', '\\'), ('\'', '\'')]

def resolveEscapes (known : List (Char × Char)) : List Char → List Char
  | '\\' :: character :: rest =>
    match known.lookup character with
    | some meaning => meaning :: resolveEscapes known rest
    | none => '\\' :: resolveEscapes known (character :: rest)
  | character :: rest => character :: resolveEscapes known rest
  | [] => []

/-- A value without its comment, which begins at a number sign after a blank. -/
def withoutComment : List Char → List Char
  | [] => []
  | character :: rest =>
    if isBlank character && (rest.dropWhile isBlank).head? == some '#' then []
    else character :: withoutComment rest

/-- Reads a value; a quote that is never closed stops the reading. -/
def readValue (characters : List Char) : Reading (List Char) :=
  match characters with
  | [] => .ok ([], [])
  | first :: rest =>
    if first == '\'' || first == '"' then
      match readQuoted? first rest with
      | some (text, after) => .ok (resolveEscapes (escapes first) text, after)
      | none => .error characters
    else
      let (value, after) := characters.span (· != '\n')
      .ok ((withoutComment value).reverse.dropWhile isBlank |>.reverse, after)

/-! ## Bindings -/

/-- A name with the value that follows it; a name can also stand alone. -/
structure Binding where
  name : String
  value : Option (List Char)

/-- Reads the value after a name, if an equals sign comes first. -/
def readAssignment (characters : List Char) : Reading (Option (List Char)) :=
  match skipGaps characters with
  | '=' :: rest => (readValue (skipGaps rest)).map fun (value, after) => (some value, after)
  | rest => .ok (none, rest)

/-- Reads one line; a comment binds nothing. -/
def readBinding (characters : List Char) :
    Except (List Char) (Option Binding × List Char) := do
  let (name, afterName) ← readName (skipExport characters)
  let (value, afterValue) ← readAssignment afterName
  let ((), rest) ← readLineEnd (skipComment afterValue)
  return (name.map (⟨·, value⟩), rest)

/-- Reads bindings; each takes at least one character, so their number is bounded. -/
def readBindings : Nat → List Char → List Binding
  | 0, _ => []
  | bound + 1, characters =>
    match characters.dropWhile isBlank with
    | [] => []
    | start =>
      match readBinding start with
      | .ok (binding, rest) => binding.toList ++ readBindings bound rest
      | .error place => readBindings bound (skipLine place)

/-- The bindings of a file in order. -/
def bindings (text : String) : List Binding :=
  readBindings text.length (unifyLineEnds text.toList)

/-! ## References

A reference is a dollar sign and a name in braces. A colon and a hyphen may follow
the name, and after them the text for a name that is not known. -/

structure Reference where
  name : String
  absent : String
  length : Nat

/-- The reference that a text begins with. -/
def reference? : List Char → Option Reference
  | '$' :: '\x7b' :: rest =>
    match rest.span fun character => character != '\x7d' && character != ':' with
    | (name, '\x7d' :: _) => some ⟨String.ofList name, "", name.length + 3⟩
    | (name, ':' :: '-' :: afterName) =>
      match afterName.span (· != '\x7d') with
      | (absent, _ :: _) =>
        some ⟨String.ofList name, String.ofList absent, name.length + absent.length + 5⟩
      | (_, []) => none
    | _ => none
  | _ => none

/-- Replaces every reference by what it stands for. -/
def resolveFrom (meaning : Reference → String) (skip : Nat) : List Char → List Char
  | [] => []
  | character :: rest =>
    match skip with
    | skip + 1 => resolveFrom meaning skip rest
    | 0 =>
      match reference? (character :: rest) with
      | some reference =>
        (meaning reference).toList ++ resolveFrom meaning (reference.length - 1) rest
      | none => character :: resolveFrom meaning 0 rest

/-! ## Variables -/

/-- Names with their values, each name once. -/
abbrev Variables := List (String × Option String)

namespace Variables

/-- Gives a name a value; a name that is there already keeps its place. -/
def put (known : Variables) (name : String) (value : Option String) : Variables :=
  if (known.lookup name).isSome then
    known.map fun entry => if entry.1 == name then (name, value) else entry
  else known ++ [(name, value)]

/-- What a reference stands for: a variable of the file comes before the environment. -/
def meaning (known : Variables) (environment : List (String × String))
    (reference : Reference) : String :=
  match known.lookup reference.name with
  | some value => value.getD ""
  | none => (environment.lookup reference.name).getD reference.absent

/-- The variables after one more binding. -/
def bind (environment : List (String × String)) (known : Variables) (binding : Binding) :
    Variables :=
  known.put binding.name (binding.value.map fun value =>
    String.ofList (resolveFrom (known.meaning environment) 0 value))

end Variables

/-- The variables of a file that is read in an environment. -/
def evaluate (environment : List (String × String)) (text : String) : Variables :=
  (bindings text).foldl (Variables.bind environment) []

example : evaluate [] "A=1 # one\nexport B='x y'\r\n# none\nC = \"z\\n\"" =
    [("A", some "1"), ("B", some "x y"), ("C", some "z\n")] := by decide +kernel

end ObservatoryWatch.EnvFile
