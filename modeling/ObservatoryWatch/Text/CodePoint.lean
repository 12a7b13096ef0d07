import ObservatoryWatch.Text.Hexadecimal

/-!
Code points.

Where a text is spelled unit by unit, half of a character may stand without its other half. Such a
surrogate is no character, but it is kept: texts that hold surrogates are compared and put together
like others, only no encoding writes them.
-/

namespace ObservatoryWatch.Text

/-- A code that stands for half of a character. -/
structure Surrogate where
  code : Nat
  isSurrogate : 0xD800 ≤ code ∧ code < 0xE000
  deriving DecidableEq, Repr

inductive CodePoint where
  | char (character : Char)
  | lone (surrogate : Surrogate)
  deriving DecidableEq, Repr

def ofCodePoint? (value : Nat) : Option Char :=
  if valid : value.isValidChar then some (Char.ofNatAux value valid) else none

namespace CodePoint

def ofNat? (value : Nat) : Option CodePoint :=
  if isSurrogate : 0xD800 ≤ value ∧ value < 0xE000 then some (lone ⟨value, isSurrogate⟩)
  else (ofCodePoint? value).map char

def isLone : CodePoint → Bool
  | char _ => false
  | lone _ => true

/-- The character by which a person is shown the code point. -/
def shown : CodePoint → Char
  | char character => character
  | lone _ => '\uFFFD'

def code : CodePoint → Nat
  | char character => character.toNat
  | lone surrogate => surrogate.code

/-- The code with as many digits as its size asks for. -/
def codeText (point : CodePoint) : String :=
  if point.code < 0x100 then "\\x" ++ String.ofList (hexDigits 2 point.code)
  else if point.code < 0x10000 then "\\u" ++ String.ofList (hexDigits 4 point.code)
  else "\\U" ++ String.ofList (hexDigits 8 point.code)

end CodePoint

/-- The code points of a text. -/
def points (text : List Char) : List CodePoint := text.map .char

@[simp] theorem points_nil : points [] = [] := rfl

@[simp] theorem points_cons (character : Char) (text : List Char) :
    points (character :: text) = .char character :: points text := rfl

@[simp] theorem points_append (early late : List Char) :
    points (early ++ late) = points early ++ points late := List.map_append

theorem length_points (text : List Char) : (points text).length = text.length := List.length_map ..

theorem any_isLone_points (text : List Char) : (points text).any CodePoint.isLone = false := by
  rw [points, List.any_map, List.any_eq_false]
  exact fun _ _ => Bool.false_ne_true

theorem map_shown_points (text : List Char) : (points text).map CodePoint.shown = text := by
  rw [points, List.map_map]
  exact List.map_id text

/-! ## Encodings -/

inductive Encoding where
  | ascii
  | utf8
  deriving DecidableEq, Repr

/-- Code points in a row that an encoding cannot write: the first of them, its place, and how many
there are. -/
structure EncodingFault where
  encoding : Encoding
  first : CodePoint
  position : Nat
  count : Nat
  deriving DecidableEq, Repr

namespace Encoding

def name : Encoding → String
  | ascii => "ascii"
  | utf8 => "utf-8"

/-- What is said of a code point that the encoding cannot write. -/
def objection : Encoding → String
  | ascii => "ordinal not in range(128)"
  | utf8 => "surrogates not allowed"

def writes : Encoding → CodePoint → Bool
  | ascii, .char character => character.toNat < 128
  | utf8, .char _ => true
  | _, .lone _ => false

/-- The first code points that keep a text from being encoded, if there are any. -/
def fault? (encoding : Encoding) (text : List CodePoint) : Option EncodingFault :=
  match text.dropWhile encoding.writes with
  | [] => none
  | first :: later =>
    some
      { encoding
        first
        position := (text.takeWhile encoding.writes).length
        count := (later.takeWhile (!encoding.writes ·)).length + 1 }

theorem fault?_eq_none {encoding : Encoding} {text : List CodePoint} :
    encoding.fault? text = none ↔ ∀ point ∈ text, encoding.writes point = true := by
  have beyond : encoding.fault? text = none ↔ text.dropWhile encoding.writes = [] := by
    unfold fault?
    cases text.dropWhile encoding.writes <;> simp
  rw [beyond]
  clear beyond
  induction text with
  | nil => simp
  | cons point rest induction =>
      rw [List.forall_mem_cons]
      cases written : encoding.writes point with
      | true =>
          rw [List.dropWhile_cons_of_pos written]
          exact induction.trans (and_iff_right rfl).symm
      | false => simp [written]

example : ascii.fault? (points "töök".toList) = some ⟨ascii, .char 'ö', 1, 2⟩ := by decide

end Encoding

namespace EncodingFault

/-- The same fault in a text that has so many code points before. -/
def shifted (fault : EncodingFault) (count : Nat) : EncodingFault :=
  { fault with position := count + fault.position }

def message (fault : EncodingFault) : String :=
  let place :=
    if fault.count ≤ 1 then
      "character '" ++ fault.first.codeText ++ "' in position " ++ toString fault.position
    else
      "characters in position " ++ toString fault.position ++ "-" ++
        toString (fault.position + fault.count - 1)
  "'" ++ fault.encoding.name ++ "' codec can't encode " ++ place ++ ": " ++
    fault.encoding.objection

end EncodingFault

end ObservatoryWatch.Text
