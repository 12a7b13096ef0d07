import ObservatoryWatch.Json.Reader
import ObservatoryWatch.Json.Writer
import ObservatoryWatch.Proofs.Numerals

/-!
Values written without marks.

Words and numbers are written without quotes and brackets. Each kind of them is told from the
others by its text: a word is no numeral, and a numeral has a point or a power of ten exactly when
it was not a whole number. So the text of such a value says which value it is, up to the numbers
that have no numeral and are written as null.
-/

namespace ObservatoryWatch

namespace Number

/-! ## The characters of a numeral -/

/-- The characters of which numerals are made. -/
def isNumeral (character : Char) : Bool :=
  character.isDigit || character ∈ ['-', '+', '.', 'e']

theorem isNumeral_of_isDigit {character : Char} (digit : character.isDigit = true) :
    isNumeral character = true := by
  rw [isNumeral, digit, Bool.true_or]

/-- A text of which every character is one of those of which numerals are made. -/
def Numeral (text : List Char) : Prop := ∀ character ∈ text, isNumeral character = true

theorem Numeral.append {early late : List Char} (first : Numeral early) (second : Numeral late) :
    Numeral (early ++ late) := by
  intro character member
  exact (List.mem_append.mp member).elim (first character) (second character)

theorem Numeral.digits {digits : List Char} (all : ∀ digit ∈ digits, digit.isDigit = true) :
    Numeral digits := fun digit member => isNumeral_of_isDigit (all digit member)

theorem Numeral.cons {first : Char} {rest : List Char} (one : isNumeral first = true)
    (others : Numeral rest) : Numeral (first :: rest) := List.forall_mem_cons.mpr ⟨one, others⟩

theorem numeral_signText (negative : Bool) : Numeral (signText negative).toList := by
  cases negative with
  | true => exact .cons rfl nofun
  | false => exact nofun

theorem numeral_pointed {fraction : List Char} (digits : ∀ digit ∈ fraction, digit.isDigit = true) :
    Numeral (Decimal.pointed fraction) := by
  unfold Decimal.pointed
  split
  next => exact nofun
  next => exact .cons rfl (.digits digits)

theorem numeral_exponentText (width : Nat) (exponent : Int) :
    Numeral (exponentText width exponent).toList := by
  rw [Decimal.toList_exponentText, Decimal.toList_padded]
  refine .cons rfl (.cons ?_ (.append (.digits fun _ => Decimal.isDigit_of_mem_zeros)
    (.digits fun _ => isDigit_of_mem_digitsOf)))
  split <;> rfl

/-- Digits, a point, digits again and then nothing or a power of ten; if there is nothing then the
point is there in the styles that keep it. -/
theorem toList_writeDecimal (style : Style) (decimal : Decimal) :
    ∃ whole fraction power, (style.writeDecimal decimal).toList =
      whole ++ (Decimal.pointed fraction ++ power) ∧
        (∀ digit ∈ whole, digit.isDigit = true) ∧ (∀ digit ∈ fraction, digit.isDigit = true) ∧
        (power = [] ∧ (style.keepsPoint = true → fraction ≠ []) ∨
          ∃ exponent, power = (exponentText style.exponentWidth exponent).toList) := by
  have digits : ∀ digit ∈ digitsOf decimal.trim.coefficient, digit.isDigit = true :=
    fun _ => isDigit_of_mem_digitsOf
  unfold Style.writeDecimal
  dsimp only
  split
  next positionally =>
    have spec := Decimal.positional_spec digits (digitsOf_ne_nil _) decimal.trim.exponent
    refine ⟨_, _, [], by rw [Decimal.toList_joinPoint, List.append_nil], spec.2.1, ?_,
      .inl ⟨rfl, ?_⟩⟩
    · split
      next => exact List.all_eq_true.mp rfl
      next => exact spec.2.2.1
    · intro kept
      split
      next => exact List.cons_ne_nil _ _
      next unadded => simpa [kept] using unadded
  next exponentially =>
    refine ⟨_, _, _, by rw [String.toList_append, Decimal.toList_joinPoint, List.append_assoc],
      fun digit member => digits digit (List.mem_of_mem_take member),
      fun digit member => digits digit (List.mem_of_mem_drop member), .inr ⟨_, rfl⟩⟩

theorem numeral_writeDecimal (style : Style) (decimal : Decimal) :
    Numeral (style.writeDecimal decimal).toList := by
  rcases toList_writeDecimal style decimal with
    ⟨whole, fraction, power, text, wholeDigits, fractionDigits, ends⟩
  rw [text]
  refine .append (.digits wholeDigits) (.append (numeral_pointed fractionDigits) ?_)
  rcases ends with ⟨rfl, _⟩ | ⟨exponent, rfl⟩
  · exact nofun
  · exact numeral_exponentText _ _

/-- A point or a power of ten stands in a numeral. -/
def hasPlaces (text : List Char) : Bool := text.contains '.' || text.contains 'e'

theorem hasPlaces_writeDecimal {style : Style} (kept : style.keepsPoint = true)
    (sign : List Char) (decimal : Decimal) :
    hasPlaces (sign ++ (style.writeDecimal decimal).toList) = true := by
  rcases toList_writeDecimal style decimal with
    ⟨whole, fraction, power, text, _, _, ⟨rfl, some⟩ | ⟨exponent, rfl⟩⟩
  · have pointed : '.' ∈ Decimal.pointed fraction := by
      rw [Decimal.pointed, if_neg (by simpa using some kept)]
      exact List.mem_cons_self ..
    rw [text]
    simp [hasPlaces, pointed]
  · have powered : 'e' ∈ (exponentText style.exponentWidth exponent).toList := by
      rw [Decimal.toList_exponentText]
      exact List.mem_cons_self ..
    rw [text]
    simp [hasPlaces, powered]

/-! ## Whole numbers -/

theorem toList_toString (number : Int) :
    (toString number).toList =
      (signText (decide (number < 0))).toList ++ digitsOf number.natAbs := by
  cases number with
  | ofNat magnitude =>
      have above : ¬ Int.ofNat magnitude < 0 := Int.not_lt.mpr (Int.natCast_nonneg magnitude)
      rw [decide_eq_false above]
      exact Nat.toList_repr
  | negSucc fewer =>
      have below : Int.negSucc fewer < 0 := by omega
      rw [decide_eq_true below]
      change ("-" ++ (fewer + 1).repr).toList = _
      rw [String.toList_append, Nat.toList_repr]
      rfl

theorem numeral_toString (number : Int) : Numeral (toString number).toList := by
  rw [toList_toString]
  exact .append (numeral_signText _) (.digits fun _ => isDigit_of_mem_digitsOf)

theorem hasPlaces_toString (number : Int) : hasPlaces (toString number).toList = false := by
  rw [toList_toString]
  have point : '.' ∉ digitsOf number.natAbs := fun member =>
    absurd (isDigit_of_mem_digitsOf member) (by decide)
  have power : 'e' ∉ digitsOf number.natAbs := fun member =>
    absurd (isDigit_of_mem_digitsOf member) (by decide)
  cases decide (number < 0) <;> simp [hasPlaces, signText, point, power]

theorem ofText?_toString (number : Int) :
    Decimal.ofText? (toString number).toList = some ⟨decide (number < 0), number.natAbs, 0⟩ := by
  have noFraction : ∀ digit ∈ ([] : List Char), digit.isDigit = true := nofun
  have read := Decimal.ofText?_numeral (decide (number < 0)) (digitsOf_ne_nil number.natAbs)
    (fun _ => isDigit_of_mem_digitsOf) noFraction .nothing
  rw [toList_toString]
  simpa [Decimal.pointed, Decimal.exponent?, digitsValue_digitsOf] using read

end Number

namespace Json

open Number

/-! ## Values that JSON can express -/

mutual
/-- The value with null in the place of each number that is not finite. -/
def expressible : Json → Json
  | .float value => if value.isFinite then .float value else .null
  | .array items => .array (expressibleItems items)
  | .object members => .object (expressibleMembers members)
  | value => value

def expressibleItems : List Json → List Json
  | [] => []
  | item :: rest => expressible item :: expressibleItems rest

def expressibleMembers : List (String × Json) → List (String × Json)
  | [] => []
  | (key, value) :: rest => (key, expressible value) :: expressibleMembers rest
end

theorem expressibleItems_eq_map (items : List Json) :
    expressibleItems items = items.map expressible := by
  induction items with
  | nil => rfl
  | cons item rest induction => rw [expressibleItems, induction, List.map_cons]

theorem expressibleMembers_eq_map (members : List (String × Json)) :
    expressibleMembers members = members.map fun member => (member.1, member.2.expressible) := by
  induction members with
  | nil => rfl
  | cons member rest induction =>
      rcases member with ⟨key, value⟩
      rw [expressibleMembers, induction, List.map_cons]

/-! ## Words and numbers -/

/-- The characters that stand around texts, lists and objects and between their parts. -/
def isMark (character : Char) : Bool := character ∈ ['"', '[', ']', '{', '}', ',']

/-- Values that are written without marks. -/
def isBare : Json → Bool
  | .string _ | .ragged _ | .array _ | .object _ => false
  | _ => true

/-- The characters of a value in the form that identifies records. -/
def chars (value : Json) : List Char := (value.write .compact).toList

/-- What a text without marks is read as: a numeral is one of a whole number unless it has a point
or a power of ten, other texts are words. -/
def bare? (text : List Char) : Option Json :=
  match Decimal.ofText? text with
  | some decimal =>
    if hasPlaces text then some (.float decimal.toBinary64)
    else some (.integer (Binary64.signed decimal.negative decimal.coefficient))
  | none => words.lookup (String.ofList text)

/-- A number in the form that identifies records, without a name for what is not finite. -/
theorem chars_float_of_not_finite {number : Binary64} (named : number.isFinite = false) :
    chars (.float number) = chars .null := by
  cases number with
  | nan => rfl
  | infinite negative => rfl
  | finite => cases named

theorem chars_float_of_finite {number : Binary64} (finite : number.isFinite = true) :
    ∃ sign decimal, chars (.float number) =
      (signText sign).toList ++ (Form.compact.numbers.writeDecimal decimal).toList := by
  rcases number with _ | _ | ⟨negative, units, representable⟩ <;> cases finite
  exact ⟨negative, shortest units, String.toList_append⟩

/-- A value without marks is told by its text, up to numbers that are not finite. -/
theorem bare?_chars {value : Json} (bare : value.isBare = true) :
    bare? value.chars = some value.expressible := by
  cases value with
  | null => rfl
  | bool truth => cases truth <;> rfl
  | integer number =>
      have read := ofText?_toString number
      have places := hasPlaces_toString number
      change bare? (toString number).toList = some (.integer number)
      simp only [bare?, read, places, Bool.false_eq_true, if_false,
        Binary64.signed_natAbs]
  | float number =>
      cases finite : number.isFinite with
      | false =>
          rw [chars_float_of_not_finite finite, expressible, finite]
          rfl
      | true =>
          have places : hasPlaces (chars (.float number)) = true := by
            rcases chars_float_of_finite finite with ⟨sign, decimal, text⟩
            rw [text]
            exact hasPlaces_writeDecimal rfl _ decimal
          have read : (Decimal.ofText? (chars (.float number))).map Decimal.toBinary64 =
              some number := toBinary64_ofText?_write _ finite
          obtain ⟨decimal, read, same⟩ := Option.map_eq_some_iff.mp read
          simp only [bare?, read, places, if_true, same, expressible, finite]
  | string => cases bare
  | ragged => cases bare
  | array => cases bare
  | object => cases bare

theorem not_isMark_of_isNumeral {character : Char} (numeral : isNumeral character = true) :
    (! isMark character) = true := by
  have all : ∀ mark ∈ ['"', '[', ']', '{', '}', ','], (! isNumeral mark) = true :=
    List.all_eq_true.mp rfl
  cases mark : isMark character with
  | false => rfl
  | true =>
      have other := all character (of_decide_eq_true mark)
      rw [numeral] at other
      cases other

theorem not_isMark_of_mem_chars {value : Json} (bare : value.isBare = true) :
    ∀ character ∈ value.chars, (! isMark character) = true := by
  cases value with
  | null => exact List.all_eq_true.mp rfl
  | bool truth => cases truth <;> exact List.all_eq_true.mp rfl
  | integer number =>
      exact fun character member =>
        not_isMark_of_isNumeral (numeral_toString number character member)
  | float number =>
      cases finite : number.isFinite with
      | false =>
          rw [chars_float_of_not_finite finite]
          exact List.all_eq_true.mp rfl
      | true =>
          rcases chars_float_of_finite finite with ⟨sign, decimal, text⟩
          rw [text]
          exact fun character member => not_isMark_of_isNumeral
            ((numeral_signText sign).append (numeral_writeDecimal _ decimal) character member)
  | string => cases bare
  | ragged => cases bare
  | array => cases bare
  | object => cases bare

end Json

end ObservatoryWatch
