import Mathlib.Data.List.Basic
import Mathlib.Data.List.TakeDrop
import Mathlib.Data.Nat.Basic
import Mathlib.Tactic.Ring
import ObservatoryWatch.Number.Style
import ObservatoryWatch.Proofs.Rounding

/-!
Numerals read back as they were written.

A numeral stands for the same number when zeros are moved between its coefficient and its power of
ten, and writing does nothing else to it. So the text of a number, in whatever style, is read as a
numeral that stands for the same number as the one that was written.
-/

namespace ObservatoryWatch.Number

/-! ## Digits -/

theorem foldl_digits (digits : List Char) (start : Nat) :
    digits.foldl (fun value digit => 10 * value + (digitValue? digit).getD 0) start =
      start * 10 ^ digits.length + digitsValue digits := by
  induction digits generalizing start with
  | nil => simp [digitsValue]
  | cons digit rest induction =>
      unfold digitsValue
      rw [List.foldl_cons, List.foldl_cons, induction, induction (10 * 0 + _), List.length_cons,
        Nat.pow_succ]
      ring

theorem digitsValue_append (early late : List Char) :
    digitsValue (early ++ late) = digitsValue early * 10 ^ late.length + digitsValue late := by
  rw [digitsValue, List.foldl_append, foldl_digits]
  rfl

theorem digitsValue_zeros (count : Nat) : digitsValue (List.replicate count '0') = 0 := by
  induction count with
  | zero => rfl
  | succ count induction =>
      rw [List.replicate_succ, ← List.singleton_append, digitsValue_append, induction]
      simp [digitsValue, digitValue?]

theorem isDigit_of_mem_digitsOf {number : Nat} {digit : Char} (member : digit ∈ digitsOf number) :
    digit.isDigit = true :=
  Nat.isDigit_of_mem_toDigits (by decide) (by decide) member

theorem digitsOf_ne_nil (number : Nat) : digitsOf number ≠ [] := Nat.toDigits_ne_nil

theorem digitsValue_eq_ofDigitChars {digits : List Char}
    (all : ∀ digit ∈ digits, digit.isDigit = true) :
    digitsValue digits = Nat.ofDigitChars 10 digits 0 := by
  refine List.foldl_ext _ _ 0 fun value digit member => ?_
  rw [digitValue?, if_pos (all digit member), Option.getD_some]

theorem digitsValue_digitsOf (number : Nat) : digitsValue (digitsOf number) = number := by
  rw [digitsValue_eq_ofDigitChars fun _ => isDigit_of_mem_digitsOf]
  exact Nat.ofDigitChars_ten_toDigits

theorem digitCount_mul_pow {number : Nat} (positive : 0 < number) (places : Nat) :
    digitCount (number * 10 ^ places) = digitCount number + places := by
  induction places with
  | zero => rw [Nat.pow_zero, Nat.mul_one, Nat.add_zero]
  | succ places induction =>
      have digits := Nat.toDigits_append_toDigits (b := 10) (n := number * 10 ^ places) (d := 0)
        (by decide) (Nat.mul_pos positive (Nat.pow_pos (by decide))) (by decide)
      have product : number * 10 ^ (places + 1) = 10 * (number * 10 ^ places) + 0 := by ring
      rw [product, digitCount, digitsOf, ← digits, List.length_append]
      change digitCount (number * 10 ^ places) + 1 = _
      rw [induction, Nat.add_assoc]

theorem lt_digitCount {number count : Nat} (large : 10 ^ count ≤ number) :
    count < digitCount number := by
  refine lt_of_not_ge fun few => Nat.not_lt.mpr large ?_
  have spelled : number < 10 ^ digitCount number :=
    (Nat.length_toDigits_le_iff (by decide) Nat.length_toDigits_pos).mp (Nat.le_refl _)
  exact spelled.trans_le (Nat.pow_le_pow_right (by decide) few)

theorem digitCount_le {number count : Nat} (some : 0 < count) (small : number < 10 ^ count) :
    digitCount number ≤ count := (Nat.length_toDigits_le_iff (by decide) some).mpr small

/-! ## Rounding a quotient -/

theorem divideToEven_mul_mul {factor : Nat} (positive : 0 < factor) (numerator denominator : Nat) :
    divideToEven (numerator * factor) (denominator * factor) =
      divideToEven numerator denominator := by
  unfold divideToEven
  dsimp only
  rw [Nat.mul_div_mul_right _ _ positive, Nat.mul_mod_mul_right, ← Nat.mul_assoc]
  simp only [Nat.mul_lt_mul_right positive]

theorem roundUnits_mul_mul {factor : Nat} (positive : 0 < factor) (numerator denominator : Nat) :
    roundUnits (numerator * factor) (denominator * factor) = roundUnits numerator denominator := by
  have spaced : spacing (numerator * factor) (denominator * factor) =
      spacing numerator denominator := by
    unfold spacing
    rw [Nat.mul_div_mul_right _ _ positive]
  unfold roundUnits
  rw [spaced, Nat.mul_right_comm denominator, divideToEven_mul_mul positive]

end ObservatoryWatch.Number

namespace ObservatoryWatch

open Number

theorem Binary64.ofRatio_mul_mul {factor : Nat} (positive : 0 < factor) (negative : Bool)
    (numerator denominator : Nat) :
    ofRatio negative (numerator * factor) (denominator * factor) =
      ofRatio negative numerator denominator := by
  unfold ofRatio
  simp only [roundUnits_mul_mul positive]

/-- The same magnitude with this sign. -/
def Binary64.withSign (negative : Bool) : Binary64 → Binary64
  | .nan => .nan
  | .infinite _ => .infinite negative
  | .finite _ units representable => .finite negative units representable

theorem Binary64.withSign_ofRatio (negative sign : Bool) (numerator denominator : Nat) :
    (ofRatio sign numerator denominator).withSign negative =
      ofRatio negative numerator denominator := by
  unfold ofRatio
  split <;> rfl

theorem Binary64.signed_natAbs (number : Int) :
    signed (decide (number < 0)) number.natAbs = number := by
  unfold signed
  split
  next below =>
    have negative := of_decide_eq_true below
    omega
  next above =>
    have positive := of_decide_eq_false (Bool.eq_false_iff.mpr above)
    omega

namespace Number.Decimal

/-! ## Moving zeros -/

/-- The same numeral with so many more zeros in its coefficient. -/
def lengthened (decimal : Decimal) (zeros : Nat) : Decimal :=
  { decimal with
    coefficient := decimal.coefficient * 10 ^ zeros
    exponent := decimal.exponent - zeros }

/-- The quotient that a numeral stands for, measured in units. -/
theorem toBinary64_of_range {decimal : Decimal} (nonzero : decimal.coefficient ≠ 0)
    (most : ¬ 310 < (digitCount decimal.coefficient : Int) + decimal.exponent)
    (least : ¬ (digitCount decimal.coefficient : Int) + decimal.exponent < -330) :
    decimal.toBinary64 = .ofRatio decimal.negative
      (decimal.coefficient * 10 ^ decimal.exponent.toNat * Binary64.unitsPerOne)
      (10 ^ (-decimal.exponent).toNat) := by
  unfold toBinary64
  dsimp only
  rw [if_neg nonzero, if_neg most, if_neg least]
  split
  next upward =>
    have none : (-decimal.exponent).toNat = 0 := by omega
    rw [none]
    rfl
  next downward =>
    have none : decimal.exponent.toNat = 0 := by omega
    rw [none, Nat.pow_zero, Nat.mul_one]
    rfl

theorem toBinary64_lengthened (decimal : Decimal) (zeros : Nat) :
    (decimal.lengthened zeros).toBinary64 = decimal.toBinary64 := by
  by_cases zero : decimal.coefficient = 0
  · unfold toBinary64 lengthened
    simp [zero]
  have positive : 0 < 10 ^ zeros := Nat.pow_pos (by decide)
  have longer : (decimal.lengthened zeros).coefficient ≠ 0 :=
    Nat.mul_ne_zero zero positive.ne'
  have leading : (digitCount (decimal.lengthened zeros).coefficient : Int) +
      (decimal.lengthened zeros).exponent = digitCount decimal.coefficient + decimal.exponent := by
    have count := digitCount_mul_pow (Nat.pos_of_ne_zero zero) zeros
    simp only [lengthened, count]
    omega
  by_cases most : 310 < (digitCount decimal.coefficient : Int) + decimal.exponent
  · unfold toBinary64
    dsimp only
    rw [if_neg longer, if_neg zero, leading, if_pos most, if_pos most]
    rfl
  by_cases least : (digitCount decimal.coefficient : Int) + decimal.exponent < -330
  · unfold toBinary64
    dsimp only
    rw [if_neg longer, if_neg zero, leading, if_neg most, if_neg most, if_pos least, if_pos least]
    rfl
  rw [toBinary64_of_range zero most least,
    toBinary64_of_range longer (leading ▸ most) (leading ▸ least)]
  -- The power of ten that was in one part of the quotient is now in both.
  obtain ⟨extra, above, below⟩ : ∃ extra : Nat,
      zeros + (decimal.exponent - zeros).toNat = decimal.exponent.toNat + extra ∧
        (-(decimal.exponent - zeros)).toNat = (-decimal.exponent).toNat + extra :=
    ⟨zeros + (decimal.exponent - zeros).toNat - decimal.exponent.toNat, by omega, by omega⟩
  have numerator : decimal.coefficient * 10 ^ zeros * 10 ^ (decimal.exponent - zeros).toNat *
      Binary64.unitsPerOne =
        decimal.coefficient * 10 ^ decimal.exponent.toNat * Binary64.unitsPerOne * 10 ^ extra := by
    rw [Nat.mul_assoc decimal.coefficient, ← Nat.pow_add, above, Nat.pow_add]
    ring
  have denominator : 10 ^ (-(decimal.exponent - zeros)).toNat =
      10 ^ (-decimal.exponent).toNat * 10 ^ extra := by
    rw [below, Nat.pow_add]
  simp only [lengthened]
  rw [numerator, denominator, Binary64.ofRatio_mul_mul (Nat.pow_pos (by decide))]

/-- The same numeral with this sign. -/
def withSign (decimal : Decimal) (negative : Bool) : Decimal := { decimal with negative }

theorem toBinary64_withSign (decimal : Decimal) (negative : Bool) :
    (decimal.withSign negative).toBinary64 = decimal.toBinary64.withSign negative := by
  unfold toBinary64 withSign
  simp only [apply_ite (Binary64.withSign negative), Binary64.withSign_ofRatio]
  rfl

/-- The digits of a number without its last zeros, and these zeros. -/
theorem digitsOf_eq_append_zeros (number : Nat) :
    ∃ zeros, digitsOf number =
      ((digitsOf number).reverse.dropWhile (· == '0')).reverse ++ List.replicate zeros '0' := by
  have zeros : ((digitsOf number).reverse.takeWhile (· == '0')) =
      List.replicate ((digitsOf number).reverse.takeWhile (· == '0')).length '0' :=
    List.eq_replicate_of_mem fun digit member => by
      simpa using List.all_eq_true.mp List.all_takeWhile _ member
  have parts := congrArg List.reverse
    (List.takeWhile_append_dropWhile (p := (· == '0')) (l := (digitsOf number).reverse))
  rw [List.reverse_reverse, List.reverse_append, zeros, List.reverse_replicate] at parts
  exact ⟨_, parts.symm⟩

theorem trim_cases (decimal : Decimal) :
    decimal.coefficient = 0 ∧ decimal.trim = { decimal with coefficient := 0, exponent := 0 } ∨
      ∃ zeros, decimal = decimal.trim.lengthened zeros := by
  rcases digitsOf_eq_append_zeros decimal.coefficient with ⟨zeros, parts⟩
  have value := digitsValue_digitsOf decimal.coefficient
  unfold trim
  dsimp only
  generalize ((digitsOf decimal.coefficient).reverse.dropWhile (· == '0')).reverse = kept at parts ⊢
  rw [parts, digitsValue_append, digitsValue_zeros, List.length_replicate, Nat.add_zero] at value
  split
  next none =>
    rw [List.isEmpty_iff.mp none] at value
    exact .inl ⟨by rw [← value]; simp [digitsValue], rfl⟩
  next some =>
    have count : (digitsOf decimal.coefficient).length - kept.length = zeros := by
      rw [parts, List.length_append, List.length_replicate, Nat.add_sub_cancel_left]
    refine .inr ⟨zeros, ?_⟩
    simp only [lengthened, count, value, Int.add_sub_cancel]

theorem toBinary64_trim (decimal : Decimal) : decimal.trim.toBinary64 = decimal.toBinary64 := by
  rcases decimal.trim_cases with ⟨zero, trimmed⟩ | ⟨zeros, longer⟩
  · rw [trimmed]
    unfold toBinary64
    simp [zero]
  · calc
      decimal.trim.toBinary64 = (decimal.trim.lengthened zeros).toBinary64 :=
        (toBinary64_lengthened decimal.trim zeros).symm
      _ = decimal.toBinary64 := by rw [← longer]

/-! ## Reading a numeral -/

/-- What stands after the point, with the point before it; nothing if there is nothing. -/
def pointed (fraction : List Char) : List Char :=
  if fraction.isEmpty then [] else '.' :: fraction

theorem toList_joinPoint (whole fraction : List Char) :
    (joinPoint whole fraction).toList = whole ++ pointed fraction := by
  unfold joinPoint pointed
  split
  next => rw [String.toList_ofList, List.append_nil]
  next => rw [String.toList_ofList]

theorem span_digits {digits rest : List Char} (all : ∀ digit ∈ digits, digit.isDigit = true)
    (stop : rest.takeWhile Char.isDigit = []) :
    (digits ++ rest).span Char.isDigit = (digits, rest) := by
  have remaining := List.takeWhile_append_dropWhile (p := Char.isDigit) (l := rest)
  rw [stop, List.nil_append] at remaining
  rw [List.span_eq_takeWhile_dropWhile, List.takeWhile_append_of_pos all,
    List.dropWhile_append_of_pos all, stop, List.append_nil, remaining]

theorem takeSign_signText (negative : Bool) {body : List Char}
    (unsigned : ∀ sign ∈ body.head?, sign.isDigit = true) :
    takeSign ((signText negative).toList ++ body) = (negative, body) := by
  cases negative with
  | true => rfl
  | false =>
      change takeSign body = (false, body)
      cases body with
      | nil => rfl
      | cons first rest =>
          have digit := unsigned first rfl
          unfold takeSign
          split
          next same => cases same; cases digit
          next same => cases same; cases digit
          next => rfl

/-- What may follow the digits of a numeral: nothing, or a power of ten. -/
inductive AfterMantissa : List Char → Prop where
  | nothing : AfterMantissa []
  | power (rest : List Char) : AfterMantissa ('e' :: rest)

theorem AfterMantissa.takeWhile {rest : List Char} (after : AfterMantissa rest) :
    rest.takeWhile Char.isDigit = [] := by
  cases after <;> rfl

theorem ofText?_numeral (negative : Bool) {whole fraction rest : List Char} (some : whole ≠ [])
    (wholeDigits : ∀ digit ∈ whole, digit.isDigit = true)
    (fractionDigits : ∀ digit ∈ fraction, digit.isDigit = true) (after : AfterMantissa rest) :
    ofText? ((signText negative).toList ++ (whole ++ (pointed fraction ++ rest))) =
      (exponent? rest).map fun power =>
        ⟨negative, digitsValue (whole ++ fraction), power - fraction.length⟩ := by
  have unsigned : ∀ sign ∈ (whole ++ (pointed fraction ++ rest)).head?, sign.isDigit = true := by
    cases whole with
    | nil => exact absurd rfl some
    | cons first others =>
        rintro _ ⟨⟩
        exact wholeDigits first (List.mem_cons_self ..)
  have notEmpty : whole.isEmpty = false := by simpa using some
  unfold ofText?
  rw [takeSign_signText negative unsigned]
  dsimp only
  cases fraction with
  | nil =>
      have stop := after.takeWhile
      rw [pointed, List.isEmpty_nil, if_pos rfl, List.nil_append, span_digits wholeDigits stop]
      cases after with
      | nothing => simp [notEmpty]
      | power rest => simp [notEmpty]
  | cons first others =>
      have stop : ('.' :: first :: others ++ rest).takeWhile Char.isDigit = [] := rfl
      rw [pointed, List.isEmpty_cons, if_neg Bool.false_ne_true, span_digits wholeDigits stop]
      have spanned := span_digits fractionDigits after.takeWhile
      rw [List.cons_append] at spanned
      simp [notEmpty, spanned, -List.span_eq_takeWhile_dropWhile]

/-! ## Laying out digits -/

theorem isDigit_of_mem_zeros {count : Nat} {digit : Char}
    (member : digit ∈ List.replicate count '0') : digit.isDigit = true := by
  rw [List.eq_of_mem_replicate member]
  rfl

theorem toList_padded (width number : Nat) :
    (padded width number).toList =
      List.replicate (width - digitCount number) '0' ++ digitsOf number := by
  rw [padded, String.toList_ofList]

theorem isDigit_of_mem_padded {width number : Nat} {digit : Char}
    (member : digit ∈ (padded width number).toList) : digit.isDigit = true := by
  rw [toList_padded, List.mem_append] at member
  exact member.elim isDigit_of_mem_zeros isDigit_of_mem_digitsOf

theorem digitsValue_padded (width number : Nat) :
    digitsValue (padded width number).toList = number := by
  rw [toList_padded, digitsValue_append, digitsValue_zeros, digitsValue_digitsOf, Nat.zero_mul,
    Nat.zero_add]

theorem le_length_padded (width number : Nat) : width ≤ (padded width number).toList.length := by
  rw [toList_padded, List.length_append, List.length_replicate, digitCount]
  omega

theorem padded_ne_nil (width number : Nat) : (padded width number).toList ≠ [] := by
  rw [toList_padded]
  exact List.append_ne_nil_of_right_ne_nil _ (digitsOf_ne_nil number)

theorem toList_exponentText (width : Nat) (exponent : Int) :
    (exponentText width exponent).toList =
      'e' :: (if exponent < 0 then '-' else '+') :: (padded width exponent.natAbs).toList := by
  unfold exponentText
  rw [String.toList_append]
  split <;> rfl

theorem exponent?_exponentText (width : Nat) (exponent : Int) :
    exponent? (exponentText width exponent).toList = some exponent := by
  have digits : ∀ digit ∈ (padded width exponent.natAbs).toList, digit.isDigit = true :=
    fun _ => isDigit_of_mem_padded
  have value := digitsValue_padded width exponent.natAbs
  have filled := List.isEmpty_eq_false_iff.mpr (padded_ne_nil width exponent.natAbs)
  rw [toList_exponentText]
  generalize (padded width exponent.natAbs).toList = text at digits value filled ⊢
  have valid : ¬ (text.isEmpty || !text.all Char.isDigit) = true := by
    rw [filled, List.all_eq_true.mpr digits]
    decide
  have sign : takeSign ((if exponent < 0 then '-' else '+') :: text) =
      (decide (exponent < 0), text) := by
    by_cases below : exponent < 0 <;> simp [below, takeSign]
  have mark : ('e' == 'e' || 'e' == 'E') = true := rfl
  unfold exponent?
  dsimp only
  rw [if_pos mark, sign]
  dsimp only
  rw [if_neg valid, value, Binary64.signed_natAbs]

/-- Digits with a point among them are read as the number that they spell and the power of ten that
the place of the point makes. -/
theorem positional_spec {digits : List Char} (all : ∀ digit ∈ digits, digit.isDigit = true)
    (some : digits ≠ []) (exponent : Int) :
    (positional digits exponent).1 ≠ [] ∧
      (∀ digit ∈ (positional digits exponent).1, digit.isDigit = true) ∧
      (∀ digit ∈ (positional digits exponent).2, digit.isDigit = true) ∧
      digitsValue ((positional digits exponent).1 ++ (positional digits exponent).2) =
        digitsValue digits * 10 ^ exponent.toNat ∧
      (positional digits exponent).2.length = (-exponent).toNat := by
  unfold positional
  split
  next upward =>
    have none : (-exponent).toNat = 0 := by omega
    refine ⟨by simp [some], fun digit member => ?_, nofun, ?_, by rw [none]; rfl⟩
    · rcases List.mem_append.mp member with member | member
      · exact all digit member
      · exact isDigit_of_mem_zeros member
    · rw [List.append_nil, digitsValue_append, digitsValue_zeros, List.length_replicate,
        Nat.add_zero]
  next downward =>
    have none : exponent.toNat = 0 := by omega
    dsimp only
    generalize filled : List.replicate ((-exponent).toNat + 1 - digits.length) '0' ++ digits = body
    have long : (-exponent).toNat < body.length := by
      rw [← filled, List.length_append, List.length_replicate]
      omega
    have bodyDigits : ∀ digit ∈ body, digit.isDigit = true := by
      intro digit member
      rw [← filled] at member
      rcases List.mem_append.mp member with member | member
      · exact isDigit_of_mem_zeros member
      · exact all digit member
    refine ⟨?_, fun digit member => bodyDigits digit (List.mem_of_mem_take member),
      fun digit member => bodyDigits digit (List.mem_of_mem_drop member), ?_, ?_⟩
    · rw [Ne, List.take_eq_nil_iff]
      rintro (short | rfl)
      · omega
      · simp at long
    · rw [List.take_append_drop, ← filled, digitsValue_append, digitsValue_zeros, none,
        Nat.zero_mul, Nat.zero_add, Nat.pow_zero, Nat.mul_one]
    · rw [List.length_drop]
      omega

/-- Writing a numeral in any style and reading it again only moves zeros. -/
theorem ofText?_writeDecimal (style : Style) (decimal : Decimal) (negative : Bool) :
    ∃ zeros, ofText? ((signText negative).toList ++ (style.writeDecimal decimal).toList) =
      some ((decimal.trim.withSign negative).lengthened zeros) := by
  have digits : ∀ digit ∈ digitsOf decimal.trim.coefficient, digit.isDigit = true :=
    fun _ => isDigit_of_mem_digitsOf
  have some := digitsOf_ne_nil decimal.trim.coefficient
  have value := digitsValue_digitsOf decimal.trim.coefficient
  unfold Style.writeDecimal
  dsimp only
  split
  next positionally =>
    rcases positional_spec digits some decimal.trim.exponent with
      ⟨wholeSome, whole, fraction, spelled, places⟩
    rw [value] at spelled
    generalize positional (digitsOf decimal.trim.coefficient) decimal.trim.exponent = parts at *
    rw [toList_joinPoint, ← List.append_nil (pointed _)]
    by_cases added : (parts.2.isEmpty && style.keepsPoint) = true
    · have none : parts.2 = [] := List.isEmpty_iff.mp (Bool.and_eq_true_iff.mp added).1
      rw [none, List.append_nil] at spelled
      rw [none, List.length_nil] at places
      have zero : ∀ digit ∈ ['0'], digit.isDigit = true := List.all_eq_true.mp rfl
      rw [if_pos added, ofText?_numeral negative wholeSome whole zero .nothing, digitsValue_append,
        spelled]
      refine ⟨decimal.trim.exponent.toNat + 1, ?_⟩
      have last : digitsValue ['0'] = 0 := rfl
      simp only [exponent?, Option.map_some, lengthened, withSign, last, List.length_singleton]
      congr 2
      · rw [Nat.pow_succ, Nat.mul_assoc]
        rfl
      · omega
    · rw [if_neg added, ofText?_numeral negative wholeSome whole fraction .nothing, spelled]
      refine ⟨decimal.trim.exponent.toNat, ?_⟩
      simp only [exponent?, Option.map_some, lengthened, withSign, places]
      congr 2
      omega
  next exponentially =>
    have wholeSome : (digitsOf decimal.trim.coefficient).take 1 ≠ [] := by simpa using some
    have after : ∀ exponent, AfterMantissa (exponentText style.exponentWidth exponent).toList := by
      intro exponent
      rw [toList_exponentText]
      exact .power _
    have length := List.length_pos_iff.mpr some
    rw [String.toList_append, toList_joinPoint, List.append_assoc,
      ofText?_numeral negative wholeSome (fun digit member => digits digit
        (List.mem_of_mem_take member)) (fun digit member => digits digit
        (List.mem_of_mem_drop member)) (after _), exponent?_exponentText, List.take_append_drop,
      value, List.length_drop]
    refine ⟨0, ?_⟩
    simp only [Option.map_some, lengthened, withSign, Nat.pow_zero, Nat.mul_one]
    congr 2
    omega

theorem toBinary64_ofText?_writeDecimal (style : Style) (decimal : Decimal) (negative : Bool) :
    (ofText? ((signText negative).toList ++ (style.writeDecimal decimal).toList)).map toBinary64 =
      some (decimal.toBinary64.withSign negative) := by
  rcases ofText?_writeDecimal style decimal negative with ⟨zeros, read⟩
  rw [read, Option.map_some, toBinary64_lengthened, toBinary64_withSign, toBinary64_trim]

end Number.Decimal

/-! ## The fewest digits -/

namespace Number

theorem toBinary64_withDigits? {units digits : Nat} {decimal : Decimal}
    (found : withDigits? units digits = some decimal) (representable : Representable units) :
    decimal.toBinary64 = .finite false units representable := by
  rcases List.exists_of_findSome?_eq_some found with ⟨coefficient, _, tried⟩
  dsimp only at tried
  have positive : ∀ exponent, (Decimal.mk false coefficient exponent).toBinary64 =
      (Decimal.mk false coefficient exponent).toBinary64.withSign false :=
    fun exponent => Decimal.toBinary64_withSign ⟨false, coefficient, exponent⟩ false
  split at tried
  next read =>
    split at tried
    next same =>
      cases tried
      cases same
      rw [positive, read]
      rfl
    next => cases tried
  next => cases tried

theorem ofRatio_representable (negative : Bool) {units : Nat}
    (representable : Representable units) :
    Binary64.ofRatio negative units 1 = .finite negative units representable := by
  unfold Binary64.ofRatio
  simp only [roundUnits_of_representable representable, representable.1, dif_pos]

/-- A whole count of units is a decimal fraction, because one is a power of ten of the units when
it is multiplied by so many fives. -/
theorem toBinary64_of_tens {units factor places : Nat}
    (tens : factor * Binary64.unitsPerOne = 10 ^ places) (positive : 0 < units * factor)
    (representable : Representable units)
    (above : ¬ 310 < (digitCount (units * factor) : Int) + -(places : Int))
    (below : ¬ (digitCount (units * factor) : Int) + -(places : Int) < -330) :
    (Decimal.mk false (units * factor) (-(places : Int))).toBinary64 =
      .finite false units representable := by
  have downward : (-(places : Int)).toNat = 0 := by omega
  have upward : (-(-(places : Int))).toNat = places := by omega
  have nonzero : (Decimal.mk false (units * factor) (-(places : Int))).coefficient ≠ 0 :=
    positive.ne'
  rw [Decimal.toBinary64_of_range nonzero above below]
  dsimp only
  rw [downward, upward, Nat.pow_zero, Nat.mul_one, Nat.mul_assoc, tens]
  have shared := Binary64.ofRatio_mul_mul (Nat.pow_pos (n := places) (by decide : 0 < 10)) false
    units 1
  rw [Nat.one_mul] at shared
  rw [shared, ofRatio_representable]

theorem toBinary64_exactly {units : Nat} (positive : 0 < units)
    (representable : Representable units) :
    (exactly units).toBinary64 = .finite false units representable := by
  obtain ⟨factor, fives, tens, least, most⟩ : ∃ factor, Nat.pow 5 1074 = factor ∧
      factor * Binary64.unitsPerOne = 10 ^ 1074 ∧ 10 ^ 743 ≤ factor ∧
        unitLimit * factor ≤ 10 ^ 1384 :=
    ⟨Nat.pow 5 1074, by decide +kernel, by decide +kernel, by decide +kernel, by decide +kernel⟩
  have some : 0 < factor := (Nat.pow_pos (by decide)).trans_le least
  have large : factor ≤ units * factor := Nat.le_mul_of_pos_left _ positive
  have above : 743 < digitCount (units * factor) := lt_digitCount (least.trans large)
  have below : digitCount (units * factor) ≤ 1384 :=
    digitCount_le (by decide) ((Nat.mul_lt_mul_of_pos_right representable.1 some).trans_le most)
  unfold exactly
  rw [fives]
  exact toBinary64_of_tens tens (some.trans_le large) representable (by omega) (by omega)

/-- The fewest digits that are found, or all of them, are read back as the same number. -/
theorem toBinary64_shortest {units : Nat} (representable : Representable units) :
    (shortest units).toBinary64 = .finite false units representable := by
  unfold shortest
  split
  next zero =>
    subst zero
    rfl
  next nonzero =>
    cases found : (List.range 17).findSome? fun count => withDigits? units (count + 1) with
    | none => exact toBinary64_exactly (Nat.pos_of_ne_zero nonzero) representable
    | some decimal =>
        rcases List.exists_of_findSome?_eq_some found with ⟨count, _, found⟩
        exact toBinary64_withDigits? found representable

/-- A finite number is read back from its text, whatever style this is written in. -/
theorem toBinary64_ofText?_write (style : Style) {number : Binary64}
    (finite : number.isFinite = true) :
    (Decimal.ofText? (style.write number).toList).map Decimal.toBinary64 = some number := by
  rcases number with _ | _ | ⟨negative, units, representable⟩ <;> cases finite
  unfold Style.write Style.writeWith
  rw [String.toList_append, Decimal.toBinary64_ofText?_writeDecimal,
    toBinary64_shortest representable]
  rfl

end Number

end ObservatoryWatch
