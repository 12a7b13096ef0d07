/-!
Signed words: whole numbers that fit a fixed number of bits.

The numbers go from minus a power of two up to one less than that power. Some counts
have to fit, and some are clamped to the nearest number that does.
-/

namespace ObservatoryWatch.Number

/-- How many negative numbers a word of so many bits holds. -/
def halfWord (bits : Nat) : Nat := Nat.pow 2 (bits - 1)

def leastWord (bits : Nat) : Int := -(halfWord bits : Int)

def greatestWord (bits : Nat) : Int := (halfWord bits : Int) - 1

/-- The number fits a word of so many bits. -/
def isWord (bits : Nat) (value : Int) : Bool :=
  leastWord bits ≤ value && value ≤ greatestWord bits

/-- The number of a word nearest to a number. -/
def clampToWord (bits : Nat) (value : Int) : Int :=
  max (leastWord bits) (min (greatestWord bits) value)

theorem isWord_clampToWord (bits : Nat) (value : Int) :
    isWord bits (clampToWord bits value) = true := by
  have some : 0 < halfWord bits := Nat.two_pow_pos (bits - 1)
  unfold isWord clampToWord leastWord greatestWord
  rw [Bool.and_eq_true, decide_eq_true_eq, decide_eq_true_eq]
  omega

example : leastWord 8 = -128 ∧ greatestWord 8 = 127 := by decide
example : clampToWord 8 300 = 127 ∧ isWord 8 (-128) = true := by decide

end ObservatoryWatch.Number
