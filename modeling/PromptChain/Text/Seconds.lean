/-
# A duration as text

A duration in seconds is shown with at most six significant digits, rounded to the nearest and a
tie to the even digit, without trailing zeros.  From 0.0001 up to, but not including, a million
it is written positionally; outside with a power of ten of at least two digits (`1e-05`,
`2.5e+06`).

The digits come from the exact value of the floating-point number, a fraction of two natural
numbers, so no intermediate rounding can disturb them.
-/
namespace PromptChain.Text

/-! ## 1. The exact value -/

/-- The magnitude of a finite floating-point number as a fraction. -/
def magnitude (x : Float) : Nat × Nat :=
  let bits := x.toBits.toNat
  let fraction := bits % Nat.pow 2 52
  let exponent := bits / Nat.pow 2 52 % Nat.pow 2 11
  let mantissa := if exponent = 0 then fraction else fraction + Nat.pow 2 52
  let scale := max exponent 1
  if 1075 ≤ scale then (mantissa * Nat.pow 2 (scale - 1075), 1)
  else (mantissa, Nat.pow 2 (1075 - scale))

/-- The natural number nearest to a fraction, the even one of two. -/
def roundDiv (num den : Nat) : Nat :=
  let q := num / den
  let twice := 2 * (num % den)
  if twice < den then q else if den < twice then q + 1 else q + q % 2

/-- A rounded quotient is off by half a unit at most. -/
theorem two_mul_roundDiv_le (num : Nat) {den : Nat} (h : 0 < den) :
    2 * num ≤ 2 * (den * roundDiv num den) + den ∧
      2 * (den * roundDiv num den) ≤ 2 * num + den := by
  have hdiv := Nat.div_add_mod num den
  have hmod := Nat.mod_lt num h
  have hsucc : den * (num / den + 1) = den * (num / den) + den := Nat.mul_succ _ _
  simp only [roundDiv]
  split
  · omega
  · split
    · omega
    · rcases Nat.mod_two_eq_zero_or_one (num / den) with h2 | h2 <;> rw [h2]
      · rw [Nat.add_zero]
        omega
      · omega

/-! ## 2. Six digits -/

/-- How many tenfold steps bring a fraction below one up to at least one. -/
def stepsToOne : Nat → Nat → Nat → Nat
  | 0, _, _ => 0
  | fuel + 1, num, den => if den ≤ num then 0 else stepsToOne fuel (10 * num) den + 1

/-- The power of ten of a fraction's first digit. -/
def leadingPower (num den : Nat) : Int :=
  if den ≤ num then ((Nat.toDigits 10 (num / den)).length : Int) - 1
  else -(stepsToOne 400 num den : Int)

/-- The six digits of a fraction as a number, and the power of ten of the first of them. -/
def sixDigits (num den : Nat) : Nat × Int :=
  let power := leadingPower num den
  let digits := if power ≤ 5 then roundDiv (num * Nat.pow 10 (5 - power).toNat) den
    else roundDiv num (den * Nat.pow 10 (power - 5).toNat)
  if digits = 1000000 then (100000, power + 1) else (digits, power)

/-! ## 3. The text -/

/-- A list of digits without trailing zeros. -/
def dropZerosEnd (digits : List Char) : List Char :=
  (digits.reverse.dropWhile (· == '0')).reverse

/-- Digits before the point and the digits after it that are not trailing zeros. -/
def pointed (whole fraction : List Char) : List Char :=
  match dropZerosEnd fraction with
  | [] => whole
  | digits => whole ++ '.' :: digits

/-- A power of ten with its sign and at least two digits. -/
def powerText (power : Int) : List Char :=
  let digits := Nat.toDigits 10 power.natAbs
  (if power < 0 then '-' else '+') :: (if digits.length < 2 then '0' :: digits else digits)

/-- Six digits and the power of ten of the first, positional where that is short. -/
def digitsText (digits : List Char) (power : Int) : List Char :=
  if power < -4 ∨ 6 ≤ power then pointed (digits.take 1) (digits.drop 1) ++ 'e' :: powerText power
  else if 0 ≤ power then
    pointed (digits.take (power.toNat + 1)) (digits.drop (power.toNat + 1))
  else pointed ['0'] (List.replicate (-power - 1).toNat '0' ++ digits)

/-- A duration that is not negative, in seconds, as text. -/
def seconds (x : Float) : String :=
  if x.isNaN then "nan"
  else if x.isInf then "inf"
  else
    let (num, den) := magnitude x
    if num = 0 then "0"
    else
      let (digits, power) := sixDigits num den
      String.ofList (digitsText (Nat.toDigits 10 digits) power)

end PromptChain.Text
