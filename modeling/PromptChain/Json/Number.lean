/-
# Numbers in JSON text

A number is an optional minus, a whole part without superfluous zeros, and optionally a fraction
and an exponent.  A point or an `e` that is not followed by a digit does not belong to the number.

A number without both is an integer, whose digits have a limit; the digits of other numbers have
none. The value of a decimal is the floating-point number nearest to it; exponents far outside the
range of those numbers are cut off first, so that no huge power is computed.
-/
import PromptChain.Json.Fault

namespace PromptChain.Json

/-- The digits at the front of a list and what follows them. -/
def spanDigits (cs : List Char) : List Char × List Char :=
  (cs.takeWhile Char.isDigit, cs.dropWhile Char.isDigit)

/-- The value of a list of decimal digits. -/
def digitsValue (digits : List Char) : Nat :=
  digits.foldl (fun n c => 10 * n + (c.toNat - '0'.toNat)) 0

/-- The floating-point number nearest to `mantissa * 10 ^ exponent`. -/
def decimal (mantissa : Nat) (exponent : Int) : Float :=
  let size : Int := (Nat.toDigits 10 mantissa).length
  if mantissa = 0 ∨ exponent + size < -400 then 0.0
  else if 400 < exponent + size then 1.0 / 0.0
  else Float.ofScientific mantissa (decide (exponent < 0)) exponent.natAbs

/-- The whole part of a number: a zero alone, or digits that do not begin with one. -/
def wholePart? (cs : List Char) : Option (List Char × List Char) :=
  match cs with
  | '0' :: rest => some (['0'], rest)
  | _ => match spanDigits cs with
    | ([], _) => none
    | found => some found

/-- The digits after a point, none when there is no point or no digit after it. -/
def fractionPart (cs : List Char) : List Char × List Char :=
  match cs with
  | '.' :: rest => match spanDigits rest with
    | ([], _) => ([], cs)
    | found => found
  | _ => ([], cs)

/-- An exponent, `none` when there is no `e` or no digit after it. -/
def exponentPart (cs : List Char) : Option Int × List Char :=
  let read (sign : Int) (rest : List Char) : Option Int × List Char :=
    match spanDigits rest with
    | ([], _) => (none, cs)
    | (digits, rest) => (some (sign * digitsValue digits), rest)
  match cs with
  | e :: rest =>
    if e = 'e' ∨ e = 'E' then
      match rest with
      | '-' :: rest => read (-1) rest
      | '+' :: rest => read 1 rest
      | rest => read 1 rest
    else (none, cs)
  | [] => (none, cs)

/-- A number at the front of a list, after the minus of a negative one; `start` is what is left
where the number begins. -/
def unsigned (start : List Char) (negative : Bool) (cs : List Char) : Reading Json :=
  match wholePart? cs with
  | none => unexpected start
  | some (whole, rest) =>
    let (fraction, rest) := fractionPart rest
    let (exponent, rest) := exponentPart rest
    if fraction.isEmpty && exponent.isNone then
      let n : Int := digitsValue whole
      if digitLimit < whole.length then .error .longInteger
      else .ok (.int (if negative then -n else n), rest)
    else
      let x := decimal (digitsValue (whole ++ fraction)) (exponent.getD 0 - fraction.length)
      .ok (.float (if negative then -x else x), rest)

/-- A number at the front of a list, and what follows it. -/
def number (cs : List Char) : Reading Json :=
  match cs with
  | '-' :: rest => unsigned cs true rest
  | _ => unsigned cs false cs

end PromptChain.Json
