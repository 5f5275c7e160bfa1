
namespace Whittle

-- A double: a sign with either `mantissa * 2 ^ exponent` or infinity, or not a number.
inductive Binary64 where
  | finite (negative : Bool) (mantissa : Nat) (exponent : Int)
  | infinite (negative : Bool)
  | nan
  deriving Repr, DecidableEq, Inhabited

-- `digits` read as a number, times `10 ^ (point - number of digits)`: the point stands after `point` digits.
structure Decimal where
  digits : Nat
  point : Int
  deriving Repr, DecidableEq

namespace Binary64

def roundDiv (num den : Nat) : Nat :=
  let q := num / den
  let r := num % den
  if 2 * r < den then q
  else if den < 2 * r then q + 1
  else if q % 2 == 0 then q else q + 1

def scaled (num den : Nat) (e : Int) : Nat :=
  if e < 0 then roundDiv (num * Nat.pow 2 (-e).toNat) den else roundDiv num (den * Nat.pow 2 e.toNat)

def ofRatio (negative : Bool) (num den : Nat) : Binary64 :=
  if num == 0 then .finite negative 0 0
  else
    let guess : Int := max ((num.log2 : Int) - den.log2 - 53) (-1074)
    let first := scaled num den guess
    let (m, e) := if first < Nat.pow 2 53 then (first, guess) else (scaled num den (guess + 1), guess + 1)
    let (m, e) := if m < Nat.pow 2 53 then (m, e) else (m / 2, e + 1)
    if 971 < e then .infinite negative else .finite negative m e

def ofDecimal (negative : Bool) (digits : Nat) (exponent : Int) : Binary64 :=
  let size : Int := (Nat.toDigits 10 digits).length
  if digits == 0 || size + exponent < -330 then .finite negative 0 0
  else if 330 < size + exponent then .infinite negative
  else if exponent < 0 then ofRatio negative digits (Nat.pow 10 (-exponent).toNat)
  else ofRatio negative (digits * Nat.pow 10 exponent.toNat) 1

def ofInt (n : Int) : Binary64 := ofRatio (n < 0) n.natAbs 1

-- How many places a positive fraction `num / den` below one has to move left to reach one tenth.
def leadingZeros (num den : Nat) : Nat → Nat
  | 0 => 0
  | fuel + 1 => if num * 10 < den then leadingZeros (num * 10) den fuel + 1 else 0

-- The `point` with `10 ^ (point - 1) ≤ num / den < 10 ^ point`.
def pointOf (num den : Nat) : Int :=
  if den ≤ num then (Nat.toDigits 10 (num / den)).length
  else -(leadingZeros num den 400 : Int)

-- The neighbours with `n` digits of `value / den`, kept when they lie between the bounds; the nearer wins.
def candidate (value low high den : Nat) (inclusive : Bool) (point : Int) (n : Nat) : Option Nat :=
  let shift : Int := point - n
  let up := Nat.pow 10 shift.toNat
  let down := Nat.pow 10 (-shift).toNat
  let floor := value * down / (den * up)
  let inside (x : Nat) : Bool :=
    let y := x * up * den
    if inclusive then low * down ≤ y && y ≤ high * down else low * down < y && y < high * down
  let belowGap := value * down - floor * up * den
  let aboveGap := (floor + 1) * up * den - value * down
  match inside floor, inside (floor + 1) with
  | true, true =>
    if belowGap < aboveGap then some floor
    else if aboveGap < belowGap then some (floor + 1)
    else if floor % 2 == 0 then some floor else some (floor + 1)
  | true, false => some floor
  | false, true => some (floor + 1)
  | false, false => none

def firstCandidate (value low high den : Nat) (inclusive : Bool) (point : Int) (n : Nat) : Nat → Decimal
  | 0 => ⟨value / den, point⟩
  | fuel + 1 =>
    match candidate value low high den inclusive point n with
    | some x => if x == Nat.pow 10 n then ⟨1, point + 1⟩ else ⟨x, point⟩
    | none => firstCandidate value low high den inclusive point (n + 1) fuel

-- The decimal with the fewest digits among those that round to `mantissa * 2 ^ exponent`.
def shortest (mantissa : Nat) (exponent : Int) : Decimal :=
  let up := Nat.pow 2 exponent.toNat
  let den := 4 * Nat.pow 2 (-exponent).toNat
  let value := 4 * mantissa * up
  -- below a power of two the next double is only half as far away
  let gap := if mantissa == Nat.pow 2 52 && -1074 < exponent then up else 2 * up
  firstCandidate value (value - gap) (value + 2 * up) den (mantissa % 2 == 0) (pointOf value den) 1 20

def signText (negative : Bool) : String := if negative then "-" else ""

-- Places a decimal's point: positional from `1e-4` up to below `1e16`, else with an exponent of two digits or more.
def layout (d : Decimal) (keepFraction : Bool) : String :=
  let digits := Nat.toDigits 10 d.digits
  let n : Int := digits.length
  if d.point < -3 || 16 < d.point then
    let e := d.point - 1
    let mantissa := match digits with
      | [] => []
      | [c] => [c]
      | c :: rest => c :: '.' :: rest
    let places := Nat.toDigits 10 e.natAbs
    let padded := if places.length < 2 then '0' :: places else places
    String.ofList (mantissa ++ 'e' :: (if e < 0 then '-' else '+') :: padded)
  else if d.point ≤ 0 then
    String.ofList ('0' :: '.' :: List.replicate (-d.point).toNat '0' ++ digits)
  else if n ≤ d.point then
    String.ofList (digits ++ List.replicate (d.point - n).toNat '0' ++ (if keepFraction then ['.', '0'] else []))
  else
    String.ofList (digits.take d.point.toNat ++ '.' :: digits.drop d.point.toNat)

def text (x : Binary64) (keepFraction : Bool) : String :=
  match x with
  | .nan => "nan"
  | .infinite negative => signText negative ++ "inf"
  | .finite negative m e =>
    signText negative ++
      (if m == 0 then (if keepFraction then "0.0" else "0") else layout (shortest m e) keepFraction)

def toInt? : Binary64 → Option Int
  | .finite negative m e =>
    let whole? : Option Nat :=
      if 0 ≤ e then some (m * Nat.pow 2 e.toNat)
      else if m % Nat.pow 2 (-e).toNat == 0 then some (m / Nat.pow 2 (-e).toNat) else none
    whole?.map fun n => if negative then -(n : Int) else n
  | _ => none

end Binary64

end Whittle
