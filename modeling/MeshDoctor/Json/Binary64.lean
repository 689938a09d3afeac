/-!
# JSON — binary floating-point numbers

A non-negative finite double is `mantissa · 2 ^ exponent`, normalised so that every value has one
form. All arithmetic is exact on natural numbers and rounds once, to nearest and ties to even.

* `roundRatio`: the double nearest to a quotient, none beyond the range.
* `Binary64.scale`: a number of 64-bit digits times a power of ten, with one rounding for the digits
  and one for each power.
* `Binary64.render`: the fewest digits that read back, positional up to sixteen places.
-/

namespace MeshDoctor.Json

/-- The size of a finite double. -/
structure Magnitude where
  mantissa : Nat
  exponent : Int
  deriving DecidableEq, Repr

/-- A finite double. -/
structure Binary64 where
  negative : Bool
  size : Magnitude
  deriving DecidableEq, Repr

/-- The least exponent of a double. -/
def leastExponent : Int := -1074

/-- The greatest exponent of a double. -/
def greatestExponent : Int := 971

/-- The quotient `num / (den · 2 ^ e)` as a pair of naturals. -/
def shiftRatio (num den : Nat) (e : Int) : Nat × Nat :=
  if e < 0 then (num * Nat.pow 2 e.natAbs, den) else (num, den * Nat.pow 2 e.natAbs)

/-- The natural number nearest to `num / den`, the even one of two. -/
def roundHalfEven (num den : Nat) : Nat :=
  let q := num / den
  let r := num % den
  if 2 * r > den || (2 * r = den && q % 2 = 1) then q + 1 else q

/-- The double nearest to `num / den`, none when it lies beyond the range. -/
def roundRatio (num den : Nat) : Option Magnitude :=
  if num = 0 then some ⟨0, leastExponent⟩
  else
    let guess : Int := (num.log2 : Int) - (den.log2 : Int) - 53
    let (n, d) := shiftRatio num den guess
    let exact := if n / d ≥ Nat.pow 2 53 then guess + 1 else guess
    let e := max exact leastExponent
    let (n, d) := shiftRatio num den e
    let m := roundHalfEven n d
    let (m, e) := if m = Nat.pow 2 53 then (Nat.pow 2 52, e + 1) else (m, e)
    if e > greatestExponent then none else some ⟨m, e⟩

namespace Magnitude

/-- The value as a quotient of naturals. -/
def ratio (x : Magnitude) : Nat × Nat :=
  if x.exponent < 0 then (x.mantissa, Nat.pow 2 x.exponent.natAbs)
  else (x.mantissa * Nat.pow 2 x.exponent.natAbs, 1)

/-- The rounded product. -/
def mul (x y : Magnitude) : Option Magnitude :=
  let (a, b) := x.ratio
  let (c, d) := y.ratio
  roundRatio (a * c) (b * d)

/-- The rounded quotient. -/
def div (x y : Magnitude) : Option Magnitude :=
  let (a, b) := x.ratio
  let (c, d) := y.ratio
  roundRatio (a * d) (b * c)

/-- The double nearest to a power of ten. -/
def tenPower (n : Nat) : Option Magnitude :=
  roundRatio (Nat.pow 10 n) 1

/-- Divides by powers of ten up to the 308th until the exponent is used up. -/
def descend (x : Magnitude) : (rounds exponent : Nat) → Option Magnitude
  | 0, _ => some x
  | rounds + 1, exponent =>
    if exponent ≤ 308 then do x.div (← tenPower exponent)
    else if x.mantissa = 0 then some x
    else do descend (← x.div (← tenPower 308)) rounds (exponent - 308)

/-- `significand · 10 ^ exponent`, none beyond the range. The eighth round of a descent leaves `0`. -/
def scale (significand : Nat) (exponent : Int) : Option Magnitude := do
  let x ← roundRatio significand 1
  if exponent < 0 then x.descend 8 exponent.natAbs
  else if exponent ≤ 308 then x.mul (← tenPower exponent.natAbs)
  else if x.mantissa = 0 then some x
  else none

/-! ## Shortest digits -/

/-- Does the decimal `digits · 10 ^ place` round to `x`? -/
def readsBack (x : Magnitude) (digits : Nat) (place : Int) : Bool :=
  if place < 0 then roundRatio digits (Nat.pow 10 place.natAbs) = some x
  else roundRatio (digits * Nat.pow 10 place.natAbs) 1 = some x

/-- The quotient `x / 10 ^ place`. -/
def perTen (x : Magnitude) (place : Int) : Nat × Nat :=
  let (a, b) := x.ratio
  if place < 0 then (a * Nat.pow 10 place.natAbs, b) else (a, b * Nat.pow 10 place.natAbs)

/-- The decimal place of the leading digit, by trying from `place` downwards. -/
def leadingPlace (x : Magnitude) : (fuel : Nat) → (place : Int) → Int
  | 0, place => place
  | fuel + 1, place =>
    let (a, b) := x.perTen place
    if a ≥ b then place else leadingPlace x fuel (place - 1)

/-- The digits of `x` at `place` and that place, with as few digits as read back to `x`. -/
def shortestFrom (x : Magnitude) (lead : Int) : (more count : Nat) → Nat × Int
  | 0, count =>
    let place := lead + 1 - count
    let (a, b) := x.perTen place
    (roundHalfEven a b, place)
  | more + 1, count =>
    let place := lead + 1 - count
    let (a, b) := x.perTen place
    let near := roundHalfEven a b
    let low := a / b
    let other := if near = low then low + 1 else low
    if x.readsBack near place then (near, place)
    else if x.readsBack other place then (other, place)
    else shortestFrom x lead more (count + 1)

/-- Digits without trailing zeros, and the place of the last one. -/
def stripZeros : (fuel : Nat) → Nat × Int → Nat × Int
  | 0, d => d
  | fuel + 1, (digits, place) =>
    if digits ≠ 0 && digits % 10 = 0 then stripZeros fuel (digits / 10, place + 1)
    else (digits, place)

/-- The fewest digits that read back to a positive double, and the place of the last one. -/
def shortest (x : Magnitude) : Nat × Int :=
  stripZeros 20 (shortestFrom x (leadingPlace x 700 330) 16 1)

end Magnitude

/-! ## Text -/

/-- A row of zeros. -/
def zeros (n : Nat) : String :=
  String.ofList (List.replicate n '0')

/-- Writes digits whose last one stands at `place`: positional from `0.00001` to sixteen places
before the point, else with an exponent. -/
def renderDigits (digits : Nat) (place : Int) : String :=
  let text := toString digits
  let length : Int := text.length
  let point := length + place
  let cut (n : Nat) : String × String :=
    (String.ofList (text.toList.take n), String.ofList (text.toList.drop n))
  if 0 ≤ place && point ≤ 16 then text ++ zeros place.natAbs ++ ".0"
  else if 0 < point && point ≤ 16 then
    let (whole, fraction) := cut point.natAbs
    whole ++ "." ++ fraction
  else if -5 < point && point ≤ 0 then "0." ++ zeros point.natAbs ++ text
  else
    let (whole, fraction) := cut 1
    let exponent := (if point < 1 then "e" else "e+") ++ toString (point - 1)
    if fraction.isEmpty then whole ++ exponent else whole ++ "." ++ fraction ++ exponent

/-- The text of a double. -/
def Binary64.render (x : Binary64) : String :=
  let sign := if x.negative then "-" else ""
  if x.size.mantissa = 0 then sign ++ "0.0"
  else
    let (digits, place) := x.size.shortest
    sign ++ renderDigits digits place

end MeshDoctor.Json
