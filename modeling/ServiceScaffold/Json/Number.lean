/-
The size of a written number.

A number may be written with any number of digits, but it has to stay within the range of a double:
`1e400` is refused and `1e-400` is not.  The significand is made of the leading digits that fit in
64 bits; each further digit of the integer part counts as a factor of ten, and further digits of
the fraction are dropped.  The product of significand and power of ten is taken as doubles are
multiplied, each factor and the result rounded to 53 bits, a tie going to the even neighbour.

* `roundToBits` — rounding to a number of significant bits.
* `Decimal.isFinite` — whether a written number is in range.
-/

namespace ServiceScaffold.Json

/-- The nearest number with at most `bits` significant bits; a tie goes to the even one. -/
def roundToBits (bits n : Nat) : Nat :=
  let size := n.log2 + 1
  if size ≤ bits then n
  else
    let unit := Nat.pow 2 (size - bits)
    let low := n / unit
    let excess := n % unit
    if unit < 2 * excess || (2 * excess == unit && low % 2 == 1) then (low + 1) * unit
    else low * unit

/-- A written number without its sign: the digits before and after the point, and the exponent. -/
structure Decimal where
  integer : List Nat
  fraction : List Nat
  exponent : Int
deriving DecidableEq, Repr

/-- Takes digits into a significand while it stays below 2⁶⁴; what is left is returned. -/
def takeDigits : Nat → List Nat → Nat × List Nat
  | significand, [] => (significand, [])
  | significand, d :: rest =>
    if significand * 10 + d < Nat.pow 2 64 then takeDigits (significand * 10 + d) rest
    else (significand, d :: rest)

/-- The significand of a written number and the power of ten that it is multiplied by. -/
def Decimal.scaled (d : Decimal) : Nat × Int :=
  let (head, dropped) := takeDigits 0 d.integer
  let (significand, ignored) := takeDigits head d.fraction
  let used := d.fraction.length - ignored.length
  (significand, d.exponent + dropped.length - used)

/-- Whether a written number is within the range of a double. -/
def Decimal.isFinite (d : Decimal) : Bool :=
  match d.scaled with
  | (0, _) => true
  | (_, .negSucc _) => true
  | (significand, .ofNat power) =>
    power ≤ 308 &&
      roundToBits 53 (roundToBits 53 significand * roundToBits 53 (Nat.pow 10 power)) <
        Nat.pow 2 1024

end ServiceScaffold.Json
