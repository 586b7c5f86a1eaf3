/-
  The shortest decimal of a binary number.

  A finite double stands for every real that rounds to it.
  `shortestDecimal` searches the decimal grids from one digit
  up for a point of that interval next to the value; the
  first grid with a hit gives the digits, and of two hits
  the nearer one is taken, or the even one of two that are
  equally near.

  Key definitions include:
    * `Number.Binary`
    * `Number.Binary.ofFloat`
    * `Number.Decimal`
    * `Number.decimalPlaces`
    * `Number.gridHit?`
    * `Number.shortestDecimal`
-/

------------------------------------------------------------
-- Binary and Decimal Numbers
------------------------------------------------------------

namespace DeclaredApi

namespace Number

/- The value `mantissa · 2 ^ exponent`. -/
structure Binary where
  mantissa : Nat
  exponent : Int
deriving DecidableEq, Repr

/- The value `digits · 10 ^ exponent`. -/
structure Decimal where
  digits : Nat
  exponent : Int
deriving DecidableEq, Repr

/- The magnitude of a finite double. -/
def Binary.ofFloat (x : Float) : Binary :=
  let bits : Nat := x.toBits.toNat
  let fraction : Nat := bits % Nat.pow 2 52
  let biased : Nat := bits / Nat.pow 2 52 % Nat.pow 2 11
  if biased = 0 then
    ⟨fraction, -1074⟩
  else
    ⟨Nat.pow 2 52 + fraction, (biased : Int) - 1075⟩

/- A double with the sign bit set. -/
def isNegative (x : Float) : Bool :=
  x.toBits.toNat / Nat.pow 2 63 = 1

end Number

end DeclaredApi

------------------------------------------------------------
-- Decimal Grids
------------------------------------------------------------

namespace DeclaredApi

namespace Number

/- A non-negative fraction; its denominator is not zero. -/
structure Ratio where
  top : Nat
  bottom : Nat
deriving DecidableEq, Repr

/- `count · base ^ exponent` as a fraction. -/
def Ratio.scaled
    (count base : Nat)
    (exponent : Int) : Ratio :=
  if 0 ≤ exponent then
    ⟨count * Nat.pow base exponent.toNat, 1⟩
  else
    ⟨count, Nat.pow base (-exponent).toNat⟩

/- One fraction is at most another. -/
def Ratio.le (a b : Ratio) : Bool :=
  a.top * b.bottom ≤ b.top * a.bottom

/- One fraction is less than another. -/
def Ratio.lt (a b : Ratio) : Bool :=
  a.top * b.bottom < b.top * a.bottom

/-
  The least number of places from `start` on at which ten to
  that power exceeds the value; `fuel` bounds the search.
-/
def placesFrom
    (value : Ratio) :
    (fuel : Nat) → (start : Int) → Int
| 0, start => start
| fuel + 1, start =>
    if value.lt (Ratio.scaled 1 10 start) then
      start
    else
      placesFrom value fuel (start + 1)

/- The power of ten just above a positive double. -/
def decimalPlaces (b : Binary) : Int :=
  let bits : Int := b.mantissa.log2 + b.exponent
  placesFrom (Ratio.scaled b.mantissa 2 b.exponent) 4
    (bits * 30103 / 100000 - 1)

/-
  The ends of the interval of reals that round to a double,
  in quarters of its last place.
-/
def roundingEnds (b : Binary) : Ratio × Ratio :=
  let below :=
    if b.mantissa = Nat.pow 2 52 ∧ b.exponent ≠ -1074 then
      1
    else
      2
  (Ratio.scaled (4 * b.mantissa - below) 2 (b.exponent - 2),
    Ratio.scaled (4 * b.mantissa + 2) 2 (b.exponent - 2))

/- A decimal rounds to the given double. -/
def roundsTo
    (b : Binary)
    (d : Decimal) : Bool :=
  let (low, high) := roundingEnds b
  let point := Ratio.scaled d.digits 10 d.exponent
  if b.mantissa % 2 = 0 then
    low.le point && point.le high
  else
    low.lt point && point.lt high

/- The first of two neighbours on a grid is the nearer one. -/
def prefersBelow
    (value : Ratio)
    (count : Nat)
    (exponent : Int) : Bool :=
  let middle := Ratio.scaled (2 * count + 1) 10 exponent
  let twice := Ratio.mk (2 * value.top) value.bottom
  if twice.lt middle then
    true
  else
    twice.le middle && count % 2 = 0

/-
  The point of one decimal grid that is nearest to a double
  and rounds to it, if there is one.  Of two equally near
  points the even one is taken.
-/
def gridHit?
    (b : Binary)
    (exponent : Int) : Option Decimal :=
  let value := Ratio.scaled b.mantissa 2 b.exponent
  let unit := Ratio.scaled 1 10 exponent
  let count :=
    value.top * unit.bottom / (value.bottom * unit.top)
  let below : Decimal := ⟨count, exponent⟩
  let above : Decimal := ⟨count + 1, exponent⟩
  match roundsTo b below, roundsTo b above with
  | true, true =>
      some
        (if prefersBelow value count exponent then
          below
        else
          above)
  | true, false => some below
  | false, true => some above
  | false, false => none

end Number

end DeclaredApi

------------------------------------------------------------
-- Shortest Decimals
------------------------------------------------------------

namespace DeclaredApi

namespace Number

/- Drop trailing zeros of the digits, at most `fuel` many. -/
def dropZeros : (fuel : Nat) → Decimal → Decimal
| 0, d => d
| fuel + 1, d =>
    if d.digits ≠ 0 ∧ d.digits % 10 = 0 then
      dropZeros fuel ⟨d.digits / 10, d.exponent + 1⟩
    else
      d

/- The first hit on the grids from `digits` digits up. -/
def firstHit
    (b : Binary)
    (places : Int) :
    (fuel digits : Nat) → Decimal
| 0, _ => ⟨b.mantissa, b.exponent⟩
| fuel + 1, digits =>
    match gridHit? b (places - digits) with
    | some hit => hit
    | none => firstHit b places fuel (digits + 1)

/-
  The decimal with the fewest digits that reads back as a
  finite double; seventeen digits are always enough.
-/
def shortestDecimal (x : Float) : Decimal :=
  let b := Binary.ofFloat x
  if b.mantissa = 0 then
    ⟨0, 0⟩
  else
    dropZeros 18 (firstHit b (decimalPlaces b) 17 1)

end Number

end DeclaredApi
