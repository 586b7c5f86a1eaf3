import DeclaredApi.Number.Shortest

/-
  Floating-point numbers as text.

  A number is written with its shortest digits, positionally
  while the point stands at most sixteen places to the right
  and less than four zeros to the left, and with an exponent
  of at least two digits otherwise.

  Key definitions include:
    * `Number.FloatSpelling`
    * `Number.positional`
    * `Number.scientific`
    * `Number.floatText`
    * `Number.nearestFloat`
-/

------------------------------------------------------------
-- Writing
------------------------------------------------------------

namespace DeclaredApi

namespace Number

/- The names of the values that have no digits. -/
structure FloatSpelling where
  notANumber : String
  infinity : String
deriving DecidableEq, Repr

/- A text of the given number of zeros. -/
def zeros (count : Nat) : String :=
  String.ofList (List.replicate count '0')

/- Digits with the point after `point` of them. -/
def positional
    (digits : String)
    (point : Int) : String :=
  if point ≤ 0 then
    "0." ++ zeros (-point).toNat ++ digits
  else if digits.length ≤ point.toNat then
    digits ++ zeros (point.toNat - digits.length) ++ ".0"
  else
    String.ofList (digits.toList.take point.toNat) ++ "." ++
      String.ofList (digits.toList.drop point.toNat)

/- One digit, a fraction if any, and an exponent. -/
def scientific
    (digits : String)
    (point : Int) : String :=
  let exponent := point - 1
  let sign := if exponent < 0 then "-" else "+"
  let power := toString exponent.natAbs
  let padding := zeros (2 - power.length)
  let fraction := String.ofList (digits.toList.drop 1)
  String.ofList (digits.toList.take 1) ++
    (if fraction = "" then "" else "." ++ fraction) ++
    "e" ++ sign ++ padding ++ power

/- A double as text. -/
def floatText
    (spelling : FloatSpelling)
    (x : Float) : String :=
  let sign := if isNegative x then "-" else ""
  if x.isNaN then
    spelling.notANumber
  else if x.isInf then
    sign ++ spelling.infinity
  else
    let d := shortestDecimal x
    if d.digits = 0 then
      sign ++ "0.0"
    else
      let digits := toString d.digits
      let point := d.exponent + digits.length
      if -4 < point ∧ point ≤ 16 then
        sign ++ positional digits point
      else
        sign ++ scientific digits point

end Number

end DeclaredApi

------------------------------------------------------------
-- Reading
------------------------------------------------------------

namespace DeclaredApi

namespace Number

/-
  The double nearest to `digits · 10 ^ exponent`.  Exponents
  far outside the range of doubles are settled at once.
-/
def nearestFloat
    (negative : Bool)
    (digits : Nat)
    (exponent : Int) : Float :=
  let places := exponent + (toString digits).length
  let magnitude : Float :=
    if digits = 0 ∨ places < -400 then
      0.0
    else if 400 < places then
      1.0 / 0.0
    else
      Float.ofScientific digits (decide (exponent < 0))
        exponent.natAbs
  if negative then -magnitude else magnitude

end Number

end DeclaredApi
