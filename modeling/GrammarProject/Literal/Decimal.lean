/-!
# Decimal numbers

A decimal number is an integer over a power of ten. Its text has the fewest digits: positional
from 10^-4 up to 10^16, with at least one digit behind the point, and with an exponent of at least
two digits outside that range.
-/

namespace GrammarProject

/-- The number `mantissa / 10 ^ places`. -/
structure Decimal where
  mantissa : Int
  places : Nat
deriving DecidableEq, Repr

namespace Decimal

/-- The digits of a positive number without zeros at the end, and how many zeros were dropped. -/
def significant (n : Nat) : List Char × Nat :=
  let digits := (Nat.toDigits 10 n).reverse
  ((digits.dropWhile (· = '0')).reverse, (digits.takeWhile (· = '0')).length)

/-- The digits of a number that is not zero, with the point before the first digit shifted
`point` places to the right. -/
def positional (digits : List Char) (point : Int) : List Char :=
  if point ≤ 0 then '0' :: '.' :: List.replicate (-point).toNat '0' ++ digits
  else
    let k := point.toNat
    let whole := digits.take k ++ List.replicate (k - digits.length) '0'
    whole ++ '.' :: (if digits.length ≤ k then ['0'] else digits.drop k)

/-- The digits of a number that is not zero as one digit, a fraction and a power of ten. -/
def scientific (digits : List Char) (exponent : Int) : List Char :=
  let mark := if exponent < 0 then '-' else '+'
  let power := Nat.toDigits 10 exponent.natAbs
  let power := if power.length < 2 then '0' :: power else power
  match digits with
  | [] => []
  | [d] => d :: 'e' :: mark :: power
  | d :: ds => d :: '.' :: ds ++ 'e' :: mark :: power

def text (d : Decimal) : List Char :=
  if d.mantissa = 0 then ['0', '.', '0']
  else
    let (digits, zeros) := significant d.mantissa.natAbs
    let point : Int := digits.length + zeros - d.places
    let body :=
      if -4 < point ∧ point ≤ 16 then positional digits point else scientific digits (point - 1)
    if d.mantissa < 0 then '-' :: body else body

end Decimal

end GrammarProject
