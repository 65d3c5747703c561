import Tweaks.Decimal.Shortest

/-!
# Exact decimals and doubles

Doubles taken as the exact numbers that they are: as fractions, compared with whole
numbers, divided with the quotient rounded down, and rounded to decimal places.  What comes
of the bits of two whole numbers, those of a negative one being the complements of the bits of
the number before its opposite.  And the digits of a fraction with as many places as asked
for: behind a point, behind the first digit and before an exponent, or in the shorter of both
notations.
-/

namespace Tweaks.Decimal

-- Powers of whole numbers are those of the core library.
attribute [local instance (5000)] instPowNat

/-! ## Rounded quotients -/

/-- A quotient rounded to a whole number; a half goes to the even neighbour. -/
def roundHalfEven (num den : Nat) : Nat :=
  let q := num / den
  let twice := 2 * (num % den)
  if den < twice || (twice = den && q % 2 = 1) then q + 1 else q

/-! ## Doubles as fractions -/

/-- Whether a double lies below zero or is the negative zero. -/
def isNegative (x : Float) : Bool :=
  x.toBits >>> 63 = 1

/-- The magnitude of a finite double as a fraction. -/
def fraction (x : Float) : Nat × Nat :=
  let d := Dyadic.ofBits x.toBits
  let power := powerFraction 2 d.exponent
  (d.mantissa * power.1, power.2)

/-- A double with the sign given. -/
def withSign (negative : Bool) (x : Float) : Float :=
  if negative then -x.abs else x.abs

/-- The double of a whole number of binary places; beyond all doubles it is
infinite. -/
def ofPlaces (mantissa : Nat) (exponent : Int) : Float :=
  let (mantissa, exponent) :=
    if mantissa = 2 ^ (53 : Nat) then (2 ^ (52 : Nat), exponent + 1) else (mantissa, exponent)
  if mantissa < 2 ^ (52 : Nat) then Float.ofBits (UInt64.ofNat mantissa)
  else
    let biased := exponent + 1075
    if 2047 ≤ biased then 1.0 / 0.0
    else Float.ofBits (UInt64.ofNat (biased.toNat * 2 ^ (52 : Nat) + (mantissa - 2 ^ (52 : Nat))))

/-- The binary exponent of a positive fraction, rounded down. -/
def binaryExponent (num den : Nat) : Int :=
  let guess : Int := (num.log2 : Int) - den.log2
  let power := powerFraction 2 guess
  if num * power.2 < den * power.1 then guess - 1 else guess

/-- The double nearest to a fraction; a tie goes to the even one.  Beyond all doubles
it is infinite. -/
def ofRatio (num den : Nat) : Float :=
  if num = 0 then 0.0
  else
    let place : Int := max (-1074) (binaryExponent num den - 52)
    let power := powerFraction 2 place
    ofPlaces (roundHalfEven (num * power.2) (den * power.1)) place

/-- The double nearest to a whole number, unless that is beyond all doubles. -/
def ofInteger? (n : Int) : Option Float :=
  let x := ofRatio n.natAbs 1
  if x.isInf then none else some (if n < 0 then -x else x)

/-- The exact quotient of two whole numbers as a double, unless that is beyond all
doubles.  The divisor is not zero. -/
def quotient? (a b : Int) : Option Float :=
  let x := ofRatio a.natAbs b.natAbs
  if x.isInf then none else some (if (a < 0) != (b < 0) then -x else x)

/-- The whole number that is left of a finite double without its fraction. -/
def truncated (x : Float) : Int :=
  let (num, den) := fraction x
  let n : Int := num / den
  if isNegative x then -n else n

/-- How a double that is a number compares with a whole number. -/
def compareInteger (x : Float) (n : Int) : Ordering :=
  if x.isInf then (if isNegative x then .lt else .gt)
  else
    let (num, den) := fraction x
    let a : Int := if isNegative x then -num else num
    compare a (n * den)

/-- Whether a finite double is a whole number. -/
def isWhole (x : Float) : Bool :=
  !x.isNaN && !x.isInf && (let (num, den) := fraction x; num % den = 0)

/-! ## Division -/

/-- What is left of a double when another is taken off it as often as possible,
towards zero. -/
def leftOver (x y : Float) : Float :=
  if x.isNaN || y.isNaN || x.isInf || y == 0 then 0.0 / 0.0
  else if y.isInf then x
  else
    let (a, b) := fraction x
    let (c, d) := fraction y
    withSign (isNegative x) (ofRatio ((a * d) % (c * b)) (b * d))

/-- The quotient of two doubles rounded down, and what is left with the sign of the
divisor.  The divisor is not zero. -/
def divideFloor (x y : Float) : Float × Float :=
  let left := leftOver x y
  let q := (x - left) / y
  let (left, q) :=
    if left == 0 then (withSign (isNegative y) 0.0, q)
    else if (y < 0) != (left < 0) then (left + y, q - 1.0)
    else (left, q)
  let whole :=
    if q == 0 then withSign (isNegative (x / y)) 0.0
    else
      let floor := q.floor
      if q - floor > 0.5 then floor + 1.0 else floor
  (whole, left)

/-! ## Decimal places -/

/-- A finite double rounded to decimal places; negative ones stand before the point. -/
def roundPlaces (x : Float) (places : Int) : Float :=
  if 323 < places then x
  else if places < -308 then withSign (isNegative x) 0.0
  else
    let (num, den) := fraction x
    let ten := powerFraction 10 places
    let n := roundHalfEven (num * ten.1) (den * ten.2)
    withSign (isNegative x) (ofRatio (n * ten.2) ten.1)

/-- A whole number rounded to a power of ten, given by its exponent. -/
def roundInteger (n : Int) (zeros : Nat) : Int :=
  let m : Int := roundHalfEven n.natAbs (10 ^ zeros) * 10 ^ zeros
  if n < 0 then -m else m

/-! ## The base sixteen -/

/-- A double to the base sixteen, with a power of two. -/
def hexText (x : Float) : String :=
  let bits := x.toBits.toNat
  let exponent : Nat := bits / 2 ^ (52 : Nat) % 2 ^ (11 : Nat)
  let mantissa := bits % 2 ^ (52 : Nat)
  let sign := if isNegative x then "-" else ""
  let digits := Nat.toDigits 16 mantissa
  let digits := String.ofList (List.replicate (13 - digits.length) '0' ++ digits)
  if x.isNaN then "nan"
  else if x.isInf then sign ++ "inf"
  else if exponent = 0 then
    if mantissa = 0 then sign ++ "0x0.0p+0" else sign ++ "0x0." ++ digits ++ "p-1022"
  else
    let power : Int := (exponent : Int) - 1023
    sign ++ "0x1." ++ digits ++ "p" ++ (if power < 0 then "-" else "+") ++ toString power.natAbs

/-! ## Bits of whole numbers -/

/-- So many bits that each of two numbers is given by them. -/
def bitsNeeded (a b : Int) : Nat :=
  max a.natAbs.log2 b.natAbs.log2 + 2

/-- The lowest bits of a number. -/
def toBits (width : Nat) (n : Int) : Nat :=
  (n % 2 ^ width).toNat

/-- The number of which bits are the lowest ones, where the highest stands for a sign. -/
def ofBits (width : Nat) (bits : Nat) : Int :=
  if 2 ^ width ≤ 2 * bits then (bits : Int) - 2 ^ width else bits

/-- What comes of the bits of two numbers, pair by pair. -/
def combineBits (f : Nat → Nat → Nat) (a b : Int) : Int :=
  let width := bitsNeeded a b
  ofBits width (f (toBits width a) (toBits width b) % 2 ^ width)

/-! ## Notations -/

/-- Digits with a point before the last of them; `places` says how many stand behind
it. -/
def pointed (places n : Nat) (keepPoint : Bool) : List Char :=
  let digits := digitChars n
  let digits := List.replicate (places + 1 - digits.length) '0' ++ digits
  let whole := digits.take (digits.length - places)
  if places = 0 then whole ++ (if keepPoint then ['.'] else [])
  else whole ++ '.' :: digits.drop (digits.length - places)

/-- A fraction with the given number of places behind the point. -/
def fixed (num den places : Nat) (keepPoint : Bool) : List Char :=
  pointed places (roundHalfEven (num * 10 ^ places) den) keepPoint

/-- The exponent of ten of a fraction that has been rounded to the given number of
places behind its first digit, and the digits. -/
def leading (num den places : Nat) : Int × Nat :=
  if num = 0 then (0, 0)
  else
    let guess : Int := ((digitChars num).length : Int) - (digitChars den).length
    let power := powerFraction 10 guess
    let e := if num * power.2 < den * power.1 then guess - 1 else guess
    let shift := powerFraction 10 (e - places)
    let n := roundHalfEven (num * shift.2) (den * shift.1)
    if 10 ^ (places + 1) ≤ n then (e + 1, n / 10) else (e, n)

/-- Digits before an exponent. -/
def scientific (mark : Char) (e : Int) (digits : List Char) (keepPoint : Bool) : List Char :=
  let tail := digits.drop 1
  digits.take 1 ++ (if tail.isEmpty then (if keepPoint then ['.'] else []) else '.' :: tail) ++
    mark :: exponentChars e

/-- A fraction with a number of places behind its first digit, and an exponent. -/
def exponential (mark : Char) (num den places : Nat) (keepPoint : Bool) : List Char :=
  let (e, n) := leading num den places
  let digits := digitChars n
  scientific mark e (List.replicate (places + 1 - digits.length) '0' ++ digits) keepPoint

/-- Digits without the zeros at their end. -/
def dropZeros (digits : List Char) : List Char :=
  (digits.reverse.dropWhile (· = '0')).reverse

/-- A fraction with a number of digits, before an exponent where the point would lie
outside of them.  `keepAll` keeps zeros at the end; `likeReal` puts a zero behind the
point of a whole number, which takes one of the digits. -/
def general (mark : Char) (num den digits : Nat) (keepAll likeReal : Bool) : List Char :=
  let digits := max digits 1
  let (e, n) := leading num den (digits - 1)
  let all := digitChars n
  let all := List.replicate (digits - all.length) '0' ++ all
  let kept := if keepAll then all else
    match dropZeros all with
    | [] => ['0']
    | kept => kept
  if -4 ≤ e && e < (digits : Int) - (if likeReal then 1 else 0) then
    if e < 0 then '0' :: '.' :: List.replicate ((-e).toNat - 1) '0' ++ kept
    else
      let whole := kept.take (e.toNat + 1)
      let whole := whole ++ List.replicate (e.toNat + 1 - whole.length) '0'
      let places := kept.drop (e.toNat + 1)
      whole ++ (if places.isEmpty then
          (if likeReal then ['.', '0'] else if keepAll then ['.'] else [])
        else '.' :: places)
  else scientific mark e kept keepAll

end Tweaks.Decimal
