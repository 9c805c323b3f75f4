/-!
# Finite double-precision numbers

A `Binary64` is the 64-bit pattern of an IEEE 754 double. `ofRatio?` rounds a quotient of natural
numbers to the nearest double, a tie to the even one, in exact arithmetic; `ofDecimal?` does so for
a decimal, and `ofScaled?` rounds twice, first the digits and then the scaling by a power of ten.
-/

set_option autoImplicit false

namespace CloudPlan

/-- A double-precision number, given by its bits. -/
structure Binary64 where
  bits : UInt64
deriving DecidableEq, Repr, Inhabited

namespace Binary64

/-- The sign bit. -/
def isNegative (x : Binary64) : Bool :=
  0x8000000000000000 ≤ x.bits.toNat

/-- The bits below the sign bit, whose order is the order of magnitudes. -/
def magnitudeBits (x : Binary64) : Nat :=
  x.bits.toNat % 0x8000000000000000

/-- The weight of the leading bit of a normal number, the 52nd power of two. -/
def leadingBit : Nat := 0x10000000000000

/-- The magnitude as `m` and `q` for `m * 2 ^ q`. -/
def significand (x : Binary64) : Nat × Int :=
  let stored : Nat := x.magnitudeBits / leadingBit
  let fraction : Nat := x.magnitudeBits % leadingBit
  if stored = 0 then (fraction, -1074) else (fraction + leadingBit, (stored : Int) - 1075)

/-- A quotient rounded to the nearest natural number, a tie to the even one. -/
def roundDiv (num den : Nat) : Nat :=
  let quotient := num / den
  let twice := 2 * (num % den)
  if twice < den then quotient
  else if den < twice then quotient + 1
  else quotient + quotient % 2

/-- A number times a power of two, as numerator and denominator. -/
def shifted (num den : Nat) (q : Int) : Nat × Nat :=
  if 0 ≤ q then (num * Nat.pow 2 q.toNat, den) else (num, den * Nat.pow 2 (-q).toNat)

/-- The largest `e` with `2 ^ e ≤ num / den`, for positive `num` and `den`. -/
def floorLog2 (num den : Nat) : Int :=
  let guess := (num.log2 : Int) - den.log2
  let (n, d) := shifted num den (-guess)
  if d ≤ n then guess else guess - 1

/-- The magnitude bits of the double nearest to `num / den`, unless that lies beyond the largest. -/
def roundBits? (num den : Nat) : Option Nat :=
  if num = 0 then some 0
  else
    let q := max (floorLog2 num den - 52) (-1074)
    let (n, d) := shifted num den (-q)
    let bits := (q + 1074).toNat * leadingBit + roundDiv n d
    if bits < 0x7FF0000000000000 then some bits else none

/-- A double from its sign and its magnitude bits. -/
def ofBits (negative : Bool) (bits : Nat) : Binary64 :=
  ⟨UInt64.ofNat (if negative then bits + 0x8000000000000000 else bits)⟩

/-- The double nearest to `num / den`, with a sign. -/
def ofRatio? (negative : Bool) (num den : Nat) : Option Binary64 :=
  (roundBits? num den).map (ofBits negative)

/-- The number of decimal digits of `m`. -/
def digitCount (m : Nat) : Nat :=
  (Nat.toDigits 10 m).length

/-- The double nearest to `m * 10 ^ e`, unless that lies beyond the largest. Exponents out of reach
of every double are settled without computing the power. -/
def ofDecimal? (negative : Bool) (m : Nat) (e : Int) : Option Binary64 :=
  if m = 0 then some (ofBits negative 0)
  else
    let leading := e + digitCount m
    if 400 < leading then none
    else if leading < -400 then some (ofBits negative 0)
    else if 0 ≤ e then ofRatio? negative (m * Nat.pow 10 e.toNat) 1
    else ofRatio? negative m (Nat.pow 10 (-e).toNat)

/-- The magnitude as numerator and denominator. -/
def ratio (x : Binary64) : Nat × Nat :=
  let (m, q) := x.significand
  shifted m 1 q

/-- The product of two magnitudes, rounded, with the sign of the first. -/
def times? (x y : Binary64) : Option Binary64 :=
  let (n, d) := x.ratio
  let (n', d') := y.ratio
  ofRatio? x.isNegative (n * n') (d * d')

/-- The quotient of two magnitudes, rounded, with the sign of the first. -/
def over? (x y : Binary64) : Option Binary64 :=
  let (n, d) := x.ratio
  let (n', d') := y.ratio
  ofRatio? x.isNegative (n * d') (d * n')

/-- The double nearest to the `k`-th power of ten. -/
def powerOfTen? (k : Nat) : Option Binary64 :=
  ofDecimal? false 1 k

/-- Divides by `10 ^ k` in at most `steps` steps, each by at most `10 ^ 308` and rounded. -/
def scaleDown (x : Binary64) (k : Nat) : (steps : Nat) → Option Binary64
  | 0 => some x
  | steps + 1 =>
    if x.magnitudeBits = 0 then some x
    else if k ≤ 308 then (powerOfTen? k).bind x.over?
    else ((powerOfTen? 308).bind x.over?).bind fun y => scaleDown y (k - 308) steps

/-- The digits `m` rounded to a double, then multiplied or divided by a rounded power of ten and
rounded again. The result differs from `ofDecimal?` in the last place for some long decimals. -/
def ofScaled? (negative : Bool) (m : Nat) (e : Int) : Option Binary64 := do
  let x ← ofRatio? negative m 1
  if e < 0 then scaleDown x (min (-e).toNat 2000) 8
  else if x.magnitudeBits = 0 then some x
  else if 308 < e then none
  else x.times? (← powerOfTen? e.toNat)

end Binary64

end CloudPlan
