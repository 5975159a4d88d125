/-!
Double-precision numbers kept as their IEEE 754 bit patterns. A pattern decodes into a sign,
an integer significand `m` and a binary exponent `q`, with magnitude `m · 2 ^ q`; the
comparisons the template language needs (`isZero`, `sameNumber`, `eqInt`, and the exact order
of `Place`) are stated on that decoding, so they use no floating-point operation.
-/

namespace TemplateMacro

/-- A double-precision number, kept as its 64-bit IEEE 754 pattern. -/
structure Binary64 where
  bits : UInt64
deriving DecidableEq, Repr

namespace Binary64

def negative (x : Binary64) : Bool := x.bits >>> 63 == 1

def exponentField (x : Binary64) : Nat := ((x.bits >>> 52) &&& 0x7FF).toNat

def fractionField (x : Binary64) : Nat := (x.bits &&& 0xFFFFFFFFFFFFF).toNat

def isNaN (x : Binary64) : Bool := x.exponentField == 2047 && x.fractionField != 0

def isInfinite (x : Binary64) : Bool := x.exponentField == 2047 && x.fractionField == 0

def isZero (x : Binary64) : Bool := x.exponentField == 0 && x.fractionField == 0

def significand (x : Binary64) : Nat :=
  if x.exponentField = 0 then x.fractionField else Nat.pow 2 52 + x.fractionField

def exponent (x : Binary64) : Int :=
  if x.exponentField = 0 then -1074 else (x.exponentField : Int) - 1075

/-- The double nearest to `±digits · 10 ^ exp10`, ties to even; the sign is kept on zero. A
decimal below `10 ^ -400` is zero and one above `10 ^ 400` is infinite, which spares the
exact computation of huge powers. -/
def ofDecimal (negative : Bool) (digits : Nat) (exp10 : Int) : Binary64 :=
  let size : Int := (Nat.toDigits 10 digits).length
  let magnitude : UInt64 :=
    if digits = 0 ∨ exp10 + size < -400 then 0
    else if exp10 + size > 400 then 0x7FF0000000000000
    else (Float.ofScientific digits (decide (exp10 < 0)) exp10.natAbs).toBits
  ⟨if negative then magnitude ||| 0x8000000000000000 else magnitude⟩

def ofInt (n : Int) : Binary64 := ofDecimal (decide (n < 0)) n.natAbs 0

def sameNumber (x y : Binary64) : Bool :=
  !x.isNaN && !y.isNaN && (x.bits == y.bits || (x.isZero && y.isZero))

def wholeMagnitude? (x : Binary64) : Option Nat :=
  if x.isNaN || x.isInfinite then none
  else if 0 ≤ x.exponent then some (x.significand * Nat.pow 2 x.exponent.toNat)
  else if x.significand % Nat.pow 2 x.exponent.natAbs = 0 then
    some (x.significand / Nat.pow 2 x.exponent.natAbs)
  else none

def eqInt (x : Binary64) (n : Int) : Bool :=
  match x.wholeMagnitude? with
  | none => false
  | some a => if x.negative then n == -(a : Int) else n == (a : Int)

def compareScaled (a p b q : Int) : Ordering :=
  if p ≤ q then compare a (b * (Nat.pow 2 (q - p).toNat : Int))
  else compare (a * (Nat.pow 2 (p - q).toNat : Int)) b

/-- Where a number stands on the line extended by the two infinities: an exact `num · 2 ^ exp`,
an infinity, or nowhere for NaN. -/
inductive Place
  | nowhere
  | below
  | exact (num exp : Int)
  | above
deriving DecidableEq, Repr

def Place.compare? : Place → Place → Option Ordering
  | .nowhere, _ | _, .nowhere => none
  | .below, .below | .above, .above => some .eq
  | .below, _ => some .lt
  | _, .below => some .gt
  | .above, _ => some .gt
  | _, .above => some .lt
  | .exact a p, .exact b q => some (compareScaled a p b q)

def Place.ofInt (n : Int) : Place := .exact n 0

def place (x : Binary64) : Place :=
  if x.isNaN then .nowhere
  else if x.isInfinite then (if x.negative then .below else .above)
  else .exact (if x.negative then -(x.significand : Int) else x.significand) x.exponent

end Binary64

end TemplateMacro
