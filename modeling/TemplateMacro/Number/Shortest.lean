import TemplateMacro.Number.Binary64
/-!
Shortest decimal digits of a double. A finite nonzero double `m · 2 ^ q` is the nearest double
to every real in its rounding interval, whose ends lie halfway to the neighbouring doubles
and belong to it exactly when `m` is even. For `n = 1, 2, …, 17` the search looks at the two
points of the decimal grid with `n` significant digits that enclose the number; the first
grid with a point inside the interval gives the digits, and of two such points the nearer
one wins (an exact tie goes to the even digit string). All comparisons are exact, on naturals.
-/

namespace TemplateMacro

structure Decimal where
  digits : Nat
  exponent : Int
deriving DecidableEq, Repr

namespace Decimal

def trim (d : Decimal) : Decimal :=
  if h : d.digits ≠ 0 ∧ d.digits % 10 = 0 then
    trim ⟨d.digits / 10, d.exponent + 1⟩
  else d
termination_by d.digits
decreasing_by exact Nat.div_lt_self (Nat.pos_of_ne_zero h.1) (by decide)

end Decimal

namespace Shortest

def compareScaled (c : Nat) (j : Int) (b : Nat) (s : Int) : Ordering :=
  compare (c * Nat.pow 10 j.toNat * Nat.pow 2 (-s).toNat)
    (b * Nat.pow 2 s.toNat * Nat.pow 10 (-j).toNat)

def raise (m : Nat) (q : Int) : Nat → Int → Int
  | 0, k => k
  | fuel + 1, k => if compareScaled 1 k m q == .gt then k else raise m q fuel (k + 1)

def decimalLength (m : Nat) (q : Int) : Int :=
  raise m q 8 ((((m.log2 : Int) + q) * 30103) / 100000 - 2)

/-- The rounding interval of `m · 2 ^ q` as `(low, high)`, both scaled by `2 ^ (q - 2)`.
The gap below is half as wide when `m` is the least normal significand above the least
exponent, because the next double down then has a finer spacing. -/
def interval (m : Nat) (narrowBelow : Bool) : Nat × Nat :=
  (if narrowBelow then 4 * m - 1 else 4 * m - 2, 4 * m + 2)

def readsBack (m : Nat) (q : Int) (narrowBelow : Bool) (c : Nat) (j : Int) : Bool :=
  let (low, high) := interval m narrowBelow
  let above := compareScaled c j low (q - 2)
  let below := compareScaled c j high (q - 2)
  if m % 2 = 0 then above != .lt && below != .gt
  else above == .gt && below == .lt

def onGrid (m : Nat) (q : Int) (narrowBelow : Bool) (j : Int) : Option Nat :=
  let c := (m * Nat.pow 2 q.toNat * Nat.pow 10 (-j).toNat) /
    (Nat.pow 2 (-q).toNat * Nat.pow 10 j.toNat)
  let lowOk := readsBack m q narrowBelow c j
  let highOk := readsBack m q narrowBelow (c + 1) j
  if lowOk && highOk then
    match compareScaled (2 * c + 1) j (2 * m) q with
    | .gt => some c
    | .lt => some (c + 1)
    | .eq => some (if c % 2 = 0 then c else c + 1)
  else if lowOk then some c
  else if highOk then some (c + 1)
  else none

/-- Tries grids with `n, n + 1, …` significant digits; the fuel reaches 17 digits, which
always hold a point that reads back, so the last case is never taken. -/
def search (m : Nat) (q : Int) (narrowBelow : Bool) (k : Int) : Nat → Nat → Decimal
  | 0, n =>
    ⟨(m * Nat.pow 2 q.toNat * Nat.pow 10 (n - k).toNat) /
      (Nat.pow 2 (-q).toNat * Nat.pow 10 (k - n).toNat), k - n⟩
  | fuel + 1, n =>
    match onGrid m q narrowBelow (k - n) with
    | some c => ⟨c, k - n⟩
    | none => search m q narrowBelow k fuel (n + 1)

end Shortest

def Binary64.shortest (x : Binary64) : Decimal :=
  let m := x.significand
  if m = 0 then ⟨0, 0⟩
  else
    let q := x.exponent
    let narrowBelow := x.fractionField = 0 && x.exponentField > 1
    (Shortest.search m q narrowBelow (Shortest.decimalLength m q) 17 1).trim

end TemplateMacro
