import TemplateMacro.Number.Shortest
/-!
Decimal layout: how the shortest digits of a double become text. A `NumberLayout` fixes the
choices a number format makes (which decimal exponents are written positionally, whether a
whole number keeps a `.0`, the exponent's mark, sign and width, and the words for the values
without digits); `NumberLayout.write` applies them to a double.
-/

namespace TemplateMacro

/-- The choices of a number format. The decimal exponent of a number is that of its leading
digit: `1.5` has exponent `0` and `0.015` has exponent `-2`. -/
structure NumberLayout where
  positionalFrom : Int
  positionalBelow : Int
  pointZero : Bool
  exponentMark : String
  exponentPlus : Bool
  exponentWidth : Nat
  notANumber : String
  infinity : String

namespace NumberLayout

def digitsOf (n : Nat) : List Char := Nat.toDigits 10 n

def positional (f : NumberLayout) (ds : List Char) (e : Int) : String :=
  if e < 0 then
    "0." ++ String.ofList (List.replicate ((-e).toNat - 1) '0' ++ ds)
  else
    let whole := (e + 1).toNat
    let front := ds.take whole ++ List.replicate (whole - ds.length) '0'
    let rest := ds.drop whole
    if rest.isEmpty then String.ofList front ++ (if f.pointZero then ".0" else "")
    else String.ofList front ++ "." ++ String.ofList rest

def scientific (f : NumberLayout) (ds : List Char) (e : Int) : String :=
  let mantissa := match ds with
    | [] => "0"
    | [d] => d.toString
    | d :: rest => String.ofList (d :: '.' :: rest)
  let expDigits := digitsOf e.natAbs
  let sign := if e < 0 then "-" else if f.exponentPlus then "+" else ""
  mantissa ++ f.exponentMark ++ sign ++
    String.ofList (List.replicate (f.exponentWidth - expDigits.length) '0' ++ expDigits)

def decimal (f : NumberLayout) (d : Decimal) : String :=
  let ds := digitsOf d.digits
  let e := d.exponent + ds.length - 1
  if f.positionalFrom ≤ e ∧ e < f.positionalBelow then f.positional ds e
  else f.scientific ds e

def write (f : NumberLayout) (x : Binary64) : String :=
  if x.isNaN then f.notANumber
  else
    let sign := if x.negative then "-" else ""
    if x.isInfinite then sign ++ f.infinity
    else sign ++ f.decimal x.shortest

end NumberLayout

end TemplateMacro
