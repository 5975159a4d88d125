import TemplateMacro.Number.Layout
import TemplateMacro.Text.Quoted
/-!
Scalars: the plain values of the template language (nothing, booleans, integers of any size,
doubles and strings), with their three written forms (as output, quoted, and as template
source), their truth values, the loose equality that compares numbers across kinds, and the
order: numbers of every kind by their exact values, strings by code points, and nothing else.
-/

namespace TemplateMacro

inductive Scalar
  | null
  | bool (b : Bool)
  | int (n : Int)
  | float (x : Binary64)
  | str (s : String)
deriving DecidableEq, Repr

namespace Scalar

/-- Numbers are written with their shortest digits: positionally when the decimal exponent is
from -4 to 15, with `.0` on whole numbers, and otherwise as `1.5e+16` or `1e-07`. -/
def numberLayout : NumberLayout := ⟨-4, 16, true, "e", true, 2, "nan", "inf"⟩

def digitLimit : Nat := 4300

def tooLong : Scalar → Bool
  | int n => decide (Nat.pow 10 digitLimit ≤ n.natAbs)
  | _ => false

def text : Scalar → String
  | null => "None"
  | bool b => if b then "True" else "False"
  | int n => toString n
  | float x => numberLayout.write x
  | str s => s

def quoted : Scalar → String
  | str s => Text.quote s
  | c => c.text

def source : Scalar → String
  | str s => "\"" ++ s ++ "\""
  | bool b => if b then "true" else "false"
  | c => c.text

def truthy : Scalar → Bool
  | null => false
  | bool b => b
  | int n => n != 0
  | float x => !x.isZero
  | str s => !s.isEmpty

def kindName : Scalar → String
  | null => "NoneType"
  | bool _ => "bool"
  | int _ => "int"
  | float _ => "float"
  | str _ => "str"

def integer? : Scalar → Option Int
  | bool b => some (if b then 1 else 0)
  | int n => some n
  | _ => none

/-- Loose equality: numbers compare by value across booleans, integers and doubles (NaN equals
nothing), strings by their characters, and nothing equals only nothing. -/
def looseEq : Scalar → Scalar → Bool
  | null, null => true
  | str a, str b => a == b
  | float x, float y => Binary64.sameNumber x y
  | float x, c => match c.integer? with
    | some n => x.eqInt n
    | none => false
  | c, float x => match c.integer? with
    | some n => x.eqInt n
    | none => false
  | a, b => match a.integer?, b.integer? with
    | some m, some n => m == n
    | _, _ => false

def place? : Scalar → Option Binary64.Place
  | float x => some x.place
  | c => c.integer?.map Binary64.Place.ofInt

/-- How two scalars are ordered: `some (some o)` for two numbers or two strings, `some none`
when a NaN takes part, and `none` when their kinds have no order. -/
def order? (a b : Scalar) : Option (Option Ordering) :=
  match a, b with
  | str s, str t => some (some (compare s t))
  | _, _ => match a.place?, b.place? with
    | some p, some q => some (p.compare? q)
    | _, _ => none

end Scalar

/-- An order comparison, written as its operator in messages. -/
inductive Comparison
  | lt
  | le
  | gt
  | ge
deriving DecidableEq, Repr

namespace Comparison

def symbol : Comparison → String
  | lt => "<"
  | le => "<="
  | gt => ">"
  | ge => ">="

def holds : Comparison → Ordering → Bool
  | lt, o => o == .lt
  | le, o => o != .gt
  | gt, o => o == .gt
  | ge, o => o != .lt

def test? (op : Comparison) (a b : Scalar) : Option Bool :=
  (a.order? b).map fun o => (o.map op.holds).getD false

end Comparison

end TemplateMacro
