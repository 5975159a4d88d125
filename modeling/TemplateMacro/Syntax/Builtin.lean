/-!
The built-in functions that templates apply to argument expressions, with the names under
which templates call them and the parameters each takes.
-/

namespace TemplateMacro

/-- A built-in function. `fail` stops the render with a plain failure and `macroFail` with a
macro error; `tick` counts its own calls. -/
inductive Builtin
  | add | sub | gt | lt | eq | not | concat | len | identity | fail | macroFail | tick
deriving DecidableEq, Repr

namespace Builtin

def all : List Builtin :=
  [add, sub, gt, lt, eq, not, concat, len, identity, fail, macroFail, tick]

def name : Builtin → String
  | add => "add" | sub => "sub" | gt => "gt" | lt => "lt" | eq => "eq" | not => "not"
  | concat => "concat" | len => "len" | identity => "identity" | fail => "fail"
  | macroFail => "macro_fail" | tick => "tick"

def ofName? (s : String) : Option Builtin := all.find? (·.name == s)

def callName : Builtin → String
  | not => "not_"
  | len => "length"
  | f => f.name

def required : Builtin → List String
  | add | sub | gt | lt | eq => ["a", "b"]
  | not | len | identity => ["a"]
  | concat | fail | macroFail | tick => []

def optional : Builtin → Option Nat
  | concat => none
  | fail | macroFail => some 1
  | add | sub | gt | lt | eq | not | len | identity | tick => some 0

end Builtin

end TemplateMacro
