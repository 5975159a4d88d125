import TemplateMacro.Syntax.Node
/-!
Values: what expressions evaluate to and what names are bound to. A value is a scalar or a
template node; nodes are values too, so a block passed as an argument is bound as the block
itself and rendered wherever it is referenced.
-/

namespace TemplateMacro

/-- A runtime value: a scalar, or a node kept as it is. -/
inductive Value
  | scalar (c : Scalar)
  | node (n : Node)
deriving Repr, BEq

namespace Value

def null : Value := .scalar .null

def ofNode : Node → Value
  | .const c => .scalar c
  | .tagged t n =>
    match ofNode n with
    | .scalar c => .scalar c
    | .node _ => .node (.tagged t n)
  | n => .node n

def text : Value → String
  | scalar c => c.text
  | node n => n.describe

def truthy : Value → Bool
  | scalar c => c.truthy
  | node _ => true

/-- Loose equality of values: scalars by `Scalar.looseEq`, nodes as trees, so that nodes
tagged with their occurrences are equal when they come from the same occurrence. -/
def looseEq : Value → Value → Bool
  | scalar a, scalar b => a.looseEq b
  | node m, node n => m == n
  | _, _ => false

end Value

end TemplateMacro
