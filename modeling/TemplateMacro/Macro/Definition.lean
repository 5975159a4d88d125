import TemplateMacro.Fault
/-!
Macro definitions. A definition has a name, a name slot, the parameters after it and a body.
A parameter may carry a default expression; the parameters without one are required. Positions
of parameters count from 1, the name slot being position 0. A definition built slot by slot
keeps tuples as written: one in the name slot is kept, one after it stops the definition.
-/

namespace TemplateMacro

/-- A parameter: its name and an optional default expression. -/
structure Parameter where
  name : String
  default : Option Node := none
deriving Repr

def Parameter.hasDefault (p : Parameter) : Bool := p.default.isSome

/-- A parameter as written in a definition: a parameter given by name or whole, a tuple of a
name and a default, or a tuple of another number of parts. -/
inductive ParamSpec
  | param (p : Parameter)
  | pair (p : Parameter)
  | tuple (length : Nat)
deriving Repr

def ParamSpec.toParameter : ParamSpec → Except Fault Parameter
  | .param p | .pair p => .ok p
  | .tuple n => .error (if n < 2 then .pairTooShort n else .pairTooLong)

/-- A slot of a definition built slot by slot: a parameter, or a tuple kept as written. A tuple
answers no question a parameter answers. -/
inductive Slot
  | param (p : Parameter)
  | tuple
deriving Repr

def ParamSpec.toSlot : ParamSpec → Slot
  | .param p => .param p
  | .pair _ | .tuple _ => .tuple

def Slot.toParameter : Slot → Except Fault Parameter
  | .param p => .ok p
  | .tuple => .error .tupleSlot

def Slot.hasDefault : Slot → Except Fault Bool
  | .param p => .ok p.hasDefault
  | .tuple => .error .tupleSlot

structure Definition where
  name : String
  nameSlot : Slot
  params : List Parameter
  body : Option Node := none
deriving Repr

namespace Definition

def create (name : String) (specs : List ParamSpec) (body : Option Node) :
    Except Fault Definition := do
  let params ← specs.mapM ParamSpec.toParameter
  pure { name, nameSlot := .param { name }, params, body }

/-- A definition built slot by slot from specs as written, with no name slot added: the first
spec fills the name slot and tuples stay tuples. There must be a first slot, and every slot
after it must hold a parameter. -/
def ofSlots (name : String) (specs : List ParamSpec) (body : Option Node) :
    Except Fault Definition :=
  match specs.map ParamSpec.toSlot with
  | [] => .error (.noNameSlot name)
  | s :: rest => do
    let params ← rest.mapM Slot.toParameter
    pure { name, nameSlot := s, params, body }

def accepted (d : Definition) : Nat := d.params.length

def minRequired (d : Definition) : Nat := (d.params.filter (!·.hasDefault)).length

def slotDefaults (d : Definition) : Except Fault (List Bool) := do
  return (← d.nameSlot.hasDefault) :: d.params.map (·.hasDefault)

def paramNames (d : Definition) : List String := d.params.map (·.name)

/-- The parameter at position `i`, counting the first after the name slot as 1. The position
is compared with 1 and with the number accepted as plain values compare; one outside that range
is missing, and one inside it must be a whole number. -/
def parameterAt (d : Definition) (i : Scalar) : Except Fault Parameter := do
  let missing := Fault.noParameter d.name i d.accepted
  unless (← Comparison.le.apply (.int 1) i) do throw missing
  unless (← Comparison.le.apply i (.int d.accepted)) do throw missing
  match i.integer? with
  | none => throw (.badIndex "tuple" i)
  | some k =>
    match d.params[(k - 1).toNat]? with
    | some p => pure p
    | none => throw missing

/-- The parameters at the positions `is`, each found or missing; a position that cannot be
compared, or is no whole number, stops the whole lookup. -/
def parametersAt (d : Definition) (is : List Scalar) :
    Except Fault (List (Except Fault Parameter)) :=
  is.mapM fun i =>
    match d.parameterAt i with
    | .error (.noParameter m j a) => .ok (.error (.noParameter m j a))
    | r => r.map .ok

end Definition

def arityWords (name : String) (few : Bool) (wanted given : String) : String :=
  "VM #" ++ name ++ ": too " ++ (if few then "few" else "many") ++
    " arguments to macro. Wanted " ++ wanted ++ " got " ++ given

/-- The diagnostic for a call of macro `name` that wants `wanted` arguments and is given
`given`: too few only when fewer are given than wanted. -/
def arityMessage (name : String) (wanted given : Int) : String :=
  arityWords name (decide (wanted > given)) (toString wanted) (toString given)

/-- The arity diagnostic for counts given as plain values: too few when `wanted > given` as
plain values compare, which fails for kinds with no order. -/
def arityMessageOf (name : String) (wanted given : Scalar) : Except Fault String := do
  return arityWords name (← Comparison.gt.apply wanted given) wanted.text given.text

end TemplateMacro
