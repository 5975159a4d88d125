import TemplateMacro.Render.State
/-!
Evaluation of expressions. Literals and plain scalars evaluate to themselves, a reference to
the value its name resolves to (nothing when unresolved), and an application to its built-in
function applied to the arguments' values, evaluated left to right. Every other node evaluates
to itself, with its occurrence tag. The only effect of evaluation is the `tick` counter.
-/

namespace TemplateMacro

abbrev EvalM := ExceptT Fault (StateM Nat)

def Value.written : Value → Except Fault String
  | .scalar c => if c.tooLong then .error .integerTooLong else .ok c.text
  | v => .ok v.text

namespace Builtin

def textArg (v : Value) : EvalM String :=
  match v.written with
  | .ok s => pure s
  | .error f => throw f

def integerArg (f : Builtin) : Value → EvalM Int
  | .scalar (.int n) => pure n
  | _ => throw (.notInteger f)

def apply (f : Builtin) (args : List Value) : EvalM Value :=
  match f, args with
  | add, [a, b] => do
    let m ← integerArg add a
    let n ← integerArg add b
    pure (.scalar (.int (m + n)))
  | sub, [a, b] => do
    let m ← integerArg sub a
    let n ← integerArg sub b
    pure (.scalar (.int (m - n)))
  | gt, [a, b] => do
    let m ← integerArg gt a
    let n ← integerArg gt b
    pure (.scalar (.bool (decide (m > n))))
  | lt, [a, b] => do
    let m ← integerArg lt a
    let n ← integerArg lt b
    pure (.scalar (.bool (decide (m < n))))
  | eq, [a, b] => pure (.scalar (.bool (a.looseEq b)))
  | not, [a] => pure (.scalar (.bool (!a.truthy)))
  | concat, vs => do return .scalar (.str (String.join (← vs.mapM textArg)))
  | len, [a] => do return .scalar (.int (← textArg a).length)
  | identity, [a] => pure a
  | fail, [] => throw (.failed "failure")
  | fail, [m] => do throw (.failed (← textArg m))
  | macroFail, [] => throw (.raised "macro failure")
  | macroFail, [m] => do throw (.raised (← textArg m))
  | tick, [] => do
    modify (· + 1)
    return .scalar (.int (← get))
  | f, vs => throw (.wrongArgCount f vs.length)

end Builtin

namespace Node

mutual

def eval (c : Chain) : Node → EvalM Value
  | lit k => pure (.scalar k)
  | const k => pure (.scalar k)
  | ref x => pure (c.get x Value.null)
  | apply f args => do f.apply (← evalList c args)
  | tagged t n => if n.isExpression then eval c n else pure (.node (.tagged t n))
  | n => pure (.node n)

def evalList (c : Chain) : List Node → EvalM (List Value)
  | [] => pure []
  | e :: es => do
    let v ← eval c e
    let vs ← evalList c es
    pure (v :: vs)

end

end Node

namespace RenderM

def evalIn (c : Chain) (e : Node) : RenderM Value := do
  let st ← get
  let (r, ticks) := (ExceptT.run (e.eval c)).run st.ticks
  set { st with ticks }
  match r with
  | .ok v => pure v
  | .error f => throw f

def writeValue (v : Value) : RenderM Unit :=
  match v.written with
  | .ok s => write s
  | .error f => throw f

def evalHere (e : Node) : RenderM Value := do evalIn (← chain) e

end RenderM

end TemplateMacro
