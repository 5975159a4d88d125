import TemplateMacro.Render.State
import TemplateMacro.Location
/-!
The call stack and its depth guard. The stack lists the macros being rendered, outermost first.
Entering a macro first checks the limit: with the stack already at the limit, the guard logs
the depth fault, empties the stack and stops. Otherwise it pushes the name, runs the body and
cuts the stack back to its depth before the push on every way out.
-/

namespace TemplateMacro

namespace CallStack

/-- Keeps the first `d` names; a negative `d` counts from the end. The names past the cut are
popped, so an unshared stack is cut in place. -/
def truncate (d : Int) (names : Array String) : Array String :=
  if 0 ≤ d then names.shrink d.toNat else names.shrink (names.size - d.natAbs)

def describe (names : Array String) : String :=
  "CallStack(" ++ Text.quote ("->".intercalate names.toList) ++ ")"

end CallStack

namespace Guard

/-- Stops with a depth fault unless the limit is at most 0 or the stack's depth is below it,
both compared as plain values compare; the fault is logged and the stack emptied first. A limit
of a kind with no order against integers stops with that comparison's fault. -/
def check (limit : Scalar) (name : String) (site : Site) : RenderM Unit := do
  if (← RenderM.ofExcept (Comparison.le.apply limit (.int 0))) then return
  if (← RenderM.ofExcept (Comparison.lt.apply (.int (← RenderM.depth)) limit)) then return
  let f := Fault.depthExceeded limit name (← RenderM.stack).toList site.recorded
  RenderM.log .error f.message
  RenderM.setStack #[]
  throw f

def enter {α : Type} (limit : Scalar) (name : String) (site : Site) (body : RenderM α) :
    RenderM α := do
  check limit name site
  let depth ← RenderM.depth
  RenderM.pushName name
  RenderM.ensuring body (RenderM.modifyStack (CallStack.truncate depth))

end Guard

end TemplateMacro
