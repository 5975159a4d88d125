import TemplateMacro.Render.Eval
import TemplateMacro.Render.Guard
/-!
Argument binding. A call's arguments are evaluated in the caller's chain and bound, in order,
to the parameters in the innermost scope; a parameter without an argument takes its default,
evaluated in the caller's chain too. A strict macro stops with an arity fault on too many
arguments (before evaluating any) or at the first missing parameter without a default (after
binding those before it). A lenient macro logs the same diagnostics instead and stops binding
at the first missing parameter without a default.
-/

namespace TemplateMacro

namespace Binding

def diagnostic (d : Definition) (given : Nat) (site : Site) : String :=
  arityMessage d.name d.accepted given ++ " at " ++ site.describe

def bindParams (caller : Chain) (d : Definition) (strict : Bool) (site : Site) (given : Nat) :
    List Node → List Parameter → RenderM Unit
  | _, [] => pure ()
  | arg :: args, p :: ps => do
    let v ← RenderM.evalIn caller arg
    RenderM.modifyChain (·.put p.name v)
    bindParams caller d strict site given args ps
  | [], p :: ps =>
    match p.default with
    | some e => do
      let v ← RenderM.evalIn caller e
      RenderM.modifyChain (·.put p.name v)
      bindParams caller d strict site given [] ps
    | none =>
      if strict then throw (.arity .tooFew d.name (.int d.minRequired) (.int given) site.recorded)
      else RenderM.log .debug (diagnostic d given site)

end Binding

def bindArguments (caller : Chain) (d : Definition) (args : List Node) (strict : Bool)
    (site : Site) : RenderM Unit := do
  let given := args.length
  if given > d.accepted then
    if strict then throw (.arity .tooMany d.name (.int d.accepted) (.int given) site.recorded)
    else RenderM.log .debug (Binding.diagnostic d given site)
  Binding.bindParams caller d strict site given args d.params

end TemplateMacro
