import TemplateMacro.Render.Bind
/-!
Macro invocation. An invocation opens a scope of the macro's visibility above the caller,
binds the block body under the macro's body name, binds the arguments, and renders the
macro's body under the depth guard. A fault from the body that is no macro error is logged and
wrapped with the macro's name and call site; macro errors pass unchanged. Faults from binding
arise before the guard and are not wrapped by this invocation. The body renderer is a
parameter, so the same steps serve every renderer.
-/

namespace TemplateMacro

def wrapFaults (name location : String) (action : RenderM Unit) : RenderM Unit :=
  tryCatch action fun f =>
    if f.isMacroError then throw f
    else do
      RenderM.log .error (Fault.wrappedMessage name location)
      throw (.wrapped name location f)

namespace Macro

/-- Renders macro `m` for one call site in a template named `template`; `explicit`, when
given, replaces the site's body, and `renderIn` renders a node in the current chain. -/
def invoke (template : Scalar) (renderIn : Node → RenderM Unit) (m : Macro)
    (site : CallSite) (explicit : Option Node) : RenderM Unit := do
  let body := explicit.orElse fun _ => site.body
  let loc : Site := .position ⟨template, site.line, site.column⟩
  let caller ← RenderM.chain
  RenderM.inScope m.config.visibility do
    if let some b := body then
      RenderM.modifyChain (·.put m.config.bodyReference (Value.ofNode b))
    bindArguments caller m.definition site.args m.config.strict loc
    Guard.enter (.int m.config.maxDepth) m.name loc do
      wrapFaults m.name loc.describe do
        match m.definition.body with
        | some b => renderIn b
        | none => pure ()

end Macro

end TemplateMacro
