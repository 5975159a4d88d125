import TemplateMacro.Render.Node
/-!
Engines. An engine holds settings, a registry and the `tick` count shared by everything it
runs. Defining a macro registers it with the engine's settings (or per-macro changes to them);
rendering a template, calling a macro directly or rendering without a registry each start from
a root store of values and report the outcome, the output, the final root store, the depth of
the call stack and the log.
-/

namespace TemplateMacro

structure Engine where
  settings : Settings := {}
  registry : Registry := {}
  ticks : Nat := 0

structure RunReport where
  result : Except Fault Bool
  output : String
  values : Store
  depth : Nat
  logs : List LogRecord

namespace Engine

/-- Defines a macro from parameter specs: with the settings changed by `changes` when
`configure` holds, and with the unset configuration otherwise. -/
def define (e : Engine) (name : String) (specs : List ParamSpec) (body : Option Node)
    (changes : List SettingChange) (configure : Bool) :
    Except Fault Definition × List LogRecord × Engine :=
  match Definition.create name specs body with
  | .error f => (.error f, [], e)
  | .ok d =>
    let config := if configure then MacroConfig.ofSettings (e.settings.changeAll changes)
      else MacroConfig.unset
    let (registry, logs) := e.registry.register ⟨d, config⟩
    (.ok d, logs, { e with registry })

def run (e : Engine) (values : Store) (logs : List LogRecord) (action : RenderM Bool) :
    RunReport × Engine :=
  let (r, st) := action.run { chain := { root := values }, logs, ticks := e.ticks }
  ({ result := r, output := st.output, values := st.chain.root, depth := st.stack.size,
     logs := st.logs }, { e with ticks := st.ticks })

def env (e : Engine) (template : Scalar) : RenderEnv :=
  { registry := some e.registry, template }

def render (e : Engine) (ast : Option Node) (values : Store) (template : Scalar) :
    RunReport × Engine :=
  let name := if template.truthy then template.text else "<anonymous>"
  e.run values [⟨.debug, "Rendering " ++ name⟩] do
    (e.env template).renderTemplate ast
    pure true

def renderBare (e : Engine) (ast : Option Node) (values : Store) (template : Scalar) :
    RunReport × Engine :=
  e.run values [] do
    ({ template } : RenderEnv).renderTemplate ast
    pure true

/-- Calls a macro directly. With an explicit body the macro must exist, or the call is refused,
and the body replaces the site's body; otherwise an unknown macro writes its call source. -/
def call (e : Engine) (name : String) (site : CallSite) (explicit : Option (Option Node))
    (values : Store) (template : Scalar) : Except Refusal (RunReport × Engine) :=
  let env := e.env template
  match explicit with
  | none => .ok (e.run values [] (env.call name site))
  | some body =>
    match e.registry.find? name with
    | some m => .ok (e.run values [] do
        m.invoke template (env.render RenderEnv.budget) site body
        pure true)
    | none => .error .bodyForUnknownMacro

end Engine

end TemplateMacro
