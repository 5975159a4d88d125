import TemplateMacro.Render.Invoke
/-!
Rendering template trees. Text and literals write themselves; a reference writes its value, or
renders it when it is a node, or writes `$name` when the name resolves to nothing; an
application writes its value; a block renders its children in order; a conditional renders one
branch by the truth of its test; an assignment changes the chain and writes nothing. A macro
call invokes the macro it names, or writes its own source back when no registry knows it. Each
nested render spends one unit of a depth budget; a render that runs out stops with
`Fault.exhausted`.
-/

namespace TemplateMacro

/-- What a render reads and never changes: the registry, if any, and the template name. -/
structure RenderEnv where
  registry : Option Registry := none
  template : Scalar := .null

def writeCallSource (renderIn : Node → RenderM Unit) (name : String) (site : CallSite) :
    RenderM Unit := do
  let args := Node.sourceList site.args
  match site.body with
  | none => RenderM.write ("#" ++ name ++ "(" ++ args ++ ")")
  | some b => do
    RenderM.write ("#@" ++ name ++ "(" ++ args ++ ")")
    renderIn b
    RenderM.write "#end"

namespace RenderEnv

def lookup (env : RenderEnv) (name : String) : Option Macro :=
  env.registry.bind (·.find? name)

def render (env : RenderEnv) : Nat → Node → RenderM Unit
  | 0, _ => throw .exhausted
  | fuel + 1, n =>
    match n with
    | .text s => RenderM.write s
    | .lit c => RenderM.writeValue (.scalar c)
    | .ref x => do
      match (← RenderM.chain).get x Value.null with
      | .scalar .null => RenderM.write ("$" ++ x)
      | .node m => render env fuel m
      | v => RenderM.writeValue v
    | .apply f args => do RenderM.writeValue (← RenderM.evalHere (.apply f args))
    | .block cs => cs.forM (render env fuel)
    | .cond test yes no => do
      if (← RenderM.evalHere test).truthy then render env fuel yes
      else match no with
        | some e => render env fuel e
        | none => pure ()
    | .assign x e => do
      let v ← RenderM.evalHere e
      RenderM.modifyChain (·.assign x v)
    | .call name args body line column =>
      let site : CallSite := ⟨args, body, line, column⟩
      match env.lookup name with
      | some m => m.invoke env.template (render env fuel) site none
      | none => writeCallSource (render env fuel) name site
    | .const c => throw (.notRenderable c)
    | .probeStack => do RenderM.write ("[" ++ "->".intercalate (← RenderM.stack).toList ++ "]")
    | .probeDepth => do RenderM.write (toString (← RenderM.depth))
    | .probeTemplate => RenderM.write env.template.text
    | .probeBound x => do
      RenderM.write (if (← RenderM.chain).contains x then "true" else "false")
    | .tagged _ m => render env fuel m

def budget : Nat := 1000000

def renderTemplate (env : RenderEnv) : Option Node → RenderM Unit
  | some n => env.render budget n
  | none => pure ()

/-- Calls the macro `name` for one call site: `true` after an invocation, `false` after writing
the source of a call no registry knows. -/
def call (env : RenderEnv) (name : String) (site : CallSite) : RenderM Bool :=
  match env.lookup name with
  | some m => do
    m.invoke env.template (env.render budget) site none
    pure true
  | none => do
    writeCallSource (env.render budget) name site
    pure false

end RenderEnv

end TemplateMacro
