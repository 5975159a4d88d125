import TemplateMacro.Macro.Definition
import TemplateMacro.Scope.Chain
/-!
Macros and their registry. A macro is a definition with the configuration it was set up with:
strict or lenient arity, the visibility of its scope, the name its block body is bound to, and
its depth limit. Engine settings give the configuration; the registry keeps one macro per name.
-/

namespace TemplateMacro

structure Settings where
  strict : Bool := false
  isolated : Bool := false
  maxDepth : Int := 20
  bodyReference : String := "bodyContent"
deriving Repr

inductive SettingChange
  | strict (b : Bool)
  | isolated (b : Bool)
  | maxDepth (d : Int)
  | bodyReference (s : String)
deriving Repr

namespace Settings

def change (s : Settings) : SettingChange → Settings
  | .strict b => { s with strict := b }
  | .isolated b => { s with isolated := b }
  | .maxDepth d => { s with maxDepth := d }
  | .bodyReference r => { s with bodyReference := r }

def changeAll (s : Settings) (cs : List SettingChange) : Settings := cs.foldl change s

end Settings

/-- How a macro binds arguments, scopes its body and limits nesting. A depth limit of zero or
less means no limit. -/
structure MacroConfig where
  strict : Bool
  visibility : Visibility
  bodyReference : String
  maxDepth : Int
deriving Repr

namespace MacroConfig

def unset : MacroConfig := ⟨false, .inherited, "bodyContent", 0⟩

def ofSettings (s : Settings) : MacroConfig :=
  ⟨s.strict, if s.isolated then .isolated else .inherited, s.bodyReference, s.maxDepth⟩

end MacroConfig

structure Macro where
  definition : Definition
  config : MacroConfig
deriving Repr

namespace Macro

def name (m : Macro) : String := m.definition.name

def describe (m : Macro) : String :=
  "<MacroProxy #" ++ m.name ++ " args=" ++ toString m.definition.accepted ++ ">"

end Macro

/-- The macros of an engine, one per name, in order of first definition. -/
structure Registry where
  macros : List Macro := []
deriving Repr

namespace Registry

def find? (r : Registry) (name : String) : Option Macro := r.macros.find? (·.name == name)

def contains (r : Registry) (name : String) : Bool := (r.find? name).isSome

def insert (r : Registry) (m : Macro) : Registry :=
  if r.contains m.name then ⟨r.macros.map fun old => if old.name == m.name then m else old⟩
  else ⟨r.macros ++ [m]⟩

def register (r : Registry) (m : Macro) : Registry × List LogRecord :=
  let redefined : List LogRecord :=
    if r.contains m.name then [⟨.debug, "Redefining macro: #" ++ m.name⟩] else []
  (r.insert m, redefined ++
    [⟨.debug, "Registered macro: #" ++ m.name ++ " (args=" ++ toString m.definition.accepted ++ ")"⟩])

def size (r : Registry) : Nat := r.macros.length

def names (r : Registry) : List String :=
  (r.macros.map (·.name)).mergeSort fun a b => decide (a ≤ b)

end Registry

end TemplateMacro
