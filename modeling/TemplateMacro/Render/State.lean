import TemplateMacro.Macro.Registry
/-!
The state of a render and the monad renders run in. The state holds the scope chain, the stack
of active macro names, the output written so far, the log and the number of `tick` calls. A
fault stops the computation but keeps the state, so the output and log written before it stay
visible.
-/

namespace TemplateMacro

structure RenderState where
  chain : Chain := {}
  stack : Array String := #[]
  output : String := ""
  logs : List LogRecord := []
  ticks : Nat := 0
deriving Repr

abbrev RenderM := ExceptT Fault (StateM RenderState)

namespace RenderM

def run {α : Type} (m : RenderM α) (st : RenderState) : Except Fault α × RenderState :=
  (ExceptT.run m).run st

def write (s : String) : RenderM Unit :=
  modify fun st => { st with output := st.output ++ s }

def log (level : LogLevel) (message : String) : RenderM Unit :=
  modify fun st => { st with logs := st.logs ++ [⟨level, message⟩] }

def chain : RenderM Chain := do return (← get).chain

def modifyChain (f : Chain → Chain) : RenderM Unit :=
  modify fun st => { st with chain := f st.chain }

def stack : RenderM (Array String) := do return (← get).stack

def depth : RenderM Nat := do return (← get).stack.size

def setStack (names : Array String) : RenderM Unit :=
  modify fun st => { st with stack := names }

def modifyStack (f : Array String → Array String) : RenderM Unit :=
  modify fun st => { st with stack := f st.stack }

def pushName (name : String) : RenderM Unit := modifyStack (·.push name)

def ofExcept {α : Type} : Except Fault α → RenderM α
  | .ok a => pure a
  | .error f => throw f

def ensuring {α : Type} (action : RenderM α) (cleanup : RenderM Unit) : RenderM α :=
  tryCatch (do let r ← action; cleanup; pure r) fun f => do cleanup; throw f

def inScope {α : Type} (vis : Visibility) (action : RenderM α) : RenderM α := do
  modifyChain (·.push vis)
  ensuring action (modifyChain Chain.pop)

end RenderM

end TemplateMacro
