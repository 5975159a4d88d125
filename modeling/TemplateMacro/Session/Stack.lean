import TemplateMacro.Render.Guard
/-!
Call-stack sessions: a small language of operations on a call stack and its depth guard, run
one after another, each reporting its answer, the stack after it and its own log records. An
`enter` runs its inner operations with the macro pushed, and may end by raising, which the
session catches outside the entered region. An operation reports popping an empty stack and
exceeding the depth limit as its answer; any other fault stops the whole session.
-/

namespace TemplateMacro

inductive StackOp
  | push (name : String)
  | pop
  | drain
  | truncate (depth : Scalar)
  | depth
  | size
  | describe
  | check (name : String) (site : Site)
  | enter (name : String) (site : Site) (inner : List StackOp) (raise : Bool)
deriving Repr

inductive StackAnswer
  | nothing
  | name (s : String)
  | count (n : Nat)
  | text (s : String)
deriving Repr

/-- The report of one operation: its answer or fault, the stack inside an entered region and
the reports of the operations run there, whether the region ended by raising, the stack after
the operation, and the operation's own log records. -/
structure StackReport where
  result : Except Fault StackAnswer
  inside : Option (List String) := none
  inner : List StackReport := []
  raised : Bool := false
  names : List String
  logs : List LogRecord := []

namespace StackOp

def reported : Fault → Bool
  | .popEmpty | .depthExceeded .. => true
  | _ => false

/-- Runs `action` with an empty log, returning its outcome and the records it wrote; a fault
that is not `reported` stops the session. -/
def isolated {α : Type} (action : RenderM α) : RenderM (Except Fault α × List LogRecord) := do
  modify fun st => { st with logs := [] }
  let r ← tryCatch (do return Except.ok (← action)) fun f =>
    if reported f then pure (Except.error f) else throw f
  return (r, (← get).logs)

/-- Cuts the stack as a slice from `d` is deleted: nothing deletes every name, an integer
(or boolean) `d` keeps the first `d` names or drops the last `-d`, and any other kind fails. -/
def cutAt (d : Scalar) : RenderM Unit :=
  match d, d.integer? with
  | .null, _ => RenderM.modifyStack (CallStack.truncate 0)
  | _, some k => RenderM.modifyStack (CallStack.truncate k)
  | _, none => throw (.badSlice d)

def popName : RenderM StackAnswer := do
  match (← RenderM.stack).back? with
  | some x => do
    RenderM.modifyStack Array.pop
    pure (.name x)
  | none => throw .popEmpty

mutual

def run (limit : Scalar) : StackOp → RenderM StackReport
  | enter x site inner raise => do
    let (r, logs) ← isolated (Guard.check limit x site)
    match r with
    | .error f => return { result := .error f, names := (← RenderM.stack).toList, logs }
    | .ok () =>
      let depth ← RenderM.depth
      RenderM.pushName x
      let inside := (← RenderM.stack).toList
      let reports ← runAll limit inner
      RenderM.modifyStack (CallStack.truncate depth)
      return { result := .ok .nothing, inside := some inside, inner := reports, raised := raise,
               names := (← RenderM.stack).toList, logs }
  | op => do
    let (r, logs) ← isolated (match op with
      | push x => do RenderM.pushName x; pure .nothing
      | pop => popName
      | drain => do RenderM.setStack #[]; pure .nothing
      | truncate d => do cutAt d; pure .nothing
      | depth | size => do pure (.count (← RenderM.depth))
      | describe => do pure (.text (CallStack.describe (← RenderM.stack)))
      | check x site => do Guard.check limit x site; pure .nothing
      | enter .. => pure .nothing)
    return { result := r, names := (← RenderM.stack).toList, logs }

def runAll (limit : Scalar) : List StackOp → RenderM (List StackReport)
  | [] => pure []
  | op :: ops => do
    let r ← run limit op
    let rs ← runAll limit ops
    pure (r :: rs)

end

end StackOp

def runStackSession (limit : Scalar) (names : List String) (ops : List StackOp) :
    Except Fault (List StackReport) :=
  ((StackOp.runAll limit ops).run { stack := names.toArray }).1

end TemplateMacro
