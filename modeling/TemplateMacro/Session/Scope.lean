import TemplateMacro.Render.Bind
/-!
Sessions on a caller's store and the scopes above it. A binding session binds a call's arguments
into one new scope. A scope session runs operations at given levels of a fixed chain: level 0
is the root, which is no scope, and negative levels count down from the top.
-/

namespace TemplateMacro

structure BindReport where
  result : Except Fault Unit
  bindings : Store
  logs : List LogRecord

/-- Binds `args` to the parameters of `d` in a scope of visibility `vis` above a caller whose
root store is `values`; the scope starts with the bindings `prebound`. -/
def bindSession (d : Definition) (args : List Node) (strict : Bool) (vis : Visibility)
    (values prebound : Store) (site : Site) : BindReport :=
  let caller : Chain := { root := values }
  let start : Chain := { root := values, scopes := [{ visibility := vis, bindings := prebound }] }
  let (r, st) := (bindArguments caller d args strict site).run { chain := start }
  { result := r, bindings := st.chain.innermost, logs := st.logs }

def evaluate (e : Node) (values : Store) : Except Fault Value :=
  ((ExceptT.run (e.eval { root := values })).run 0).1

inductive ScopeOp
  | get (name : String) (default : Value)
  | contains (name : String)
  | put (name : String) (v : Value)
  | assign (name : String) (v : Value)
  | isBound (name : String)
  | template
  | depth
  | push (name : String)
deriving Repr

inductive ScopeAnswer
  | value (v : Value)
  | flag (b : Bool)
  | nothing
  | count (n : Nat)
deriving Repr

/-- The report of one scope operation: its answer and the stores of all levels after it, the
root first. -/
structure ScopeReport where
  answer : ScopeAnswer
  stores : List Store

/-- Why a whole scope session stops with no reports: a refused operation, or a fault. -/
inductive ScopeStop
  | refused (r : Refusal)
  | failed (f : Fault)

/-- A scope session: the chain of all levels, the shared call stack and the template name. -/
structure ScopeSession where
  chain : Chain
  stack : List String := []
  template : Scalar := .null

namespace ScopeSession

def create (root : Store) (levels : List Visibility) (template : Scalar) : ScopeSession :=
  { chain := { root, scopes := (levels.map fun v => ({ visibility := v } : Scope)).reverse },
    template }

def levels (s : ScopeSession) : Nat := s.chain.scopes.length

def wordMin : Int := -(Nat.pow 2 63 : Int)

/-- The level that index `k` names among the root and the scope levels: from the root up when
`k` is not negative, from the top down when it is, `-1` being the top level. A boolean index
counts as 0 or 1. An index of another kind, one that does not fit a signed machine word, or one
past either end names no level. -/
def levelAt (s : ScopeSession) (k : Scalar) : Except Fault Nat :=
  match k.integer? with
  | none => .error (.badIndex "list" k)
  | some k =>
    let n : Int := s.levels + 1
    let i := if k < 0 then k + n else k
    if k < wordMin ∨ -wordMin ≤ k then .error .oversizedIndex
    else if 0 ≤ i ∧ i < n then .ok i.toNat else .error .noLevel

def step (s : ScopeSession) (k : Nat) : ScopeOp → Except Refusal (ScopeAnswer × ScopeSession)
  | .get x d => .ok (.value ((Chain.upTo s.chain k).get x d), s)
  | .contains x => .ok (.flag ((Chain.upTo s.chain k).contains x), s)
  | .put x v =>
    let view := Chain.upTo s.chain k
    .ok (.nothing, { s with chain := Chain.replaceUpTo s.chain k (view.put x v) })
  | .assign x v =>
    let view := Chain.upTo s.chain k
    .ok (.nothing, { s with chain := Chain.replaceUpTo s.chain k (view.assign x v) })
  | .isBound x =>
    match (Chain.upTo s.chain k).scopes with
    | sc :: _ => .ok (.flag (sc.bindings.contains x), s)
    | [] => .error .rootIsNoScope
  | .template => .ok (.value (.scalar s.template), s)
  | .depth => .ok (.count s.stack.length, s)
  | .push x => .ok (.nothing, { s with stack := s.stack ++ [x] })

def stores (s : ScopeSession) : List Store :=
  s.chain.root :: (s.chain.scopes.reverse.map (·.bindings))

/-- Runs operations in order, each at the level its index names (`levelAt`), or at the top level
when it gives none. An index that names no level stops the whole session with a fault, and a
refused operation refuses it. -/
def runAll (s : ScopeSession) :
    List (Option Scalar × ScopeOp) → Except ScopeStop (List ScopeReport)
  | [] => .ok []
  | (k, op) :: ops => do
    let level ← (s.levelAt (k.getD (.int s.levels))).mapError .failed
    let (a, s') ← (s.step level op).mapError .refused
    let rest ← s'.runAll ops
    pure ({ answer := a, stores := s'.stores } :: rest)

end ScopeSession

end TemplateMacro
