import TemplateMacro.Scope.Store
/-!
Scope chains. A render holds a root store and a stack of scopes, one per active macro
invocation, innermost first. A lookup walks outward from the innermost scope and stops at the
first scope that binds the name; an isolated scope also stops it when it does not. An
assignment lands in the first scope that binds the name or is isolated, and otherwise in the
root. A `put` always lands in the innermost scope.
-/

namespace TemplateMacro

/-- Whether a scope sees the names of the scopes around it. -/
inductive Visibility
  | isolated
  | inherited
deriving DecidableEq, Repr

structure Scope where
  visibility : Visibility
  bindings : Store := {}
deriving Repr

/-- A root store and the scopes above it, innermost first. -/
structure Chain where
  root : Store := {}
  scopes : List Scope := []
deriving Repr

namespace Chain

def lookupIn (x : String) (root : Store) : List Scope → Option Value
  | [] => root.get? x
  | s :: rest =>
    match s.bindings.get? x with
    | some v => some v
    | none =>
      match s.visibility with
      | .isolated => none
      | .inherited => lookupIn x root rest

def assignIn (x : String) (v : Value) : List Scope → Option (List Scope)
  | [] => none
  | s :: rest =>
    if s.visibility = .isolated ∨ s.bindings.contains x then
      some ({ s with bindings := s.bindings.put x v } :: rest)
    else (assignIn x v rest).map (s :: ·)

def find? (c : Chain) (x : String) : Option Value := lookupIn x c.root c.scopes

def get (c : Chain) (x : String) (d : Value) : Value := (c.find? x).getD d

def contains (c : Chain) (x : String) : Bool := (c.find? x).isSome

def assign (c : Chain) (x : String) (v : Value) : Chain :=
  match assignIn x v c.scopes with
  | some ss => { c with scopes := ss }
  | none => { c with root := c.root.put x v }

def put (c : Chain) (x : String) (v : Value) : Chain :=
  match c.scopes with
  | [] => { c with root := c.root.put x v }
  | s :: rest => { c with scopes := { s with bindings := s.bindings.put x v } :: rest }

def push (c : Chain) (vis : Visibility) : Chain := { c with scopes := { visibility := vis } :: c.scopes }

def pop (c : Chain) : Chain := { c with scopes := c.scopes.tail }

def innermost (c : Chain) : Store :=
  match c.scopes with
  | [] => c.root
  | s :: _ => s.bindings

def upTo (c : Chain) (k : Nat) : Chain :=
  { c with scopes := c.scopes.drop (c.scopes.length - k) }

def replaceUpTo (c : Chain) (k : Nat) (v : Chain) : Chain :=
  { root := v.root, scopes := c.scopes.take (c.scopes.length - k) ++ v.scopes }

@[simp] theorem find?_push_inherited (c : Chain) (x : String) :
    (c.push .inherited).find? x = c.find? x := by
  simp [find?, push, lookupIn, Store.get?, Store.lookup]

@[simp] theorem find?_push_isolated (c : Chain) (x : String) :
    (c.push .isolated).find? x = none := by
  simp [find?, push, lookupIn, Store.get?, Store.lookup]

@[simp] theorem pop_push (c : Chain) (vis : Visibility) : (c.push vis).pop = c := rfl

@[simp] theorem find?_put_self (c : Chain) (x : String) (v : Value) :
    (c.put x v).find? x = some v := by
  cases h : c.scopes with
  | nil => simp [put, find?, lookupIn, h]
  | cons s rest => simp [put, find?, lookupIn, h]

end Chain

end TemplateMacro
