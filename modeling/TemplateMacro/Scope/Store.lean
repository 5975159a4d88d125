import TemplateMacro.Value.Basic
/-!
Stores: bindings of names to values, kept in the order the names were first bound. Binding a
bound name again replaces its value where it stands. Main statements: a lookup after a `put`
sees the new value for that name and the old lookup for every other name.
-/

namespace TemplateMacro

/-- Bindings of names to values, in the order of first binding. -/
structure Store where
  entries : List (String × Value) := []
deriving Repr

namespace Store

def lookup (x : String) : List (String × Value) → Option Value
  | [] => none
  | (y, v) :: rest => if y = x then some v else lookup x rest

def bind (x : String) (v : Value) : List (String × Value) → List (String × Value)
  | [] => [(x, v)]
  | (y, w) :: rest => if y = x then (x, v) :: rest else (y, w) :: bind x v rest

def empty : Store := {}

def get? (s : Store) (x : String) : Option Value := lookup x s.entries

def contains (s : Store) (x : String) : Bool := (s.get? x).isSome

def put (s : Store) (x : String) (v : Value) : Store := ⟨bind x v s.entries⟩

def ofList (ps : List (String × Value)) : Store := ps.foldl (fun s p => s.put p.1 p.2) empty

def names (s : Store) : List String := s.entries.map (·.1)

theorem lookup_bind_self (x : String) (v : Value) (es : List (String × Value)) :
    lookup x (bind x v es) = some v := by
  induction es with
  | nil => simp [bind, lookup]
  | cons e rest ih =>
    obtain ⟨y, w⟩ := e
    by_cases h : y = x
    · simp [bind, lookup, h]
    · simp [bind, lookup, h, ih]

theorem lookup_bind_of_ne {x y : String} (v : Value) (es : List (String × Value)) (h : y ≠ x) :
    lookup y (bind x v es) = lookup y es := by
  induction es with
  | nil => simp [bind, lookup, Ne.symm h]
  | cons e rest ih =>
    obtain ⟨z, w⟩ := e
    by_cases hz : z = x
    · subst hz; simp [bind, lookup, Ne.symm h]
    · simp [bind, lookup, hz, ih]

@[simp] theorem get?_put_self (s : Store) (x : String) (v : Value) : (s.put x v).get? x = some v :=
  lookup_bind_self x v s.entries

@[simp] theorem get?_put_of_ne (s : Store) {x y : String} (v : Value) (h : y ≠ x) :
    (s.put x v).get? y = s.get? y :=
  lookup_bind_of_ne v s.entries h

end Store

end TemplateMacro
