import TemplateMacro.Syntax.Node
/-!
What a computation reports: faults, which stop it, and log records, which it writes as it runs.
Macro errors pass through enclosing invocations unchanged; every other fault is wrapped once.
-/

namespace TemplateMacro

inductive LogLevel
  | debug
  | error
deriving DecidableEq, Repr

structure LogRecord where
  level : LogLevel
  message : String
deriving DecidableEq, Repr

def LogLevel.name : LogLevel → String
  | .debug => "DEBUG"
  | .error => "ERROR"

inductive ArityKind
  | tooMany
  | tooFew
deriving DecidableEq, Repr

/-- Why a computation stopped. Locations are kept as their cited text, empty when not cited;
counts, limits and positions as the plain values given. -/
inductive Fault
  | arity (kind : ArityKind) (name : String) (expected got : Scalar) (location : String)
  | depthExceeded (maxDepth : Scalar) (name : String) (active : List String) (location : String)
  | wrapped (name : String) (location : String) (cause : Fault)
  | notInteger (fn : Builtin)
  | failed (message : String)
  | raised (message : String)
  | pairTooShort (got : Nat)
  | pairTooLong
  | noNameSlot (name : String)
  | noParameter (name : String) (index : Scalar) (accepts : Nat)
  | popEmpty
  | noLevel
  | oversizedIndex
  | badIndex (sequence : String) (c : Scalar)
  | badSlice (c : Scalar)
  | unordered (op : Comparison) (a b : Scalar)
  | wrongArgCount (fn : Builtin) (given : Nat)
  | notRenderable (c : Scalar)
  | tupleSlot
  | integerTooLong
  | exhausted
deriving Repr, BEq

namespace Fault

def kindName : Fault → String
  | arity .. => "ArgumentCountError"
  | depthExceeded .. => "RecursionLimitError"
  | wrapped .. => "WrappedRenderError"
  | notInteger _ | failed _ | pairTooShort _ | pairTooLong | noNameSlot _ | integerTooLong =>
    "ValueError"
  | raised _ => "MacroError"
  | noParameter .. | popEmpty | noLevel | oversizedIndex => "IndexError"
  | wrongArgCount .. | badIndex .. | badSlice _ | unordered .. => "TypeError"
  | notRenderable _ | tupleSlot => "AttributeError"
  | exhausted => "RecursionError"

def isMacroError : Fault → Bool
  | arity .. | depthExceeded .. | wrapped .. | raised _ => true
  | _ => false

def atLocation (location : String) : String :=
  if location.isEmpty then "" else " at " ++ location

def depthMessage (maxDepth : Scalar) (name : String) (active : List String)
    (location : String) : String :=
  "Max calling depth of " ++ maxDepth.text ++ " was exceeded in macro '" ++ name ++
    "' with Call Stack:" ++ "->".intercalate active ++ atLocation location

def wrappedMessage (name location : String) : String :=
  "exception rendering macro #" ++ name ++ "() at " ++ location

def plural (n : Nat) : String := if n = 1 then "" else "s"

def quotedNames (xs : List String) : String :=
  let q (x : String) : String := "'" ++ x ++ "'"
  match xs with
  | [] => ""
  | [a] => q a
  | [a, b] => q a ++ " and " ++ q b
  | _ => ", ".intercalate (xs.dropLast.map q) ++ ", and " ++ q (xs.getLastD "")

def message : Fault → String
  | arity .tooMany m e g loc =>
    "Provided " ++ g.text ++ " arguments but macro #" ++ m ++ " accepts at most " ++
      e.text ++ atLocation loc
  | arity .tooFew m e g loc =>
    "Need at least " ++ e.text ++ " argument for macro #" ++ m ++ " but only " ++
      g.text ++ " were provided" ++ atLocation loc
  | depthExceeded d m active loc => depthMessage d m active loc
  | wrapped m loc _ => wrappedMessage m loc
  | notInteger f => f.name ++ ": not an integer"
  | failed s => s
  | raised s => s
  | pairTooShort n => "not enough values to unpack (expected 2, got " ++ toString n ++ ")"
  | pairTooLong => "too many values to unpack (expected 2)"
  | noNameSlot m => "Macro #" ++ m ++ " has no name slot in its parameter list"
  | noParameter m i a =>
    "Macro #" ++ m ++ " has no parameter at position " ++ i.text ++ " (accepts " ++
      toString a ++ ")"
  | popEmpty => "pop from empty list"
  | noLevel => "list index out of range"
  | oversizedIndex => "cannot fit 'int' into an index-sized integer"
  | badIndex s c => s ++ " indices must be integers or slices, not " ++ c.kindName
  | badSlice _ => "slice indices must be integers or None or have an __index__ method"
  | unordered op a b =>
    "'" ++ op.symbol ++ "' not supported between instances of '" ++ a.kindName ++ "' and '" ++
      b.kindName ++ "'"
  | wrongArgCount f n =>
    let req := f.required
    if n < req.length then
      let missing := req.drop n
      f.callName ++ "() missing " ++ toString missing.length ++ " required positional argument" ++
        plural missing.length ++ ": " ++ quotedNames missing
    else
      let most := req.length + f.optional.getD 0
      let takes := if most = req.length then toString most ++ " positional argument" ++ plural most
        else "from " ++ toString req.length ++ " to " ++ toString most ++ " positional arguments"
      f.callName ++ "() takes " ++ takes ++ " but " ++ toString n ++
        (if n = 1 then " was" else " were") ++ " given"
  | notRenderable c => "'" ++ c.kindName ++ "' object has no attribute 'render'"
  | tupleSlot => "'tuple' object has no attribute 'has_default'"
  | integerTooLong =>
    "Exceeds the limit (" ++ toString Scalar.digitLimit ++ " digits) for integer string " ++
      "conversion; use sys.set_int_max_str_digits() to increase the limit"
  | exhausted => "maximum recursion depth exceeded"

end Fault

def Comparison.apply (op : Comparison) (a b : Scalar) : Except Fault Bool :=
  match op.test? a b with
  | some r => .ok r
  | none => .error (.unordered op a b)

/-- Requests refused before anything runs, because they ask for something that is not there. -/
inductive Refusal
  | bodyForUnknownMacro
  | rootIsNoScope
deriving Repr, BEq

def Refusal.message : Refusal → String
  | .bodyForUnknownMacro => "explicit_body needs a defined macro"
  | .rootIsNoScope => "is_bound needs a scope level"

end TemplateMacro
