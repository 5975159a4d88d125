import TemplateMacro.Value.Scalar
import TemplateMacro.Syntax.Builtin
/-!
Template trees. A node is text, a literal, a reference to a name, an application of a built-in
function, a block, a conditional, an assignment, a macro call, a plain scalar standing where a
node or expression is expected, or one of the probes that show the render's state. A node may
carry the tag of its occurrence in a request: node values made from tagged occurrences are
equal exactly when they come from the same occurrence. Each node has a kind name, a
description, and, for expressions, its template source.
-/

namespace TemplateMacro

/-- A template tree. A macro call carries its arguments, an optional block body and the line and
column of its call site, each a plain value as written. -/
inductive Node
  | text (s : String)
  | lit (c : Scalar)
  | ref (name : String)
  | apply (fn : Builtin) (args : List Node)
  | block (children : List Node)
  | cond (test thenBranch : Node) (elseBranch : Option Node)
  | assign (name : String) (value : Node)
  | call (name : String) (args : List Node) (body : Option Node) (line column : Scalar)
  | const (c : Scalar)
  | probeStack
  | probeDepth
  | probeTemplate
  | probeBound (name : String)
  | tagged (tag : Nat) (n : Node)
deriving Repr, BEq

namespace Node

def kindName : Node → String
  | text _ => "Text"
  | lit _ => "Literal"
  | ref _ => "Reference"
  | apply _ _ => "Apply"
  | block _ => "Block"
  | cond _ _ _ => "If"
  | assign _ _ => "Assign"
  | call _ _ _ _ _ => "MacroCall"
  | const c => c.kindName
  | probeStack | probeDepth | probeTemplate => "Probe"
  | probeBound _ => "Contains"
  | tagged _ n => n.kindName

/-- Whether the node is an expression with a value of its own (a literal, a plain scalar, a
reference or an application); every other node evaluates to itself. -/
def isExpression : Node → Bool
  | lit _ | const _ | ref _ | apply _ _ => true
  | tagged _ n => n.isExpression
  | _ => false

def describe : Node → String
  | text s => "Text(" ++ Text.quote s ++ ")"
  | lit c => "Literal(" ++ c.quoted ++ ")"
  | ref x => "Reference(" ++ Text.quote x ++ ")"
  | block cs => "Block(" ++ toString cs.length ++ " nodes)"
  | call x args _ _ _ => "MacroCall(" ++ Text.quote x ++ ", " ++ toString args.length ++ " args)"
  | const c => c.quoted
  | tagged _ n => n.describe
  | n => "<" ++ n.kindName ++ " node>"

mutual

/-- The template source of an expression: a literal or plain scalar as source, a reference as
`$name`, an application as `f(a b)`; any other node by its description. -/
def source : Node → String
  | lit c => c.source
  | const c => c.source
  | ref x => "$" ++ x
  | apply f args => f.name ++ "(" ++ sourceList args ++ ")"
  | tagged _ n => source n
  | n => n.describe

def sourceList : List Node → String
  | [] => ""
  | [e] => source e
  | e :: es => source e ++ " " ++ sourceList es

end

end Node

end TemplateMacro

namespace TemplateMacro

/-- One macro invocation as written: argument expressions, an optional block body, and the
line and column of the call, nothing when not given. -/
structure CallSite where
  args : List Node := []
  body : Option Node := none
  line : Scalar := .null
  column : Scalar := .null
deriving Repr

end TemplateMacro
