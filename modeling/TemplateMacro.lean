import TemplateMacro.Engine
import TemplateMacro.Fault
import TemplateMacro.Location
import TemplateMacro.Macro.Definition
import TemplateMacro.Macro.Registry
import TemplateMacro.Number.Binary64
import TemplateMacro.Number.Layout
import TemplateMacro.Number.Shortest
import TemplateMacro.Proofs.ArgumentBinding
import TemplateMacro.Proofs.ArityLaw
import TemplateMacro.Proofs.CallStack
import TemplateMacro.Proofs.ChainAccess
import TemplateMacro.Proofs.ChainCoherence
import TemplateMacro.Proofs.CallTree
import TemplateMacro.Proofs.DepthLimit
import TemplateMacro.Proofs.FaultTranslation
import TemplateMacro.Proofs.Isolation
import TemplateMacro.Proofs.Frame
import TemplateMacro.Proofs.Simulation
import TemplateMacro.Proofs.Steps
import TemplateMacro.Proofs.StrictArity
import TemplateMacro.Proofs.Termination
import TemplateMacro.Render.Bind
import TemplateMacro.Render.Eval
import TemplateMacro.Render.Guard
import TemplateMacro.Render.Invoke
import TemplateMacro.Render.Node
import TemplateMacro.Render.State
import TemplateMacro.Scope.Chain
import TemplateMacro.Scope.Store
import TemplateMacro.Session.Scope
import TemplateMacro.Session.Stack
import TemplateMacro.Syntax.Builtin
import TemplateMacro.Syntax.Node
import TemplateMacro.Text.Quoted
import TemplateMacro.Value.Basic
import TemplateMacro.Value.Scalar
