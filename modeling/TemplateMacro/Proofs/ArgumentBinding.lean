import TemplateMacro.Proofs.Steps
/-!
Argument binding against its reference: the arguments, then the defaults up to the first
parameter without one, evaluated in order against the caller and put into the new scope after
the block body.
-/

namespace TemplateMacro

/-- Expressions evaluated one after another against one chain: the values of those that
evaluated, the fault that stopped the sequence if one did, and the tick count after. -/
structure Evaluation where
  values : List Value
  fault : Option Fault
  ticks : Nat

namespace Node

def evalSeq (c : Chain) : List Node → Nat → Evaluation
  | [], t => ⟨[], none, t⟩
  | e :: es, t =>
    match (ExceptT.run (e.eval c)).run t with
    | (.ok v, t') =>
      let rest := evalSeq c es t'
      { rest with values := v :: rest.values }
    | (.error f, t') => ⟨[], some f, t'⟩

@[simp] theorem evalSeq_nil (c : Chain) (t : Nat) : evalSeq c [] t = ⟨[], none, t⟩ := rfl

theorem ofEvaluation_of_evalSeq {c : Chain} {es : List Node} {t : Nat} {f : Fault}
    (h : (evalSeq c es t).fault = some f) : f.ofEvaluation = true := by
  induction es generalizing t with
  | nil => cases h
  | cons e es ih =>
    simp only [evalSeq] at h
    rcases hr : (ExceptT.run (e.eval c)).run t with ⟨r, t'⟩
    rw [hr] at h
    rcases r with f' | v
    · cases h
      exact failsWithin_eval c e t _ t' hr
    · exact ih h

end Node

def Chain.putAll (c : Chain) (es : List (String × Value)) : Chain :=
  es.foldl (fun c e => c.put e.1 e.2) c

theorem Chain.putAll_scope (root : Store) (s : Scope) (rest : List Scope)
    (es : List (String × Value)) :
    (⟨root, s :: rest⟩ : Chain).putAll es =
      ⟨root, { s with bindings := es.foldl (fun b e => b.put e.1 e.2) s.bindings } :: rest⟩ := by
  induction es generalizing s with
  | nil => rfl
  | cons e es ih => exact ih _

namespace Binding

/-- The expressions a binding evaluates, each with the parameter it binds: the arguments with
the parameters they fill, then the defaults of the parameters after the last argument, up to the
first parameter without a default. Surplus arguments and the defaults of supplied parameters are
not in it. -/
def plan (args : List Node) (ps : List Parameter) : List (String × Node) :=
  (ps.map (·.name)).zip args ++
    ((ps.drop args.length).takeWhile (·.hasDefault)).filterMap fun p => p.default.map (p.name, ·)

-- the third parameter, with no default, ends the plan before the fourth
example :
    (plan [.lit (.int 7)] [{ name := "a" }, { name := "b", default := some (.lit (.int 1)) },
      { name := "c" }, { name := "d", default := some (.lit (.int 2)) }]).map (·.1) = ["a", "b"] :=
  rfl

def stops (args : List Node) (ps : List Parameter) : Bool :=
  (ps.drop args.length).any (!·.hasDefault)

@[simp] theorem plan_nil_right (args : List Node) : plan args [] = [] := by
  simp [plan]

@[simp] theorem plan_cons_cons (a : Node) (args : List Node) (p : Parameter)
    (ps : List Parameter) : plan (a :: args) (p :: ps) = (p.name, a) :: plan args ps := by
  simp [plan]

theorem plan_nil_default {p : Parameter} {e : Node} (ps : List Parameter)
    (h : p.default = some e) : plan [] (p :: ps) = (p.name, e) :: plan [] ps := by
  simp [plan, Parameter.hasDefault, h]

theorem plan_nil_missing {p : Parameter} (ps : List Parameter) (h : p.default = none) :
    plan [] (p :: ps) = [] := by
  simp [plan, Parameter.hasDefault, h]

@[simp] theorem stops_nil_right (args : List Node) : stops args [] = false := by
  simp [stops]

@[simp] theorem stops_cons_cons (a : Node) (args : List Node) (p : Parameter)
    (ps : List Parameter) : stops (a :: args) (p :: ps) = stops args ps := by
  simp [stops]

theorem stops_nil_default {p : Parameter} {e : Node} (ps : List Parameter)
    (h : p.default = some e) : stops [] (p :: ps) = stops [] ps := by
  simp [stops, Parameter.hasDefault, h]

theorem stops_nil_missing {p : Parameter} (ps : List Parameter) (h : p.default = none) :
    stops [] (p :: ps) = true := by
  simp [stops, Parameter.hasDefault, h]

/-- How a binding whose evaluation went as `ev` ends: with the fault that stopped the evaluation,
with the too-few fault when a strict binding meets a missing parameter, and otherwise normally. -/
def outcome (d : Definition) (strict missing : Bool) (site : Site) (given : Nat)
    (ev : Evaluation) : Except Fault Unit :=
  match ev.fault with
  | some f => .error f
  | none =>
    if missing && strict then .error (.arity .tooFew d.name (.int d.minRequired) (.int given) site.recorded)
    else .ok ()

def missingLog (d : Definition) (strict missing : Bool) (site : Site) (given : Nat)
    (ev : Evaluation) : List LogRecord :=
  if ev.fault.isNone && missing && !strict then [⟨.debug, diagnostic d given site⟩] else []

open RenderM

theorem run_bindParams (caller : Chain) (d : Definition) (strict : Bool) (site : Site)
    (given : Nat) : ∀ (args : List Node) (ps : List Parameter) (st : RenderState),
    (bindParams caller d strict site given args ps).run st =
      let ev := Node.evalSeq caller ((plan args ps).map (·.2)) st.ticks
      (outcome d strict (stops args ps) site given ev,
        { st with chain := st.chain.putAll (((plan args ps).map (·.1)).zip ev.values),
                  ticks := ev.ticks,
                  logs := st.logs ++ missingLog d strict (stops args ps) site given ev })
  | _, [], st => by
    simp [bindParams, outcome, missingLog, Chain.putAll]
  | a :: args, p :: ps, st => by
    rw [bindParams, run_bind, run_evalIn]
    simp only [plan_cons_cons, stops_cons_cons, List.map_cons, Node.evalSeq]
    rcases (ExceptT.run (a.eval caller)).run st.ticks with ⟨r, t⟩
    rcases r with f | v
    · simp [outcome, missingLog, Chain.putAll]
    · simp only
      rw [run_bind_ok (run_modifyChain _ _), run_bindParams caller d strict site given args ps]
      simp [outcome, missingLog, Chain.putAll]
  | [], p :: ps, st => by
    rw [bindParams]
    cases hp : p.default with
    | some e =>
      simp only
      rw [run_bind, run_evalIn]
      simp only [plan_nil_default ps hp, stops_nil_default ps hp, List.map_cons, Node.evalSeq]
      rcases (ExceptT.run (e.eval caller)).run st.ticks with ⟨r, t⟩
      rcases r with f | v
      · simp [outcome, missingLog, Chain.putAll]
      · simp only
        rw [run_bind_ok (run_modifyChain _ _), run_bindParams caller d strict site given [] ps]
        simp [outcome, missingLog, Chain.putAll]
    | none =>
      simp only [plan_nil_missing ps hp, stops_nil_missing ps hp]
      cases strict
      · simp [outcome, missingLog, Chain.putAll]
      · simp [outcome, missingLog, Chain.putAll]

theorem run_bindArguments (caller : Chain) (d : Definition) (args : List Node) (strict : Bool)
    (site : Site) (st : RenderState) :
    (bindArguments caller d args strict site).run st =
      if strict = true ∧ d.accepted < args.length then
        (.error (.arity .tooMany d.name (.int d.accepted) (.int args.length) site.recorded), st)
      else
        (bindParams caller d strict site args.length args d.params).run
          (if d.accepted < args.length then
            { st with logs := st.logs ++ [⟨.debug, diagnostic d args.length site⟩] }
          else st) := by
  unfold bindArguments
  by_cases hn : d.accepted < args.length
  · cases strict
    · simp only [gt_iff_lt, hn, if_true, Bool.false_eq_true, false_and, if_false]
      rw [run_bind_ok (run_log _ _ _)]
    · simp only [gt_iff_lt, hn, if_true, and_self]
      rfl
  · simp only [gt_iff_lt, hn, if_false, and_false]

def bodyEntry (m : Macro) : Option Node → List (String × Value)
  | some b => [(m.config.bodyReference, Value.ofNode b)]
  | none => []

/-- The binding an invocation of `m` makes from the caller's state `st`. A strict binding given
too many arguments stops at once; otherwise the plan is evaluated in order against the caller,
and the new scope holds the body and then each parameter with its value. -/
def reference (m : Macro) (site : Site) (args : List Node) (body : Option Node)
    (st : RenderState) : Except Fault Unit × RenderState :=
  let d := m.definition
  let given := args.length
  let opened (entries : List (String × Value)) : Chain :=
    ⟨st.chain.root, ⟨m.config.visibility, Store.ofList (bodyEntry m body ++ entries)⟩ ::
      st.chain.scopes⟩
  if m.config.strict = true ∧ d.accepted < given then
    (.error (.arity .tooMany d.name (.int d.accepted) (.int given) site.recorded),
      { st with chain := opened [] })
  else
    let p := plan args d.params
    let ev := Node.evalSeq st.chain (p.map (·.2)) st.ticks
    let surplus : List LogRecord :=
      if d.accepted < given then [⟨.debug, diagnostic d given site⟩] else []
    (outcome d m.config.strict (stops args d.params) site given ev,
      { st with chain := opened ((p.map (·.1)).zip ev.values), ticks := ev.ticks,
                logs := st.logs ++ surplus ++
                  missingLog d m.config.strict (stops args d.params) site given ev })

end Binding

theorem Macro.scopeOpened_eq (m : Macro) (body : Option Node) (st : RenderState) :
    m.scopeOpened body st =
      { st with chain := ⟨st.chain.root,
          ⟨m.config.visibility, Store.ofList (Binding.bodyEntry m body)⟩ :: st.chain.scopes⟩ } := by
  cases body <;> rfl

theorem Store.ofList_append (xs ys : List (String × Value)) :
    Store.ofList (xs ++ ys) = ys.foldl (fun b e => b.put e.1 e.2) (Store.ofList xs) := by
  simp [Store.ofList, List.foldl_append]

namespace Binding

theorem run_eq_reference (m : Macro) (site : Site) (args : List Node) (body : Option Node)
    (st : RenderState) :
    (bindArguments st.chain m.definition args m.config.strict site).run (m.scopeOpened body st) =
      reference m site args body st := by
  rw [run_bindArguments, reference, Macro.scopeOpened_eq]
  by_cases hmany : m.config.strict = true ∧ m.definition.accepted < args.length
  · simp only [hmany, and_self, if_true, List.append_nil]
  · simp only [hmany, if_false]
    have hlogs : ∀ c : Chain, (if m.definition.accepted < args.length then
        { st with chain := c, logs := st.logs ++
          [⟨.debug, diagnostic m.definition args.length site⟩] }
        else { st with chain := c }) =
        { st with chain := c, logs := st.logs ++
          if m.definition.accepted < args.length then
            [⟨.debug, diagnostic m.definition args.length site⟩] else [] } := by
      intro c
      split <;> simp
    rw [hlogs, run_bindParams]
    simp only [Chain.putAll_scope, ← Store.ofList_append, List.append_assoc]

end Binding

/-- An invocation binds its arguments as the reference says: from the caller's state `st` its
new scope ends up as `Binding.reference` describes, with every planned expression evaluated once,
in order, against the caller's chain. A strict invocation given too many arguments stops with the
too-many fault and leaves the caller's state exactly as it was: nothing is evaluated. -/
theorem invocation_binds_as_reference (m : Macro) (template : Scalar)
    (renderIn : Node → RenderM Unit) (site : CallSite) (explicit : Option Node)
    (st : RenderState) :
    (bindArguments st.chain m.definition site.args m.config.strict (site.position template)).run
        (m.scopeOpened (explicit.orElse fun _ => site.body) st) =
      Binding.reference m (site.position template) site.args
        (explicit.orElse fun _ => site.body) st ∧
    (m.config.strict = true → m.definition.accepted < site.args.length →
      (m.invoke template renderIn site explicit).run st =
        (.error (.arity .tooMany m.name (.int m.definition.accepted) (.int site.args.length)
          (site.position template).recorded), st)) := by
  refine ⟨Binding.run_eq_reference _ _ _ _ _, fun hs hn => ?_⟩
  rw [Macro.run_invoke, Macro.run_prologue, Binding.run_bindArguments]
  simp only [hs, hn, and_self, if_true]
  rw [Macro.scopeOpened_eq]
  rfl

def shadowingMacro : Macro :=
  ⟨⟨"pair", .param { name := "pair" },
    [{ name := "bodyContent" }, { name := "a" }, { name := "a", default := some (.lit (.int 5)) }],
    some (.ref "a")⟩, ⟨true, .inherited, "bodyContent", 20⟩⟩

-- the parameter named like the body replaces it in place; the repeated one's later binding wins
example : ((Binding.reference shadowingMacro (.label .null) [.lit (.int 1), .lit (.int 2)]
    (some (.text "body")) {}).2.chain.scopes.map (·.bindings.names)) = [["bodyContent", "a"]] :=
  rfl

theorem invocation_binds_shadowing_as_reference :
    shadowingMacro.config.strict = true ∧ shadowingMacro.definition.accepted < 4 ∧
    ((bindArguments ({} : RenderState).chain shadowingMacro.definition
        [.lit (.int 1), .lit (.int 2), .lit (.int 3), .lit (.int 4)] shadowingMacro.config.strict
        (CallSite.position ⟨[.lit (.int 1), .lit (.int 2), .lit (.int 3), .lit (.int 4)],
          none, .null, .null⟩ .null)).run
        (shadowingMacro.scopeOpened ((none : Option Node).orElse fun _ => none) {}) =
      Binding.reference shadowingMacro
        (CallSite.position ⟨[.lit (.int 1), .lit (.int 2), .lit (.int 3), .lit (.int 4)],
          none, .null, .null⟩ .null)
        [.lit (.int 1), .lit (.int 2), .lit (.int 3), .lit (.int 4)]
        ((none : Option Node).orElse fun _ => none) {} ∧
    (shadowingMacro.config.strict = true → shadowingMacro.definition.accepted < 4 →
      (shadowingMacro.invoke .null (fun _ => pure ())
          ⟨[.lit (.int 1), .lit (.int 2), .lit (.int 3), .lit (.int 4)], none, .null, .null⟩
          none).run {} =
        (.error (.arity .tooMany shadowingMacro.name (.int shadowingMacro.definition.accepted)
          (.int 4) (CallSite.position ⟨[.lit (.int 1), .lit (.int 2), .lit (.int 3),
            .lit (.int 4)], none, .null, .null⟩ .null).recorded), {}))) :=
  ⟨rfl, by decide, invocation_binds_as_reference shadowingMacro .null (fun _ => pure ())
    ⟨[.lit (.int 1), .lit (.int 2), .lit (.int 3), .lit (.int 4)], none, .null, .null⟩ none {}⟩

end TemplateMacro
