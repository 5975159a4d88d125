import TemplateMacro.Proofs.Simulation
/-!
Strict binding as lenient binding with its arity diagnostics promoted to faults: a strict render
agrees with the lenient one until that first logs an arity diagnostic, and there stops with the
arity fault of that call.
-/

namespace TemplateMacro

open RenderM

theorem RenderM.logs_of_run_evalIn {c : Chain} {e : Node} {st st' : RenderState} {r : Except Fault Value}
    (h : (evalIn c e).run st = (r, st')) : st'.logs = st.logs := by
  rw [run_evalIn] at h
  cases h
  rfl

namespace Binding

/-- `lenient` agrees with `strict` from `st` and logs nothing, or it logs `diag` in the state
where `strict` stops with `f`. -/
def DiagnosedAs (lenient strict : RenderM Unit) (diag : LogRecord) (f : Fault)
    (st : RenderState) : Prop :=
  (lenient.run st = strict.run st ∧ (lenient.run st).2.logs = st.logs) ∨
    ∃ st', st'.logs = st.logs ∧ lenient.run st = (.ok (), { st' with logs := st'.logs ++ [diag] }) ∧
      strict.run st = (.error f, st')

theorem DiagnosedAs.evalPut {lenient strict : RenderM Unit} {diag : LogRecord} {f : Fault}
    {caller : Chain} {e : Node} {x : String} {st : RenderState}
    (h : ∀ st, DiagnosedAs lenient strict diag f st) :
    DiagnosedAs (do let v ← evalIn caller e; modifyChain (·.put x v); lenient)
      (do let v ← evalIn caller e; modifyChain (·.put x v); strict) diag f st := by
  unfold DiagnosedAs
  rw [run_bind, run_bind]
  rcases hr : (evalIn caller e).run st with ⟨r, s⟩
  have hs := logs_of_run_evalIn hr
  rcases r with e' | v
  · exact .inl ⟨rfl, hs⟩
  · simp only
    rw [run_bind_ok (run_modifyChain _ _), run_bind_ok (run_modifyChain _ _)]
    rcases h { s with chain := s.chain.put x v } with ⟨heq, hlog⟩ | ⟨st', hl, h₁, h₂⟩
    · exact .inl ⟨heq, hlog.trans hs⟩
    · exact .inr ⟨st', hl.trans hs, h₁, h₂⟩

theorem bindParams_lenient (caller : Chain) (d : Definition) (site : Site) (given : Nat) :
    ∀ args ps st, DiagnosedAs (bindParams caller d false site given args ps)
      (bindParams caller d true site given args ps) ⟨.debug, diagnostic d given site⟩
      (.arity .tooFew d.name (.int d.minRequired) (.int given) site.recorded) st
  | _, [], _ => .inl ⟨rfl, rfl⟩
  | a :: args, p :: ps, _ => by
    unfold bindParams
    exact .evalPut fun st => bindParams_lenient caller d site given args ps st
  | [], p :: ps, st => by
    unfold bindParams
    cases p.default with
    | some e => exact .evalPut fun st => bindParams_lenient caller d site given [] ps st
    -- the one place the two differ: a missing parameter without a default
    | none => exact .inr ⟨st, rfl, rfl, rfl⟩

end Binding

/-- Lenient argument binding agrees with strict binding and logs nothing; or there are too many
arguments, strict binding stops with the too-many fault before evaluating any, and lenient binding
logs the diagnostic first; or lenient binding logs the too-few diagnostic where strict binding
stops with the too-few fault, in the same state. -/
theorem bindArguments_lenient (caller : Chain) (d : Definition) (args : List Node) (site : Site)
    (st : RenderState) :
    ((bindArguments caller d args false site).run st = (bindArguments caller d args true site).run st ∧
        ((bindArguments caller d args false site).run st).2.logs = st.logs) ∨
    (d.accepted < args.length ∧
        (bindArguments caller d args true site).run st =
          (.error (.arity .tooMany d.name (.int d.accepted) (.int args.length) site.recorded), st) ∧
        ∃ rest, ((bindArguments caller d args false site).run st).2.logs =
          st.logs ++ ⟨.debug, Binding.diagnostic d args.length site⟩ :: rest) ∨
    (args.length ≤ d.accepted ∧ ∃ st', st'.logs = st.logs ∧
        (bindArguments caller d args false site).run st =
          (.ok (), { st' with logs := st'.logs ++ [⟨.debug, Binding.diagnostic d args.length site⟩] }) ∧
        (bindArguments caller d args true site).run st =
          (.error (.arity .tooFew d.name (.int d.minRequired) (.int args.length) site.recorded), st')) := by
  unfold bindArguments
  simp only
  by_cases hn : d.accepted < args.length
  · refine .inr (.inl ⟨hn, ?_, ?_⟩)
    · simp only [gt_iff_lt, hn, if_true]
      rfl
    · simp only [gt_iff_lt, hn, if_true, Bool.false_eq_true, if_false]
      rw [run_bind_ok (run_log _ _ _)]
      rcases Binding.bindParams_lenient caller d site args.length args d.params
        { st with logs := st.logs ++ [⟨.debug, Binding.diagnostic d args.length site⟩] }
        with ⟨-, hlog⟩ | ⟨st', hl, h₁, -⟩
      · exact ⟨[], by simpa using hlog⟩
      · exact ⟨[⟨.debug, Binding.diagnostic d args.length site⟩], by simp [h₁, hl]⟩
  · simp only [gt_iff_lt, hn, if_false]
    rcases Binding.bindParams_lenient caller d site args.length args d.params st
      with h | ⟨st', hl, h₁, h₂⟩
    · exact .inl h
    · exact .inr (.inr ⟨by omega, st', hl, h₁, h₂⟩)

def RenderEnv.lenient (env : RenderEnv) : RenderEnv :=
  env.mapConfig fun c => { c with strict := false }

/-- At `u`, a macro call's argument binding logs an arity diagnostic. -/
def Visit.LogsArity (env : RenderEnv) : Visit → Prop
  | ⟨_ + 1, .call name args body line column, st⟩ =>
    ∃ m, env.lookup name = some m ∧
      ((bindArguments st.chain m.definition args m.config.strict
        (CallSite.position ⟨args, body, line, column⟩ env.template)).run
          (m.scopeOpened body st)).2.logs ≠ (m.scopeOpened body st).logs
  | _ => False

variable {env : RenderEnv}

namespace RenderEnv

@[simp] theorem template_lenient : env.lenient.template = env.template := rfl

theorem lookup_lenient (name : String) :
    env.lenient.lookup name = (env.lookup name).map (Macro.mapConfig fun c => { c with strict := false }) :=
  lookup_mapConfig env name

end RenderEnv

theorem prologueChange_lenient
    (hstrict : ∀ name m, env.lookup name = some m → m.config.strict = true) :
    PrologueChange env (fun c => { c with strict := false }) (Visit.LogsArity env.lenient) where
  visibility _ := rfl
  bodyReference _ := rfl
  prologue {fuel name args body line column st m} hl hH := by
    have hl' : env.lenient.lookup name = some (m.mapConfig fun c => { c with strict := false }) := by
      rw [RenderEnv.lookup_lenient, hl, Option.map_some]
    simp only [Visit.LogsArity, RenderEnv.template_lenient, not_exists, not_and,
      Classical.not_not] at hH
    have hlog := hH _ hl'
    simp only [Macro.definition_mapConfig, Macro.config_mapConfig,
      Macro.scopeOpened_mapConfig] at hlog
    rw [Macro.run_prologue, Macro.run_prologue]
    simp only [Macro.definition_mapConfig, Macro.config_mapConfig, Macro.name_mapConfig,
      hstrict name m hl]
    rcases bindArguments_lenient st.chain m.definition args
        (CallSite.position ⟨args, body, line, column⟩ env.template) (m.scopeOpened body st)
      with ⟨heq, -⟩ | ⟨-, -, rest, hrest⟩ | ⟨-, st', hl₁, h₁, -⟩
    · rw [heq]
    · simp [hrest] at hlog
    · simp [h₁, hl₁] at hlog

theorem Visit.run_of_logsArity
    (hstrict : ∀ name m, env.lookup name = some m → m.config.strict = true) {fuel : Nat}
    {name : String} {args : List Node} {body : Option Node} {line column : Scalar}
    {st : RenderState}
    (h : Visit.LogsArity env.lenient ⟨fuel + 1, .call name args body line column, st⟩) :
    ∃ m, env.lookup name = some m ∧
      ((m.definition.accepted < args.length ∧
          (∃ rest, ((bindArguments st.chain m.definition args false
            (CallSite.position ⟨args, body, line, column⟩ env.template)).run
              (m.scopeOpened body st)).2.logs =
            (m.scopeOpened body st).logs ++ ⟨.debug, Binding.diagnostic m.definition args.length
              (CallSite.position ⟨args, body, line, column⟩ env.template)⟩ :: rest) ∧
          Visit.run env ⟨fuel + 1, .call name args body line column, st⟩ =
            (.error (.arity .tooMany m.name (.int m.definition.accepted) (.int args.length)
              (CallSite.position ⟨args, body, line, column⟩ env.template).recorded),
              { m.scopeOpened body st with chain := (m.scopeOpened body st).chain.pop })) ∨
        (args.length ≤ m.definition.accepted ∧ ∃ st' : RenderState,
          (bindArguments st.chain m.definition args false
            (CallSite.position ⟨args, body, line, column⟩ env.template)).run
              (m.scopeOpened body st) =
            (.ok (), { st' with logs := st'.logs ++ [⟨.debug, Binding.diagnostic m.definition
              args.length (CallSite.position ⟨args, body, line, column⟩ env.template)⟩] }) ∧
          Visit.run env ⟨fuel + 1, .call name args body line column, st⟩ =
            (.error (.arity .tooFew m.name (.int m.definition.minRequired) (.int args.length)
              (CallSite.position ⟨args, body, line, column⟩ env.template).recorded),
              { st' with chain := st'.chain.pop }))) := by
  simp only [Visit.LogsArity, RenderEnv.template_lenient] at h
  obtain ⟨m₀, hl₀, hne⟩ := h
  rw [RenderEnv.lookup_lenient, Option.map_eq_some_iff] at hl₀
  obtain ⟨m, hl, rfl⟩ := hl₀
  simp only [Macro.definition_mapConfig, Macro.config_mapConfig, Macro.scopeOpened_mapConfig] at hne
  refine ⟨m, hl, ?_⟩
  have hm := hstrict name m hl
  rcases bindArguments_lenient st.chain m.definition args
      (CallSite.position ⟨args, body, line, column⟩ env.template) (m.scopeOpened body st)
    with ⟨-, hlog⟩ | ⟨hn, hS, hrest⟩ | ⟨hn, st', -, h₁, hS⟩
  · exact absurd hlog hne
  · refine .inl ⟨hn, hrest, RenderEnv.run_render_call_of_prologue_error env fuel st hl ?_⟩
    simp only [Macro.run_prologue, hm, hS]
    rfl
  · refine .inr ⟨hn, st', h₁, RenderEnv.run_render_call_of_prologue_error env fuel st hl ?_⟩
    simp only [Macro.run_prologue, hm, hS]
    rfl

/-- Strict binding is lenient binding with its arity diagnostics promoted to faults. Let every
macro be strict. If the same render with every macro lenient never logs an arity diagnostic, the
two renders are the same. Otherwise, at its first diagnostic, for a call of `m`, the strict
render stops with the arity fault of that call, unchanged by the enclosing invocations, in a
state `s` whose output, log, ticks and root values it keeps: with too many arguments the fault
is the too-many fault and `s` is the state before any argument is evaluated, where the lenient
binding logs the diagnostic first; with too few it is the too-few fault and `s` is the state in
which the lenient binding logs the diagnostic. One of the two cases holds. -/
theorem strict_binding_promotes_diagnostics
    (hstrict : ∀ name m, env.lookup name = some m → m.config.strict = true) (v : Visit) :
    (Avoids env.lenient (Visit.LogsArity env.lenient) v → v.run env = v.run env.lenient) ∧
    (∀ fs u, FirstReach env.lenient (Visit.LogsArity env.lenient) v fs u →
      ∃ name args body line column m e, ∃ s st' : RenderState,
        u.node = .call name args body line column ∧
        env.lookup name = some m ∧
        ((m.definition.accepted < args.length ∧
            e = .arity .tooMany m.name (.int m.definition.accepted) (.int args.length)
              (CallSite.position ⟨args, body, line, column⟩ env.template).recorded ∧
            s = m.scopeOpened body u.state ∧
            ∃ rest, ((bindArguments u.state.chain m.definition args false
              (CallSite.position ⟨args, body, line, column⟩ env.template)).run s).2.logs =
              s.logs ++ ⟨.debug, Binding.diagnostic m.definition args.length
                (CallSite.position ⟨args, body, line, column⟩ env.template)⟩ :: rest) ∨
          (args.length ≤ m.definition.accepted ∧
            e = .arity .tooFew m.name (.int m.definition.minRequired) (.int args.length)
              (CallSite.position ⟨args, body, line, column⟩ env.template).recorded ∧
            (bindArguments u.state.chain m.definition args false
              (CallSite.position ⟨args, body, line, column⟩ env.template)).run
                (m.scopeOpened body u.state) =
              (.ok (), { s with logs := s.logs ++ [⟨.debug, Binding.diagnostic m.definition
                args.length (CallSite.position ⟨args, body, line, column⟩ env.template)⟩] }))) ∧
        v.run env = (.error e, st') ∧ st'.output = s.output ∧ st'.logs = s.logs ∧
        st'.ticks = s.ticks ∧ st'.chain.root = s.chain.root) ∧
    (Avoids env.lenient (Visit.LogsArity env.lenient) v ∨
      ∃ fs u, FirstReach env.lenient (Visit.LogsArity env.lenient) v fs u) := by
  have hf := prologueChange_lenient hstrict
  refine ⟨hf.run_eq_of_avoids, fun fs u h => ?_, ?_⟩
  · obtain ⟨fuel, n, st⟩ := u
    have hhit := h.hit
    rcases fuel with _ | fuel
    · exact absurd hhit id
    cases n with
    | call name args body line column =>
      obtain ⟨m, hl, hcase⟩ := Visit.run_of_logsArity hstrict hhit
      rcases hcase with ⟨hn, hrest, hu⟩ | ⟨hn, s, hL, hu⟩
      · obtain ⟨st', hv, hout, hlog, hticks, hroot⟩ := hf.run_of_firstReach h hu rfl
        exact ⟨name, args, body, line, column, m, _, _, st', rfl, hl,
          .inl ⟨hn, rfl, rfl, hrest⟩, hv, hout, by simpa using hlog, hticks, hroot⟩
      · obtain ⟨st', hv, hout, hlog, hticks, hroot⟩ := hf.run_of_firstReach h hu rfl
        exact ⟨name, args, body, line, column, m, _, s, st', rfl, hl,
          .inr ⟨hn, rfl, hL⟩, hv, hout, by simpa using hlog, hticks, hroot⟩
    | _ => exact absurd hhit id
  · by_cases h : Avoids env.lenient (Visit.LogsArity env.lenient) v
    · exact .inl h
    · exact .inr (FirstReach.exists_of_not_avoids h)

def greetEnv : RenderEnv :=
  { registry := some ⟨[⟨⟨"greet", .param { name := "greet" }, [{ name := "who" }], some (.ref "who")⟩,
      ⟨true, .inherited, "bodyContent", 0⟩⟩]⟩ }

theorem strict_binding_promotes_greet_diagnostics :
    (∀ name m, greetEnv.lookup name = some m → m.config.strict = true) ∧
    ((Avoids greetEnv.lenient (Visit.LogsArity greetEnv.lenient) ⟨2, .call "greet" [] none .null .null, {}⟩ →
        Visit.run greetEnv ⟨2, .call "greet" [] none .null .null, {}⟩ = Visit.run greetEnv.lenient ⟨2, .call "greet" [] none .null .null, {}⟩) ∧
    (∀ fs u, FirstReach greetEnv.lenient (Visit.LogsArity greetEnv.lenient) ⟨2, .call "greet" [] none .null .null, {}⟩ fs u →
      ∃ name args body line column m e, ∃ s st' : RenderState,
        u.node = .call name args body line column ∧
        greetEnv.lookup name = some m ∧
        ((m.definition.accepted < args.length ∧
            e = .arity .tooMany m.name (.int m.definition.accepted) (.int args.length)
              (CallSite.position ⟨args, body, line, column⟩ greetEnv.template).recorded ∧
            s = m.scopeOpened body u.state ∧
            ∃ rest, ((bindArguments u.state.chain m.definition args false
              (CallSite.position ⟨args, body, line, column⟩ greetEnv.template)).run s).2.logs =
              s.logs ++ ⟨.debug, Binding.diagnostic m.definition args.length
                (CallSite.position ⟨args, body, line, column⟩ greetEnv.template)⟩ :: rest) ∨
          (args.length ≤ m.definition.accepted ∧
            e = .arity .tooFew m.name (.int m.definition.minRequired) (.int args.length)
              (CallSite.position ⟨args, body, line, column⟩ greetEnv.template).recorded ∧
            (bindArguments u.state.chain m.definition args false
              (CallSite.position ⟨args, body, line, column⟩ greetEnv.template)).run
                (m.scopeOpened body u.state) =
              (.ok (), { s with logs := s.logs ++ [⟨.debug, Binding.diagnostic m.definition
                args.length (CallSite.position ⟨args, body, line, column⟩ greetEnv.template)⟩] }))) ∧
        Visit.run greetEnv ⟨2, .call "greet" [] none .null .null, {}⟩ = (.error e, st') ∧ st'.output = s.output ∧ st'.logs = s.logs ∧
        st'.ticks = s.ticks ∧ st'.chain.root = s.chain.root) ∧
    (Avoids greetEnv.lenient (Visit.LogsArity greetEnv.lenient) ⟨2, .call "greet" [] none .null .null, {}⟩ ∨
      ∃ fs u, FirstReach greetEnv.lenient (Visit.LogsArity greetEnv.lenient) ⟨2, .call "greet" [] none .null .null, {}⟩ fs u)) := by
  have hstrict : ∀ name m, greetEnv.lookup name = some m → m.config.strict = true := by
    intro name m h
    obtain rfl := Registry.eq_of_find?_singleton h
    rfl
  exact ⟨hstrict, strict_binding_promotes_diagnostics hstrict _⟩

end TemplateMacro
