import TemplateMacro.Proofs.Simulation
/-!
The depth limit as a cut of the unlimited render. When every macro has the same positive limit
`d`, a render agrees with the same render without limits until that one first reaches the depth
guard with `d` invocations open; there the limited render stops with the depth fault of that
call, logs its message once and changes nothing else.
-/

namespace TemplateMacro

open RenderM

def RenderEnv.withMaxDepth (z : Int) (env : RenderEnv) : RenderEnv :=
  env.mapConfig fun c => { c with maxDepth := z }

/-- At `u`, a macro call has bound its arguments and reaches the depth guard with at least `d`
names on the stack. -/
def Visit.ChecksDeep (env : RenderEnv) (d : Int) : Visit → Prop
  | ⟨_ + 1, .call name args body line column, st⟩ =>
    ∃ m st', env.lookup name = some m ∧
      (bindArguments st.chain m.definition args m.config.strict
        (CallSite.position ⟨args, body, line, column⟩ env.template)).run (m.scopeOpened body st) =
        (.ok (), st') ∧
      d ≤ st.stack.size
  | _ => False

variable {env : RenderEnv} {d z : Int}

namespace RenderEnv

@[simp] theorem template_withMaxDepth : (env.withMaxDepth z).template = env.template := rfl

theorem lookup_withMaxDepth (name : String) :
    (env.withMaxDepth z).lookup name =
      (env.lookup name).map (Macro.mapConfig fun c => { c with maxDepth := z }) :=
  lookup_mapConfig env name

end RenderEnv

theorem prologueChange_withMaxDepth (hz : z ≤ 0)
    (hlim : ∀ name m, env.lookup name = some m → m.config.maxDepth = d) :
    PrologueChange env (fun c => { c with maxDepth := z })
      (Visit.ChecksDeep (env.withMaxDepth z) d) where
  visibility _ := rfl
  bodyReference _ := rfl
  prologue {fuel name args body line column st m} hl hH := by
    have hl₀ : (env.withMaxDepth z).lookup name =
        some (m.mapConfig fun c => { c with maxDepth := z }) := by
      rw [RenderEnv.lookup_withMaxDepth, hl, Option.map_some]
    simp only [Visit.ChecksDeep, RenderEnv.template_withMaxDepth, not_exists, not_and] at hH
    rw [Macro.run_prologue, Macro.run_prologue]
    simp only [Macro.definition_mapConfig, Macro.config_mapConfig, Macro.name_mapConfig]
    rcases hb : (bindArguments st.chain m.definition args m.config.strict
      (CallSite.position ⟨args, body, line, column⟩ env.template)).run (m.scopeOpened body st)
      with ⟨r, st'⟩
    rcases r with e | ⟨⟩
    · rfl
    · have hst := (stackNeutral_bindArguments _ _ _ _ _).stack_of_ok hb
      have hlt : (st.stack.size : Int) < d := Int.not_le.mp (hH _ st' hl₀ hb)
      simp only
      rw [Guard.run_check_of_fits _ _ (Or.inl hz), Guard.run_check_of_fits _ _
        (Or.inr (by rw [hst, Macro.scopeOpened_stack, hlim name m hl]; exact hlt))]

theorem Visit.run_of_checksDeep (hd : 0 < d)
    (hlim : ∀ name m, env.lookup name = some m → m.config.maxDepth = d) {fuel : Nat}
    {name : String} {args : List Node} {body : Option Node} {line column : Scalar}
    {st : RenderState}
    (h : Visit.ChecksDeep (env.withMaxDepth z) d ⟨fuel + 1, .call name args body line column, st⟩) :
    ∃ m st', env.lookup name = some m ∧
      (bindArguments st.chain m.definition args m.config.strict
        (CallSite.position ⟨args, body, line, column⟩ env.template)).run (m.scopeOpened body st) =
        (.ok (), st') ∧
      Visit.run env ⟨fuel + 1, .call name args body line column, st⟩ =
        (.error (.depthExceeded (.int d) m.name st.stack.toList
          (CallSite.position ⟨args, body, line, column⟩ env.template).recorded),
          { st' with
            logs := st'.logs ++ [⟨.error, Fault.depthMessage (.int d) m.name st.stack.toList
              (CallSite.position ⟨args, body, line, column⟩ env.template).recorded⟩],
            stack := #[], chain := st'.chain.pop }) := by
  simp only [Visit.ChecksDeep, RenderEnv.template_withMaxDepth] at h
  obtain ⟨m₀, st', hl₀, hb, hge⟩ := h
  rw [RenderEnv.lookup_withMaxDepth, Option.map_eq_some_iff] at hl₀
  obtain ⟨m, hl, rfl⟩ := hl₀
  simp only [Macro.definition_mapConfig, Macro.config_mapConfig,
    Macro.scopeOpened_mapConfig] at hb
  have hst := (stackNeutral_bindArguments _ _ _ _ _).stack_of_ok hb
  rw [Macro.scopeOpened_stack] at hst
  have hmax := hlim name m hl
  have hp : (m.prologue env.template ⟨args, body, line, column⟩ st.chain).run
      (m.scopeOpened body st) =
      (.error (.depthExceeded (.int d) m.name st.stack.toList
        (CallSite.position ⟨args, body, line, column⟩ env.template).recorded),
        { st' with
          logs := st'.logs ++ [⟨.error, Fault.depthMessage (.int d) m.name st.stack.toList
            (CallSite.position ⟨args, body, line, column⟩ env.template).recorded⟩],
          stack := #[] }) := by
    simp only [Macro.run_prologue, hb]
    rw [Guard.run_check_of_exceeds _ _ (hmax ▸ hd) (by rw [hst, hmax]; exact hge), hst, hmax]
  exact ⟨m, st', hl, hb, RenderEnv.run_render_call_of_prologue_error env fuel st hl hp⟩

theorem Child.frames_le_of_not_checksDeep {v w : Visit} {fs : List Frame} {done : List Visit}
    (hc : Child (env.withMaxDepth z) v fs done w) (hv : ¬ Visit.ChecksDeep (env.withMaxDepth z) d v)
    (hfs : fs ≠ []) : (v.state.stack.size + fs.length : Int) ≤ d := by
  cases hc with
  | body hl _ hp =>
    simp only [Visit.ChecksDeep, not_exists, not_and] at hv
    have hlt := Int.not_le.mp (hv _ _ hl (Macro.bind_of_run_prologue_ok hp))
    simp only [List.length_singleton]
    omega
  | _ => exact absurd rfl hfs

theorem FirstReach.frames_le {v u : Visit} {fs : List Frame}
    (h : FirstReach (env.withMaxDepth z) (Visit.ChecksDeep (env.withMaxDepth z) d) v fs u)
    (hfs : fs ≠ []) : (v.state.stack.size + fs.length : Int) ≤ d := by
  induction h with
  | here => exact absurd rfl hfs
  | @step v w u fs gs done hv hc _ _ ih =>
    have hsize : w.state.stack.size = v.state.stack.size + fs.length := by
      simpa using congrArg List.length hc.stack.1
    by_cases hgs : gs = []
    · subst hgs
      simpa using hc.frames_le_of_not_checksDeep hv (by simpa using hfs)
    · have hw := ih hgs
      rw [hsize] at hw
      simp only [List.length_append]
      omega

/-- The depth limit is the unlimited render cut off at its first deep check. Let every macro have
the limit `d > 0` and let the render of `v` start on an empty stack. If the same render without
limits never reaches the guard with `d` invocations open, the two renders are the same. Otherwise,
at its first such check, for a macro `m` whose arguments are bound in the state `st_b`, exactly
`d` invocations are open, and the limited render stops with the depth fault of `m` at that call,
listing the open invocations: its output, ticks and root values are those of `st_b`, and its log
is that of `st_b` with the fault's message once more. One of the two cases holds. -/
theorem depth_limit_cuts_unlimited_render (hd : 0 < d) (hz : z ≤ 0)
    (hlim : ∀ name m, env.lookup name = some m → m.config.maxDepth = d) (v : Visit)
    (hs : v.state.stack = #[]) :
    (Avoids (env.withMaxDepth z) (Visit.ChecksDeep (env.withMaxDepth z) d) v →
      v.run env = v.run (env.withMaxDepth z)) ∧
    (∀ fs u, FirstReach (env.withMaxDepth z) (Visit.ChecksDeep (env.withMaxDepth z) d) v fs u →
      (fs.length : Int) = d ∧
      ∃ name args body line column m st_b st', u.node = .call name args body line column ∧
        env.lookup name = some m ∧
        (bindArguments u.state.chain m.definition args m.config.strict
          (CallSite.position ⟨args, body, line, column⟩ env.template)).run
          (m.scopeOpened body u.state) = (.ok (), st_b) ∧
        v.run env = (.error (.depthExceeded (.int d) m.name (fs.map (·.callee.name))
          (CallSite.position ⟨args, body, line, column⟩ env.template).recorded), st') ∧
        st'.output = st_b.output ∧
        st'.logs = st_b.logs ++ [⟨.error, Fault.depthMessage (.int d) m.name
          (fs.map (·.callee.name)) (CallSite.position ⟨args, body, line, column⟩ env.template).recorded⟩] ∧
        st'.ticks = st_b.ticks ∧ st'.chain.root = st_b.chain.root) ∧
    (Avoids (env.withMaxDepth z) (Visit.ChecksDeep (env.withMaxDepth z) d) v ∨
      ∃ fs u, FirstReach (env.withMaxDepth z) (Visit.ChecksDeep (env.withMaxDepth z) d) v fs u) := by
  have hf := prologueChange_withMaxDepth hz hlim
  refine ⟨hf.run_eq_of_avoids, fun fs u h => ?_, ?_⟩
  · obtain ⟨fuel, n, st⟩ := u
    have hstack : st.stack.toList = fs.map (·.callee.name) := by
      simpa [hs] using (h.reach.stack).1
    have hhit := h.hit
    rcases fuel with _ | fuel
    · exact absurd hhit id
    cases n with
    | call name args body line column =>
      have hge : d ≤ (st.stack.size : Int) := by
        simp only [Visit.ChecksDeep] at hhit
        obtain ⟨_, _, _, _, hge⟩ := hhit
        exact hge
      have hlen : st.stack.size = fs.length := by
        simpa using congrArg List.length hstack
      have hle := h.frames_le (List.ne_nil_of_length_pos (by omega))
      rw [hs] at hle
      obtain ⟨m, st_b, hl, hb, hu⟩ := Visit.run_of_checksDeep hd hlim hhit
      obtain ⟨st', hv, hout, hlog, hticks, hroot⟩ := hf.run_of_firstReach h hu rfl
      simp only [hstack] at hv
      refine ⟨by simp at hle; omega, name, args, body, line, column, m, st_b, st', rfl, hl, hb, hv,
        hout, ?_, hticks, hroot⟩
      rw [hlog, List.append_nil, ← hstack]
    | _ => exact absurd hhit id
  · by_cases h : Avoids (env.withMaxDepth z) (Visit.ChecksDeep (env.withMaxDepth z) d) v
    · exact .inl h
    · exact .inr (FirstReach.exists_of_not_avoids h)

def selfCallEnv : RenderEnv :=
  { registry := some ⟨[⟨⟨"loop", .param { name := "loop" }, [], some (.call "loop" [] none .null .null)⟩,
      ⟨false, .inherited, "bodyContent", 1⟩⟩]⟩ }

theorem depth_limit_cuts_self_call :
    0 < (1 : Int) ∧ (0 : Int) ≤ 0 ∧
    (∀ name m, selfCallEnv.lookup name = some m → m.config.maxDepth = 1) ∧
    ({} : RenderState).stack = #[] ∧
    ((Avoids (selfCallEnv.withMaxDepth 0) (Visit.ChecksDeep (selfCallEnv.withMaxDepth 0) 1)
        ⟨2, .call "loop" [] none .null .null, {}⟩ →
      Visit.run selfCallEnv ⟨2, .call "loop" [] none .null .null, {}⟩ =
        Visit.run (selfCallEnv.withMaxDepth 0) ⟨2, .call "loop" [] none .null .null, {}⟩) ∧
    (∀ fs u, FirstReach (selfCallEnv.withMaxDepth 0) (Visit.ChecksDeep (selfCallEnv.withMaxDepth 0) 1)
        ⟨2, .call "loop" [] none .null .null, {}⟩ fs u →
      (fs.length : Int) = 1 ∧
      ∃ name args body line column m st_b st', u.node = .call name args body line column ∧
        selfCallEnv.lookup name = some m ∧
        (bindArguments u.state.chain m.definition args m.config.strict
          (CallSite.position ⟨args, body, line, column⟩ selfCallEnv.template)).run
          (m.scopeOpened body u.state) = (.ok (), st_b) ∧
        Visit.run selfCallEnv ⟨2, .call "loop" [] none .null .null, {}⟩ =
          (.error (.depthExceeded (.int 1) m.name (fs.map (·.callee.name))
            (CallSite.position ⟨args, body, line, column⟩ selfCallEnv.template).recorded), st') ∧
        st'.output = st_b.output ∧
        st'.logs = st_b.logs ++ [⟨.error, Fault.depthMessage (.int 1) m.name
          (fs.map (·.callee.name))
          (CallSite.position ⟨args, body, line, column⟩ selfCallEnv.template).recorded⟩] ∧
        st'.ticks = st_b.ticks ∧ st'.chain.root = st_b.chain.root) ∧
    (Avoids (selfCallEnv.withMaxDepth 0) (Visit.ChecksDeep (selfCallEnv.withMaxDepth 0) 1)
        ⟨2, .call "loop" [] none .null .null, {}⟩ ∨
      ∃ fs u, FirstReach (selfCallEnv.withMaxDepth 0)
        (Visit.ChecksDeep (selfCallEnv.withMaxDepth 0) 1) ⟨2, .call "loop" [] none .null .null, {}⟩
        fs u)) := by
  have hlim : ∀ name m, selfCallEnv.lookup name = some m → m.config.maxDepth = 1 := by
    intro name m h
    obtain rfl := Registry.eq_of_find?_singleton h
    rfl
  exact ⟨by decide, by decide, hlim, rfl,
    depth_limit_cuts_unlimited_render (by decide) (by decide) hlim _ rfl⟩

end TemplateMacro
