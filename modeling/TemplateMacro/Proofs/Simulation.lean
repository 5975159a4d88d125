import TemplateMacro.Proofs.FaultTranslation
/-!
Two renders whose macros differ only in configuration. When the change keeps the scope an
invocation opens and changes what an invocation's prologue does only at the visits where `H`
holds, the renders agree up to the first such visit of the changed one: a render that reaches
none is unchanged, and otherwise the first such visit is reached by both, in the same state.
-/

namespace TemplateMacro

def Macro.mapConfig (f : MacroConfig → MacroConfig) (m : Macro) : Macro := ⟨m.definition, f m.config⟩

def Registry.mapConfig (f : MacroConfig → MacroConfig) (r : Registry) : Registry :=
  ⟨r.macros.map (Macro.mapConfig f)⟩

def RenderEnv.mapConfig (f : MacroConfig → MacroConfig) (env : RenderEnv) : RenderEnv :=
  { env with registry := env.registry.map (Registry.mapConfig f) }

variable {f : MacroConfig → MacroConfig}

namespace Macro

@[simp] theorem name_mapConfig (m : Macro) : (m.mapConfig f).name = m.name := rfl

@[simp] theorem definition_mapConfig (m : Macro) : (m.mapConfig f).definition = m.definition :=
  rfl

@[simp] theorem config_mapConfig (m : Macro) : (m.mapConfig f).config = f m.config := rfl

theorem scopeOpened_mapConfig {m : Macro} (hv : (f m.config).visibility = m.config.visibility)
    (hb : (f m.config).bodyReference = m.config.bodyReference) (body : Option Node)
    (st : RenderState) : (m.mapConfig f).scopeOpened body st = m.scopeOpened body st := by
  simp only [scopeOpened, config_mapConfig, hv, hb]

end Macro

theorem Registry.find?_mapConfig (r : Registry) (name : String) :
    (r.mapConfig f).find? name = (r.find? name).map (Macro.mapConfig f) := by
  simp only [Registry.find?, Registry.mapConfig, List.find?_map]
  rfl

theorem Registry.eq_of_find?_singleton {m m' : Macro} {name : String}
    (h : (⟨[m]⟩ : Registry).find? name = some m') : m' = m := by
  simp only [Registry.find?, List.find?] at h
  split at h <;> cases h
  rfl

namespace RenderEnv

open RenderM

@[simp] theorem template_mapConfig (env : RenderEnv) : (env.mapConfig f).template = env.template :=
  rfl

theorem lookup_mapConfig (env : RenderEnv) (name : String) :
    (env.mapConfig f).lookup name = (env.lookup name).map (Macro.mapConfig f) := by
  cases h : env.registry with
  | none => simp [lookup, mapConfig, h]
  | some r => simp [lookup, mapConfig, h, Registry.find?_mapConfig]

variable (env : RenderEnv) (fuel : Nat) (st : RenderState)

theorem run_render_ref_scalar (env' : RenderEnv) {x : String} {c : Scalar}
    (h : st.chain.get x Value.null = .scalar c) :
    (env.render (fuel + 1) (.ref x)).run st = (env'.render (fuel + 1) (.ref x)).run st := by
  simp only [render]
  rw [run_bind_ok (run_chain st), run_bind_ok (run_chain st), h]
  cases c <;> rfl

theorem run_render_call_of_prologue_error {name : String} {m : Macro} {args : List Node}
    {body : Option Node} {line column : Scalar} {e : Fault} {st' : RenderState}
    (hl : env.lookup name = some m)
    (hp : (m.prologue env.template ⟨args, body, line, column⟩ st.chain).run
      (m.scopeOpened body st) = (.error e, st')) :
    (env.render (fuel + 1) (.call name args body line column)).run st =
      (.error e, { st' with chain := st'.chain.pop }) := by
  rw [run_render_call_found env fuel st hl, Macro.run_invoke]
  simp only [Option.orElse_none, hp]

end RenderEnv

theorem Child.done_child {env : RenderEnv} {v w d : Visit} {fs : List Frame} {done : List Visit}
    (hc : Child env v fs done w) (hd : d ∈ done) : Child env v [] [] d := by
  cases hc with
  | tail _ =>
    rw [List.mem_singleton] at hd
    subst hd
    exact .head
  | _ => simp at hd

theorem FirstReach.exists_of_not_avoids {env : RenderEnv} {H : Visit → Prop} {v : Visit}
    (h : ¬ Avoids env H v) : ∃ fs u, FirstReach env H v fs u := by
  refine @Child.induction env (fun v => ¬ Avoids env H v → ∃ fs u, FirstReach env H v fs u)
    (fun v ih hv => ?_) v h
  by_cases hH : H v
  · exact ⟨[], v, .here hH⟩
  obtain ⟨fs, done, w, hc, hw⟩ : ∃ fs done w, Child env v fs done w ∧ ¬ Avoids env H w := by
    obtain ⟨fs, u, hr, hu⟩ : ∃ fs u, Reach env v fs u ∧ H u := by
      simpa [Avoids, Classical.not_forall] using hv
    cases hr with
    | refl => exact absurd hu hH
    | step hc hr' => exact ⟨_, _, _, hc, fun hw => hw _ _ hr' hu⟩
  -- take it below the earliest nested render that does not avoid `H`
  by_cases hdone : ∀ d ∈ done, Avoids env H d
  · obtain ⟨gs, u, hu⟩ := ih fs done w hc hw
    exact ⟨fs ++ gs, u, .step hH hc hdone hu⟩
  · obtain ⟨d, hd, hnd⟩ : ∃ d ∈ done, ¬ Avoids env H d := by
      simpa [Classical.not_forall] using hdone
    obtain ⟨gs, u, hu⟩ := ih [] [] d (hc.done_child hd) hnd
    exact ⟨[] ++ gs, u, .step hH (hc.done_child hd) (by simp) hu⟩

/-- `f` keeps the scope an invocation opens, and changes what an invocation's prologue does
only at the call visits where `H` holds. -/
structure PrologueChange (env : RenderEnv) (f : MacroConfig → MacroConfig) (H : Visit → Prop) :
    Prop where
  visibility : ∀ c, (f c).visibility = c.visibility
  bodyReference : ∀ c, (f c).bodyReference = c.bodyReference
  prologue : ∀ {fuel name args body line column st m}, env.lookup name = some m →
    ¬ H ⟨fuel + 1, .call name args body line column, st⟩ →
    ((m.mapConfig f).prologue env.template ⟨args, body, line, column⟩ st.chain).run
        (m.scopeOpened body st) =
      (m.prologue env.template ⟨args, body, line, column⟩ st.chain).run (m.scopeOpened body st)

namespace PrologueChange

open RenderM

variable {env : RenderEnv} {H : Visit → Prop}

theorem run_eq_of_children (hf : PrologueChange env f H) {v : Visit} (hv : ¬ H v)
    (ih : ∀ fs done w, Child (env.mapConfig f) v fs done w → w.run env = w.run (env.mapConfig f)) :
    v.run env = v.run (env.mapConfig f) := by
  obtain ⟨fuel, n, st⟩ := v
  rcases fuel with _ | fuel
  · rfl
  simp only [Visit.run]
  cases n with
  | ref x =>
    rcases hx : st.chain.get x Value.null with c | n
    · exact RenderEnv.run_render_ref_scalar _ _ _ _ hx
    · rw [RenderEnv.run_render_ref_node _ _ _ hx, RenderEnv.run_render_ref_node _ _ _ hx]
      exact ih _ _ _ (.ref hx)
  | block cs =>
    cases cs with
    | nil => rfl
    | cons c cs =>
      rw [RenderEnv.run_render_block_cons, RenderEnv.run_render_block_cons]
      have hc := ih _ _ ⟨fuel, c, st⟩ .head
      simp only [Visit.run] at hc
      rw [hc]
      rcases h : ((env.mapConfig f).render fuel c).run st with ⟨r, st'⟩
      rcases r with e | ⟨⟩
      · rfl
      · exact ih _ _ _ (.tail h)
  | cond test yes no =>
    rw [RenderEnv.run_render_cond, RenderEnv.run_render_cond]
    rcases h : (evalHere test).run st with ⟨r, st'⟩
    rcases r with e | w
    · rfl
    · simp only
      by_cases ht : w.truthy = true
      · simp only [ht, if_true]
        exact ih _ _ _ (.thenBranch h ht)
      · simp only [ht, Bool.false_eq_true, if_false]
        cases no with
        | none => rfl
        | some e => exact ih _ _ _ (.elseBranch h (by simpa using ht))
  | call name args body line column =>
    cases hl : env.lookup name with
    | none =>
      have hl' : (env.mapConfig f).lookup name = none := by simp [RenderEnv.lookup_mapConfig, hl]
      rw [RenderEnv.run_render_call_unknown _ _ _ hl, RenderEnv.run_render_call_unknown _ _ _ hl']
      cases body with
      | none => rfl
      | some b =>
        have hb := ih _ _ _ (.source hl')
        simp only [Visit.run] at hb
        simp only [writeCallSource]
        rw [run_bind_ok (run_write _ _), run_bind_ok (run_write _ _), run_bind, run_bind, hb]
    | some m =>
      have hl' : (env.mapConfig f).lookup name = some (m.mapConfig f) := by
        simp [RenderEnv.lookup_mapConfig, hl]
      have hopen := Macro.scopeOpened_mapConfig (hf.visibility m.config)
        (hf.bodyReference m.config) body st
      rw [RenderEnv.run_render_call_found _ _ _ hl, RenderEnv.run_render_call_found _ _ _ hl',
        Macro.run_invoke, Macro.run_invoke]
      simp only [Option.orElse_none, RenderEnv.template_mapConfig, hopen, hf.prologue hl hv]
      rcases hp : (m.prologue env.template ⟨args, body, line, column⟩ st.chain).run
        (m.scopeOpened body st) with ⟨r, st₁⟩
      rcases r with e | ⟨⟩
      · rfl
      · simp only [Macro.renderBody, Macro.definition_mapConfig, Macro.name_mapConfig]
        cases hb : m.definition.body with
        | none => rfl
        | some b =>
          have hp' : ((m.mapConfig f).prologue (env.mapConfig f).template
              ⟨args, body, line, column⟩ st.chain).run ((m.mapConfig f).scopeOpened body st) =
                (.ok (), st₁) := by
            rw [RenderEnv.template_mapConfig, hopen, hf.prologue hl hv, hp]
          have hbody := ih _ _ _ (.body hl' hb hp')
          simp only [Visit.run, Macro.name_mapConfig] at hbody
          simp only [run_wrapFaults, hbody]
  | tagged t n => exact ih _ _ ⟨fuel, n, st⟩ .tagged
  | _ => rfl

/-- A render that avoids `H` is the same in both environments. -/
theorem run_eq_of_avoids (hf : PrologueChange env f H) {v : Visit}
    (h : Avoids (env.mapConfig f) H v) : v.run env = v.run (env.mapConfig f) := by
  refine @Child.induction (env.mapConfig f)
    (fun v => Avoids (env.mapConfig f) H v → v.run env = v.run (env.mapConfig f))
    (fun v ih hv => ?_) v h
  exact hf.run_eq_of_children hv.not_hit fun fs done w hc => ih fs done w hc (hv.child hc)

theorem child (hf : PrologueChange env f H) {v w : Visit} {fs : List Frame} {done : List Visit}
    (hc : Child (env.mapConfig f) v fs done w) (hv : ¬ H v)
    (hdone : ∀ d ∈ done, d.run env = d.run (env.mapConfig f)) : ∃ fs', Child env v fs' done w := by
  cases hc with
  | ref h => exact ⟨_, .ref h⟩
  | head => exact ⟨_, .head⟩
  | tail h =>
    have hhead := hdone _ (List.mem_singleton_self _)
    simp only [Visit.run] at hhead
    exact ⟨_, .tail (hhead.trans h)⟩
  | thenBranch h ht => exact ⟨_, .thenBranch h ht⟩
  | elseBranch h ht => exact ⟨_, .elseBranch h ht⟩
  | body hl hb hp =>
    rw [RenderEnv.lookup_mapConfig, Option.map_eq_some_iff] at hl
    obtain ⟨m, hl, rfl⟩ := hl
    rw [RenderEnv.template_mapConfig, Macro.scopeOpened_mapConfig (hf.visibility m.config)
      (hf.bodyReference m.config), hf.prologue hl hv] at hp
    exact ⟨_, .body (m := m) hl hb hp⟩
  | source hl =>
    rw [RenderEnv.lookup_mapConfig, Option.map_eq_none_iff] at hl
    exact ⟨_, .source hl⟩
  | tagged => exact ⟨_, .tagged⟩

/-- The first visit of the changed render that satisfies `H` is reached by the original render
too, in the same state. -/
theorem reach_of_firstReach (hf : PrologueChange env f H) {v u : Visit} {fs : List Frame}
    (h : FirstReach (env.mapConfig f) H v fs u) : ∃ fs', Reach env v fs' u := by
  induction h with
  | here => exact ⟨[], .refl _⟩
  | step hv hc hdone _ ih =>
    obtain ⟨gs, hr⟩ := ih
    obtain ⟨fs', hc'⟩ := hf.child hc hv fun d hd => hf.run_eq_of_avoids (hdone d hd)
    exact ⟨fs' ++ gs, .step hc' hr⟩

theorem run_of_firstReach (hf : PrologueChange env f H) {v u : Visit} {fs : List Frame}
    (h : FirstReach (env.mapConfig f) H v fs u) {e : Fault} {st : RenderState}
    (hu : u.run env = (.error e, st)) (he : e.isMacroError = true) :
    ∃ st', v.run env = (.error e, st') ∧ st.Unwound [] st' := by
  obtain ⟨fs', hr⟩ := hf.reach_of_firstReach h
  obtain ⟨st', hv, hst'⟩ := hr.run_of_error hu
  rw [Frame.translate_of_isMacroError _ he] at hv
  rw [Frame.wrapLog_of_isMacroError _ he] at hst'
  exact ⟨st', hv, hst'⟩

end PrologueChange

end TemplateMacro
