import TemplateMacro.Proofs.Steps
/-!
The call tree of a render: the nested visits a visit starts, closed under nesting by `Reach` with
the frames open around each, and the fault that leaves those frames, wrapped once by the innermost
frame unless it is a macro error.
-/

namespace TemplateMacro

/-- A node rendered with `fuel` levels of nesting left, from the state `state`. -/
structure Visit where
  fuel : Nat
  node : Node
  state : RenderState

/-- An invocation whose body is being rendered: the macro and the site of its call. -/
structure Frame where
  callee : Macro
  site : Site

namespace Visit

def run (env : RenderEnv) (v : Visit) : Except Fault Unit × RenderState :=
  (env.render v.fuel v.node).run v.state

end Visit

/-- `Child env v fs done w`: rendering `v` starts the visit `w` inside the frames `fs` it opens on
the way, once the visits `done` of `v` have run to completion. -/
inductive Child (env : RenderEnv) : Visit → List Frame → List Visit → Visit → Prop
  | ref {fuel : Nat} {x : String} {n : Node} {st : RenderState} :
      st.chain.get x Value.null = .node n →
      Child env ⟨fuel + 1, .ref x, st⟩ [] [] ⟨fuel, n, st⟩
  | head {fuel : Nat} {c : Node} {cs : List Node} {st : RenderState} :
      Child env ⟨fuel + 1, .block (c :: cs), st⟩ [] [] ⟨fuel, c, st⟩
  | tail {fuel : Nat} {c : Node} {cs : List Node} {st st' : RenderState} :
      (env.render fuel c).run st = (.ok (), st') →
      Child env ⟨fuel + 1, .block (c :: cs), st⟩ [] [⟨fuel, c, st⟩] ⟨fuel + 1, .block cs, st'⟩
  | thenBranch {fuel : Nat} {test yes : Node} {no : Option Node} {st st' : RenderState}
      {v : Value} :
      (RenderM.evalHere test).run st = (.ok v, st') → v.truthy = true →
      Child env ⟨fuel + 1, .cond test yes no, st⟩ [] [] ⟨fuel, yes, st'⟩
  | elseBranch {fuel : Nat} {test yes no : Node} {st st' : RenderState} {v : Value} :
      (RenderM.evalHere test).run st = (.ok v, st') → v.truthy = false →
      Child env ⟨fuel + 1, .cond test yes (some no), st⟩ [] [] ⟨fuel, no, st'⟩
  | body {fuel : Nat} {name : String} {args : List Node} {body : Option Node}
      {line column : Scalar} {st st' : RenderState} {m : Macro} {b : Node} :
      env.lookup name = some m → m.definition.body = some b →
      (m.prologue env.template ⟨args, body, line, column⟩ st.chain).run
        (m.scopeOpened body st) = (.ok (), st') →
      Child env ⟨fuel + 1, .call name args body line column, st⟩
        [⟨m, CallSite.position ⟨args, body, line, column⟩ env.template⟩] []
        ⟨fuel, b, { st' with stack := st'.stack.push m.name }⟩
  | source {fuel : Nat} {name : String} {args : List Node} {b : Node} {line column : Scalar}
      {st : RenderState} :
      env.lookup name = none →
      Child env ⟨fuel + 1, .call name args (some b) line column, st⟩ [] []
        ⟨fuel, b, { st with output := st.output ++ ("#@" ++ name ++ "(" ++ Node.sourceList args ++ ")") }⟩
  | tagged {fuel : Nat} {t : Nat} {n : Node} {st : RenderState} :
      Child env ⟨fuel + 1, .tagged t n, st⟩ [] [] ⟨fuel, n, st⟩

/-- The visits that rendering a visit starts, at any depth, with the frames open around each,
outermost first. -/
inductive Reach (env : RenderEnv) : Visit → List Frame → Visit → Prop
  | refl (v : Visit) : Reach env v [] v
  | step {v w u : Visit} {fs gs : List Frame} {done : List Visit} :
      Child env v fs done w → Reach env w gs u → Reach env v (fs ++ gs) u

def Avoids (env : RenderEnv) (H : Visit → Prop) (v : Visit) : Prop :=
  ∀ fs u, Reach env v fs u → ¬ H u

/-- `u` is the first visit of the render of `v` that satisfies `H`: no visit started before it
satisfies `H`, neither one it is nested in nor one that ran to completion before it. -/
inductive FirstReach (env : RenderEnv) (H : Visit → Prop) : Visit → List Frame → Visit → Prop
  | here {v : Visit} : H v → FirstReach env H v [] v
  | step {v w u : Visit} {fs gs : List Frame} {done : List Visit} :
      ¬ H v → Child env v fs done w → (∀ d ∈ done, Avoids env H d) →
      FirstReach env H w gs u → FirstReach env H v (fs ++ gs) u

namespace RenderEnv

open RenderM

variable (env : RenderEnv) (fuel : Nat) (st : RenderState)

theorem run_render_ref_node {x : String} {n : Node} (h : st.chain.get x Value.null = .node n) :
    (env.render (fuel + 1) (.ref x)).run st = (env.render fuel n).run st := by
  simp only [render]
  rw [run_bind_ok (run_chain st), h]

theorem run_render_block_cons (c : Node) (cs : List Node) :
    (env.render (fuel + 1) (.block (c :: cs))).run st =
      match (env.render fuel c).run st with
      | (.ok (), st') => (env.render (fuel + 1) (.block cs)).run st'
      | (.error f, st') => (.error f, st') := by
  simp only [render]
  rw [show (c :: cs).forM (env.render fuel) = (env.render fuel c >>= fun _ => cs.forM (env.render fuel))
    from rfl, run_bind]
  rcases (env.render fuel c).run st with ⟨r, st'⟩
  rcases r with f | ⟨⟩ <;> rfl

theorem run_render_cond (test yes : Node) (no : Option Node) :
    (env.render (fuel + 1) (.cond test yes no)).run st =
      match (evalHere test).run st with
      | (.ok v, st') =>
        if v.truthy then (env.render fuel yes).run st'
        else match no with
          | some e => (env.render fuel e).run st'
          | none => (.ok (), st')
      | (.error f, st') => (.error f, st') := by
  simp only [render]
  rw [run_bind]
  rcases (evalHere test).run st with ⟨r, st'⟩
  rcases r with f | v
  · rfl
  · simp only
    by_cases hv : v.truthy = true
    · simp only [hv, if_true]
    · simp only [hv, Bool.false_eq_true, if_false]
      cases no <;> rfl

theorem run_render_call_found {name : String} {m : Macro} (h : env.lookup name = some m)
    (args : List Node) (body : Option Node) (line column : Scalar) :
    (env.render (fuel + 1) (.call name args body line column)).run st =
      (m.invoke env.template (env.render fuel) ⟨args, body, line, column⟩ none).run st := by
  simp only [render, h]

theorem run_render_call_unknown {name : String} (h : env.lookup name = none)
    (args : List Node) (body : Option Node) (line column : Scalar) :
    (env.render (fuel + 1) (.call name args body line column)).run st =
      (writeCallSource (env.render fuel) name ⟨args, body, line, column⟩).run st := by
  simp only [render, h]

end RenderEnv

theorem Child.induction {env : RenderEnv} {P : Visit → Prop}
    (step : ∀ v, (∀ fs done w, Child env v fs done w → P w) → P v) (v : Visit) : P v := by
  obtain ⟨fuel, n, st⟩ := v
  induction fuel generalizing n st with
  | zero =>
    apply step
    intro fs done w h
    cases h
  | succ fuel ih =>
    have hblock : ∀ cs st, P ⟨fuel + 1, .block cs, st⟩ := by
      intro cs
      induction cs with
      | nil =>
        intro st
        apply step
        intro fs done w h
        cases h
      | cons c cs ihc =>
        intro st
        apply step
        intro fs done w h
        cases h with
        | head => exact ih _ _
        | tail _ => exact ihc _
    cases n with
    | block cs => exact hblock cs st
    | _ =>
      apply step
      intro fs done w h
      cases h <;> exact ih _ _

namespace Frame

/-- The fault that leaves the frames `fs`, outermost first, when `f` is raised inside all of
them: the innermost frame wraps a fault that is no macro error, and a macro error passes. -/
def translate (fs : List Frame) (f : Fault) : Fault :=
  match fs.getLast?, f.isMacroError with
  | some fr, false => .wrapped fr.callee.name fr.site.describe f
  | _, _ => f

def wrapLog (fs : List Frame) (f : Fault) : List LogRecord :=
  match fs.getLast?, f.isMacroError with
  | some fr, false => [⟨.error, Fault.wrappedMessage fr.callee.name fr.site.describe⟩]
  | _, _ => []

@[simp] theorem translate_nil (f : Fault) : translate [] f = f := rfl

@[simp] theorem wrapLog_nil (f : Fault) : wrapLog [] f = [] := rfl

theorem translate_of_isMacroError (fs : List Frame) {f : Fault} (h : f.isMacroError = true) :
    translate fs f = f := by
  unfold translate
  split <;> simp_all

theorem wrapLog_of_isMacroError (fs : List Frame) {f : Fault} (h : f.isMacroError = true) :
    wrapLog fs f = [] := by
  unfold wrapLog
  split <;> simp_all

theorem translate_append (fs gs : List Frame) (f : Fault) :
    translate (fs ++ gs) f = translate fs (translate gs f) := by
  cases hg : gs.getLast? with
  | none => simp [List.getLast?_eq_none_iff.mp hg]
  | some fr =>
    cases hf : f.isMacroError
    · have hgs : translate gs f = .wrapped fr.callee.name fr.site.describe f := by
        simp [translate, hg, hf]
      have hall : translate (fs ++ gs) f = .wrapped fr.callee.name fr.site.describe f := by
        simp [translate, List.getLast?_append, hg, hf]
      rw [hall, hgs, translate_of_isMacroError fs rfl]
    · simp [translate_of_isMacroError _ hf]

theorem wrapLog_append (fs gs : List Frame) (f : Fault) :
    wrapLog (fs ++ gs) f = wrapLog gs f ++ wrapLog fs (translate gs f) := by
  cases hg : gs.getLast? with
  | none => simp [List.getLast?_eq_none_iff.mp hg]
  | some fr =>
    cases hf : f.isMacroError
    · have hgs : translate gs f = .wrapped fr.callee.name fr.site.describe f := by
        simp [translate, hg, hf]
      have hall : wrapLog (fs ++ gs) f = wrapLog gs f := by
        simp [wrapLog, List.getLast?_append, hg, hf]
      rw [hall, hgs, wrapLog_of_isMacroError fs rfl, List.append_nil]
    · simp [wrapLog_of_isMacroError _ hf, translate_of_isMacroError _ hf]

end Frame

def RenderState.Unwound (extra : List LogRecord) (st st' : RenderState) : Prop :=
  st'.output = st.output ∧ st'.logs = st.logs ++ extra ∧ st'.ticks = st.ticks ∧
    st'.chain.root = st.chain.root

namespace RenderState.Unwound

theorem refl (st : RenderState) : Unwound [] st st := ⟨rfl, by simp, rfl, rfl⟩

theorem trans {a b : List LogRecord} {st st' st'' : RenderState} (h : Unwound a st st')
    (h' : Unwound b st' st'') : Unwound (a ++ b) st st'' :=
  ⟨h'.1.trans h.1, by rw [h'.2.1, h.2.1, List.append_assoc], h'.2.2.1.trans h.2.2.1,
    h'.2.2.2.trans h.2.2.2⟩

end RenderState.Unwound

namespace Avoids

variable {env : RenderEnv} {H : Visit → Prop}

theorem not_hit {v : Visit} (h : Avoids env H v) : ¬ H v := h [] v (.refl v)

theorem child {v w : Visit} {fs : List Frame} {done : List Visit} (h : Avoids env H v)
    (hc : Child env v fs done w) : Avoids env H w :=
  fun _ _ hr => h _ _ (.step hc hr)

end Avoids

namespace FirstReach

variable {env : RenderEnv} {H : Visit → Prop}

theorem reach {v u : Visit} {fs : List Frame} (h : FirstReach env H v fs u) : Reach env v fs u := by
  induction h with
  | here => exact .refl _
  | step _ hc _ _ ih => exact .step hc ih

theorem hit {v u : Visit} {fs : List Frame} (h : FirstReach env H v fs u) : H u := by
  induction h with
  | here hv => exact hv
  | step _ _ _ _ ih => exact ih

end FirstReach

end TemplateMacro

namespace TemplateMacro

open RenderM

variable {env : RenderEnv}

theorem Child.run_of_error {v w : Visit} {fs : List Frame} {done : List Visit} {f : Fault}
    {st : RenderState} (hc : Child env v fs done w) (hw : w.run env = (.error f, st)) :
    ∃ st', v.run env = (.error (Frame.translate fs f), st') ∧
      st.Unwound (Frame.wrapLog fs f) st' := by
  cases hc with
  | ref h =>
    refine ⟨st, ?_, .refl st⟩
    simpa [Visit.run, RenderEnv.run_render_ref_node env _ _ h] using hw
  | head =>
    refine ⟨st, ?_, .refl st⟩
    simp only [Visit.run] at hw ⊢
    rw [RenderEnv.run_render_block_cons, hw]
    rfl
  | tail h =>
    refine ⟨st, ?_, .refl st⟩
    simp only [Visit.run] at hw ⊢
    rw [RenderEnv.run_render_block_cons, h]
    exact hw
  | thenBranch h ht =>
    refine ⟨st, ?_, .refl st⟩
    simp only [Visit.run] at hw ⊢
    rw [RenderEnv.run_render_cond, h]
    simpa [ht] using hw
  | elseBranch h ht =>
    refine ⟨st, ?_, .refl st⟩
    simp only [Visit.run] at hw ⊢
    rw [RenderEnv.run_render_cond, h]
    simpa [ht] using hw
  | body hl hb hp =>
    simp only [Visit.run] at hw ⊢
    rw [RenderEnv.run_render_call_found env _ _ hl, Macro.run_invoke]
    simp only [Option.orElse_none, hp, Macro.renderBody, hb, run_wrapFaults, hw]
    cases hm : f.isMacroError
    · simp only [Bool.false_eq_true, if_false]
      exact ⟨_, Prod.ext (by simp [Frame.translate, hm]) rfl, rfl, by simp [Frame.wrapLog, hm], rfl, rfl⟩
    · simp only [if_true]
      exact ⟨_, Prod.ext (by simp [Frame.translate, hm]) rfl, rfl, by simp [Frame.wrapLog, hm], rfl, rfl⟩
  | source hl =>
    refine ⟨st, ?_, .refl st⟩
    simp only [Visit.run] at hw ⊢
    rw [RenderEnv.run_render_call_unknown env _ _ hl]
    simp only [writeCallSource]
    rw [run_bind_ok (run_write _ _), run_bind_error hw]
    rfl
  | tagged =>
    exact ⟨st, hw, .refl st⟩

/-- A fault raised at a visit reached with the frames `fs` open leaves the whole render
translated once by the innermost of them, with nothing else logged, written or counted. -/
theorem Reach.run_of_error {v u : Visit} {fs : List Frame} {f : Fault} {st : RenderState}
    (h : Reach env v fs u) (hu : u.run env = (.error f, st)) :
    ∃ st', v.run env = (.error (Frame.translate fs f), st') ∧
      st.Unwound (Frame.wrapLog fs f) st' := by
  induction h with
  | refl => exact ⟨st, hu, .refl st⟩
  | @step v w u fs gs done hc _ ih =>
    obtain ⟨st₁, hw, hst₁⟩ := ih hu
    obtain ⟨st₂, hv, hst₂⟩ := hc.run_of_error hw
    refine ⟨st₂, ?_, ?_⟩
    · rw [hv, Frame.translate_append]
    · rw [Frame.wrapLog_append]
      exact hst₁.trans hst₂

end TemplateMacro
