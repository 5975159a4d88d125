import TemplateMacro.Proofs.CallTree
/-!
The call-stack discipline of renders: every invocation pushes its name and cuts the stack back to
its depth on the way out, and only the depth guard empties it. A render ends on the stack it began
with, or on an empty one when the guard stopped it.
-/

namespace TemplateMacro

def Fault.exceedsDepth : Fault → Bool
  | .depthExceeded .. => true
  | _ => false

def exceededDepth {α : Type} : Except Fault α → Bool
  | .error f => f.exceedsDepth
  | .ok _ => false

@[simp] theorem exceededDepth_error {α : Type} (f : Fault) :
    exceededDepth (.error f : Except Fault α) = f.exceedsDepth := rfl

@[simp] theorem exceededDepth_ok {α : Type} (a : α) :
    exceededDepth (.ok a : Except Fault α) = false := rfl

theorem Fault.isMacroError_of_exceedsDepth {f : Fault} (h : f.exceedsDepth = true) :
    f.isMacroError = true := by
  cases f <;> simp_all [exceedsDepth, isMacroError]

namespace EvalM

variable {α : Type}

/-- The evaluation never stops with a depth fault. -/
def NoDepthFault (x : EvalM α) : Prop :=
  ∀ t f t', (ExceptT.run x).run t = (.error f, t') → f.exceedsDepth = false

end EvalM

open EvalM

theorem Fault.exceedsDepth_of_ofEvaluation {f : Fault} (h : f.ofEvaluation = true) :
    f.exceedsDepth = false := by
  cases f <;> simp_all [ofEvaluation, exceedsDepth]

/-- Evaluation never stops with a depth fault: every fault it raises is one of its own. -/
theorem Node.noDepthFault_eval (c : Chain) (n : Node) : NoDepthFault (n.eval c) :=
  fun t f t' h => Fault.exceedsDepth_of_ofEvaluation (failsWithin_eval c n t f t' h)

namespace RenderM

variable {α β : Type}

/-- The computation leaves the call stack as it found it and never stops with a depth fault. -/
def StackNeutral (x : RenderM α) : Prop :=
  ∀ st, (x.run st).2.stack = st.stack ∧ exceededDepth (x.run st).1 = false

namespace StackNeutral

theorem pure (a : α) : StackNeutral (Pure.pure a : RenderM α) := fun _ => ⟨rfl, rfl⟩

theorem throw {f : Fault} (hf : f.exceedsDepth = false) :
    StackNeutral (MonadExcept.throw f : RenderM α) :=
  fun _ => ⟨rfl, hf⟩

theorem bind {x : RenderM α} {g : α → RenderM β} (hx : StackNeutral x)
    (hg : ∀ a, StackNeutral (g a)) : StackNeutral (x >>= g) := by
  intro st
  rw [run_bind]
  rcases h : x.run st with ⟨r, st'⟩
  obtain ⟨hs, hd⟩ := hx st
  rw [h] at hs hd
  rcases r with f | a
  · exact ⟨hs, hd⟩
  · obtain ⟨hs', hd'⟩ := hg a st'
    exact ⟨hs'.trans hs, hd'⟩

theorem stack_of_ok {x : RenderM α} {st st' : RenderState} {a : α} (h : StackNeutral x)
    (hx : x.run st = (.ok a, st')) : st'.stack = st.stack := by
  have hs := (h st).1
  rwa [hx] at hs

theorem write (s : String) : StackNeutral (write s) := fun _ => ⟨rfl, rfl⟩

theorem log (level : LogLevel) (message : String) : StackNeutral (log level message) :=
  fun _ => ⟨rfl, rfl⟩

theorem chain : StackNeutral chain := fun _ => ⟨rfl, rfl⟩

theorem stack : StackNeutral stack := fun _ => ⟨rfl, rfl⟩

theorem depth : StackNeutral depth := fun _ => ⟨rfl, rfl⟩

theorem modifyChain (g : Chain → Chain) : StackNeutral (modifyChain g) := fun _ => ⟨rfl, rfl⟩

theorem evalIn (c : Chain) (e : Node) : StackNeutral (evalIn c e) := by
  intro st
  rw [run_evalIn]
  refine ⟨rfl, ?_⟩
  rcases h : (ExceptT.run (e.eval c)).run st.ticks with ⟨r, t⟩
  rcases r with f | v
  · exact Node.noDepthFault_eval c e st.ticks f t h
  · rfl

theorem evalHere (e : Node) : StackNeutral (evalHere e) :=
  .bind chain fun c => evalIn c e

theorem writeValue (v : Value) : StackNeutral (writeValue v) := by
  unfold RenderM.writeValue
  split
  · exact write _
  · exact throw (Fault.exceedsDepth_of_ofEvaluation (Value.ofEvaluation_of_written ‹_›))

end StackNeutral

end RenderM

open RenderM

theorem Binding.stackNeutral_bindParams (caller : Chain) (d : Definition) (strict : Bool)
    (site : Site) (given : Nat) :
    ∀ args ps, StackNeutral (Binding.bindParams caller d strict site given args ps)
  | _, [] => .pure ()
  | a :: args, p :: ps =>
    .bind (.evalIn caller a) fun _ =>
      .bind (.modifyChain _) fun _ => stackNeutral_bindParams caller d strict site given args ps
  | [], p :: ps => by
    unfold Binding.bindParams
    cases p.default with
    | some e =>
      exact .bind (.evalIn caller e) fun _ =>
        .bind (.modifyChain _) fun _ => stackNeutral_bindParams caller d strict site given [] ps
    | none =>
      cases strict
      · exact .log _ _
      · exact .throw rfl

theorem stackNeutral_bindArguments (caller : Chain) (d : Definition) (args : List Node)
    (strict : Bool) (site : Site) : StackNeutral (bindArguments caller d args strict site) := by
  have hparams := Binding.stackNeutral_bindParams caller d strict site args.length args d.params
  unfold bindArguments
  simp only
  split
  · split
    · exact .bind (.throw rfl) fun _ => hparams
    · exact .bind (.log _ _) fun _ => hparams
  · exact hparams

namespace CallStack

@[simp] theorem truncate_push (names : Array String) (x : String) :
    truncate names.size (names.push x) = names := by
  simp [truncate, Array.shrink_eq_take]

@[simp] theorem truncate_empty (d : Nat) : truncate d #[] = #[] := by
  simp [truncate, Array.shrink_eq_take]

theorem truncate_natCast (d : Nat) (names : Array String) : truncate d names = names.take d := by
  simp [truncate, Array.shrink_eq_take]

/-- Cutting a stack that extends `names` back to the depth of `names` gives `names` again. -/
theorem take_size_of_prefix {names longer : Array String} (h : names.toList <+: longer.toList) :
    longer.take names.size = names := by
  apply Array.toList_inj.mp
  simp only [Array.take_eq_extract, Array.toList_extract, List.extract_eq_take_drop, Nat.sub_zero,
    List.drop_zero, ← Array.length_toList]
  exact (List.prefix_iff_eq_take.mp h).symm

end CallStack

theorem Guard.stack_of_run_check_error {d : Int} {name : String} {site : Site}
    {st st' : RenderState} {f : Fault} (h : (check (.int d) name site).run st = (.error f, st')) :
    f.exceedsDepth = true ∧ st'.stack = #[] := by
  by_cases hf : d ≤ 0 ∨ (st.stack.size : Int) < d
  · rw [run_check_of_fits name site hf] at h
    cases h
  · rw [run_check_of_exceeds name site (by omega) (by omega)] at h
    cases h
    exact ⟨rfl, rfl⟩

namespace Guard

variable {α : Type} {d : Int} (name : String) (site : Site) (body : RenderM α) {st : RenderState}

theorem run_enter_of_exceeds (h1 : 0 < d) (h2 : d ≤ st.stack.size) :
    (enter (.int d) name site body).run st =
      (.error (.depthExceeded (.int d) name st.stack.toList site.recorded),
        { st with
          logs := st.logs ++
            [⟨.error, Fault.depthMessage (.int d) name st.stack.toList site.recorded⟩],
          stack := #[] }) := by
  rw [run_enter, run_check_of_exceeds name site h1 h2]

theorem run_enter_of_fits (h : d ≤ 0 ∨ (st.stack.size : Int) < d) :
    (enter (.int d) name site body).run st =
      let r := body.run { st with stack := st.stack.push name }
      (r.1, { r.2 with stack := r.2.stack.take st.stack.size }) := by
  rw [run_enter, run_check_of_fits name site h]
  simp only [CallStack.truncate_natCast]

end Guard

/-- The entry contract of the depth guard, for every limit `d`, stack `S`, name and body. At or
past a positive limit the guard logs and raises the depth fault naming `S`, empties the stack
and runs nothing of the body. Otherwise it runs the body on `S` with the name pushed, passes on
whatever the body returns or raises, and leaves the first `min |S| |T|` names of the stack `T`
the body left behind: `S` again when the body kept `S` as a prefix, and the empty stack when the
body emptied it. -/
theorem Guard.enter_stops_or_cuts_back {α : Type} (d : Int) (name : String) (site : Site)
    (body : RenderM α) (st : RenderState) :
    ((enter (.int d) name site body).run st =
      if 0 < d ∧ d ≤ st.stack.size then
        (.error (.depthExceeded (.int d) name st.stack.toList site.recorded),
          { st with
            logs := st.logs ++
              [⟨.error, Fault.depthMessage (.int d) name st.stack.toList site.recorded⟩],
            stack := #[] })
      else
        let r := body.run { st with stack := st.stack.push name }
        (r.1, { r.2 with stack := r.2.stack.take st.stack.size })) ∧
    (¬(0 < d ∧ d ≤ st.stack.size) →
      st.stack.toList <+: (body.run { st with stack := st.stack.push name }).2.stack.toList →
      ((enter (.int d) name site body).run st).2.stack = st.stack) ∧
    ((body.run { st with stack := st.stack.push name }).2.stack = #[] →
      ((enter (.int d) name site body).run st).2.stack = #[]) := by
  by_cases hx : 0 < d ∧ d ≤ st.stack.size
  · have hrun := run_enter_of_exceeds name site body hx.1 hx.2
    refine ⟨by rw [if_pos hx, hrun], fun hfits => absurd hx hfits, fun _ => by rw [hrun]⟩
  · have hfits : d ≤ 0 ∨ (st.stack.size : Int) < d := by omega
    have hrun := run_enter_of_fits name site body hfits
    refine ⟨by rw [if_neg hx, hrun], fun _ hpre => ?_, fun hempty => ?_⟩
    · rw [hrun]
      exact CallStack.take_size_of_prefix hpre
    · simp [hrun, hempty]

namespace Macro

variable {m : Macro} {template : Scalar} {site : CallSite} {caller : Chain}
  {st st' : RenderState}

theorem stack_of_run_prologue_ok
    (h : (m.prologue template site caller).run st = (.ok (), st')) :
    st'.stack = st.stack ∧ (m.config.maxDepth ≤ 0 ∨ (st.stack.size : Int) < m.config.maxDepth) := by
  have hb := bind_of_run_prologue_ok h
  have hs := (stackNeutral_bindArguments _ _ _ _ _).stack_of_ok hb
  rw [run_prologue, hb] at h
  exact ⟨hs, hs ▸ (Guard.eq_of_run_check_ok h).2⟩

theorem stack_of_run_prologue_error {f : Fault}
    (h : (m.prologue template site caller).run st = (.error f, st')) :
    st'.stack = if f.exceedsDepth then #[] else st.stack := by
  rw [run_prologue] at h
  obtain ⟨hs, hd⟩ := stackNeutral_bindArguments caller m.definition site.args m.config.strict
    (site.position template) st
  rcases hb : (bindArguments caller m.definition site.args m.config.strict
    (site.position template)).run st with ⟨r, st₁⟩
  rw [hb] at h hs hd
  rcases r with e | ⟨⟩
  · cases h
    simp_all [exceededDepth]
  · obtain ⟨hf, he⟩ := Guard.stack_of_run_check_error h
    simp [hf, he]

end Macro

namespace RenderM

variable {α β : Type}

/-- Running `x` from `st` ends on the stack it began with, or on an empty one after a stop by
the depth guard. -/
def Restores (x : RenderM α) (st : RenderState) : Prop :=
  ∀ r st', x.run st = (r, st') → st'.stack = if exceededDepth r then #[] else st.stack

theorem StackNeutral.restores {x : RenderM α} (h : StackNeutral x) (st : RenderState) :
    Restores x st := by
  intro r st' hx
  obtain ⟨hs, hd⟩ := h st
  rw [hx] at hs hd
  simp only at hs hd
  simp [hs, hd]

namespace Restores

variable {st st' : RenderState}

theorem stack_of_ok {x : RenderM α} {a : α} (h : Restores x st) (hx : x.run st = (.ok a, st')) :
    st'.stack = st.stack := by
  simpa using h _ _ hx

theorem bind {x : RenderM α} {g : α → RenderM β} (hx : Restores x st)
    (hg : ∀ a st', x.run st = (.ok a, st') → Restores (g a) st') : Restores (x >>= g) st := by
  intro r st₂ h
  rw [run_bind] at h
  rcases h₁ : x.run st with ⟨r₁, st₁⟩
  rw [h₁] at h
  rcases r₁ with f | a
  · cases h
    exact hx _ _ h₁
  · rw [← hx.stack_of_ok h₁]
    exact hg a st₁ h₁ r st₂ h

theorem wrapFaults {x : RenderM Unit} (name location : String) (hx : Restores x st) :
    Restores (TemplateMacro.wrapFaults name location x) st := by
  intro r st₂ h
  rw [run_wrapFaults] at h
  rcases h₁ : x.run st with ⟨r₁, st₁⟩
  rw [h₁] at h
  have hs := hx _ _ h₁
  rcases r₁ with f | ⟨⟩
  · cases hm : f.isMacroError
    · have hf : f.exceedsDepth = false := by
        cases he : f.exceedsDepth
        · rfl
        · simp [Fault.isMacroError_of_exceedsDepth he] at hm
      simp only [hm, Bool.false_eq_true, if_false] at h
      cases h
      have hs' : st₁.stack = st.stack := by simpa [hf] using hs
      simp [Fault.exceedsDepth, hs']
    · simp only [hm, if_true] at h
      cases h
      exact hs
  · cases h
    exact hs

theorem invoke {m : Macro} {template : Scalar} {renderIn : Node → RenderM Unit}
    {site : CallSite} {explicit : Option Node}
    (hbody : ∀ st', (m.prologue template site st.chain).run
        (m.scopeOpened (explicit.orElse fun _ => site.body) st) = (.ok (), st') →
      Restores (m.renderBody template renderIn site) { st' with stack := st'.stack.push m.name }) :
    Restores (m.invoke template renderIn site explicit) st := by
  intro r st₂ h
  rw [Macro.run_invoke] at h
  rcases hp : (m.prologue template site st.chain).run
    (m.scopeOpened (explicit.orElse fun _ => site.body) st) with ⟨r₁, st₁⟩
  rw [hp] at h
  rcases r₁ with f | ⟨⟨⟩⟩
  · cases h
    have he := Macro.stack_of_run_prologue_error hp
    rw [Macro.scopeOpened_stack] at he
    exact he
  · obtain ⟨hs, -⟩ := Macro.stack_of_run_prologue_ok hp
    simp only at h
    rcases hr : (m.renderBody template renderIn site).run
      { st₁ with stack := st₁.stack.push m.name } with ⟨r₃, st₃⟩
    rw [hr] at h
    cases h
    have hb := hbody st₁ hp _ _ hr
    simp only [hb]
    split <;> simp [hs]

end Restores

end RenderM

/-- Every render ends on the stack it began with, or on an empty one when the depth guard
stopped it: each invocation cuts the stack back to its depth on the way out, and a cut of the
empty stack is empty. -/
theorem Visit.restores (env : RenderEnv) (v : Visit) :
    Restores (env.render v.fuel v.node) v.state := by
  refine @Child.induction env (fun v => Restores (env.render v.fuel v.node) v.state)
    (fun v ih => ?_) v
  obtain ⟨fuel, n, st⟩ := v
  rcases fuel with _ | fuel
  · exact (StackNeutral.throw rfl).restores st
  cases n with
  | text s => exact (StackNeutral.write s).restores st
  | lit c => exact (StackNeutral.writeValue _).restores st
  | ref x =>
    simp only [RenderEnv.render]
    refine Restores.bind (StackNeutral.chain.restores st) fun c st' h => ?_
    rw [run_chain] at h
    cases h
    split
    · exact (StackNeutral.write _).restores st
    · exact ih _ _ _ (Child.ref ‹_›)
    · exact (StackNeutral.writeValue _).restores st
  | apply f args =>
    exact (StackNeutral.bind (.evalHere _) fun v => .writeValue v).restores st
  | block cs =>
    cases cs with
    | nil => exact (StackNeutral.pure ()).restores st
    | cons c cs =>
      show Restores (env.render fuel c >>= fun _ => cs.forM (env.render fuel)) st
      exact Restores.bind (ih _ _ _ Child.head) fun _ st' h => ih _ _ _ (Child.tail h)
  | cond test yes no =>
    simp only [RenderEnv.render]
    refine Restores.bind ((StackNeutral.evalHere test).restores st) fun v st' h => ?_
    split
    · exact ih _ _ _ (Child.thenBranch h ‹_›)
    · split
      · exact ih _ _ _ (Child.elseBranch h (by simpa using ‹¬ v.truthy = true›))
      · exact (StackNeutral.pure ()).restores st'
  | assign x e =>
    exact (StackNeutral.bind (.evalHere e) fun v => .modifyChain _).restores st
  | call name args body line column =>
    cases hl : env.lookup name with
    | none =>
      simp only [RenderEnv.render, hl, writeCallSource]
      cases body with
      | none => exact (StackNeutral.write _).restores st
      | some b =>
        refine Restores.bind ((StackNeutral.write _).restores st) fun _ st' h => ?_
        rw [run_write] at h
        cases h
        exact Restores.bind (ih _ _ _ (Child.source hl)) fun _ _ _ =>
          (StackNeutral.write _).restores _
    | some m =>
      simp only [RenderEnv.render, hl]
      refine Restores.invoke fun st₁ hp => Restores.wrapFaults _ _ ?_
      split
      · exact ih _ _ _ (Child.body hl ‹_› hp)
      · exact (StackNeutral.pure ()).restores _
  | const c => exact (StackNeutral.throw rfl).restores st
  | probeStack => exact (StackNeutral.bind .stack fun _ => .write _).restores st
  | probeDepth => exact (StackNeutral.bind .depth fun _ => .write _).restores st
  | probeTemplate => exact (StackNeutral.write _).restores st
  | probeBound x => exact (StackNeutral.bind .chain fun _ => .write _).restores st
  | tagged t n => exact ih _ _ ⟨fuel, n, st⟩ Child.tagged

theorem Visit.stack_of_run_ok {env : RenderEnv} {v : Visit} {st : RenderState}
    (h : v.run env = (.ok (), st)) : st.stack = v.state.stack :=
  (Visit.restores env v).stack_of_ok h

/-- The frames `fs`, the first at stack index `base`, sit below their macros' limits where
those are positive. -/
def Frame.Admitted (base : Nat) (fs : List Frame) : Prop :=
  ∀ i (h : i < fs.length), 0 < fs[i].callee.config.maxDepth →
    (base + i : Int) < fs[i].callee.config.maxDepth

theorem Frame.admitted_nil (base : Nat) : Frame.Admitted base [] :=
  fun _ h => absurd h (Nat.not_lt_zero _)

theorem Frame.Admitted.append {base : Nat} {fs gs : List Frame} (h : Frame.Admitted base fs)
    (h' : Frame.Admitted (base + fs.length) gs) : Frame.Admitted base (fs ++ gs) := by
  intro i hi hpos
  by_cases hlt : i < fs.length
  · rw [List.getElem_append_left hlt] at hpos ⊢
    exact h i hlt hpos
  · have hj : i - fs.length < gs.length := by
      rw [List.length_append] at hi
      omega
    rw [List.getElem_append_right (Nat.le_of_not_lt hlt)] at hpos ⊢
    have hb := h' (i - fs.length) hj hpos
    have hi' : ((base + fs.length : Nat) : Int) + ((i - fs.length : Nat) : Int) = base + i := by
      omega
    rw [← hi']
    exact hb

variable {env : RenderEnv}

theorem Child.stack {v w : Visit} {fs : List Frame} {done : List Visit}
    (hc : Child env v fs done w) :
    w.state.stack.toList = v.state.stack.toList ++ fs.map (·.callee.name) ∧
      Frame.Admitted v.state.stack.size fs := by
  cases hc with
  | tail h => exact ⟨by simp [Visit.stack_of_run_ok (v := ⟨_, _, _⟩) h], Frame.admitted_nil _⟩
  | thenBranch h _ | elseBranch h _ =>
    exact ⟨by simp [(StackNeutral.evalHere _).stack_of_ok h], Frame.admitted_nil _⟩
  | body _ _ hp =>
    obtain ⟨hs, hfit⟩ := Macro.stack_of_run_prologue_ok hp
    refine ⟨by simp [hs], ?_⟩
    intro i hi hpos
    obtain rfl : i = 0 := by simpa using hi
    simp only [List.getElem_cons_zero, Macro.scopeOpened_stack] at hpos hfit ⊢
    omega
  | ref _ | head | source _ | tagged => exact ⟨by simp, Frame.admitted_nil _⟩

theorem Reach.stack {v u : Visit} {fs : List Frame} (h : Reach env v fs u) :
    u.state.stack.toList = v.state.stack.toList ++ fs.map (·.callee.name) ∧
      Frame.Admitted v.state.stack.size fs := by
  induction h with
  | refl => exact ⟨by simp, Frame.admitted_nil _⟩
  | @step v w u fs gs done hc _ ih =>
    obtain ⟨hw, hfs⟩ := hc.stack
    obtain ⟨hu, hgs⟩ := ih
    have hsize : w.state.stack.size = v.state.stack.size + fs.length := by
      simpa using congrArg List.length hw
    refine ⟨by rw [hu, hw, List.map_append, List.append_assoc], hfs.append ?_⟩
    rwa [← hsize]

/-- The call-stack discipline. Every render nested in the render of `v` starts on `v`'s stack
followed by the names of the invocations open around it, outermost first, each below its
macro's limit where that is positive; and the render of `v` ends on `v`'s stack, or on an empty
stack when the depth guard stopped it. -/
theorem render_call_stack_discipline (env : RenderEnv) (v : Visit) :
    (∀ fs u, Reach env v fs u →
      u.state.stack.toList = v.state.stack.toList ++ fs.map (·.callee.name) ∧
        Frame.Admitted v.state.stack.size fs) ∧
    (v.run env).2.stack = if exceededDepth (v.run env).1 then #[] else v.state.stack :=
  ⟨fun _ _ h => h.stack, Visit.restores env v _ _ rfl⟩

end TemplateMacro
