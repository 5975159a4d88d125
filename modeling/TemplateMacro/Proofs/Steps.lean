import TemplateMacro.Render.Node
/-!
Run equations of the render monad, and what each step of a render does to its state: the
primitive updates, the depth guard, argument binding and one macro invocation. An invocation
splits into a prologue (scope, block body, arguments, depth check) and a body run inside a frame
that pushes the macro's name and pops its scope and name again on every way out.
-/

namespace TemplateMacro

namespace RenderM

variable {α β : Type}

@[simp] theorem run_pure (a : α) (st : RenderState) : (pure a : RenderM α).run st = (.ok a, st) :=
  rfl

@[simp] theorem run_throw (f : Fault) (st : RenderState) :
    (throw f : RenderM α).run st = (.error f, st) :=
  rfl

theorem run_bind (x : RenderM α) (g : α → RenderM β) (st : RenderState) :
    (x >>= g).run st =
      match x.run st with
      | (.ok a, st') => (g a).run st'
      | (.error f, st') => (.error f, st') := by
  simp only [run, ExceptT.run_bind]
  show StateT.run (ExceptT.run x >>= _) st = _
  rw [StateT.run_bind]
  rcases (ExceptT.run x).run st with ⟨r, st'⟩
  cases r <;> rfl

theorem run_bind_ok {x : RenderM α} {g : α → RenderM β} {st st' : RenderState} {a : α}
    (h : x.run st = (.ok a, st')) : (x >>= g).run st = (g a).run st' := by
  rw [run_bind, h]

theorem run_bind_error {x : RenderM α} {g : α → RenderM β} {st st' : RenderState} {f : Fault}
    (h : x.run st = (.error f, st')) : (x >>= g).run st = (.error f, st') := by
  rw [run_bind, h]

theorem run_tryCatch (x : RenderM α) (k : Fault → RenderM α) (st : RenderState) :
    (tryCatch x k).run st =
      match x.run st with
      | (.ok a, st') => (.ok a, st')
      | (.error f, st') => (k f).run st' := by
  simp only [run, ExceptT.run_tryCatch]
  show StateT.run (ExceptT.run x >>= _) st = _
  rw [StateT.run_bind]
  rcases (ExceptT.run x).run st with ⟨r, st'⟩
  cases r <;> rfl

@[simp] theorem run_modify (g : RenderState → RenderState) (st : RenderState) :
    (modify g : RenderM Unit).run st = (.ok (), g st) :=
  rfl

@[simp] theorem run_get (st : RenderState) : (get : RenderM RenderState).run st = (.ok st, st) :=
  rfl

@[simp] theorem run_write (s : String) (st : RenderState) :
    (write s).run st = (.ok (), { st with output := st.output ++ s }) :=
  rfl

@[simp] theorem run_log (level : LogLevel) (message : String) (st : RenderState) :
    (log level message).run st = (.ok (), { st with logs := st.logs ++ [⟨level, message⟩] }) :=
  rfl

@[simp] theorem run_chain (st : RenderState) : chain.run st = (.ok st.chain, st) :=
  rfl

@[simp] theorem run_modifyChain (g : Chain → Chain) (st : RenderState) :
    (modifyChain g).run st = (.ok (), { st with chain := g st.chain }) :=
  rfl

@[simp] theorem run_stack (st : RenderState) : stack.run st = (.ok st.stack, st) :=
  rfl

@[simp] theorem run_depth (st : RenderState) : depth.run st = (.ok st.stack.size, st) :=
  rfl

@[simp] theorem run_setStack (names : Array String) (st : RenderState) :
    (setStack names).run st = (.ok (), { st with stack := names }) :=
  rfl

@[simp] theorem run_modifyStack (g : Array String → Array String) (st : RenderState) :
    (modifyStack g).run st = (.ok (), { st with stack := g st.stack }) :=
  rfl

@[simp] theorem run_pushName (name : String) (st : RenderState) :
    (pushName name).run st = (.ok (), { st with stack := st.stack.push name }) :=
  rfl

theorem run_ensuring_modify (action : RenderM α) (g : RenderState → RenderState)
    (st : RenderState) :
    (ensuring action (modify g)).run st = ((action.run st).1, g (action.run st).2) := by
  unfold ensuring
  rw [run_tryCatch, run_bind]
  rcases action.run st with ⟨r, st'⟩
  cases r <;> rfl

theorem run_inScope (vis : Visibility) (action : RenderM α) (st : RenderState) :
    (inScope vis action).run st =
      let r := action.run { st with chain := st.chain.push vis }
      (r.1, { r.2 with chain := r.2.chain.pop }) := by
  unfold inScope
  rw [run_bind_ok (run_modifyChain _ st)]
  exact run_ensuring_modify _ _ _

theorem run_evalIn (c : Chain) (e : Node) (st : RenderState) :
    (evalIn c e).run st =
      (((ExceptT.run (e.eval c)).run st.ticks).1,
        { st with ticks := ((ExceptT.run (e.eval c)).run st.ticks).2 }) := by
  unfold evalIn
  rw [run_bind_ok (run_get st)]
  rcases (ExceptT.run (e.eval c)).run st.ticks with ⟨r, ticks⟩
  rcases r with f | v <;> rfl

end RenderM

open RenderM

theorem EvalM.run_bind {α β : Type} (x : EvalM α) (g : α → EvalM β) (t : Nat) :
    (ExceptT.run (x >>= g)).run t =
      match (ExceptT.run x).run t with
      | (.ok a, t') => (ExceptT.run (g a)).run t'
      | (.error f, t') => (.error f, t') := by
  rw [ExceptT.run_bind]
  show StateT.run (ExceptT.run x >>= _) t = _
  rw [StateT.run_bind]
  rcases (ExceptT.run x).run t with ⟨r, t'⟩
  cases r <;> rfl

/-- The faults evaluation raises by itself: a built-in function given a value of the wrong kind
or the wrong number of arguments, a failure raised by `fail` or `macro_fail`, and an integer too
long to write. -/
def Fault.ofEvaluation : Fault → Bool
  | notInteger _ | failed _ | raised _ | wrongArgCount .. | integerTooLong => true
  | _ => false

namespace EvalM

variable {α β : Type}

/-- Every failure of `x` satisfies `P`. -/
def FailsWithin (P : Fault → Prop) (x : EvalM α) : Prop :=
  ∀ t f t', (ExceptT.run x).run t = (.error f, t') → P f

namespace FailsWithin

variable {P : Fault → Prop}

theorem pure (a : α) : FailsWithin P (Pure.pure a : EvalM α) := by
  intro t f t' h
  cases h

theorem throw {f : Fault} (hf : P f) : FailsWithin P (MonadExcept.throw f : EvalM α) := by
  intro t e t' h
  cases h
  exact hf

theorem bind {x : EvalM α} {g : α → EvalM β} (hx : FailsWithin P x)
    (hg : ∀ a, FailsWithin P (g a)) : FailsWithin P (x >>= g) := by
  intro t f t' h
  rw [EvalM.run_bind] at h
  rcases hxr : (ExceptT.run x).run t with ⟨r, t₁⟩
  rw [hxr] at h
  rcases r with e | a
  · cases h
    exact hx t _ _ hxr
  · exact hg a t₁ f t' h

theorem modify (g : Nat → Nat) : FailsWithin P (modify g : EvalM Unit) := by
  intro t f t' h
  cases h

theorem get : FailsWithin P (MonadState.get : EvalM Nat) := by
  intro t f t' h
  cases h

end FailsWithin

end EvalM

theorem Value.ofEvaluation_of_written {v : Value} {f : Fault} (h : v.written = .error f) :
    f.ofEvaluation = true := by
  cases v with
  | scalar c =>
    simp only [Value.written] at h
    split at h <;> cases h
    rfl
  | node n => cases h

namespace Builtin

open EvalM

theorem failsWithin_textArg (v : Value) : FailsWithin (·.ofEvaluation) (textArg v) := by
  unfold textArg
  split
  · exact .pure _
  · exact .throw (Value.ofEvaluation_of_written ‹_›)

theorem failsWithin_integerArg (f : Builtin) (v : Value) :
    FailsWithin (·.ofEvaluation) (integerArg f v) := by
  unfold integerArg
  split
  · exact .pure _
  · exact .throw rfl

theorem failsWithin_mapM_textArg (vs : List Value) :
    FailsWithin (·.ofEvaluation) (vs.mapM textArg) := by
  induction vs with
  | nil => exact .pure _
  | cons v vs ih =>
    rw [List.mapM_cons]
    exact .bind (failsWithin_textArg v) fun _ => .bind ih fun _ => .pure _

theorem failsWithin_apply (f : Builtin) (vs : List Value) :
    FailsWithin (·.ofEvaluation) (f.apply vs) := by
  unfold apply
  split
  all_goals first
    | exact .pure _
    | exact .throw rfl
    | exact .bind (failsWithin_integerArg _ _) fun _ =>
        .bind (failsWithin_integerArg _ _) fun _ => .pure _
    | exact .bind (failsWithin_mapM_textArg _) fun _ => .pure _
    | exact .bind (failsWithin_textArg _) fun _ => .pure _
    | exact .bind (failsWithin_textArg _) fun _ => .throw rfl
    | exact .bind (.modify _) fun _ => .bind .get fun _ => .pure _

end Builtin

namespace Node

open EvalM

mutual

/-- Evaluation fails only with the faults of evaluation itself. -/
theorem failsWithin_eval (c : Chain) : ∀ e : Node, FailsWithin (·.ofEvaluation) (e.eval c)
  | .tagged _ n => by
    simp only [eval]
    split
    · exact failsWithin_eval c n
    · exact .pure _
  | .apply f args => by
    simp only [eval]
    exact .bind (failsWithin_evalList c args) fun vs => Builtin.failsWithin_apply f vs
  | .call .. | .probeStack | .text _ | .probeBound _ | .block _ | .probeTemplate | .cond ..
  | .probeDepth | .assign .. | .ref _ | .lit _ | .const _ => .pure _

theorem failsWithin_evalList (c : Chain) :
    ∀ es : List Node, FailsWithin (·.ofEvaluation) (evalList c es)
  | [] => .pure _
  | e :: es => by
    simp only [evalList]
    exact .bind (failsWithin_eval c e) fun _ => .bind (failsWithin_evalList c es) fun _ => .pure _

end

end Node

theorem Comparison.apply_int (op : Comparison) (a b : Int) :
    op.apply (.int a) (.int b) = .ok (op.holds (compare a b)) := by
  cases op <;> simp [Comparison.apply, Comparison.test?, Scalar.order?, Scalar.place?,
    Scalar.integer?, Binary64.Place.ofInt, Binary64.Place.compare?, Binary64.compareScaled]

theorem Comparison.le_apply_int (a b : Int) :
    Comparison.le.apply (.int a) (.int b) = .ok (decide (a ≤ b)) := by
  rw [Comparison.apply_int]
  rcases h : compare a b
  · rw [decide_eq_true (Int.le_of_lt (Int.compare_eq_lt.mp h))]; rfl
  · rw [decide_eq_true (Int.le_of_eq (Int.compare_eq_eq.mp h))]; rfl
  · rw [decide_eq_false (Int.not_le.mpr (Int.compare_eq_gt.mp h))]; rfl

theorem Comparison.lt_apply_int (a b : Int) :
    Comparison.lt.apply (.int a) (.int b) = .ok (decide (a < b)) := by
  rw [Comparison.apply_int]
  rcases h : compare a b
  · rw [decide_eq_true (Int.compare_eq_lt.mp h)]; rfl
  · rw [decide_eq_false (Int.not_lt.mpr (Int.le_of_eq (Int.compare_eq_eq.mp h).symm))]; rfl
  · rw [decide_eq_false (Int.not_lt.mpr (Int.le_of_lt (Int.compare_eq_gt.mp h)))]; rfl

namespace Guard

theorem run_check_of_fits {d : Int} (name : String) (site : Site) {st : RenderState}
    (h : d ≤ 0 ∨ (st.stack.size : Int) < d) :
    (check (.int d) name site).run st = (.ok (), st) := by
  by_cases h1 : d ≤ 0
  · simp only [check, Comparison.le_apply_int, RenderM.ofExcept, h1, decide_true, pure_bind,
      if_true]
    rfl
  have h2 : (st.stack.size : Int) < d := h.resolve_left h1
  simp only [check, Comparison.le_apply_int, RenderM.ofExcept, decide_eq_false h1, pure_bind,
    Bool.false_eq_true, if_false]
  rw [run_bind_ok (run_depth st)]
  simp only [Comparison.lt_apply_int, decide_eq_true h2, pure_bind, if_true]
  rfl

theorem run_check_of_exceeds {d : Int} (name : String) (site : Site) {st : RenderState}
    (h1 : 0 < d) (h2 : d ≤ st.stack.size) :
    (check (.int d) name site).run st =
      (.error (.depthExceeded (.int d) name st.stack.toList site.recorded),
        { st with
          logs := st.logs ++
            [⟨.error, Fault.depthMessage (.int d) name st.stack.toList site.recorded⟩],
          stack := #[] }) := by
  simp only [check, Comparison.le_apply_int, RenderM.ofExcept, decide_eq_false (Int.not_le.mpr h1),
    pure_bind, Bool.false_eq_true, if_false]
  rw [run_bind_ok (run_depth st)]
  simp only [Comparison.lt_apply_int, decide_eq_false (Int.not_lt.mpr h2), pure_bind,
    Bool.false_eq_true, if_false]
  rw [run_bind_ok (run_stack st), run_bind_ok (run_log _ _ _), run_bind_ok (run_setStack _ _)]
  rfl

theorem eq_of_run_check_ok {d : Int} {name : String} {site : Site} {st st' : RenderState}
    (h : (check (.int d) name site).run st = (.ok (), st')) :
    st' = st ∧ (d ≤ 0 ∨ (st.stack.size : Int) < d) := by
  by_cases hf : d ≤ 0 ∨ (st.stack.size : Int) < d
  · rw [run_check_of_fits name site hf] at h
    exact ⟨(Prod.mk.inj h).2.symm, hf⟩
  · rw [run_check_of_exceeds name site (by omega) (by omega)] at h
    cases h

theorem run_enter {α : Type} (limit : Scalar) (name : String) (site : Site) (body : RenderM α)
    (st : RenderState) :
    (enter limit name site body).run st =
      match (check limit name site).run st with
      | (.error f, st₁) => (.error f, st₁)
      | (.ok (), st₁) =>
        let r := body.run { st₁ with stack := st₁.stack.push name }
        (r.1, { r.2 with stack := CallStack.truncate st₁.stack.size r.2.stack }) := by
  unfold enter
  rw [run_bind]
  rcases (check limit name site).run st with ⟨r, st₁⟩
  rcases r with f | ⟨⟩
  · rfl
  · simp only
    rw [run_bind_ok (run_depth st₁), run_bind_ok (run_pushName _ _)]
    exact run_ensuring_modify _ _ _

end Guard

theorem run_wrapFaults (name location : String) (action : RenderM Unit) (st : RenderState) :
    (wrapFaults name location action).run st =
      match action.run st with
      | (.ok (), st') => (.ok (), st')
      | (.error f, st') =>
        if f.isMacroError then (.error f, st')
        else (.error (.wrapped name location f),
          { st' with logs := st'.logs ++ [⟨.error, Fault.wrappedMessage name location⟩] }) := by
  unfold wrapFaults
  rw [run_tryCatch]
  rcases action.run st with ⟨r, st'⟩
  rcases r with f | ⟨⟩
  · cases h : f.isMacroError
    · simp only [h, Bool.false_eq_true, if_false]
      rw [run_bind_ok (run_log _ _ _)]
      rfl
    · simp only [h, if_true]
      rfl
  · rfl

/-- Where a call in the template `template` is made, as diagnostics cite it. -/
def CallSite.position (site : CallSite) (template : Scalar) : Site :=
  .position ⟨template, site.line, site.column⟩

namespace Macro

/-- The state once an invocation of `m` has opened its scope above the caller and bound the
block body `body` there. -/
def scopeOpened (m : Macro) (body : Option Node) (st : RenderState) : RenderState :=
  let chain := st.chain.push m.config.visibility
  { st with chain := match body with
      | some b => chain.put m.config.bodyReference (Value.ofNode b)
      | none => chain }

@[simp] theorem scopeOpened_stack (m : Macro) (body : Option Node) (st : RenderState) :
    (m.scopeOpened body st).stack = st.stack := rfl

@[simp] theorem scopeOpened_output (m : Macro) (body : Option Node) (st : RenderState) :
    (m.scopeOpened body st).output = st.output := rfl

@[simp] theorem scopeOpened_logs (m : Macro) (body : Option Node) (st : RenderState) :
    (m.scopeOpened body st).logs = st.logs := rfl

@[simp] theorem scopeOpened_ticks (m : Macro) (body : Option Node) (st : RenderState) :
    (m.scopeOpened body st).ticks = st.ticks := rfl

/-- What an invocation does in its opened scope before the body: bind the arguments against
the caller's chain, then check the depth. -/
def prologue (m : Macro) (template : Scalar) (site : CallSite) (caller : Chain) :
    RenderM Unit := do
  bindArguments caller m.definition site.args m.config.strict (site.position template)
  Guard.check (.int m.config.maxDepth) m.name (site.position template)

/-- The body of an invocation, its faults that are no macro error wrapped with the call site. -/
def renderBody (m : Macro) (template : Scalar) (renderIn : Node → RenderM Unit)
    (site : CallSite) : RenderM Unit :=
  wrapFaults m.name (site.position template).describe
    (match m.definition.body with
      | some b => renderIn b
      | none => pure ())

theorem run_prologue (m : Macro) (template : Scalar) (site : CallSite) (caller : Chain)
    (st : RenderState) :
    (m.prologue template site caller).run st =
      match (bindArguments caller m.definition site.args m.config.strict
          (site.position template)).run st with
      | (.ok (), st') => (Guard.check (.int m.config.maxDepth) m.name (site.position template)).run st'
      | (.error e, st') => (.error e, st') := by
  rw [prologue, run_bind]
  rcases (bindArguments caller m.definition site.args m.config.strict
    (site.position template)).run st with ⟨r, st'⟩
  rcases r with e | ⟨⟩ <;> rfl

theorem bind_of_run_prologue_ok {m : Macro} {template : Scalar} {site : CallSite}
    {caller : Chain} {st st' : RenderState}
    (h : (m.prologue template site caller).run st = (.ok (), st')) :
    (bindArguments caller m.definition site.args m.config.strict (site.position template)).run st =
      (.ok (), st') := by
  rw [run_prologue] at h
  rcases hb : (bindArguments caller m.definition site.args m.config.strict
    (site.position template)).run st with ⟨r, s⟩
  rw [hb] at h
  rcases r with e | ⟨⟩
  · cases h
  · obtain ⟨rfl, -⟩ := Guard.eq_of_run_check_ok h
    rfl

theorem run_guarded (m : Macro) (template : Scalar) (renderIn : Node → RenderM Unit)
    (site : CallSite) (caller : Chain) (st : RenderState) :
    (do
      bindArguments caller m.definition site.args m.config.strict (site.position template)
      Guard.enter (.int m.config.maxDepth) m.name (site.position template)
        (m.renderBody template renderIn site) : RenderM Unit).run st =
      match (m.prologue template site caller).run st with
      | (.error f, st₁) => (.error f, st₁)
      | (.ok (), st₁) =>
        let r := (m.renderBody template renderIn site).run
          { st₁ with stack := st₁.stack.push m.name }
        (r.1, { r.2 with stack := CallStack.truncate st₁.stack.size r.2.stack }) := by
  rw [prologue, run_bind, run_bind]
  rcases (bindArguments caller m.definition site.args m.config.strict
    (site.position template)).run st with ⟨r, st₀⟩
  rcases r with f | ⟨⟩
  · rfl
  · simp only
    rw [Guard.run_enter]

theorem invoke_eq (m : Macro) (template : Scalar) (renderIn : Node → RenderM Unit)
    (site : CallSite) (explicit : Option Node) :
    m.invoke template renderIn site explicit = (do
      let caller ← RenderM.chain
      RenderM.inScope m.config.visibility do
        if let some b := explicit.orElse fun _ => site.body then
          RenderM.modifyChain (·.put m.config.bodyReference (Value.ofNode b))
        bindArguments caller m.definition site.args m.config.strict (site.position template)
        Guard.enter (.int m.config.maxDepth) m.name (site.position template)
          (m.renderBody template renderIn site)) :=
  rfl

/-- An invocation runs its prologue in the opened scope; when that succeeds it renders the body
with its name pushed, and on every way out it cuts the stack back and closes the scope. -/
theorem run_invoke (m : Macro) (template : Scalar) (renderIn : Node → RenderM Unit)
    (site : CallSite) (explicit : Option Node) (st : RenderState) :
    (m.invoke template renderIn site explicit).run st =
      match (m.prologue template site st.chain).run
          (m.scopeOpened (explicit.orElse fun _ => site.body) st) with
      | (.error f, st₁) => (.error f, { st₁ with chain := st₁.chain.pop })
      | (.ok (), st₁) =>
        let r := (m.renderBody template renderIn site).run
          { st₁ with stack := st₁.stack.push m.name }
        (r.1, { r.2 with stack := CallStack.truncate st₁.stack.size r.2.stack,
                         chain := r.2.chain.pop }) := by
  rw [invoke_eq, run_bind_ok (run_chain st), run_inScope]
  have hopen : ((do
      if let some b := explicit.orElse fun _ => site.body then
        RenderM.modifyChain (·.put m.config.bodyReference (Value.ofNode b))
      bindArguments st.chain m.definition site.args m.config.strict (site.position template)
      Guard.enter (.int m.config.maxDepth) m.name (site.position template)
          (m.renderBody template renderIn site)) : RenderM Unit).run
        { st with chain := st.chain.push m.config.visibility } =
      (do
      bindArguments st.chain m.definition site.args m.config.strict (site.position template)
      Guard.enter (.int m.config.maxDepth) m.name (site.position template)
          (m.renderBody template renderIn site) : RenderM Unit).run
        (m.scopeOpened (explicit.orElse fun _ => site.body) st) := by
    cases explicit.orElse fun _ => site.body with
    | none => rfl
    | some b => exact run_bind_ok (run_modifyChain _ _)
  simp only [hopen, run_guarded]
  rcases (m.prologue template site st.chain).run
    (m.scopeOpened (explicit.orElse fun _ => site.body) st) with ⟨r, st₁⟩
  rcases r with f | ⟨⟩ <;> rfl

end Macro

end TemplateMacro
