import TemplateMacro.Engine
import TemplateMacro.Proofs.FaultTranslation
import TemplateMacro.Proofs.ChainAccess
/-!
How deep renders nest. The depth guard bounds the invocations open at once, but a reference whose
value is a node renders it without passing the guard: a value that refers to itself runs any budget
out, and those references are the only way to run out.
-/

namespace TemplateMacro

open RenderM

/-! ### A value that refers to itself -/

theorem RenderEnv.run_render_self_ref (env : RenderEnv) {st : RenderState} {x : String}
    (h : st.chain.get x Value.null = .node (.ref x)) (fuel : Nat) :
    (env.render fuel (.ref x)).run st = (.error .exhausted, st) := by
  induction fuel with
  | zero => rfl
  | succ fuel ih => rw [run_render_ref_node env fuel st h, ih]

/-- Rendering `$x` where the value of `x` is the node `$x` runs out of budget, whatever the
registry: the guard never sees the recursion. -/
theorem Engine.render_self_ref (e : Engine) (values : Store) (template : Scalar) {x : String}
    (h : values.get? x = some (.node (.ref x))) :
    (e.render (some (.ref x)) values template).1.result = .error .exhausted := by
  unfold Engine.render Engine.run RenderEnv.renderTemplate
  dsimp only
  rw [run_bind, RenderEnv.run_render_self_ref]
  simp [Chain.get, Chain.find?, Chain.lookupIn, h]

def limitedEcho : Macro :=
  ⟨⟨"m", .param { name := "m" }, [], some (.text "m")⟩, ⟨false, .inherited, "bodyContent", 20⟩⟩

theorem self_referent_value_exhausts_render :
    (∀ m ∈ ({ registry := ⟨[limitedEcho]⟩ } : Engine).registry.macros, 0 < m.config.maxDepth) ∧
    (({ registry := ⟨[limitedEcho]⟩ } : Engine).render (some (.ref "x"))
      (Store.ofList [("x", .node (.ref "x"))]) .null).1.result = .error .exhausted :=
  ⟨by decide, Engine.render_self_ref _ _ _ rfl⟩

/-! ### The height of what is rendered -/

namespace Node

mutual

/-- The longest chain of nodes that rendering `n` nests one inside another, `n` included. -/
def height : Node → Nat
  | block cs => heightList cs + 1
  | cond _ yes no => max yes.height (heightOpt no) + 1
  | call _ _ body _ _ => heightOpt body + 1
  | tagged _ n => n.height + 1
  | _ => 1

def heightList : List Node → Nat
  | [] => 0
  | c :: cs => max c.height (heightList cs)

def heightOpt : Option Node → Nat
  | none => 0
  | some n => n.height

end

example : (Node.block [.text "a", .cond (.lit (.bool true)) (.tagged 0 (.text "b")) none]).height = 4 :=
  rfl

end Node

/-! ### Faults a render raises by its own code -/

/-- A fault that a computation raises by its own code: neither the exhaustion of the budget nor
a fault wrapped by an invocation. -/
def Fault.plain : Fault → Bool
  | exhausted | wrapped .. => false
  | _ => true

namespace EvalM

variable {α : Type}

def FailsPlainly (x : EvalM α) : Prop :=
  ∀ t f t', (ExceptT.run x).run t = (.error f, t') → f.plain = true

end EvalM

theorem Fault.plain_of_ofEvaluation {f : Fault} (h : f.ofEvaluation = true) : f.plain = true := by
  cases f <;> simp_all [ofEvaluation, plain]

namespace Node

theorem failsPlainly_eval (c : Chain) (e : Node) : EvalM.FailsPlainly (e.eval c) :=
  fun t f t' h => Fault.plain_of_ofEvaluation (failsWithin_eval c e t f t' h)

theorem plain_of_evalSeq {c : Chain} {es : List Node} {t : Nat} {f : Fault}
    (h : (evalSeq c es t).fault = some f) : f.plain = true :=
  Fault.plain_of_ofEvaluation (ofEvaluation_of_evalSeq h)

end Node

namespace RenderM

variable {α β : Type}

def FailsPlainly (x : RenderM α) : Prop :=
  ∀ st f st', x.run st = (.error f, st') → f.plain = true

namespace FailsPlainly

theorem pure (a : α) : FailsPlainly (Pure.pure a : RenderM α) := by
  intro st f st' h
  cases h

theorem throw {f : Fault} (hf : f.plain = true) :
    FailsPlainly (MonadExcept.throw f : RenderM α) := by
  intro st e st' h
  cases h
  exact hf

theorem bind {x : RenderM α} {g : α → RenderM β} (hx : FailsPlainly x)
    (hg : ∀ a, FailsPlainly (g a)) : FailsPlainly (x >>= g) := by
  intro st f st' h
  rw [run_bind] at h
  rcases hxr : x.run st with ⟨r, s⟩
  rw [hxr] at h
  rcases r with e | a
  · cases h
    exact hx st _ _ hxr
  · exact hg a s f st' h

theorem write (s : String) : FailsPlainly (write s) := by
  intro st f st' h
  cases h

theorem modifyChain (g : Chain → Chain) : FailsPlainly (modifyChain g) := by
  intro st f st' h
  cases h

theorem chain : FailsPlainly RenderM.chain := by
  intro st f st' h
  cases h

theorem stack : FailsPlainly RenderM.stack := by
  intro st f st' h
  cases h

theorem depth : FailsPlainly RenderM.depth := by
  intro st f st' h
  cases h

theorem evalIn (c : Chain) (e : Node) : FailsPlainly (evalIn c e) := by
  intro st f st' h
  rw [run_evalIn] at h
  rcases he : (ExceptT.run (e.eval c)).run st.ticks with ⟨r, t⟩
  rw [he] at h
  rcases r with f' | v
  · cases h
    exact Node.failsPlainly_eval c e st.ticks _ _ he
  · cases h

theorem evalHere (e : Node) : FailsPlainly (evalHere e) :=
  .bind .chain fun c => evalIn c e

theorem writeValue (v : Value) : FailsPlainly (writeValue v) := by
  unfold RenderM.writeValue
  split
  · exact write _
  · exact throw (Fault.plain_of_ofEvaluation (Value.ofEvaluation_of_written ‹_›))

end FailsPlainly

end RenderM

theorem failsPlainly_writeScalarRef (x : String) (c : Scalar) :
    FailsPlainly (writeScalarRef x c) := by
  unfold writeScalarRef
  split
  · exact .write _
  · exact .writeValue _

theorem Guard.plain_of_run_check {d : Int} {name : String} {site : Site} {st st' : RenderState}
    {f : Fault} (h : (check (.int d) name site).run st = (.error f, st')) : f.plain = true := by
  by_cases hf : d ≤ 0 ∨ (st.stack.size : Int) < d
  · rw [run_check_of_fits name site hf] at h
    cases h
  · rw [run_check_of_exceeds name site (by omega) (by omega)] at h
    cases h
    rfl

theorem Binding.plain_of_reference {m : Macro} {site : Site} {args : List Node}
    {body : Option Node} {st st' : RenderState} {f : Fault}
    (h : reference m site args body st = (.error f, st')) : f.plain = true := by
  unfold reference at h
  dsimp only at h
  split at h
  · cases h
    rfl
  · simp only [Prod.mk.injEq] at h
    obtain ⟨ho, -⟩ := h
    unfold outcome at ho
    split at ho
    · rename_i f' hf'
      cases ho
      exact Node.plain_of_evalSeq hf'
    · split at ho
      · cases ho
        rfl
      · cases ho

theorem Macro.plain_of_run_prologue {m : Macro} {template : Scalar} {site : CallSite}
    {body : Option Node} {st st' : RenderState} {f : Fault}
    (h : (m.prologue template site st.chain).run (m.scopeOpened body st) = (.error f, st')) :
    f.plain = true := by
  rw [run_prologue, Binding.run_eq_reference] at h
  rcases hr : Binding.reference m (site.position template) site.args body st with ⟨r, P⟩
  rw [hr] at h
  rcases r with e | ⟨⟩
  · cases h
    exact Binding.plain_of_reference hr
  · exact Guard.plain_of_run_check h

variable {env : RenderEnv}

namespace Visit.RaisesOwn

variable {v : Visit} {e : Fault} {st₀ : RenderState}

theorem run_eq (h : v.RaisesOwn env e st₀) :
    (env.render v.fuel v.node).run v.state = (.error e, st₀) := h.1

theorem child_run (h : v.RaisesOwn env e st₀) {fs : List Frame} {done : List Visit} {w : Visit}
    (hc : Child env v fs done w) : ∃ st', (env.render w.fuel w.node).run w.state = (.ok (), st') :=
  h.2 fs done w hc

end Visit.RaisesOwn

section RaisesOwn

variable {fuel : Nat} {st st₀ : RenderState} {e : Fault}

theorem Visit.plain_of_raisesOwn_ref {x : String}
    (h : Visit.RaisesOwn env ⟨fuel + 1, .ref x, st⟩ e st₀) : e.plain = true := by
  have hrun := h.run_eq
  dsimp only at hrun
  rcases hx : st.chain.get x Value.null with c | m
  · rw [RenderEnv.run_render_ref_scalar_eq env fuel hx] at hrun
    exact failsPlainly_writeScalarRef x c st e st₀ hrun
  · obtain ⟨st', hw⟩ := h.child_run (Child.ref hx)
    rw [RenderEnv.run_render_ref_node env fuel st hx, hw] at hrun
    cases hrun

theorem Visit.plain_of_raisesOwn_block {cs : List Node}
    (h : Visit.RaisesOwn env ⟨fuel + 1, .block cs, st⟩ e st₀) : e.plain = true := by
  have hrun := h.run_eq
  dsimp only at hrun
  cases cs with
  | nil => exact FailsPlainly.pure () st e st₀ hrun
  | cons c cs =>
    obtain ⟨st₁, h₁⟩ := h.child_run Child.head
    obtain ⟨st₂, h₂⟩ := h.child_run (Child.tail h₁)
    rw [RenderEnv.run_render_block_cons, h₁] at hrun
    dsimp only at hrun h₂
    rw [h₂] at hrun
    cases hrun

theorem Visit.plain_of_raisesOwn_cond {test yes : Node} {no : Option Node}
    (h : Visit.RaisesOwn env ⟨fuel + 1, .cond test yes no, st⟩ e st₀) : e.plain = true := by
  have hrun := h.run_eq
  dsimp only at hrun
  rw [RenderEnv.run_render_cond] at hrun
  rcases he : (evalHere test).run st with ⟨r, st'⟩
  rw [he] at hrun
  rcases r with f | v
  · cases hrun
    exact FailsPlainly.evalHere test st _ _ he
  · dsimp only at hrun
    cases hv : v.truthy
    · cases no with
      | none => simp [hv] at hrun
      | some no =>
        obtain ⟨s, hs⟩ := h.child_run (Child.elseBranch he hv)
        simp [hv, hs] at hrun
    · obtain ⟨s, hs⟩ := h.child_run (Child.thenBranch he hv)
      simp [hv, hs] at hrun

theorem Visit.plain_of_raisesOwn_call {name : String} {args : List Node} {body : Option Node}
    {line column : Scalar}
    (h : Visit.RaisesOwn env ⟨fuel + 1, .call name args body line column, st⟩ e st₀) :
    e.plain = true := by
  have hrun := h.run_eq
  dsimp only at hrun
  cases hl : env.lookup name with
  | some m =>
    rw [RenderEnv.run_render_call_found env fuel st hl, Macro.run_invoke] at hrun
    dsimp only [Option.orElse] at hrun
    rcases hp : (m.prologue env.template ⟨args, body, line, column⟩ st.chain).run
      (m.scopeOpened body st) with ⟨r, st₁⟩
    rw [hp] at hrun
    rcases r with f | ⟨⟩
    · cases hrun
      exact Macro.plain_of_run_prologue hp
    · cases hb : m.definition.body with
      | none => simp [Macro.renderBody, hb, run_wrapFaults] at hrun
      | some b =>
        obtain ⟨s, hs⟩ := h.child_run (Child.body hl hb hp)
        simp [Macro.renderBody, hb, run_wrapFaults, hs] at hrun
  | none =>
    rw [RenderEnv.run_render_call_unknown env fuel st hl] at hrun
    cases body with
    | none => exact FailsPlainly.write _ st e st₀ hrun
    | some b =>
      obtain ⟨s, hs⟩ := h.child_run (Child.source hl)
      simp only [writeCallSource] at hrun
      rw [run_bind_ok (run_write _ _), run_bind] at hrun
      dsimp only at hs
      rw [hs] at hrun
      cases hrun

theorem Visit.plain_of_raisesOwn_tagged {t : Nat} {n : Node}
    (h : Visit.RaisesOwn env ⟨fuel + 1, .tagged t n, st⟩ e st₀) : e.plain = true := by
  have hrun := h.run_eq
  obtain ⟨s, hs⟩ := h.child_run Child.tagged
  dsimp only at hrun hs
  have hstep : (env.render (fuel + 1) (.tagged t n)).run st = (env.render fuel n).run st := rfl
  rw [hstep, hs] at hrun
  cases hrun

end RaisesOwn

theorem Visit.plain_of_raisesOwn {u : Visit} {e : Fault} {st₀ : RenderState}
    (h : u.RaisesOwn env e st₀) (hfuel : 0 < u.fuel) : e.plain = true := by
  obtain ⟨fuel, n, st⟩ := u
  obtain ⟨fuel, rfl⟩ : ∃ k, fuel = k + 1 := ⟨fuel - 1, by simp at hfuel; omega⟩
  have hrun := h.run_eq
  dsimp only at hrun
  cases n with
  | text s => exact FailsPlainly.write s st e st₀ hrun
  | lit c => exact FailsPlainly.writeValue _ st e st₀ hrun
  | ref x => exact plain_of_raisesOwn_ref h
  | apply f args => exact (FailsPlainly.bind (.evalHere _) fun v => .writeValue v) st e st₀ hrun
  | block cs => exact plain_of_raisesOwn_block h
  | cond test yes no => exact plain_of_raisesOwn_cond h
  | assign x e' => exact (FailsPlainly.bind (.evalHere e') fun _ => .modifyChain _) st e st₀ hrun
  | call name args body line column => exact plain_of_raisesOwn_call h
  | const c => exact FailsPlainly.throw rfl st e st₀ hrun
  | probeStack => exact (FailsPlainly.bind .stack fun _ => .write _) st e st₀ hrun
  | probeDepth => exact (FailsPlainly.bind .depth fun _ => .write _) st e st₀ hrun
  | probeTemplate => exact FailsPlainly.write _ st e st₀ hrun
  | probeBound x => exact (FailsPlainly.bind .chain fun _ => .write _) st e st₀ hrun
  | tagged t n => exact plain_of_raisesOwn_tagged h

/-! ### Chains of nested renders -/

/-- The references to nodes a render of `v` passes by itself: one when `v` renders a reference,
which has a nested render exactly when its value is a node. -/
def Visit.refWeight (v : Visit) : Nat :=
  match v.node with
  | .ref _ => 1
  | _ => 0

/-- `Nested env v fs k u`: rendering `v` starts the render `u` inside the frames `fs`, through
`k` references whose values are nodes. -/
inductive Nested (env : RenderEnv) : Visit → List Frame → Nat → Visit → Prop
  | refl (v : Visit) : Nested env v [] 0 v
  | step {v w u : Visit} {fs gs : List Frame} {done : List Visit} {k : Nat} :
      Child env v fs done w → Nested env w gs k u → Nested env v (fs ++ gs) (v.refWeight + k) u

theorem Nested.reach {v u : Visit} {fs : List Frame} {k : Nat} (h : Nested env v fs k u) :
    Reach env v fs u := by
  induction h with
  | refl v => exact .refl v
  | step hc _ ih => exact .step hc ih

theorem Reach.nested {v u : Visit} {fs : List Frame} (h : Reach env v fs u) :
    ∃ k, Nested env v fs k u := by
  induction h with
  | refl v => exact ⟨0, .refl v⟩
  | step hc _ ih =>
    obtain ⟨k, hk⟩ := ih
    exact ⟨_, .step hc hk⟩

theorem Child.fuel_add_height {v w : Visit} {fs : List Frame} {done : List Visit}
    (hc : Child env v fs done w) (s : Nat) (hw : w.node.height ≤ s) :
    v.fuel + w.node.height ≤ w.fuel + (v.refWeight + fs.length) * (s + 1) + v.node.height := by
  cases hc with
  | ref _ =>
    simp only [Visit.refWeight, Node.height, List.length_nil, Nat.add_zero, Nat.one_mul] at hw ⊢
    omega
  | body _ _ _ =>
    simp only [Visit.refWeight, Node.height, List.length_singleton, Nat.zero_add, Nat.one_mul]
      at hw ⊢
    omega
  | head | tail _ | thenBranch _ _ | elseBranch _ _ | source _ | tagged =>
    simp only [Visit.refWeight, Node.height, Node.heightList, Node.heightOpt, List.length_nil,
      Nat.add_zero, Nat.zero_mul]
    omega

theorem Nested.fuel_add_height {v u : Visit} {fs : List Frame} {k : Nat} (s : Nat)
    (hs : ∀ gs l w, Nested env v gs l w → w.node.height ≤ s) (h : Nested env v fs k u) :
    v.fuel + u.node.height ≤ u.fuel + (k + fs.length) * (s + 1) + v.node.height := by
  induction h with
  | refl v => simp
  | @step v w u fs gs done k hc hn ih =>
    have hw : w.node.height ≤ s := hs _ _ _ (.step hc (.refl w))
    have hstep := hc.fuel_add_height s hw
    have hrest := ih fun gs l x hx => hs _ _ _ (.step hc hx)
    rw [List.length_append, show v.refWeight + k + (fs.length + gs.length) =
      (k + gs.length) + (v.refWeight + fs.length) by omega, Nat.add_mul]
    omega

theorem Child.callee_lookup {v w : Visit} {fs : List Frame} {done : List Visit}
    (hc : Child env v fs done w) : ∀ fr ∈ fs, ∃ name, env.lookup name = some fr.callee := by
  cases hc with
  | body hl _ _ =>
    intro fr hfr
    rw [List.mem_singleton] at hfr
    subst hfr
    exact ⟨_, hl⟩
  | ref _ | head | tail _ | thenBranch _ _ | elseBranch _ _ | source _ | tagged => simp

theorem Reach.callee_lookup {v u : Visit} {fs : List Frame} (h : Reach env v fs u) :
    ∀ fr ∈ fs, ∃ name, env.lookup name = some fr.callee := by
  induction h with
  | refl v => simp
  | step hc _ ih =>
    intro fr hfr
    rcases List.mem_append.mp hfr with hfr | hfr
    · exact hc.callee_lookup fr hfr
    · exact ih fr hfr

theorem Frame.length_le_of_admitted {fs : List Frame} {D : Nat} (h : Frame.Admitted 0 fs)
    (hlim : ∀ fr ∈ fs, 0 < fr.callee.config.maxDepth ∧ fr.callee.config.maxDepth ≤ D) :
    fs.length ≤ D := by
  cases hfs : fs.length with
  | zero => exact Nat.zero_le D
  | succ i =>
    have hi : i < fs.length := by omega
    obtain ⟨hpos, hle⟩ := hlim fs[i] (List.getElem_mem hi)
    have hlt := h i hi hpos
    omega

theorem Frame.translate_ne_exhausted (fs : List Frame) {e : Fault} (he : e.plain = true) :
    Frame.translate fs e ≠ .exhausted ∧ ∀ name loc, Frame.translate fs e ≠ .wrapped name loc .exhausted := by
  unfold Frame.translate
  split
  · refine ⟨Fault.noConfusion, fun name loc h => ?_⟩
    cases h
    cases he
  · cases e <;> simp_all [Fault.plain]

/-- The guard rules out runaway recursion through macros, and references to nodes are the only
other way to nest without end. With every macro's limit positive and at most `D`, a render from
an empty stack whose every chain of nested renders passes at most `r` references to nodes and
renders nodes of height at most `s` never runs out of a budget of `(r + D + 1) * (s + 1)`: it
returns, or fails with a fault that is neither the exhaustion nor a wrapping of it. -/
theorem render_never_exhausts_bounded_references (env : RenderEnv) (D r s : Nat) (v : Visit)
    (hlim : ∀ name m, env.lookup name = some m → 0 < m.config.maxDepth ∧ m.config.maxDepth ≤ D)
    (hstack : v.state.stack = #[])
    (hrefs : ∀ fs k u, Nested env v fs k u → k ≤ r)
    (hheight : ∀ fs k u, Nested env v fs k u → u.node.height ≤ s)
    (hfuel : (r + D + 1) * (s + 1) ≤ v.fuel) :
    ∀ f st, v.run env = (.error f, st) →
      f ≠ .exhausted ∧ ∀ name loc, f ≠ .wrapped name loc .exhausted := by
  intro f st h
  obtain ⟨fs, u, e, st₀, hr, hown, rfl, -⟩ := Visit.exists_origin h
  obtain ⟨k, hn⟩ := hr.nested
  have hk : k ≤ r := hrefs fs k u hn
  have hfs : fs.length ≤ D := by
    have hadm := hr.stack.2
    rw [hstack] at hadm
    refine Frame.length_le_of_admitted hadm fun fr hfr => ?_
    obtain ⟨name, hl⟩ := hr.callee_lookup fr hfr
    exact hlim name _ hl
  have hb := hn.fuel_add_height s (fun gs l w hw => hheight gs l w hw)
  have hv : v.node.height ≤ s := hheight [] 0 v (.refl v)
  have hpos : 0 < u.fuel := by
    have h₁ : k * (s + 1) ≤ r * (s + 1) := Nat.mul_le_mul_right _ hk
    have h₂ : fs.length * (s + 1) ≤ D * (s + 1) := Nat.mul_le_mul_right _ hfs
    rw [Nat.add_mul, Nat.add_mul, Nat.one_mul] at hfuel
    rw [Nat.add_mul] at hb
    omega
  exact Frame.translate_ne_exhausted fs (Visit.plain_of_raisesOwn hown hpos)

def echoEnv : RenderEnv := { registry := some ⟨[limitedEcho]⟩ }

def textRefVisit : Visit :=
  ⟨44, .ref "x", { chain := ⟨Store.ofList [("x", .node (.text "hi"))], []⟩ }⟩

theorem text_reference_never_exhausts :
    (∀ name m, echoEnv.lookup name = some m →
      0 < m.config.maxDepth ∧ m.config.maxDepth ≤ ((20 : Nat) : Int)) ∧
    textRefVisit.state.stack = #[] ∧
    (∀ fs k u, Nested echoEnv textRefVisit fs k u → k ≤ 1) ∧
    (∀ fs k u, Nested echoEnv textRefVisit fs k u → u.node.height ≤ 1) ∧
    (1 + 20 + 1) * (1 + 1) ≤ textRefVisit.fuel ∧
    (∀ f st, textRefVisit.run echoEnv = (.error f, st) →
      f ≠ .exhausted ∧ ∀ name loc, f ≠ .wrapped name loc .exhausted) := by
  have hlim : ∀ name m, echoEnv.lookup name = some m →
      0 < m.config.maxDepth ∧ m.config.maxDepth ≤ ((20 : Nat) : Int) := by
    intro name m h
    simp only [echoEnv, RenderEnv.lookup, Option.bind, Registry.find?, List.find?_cons,
      List.find?_nil] at h
    split at h
    · cases h
      decide
    · cases h
  have hpaths : ∀ fs k u, Nested echoEnv textRefVisit fs k u → k ≤ 1 ∧ u.node.height ≤ 1 := by
    intro fs k u h
    cases h with
    | refl => exact ⟨Nat.zero_le 1, Nat.le_refl 1⟩
    | step hc hn =>
      cases hc with
      | ref hx =>
        obtain rfl : _ = Node.text "hi" :=
          Value.node.inj (hx.symm.trans (show _ = Value.node (.text "hi") from rfl))
        cases hn with
        | refl => exact ⟨Nat.le_refl 1, Nat.le_refl 1⟩
        | step hc' _ => cases hc'
  exact ⟨hlim, rfl, fun fs k u h => (hpaths fs k u h).1, fun fs k u h => (hpaths fs k u h).2,
    by decide, render_never_exhausts_bounded_references echoEnv 20 1 1 textRefVisit hlim rfl
      (fun fs k u h => (hpaths fs k u h).1) (fun fs k u h => (hpaths fs k u h).2) (by decide)⟩

end TemplateMacro
