import TemplateMacro.Proofs.CallTree
import TemplateMacro.Proofs.ChainAccess
/-!
Isolation of macro scopes. An isolated scope ends every lookup made above it and catches every
assignment, so renders whose chains differ only below a shared isolated scope run alike. An
isolated macro reads nothing of its caller's chain but the values of its arguments and defaults.
-/

namespace TemplateMacro

/-! ### Ticks spent by evaluation -/

namespace EvalM

variable {α β γ δ : Type}

theorem run_bind_eq_ok {x : EvalM α} {g : α → EvalM β} {t t' : Nat} {b : β}
    (h : (ExceptT.run (x >>= g)).run t = (.ok b, t')) :
    ∃ a t₁, (ExceptT.run x).run t = (.ok a, t₁) ∧ (ExceptT.run (g a)).run t₁ = (.ok b, t') := by
  rw [EvalM.run_bind] at h
  rcases hxr : (ExceptT.run x).run t with ⟨r, t₁⟩
  rw [hxr] at h
  rcases r with e | a
  · cases h
  · exact ⟨a, t₁, rfl, h⟩

/-- Every run of `x` that returns moves the tick counter on by exactly `k`. -/
def Advances (k : Nat) (x : EvalM α) : Prop :=
  ∀ t a t', (ExceptT.run x).run t = (.ok a, t') → t' = t + k

namespace Advances

theorem pure (a : α) : Advances 0 (Pure.pure a : EvalM α) := by
  intro t b t' h
  cases h
  rfl

theorem throw (k : Nat) (f : Fault) : Advances k (MonadExcept.throw f : EvalM α) := by
  intro t a t' h
  cases h

theorem bind {k l : Nat} {x : EvalM α} {g : α → EvalM β} (hx : Advances k x)
    (hg : ∀ a, Advances l (g a)) : Advances (k + l) (x >>= g) := by
  intro t b t' h
  obtain ⟨a, t₁, h₁, h₂⟩ := run_bind_eq_ok h
  have e₁ : t₁ = t + k := hx t a t₁ h₁
  have e₂ : t' = t₁ + l := hg a t₁ b t' h₂
  omega

theorem modify_succ : Advances 1 (modify (· + 1) : EvalM Unit) := by
  intro t a t' h
  cases h
  rfl

theorem get : Advances 0 (MonadState.get : EvalM Nat) := by
  intro t a t' h
  cases h
  rfl

end Advances

def SameTicks (x : EvalM α) (y : EvalM β) : Prop :=
  ∀ t a b t₁ t₂, (ExceptT.run x).run t = (.ok a, t₁) → (ExceptT.run y).run t = (.ok b, t₂) →
    t₁ = t₂

namespace SameTicks

theorem of_advances {k : Nat} {x : EvalM α} {y : EvalM β} (hx : Advances k x)
    (hy : Advances k y) : SameTicks x y := by
  intro t a b t₁ t₂ h₁ h₂
  rw [hx t a t₁ h₁, hy t b t₂ h₂]

theorem bind {x : EvalM α} {y : EvalM β} {g : α → EvalM γ} {g' : β → EvalM δ}
    (hxy : SameTicks x y) (hg : ∀ a b, SameTicks (g a) (g' b)) :
    SameTicks (x >>= g) (y >>= g') := by
  intro t a b t₁ t₂ h₁ h₂
  obtain ⟨a', s₁, hx, hga⟩ := run_bind_eq_ok h₁
  obtain ⟨b', s₂, hy, hgb⟩ := run_bind_eq_ok h₂
  have hs : s₁ = s₂ := hxy t a' b' s₁ s₂ hx hy
  subst hs
  exact hg a' b' s₁ a b t₁ t₂ hga hgb

end SameTicks

end EvalM

open EvalM

namespace Builtin

def ticksSpent : Builtin → Nat
  | tick => 1
  | _ => 0

theorem advances_textArg (v : Value) : Advances 0 (textArg v) := by
  unfold textArg
  split
  · exact .pure _
  · exact .throw _ _

theorem advances_integerArg (f : Builtin) (v : Value) : Advances 0 (integerArg f v) := by
  unfold integerArg
  split
  · exact .pure _
  · exact .throw _ _

theorem advances_mapM_textArg (vs : List Value) : Advances 0 (vs.mapM textArg) := by
  induction vs with
  | nil => exact .pure _
  | cons v vs ih =>
    rw [List.mapM_cons]
    exact (.bind (advances_textArg v) fun _ => .bind ih fun _ => .pure _ : Advances (0 + (0 + 0)) _)

theorem advances_apply (f : Builtin) (vs : List Value) : Advances f.ticksSpent (f.apply vs) := by
  unfold apply
  split
  all_goals first
    | exact .pure _
    | exact .throw _ _
    | exact (.bind (advances_integerArg _ _) fun _ =>
        .bind (advances_integerArg _ _) fun _ => .pure _ : Advances (0 + (0 + 0)) _)
    | exact (.bind (advances_mapM_textArg _) fun _ => .pure _ : Advances (0 + 0) _)
    | exact (.bind (advances_textArg _) fun _ => .pure _ : Advances (0 + 0) _)
    | exact (.bind (advances_textArg _) fun _ => .throw _ _ : Advances (0 + 0) _)
    | exact (.bind .modify_succ fun _ => .bind .get fun _ => .pure _ : Advances (1 + (0 + 0)) _)

end Builtin

namespace Node

mutual

theorem sameTicks_eval (c₁ c₂ : Chain) : ∀ e : Node, SameTicks (e.eval c₁) (e.eval c₂)
  | .apply f args => by
    simp only [eval]
    exact .bind (sameTicks_evalList c₁ c₂ args) fun vs₁ vs₂ =>
      .of_advances (Builtin.advances_apply f vs₁) (Builtin.advances_apply f vs₂)
  | .tagged _ n => by
    simp only [eval]
    by_cases h : n.isExpression = true
    · rw [if_pos h, if_pos h]
      exact sameTicks_eval c₁ c₂ n
    · rw [if_neg h, if_neg h]
      exact .of_advances (.pure _) (.pure _)
  | .probeBound _ | .probeTemplate | .probeDepth | .probeStack | .const _ | .call .. | .assign ..
  | .cond .. | .block _ | .ref _ | .lit _ | .text _ => .of_advances (.pure _) (.pure _)

theorem sameTicks_evalList (c₁ c₂ : Chain) :
    ∀ es : List Node, SameTicks (evalList c₁ es) (evalList c₂ es)
  | [] => .of_advances (.pure _) (.pure _)
  | e :: es => by
    simp only [evalList]
    exact .bind (sameTicks_eval c₁ c₂ e) fun _ _ =>
      .bind (sameTicks_evalList c₁ c₂ es) fun _ _ => .of_advances (.pure _) (.pure _)

end

theorem ticks_evalSeq_eq (c₁ c₂ : Chain) (es : List Node) (t : Nat)
    (h₁ : (evalSeq c₁ es t).fault = none) (h₂ : (evalSeq c₂ es t).fault = none) :
    (evalSeq c₁ es t).ticks = (evalSeq c₂ es t).ticks := by
  induction es generalizing t with
  | nil => rfl
  | cons e es ih =>
    rcases hr₁ : (ExceptT.run (e.eval c₁)).run t with ⟨r₁, t₁⟩
    rcases hr₂ : (ExceptT.run (e.eval c₂)).run t with ⟨r₂, t₂⟩
    rcases r₁ with f₁ | v₁
    · simp [evalSeq, hr₁] at h₁
    rcases r₂ with f₂ | v₂
    · simp [evalSeq, hr₂] at h₂
    have ht : t₁ = t₂ := sameTicks_eval c₁ c₂ e t v₁ v₂ t₁ t₂ hr₁ hr₂
    subst ht
    simp only [evalSeq, hr₁, hr₂] at h₁ h₂ ⊢
    exact ih t₁ h₁ h₂

theorem evalSeq_eq_of_values_eq {c₁ c₂ : Chain} {es : List Node} {t : Nat}
    (hv : (evalSeq c₁ es t).values = (evalSeq c₂ es t).values)
    (hf : (evalSeq c₁ es t).fault = (evalSeq c₂ es t).fault)
    (hnone : (evalSeq c₁ es t).fault = none) : evalSeq c₁ es t = evalSeq c₂ es t := by
  have ht := ticks_evalSeq_eq c₁ c₂ es t hnone (hf ▸ hnone)
  generalize evalSeq c₁ es t = ev₁ at hv hf ht
  generalize evalSeq c₂ es t = ev₂ at hv hf ht
  cases ev₁
  cases ev₂
  simp_all

end Node

/-! ### Chains that differ only below an isolated scope -/

namespace Chain

/-- `c₁` and `c₂` are `b₁` and `b₂` with the same isolated scope opened above each and the same
`j` scopes opened above that. -/
def Shielded (b₁ b₂ : Chain) (j : Nat) (c₁ c₂ : Chain) : Prop :=
  ∃ s inner, s.visibility = .isolated ∧ inner.length = j ∧
    c₁ = (b₁.nest [s]).nest inner ∧ c₂ = (b₂.nest [s]).nest inner

theorem assign_of_assignIn {c : Chain} {x : String} {v : Value} {ss : List Scope}
    (h : assignIn x v c.scopes = some ss) : c.assign x v = { c with scopes := ss } := by
  simp [assign, h]

namespace Shielded

variable {b₁ b₂ c₁ c₂ : Chain} {j : Nat}

theorem opened {s : Scope} (hs : s.visibility = .isolated) :
    Shielded b₁ b₂ 0 (b₁.nest [s]) (b₂.nest [s]) :=
  ⟨s, [], hs, rfl, rfl, rfl⟩

theorem find?_eq (h : Shielded b₁ b₂ j c₁ c₂) (x : String) : c₁.find? x = c₂.find? x := by
  obtain ⟨s, inner, hs, -, rfl, rfl⟩ := h
  exact lookupIn_append_isolated x hs b₁.root b₂.root b₁.scopes b₂.scopes inner

theorem assign (h : Shielded b₁ b₂ j c₁ c₂) (x : String) (v : Value) :
    Shielded b₁ b₂ j (c₁.assign x v) (c₂.assign x v) := by
  obtain ⟨s, inner, hs, hlen, rfl, rfl⟩ := h
  obtain ⟨inner', s', hlen', hs', ho⟩ := assignIn_append_isolated x v inner hs
  exact ⟨s', inner', hs', hlen'.trans hlen, assign_of_assignIn (ho b₁.scopes),
    assign_of_assignIn (ho b₂.scopes)⟩

theorem put (h : Shielded b₁ b₂ j c₁ c₂) (x : String) (v : Value) :
    Shielded b₁ b₂ j (c₁.put x v) (c₂.put x v) := by
  obtain ⟨s, inner, hs, hlen, rfl, rfl⟩ := h
  cases inner with
  | nil => exact ⟨{ s with bindings := s.bindings.put x v }, [], hs, hlen, rfl, rfl⟩
  | cons t inner =>
    exact ⟨s, { t with bindings := t.bindings.put x v } :: inner, hs, hlen, rfl, rfl⟩

theorem nest (h : Shielded b₁ b₂ j c₁ c₂) (t : Scope) :
    Shielded b₁ b₂ (j + 1) (c₁.nest [t]) (c₂.nest [t]) := by
  obtain ⟨s, inner, hs, hlen, rfl, rfl⟩ := h
  exact ⟨s, t :: inner, hs, by simp [hlen], by simp, by simp⟩

theorem pop (h : Shielded b₁ b₂ (j + 1) c₁ c₂) : Shielded b₁ b₂ j c₁.pop c₂.pop := by
  obtain ⟨s, inner, hs, hlen, rfl, rfl⟩ := h
  obtain ⟨t, inner, rfl⟩ := List.exists_cons_of_length_eq_add_one hlen
  exact ⟨s, inner, hs, by simpa using hlen, rfl, rfl⟩

theorem pop_eq (h : Shielded b₁ b₂ 0 c₁ c₂) : c₁.pop = b₁ ∧ c₂.pop = b₂ := by
  obtain ⟨s, inner, -, hlen, rfl, rfl⟩ := h
  rw [List.length_eq_zero_iff.mp hlen]
  exact ⟨rfl, rfl⟩

end Shielded

end Chain

/-- `st₂` is `st₁` with another chain, the two chains related by `R`. -/
def RenderState.Agree (R : Chain → Chain → Prop) (st₁ st₂ : RenderState) : Prop :=
  ∃ c₂, st₂ = { st₁ with chain := c₂ } ∧ R st₁.chain c₂

theorem RenderState.Agree.pair_eq {α : Type} {R : Chain → Chain → Prop}
    {p₁ p₂ : Except Fault α × RenderState} (h : p₁.1 = p₂.1 ∧ RenderState.Agree R p₁.2 p₂.2) :
    ∃ r s c, p₁ = (r, s) ∧ p₂ = (r, { s with chain := c }) ∧ R s.chain c := by
  obtain ⟨hr, c, hc, hR⟩ := h
  exact ⟨p₁.1, p₁.2, c, rfl, by rw [hr, ← hc], hR⟩

namespace RenderM

open RenderM

variable {α β : Type} {b₁ b₂ : Chain} {j : Nat}

/-- `x` cannot tell `b₁` from `b₂` below a shared isolated scope `j` scopes down: run from two
states that differ only there, it returns the same and leaves two states that differ only there. -/
def Blind (b₁ b₂ : Chain) (j : Nat) (x : RenderM α) : Prop :=
  ∀ st₁ st₂, RenderState.Agree (Chain.Shielded b₁ b₂ j) st₁ st₂ →
    (x.run st₁).1 = (x.run st₂).1 ∧
      RenderState.Agree (Chain.Shielded b₁ b₂ j) (x.run st₁).2 (x.run st₂).2

theorem ChainFree.blind {x : RenderM α} (hx : ChainFree x) : Blind b₁ b₂ j x := by
  rintro st₁ _ ⟨c₂, rfl, hc⟩
  rw [hx st₁ c₂]
  exact ⟨rfl, c₂, rfl, by rw [hx.chain_eq st₁]; exact hc⟩

namespace Blind

theorem bind {x : RenderM α} {g : α → RenderM β} (hx : Blind b₁ b₂ j x)
    (hg : ∀ a, Blind b₁ b₂ j (g a)) : Blind b₁ b₂ j (x >>= g) := by
  intro st₁ st₂ h
  obtain ⟨r, s, c, h₁, h₂, hc⟩ := RenderState.Agree.pair_eq (hx st₁ st₂ h)
  rw [run_bind, run_bind, h₁, h₂]
  rcases r with f | a
  · exact ⟨rfl, c, rfl, hc⟩
  · exact hg a s _ ⟨c, rfl, hc⟩

theorem chain_bind {g : Chain → RenderM α} (hg : ∀ c, Blind b₁ b₂ j (g c))
    (hsame : ∀ c c', (∀ x, c.find? x = c'.find? x) → g c = g c') :
    Blind b₁ b₂ j (RenderM.chain >>= g) := by
  rintro st₁ _ ⟨c₂, rfl, hc⟩
  rw [run_bind_ok (run_chain _), run_bind_ok (run_chain _)]
  rw [← hsame st₁.chain c₂ hc.find?_eq]
  exact hg st₁.chain st₁ _ ⟨c₂, rfl, hc⟩

theorem evalHere (e : Node) : Blind b₁ b₂ j (evalHere e) :=
  chain_bind (fun c => (ChainFree.evalIn c e).blind) fun c c' h => by
    unfold RenderM.evalIn
    rw [Node.eval_congr h e]

theorem assign (x : String) (v : Value) : Blind b₁ b₂ j (modifyChain (·.assign x v)) := by
  rintro st₁ _ ⟨c₂, rfl, hc⟩
  exact ⟨rfl, c₂.assign x v, rfl, hc.assign x v⟩

theorem wrapFaults {x : RenderM Unit} (hx : Blind b₁ b₂ j x) (name location : String) :
    Blind b₁ b₂ j (TemplateMacro.wrapFaults name location x) := by
  intro st₁ st₂ h
  obtain ⟨r, s, c, h₁, h₂, hc⟩ := RenderState.Agree.pair_eq (hx st₁ st₂ h)
  rw [run_wrapFaults, run_wrapFaults, h₁, h₂]
  rcases r with f | ⟨⟩
  · dsimp only
    split
    · exact ⟨rfl, c, rfl, hc⟩
    · exact ⟨rfl, c, rfl, hc⟩
  · exact ⟨rfl, c, rfl, hc⟩

end Blind

end RenderM

open RenderM

/-! ### Binding against two callers -/

namespace Binding

variable {d : Definition} {strict missing : Bool} {site : Site} {given : Nat}

theorem outcome_congr {ev ev' : Evaluation} (h : ev.fault = ev'.fault) :
    outcome d strict missing site given ev = outcome d strict missing site given ev' := by
  simp only [outcome, h]

theorem missingLog_congr {ev ev' : Evaluation} (h : ev.fault = ev'.fault) :
    missingLog d strict missing site given ev = missingLog d strict missing site given ev' := by
  simp only [missingLog, h]

theorem reference_congr (m : Macro) (site : Site) (args : List Node) (body : Option Node)
    (st : RenderState) {c₁ c₂ : Chain}
    (hv : (Node.evalSeq c₁ ((plan args m.definition.params).map (·.2)) st.ticks).values =
      (Node.evalSeq c₂ ((plan args m.definition.params).map (·.2)) st.ticks).values)
    (hf : (Node.evalSeq c₁ ((plan args m.definition.params).map (·.2)) st.ticks).fault =
      (Node.evalSeq c₂ ((plan args m.definition.params).map (·.2)) st.ticks).fault) :
    ∃ s : Scope, (reference m site args body { st with chain := c₁ }).2.chain = c₁.nest [s] ∧
      s.visibility = m.config.visibility ∧
      reference m site args body { st with chain := c₂ } =
        ((reference m site args body { st with chain := c₁ }).1,
          { (reference m site args body { st with chain := c₁ }).2 with
              chain := c₂.nest [s],
              ticks := (reference m site args body { st with chain := c₂ }).2.ticks }) := by
  unfold reference
  dsimp only
  by_cases hmany : m.config.strict = true ∧ m.definition.accepted < args.length
  · rw [if_pos hmany, if_pos hmany]
    exact ⟨_, rfl, rfl, rfl⟩
  · rw [if_neg hmany, if_neg hmany, ← outcome_congr hf, ← missingLog_congr hf, ← hv]
    exact ⟨_, rfl, rfl, rfl⟩

theorem reference_ticks (m : Macro) (site : Site) (args : List Node) (body : Option Node)
    (st : RenderState) :
    (reference m site args body st).2.ticks =
      if m.config.strict = true ∧ m.definition.accepted < args.length then st.ticks
      else (Node.evalSeq st.chain ((plan args m.definition.params).map (·.2)) st.ticks).ticks := by
  unfold reference
  dsimp only
  split <;> rfl

theorem reference_error_of_fault (m : Macro) (site : Site) (args : List Node)
    (body : Option Node) (st : RenderState) {f : Fault}
    (hf : (Node.evalSeq st.chain ((plan args m.definition.params).map (·.2)) st.ticks).fault =
      some f) :
    ∃ e, (reference m site args body st).1 = .error e := by
  unfold reference
  dsimp only
  split
  · exact ⟨_, rfl⟩
  · exact ⟨f, by simp [outcome, hf]⟩

end Binding

namespace Macro

variable {b₁ b₂ : Chain} {k : Nat}

theorem prologue_agree (m : Macro) (template : Scalar) (site : CallSite) (body : Option Node)
    (st : RenderState) {c₁ c₂ : Chain}
    (hev : Node.evalSeq c₁ ((Binding.plan site.args m.definition.params).map (·.2)) st.ticks =
      Node.evalSeq c₂ ((Binding.plan site.args m.definition.params).map (·.2)) st.ticks)
    (hopen : ∀ s : Scope, s.visibility = m.config.visibility →
      Chain.Shielded b₁ b₂ k (c₁.nest [s]) (c₂.nest [s])) :
    ((m.prologue template site c₁).run (m.scopeOpened body { st with chain := c₁ })).1 =
        ((m.prologue template site c₂).run (m.scopeOpened body { st with chain := c₂ })).1 ∧
      RenderState.Agree (Chain.Shielded b₁ b₂ k)
        ((m.prologue template site c₁).run (m.scopeOpened body { st with chain := c₁ })).2
        ((m.prologue template site c₂).run (m.scopeOpened body { st with chain := c₂ })).2 := by
  obtain ⟨s, hc₁, hs, hc₂⟩ := Binding.reference_congr m (site.position template) site.args body
    st (congrArg (·.values) hev) (congrArg (·.fault) hev)
  have ht : (Binding.reference m (site.position template) site.args body
      { st with chain := c₂ }).2.ticks =
      (Binding.reference m (site.position template) site.args body
        { st with chain := c₁ }).2.ticks := by
    rw [Binding.reference_ticks, Binding.reference_ticks]
    dsimp only
    rw [hev]
  rw [ht] at hc₂
  have hb₁ := Binding.run_eq_reference m (site.position template) site.args body
    { st with chain := c₁ }
  have hb₂ := Binding.run_eq_reference m (site.position template) site.args body
    { st with chain := c₂ }
  rw [run_prologue, run_prologue, hb₁, hb₂, hc₂]
  have hsh := hopen s hs
  rw [← hc₁] at hsh
  rcases hr : Binding.reference m (site.position template) site.args body
    { st with chain := c₁ } with ⟨r, P⟩
  rw [hr] at hsh
  rcases r with f | ⟨⟩
  · exact ⟨rfl, c₂.nest [s], rfl, hsh⟩
  · exact (Guard.chainFree_check _ _ _).blind P _ ⟨c₂.nest [s], rfl, hsh⟩

theorem renderBody_blind (m : Macro) (template : Scalar) (renderIn : Node → RenderM Unit)
    (site : CallSite) (hbody : ∀ b, Blind b₁ b₂ k (renderIn b)) :
    Blind b₁ b₂ k (m.renderBody template renderIn site) := by
  unfold renderBody
  apply Blind.wrapFaults
  cases m.definition.body with
  | none => exact (ChainFree.pure ()).blind
  | some b => exact hbody b

theorem invoke_agree (R : Chain → Chain → Prop) (m : Macro) (template : Scalar)
    (renderIn : Node → RenderM Unit) (site : CallSite) (explicit : Option Node)
    (st : RenderState) {c₁ c₂ : Chain}
    (hev : Node.evalSeq c₁ ((Binding.plan site.args m.definition.params).map (·.2)) st.ticks =
      Node.evalSeq c₂ ((Binding.plan site.args m.definition.params).map (·.2)) st.ticks)
    (hopen : ∀ s : Scope, s.visibility = m.config.visibility →
      Chain.Shielded b₁ b₂ k (c₁.nest [s]) (c₂.nest [s]))
    (hbody : ∀ b, Blind b₁ b₂ k (renderIn b))
    (hclose : ∀ d₁ d₂, Chain.Shielded b₁ b₂ k d₁ d₂ → R d₁.pop d₂.pop) :
    ((m.invoke template renderIn site explicit).run { st with chain := c₁ }).1 =
        ((m.invoke template renderIn site explicit).run { st with chain := c₂ }).1 ∧
      RenderState.Agree R ((m.invoke template renderIn site explicit).run { st with chain := c₁ }).2
        ((m.invoke template renderIn site explicit).run { st with chain := c₂ }).2 := by
  obtain ⟨r, P, c', hp₁, hp₂, hsh⟩ := RenderState.Agree.pair_eq
    (prologue_agree m template site (explicit.orElse fun _ => site.body) st hev hopen)
  rw [run_invoke, run_invoke]
  dsimp only
  rw [hp₁, hp₂]
  rcases r with f | ⟨⟩
  · exact ⟨rfl, c'.pop, rfl, hclose _ _ hsh⟩
  · obtain ⟨hres, c'', hst, hsh'⟩ := renderBody_blind m template renderIn site hbody
      { P with stack := P.stack.push m.name } _ ⟨c', rfl, hsh⟩
    dsimp only
    rw [← hres, hst]
    exact ⟨rfl, c''.pop, rfl, hclose _ _ hsh'⟩

end Macro

/-! ### Renders below an isolated scope -/

namespace RenderM.Blind

variable {b₁ b₂ : Chain} {j : Nat}

theorem invoke (m : Macro) (template : Scalar) (renderIn : Node → RenderM Unit) (site : CallSite)
    (explicit : Option Node) (hbody : ∀ b, Blind b₁ b₂ (j + 1) (renderIn b)) :
    Blind b₁ b₂ j (m.invoke template renderIn site explicit) := by
  rintro st₁ _ ⟨c₂, rfl, hc⟩
  have hev := Node.evalSeq_congr hc.find?_eq
    ((Binding.plan site.args m.definition.params).map (·.2)) st₁.ticks
  exact Macro.invoke_agree (Chain.Shielded b₁ b₂ j) m template renderIn site explicit st₁ hev
    (fun s _ => hc.nest s) hbody fun _ _ h => h.pop

end RenderM.Blind

namespace RenderEnv

variable {env : RenderEnv} {b₁ b₂ : Chain} {fuel : Nat}

theorem blind_ref (ih : ∀ n j, Blind b₁ b₂ j (env.render fuel n)) (x : String) (j : Nat) :
    Blind b₁ b₂ j (env.render (fuel + 1) (.ref x)) := by
  refine Blind.chain_bind (fun c => ?_) fun c c' h => by simp only [Chain.get, h x]
  split
  · exact (ChainFree.write _).blind
  · exact ih _ j
  · exact (ChainFree.writeValue _).blind

theorem blind_block (ih : ∀ n j, Blind b₁ b₂ j (env.render fuel n)) (cs : List Node) (j : Nat) :
    Blind b₁ b₂ j (env.render (fuel + 1) (.block cs)) := by
  induction cs with
  | nil => exact (ChainFree.pure ()).blind
  | cons c cs ihcs => exact Blind.bind (ih c j) fun _ => ihcs

theorem blind_cond (ih : ∀ n j, Blind b₁ b₂ j (env.render fuel n)) (test yes : Node)
    (no : Option Node) (j : Nat) : Blind b₁ b₂ j (env.render (fuel + 1) (.cond test yes no)) := by
  refine Blind.bind (.evalHere test) fun v => ?_
  split
  · exact ih yes j
  · cases no with
    | some e => exact ih e j
    | none => exact (ChainFree.pure ()).blind

theorem blind_call (ih : ∀ n j, Blind b₁ b₂ j (env.render fuel n)) (name : String)
    (args : List Node) (body : Option Node) (line column : Scalar) (j : Nat) :
    Blind b₁ b₂ j (env.render (fuel + 1) (.call name args body line column)) := by
  intro st₁ st₂ h
  cases hl : env.lookup name with
  | some m =>
    rw [run_render_call_found env fuel st₁ hl, run_render_call_found env fuel st₂ hl]
    exact Blind.invoke m env.template _ _ none (fun b => ih b (j + 1)) st₁ st₂ h
  | none =>
    have hsource : Blind b₁ b₂ j
        (writeCallSource (env.render fuel) name ⟨args, body, line, column⟩) := by
      unfold writeCallSource
      cases body with
      | none => exact (ChainFree.write _).blind
      | some b =>
        exact Blind.bind (ChainFree.write _).blind fun _ =>
          Blind.bind (ih b j) fun _ => (ChainFree.write _).blind
    rw [run_render_call_unknown env fuel st₁ hl, run_render_call_unknown env fuel st₂ hl]
    exact hsource st₁ st₂ h

variable (env b₁ b₂)

/-- Every render is blind to what lies below an isolated scope, however deep above it. -/
theorem blind_render : ∀ fuel n j, Blind b₁ b₂ j (env.render fuel n)
  | 0, _, _ => (ChainFree.throw _).blind
  | fuel + 1, n, j => by
    have ih := blind_render fuel
    cases n with
    | text s => exact (ChainFree.write s).blind
    | lit c => exact (ChainFree.writeValue _).blind
    | ref x => exact blind_ref ih x j
    | apply f args => exact Blind.bind (.evalHere _) fun v => (ChainFree.writeValue v).blind
    | block cs => exact blind_block ih cs j
    | cond test yes no => exact blind_cond ih test yes no j
    | assign x e => exact Blind.bind (.evalHere e) fun v => .assign x v
    | call name args body line column => exact blind_call ih name args body line column j
    | const c => exact (ChainFree.throw _).blind
    | probeStack => exact (ChainFree.bind .stack fun _ => .write _).blind
    | probeDepth => exact (ChainFree.bind .depth fun _ => .write _).blind
    | probeTemplate => exact (ChainFree.write _).blind
    | probeBound x =>
      exact Blind.chain_bind (fun _ => (ChainFree.write _).blind) fun c c' h => by
        unfold Chain.contains
        rw [h x]
    | tagged t n => exact ih n j

end RenderEnv

theorem Macro.invoke_of_binding_fault (m : Macro) (template : Scalar)
    (renderIn : Node → RenderM Unit) (site : CallSite) (explicit : Option Node)
    (st : RenderState) {c₁ c₂ : Chain}
    (hv : (Node.evalSeq c₁ ((Binding.plan site.args m.definition.params).map (·.2)) st.ticks).values =
      (Node.evalSeq c₂ ((Binding.plan site.args m.definition.params).map (·.2)) st.ticks).values)
    (hf : (Node.evalSeq c₁ ((Binding.plan site.args m.definition.params).map (·.2)) st.ticks).fault =
      (Node.evalSeq c₂ ((Binding.plan site.args m.definition.params).map (·.2)) st.ticks).fault)
    {f : Fault}
    (hsome : (Node.evalSeq c₁ ((Binding.plan site.args m.definition.params).map (·.2))
      st.ticks).fault = some f) :
    ((m.invoke template renderIn site explicit).run { st with chain := c₁ }).1 =
        ((m.invoke template renderIn site explicit).run { st with chain := c₂ }).1 ∧
      ((m.invoke template renderIn site explicit).run { st with chain := c₂ }).2 =
        { ((m.invoke template renderIn site explicit).run { st with chain := c₁ }).2 with
            chain := c₂,
            ticks := ((m.invoke template renderIn site explicit).run { st with chain := c₂ }).2.ticks } ∧
      ((m.invoke template renderIn site explicit).run { st with chain := c₁ }).2.chain = c₁ := by
  obtain ⟨s, hc₁, -, hc₂⟩ := Binding.reference_congr m (site.position template) site.args
    (explicit.orElse fun _ => site.body) st hv hf
  obtain ⟨e, he⟩ := Binding.reference_error_of_fault m (site.position template) site.args
    (explicit.orElse fun _ => site.body) { st with chain := c₁ } hsome
  have hb₁ := Binding.run_eq_reference m (site.position template) site.args
    (explicit.orElse fun _ => site.body) { st with chain := c₁ }
  have hb₂ := Binding.run_eq_reference m (site.position template) site.args
    (explicit.orElse fun _ => site.body) { st with chain := c₂ }
  rw [run_invoke, run_invoke, run_prologue, run_prologue, hb₁, hb₂, hc₂]
  rcases hr : Binding.reference m (site.position template) site.args
    (explicit.orElse fun _ => site.body) { st with chain := c₁ } with ⟨r, P⟩
  rw [hr] at he hc₁
  dsimp only at he hc₁
  subst he
  dsimp only
  rw [hc₁]
  exact ⟨rfl, rfl, rfl⟩

/-- An isolated macro reads nothing of its caller's chain but the values of the expressions its
binding evaluates there: its arguments and the defaults it falls back on. Invoked from two callers
that differ in their chains only, where those expressions give the same values and stop at the
same fault, if any, it ends with the same result, writes the same output, logs the same records
and leaves the same call stack, and each caller's chain as it was. Every lookup made inside it, in
its body, in a node passed to it or in a nested invocation of any visibility, stops at its scope. -/
theorem isolated_invocation_reads_only_arguments (env : RenderEnv) (fuel : Nat) (m : Macro)
    (site : CallSite) (explicit : Option Node) (st : RenderState) (c₁ c₂ : Chain)
    (hm : m.config.visibility = .isolated)
    (hv : (Node.evalSeq c₁ ((Binding.plan site.args m.definition.params).map (·.2)) st.ticks).values =
      (Node.evalSeq c₂ ((Binding.plan site.args m.definition.params).map (·.2)) st.ticks).values)
    (hf : (Node.evalSeq c₁ ((Binding.plan site.args m.definition.params).map (·.2)) st.ticks).fault =
      (Node.evalSeq c₂ ((Binding.plan site.args m.definition.params).map (·.2)) st.ticks).fault) :
    let run₁ := (m.invoke env.template (env.render fuel) site explicit).run { st with chain := c₁ }
    let run₂ := (m.invoke env.template (env.render fuel) site explicit).run { st with chain := c₂ }
    run₁.1 = run₂.1 ∧ run₁.2.output = run₂.2.output ∧ run₁.2.logs = run₂.2.logs ∧
      run₁.2.stack = run₂.2.stack ∧ run₁.2.chain = c₁ ∧ run₂.2.chain = c₂ := by
  dsimp only
  cases hnone : (Node.evalSeq c₁ ((Binding.plan site.args m.definition.params).map (·.2))
    st.ticks).fault with
  | none =>
    have hev := Node.evalSeq_eq_of_values_eq hv hf hnone
    obtain ⟨hr, c, hst, hc₁, rfl⟩ := Macro.invoke_agree (fun d₁ d₂ => d₁ = c₁ ∧ d₂ = c₂) m
      env.template (env.render fuel) site explicit st hev
      (fun s hs => Chain.Shielded.opened (hs.trans hm)) (fun b => env.blind_render c₁ c₂ fuel b 0)
      fun _ _ h => h.pop_eq
    rw [hst]
    exact ⟨hr, rfl, rfl, rfl, hc₁, rfl⟩
  | some f =>
    obtain ⟨hr, hst, hc₁⟩ := Macro.invoke_of_binding_fault m env.template (env.render fuel) site
      explicit st hv hf hnone
    rw [hst]
    exact ⟨hr, rfl, rfl, rfl, hc₁, rfl⟩

/-- A macro that greets its one argument and then refers to `x`, which only a caller's chain
could bind, isolated. -/
def isolatedGreeter : Macro :=
  ⟨⟨"greet", .param { name := "greet" }, [{ name := "who" }],
    some (.block [.text "hello ", .ref "who", .text " ", .ref "x"])⟩,
    ⟨false, .isolated, "bodyContent", 20⟩⟩

def greeterSite : CallSite := ⟨[.ref "y"], none, .null, .null⟩

def callerWithX (v : String) : Chain :=
  ⟨Store.ofList [("x", .scalar (.str v)), ("y", .scalar (.str "ann"))], []⟩

-- made inherited, the same greeter reads the caller's `x`, and the two callers tell apart
example :
    let inherited : Macro := ⟨isolatedGreeter.definition, ⟨false, .inherited, "bodyContent", 20⟩⟩
    ((inherited.invoke .null (({} : RenderEnv).render 5) greeterSite none).run
        { chain := callerWithX "one" }).2.output = "hello ann one" ∧
      ((inherited.invoke .null (({} : RenderEnv).render 5) greeterSite none).run
        { chain := callerWithX "two" }).2.output = "hello ann two" := by
  decide

theorem isolated_greeter_reads_only_arguments :
    isolatedGreeter.config.visibility = .isolated ∧
    (Node.evalSeq (callerWithX "one")
        ((Binding.plan greeterSite.args isolatedGreeter.definition.params).map (·.2))
        ({} : RenderState).ticks).values =
      (Node.evalSeq (callerWithX "two")
        ((Binding.plan greeterSite.args isolatedGreeter.definition.params).map (·.2))
        ({} : RenderState).ticks).values ∧
    (Node.evalSeq (callerWithX "one")
        ((Binding.plan greeterSite.args isolatedGreeter.definition.params).map (·.2))
        ({} : RenderState).ticks).fault =
      (Node.evalSeq (callerWithX "two")
        ((Binding.plan greeterSite.args isolatedGreeter.definition.params).map (·.2))
        ({} : RenderState).ticks).fault ∧
    (let run₁ := (isolatedGreeter.invoke ({} : RenderEnv).template (({} : RenderEnv).render 5)
        greeterSite none).run { ({} : RenderState) with chain := callerWithX "one" }
      let run₂ := (isolatedGreeter.invoke ({} : RenderEnv).template (({} : RenderEnv).render 5)
        greeterSite none).run { ({} : RenderState) with chain := callerWithX "two" }
      run₁.1 = run₂.1 ∧ run₁.2.output = run₂.2.output ∧ run₁.2.logs = run₂.2.logs ∧
        run₁.2.stack = run₂.2.stack ∧ run₁.2.chain = callerWithX "one" ∧
        run₂.2.chain = callerWithX "two") :=
  ⟨rfl, rfl, rfl, isolated_invocation_reads_only_arguments {} 5 isolatedGreeter greeterSite none {}
    (callerWithX "one") (callerWithX "two") rfl rfl rfl⟩

end TemplateMacro
