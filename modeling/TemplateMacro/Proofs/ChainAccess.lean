import TemplateMacro.Proofs.ArgumentBinding
/-!
How renders touch the scope chain. Most steps of a render neither read nor change the chain;
evaluation reads it only through lookups, a macro's binding only puts into its own new scope,
and an assignment made above some scopes either lands among them or passes every one of them
and acts on the chain below as an assignment made there.
-/

namespace TemplateMacro

namespace Chain

/-- The chain `o` with the scopes `inner` opened above it, innermost first. -/
def nest (o : Chain) (inner : List Scope) : Chain := ⟨o.root, inner ++ o.scopes⟩

@[simp] theorem nest_nil (o : Chain) : o.nest [] = o := rfl

@[simp] theorem nest_nest (o : Chain) (inner inner' : List Scope) :
    (o.nest inner).nest inner' = o.nest (inner' ++ inner) := by
  simp [nest]

@[simp] theorem pop_nest_cons (o : Chain) (s : Scope) (inner : List Scope) :
    (o.nest (s :: inner)).pop = o.nest inner := rfl

/-- Whether an assignment of `x` made above the scopes `inner` passes every one of them: each
is inherited and does not bind `x`. -/
def passes (x : String) (inner : List Scope) : Bool :=
  inner.all fun s => decide (s.visibility = .inherited) && !s.bindings.contains x

@[simp] theorem passes_nil (x : String) : passes x [] = true := rfl

theorem passes_cons (x : String) (s : Scope) (inner : List Scope) :
    passes x (s :: inner) =
      (decide (s.visibility = .inherited) && !s.bindings.contains x && passes x inner) := by
  simp [passes]

theorem assignIn_cons_of_catches {x : String} (v : Value) {s : Scope} (rest : List Scope)
    (h : s.visibility = .isolated ∨ s.bindings.contains x = true) :
    assignIn x v (s :: rest) = some ({ s with bindings := s.bindings.put x v } :: rest) := by
  simp [assignIn, h]

theorem assignIn_cons_of_passes {x : String} (v : Value) {s : Scope} (rest : List Scope)
    (hv : s.visibility = .inherited) (hb : s.bindings.contains x = false) :
    assignIn x v (s :: rest) = (assignIn x v rest).map (s :: ·) := by
  simp [assignIn, hv, hb]

theorem length_of_assignIn {x : String} {v : Value} :
    ∀ {ss ss' : List Scope}, assignIn x v ss = some ss' → ss'.length = ss.length
  | [], _, h => by simp [assignIn] at h
  | s :: rest, ss', h => by
    unfold assignIn at h
    split at h
    · cases h
      rfl
    · obtain ⟨ss'', h', rfl⟩ := Option.map_eq_some_iff.mp h
      simp [length_of_assignIn h']

theorem assignIn_eq_none_iff (x : String) (v : Value) :
    ∀ ss : List Scope, assignIn x v ss = none ↔ passes x ss = true
  | [] => by simp [assignIn]
  | s :: rest => by
    rw [passes_cons]
    by_cases h : s.visibility = .isolated ∨ s.bindings.contains x = true
    · rw [assignIn_cons_of_catches v rest h]
      cases s with
      | mk vis b => cases vis <;> simp_all
    · have hv : s.visibility = .inherited := by
        cases hs : s.visibility <;> simp_all
      have hb : s.bindings.contains x = false := by simpa using (not_or.mp h).2
      rw [assignIn_cons_of_passes v rest hv hb, Option.map_eq_none_iff, assignIn_eq_none_iff x v rest]
      simp [hv, hb]

theorem assignIn_append (x : String) (v : Value) (outer : List Scope) :
    ∀ inner : List Scope, assignIn x v (inner ++ outer) =
      if passes x inner then (assignIn x v outer).map (inner ++ ·)
      else (assignIn x v inner).map (· ++ outer)
  | [] => by simp
  | s :: inner => by
    by_cases h : s.visibility = .isolated ∨ s.bindings.contains x = true
    · have hp : passes x (s :: inner) = false := by
        rw [passes_cons]
        rcases h with h | h <;> simp [h]
      rw [List.cons_append, assignIn_cons_of_catches v _ h, hp, assignIn_cons_of_catches v _ h]
      rfl
    · have hv : s.visibility = .inherited := by
        cases hs : s.visibility <;> simp_all
      have hb : s.bindings.contains x = false := by simpa using (not_or.mp h).2
      rw [List.cons_append, assignIn_cons_of_passes v _ hv hb, assignIn_append x v outer inner,
        passes_cons, assignIn_cons_of_passes v _ hv hb]
      simp only [hv, hb, decide_true, Bool.not_false, Bool.true_and]
      split <;> simp [Option.map_map, Function.comp_def]

theorem assign_nest (o : Chain) (inner : List Scope) (x : String) (v : Value) :
    ∃ inner', inner'.length = inner.length ∧
      (o.nest inner).assign x v = (if passes x inner then o.assign x v else o).nest inner' := by
  by_cases hp : passes x inner
  · refine ⟨inner, rfl, ?_⟩
    simp only [nest, assign, assignIn_append, hp, if_true]
    cases assignIn x v o.scopes <;> rfl
  · have hn : assignIn x v inner ≠ none := by
      rw [Ne, assignIn_eq_none_iff]
      simpa using hp
    obtain ⟨inner', hi⟩ := Option.ne_none_iff_exists'.mp hn
    refine ⟨inner', length_of_assignIn hi, ?_⟩
    simp [nest, assign, assignIn_append, hp, hi]

theorem lookupIn_append_isolated (x : String) {s : Scope} (hs : s.visibility = .isolated)
    (r r' : Store) (o o' : List Scope) :
    ∀ inner : List Scope, lookupIn x r (inner ++ s :: o) = lookupIn x r' (inner ++ s :: o')
  | [] => by simp [lookupIn, hs]
  | t :: inner => by
    simp only [List.cons_append, lookupIn]
    rw [lookupIn_append_isolated x hs r r' o o' inner]

theorem assignIn_append_isolated (x : String) (v : Value) :
    ∀ (inner : List Scope) {s : Scope}, s.visibility = .isolated →
      ∃ inner' s', inner'.length = inner.length ∧ s'.visibility = .isolated ∧
        ∀ o, assignIn x v (inner ++ s :: o) = some (inner' ++ s' :: o)
  | [], s, hs => ⟨[], { s with bindings := s.bindings.put x v }, rfl, hs,
      fun o => assignIn_cons_of_catches v o (.inl hs)⟩
  | t :: inner, s, hs => by
    by_cases h : t.visibility = .isolated ∨ t.bindings.contains x = true
    · exact ⟨{ t with bindings := t.bindings.put x v } :: inner, s, rfl, hs,
        fun o => assignIn_cons_of_catches v _ h⟩
    · have hv : t.visibility = .inherited := by
        cases ht : t.visibility <;> simp_all
      have hb : t.bindings.contains x = false := by simpa using (not_or.mp h).2
      obtain ⟨inner', s', hlen, hs', ho⟩ := assignIn_append_isolated x v inner hs
      refine ⟨t :: inner', s', by simp [hlen], hs', fun o => ?_⟩
      rw [List.cons_append, assignIn_cons_of_passes v _ hv hb, ho]
      rfl

end Chain

namespace Node

mutual

/-- Evaluation reads the chain only through lookups. -/
theorem eval_congr {c₁ c₂ : Chain} (h : ∀ x, c₁.find? x = c₂.find? x) :
    ∀ e : Node, e.eval c₁ = e.eval c₂
  | .ref x => by simp [eval, Chain.get, h x]
  | .apply f args => by simp only [eval, evalList_congr h args]
  | .tagged t n => by simp only [eval, eval_congr h n]
  | .text _ | .lit _ | .block _ | .cond .. | .assign .. | .call .. | .const _ | .probeStack
  | .probeDepth | .probeTemplate | .probeBound _ => rfl

theorem evalList_congr {c₁ c₂ : Chain} (h : ∀ x, c₁.find? x = c₂.find? x) :
    ∀ es : List Node, evalList c₁ es = evalList c₂ es
  | [] => rfl
  | e :: es => by simp only [evalList, eval_congr h e, evalList_congr h es]

end

theorem evalSeq_congr {c₁ c₂ : Chain} (h : ∀ x, c₁.find? x = c₂.find? x) (es : List Node)
    (t : Nat) : evalSeq c₁ es t = evalSeq c₂ es t := by
  induction es generalizing t with
  | nil => rfl
  | cons e es ih => simp only [evalSeq, eval_congr h e, ih]

end Node

namespace RenderM

open RenderM

variable {α β : Type}

/-- `x` neither reads nor changes the chain: run from any chain it does what it does from `st`,
and leaves that chain in place. -/
def ChainFree (x : RenderM α) : Prop :=
  ∀ st c, x.run { st with chain := c } = ((x.run st).1, { (x.run st).2 with chain := c })

namespace ChainFree

theorem pure (a : α) : ChainFree (Pure.pure a : RenderM α) := fun _ _ => rfl

theorem throw (f : Fault) : ChainFree (MonadExcept.throw f : RenderM α) := fun _ _ => rfl

theorem bind {x : RenderM α} {g : α → RenderM β} (hx : ChainFree x)
    (hg : ∀ a, ChainFree (g a)) : ChainFree (x >>= g) := by
  intro st c
  rw [run_bind, run_bind, hx st c]
  rcases x.run st with ⟨r, st'⟩
  rcases r with f | a
  · rfl
  · exact hg a st' c

theorem chain_eq {x : RenderM α} (h : ChainFree x) (st : RenderState) :
    (x.run st).2.chain = st.chain := by
  have hst := h st st.chain
  rw [show ({ st with chain := st.chain } : RenderState) = st from rfl] at hst
  exact congrArg (fun p : Except Fault α × RenderState => p.2.chain) hst

theorem write (s : String) : ChainFree (write s) := fun _ _ => rfl

theorem log (level : LogLevel) (message : String) : ChainFree (log level message) :=
  fun _ _ => rfl

theorem stack : ChainFree stack := fun _ _ => rfl

theorem depth : ChainFree depth := fun _ _ => rfl

theorem pushName (name : String) : ChainFree (pushName name) := fun _ _ => rfl

theorem modifyStack (g : Array String → Array String) : ChainFree (modifyStack g) :=
  fun _ _ => rfl

theorem evalIn (c : Chain) (e : Node) : ChainFree (evalIn c e) := by
  intro st c'
  rw [run_evalIn, run_evalIn]

theorem writeValue (v : Value) : ChainFree (writeValue v) := by
  unfold RenderM.writeValue
  split
  · exact write _
  · exact throw _

end ChainFree

end RenderM

open RenderM

theorem Guard.chainFree_check (d : Int) (name : String) (site : Site) :
    ChainFree (check (.int d) name site) := by
  intro st c
  by_cases hf : d ≤ 0 ∨ (st.stack.size : Int) < d
  · have hf' : d ≤ 0 ∨ (({ st with chain := c } : RenderState).stack.size : Int) < d := hf
    rw [run_check_of_fits name site hf', run_check_of_fits name site hf]
  · have h1 : 0 < d := by omega
    have h2 : d ≤ (st.stack.size : Int) := by omega
    have h2' : d ≤ (({ st with chain := c } : RenderState).stack.size : Int) := h2
    rw [run_check_of_exceeds name site h1 h2', run_check_of_exceeds name site h1 h2]

namespace RenderM

def KeepsChain (x : RenderM α) : Prop := ∀ st, (x.run st).2.chain = st.chain

theorem ChainFree.keepsChain {x : RenderM α} (h : ChainFree x) : KeepsChain x := h.chain_eq

namespace KeepsChain

theorem bind {x : RenderM α} {g : α → RenderM β} (hx : KeepsChain x)
    (hg : ∀ a, KeepsChain (g a)) : KeepsChain (x >>= g) := by
  intro st
  rw [run_bind]
  rcases h : x.run st with ⟨r, st'⟩
  have hs := hx st
  rw [h] at hs
  rcases r with f | a
  · exact hs
  · exact (hg a st').trans hs

theorem chain : KeepsChain RenderM.chain := fun _ => rfl

theorem evalHere (e : Node) : KeepsChain (evalHere e) :=
  .bind .chain fun c => (ChainFree.evalIn c e).keepsChain

end KeepsChain

end RenderM

/-- What a reference whose value is the scalar `c` writes: its own source when `c` is nothing,
and `c` otherwise. -/
def writeScalarRef (x : String) (c : Scalar) : RenderM Unit :=
  if c = .null then RenderM.write ("$" ++ x) else RenderM.writeValue (.scalar c)

theorem chainFree_writeScalarRef (x : String) (c : Scalar) : ChainFree (writeScalarRef x c) := by
  unfold writeScalarRef
  split
  · exact ChainFree.write _
  · exact ChainFree.writeValue _

theorem RenderEnv.run_render_ref_scalar_eq (env : RenderEnv) (fuel : Nat) {st : RenderState}
    {x : String} {c : Scalar} (h : st.chain.get x Value.null = .scalar c) :
    (env.render (fuel + 1) (.ref x)).run st = (writeScalarRef x c).run st := by
  simp only [RenderEnv.render]
  rw [run_bind_ok (run_chain st), h]
  cases c <;> simp [writeScalarRef]

end TemplateMacro
