import TemplateMacro.Proofs.CallTree
import TemplateMacro.Proofs.ChainAccess
/-!
The frame rule of invocations: the caller's chain changes only by the assignments made during a
call that pass out of its scope, in the order they are made. An isolated macro changes nothing.
-/

namespace TemplateMacro

namespace Chain

def assignAll (c : Chain) (ws : List (String × Value)) : Chain :=
  ws.foldl (fun c w => c.assign w.1 w.2) c

/-- Whether an assignment of `x` made on `c` passes every scope above the bottom `k`. -/
def passesOver (c : Chain) (k : Nat) (x : String) : Bool :=
  passes x (c.scopes.take (c.scopes.length - k))

@[simp] theorem assignAll_nil (c : Chain) : c.assignAll [] = c := rfl

@[simp] theorem assignAll_cons (c : Chain) (w : String × Value) (ws : List (String × Value)) :
    c.assignAll (w :: ws) = (c.assign w.1 w.2).assignAll ws := rfl

theorem assignAll_append (c : Chain) (ws ws' : List (String × Value)) :
    c.assignAll (ws ++ ws') = (c.assignAll ws).assignAll ws' :=
  List.foldl_append

theorem length_assign (c : Chain) (x : String) (v : Value) :
    (c.assign x v).scopes.length = c.scopes.length := by
  unfold assign
  split
  · exact length_of_assignIn ‹_›
  · rfl

theorem length_assignAll (c : Chain) (ws : List (String × Value)) :
    (c.assignAll ws).scopes.length = c.scopes.length := by
  induction ws generalizing c with
  | nil => rfl
  | cons w ws ih => rw [assignAll_cons, ih, length_assign]

theorem passesOver_nest (o : Chain) (inner : List Scope) (x : String) :
    (o.nest inner).passesOver o.scopes.length x = passes x inner := by
  simp [passesOver, nest]

theorem lookupIn_assignIn_of_ne {x y : String} (v : Value) (h : y ≠ x) (root : Store) :
    ∀ {ss ss' : List Scope}, assignIn y v ss = some ss' → lookupIn x root ss' = lookupIn x root ss
  | [], _, hs => by simp [assignIn] at hs
  | s :: rest, ss', hs => by
    unfold assignIn at hs
    split at hs
    · cases hs
      simp [lookupIn, Store.get?_put_of_ne _ _ (Ne.symm h)]
    · obtain ⟨rest', hr, rfl⟩ := Option.map_eq_some_iff.mp hs
      simp only [lookupIn]
      rw [lookupIn_assignIn_of_ne v h root hr]

theorem lookupIn_root_put_of_ne {x y : String} (v : Value) (h : y ≠ x) (root : Store) :
    ∀ ss : List Scope, lookupIn x (root.put y v) ss = lookupIn x root ss
  | [] => Store.get?_put_of_ne root v (Ne.symm h)
  | s :: rest => by
    simp only [lookupIn]
    rw [lookupIn_root_put_of_ne v h root rest]

theorem find?_assign_of_ne (c : Chain) {x y : String} (v : Value) (h : y ≠ x) :
    (c.assign y v).find? x = c.find? x := by
  unfold assign
  split
  · exact lookupIn_assignIn_of_ne v h c.root ‹_›
  · simp [find?, lookupIn_root_put_of_ne v h]

theorem find?_assignAll_of_forall_ne (c : Chain) {x : String} :
    ∀ {ws : List (String × Value)}, (∀ w ∈ ws, w.1 ≠ x) → (c.assignAll ws).find? x = c.find? x
  | [], _ => rfl
  | w :: ws, h => by
    rw [assignAll_cons, find?_assignAll_of_forall_ne _ fun w' hw' => h w' (by simp [hw']),
      find?_assign_of_ne c w.2 (h w (by simp))]

theorem assignAll_nest_isolated (o : Chain) {s : Scope} (hs : s.visibility = .isolated) :
    ∀ ws : List (String × Value), ∃ s', s'.visibility = .isolated ∧
      (o.nest [s]).assignAll ws = o.nest [s']
  | [] => ⟨s, hs, rfl⟩
  | w :: ws => by
    obtain ⟨inner', s', hlen, hs', ho⟩ := assignIn_append_isolated w.1 w.2 [] hs
    obtain ⟨s'', hs'', hrest⟩ := assignAll_nest_isolated o hs' ws
    have hw : (o.nest [s]).assign w.1 w.2 = o.nest [s'] := by
      have hnil : inner' = [] := List.eq_nil_of_length_eq_zero hlen
      subst hnil
      have hin := ho o.scopes
      simp only [List.nil_append] at hin
      simp [nest, assign, hin]
    exact ⟨s'', hs'', by rw [assignAll_cons, hw, hrest]⟩

end Chain

namespace RenderEnv

def blockAssigns (render : Node → RenderM Unit)
    (assigns : Node → RenderState → List (String × Value)) :
    List Node → RenderState → List (String × Value)
  | [], _ => []
  | c :: cs, st =>
    assigns c st ++
      match (render c).run st with
      | (.ok (), st') => blockAssigns render assigns cs st'
      | (.error _, _) => []

theorem blockAssigns_cons_of_ok {render : Node → RenderM Unit}
    {assigns : Node → RenderState → List (String × Value)} {c : Node} {cs : List Node}
    {st st' : RenderState} (h : (render c).run st = (.ok (), st')) :
    blockAssigns render assigns (c :: cs) st = assigns c st ++ blockAssigns render assigns cs st' := by
  simp [blockAssigns, h]

theorem blockAssigns_cons_of_error {render : Node → RenderM Unit}
    {assigns : Node → RenderState → List (String × Value)} {c : Node} {cs : List Node}
    {st st' : RenderState} {f : Fault} (h : (render c).run st = (.error f, st')) :
    blockAssigns render assigns (c :: cs) st = assigns c st := by
  simp [blockAssigns, h]

end RenderEnv

def Macro.bodyAssigns (m : Macro) (template : Scalar)
    (assigns : Node → RenderState → List (String × Value)) (site : CallSite)
    (explicit : Option Node) (st : RenderState) : List (String × Value) :=
  match (m.prologue template site st.chain).run
      (m.scopeOpened (explicit.orElse fun _ => site.body) st), m.definition.body with
  | (.ok (), st'), some b => assigns b { st' with stack := st'.stack.push m.name }
  | _, _ => []

namespace RenderEnv

/-- The assignments that rendering `n` with budget `fuel` from `st` makes and that pass every
scope above the bottom `k` of the chain, with the values assigned, in the order they are made. -/
def assignsOut (env : RenderEnv) (k : Nat) : Nat → Node → RenderState → List (String × Value)
  | 0, _, _ => []
  | fuel + 1, n, st =>
    match n with
    | .ref x =>
      match st.chain.get x Value.null with
      | .node m => assignsOut env k fuel m st
      | .scalar _ => []
    | .block cs => blockAssigns (env.render fuel) (assignsOut env k fuel) cs st
    | .cond test yes no =>
      match (RenderM.evalHere test).run st with
      | (.ok v, st') =>
        if v.truthy then assignsOut env k fuel yes st'
        else match no with
          | some e => assignsOut env k fuel e st'
          | none => []
      | (.error _, _) => []
    | .assign x e =>
      match (RenderM.evalHere e).run st with
      | (.ok v, _) => if st.chain.passesOver k x then [(x, v)] else []
      | (.error _, _) => []
    | .call name args body line column =>
      match env.lookup name with
      | some m =>
        m.bodyAssigns env.template (assignsOut env k fuel) ⟨args, body, line, column⟩ none st
      | none =>
        match body with
        | some b => assignsOut env k fuel b
            { st with output := st.output ++ ("#@" ++ name ++ "(" ++ Node.sourceList args ++ ")") }
        | none => []
    | .tagged _ m => assignsOut env k fuel m st
    | _ => []

/-- The assignments an invocation of `m` from `st` makes that pass out of its own scope into the
caller's chain, in the order they are made. -/
def callerAssigns (env : RenderEnv) (fuel : Nat) (m : Macro) (site : CallSite)
    (explicit : Option Node) (st : RenderState) : List (String × Value) :=
  m.bodyAssigns env.template (env.assignsOut st.chain.scopes.length fuel) site explicit st

/-- Rendering `n` with budget `fuel` changes the chain below the scopes open above it only by the
assignments `assignsOut` lists, and leaves as many scopes open above it. -/
def Framed (env : RenderEnv) (fuel : Nat) (n : Node) : Prop :=
  ∀ (st : RenderState) (o : Chain) (inner : List Scope), st.chain = o.nest inner →
    ∃ inner', inner'.length = inner.length ∧
      ((env.render fuel n).run st).2.chain =
        (o.assignAll (env.assignsOut o.scopes.length fuel n st)).nest inner'

end RenderEnv

open RenderM

theorem chain_run_wrapFaults (name location : String) (x : RenderM Unit) (st : RenderState) :
    ((wrapFaults name location x).run st).2.chain = (x.run st).2.chain := by
  rw [run_wrapFaults]
  rcases x.run st with ⟨r, st'⟩
  rcases r with f | ⟨⟩
  · dsimp only
    split <;> rfl
  · rfl

namespace Binding

theorem reference_chain (m : Macro) (site : Site) (args : List Node) (body : Option Node)
    (st : RenderState) :
    ∃ b, (reference m site args body st).2.chain = st.chain.nest [⟨m.config.visibility, b⟩] := by
  unfold reference
  dsimp only
  split <;> exact ⟨_, rfl⟩

end Binding

namespace Macro

theorem prologue_chain (m : Macro) (template : Scalar) (site : CallSite) (body : Option Node)
    (st : RenderState) :
    ∃ b, ((m.prologue template site st.chain).run (m.scopeOpened body st)).2.chain =
      st.chain.nest [⟨m.config.visibility, b⟩] := by
  obtain ⟨b, hb⟩ := Binding.reference_chain m (site.position template) site.args body st
  refine ⟨b, ?_⟩
  rw [run_prologue, Binding.run_eq_reference]
  rcases hr : Binding.reference m (site.position template) site.args body st with ⟨r, st'⟩
  rw [hr] at hb
  rcases r with f | ⟨⟩
  · exact hb
  · exact ((Guard.chainFree_check _ _ _).chain_eq st').trans hb

theorem chain_run_invoke (m : Macro) (template : Scalar) (renderIn : Node → RenderM Unit)
    (site : CallSite) (explicit : Option Node) (st : RenderState) :
    ((m.invoke template renderIn site explicit).run st).2.chain =
      match (m.prologue template site st.chain).run
          (m.scopeOpened (explicit.orElse fun _ => site.body) st), m.definition.body with
      | (.ok (), st₁), some b =>
        ((renderIn b).run { st₁ with stack := st₁.stack.push m.name }).2.chain.pop
      | (_, st₁), _ => st₁.chain.pop := by
  rw [run_invoke]
  rcases (m.prologue template site st.chain).run
    (m.scopeOpened (explicit.orElse fun _ => site.body) st) with ⟨r, st₁⟩
  rcases r with f | ⟨⟩
  · cases m.definition.body <;> rfl
  · dsimp only
    rw [renderBody, chain_run_wrapFaults]
    cases m.definition.body <;> rfl

end Macro

namespace RenderEnv

variable (env : RenderEnv)

theorem framed_of_keepsChain {fuel : Nat} {n : Node} (hk : KeepsChain (env.render fuel n))
    (ht : ∀ k st, env.assignsOut k fuel n st = []) : Framed env fuel n := by
  intro st o inner h
  refine ⟨inner, rfl, ?_⟩
  rw [hk st, ht, Chain.assignAll_nil, h]

theorem framed_zero (n : Node) : Framed env 0 n :=
  fun _ _ inner h => ⟨inner, rfl, h⟩

variable {env} {fuel : Nat}

theorem framed_ref (ih : ∀ n, Framed env fuel n) (x : String) :
    Framed env (fuel + 1) (.ref x) := by
  intro st o inner h
  rcases hx : st.chain.get x Value.null with c | m
  · have htr : env.assignsOut o.scopes.length (fuel + 1) (.ref x) st = [] := by
      simp [assignsOut, hx]
    refine ⟨inner, rfl, ?_⟩
    rw [run_render_ref_scalar_eq env fuel hx, (chainFree_writeScalarRef x c).chain_eq, htr,
      Chain.assignAll_nil, h]
  · have htr : env.assignsOut o.scopes.length (fuel + 1) (.ref x) st =
        env.assignsOut o.scopes.length fuel m st := by
      simp [assignsOut, hx]
    rw [run_render_ref_node env fuel st hx, htr]
    exact ih m st o inner h

theorem framed_block (ih : ∀ n, Framed env fuel n) (cs : List Node) :
    Framed env (fuel + 1) (.block cs) := by
  induction cs with
  | nil => exact framed_of_keepsChain env (fun _ => rfl) fun _ _ => rfl
  | cons c cs ihcs =>
    intro st o inner h
    have hblock : env.assignsOut o.scopes.length (fuel + 1) (.block (c :: cs)) st =
        blockAssigns (env.render fuel) (env.assignsOut o.scopes.length fuel) (c :: cs) st := rfl
    obtain ⟨inner₁, hlen₁, hc⟩ := ih c st o inner h
    rw [run_render_block_cons, hblock]
    rcases hr : (env.render fuel c).run st with ⟨r, st'⟩
    rw [hr] at hc
    rcases r with f | ⟨⟩
    · rw [blockAssigns_cons_of_error hr]
      exact ⟨inner₁, hlen₁, hc⟩
    · obtain ⟨inner₂, hlen₂, hcs⟩ := ihcs st' _ inner₁ hc
      rw [Chain.length_assignAll] at hcs
      rw [blockAssigns_cons_of_ok hr, Chain.assignAll_append]
      exact ⟨inner₂, hlen₂.trans hlen₁, hcs⟩

theorem framed_cond (ih : ∀ n, Framed env fuel n) (test yes : Node) (no : Option Node) :
    Framed env (fuel + 1) (.cond test yes no) := by
  intro st o inner h
  have htr : env.assignsOut o.scopes.length (fuel + 1) (.cond test yes no) st =
      match (evalHere test).run st with
      | (.ok v, st') =>
        if v.truthy then env.assignsOut o.scopes.length fuel yes st'
        else match no with
          | some e => env.assignsOut o.scopes.length fuel e st'
          | none => []
      | (.error _, _) => [] := rfl
  rw [run_render_cond, htr]
  have hkeep := KeepsChain.evalHere test st
  rcases hr : (evalHere test).run st with ⟨r, st'⟩
  rw [hr] at hkeep
  have hst : st'.chain = o.nest inner := hkeep.trans h
  rcases r with f | v
  · exact ⟨inner, rfl, hst⟩
  · dsimp only
    split
    · exact ih yes st' o inner hst
    · cases no with
      | some e => exact ih e st' o inner hst
      | none => exact ⟨inner, rfl, hst⟩

theorem framed_assign (x : String) (e : Node) : Framed env (fuel + 1) (.assign x e) := by
  intro st o inner h
  have hrun : (env.render (fuel + 1) (.assign x e)).run st =
      (evalHere e >>= fun v => modifyChain (·.assign x v)).run st := rfl
  have htr : env.assignsOut o.scopes.length (fuel + 1) (.assign x e) st =
      match (evalHere e).run st with
      | (.ok v, _) => if st.chain.passesOver o.scopes.length x then [(x, v)] else []
      | (.error _, _) => [] := rfl
  rw [hrun, htr, run_bind]
  have hkeep := KeepsChain.evalHere e st
  rcases hr : (evalHere e).run st with ⟨r, st'⟩
  rw [hr] at hkeep
  rcases r with f | v
  · exact ⟨inner, rfl, hkeep.trans h⟩
  · obtain ⟨inner', hlen, ha⟩ := Chain.assign_nest o inner x v
    refine ⟨inner', hlen, ?_⟩
    dsimp only at hkeep ⊢
    rw [run_modifyChain]
    dsimp only
    rw [hkeep, h, ha, Chain.passesOver_nest]
    split <;> rfl

theorem framed_invoke (ih : ∀ n, Framed env fuel n) (m : Macro) (site : CallSite)
    (explicit : Option Node) {st : RenderState} {o : Chain} {inner : List Scope}
    (h : st.chain = o.nest inner) :
    ∃ inner', inner'.length = inner.length ∧
      ((m.invoke env.template (env.render fuel) site explicit).run st).2.chain =
        (o.assignAll (m.bodyAssigns env.template (env.assignsOut o.scopes.length fuel) site
          explicit st)).nest inner' := by
  rw [Macro.chain_run_invoke]
  unfold Macro.bodyAssigns
  obtain ⟨b, hp⟩ := m.prologue_chain env.template site (explicit.orElse fun _ => site.body) st
  rcases hr : (m.prologue env.template site st.chain).run
    (m.scopeOpened (explicit.orElse fun _ => site.body) st) with ⟨r, st₁⟩
  rw [hr] at hp
  have hopen : st₁.chain = o.nest (⟨m.config.visibility, b⟩ :: inner) := by
    rw [hp, h, Chain.nest_nest]
    rfl
  rcases r with f | ⟨⟩
  · refine ⟨inner, rfl, ?_⟩
    cases m.definition.body <;> (dsimp only; rw [hopen]; rfl)
  · cases hb : m.definition.body with
    | none =>
      refine ⟨inner, rfl, ?_⟩
      dsimp only
      rw [hopen]
      rfl
    | some body =>
      dsimp only
      obtain ⟨inner', hlen, hc⟩ :=
        ih body { st₁ with stack := st₁.stack.push m.name } o _ hopen
      obtain ⟨s', rest, rfl⟩ := List.exists_cons_of_length_eq_add_one hlen
      exact ⟨rest, by simpa using hlen, by rw [hc]; rfl⟩

theorem framed_call (ih : ∀ n, Framed env fuel n) (name : String) (args : List Node)
    (body : Option Node) (line column : Scalar) :
    Framed env (fuel + 1) (.call name args body line column) := by
  intro st o inner h
  cases hl : env.lookup name with
  | none =>
    have htr : env.assignsOut o.scopes.length (fuel + 1) (.call name args body line column) st =
        match body with
        | some b => env.assignsOut o.scopes.length fuel b
            { st with output := st.output ++ ("#@" ++ name ++ "(" ++ Node.sourceList args ++ ")") }
        | none => [] := by
      simp [assignsOut, hl]
    rw [run_render_call_unknown env fuel st hl, htr]
    cases body with
    | none => exact ⟨inner, rfl, h⟩
    | some b =>
      obtain ⟨inner', hlen, hb⟩ := ih b
        { st with output := st.output ++ ("#@" ++ name ++ "(" ++ Node.sourceList args ++ ")") }
        o inner h
      refine ⟨inner', hlen, ?_⟩
      simp only [writeCallSource]
      rw [run_bind_ok (run_write _ _), run_bind]
      rcases hr : (env.render fuel b).run
        { st with output := st.output ++ ("#@" ++ name ++ "(" ++ Node.sourceList args ++ ")") }
        with ⟨r, st'⟩
      rw [hr] at hb
      rcases r with f | ⟨⟩
      · exact hb
      · exact hb
  | some m =>
    have htr : env.assignsOut o.scopes.length (fuel + 1) (.call name args body line column) st =
        m.bodyAssigns env.template (env.assignsOut o.scopes.length fuel)
          ⟨args, body, line, column⟩ none st := by
      simp [assignsOut, hl]
    rw [run_render_call_found env fuel st hl, htr]
    exact framed_invoke ih m _ none h

variable (env)

/-- Every render changes the chain below the scopes open around it only by the assignments that
pass every one of those scopes, in the order they are made, and leaves as many scopes open. -/
theorem framed : ∀ fuel n, Framed env fuel n
  | 0, n => framed_zero env n
  | fuel + 1, n => by
    have ih := framed fuel
    cases n with
    | text s => exact framed_of_keepsChain env (ChainFree.write s).keepsChain fun _ _ => rfl
    | lit c => exact framed_of_keepsChain env (ChainFree.writeValue _).keepsChain fun _ _ => rfl
    | ref x => exact framed_ref ih x
    | apply f args =>
      exact framed_of_keepsChain env
        (.bind (.evalHere _) fun v => (ChainFree.writeValue v).keepsChain) fun _ _ => rfl
    | block cs => exact framed_block ih cs
    | cond test yes no => exact framed_cond ih test yes no
    | assign x e => exact framed_assign x e
    | call name args body line column => exact framed_call ih name args body line column
    | const c => exact framed_of_keepsChain env (ChainFree.throw _).keepsChain fun _ _ => rfl
    | probeStack =>
      exact framed_of_keepsChain env
        (ChainFree.bind .stack fun _ => ChainFree.write _).keepsChain fun _ _ => rfl
    | probeDepth =>
      exact framed_of_keepsChain env
        (ChainFree.bind .depth fun _ => ChainFree.write _).keepsChain fun _ _ => rfl
    | probeTemplate => exact framed_of_keepsChain env (ChainFree.write _).keepsChain fun _ _ => rfl
    | probeBound x =>
      exact framed_of_keepsChain env
        (.bind .chain fun _ => (ChainFree.write _).keepsChain) fun _ _ => rfl
    | tagged t n => exact ih n

theorem chain_run_invoke_isolated (fuel : Nat) {m : Macro} (hm : m.config.visibility = .isolated)
    (site : CallSite) (explicit : Option Node) (st : RenderState) :
    ((m.invoke env.template (env.render fuel) site explicit).run st).2.chain = st.chain := by
  rw [Macro.chain_run_invoke]
  obtain ⟨b, hp⟩ := m.prologue_chain env.template site (explicit.orElse fun _ => site.body) st
  rcases hr : (m.prologue env.template site st.chain).run
    (m.scopeOpened (explicit.orElse fun _ => site.body) st) with ⟨r, st₁⟩
  rw [hr] at hp
  dsimp only at hp
  rcases r with f | ⟨⟩
  · cases m.definition.body <;> (dsimp only; rw [hp]; rfl)
  · cases hb : m.definition.body with
    | none =>
      dsimp only
      rw [hp]
      rfl
    | some body =>
      dsimp only
      have hs : (⟨m.config.visibility, b⟩ : Scope).visibility = .isolated := hm
      obtain ⟨inner', hlen, hc⟩ := framed env fuel body { st₁ with stack := st₁.stack.push m.name }
        (st.chain.nest [⟨m.config.visibility, b⟩]) [] (by rw [hp]; rfl)
      obtain ⟨s', -, hs'⟩ := Chain.assignAll_nest_isolated st.chain hs
        (env.assignsOut (st.chain.nest [⟨m.config.visibility, b⟩]).scopes.length fuel body
          { st₁ with stack := st₁.stack.push m.name })
      rw [List.length_eq_zero_iff.mp hlen, Chain.nest_nil] at hc
      rw [hc, hs']
      rfl

end RenderEnv

/-- The frame rule of invocations. Whether it returns or fails, an invocation leaves its caller's
chain as the caller's own assignments of `callerAssigns` would, made in order: exactly the
assignments made during it, at any depth, that pass every scope from where they are made down to
and including the invocation's own. So an isolated macro leaves its caller's chain as it was, and
a name none of those assignments writes looks up after the call as before: no binding of the
invocation's scope is seen from the caller. -/
theorem invocation_frame_rule (env : RenderEnv) (fuel : Nat) (m : Macro) (site : CallSite)
    (explicit : Option Node) (st : RenderState) :
    ((m.invoke env.template (env.render fuel) site explicit).run st).2.chain =
        st.chain.assignAll (env.callerAssigns fuel m site explicit st) ∧
    (m.config.visibility = .isolated →
      ((m.invoke env.template (env.render fuel) site explicit).run st).2.chain = st.chain) ∧
    ∀ x, (∀ w ∈ env.callerAssigns fuel m site explicit st, w.1 ≠ x) →
      ((m.invoke env.template (env.render fuel) site explicit).run st).2.chain.find? x =
        st.chain.find? x := by
  obtain ⟨inner', hlen, hc⟩ :=
    RenderEnv.framed_invoke (env.framed fuel) m site explicit (show st.chain = st.chain.nest [] from rfl)
  rw [List.length_eq_zero_iff.mp hlen, Chain.nest_nil] at hc
  refine ⟨hc, fun hm => env.chain_run_invoke_isolated fuel hm site explicit st, fun x hx => ?_⟩
  rw [hc]
  exact st.chain.find?_assignAll_of_forall_ne hx

-- made inherited, the same body's assignment passes out and lands in the caller's root
example :
    let inherited : Macro :=
      ⟨⟨"setter", .param { name := "setter" }, [],
        some (.block [.assign "x" (.lit (.int 1)), .text "set"])⟩,
        ⟨false, .inherited, "bodyContent", 20⟩⟩
    (((inherited.invoke ({} : RenderEnv).template (({} : RenderEnv).render 3) {} none).run
      {}).2.chain.root.names = ["x"]) ∧
    (({} : RenderEnv).callerAssigns 3 inherited {} none {}).map (·.1) = ["x"] := by
  decide

def isolatedSetter : Macro :=
  ⟨⟨"setter", .param { name := "setter" }, [],
    some (.block [.assign "x" (.lit (.int 1)), .text "set"])⟩, ⟨false, .isolated, "bodyContent", 20⟩⟩

theorem isolated_setter_frame_rule :
    isolatedSetter.config.visibility = .isolated ∧
    (∀ w ∈ ({} : RenderEnv).callerAssigns 3 isolatedSetter {} none {}, w.1 ≠ "x") ∧
    (((isolatedSetter.invoke ({} : RenderEnv).template (({} : RenderEnv).render 3) {} none).run
        {}).2.chain =
        ({} : RenderState).chain.assignAll (({} : RenderEnv).callerAssigns 3 isolatedSetter {} none {}) ∧
      (isolatedSetter.config.visibility = .isolated →
        ((isolatedSetter.invoke ({} : RenderEnv).template (({} : RenderEnv).render 3) {} none).run
          {}).2.chain = ({} : RenderState).chain) ∧
      ∀ x, (∀ w ∈ ({} : RenderEnv).callerAssigns 3 isolatedSetter {} none {}, w.1 ≠ x) →
        ((isolatedSetter.invoke ({} : RenderEnv).template (({} : RenderEnv).render 3) {} none).run
          {}).2.chain.find? x = ({} : RenderState).chain.find? x) :=
  ⟨rfl, by decide, invocation_frame_rule {} 3 isolatedSetter {} none {}⟩

end TemplateMacro
