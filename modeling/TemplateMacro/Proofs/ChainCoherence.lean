import TemplateMacro.Proofs.Frame
/-!
The scope chain as one coherent store: lookups and assignments of a name both act where the walk
outward for it stops, the first scope that binds it or is isolated, or else the root.
-/

namespace TemplateMacro

namespace Store

theorem bind_eq_set_or_append (x : String) (v : Value) : ∀ es : List (String × Value),
    bind x v es =
      if (lookup x es).isSome then es.set ((es.map (·.1)).idxOf x) (x, v) else es ++ [(x, v)]
  | [] => by simp [bind, lookup]
  | (y, w) :: rest => by
    by_cases h : y = x
    · subst h
      simp [bind, lookup]
    · have hb : (y == x) = false := by simpa using h
      simp only [bind, lookup, h, if_false, List.map_cons, List.idxOf_cons, hb, cond_false]
      rw [bind_eq_set_or_append x v rest]
      split <;> rfl

theorem put_entries (s : Store) (x : String) (v : Value) :
    (s.put x v).entries =
      if s.contains x then s.entries.set (s.names.idxOf x) (x, v) else s.entries ++ [(x, v)] :=
  bind_eq_set_or_append x v s.entries

@[simp] theorem contains_put_self (s : Store) (x : String) (v : Value) :
    (s.put x v).contains x = true := by
  simp [contains]

end Store

namespace Chain

/-- Where a walk outward for `x` through the scopes of `c` stops: every scope of `inner` above
`s` lets `x` pass, and `s` binds `x` or is isolated; `outer` lies below `s`. -/
structure StopsAt (c : Chain) (x : String) (inner : List Scope) (s : Scope)
    (outer : List Scope) : Prop where
  scopes_eq : c.scopes = inner ++ s :: outer
  passes_inner : passes x inner = true
  catches : s.visibility = .isolated ∨ s.bindings.contains x = true

theorem stopsAt_or_passes (x : String) (c : Chain) :
    (∃ inner s outer, c.StopsAt x inner s outer) ∨ passes x c.scopes = true := by
  obtain ⟨root, scopes⟩ := c
  induction scopes with
  | nil => exact .inr rfl
  | cons s rest ih =>
    by_cases h : s.visibility = .isolated ∨ s.bindings.contains x = true
    · exact .inl ⟨[], s, rest, ⟨rfl, rfl, h⟩⟩
    · have hv : s.visibility = .inherited := by
        cases hs : s.visibility <;> simp_all
      have hb : s.bindings.contains x = false := by simpa using (not_or.mp h).2
      rcases ih with ⟨inner, s', outer, hstop⟩ | hpass
      · refine .inl ⟨s :: inner, s', outer, ⟨?_, ?_, hstop.catches⟩⟩
        · exact congrArg (s :: ·) hstop.scopes_eq
        · simp [passes_cons, hv, hb, hstop.passes_inner]
      · exact .inr (by simpa [passes_cons, hv, hb] using hpass)

theorem StopsAt.not_passes {c : Chain} {x : String} {inner : List Scope} {s : Scope}
    {outer : List Scope} (h : c.StopsAt x inner s outer) : passes x c.scopes = false := by
  have hs : passes x [s] = false := by
    rcases h.catches with hv | hb
    · simp [passes, hv]
    · simp [passes, hb]
  rw [h.scopes_eq, ← List.singleton_append]
  simp only [passes, List.all_append] at hs ⊢
  simp [hs]

theorem lookupIn_append_of_passes {x : String} (root : Store) (rest : List Scope) :
    ∀ {inner : List Scope}, passes x inner = true →
      lookupIn x root (inner ++ rest) = lookupIn x root rest
  | [], _ => rfl
  | s :: inner, h => by
    obtain ⟨⟨hv, hb⟩, hrest⟩ : (s.visibility = .inherited ∧ s.bindings.contains x = false) ∧
        passes x inner = true := by
      simpa [passes_cons] using h
    have hnone : s.bindings.get? x = none := by simpa [Store.contains] using hb
    rw [List.cons_append, lookupIn, hnone, hv]
    exact lookupIn_append_of_passes root rest hrest

/-- A lookup reads `x` in the scope where the walk for `x` stops. -/
theorem StopsAt.find? {c : Chain} {x : String} {inner : List Scope} {s : Scope}
    {outer : List Scope} (h : c.StopsAt x inner s outer) : c.find? x = s.bindings.get? x := by
  rw [Chain.find?, h.scopes_eq, lookupIn_append_of_passes c.root _ h.passes_inner, lookupIn]
  cases hb : s.bindings.get? x with
  | some w => rfl
  | none =>
    have hv : s.visibility = .isolated := by
      rcases h.catches with hv | hc
      · exact hv
      · simp [Store.contains, hb] at hc
    simp [hv]

theorem find?_of_passes {c : Chain} {x : String} (h : passes x c.scopes = true) :
    c.find? x = c.root.get? x := by
  simpa [Chain.find?, lookupIn] using lookupIn_append_of_passes c.root [] h

/-- An assignment puts `x` into the scope where the walk for `x` stops. -/
theorem StopsAt.assign {c : Chain} {x : String} {inner : List Scope} {s : Scope}
    {outer : List Scope} (h : c.StopsAt x inner s outer) (v : Value) :
    c.assign x v = ⟨c.root, inner ++ { s with bindings := s.bindings.put x v } :: outer⟩ := by
  have hin : assignIn x v c.scopes =
      some (inner ++ { s with bindings := s.bindings.put x v } :: outer) := by
    rw [h.scopes_eq, assignIn_append, if_pos h.passes_inner, assignIn_cons_of_catches v _ h.catches]
    rfl
  simp [Chain.assign, hin]

theorem assign_of_passes {c : Chain} {x : String} (h : passes x c.scopes = true) (v : Value) :
    c.assign x v = { c with root := c.root.put x v } := by
  have hin : assignIn x v c.scopes = none := (assignIn_eq_none_iff x v c.scopes).mpr h
  simp [Chain.assign, hin]

theorem StopsAt.assign_stopsAt {c : Chain} {x : String} {inner : List Scope} {s : Scope}
    {outer : List Scope} (h : c.StopsAt x inner s outer) (v : Value) :
    (c.assign x v).StopsAt x inner { s with bindings := s.bindings.put x v } outer :=
  ⟨by rw [h.assign v], h.passes_inner, .inr (Store.contains_put_self _ _ _)⟩

theorem find?_assign_self (c : Chain) (x : String) (v : Value) :
    (c.assign x v).find? x = some v := by
  rcases stopsAt_or_passes x c with ⟨inner, s, outer, h⟩ | h
  · rw [(h.assign_stopsAt v).find?, Store.get?_put_self]
  · have h' : passes x (c.assign x v).scopes = true := by rwa [assign_of_passes h v]
    rw [find?_of_passes h', assign_of_passes h v, Store.get?_put_self]

theorem lookupIn_drop_assignIn_of_ne {x y : String} (v : Value) (h : y ≠ x) (root : Store) :
    ∀ (j : Nat) {ss ss' : List Scope}, assignIn x v ss = some ss' →
      lookupIn y root (ss'.drop j) = lookupIn y root (ss.drop j)
  | 0, _, _, hs => lookupIn_assignIn_of_ne v (Ne.symm h) root hs
  | _ + 1, [], _, hs => by simp [assignIn] at hs
  | j + 1, s :: rest, ss', hs => by
    unfold assignIn at hs
    split at hs
    · cases hs
      rfl
    · obtain ⟨rest', hr, rfl⟩ := Option.map_eq_some_iff.mp hs
      exact lookupIn_drop_assignIn_of_ne v h root j hr

theorem find?_upTo_assign_of_ne (c : Chain) {x y : String} (v : Value) (h : y ≠ x) (k : Nat) :
    ((c.assign x v).upTo k).find? y = (c.upTo k).find? y := by
  simp only [Chain.find?, upTo, length_assign]
  unfold Chain.assign
  split
  · exact lookupIn_drop_assignIn_of_ne v h c.root _ ‹_›
  · exact lookupIn_root_put_of_ne v (Ne.symm h) c.root _

end Chain

/-- The scope chain is one coherent store. The walk outward for `x` stops at one place: the
first scope that binds `x` or is isolated, or else the root. (i) `get` and `contains` both read
`x` there. (ii) An assignment of `x` changes that one store and only its entry for `x`, which it
replaces in place or appends. (iii) After it, `x` reads the assigned value, and every other name
reads as before from every level of the chain. -/
theorem scope_chain_coherent (c : Chain) (x : String) (v d : Value) :
    ((∃ inner s outer, c.StopsAt x inner s outer) ↔ Chain.passes x c.scopes = false) ∧
    (∀ inner s outer, c.StopsAt x inner s outer →
      c.get x d = (s.bindings.get? x).getD d ∧ c.contains x = s.bindings.contains x) ∧
    (Chain.passes x c.scopes = true →
      c.get x d = (c.root.get? x).getD d ∧ c.contains x = c.root.contains x) ∧
    (∀ inner s outer, c.StopsAt x inner s outer →
      c.assign x v = ⟨c.root, inner ++ { s with bindings := s.bindings.put x v } :: outer⟩) ∧
    (Chain.passes x c.scopes = true → c.assign x v = { c with root := c.root.put x v }) ∧
    (∀ b : Store, (b.put x v).entries =
      if b.contains x then b.entries.set (b.names.idxOf x) (x, v) else b.entries ++ [(x, v)]) ∧
    (c.assign x v).get x d = v ∧ (c.assign x v).contains x = true ∧
    ∀ y, y ≠ x → ∀ (k : Nat) (e : Value),
      ((c.assign x v).upTo k).get y e = (c.upTo k).get y e ∧
        ((c.assign x v).upTo k).contains y = (c.upTo k).contains y := by
  refine ⟨⟨fun ⟨_, _, _, h⟩ => h.not_passes, fun hp => ?_⟩, fun _ _ _ h => ?_, fun h => ?_,
    fun _ _ _ h => h.assign v, fun h => Chain.assign_of_passes h v,
    fun b => b.put_entries x v, ?_, ?_, fun y hy k e => ?_⟩
  · rcases Chain.stopsAt_or_passes x c with hs | hs
    · exact hs
    · simp [hs] at hp
  · simp [Chain.get, Chain.contains, Store.contains, h.find?]
  · simp [Chain.get, Chain.contains, Store.contains, Chain.find?_of_passes h]
  · simp [Chain.get, Chain.find?_assign_self]
  · simp [Chain.contains, Chain.find?_assign_self]
  · simp [Chain.get, Chain.contains, Chain.find?_upTo_assign_of_ne c v hy k]

end TemplateMacro
