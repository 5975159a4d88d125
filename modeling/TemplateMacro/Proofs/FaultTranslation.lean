import TemplateMacro.Proofs.CallStack
/-!
Where the fault of a failed render comes from. A failed render has a visit that fails by its own
code, every nested render it started having completed, and the render's fault is that visit's
fault as it leaves the frames open around the visit: unchanged when it is a macro error or when
no frame is open, and otherwise wrapped once, by the innermost frame, which logs that it did.
-/

namespace TemplateMacro

/-- The visit `v` fails with `f` by its own code: every nested render it starts completes. -/
def Visit.RaisesOwn (env : RenderEnv) (v : Visit) (f : Fault) (st : RenderState) : Prop :=
  v.run env = (.error f, st) ∧ ∀ fs done w, Child env v fs done w → ∃ st', w.run env = (.ok (), st')

variable {env : RenderEnv}

theorem Visit.exists_origin {v : Visit} {f : Fault} {st : RenderState}
    (h : v.run env = (.error f, st)) :
    ∃ fs u e st₀, Reach env v fs u ∧ u.RaisesOwn env e st₀ ∧ f = Frame.translate fs e ∧
      st₀.Unwound (Frame.wrapLog fs e) st := by
  -- induction over the call tree: the origin is `v` itself, or lies below a nested render of
  -- `v` that failed
  refine @Child.induction env (fun v => ∀ f st, v.run env = (.error f, st) →
    ∃ fs u e st₀, Reach env v fs u ∧ u.RaisesOwn env e st₀ ∧ f = Frame.translate fs e ∧
      st₀.Unwound (Frame.wrapLog fs e) st) (fun v ih => ?_) v f st h
  intro f st h
  by_cases hfail : ∃ fs done w f' st', Child env v fs done w ∧ w.run env = (.error f', st')
  · obtain ⟨fs, done, w, f', st', hc, hw⟩ := hfail
    obtain ⟨gs, u, e, st₀, hr, hown, rfl, hun⟩ := ih fs done w hc f' st' hw
    obtain ⟨st'', hv, hst''⟩ := hc.run_of_error hw
    rw [h] at hv
    cases hv
    refine ⟨fs ++ gs, u, e, st₀, .step hc hr, hown, (Frame.translate_append fs gs e).symm, ?_⟩
    rw [Frame.wrapLog_append]
    exact hun.trans hst''
  · refine ⟨[], v, f, st, .refl v, ⟨h, fun fs done w hc => ?_⟩, rfl, .refl st⟩
    rcases hw : w.run env with ⟨r, st'⟩
    rcases r with f' | ⟨⟩
    · exact absurd ⟨fs, done, w, f', st', hc, hw⟩ hfail
    · exact ⟨st', rfl⟩

/-- Every fault is translated once, by the innermost open invocation. A visit that fails by its
own code, reached inside the frames `fs`, makes the whole render fail with its fault as the
frames translate it, with only the wrapping frame's record logged on the way; and every failed
render fails so from such a visit. -/
theorem render_fault_translated_once (env : RenderEnv) (v : Visit) :
    (∀ fs u e st, Reach env v fs u → u.RaisesOwn env e st →
      ∃ st', v.run env = (.error (Frame.translate fs e), st') ∧
        st.Unwound (Frame.wrapLog fs e) st') ∧
    ∀ f st, v.run env = (.error f, st) →
      ∃ fs u e st₀, Reach env v fs u ∧ u.RaisesOwn env e st₀ ∧ f = Frame.translate fs e ∧
        st₀.Unwound (Frame.wrapLog fs e) st :=
  ⟨fun _ _ _ _ h hu => h.run_of_error hu.1, fun _ _ h => Visit.exists_origin h⟩

end TemplateMacro
