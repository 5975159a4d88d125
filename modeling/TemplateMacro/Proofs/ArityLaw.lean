import TemplateMacro.Proofs.ArgumentBinding
/-!
The arity law of argument binding. Binding is positional, so a call with at most as many
arguments as parameters binds every parameter, with no arity fault, exactly when every parameter
past its last argument has a default. With the defaults last, that is the count law.
-/

namespace TemplateMacro

namespace Definition

/-- Whether the parameters with a default all come after those without one. -/
def defaultsTrail (d : Definition) : Bool :=
  (d.params.dropWhile (!·.hasDefault)).all (·.hasDefault)

theorem minRequired_le_iff {d : Definition} (h : d.defaultsTrail = true) (n : Nat) :
    d.minRequired ≤ n ↔ ∀ p ∈ d.params.drop n, p.hasDefault = true := by
  obtain ⟨name, slot, ps, body⟩ := d
  simp only [defaultsTrail, minRequired] at h ⊢
  induction ps generalizing n with
  | nil => simp
  | cons p ps ih =>
    cases hp : p.hasDefault
    · have h' : (ps.dropWhile (!·.hasDefault)).all (·.hasDefault) = true := by
        simpa [List.dropWhile_cons, hp] using h
      cases n with
      | zero => simp [hp]
      | succ n => simp [hp, ih n h']
    · have hall : ∀ q ∈ p :: ps, q.hasDefault = true := by
        simpa [List.dropWhile_cons, hp] using h
      have hreq : ((p :: ps).filter (!·.hasDefault)).length = 0 := by
        simpa [List.filter_eq_nil_iff] using hall
      simp only [hreq, Nat.zero_le, true_iff]
      exact fun q hq => hall q (List.mem_of_mem_drop hq)

end Definition

def Evaluation.result (ev : Evaluation) : Except Fault Unit :=
  match ev.fault with
  | some f => .error f
  | none => .ok ()

theorem Evaluation.result_eq_error {ev : Evaluation} {f : Fault} :
    ev.result = .error f ↔ ev.fault = some f := by
  cases h : ev.fault <;> simp [result, h]

namespace Binding

theorem outcome_of_not_missing (d : Definition) (strict : Bool) (site : Site) (given : Nat)
    (ev : Evaluation) : outcome d strict false site given ev = ev.result := by
  cases h : ev.fault <;> simp [outcome, Evaluation.result, h]

theorem missingLog_of_not_missing (d : Definition) (strict : Bool) (site : Site) (given : Nat)
    (ev : Evaluation) : missingLog d strict false site given ev = [] := by
  simp [missingLog]

/-- The expressions a call binds its parameters from, in order, when every parameter past its
last argument has a default: the arguments, then the defaults of the parameters after them. -/
def positional (args : List Node) (ps : List Parameter) : List Node :=
  args ++ (ps.drop args.length).filterMap (·.default)

theorem run_bindArguments_of_le (caller : Chain) (d : Definition) (args : List Node)
    (strict : Bool) (site : Site) (st : RenderState) (hn : args.length ≤ d.accepted) :
    (bindArguments caller d args strict site).run st =
      (bindParams caller d strict site args.length args d.params).run st := by
  have hmany : ¬(strict = true ∧ d.accepted < args.length) := by omega
  rw [run_bindArguments, if_neg hmany, if_neg (by omega)]

theorem stops_eq_false_iff (args : List Node) (ps : List Parameter) :
    stops args ps = false ↔ ∀ p ∈ ps.drop args.length, p.hasDefault = true := by
  simp [stops]

theorem plan_eq_positional :
    ∀ {args : List Node} {ps : List Parameter}, args.length ≤ ps.length →
      stops args ps = false →
      plan args ps = (ps.map (·.name)).zip (positional args ps) ∧
        (positional args ps).length = ps.length
  | [], [], _, _ => ⟨rfl, rfl⟩
  | _ :: _, [], hn, _ => absurd hn (by simp)
  | a :: args, p :: ps, hn, hs => by
    rw [stops_cons_cons] at hs
    obtain ⟨hplan, hlen⟩ := plan_eq_positional (by simpa using hn) hs
    simp only [positional] at hplan hlen
    simp [positional, hplan, hlen]
  | [], p :: ps, _, hs => by
    cases hd : p.default with
    | none => simp [stops_nil_missing ps hd] at hs
    | some e =>
      rw [stops_nil_default ps hd] at hs
      obtain ⟨hplan, hlen⟩ := plan_eq_positional (Nat.zero_le _) hs
      simp only [positional, List.nil_append, List.length_nil, List.drop_zero] at hplan hlen
      simp [positional, plan_nil_default ps hd, hplan, hlen, hd]

end Binding

open RenderM

/-- Such a call evaluates the arguments and then the remaining defaults against the caller, in
order, and puts every parameter with its value; it fails only where an evaluation fails. -/
theorem bindArguments_positional (caller : Chain) (d : Definition) (args : List Node)
    (strict : Bool) (site : Site) (st : RenderState) (hn : args.length ≤ d.accepted)
    (hd : ∀ p ∈ d.params.drop args.length, p.hasDefault = true) :
    (bindArguments caller d args strict site).run st =
      let ev := Node.evalSeq caller (Binding.positional args d.params) st.ticks
      (ev.result,
        { st with chain := st.chain.putAll (d.paramNames.zip ev.values), ticks := ev.ticks }) := by
  have hs : Binding.stops args d.params = false := (Binding.stops_eq_false_iff _ _).mpr hd
  obtain ⟨hplan, hlen⟩ := Binding.plan_eq_positional hn hs
  rw [Binding.run_bindArguments_of_le caller d args strict site st hn, Binding.run_bindParams]
  have hnames : ((d.params.map (·.name)).zip (Binding.positional args d.params)).map (·.1) =
      d.paramNames := List.map_fst_zip (by simp [hlen])
  have hexprs : ((d.params.map (·.name)).zip (Binding.positional args d.params)).map (·.2) =
      Binding.positional args d.params := List.map_snd_zip (by simp [hlen])
  simp only [hplan, hnames, hexprs, hs, Binding.outcome_of_not_missing,
    Binding.missingLog_of_not_missing, List.append_nil]

theorem bindArguments_positional_fault (caller : Chain) (d : Definition) (args : List Node)
    (strict : Bool) (site : Site) (st : RenderState) (hn : args.length ≤ d.accepted)
    (hd : ∀ p ∈ d.params.drop args.length, p.hasDefault = true) {f : Fault}
    (hf : ((bindArguments caller d args strict site).run st).1 = .error f) :
    f.ofEvaluation = true := by
  rw [bindArguments_positional caller d args strict site st hn hd] at hf
  exact Node.ofEvaluation_of_evalSeq (Evaluation.result_eq_error.mp hf)

/-- The too-few fault cites the required count and the argument count, which need not be
fewer. -/
theorem strict_bindArguments_tooFew_iff (caller : Chain) (d : Definition) (args : List Node)
    (site : Site) (st : RenderState) (hn : args.length ≤ d.accepted) :
    ((bindArguments caller d args true site).run st).1 =
        .error (.arity .tooFew d.name (.int d.minRequired) (.int args.length) site.recorded) ↔
      (∃ p ∈ d.params.drop args.length, p.hasDefault = false) ∧
        (Node.evalSeq caller ((Binding.plan args d.params).map (·.2)) st.ticks).fault = none := by
  rw [Binding.run_bindArguments_of_le caller d args true site st hn, Binding.run_bindParams]
  have hstops : Binding.stops args d.params = true ↔
      ∃ p ∈ d.params.drop args.length, p.hasDefault = false := by
    simp [Binding.stops]
  rw [← hstops]
  simp only [Binding.outcome, Bool.and_true]
  split
  · rename_i f hf
    have hev := Node.ofEvaluation_of_evalSeq hf
    constructor
    · intro h
      cases h
      simp [Fault.ofEvaluation] at hev
    · intro h
      simp [hf] at h
  · rename_i hf
    cases Binding.stops args d.params <;> simp [hf]

theorem bindArguments_between_counts (caller : Chain) (d : Definition) (args : List Node)
    (strict : Bool) (site : Site) (st : RenderState) (htrail : d.defaultsTrail = true)
    (hk : d.minRequired ≤ args.length) (hn : args.length ≤ d.accepted) :
    (bindArguments caller d args strict site).run st =
      let ev := Node.evalSeq caller (Binding.positional args d.params) st.ticks
      (ev.result,
        { st with chain := st.chain.putAll (d.paramNames.zip ev.values), ticks := ev.ticks }) :=
  bindArguments_positional caller d args strict site st hn
    ((Definition.minRequired_le_iff htrail _).mp hk)

theorem strict_tooFew_below_required (caller : Chain) (d : Definition) (args : List Node)
    (site : Site) (st : RenderState) (htrail : d.defaultsTrail = true)
    (hn : args.length ≤ d.accepted)
    (h : ((bindArguments caller d args true site).run st).1 =
      .error (.arity .tooFew d.name (.int d.minRequired) (.int args.length) site.recorded)) :
    args.length < d.minRequired := by
  obtain ⟨⟨p, hp, hdef⟩, -⟩ := (strict_bindArguments_tooFew_iff caller d args site st hn).mp h
  refine Nat.lt_of_not_le fun hk => ?_
  have hall := (Definition.minRequired_le_iff htrail args.length).mp hk
  simp [hall p hp] at hdef

-- a default before the one required parameter: one argument is refused as too few
example : ((bindArguments {} ⟨"m", .param { name := "m" },
    [{ name := "a", default := some (.lit (.str "A")) }, { name := "b" }], none⟩
    [.lit (.str "v1")] true (.label .null)).run {}).1 =
      .error (.arity .tooFew "m" (.int 1) (.int 1) "") :=
  rfl

end TemplateMacro
