import Mathlib.Data.List.Basic
import Mathlib.Tactic

/-!
# Runs of a partial transition function

A system is given by a partial function `step : σ → ℓ → Option σ`: the label says
what happened, and `none` means that it could not have happened in that state.
All nondeterminism sits in the labels, so a run is determined by its trace and can
be evaluated (`exec`), while invariants are proved once per step and lifted to
every run by the rules below.

* `Run step s tr t` — the trace `tr` leads from `s` to `t`.
* `Run.invariant` — what holds at the start and survives every step holds after
  every run.
* `Run.never` — some steps are no longer possible.
* `EveryStep` — a condition on each step of a run, and `Run.invariant_of_everyStep`,
  the invariant rule under such a condition.
* `Run.countP_le`, `Run.length_le` — a rank that drops at every step, or at those of one
  kind, bounds the number of them in a run, and `exists_stuck_run` — bounded runs come to an
  end.
* `exists_run_of_rank` — a goal that a run comes nearer to from everywhere is reached.
* `exists_run_fed` — a machine that comes to its next wait by itself has a run over any results.
* `Run.simulated` — one machine answers each step of another with a run of its own.
* `Run.embedded`, `Run.lift` — a machine that runs inside another.
-/

namespace Library

variable {σ τ ℓ κ : Type*}

/-- The trace leads from the first state to the second.  The trace grows at its
end, so induction on a run strips the last step. -/
inductive Run (step : σ → ℓ → Option σ) (s : σ) : List ℓ → σ → Prop
  | nil : Run step s [] s
  | snoc {tr : List ℓ} {t u : σ} {e : ℓ} :
      Run step s tr t → step t e = some u → Run step s (tr ++ [e]) u

/-- Evaluate a trace, failing at the first label that is not possible. -/
def exec (step : σ → ℓ → Option σ) : σ → List ℓ → Option σ
  | s, [] => some s
  | s, e :: tr =>
      match step s e with
      | none => none
      | some t => exec step t tr

/-- The condition `C` holds of every step the trace takes from `s`: of the state
before the step and of the step's label. -/
def EveryStep (step : σ → ℓ → Option σ) (C : σ → ℓ → Prop) : σ → List ℓ → Prop
  | _, [] => True
  | s, e :: tr => C s e ∧ ∀ t ∈ step s e, EveryStep step C t tr

/-- A state from which no step is possible. -/
def Stuck (step : σ → ℓ → Option σ) (s : σ) : Prop :=
  ∀ e, step s e = none

section Runs

variable {step : σ → ℓ → Option σ} {s t u : σ} {e : ℓ} {tr tr' : List ℓ}

theorem Run.single (h : step s e = some t) : Run step s [e] t :=
  Run.nil.snoc h

theorem Run.append (h : Run step s tr t) (h' : Run step t tr' u) :
    Run step s (tr ++ tr') u := by
  induction h' with
  | nil => simpa using h
  | snoc _ hstep ih =>
      rw [← List.append_assoc]
      exact ih.snoc hstep

theorem Run.cons (h : step s e = some t) (h' : Run step t tr u) :
    Run step s (e :: tr) u :=
  (Run.single h).append h'

/-- A run whose trace is split passes through a state at the split. -/
theorem Run.split (h : Run step s (tr ++ tr') u) :
    ∃ t, Run step s tr t ∧ Run step t tr' u := by
  induction tr' using List.reverseRecOn generalizing u with
  | nil => exact ⟨u, by simpa using h, Run.nil⟩
  | append_singleton tr' e ih =>
      rw [← List.append_assoc] at h
      generalize htr : tr ++ tr' ++ [e] = full at h
      cases h with
      | nil => simp at htr
      | snoc hrun hstep =>
          obtain ⟨rfl, he⟩ := List.append_inj' htr rfl
          obtain rfl : e = _ := by simpa using he
          obtain ⟨t, hleft, hright⟩ := ih hrun
          exact ⟨t, hleft, hright.snoc hstep⟩

theorem Run.eq_of_nil (h : Run step s [] t) : t = s := by
  generalize htr : ([] : List ℓ) = tr at h
  cases h with
  | nil => rfl
  | snoc _ _ => simp at htr

theorem Run.step_of_single (h : Run step s [e] t) : step s e = some t := by
  generalize htr : [e] = tr at h
  cases h with
  | nil => simp at htr
  | snoc hrun hstep =>
      obtain ⟨rfl, he⟩ := List.append_inj' (show [] ++ [e] = _ ++ [_] from htr) rfl
      obtain rfl : e = _ := by simpa using he
      rw [hrun.eq_of_nil] at hstep
      exact hstep

theorem Run.of_snoc (h : Run step s (tr ++ [e]) u) :
    ∃ t, Run step s tr t ∧ step t e = some u := by
  obtain ⟨t, hrun, hlast⟩ := h.split
  exact ⟨t, hrun, hlast.step_of_single⟩

theorem Run.of_cons (h : Run step s (e :: tr) u) :
    ∃ t, step s e = some t ∧ Run step t tr u := by
  obtain ⟨t, hfirst, hrest⟩ := Run.split (show Run step s ([e] ++ tr) u from h)
  exact ⟨t, hfirst.step_of_single, hrest⟩

/-- The step taken at a position of the trace. -/
theorem Run.step_at (h : Run step s (tr ++ e :: tr') u) :
    ∃ t t', Run step s tr t ∧ step t e = some t' ∧ Run step t' tr' u := by
  obtain ⟨t, hpre, hpost⟩ := h.split
  obtain ⟨t', hstep, hrest⟩ := hpost.of_cons
  exact ⟨t, t', hpre, hstep, hrest⟩

theorem run_iff_exec : Run step s tr t ↔ exec step s tr = some t := by
  induction tr generalizing s with
  | nil =>
      constructor
      · intro h
        simp [exec, h.eq_of_nil]
      · intro h
        obtain rfl : s = t := by simpa [exec] using h
        exact Run.nil
  | cons e tr ih =>
      constructor
      · intro h
        obtain ⟨v, hstep, hrest⟩ := h.of_cons
        simp [exec, hstep, ih.mp hrest]
      · intro h
        cases hstep : step s e with
        | none => simp [exec, hstep] at h
        | some v =>
            simp only [exec, hstep] at h
            exact Run.cons hstep (ih.mpr h)

/-- A machine whose steps are several of another runs as the other does. -/
theorem Run.of_exec {κ : Type*} {f : κ → List ℓ} {tr : List κ}
    (h : Run (fun s k => exec step s (f k)) s tr t) : Run step s (tr.flatMap f) t := by
  induction h with
  | nil => exact Run.nil
  | snoc _ hs ih =>
      rw [List.flatMap_append, List.flatMap_singleton]
      exact ih.append (run_iff_exec.mpr hs)

/-- A trace that evaluates to a state with a property is a run to such a state. -/
theorem exists_run_of_exec {P : σ → Prop} [DecidablePred P]
    (h : (exec step s tr).any (fun t => decide (P t)) = true) :
    ∃ t, Run step s tr t ∧ P t := by
  obtain ⟨t, hexec, hP⟩ := (Option.any_eq_true _ _).mp h
  exact ⟨t, run_iff_exec.mpr hexec, of_decide_eq_true hP⟩

/-- A trace leads to at most one state. -/
theorem Run.deterministic (h : Run step s tr t) (h' : Run step s tr u) : t = u := by
  rw [run_iff_exec] at h h'
  exact Option.some.inj (h.symm.trans h')

/-- The invariant rule. -/
theorem Run.invariant {I : σ → Prop}
    (hstep : ∀ t e u, I t → step t e = some u → I u)
    (h : Run step s tr t) (h0 : I s) : I t := by
  induction h with
  | nil => exact h0
  | snoc _ hs ih => exact hstep _ _ _ ih hs

/-- The invariant rule, for what holds of a state and of the trace that led to it. -/
theorem Run.traced {I : List ℓ → σ → Prop}
    (hstep : ∀ tr t e u, I tr t → step t e = some u → I (tr ++ [e]) u)
    (h : Run step s tr t) (h0 : I [] s) : I tr t := by
  induction h with
  | nil => exact h0
  | snoc _ hs ih => exact hstep _ _ _ _ ih hs

/-- Once in the states of an invariant from which no step of one kind is possible, the run has
none of them. -/
theorem Run.never {J : σ → Prop} {q : ℓ → Prop}
    (hstep : ∀ t e u, J t → step t e = some u → J u ∧ ¬ q e)
    (h : Run step s tr t) (h0 : J s) : ∀ e ∈ tr, ¬ q e := by
  have hall : J t ∧ ∀ e ∈ tr, ¬ q e := by
    induction h with
    | nil => exact ⟨h0, by simp⟩
    | snoc _ hs ih =>
        obtain ⟨hJ, hnone⟩ := ih
        obtain ⟨hJ', hnot⟩ := hstep _ _ _ hJ hs
        refine ⟨hJ', ?_⟩
        intro e he
        rcases List.mem_append.mp he with hmem | hlast
        · exact hnone e hmem
        · obtain rfl := List.mem_singleton.mp hlast
          exact hnot
  exact hall.2

/-- `EveryStep` position by position. -/
theorem everyStep_iff {C : σ → ℓ → Prop} :
    EveryStep step C s tr ↔
      ∀ pre e post t, tr = pre ++ e :: post → Run step s pre t → C t e := by
  induction tr generalizing s with
  | nil =>
      constructor
      · intro _ pre e post t htr
        simp at htr
      · intro _
        trivial
  | cons e tr ih =>
      constructor
      · rintro ⟨hfirst, hrest⟩ pre e' post t htr hrun
        cases pre with
        | nil =>
            obtain ⟨rfl, rfl⟩ : e = e' ∧ tr = post := by simpa using htr
            rw [hrun.eq_of_nil]
            exact hfirst
        | cons d pre =>
            obtain ⟨rfl, rfl⟩ : e = d ∧ tr = pre ++ e' :: post := by simpa using htr
            obtain ⟨v, hstep, hrest'⟩ := hrun.of_cons
            exact ih.mp (hrest v hstep) pre e' post t rfl hrest'
      · intro h
        refine ⟨h [] e tr s rfl Run.nil, ?_⟩
        intro v hstep
        refine ih.mpr ?_
        intro pre e' post t htr hrun
        exact h (e :: pre) e' post t (by simp [htr]) (Run.cons hstep hrun)

/-- A condition that the labels meet in any state. -/
theorem everyStep_of_forall {C : σ → ℓ → Prop} (h : ∀ e ∈ tr, ∀ s, C s e) :
    EveryStep step C s tr := by
  rw [everyStep_iff]
  intro pre e post t htr _
  exact h e (by simp [htr]) t

theorem EveryStep.and {C D : σ → ℓ → Prop} (hC : EveryStep step C s tr)
    (hD : EveryStep step D s tr) : EveryStep step (fun s e => C s e ∧ D s e) s tr := by
  rw [everyStep_iff] at hC hD ⊢
  intro pre e post t htr hrun
  exact ⟨hC pre e post t htr hrun, hD pre e post t htr hrun⟩

theorem EveryStep.of_append {C : σ → ℓ → Prop} (h : EveryStep step C s (tr ++ tr')) :
    EveryStep step C s tr := by
  rw [everyStep_iff] at h ⊢
  intro pre e' post t htr hrun
  exact h pre e' (post ++ tr') t (by simp [htr]) hrun

theorem EveryStep.of_snoc {C : σ → ℓ → Prop} (h : EveryStep step C s (tr ++ [e])) :
    EveryStep step C s tr :=
  h.of_append

theorem everyStep_snoc_iff {C : σ → ℓ → Prop} (hrun : Run step s tr t) :
    EveryStep step C s (tr ++ [e]) ↔ EveryStep step C s tr ∧ C t e := by
  induction tr generalizing s with
  | nil => simp [EveryStep, hrun.eq_of_nil]
  | cons d tr ih =>
      obtain ⟨v, hstep, hrest⟩ := hrun.of_cons
      simp only [List.cons_append, EveryStep, hstep, Option.mem_def, Option.some.injEq,
        forall_eq', ih hrest]
      tauto

theorem EveryStep.last {C : σ → ℓ → Prop} (h : EveryStep step C s (tr ++ [e]))
    (hrun : Run step s tr t) : C t e :=
  everyStep_iff.mp h tr e [] t rfl hrun

theorem EveryStep.suffix {C : σ → ℓ → Prop} (h : EveryStep step C s (tr ++ tr'))
    (hrun : Run step s tr t) : EveryStep step C t tr' := by
  rw [everyStep_iff] at h ⊢
  intro pre e' post u htr hrun'
  exact h (tr ++ pre) e' post u (by simp [htr]) (hrun.append hrun')

instance EveryStep.decidable {C : σ → ℓ → Prop} [∀ s e, Decidable (C s e)] :
    ∀ (s : σ) (tr : List ℓ), Decidable (EveryStep step C s tr)
  | _, [] => isTrue trivial
  | s, e :: tr =>
      match hstep : step s e with
      | none =>
          decidable_of_iff (C s e) (by simp [EveryStep, hstep])
      | some t =>
          have := EveryStep.decidable (C := C) t tr
          decidable_of_iff (C s e ∧ EveryStep step C t tr) (by simp [EveryStep, hstep])

/-- The invariant rule for runs whose steps all meet a condition. -/
theorem Run.invariant_of_everyStep {I : σ → Prop} {C : σ → ℓ → Prop}
    (hstep : ∀ t e u, I t → C t e → step t e = some u → I u)
    (h : Run step s tr t) (hC : EveryStep step C s tr) (h0 : I s) : I t := by
  induction h with
  | nil => exact h0
  | snoc hrun hs ih => exact hstep _ _ _ (ih hC.of_snoc) (hC.last hrun) hs

/-- Two conditions that agree on every step that can be taken from a state of an invariant
agree over a run; the invariant may rest on the second of them. -/
theorem Run.everyStep_congr_of_invariant {I : σ → Prop} {K C D : σ → ℓ → Prop}
    (hstep : ∀ t e u, I t → K t e → D t e → step t e = some u → I u)
    (hagree : ∀ t e u, I t → K t e → step t e = some u → (C t e ↔ D t e))
    (h : Run step s tr t) (hK : EveryStep step K s tr) (h0 : I s) :
    EveryStep step C s tr ↔ EveryStep step D s tr := by
  induction h with
  | nil => simp [EveryStep]
  | @snoc tr t u e hrun hs ih =>
      rw [everyStep_snoc_iff hrun, everyStep_snoc_iff hrun, ih hK.of_snoc]
      refine and_congr_right ?_
      intro hD
      have hall : EveryStep step (fun t e => K t e ∧ D t e) s tr := by
        rw [everyStep_iff] at hD hK ⊢
        intro pre e' post v htr hpre
        exact ⟨hK pre e' (post ++ [e]) v (by simp [htr]) hpre, hD pre e' post v htr hpre⟩
      have ht : I t := hrun.invariant_of_everyStep
        (fun t e u hI hKD hs => hstep t e u hI hKD.1 hKD.2 hs) hall h0
      exact hagree t e u ht (hK.last hrun) hs

/-- Two conditions that agree on every step that can be taken agree over a run. -/
theorem Run.everyStep_congr {C D : σ → ℓ → Prop} (h : Run step s tr t)
    (hagree : ∀ t e u, step t e = some u → (C t e ↔ D t e)) :
    EveryStep step C s tr ↔ EveryStep step D s tr :=
  h.everyStep_congr_of_invariant (I := fun _ => True) (K := fun _ _ => True)
    (fun _ _ _ _ _ _ _ => trivial) (fun t e u _ _ hstep => hagree t e u hstep)
    (everyStep_of_forall fun _ _ _ => trivial) trivial

/-- An invariant that carries a rank which drops at every step of one kind, and rises at
none, holds after every run and bounds how many of those steps it has. -/
theorem Run.countP_le {I : σ → Nat → Prop} {p : ℓ → Bool} {n : Nat}
    (hstep : ∀ t n e u, I t n → step t e = some u → ∃ m, I u m ∧ [e].countP p + m ≤ n)
    (h : Run step s tr t) (h0 : I s n) : ∃ m, I t m ∧ tr.countP p + m ≤ n := by
  induction h with
  | nil => exact ⟨n, h0, by simp⟩
  | snoc _ hs ih =>
      obtain ⟨m, hm, hcount⟩ := ih
      obtain ⟨m', hm', hle⟩ := hstep _ _ _ _ hm hs
      refine ⟨m', hm', ?_⟩
      rw [List.countP_append]
      omega

/-- What is owed covers what is paid: a step of the first kind takes from what is owed, and only
a step of the second kind adds to it. -/
theorem Run.countP_balance {I : σ → Prop} {f : σ → Nat} {p q : ℓ → Bool}
    (hstep : ∀ t e u, I t → step t e = some u →
      I u ∧ [e].countP p + f u ≤ f t + [e].countP q)
    (h : Run step s tr t) (h0 : I s) : I t ∧ tr.countP p + f t ≤ f s + tr.countP q := by
  induction h with
  | nil => exact ⟨h0, by simp⟩
  | snoc _ hs ih =>
      obtain ⟨hI, hbalance⟩ := ih
      obtain ⟨hI', hle⟩ := hstep _ _ _ hI hs
      refine ⟨hI', ?_⟩
      rw [List.countP_append, List.countP_append]
      omega

/-- A rank that drops at every step bounds the length of a run. -/
theorem Run.length_le {I : σ → Nat → Prop} {n : Nat}
    (hstep : ∀ t n e u, I t n → step t e = some u → ∃ m < n, I u m)
    (h : Run step s tr t) (h0 : I s n) : ∃ m, I t m ∧ tr.length + m ≤ n := by
  rw [← congrFun List.countP_true tr]
  refine h.countP_le ?_ h0
  intro t n e u hI hs
  obtain ⟨m, hlt, hm⟩ := hstep t n e u hI hs
  refine ⟨m, hm, ?_⟩
  rw [List.countP_true, List.length_singleton]
  omega

/-- A run leads to the goal from every state of an invariant, if from every such state
short of the goal one leads to a state of a smaller rank. -/
theorem exists_run_of_rank {I G : σ → Prop} (rank : σ → Nat)
    (hlower : ∀ s, I s → G s ∨ ∃ tr t, Run step s tr t ∧ I t ∧ rank t < rank s) (h : I s) :
    ∃ tr t, Run step s tr t ∧ I t ∧ G t := by
  generalize hn : rank s = n
  induction n using Nat.strong_induction_on generalizing s with
  | _ n ih =>
      rcases hlower s h with hgoal | ⟨tr, t, hrun, ht, hlt⟩
      · exact ⟨[], s, Run.nil, h, hgoal⟩
      · obtain ⟨tr', u, hrest, hu, hgoal⟩ := ih (rank t) (by omega) ht rfl
        exact ⟨tr ++ tr', u, hrun.append hrest, hu, hgoal⟩

/-- When every run from `s` is bounded, some run from `s` cannot be extended. -/
theorem exists_stuck_run {bound : Nat}
    (hbound : ∀ tr t, Run step s tr t → tr.length ≤ bound) :
    ∃ tr t, Run step s tr t ∧ Stuck step t := by
  by_contra hnone
  have hextend : ∀ n, ∃ tr t, Run step s tr t ∧ tr.length = n := by
    intro n
    induction n with
    | zero => exact ⟨[], s, Run.nil, rfl⟩
    | succ n ih =>
        obtain ⟨tr, t, hrun, hlen⟩ := ih
        have hnot : ¬ Stuck step t := fun hstuck => hnone ⟨tr, t, hrun, hstuck⟩
        unfold Stuck at hnot
        push Not at hnot
        obtain ⟨e, he⟩ := hnot
        obtain ⟨u, hu⟩ := Option.ne_none_iff_exists'.mp he
        exact ⟨tr ++ [e], u, hrun.snoc hu, by simp [hlen]⟩
  obtain ⟨tr, t, hrun, hlen⟩ := hextend (bound + 1)
  have := hbound tr t hrun
  omega

end Runs

section Results

/-! A machine that waits for results: `result` is what a label brings, and `Calm` is what may
happen between two of them. -/

variable {ρ : Type*} (step : σ → ℓ → Option σ) (result : ℓ → Option ρ) (Calm : ℓ → Prop)
  (Waits Done : σ → Prop)

/-- The machine comes to its next wait or to its end, without a result. -/
def Settles (s : σ) : Prop :=
  ∃ tr t, Run step s tr t ∧ (∀ e ∈ tr, Calm e) ∧ tr.filterMap result = [] ∧ (Waits t ∨ Done t)

/-- The machine has been given the results, until it came to its end. -/
structure Fed (results : List ρ) (tr : List ℓ) (t : σ) : Prop where
  calm : ∀ e ∈ tr, Calm e
  received : tr.filterMap result <+: results
  ended : Waits t ∧ tr.filterMap result = results ∨ Done t

variable {step result Calm Waits Done} {s t : σ} {e : ℓ} {results : List ρ}

theorem Settles.of_ready (h : Waits s ∨ Done s) : Settles step result Calm Waits Done s :=
  ⟨[], s, Run.nil, by simp, rfl, h⟩

theorem Settles.of_step (e : ℓ) (t : σ) (hstep : step s e = some t) (hcalm : Calm e)
    (hresult : result e = none) (h : Settles step result Calm Waits Done t) :
    Settles step result Calm Waits Done s := by
  obtain ⟨tr, u, hrun, hcalms, hnone, hready⟩ := h
  refine ⟨e :: tr, u, Run.cons hstep hrun, ?_, ?_, hready⟩
  · intro e' he'
    rcases List.mem_cons.mp he' with rfl | hrest
    · exact hcalm
    · exact hcalms e' hrest
  · rw [List.filterMap_cons, hresult, hnone]

/-- When every result lets the machine settle again, it has a run over all of them. -/
theorem exists_run_fed
    (hresult : ∀ s, Waits s → ∀ r ∈ results, ∃ e t, step s e = some t ∧ Calm e ∧
      result e = some r ∧ Settles step result Calm Waits Done t)
    (h : Settles step result Calm Waits Done s) :
    ∃ tr t, Run step s tr t ∧ Fed result Calm Waits Done results tr t := by
  induction results generalizing s with
  | nil =>
      obtain ⟨tr, t, hrun, hcalm, hnone, hready⟩ := h
      exact ⟨tr, t, hrun, hcalm, by simp [hnone], hready.imp_left fun hwaits => ⟨hwaits, hnone⟩⟩
  | cons r results ih =>
      obtain ⟨tr, t, hrun, hcalm, hnone, hwaits | hdone⟩ := h
      · obtain ⟨e, u, hstep, hcalm', hbrings, hsettles⟩ := hresult t hwaits r (by simp)
        obtain ⟨tr', v, hrun', hfed⟩ :=
          ih (fun s hs r' hr' => hresult s hs r' (by simp [hr'])) hsettles
        have hall : (tr ++ e :: tr').filterMap result = r :: tr'.filterMap result := by
          rw [List.filterMap_append, hnone, List.filterMap_cons, hbrings]
          rfl
        refine ⟨tr ++ e :: tr', v, hrun.append (Run.cons hstep hrun'), ?_, ?_, ?_⟩
        · intro e' he'
          rcases List.mem_append.mp he' with hfront | hback
          · exact hcalm e' hfront
          · rcases List.mem_cons.mp hback with rfl | hrest
            · exact hcalm'
            · exact hfed.calm e' hrest
        · rw [hall]
          exact (List.prefix_cons_inj r).mpr hfed.received
        · rw [hall]
          exact hfed.ended.imp_left fun h => ⟨h.1, by rw [h.2]⟩
      · exact ⟨tr, t, hrun, hcalm, by simp [hnone], Or.inr hdone⟩

end Results

section Simulation

/-! One machine follows another: each step of the first is answered by a run of the
second, and an observer who sees only part of the labels sees the same of both. -/

variable {ω : Type*} {step : σ → ℓ → Option σ} {C : σ → ℓ → Prop}
  (step' : τ → κ → Option τ) (R : σ → τ → Prop) (seen : ℓ → Option ω) (seen' : κ → Option ω)

/-- The simulation rule, for runs whose steps all meet a condition. -/
theorem Run.simulated_of_everyStep
    (hstep : ∀ t e u t', R t t' → C t e → step t e = some u →
      ∃ tr' u', Run step' t' tr' u' ∧ tr'.filterMap seen' = (seen e).toList ∧ R u u')
    {s t : σ} {s' : τ} {tr : List ℓ} (h : Run step s tr t) (hC : EveryStep step C s tr)
    (h0 : R s s') :
    ∃ tr' t', Run step' s' tr' t' ∧ tr'.filterMap seen' = tr.filterMap seen ∧ R t t' := by
  induction h with
  | nil => exact ⟨[], s', Run.nil, rfl, h0⟩
  | @snoc tr t u e hrun hs ih =>
      obtain ⟨tr₁, t', hrun', hseen, hR⟩ := ih hC.of_snoc
      obtain ⟨tr₂, u', hrest, hlast, hR'⟩ := hstep _ _ _ _ hR (hC.last hrun) hs
      refine ⟨tr₁ ++ tr₂, u', hrun'.append hrest, ?_, hR'⟩
      rw [List.filterMap_append, List.filterMap_append, hseen, hlast]
      cases hcase : seen e <;> simp [hcase]

/-- The simulation rule. -/
theorem Run.simulated
    (hstep : ∀ t e u t', R t t' → step t e = some u →
      ∃ tr' u', Run step' t' tr' u' ∧ tr'.filterMap seen' = (seen e).toList ∧ R u u')
    {s t : σ} {s' : τ} {tr : List ℓ} (h : Run step s tr t) (h0 : R s s') :
    ∃ tr' t', Run step' s' tr' t' ∧ tr'.filterMap seen' = tr.filterMap seen ∧ R t t' :=
  h.simulated_of_everyStep (C := fun _ _ => True) step' R seen seen'
    (fun t e u t' hR _ hs => hstep t e u t' hR hs)
    (everyStep_iff.mpr fun _ _ _ _ _ _ => trivial) h0

end Simulation

section Embedding

/-! A machine that runs inside another: `f` places its states in the larger machine,
which follows it step by step and moves on (`g`) when it has finished. -/

variable {outer : τ → ℓ → Option τ} (inner : σ → ℓ → Option σ) (f g : σ → τ)
  (finished : σ → Prop)

/-- A run of the larger machine from inside either still follows the inner machine
or has left it at a finished state. -/
theorem Run.embedded (hstep : ∀ s e, outer (f s) e = (inner s e).map g)
    (hg : ∀ s, ¬ finished s → g s = f s) {s : σ} {tr : List ℓ} {t : τ}
    (h : Run outer (f s) tr t) :
    (∃ s', Run inner s tr s' ∧ t = f s') ∨
      ∃ tr₁ tr₂ s', tr = tr₁ ++ tr₂ ∧ Run inner s tr₁ s' ∧ finished s' ∧
        Run outer (g s') tr₂ t := by
  induction tr generalizing s with
  | nil => exact Or.inl ⟨s, Run.nil, h.eq_of_nil⟩
  | cons e tr ih =>
      obtain ⟨u, hfirst, hrest⟩ := h.of_cons
      rw [hstep, Option.map_eq_some_iff] at hfirst
      obtain ⟨s₁, hinner, rfl⟩ := hfirst
      by_cases hfin : finished s₁
      · exact Or.inr ⟨[e], tr, s₁, rfl, Run.single hinner, hfin, hrest⟩
      · rw [hg s₁ hfin] at hrest
        rcases ih hrest with ⟨s', hrun, rfl⟩ | ⟨tr₁, tr₂, s', rfl, hrun, hfin', hout⟩
        · exact Or.inl ⟨s', Run.cons hinner hrun, rfl⟩
        · exact Or.inr ⟨e :: tr₁, tr₂, s', rfl, Run.cons hinner hrun, hfin', hout⟩

/-- A run of the inner machine that has not finished is a run of the larger one. -/
theorem Run.lift (hstep : ∀ s e, outer (f s) e = (inner s e).map g)
    (hg : ∀ s, ¬ finished s → g s = f s) (hfin : ∀ s e, finished s → inner s e = none)
    {s s' : σ} {tr : List ℓ} (h : Run inner s tr s') (hs' : ¬ finished s') :
    Run outer (f s) tr (f s') := by
  induction h with
  | nil => exact Run.nil
  | @snoc tr t u e _ hlast ih =>
      have ht : ¬ finished t := by
        intro hdone
        rw [hfin t e hdone] at hlast
        cases hlast
      refine (ih ht).snoc ?_
      rw [hstep, hlast, Option.map_some, hg u hs']

end Embedding

end Library
