/-
Runs of a labelled transition relation whose every step satisfies a condition on
the state before the step and on its label.
-/
import Mathlib.Init

namespace BuddyWeb

universe u v

variable {S : Type u} {L : Type v}

/-- The states which runs reach from `init` when every step is allowed. -/
inductive Reaches (init : S → Prop) (step : S → L → S → Prop)
    (allowed : S → L → Prop) : S → Prop
  | start {state : S} (hinit : init state) : Reaches init step allowed state
  | next {state : S} {label : L} {after : S}
      (hreach : Reaches init step allowed state) (hallowed : allowed state label)
      (hstep : step state label after) : Reaches init step allowed after

/-- The states at the times of a run: each is the one before or follows from it. -/
def IsTrace (step : S → L → S → Prop) (trace : Nat → S) : Prop :=
  ∀ time, trace (time + 1) = trace time ∨ ∃ label, step (trace time) label (trace (time + 1))

/-- A trace which rests in a state goes on with a step from it. -/
theorem IsTrace.extend {step : S → L → S → Prop} {trace : Nat → S} (htrace : IsTrace step trace)
    {state : S} {last : Nat} (hlast : ∀ time, last ≤ time → trace time = state) {label : L}
    {after : S} (hstep : step state label after) :
    IsTrace step fun time => if time ≤ last then trace time else after := by
  intro time
  dsimp only
  by_cases hnext : time + 1 ≤ last
  · have htime : time ≤ last := by omega
    rw [if_pos hnext, if_pos htime]
    exact htrace time
  · by_cases htime : time ≤ last
    · have heq : time = last := by omega
      rw [if_neg hnext, if_pos htime, heq, hlast last (Nat.le_refl _)]
      exact Or.inr ⟨label, hstep⟩
    · rw [if_neg hnext, if_neg htime]
      exact Or.inl rfl

namespace Reaches

variable {init : S → Prop} {step : S → L → S → Prop} {allowed : S → L → Prop}

/-- A property of the initial states which every allowed step preserves holds in
every state reached. -/
theorem invariant {property : S → Prop}
    (hinit : ∀ state, init state → property state)
    (hstep : ∀ state label after, property state → allowed state label →
      step state label after → property after)
    {state : S} (hreach : Reaches init step allowed state) : property state := by
  induction hreach with
  | start h => exact hinit _ h
  | next _ hallowed hnext ih => exact hstep _ _ _ ih hallowed hnext

/-- Allowing more steps reaches more states. -/
theorem mono {wider : S → L → Prop}
    (hwider : ∀ state label, allowed state label → wider state label)
    {state : S} (hreach : Reaches init step allowed state) :
    Reaches init step wider state := by
  induction hreach with
  | start h => exact start h
  | next _ hallowed hnext ih => exact next ih (hwider _ _ hallowed) hnext

/-- More initial states reach more states. -/
theorem of_init {wider : S → Prop} (hwider : ∀ state, init state → wider state) {state : S}
    (hreach : Reaches init step allowed state) : Reaches wider step allowed state := by
  induction hreach with
  | start h => exact start (hwider _ h)
  | next _ hallowed hnext ih => exact next ih hallowed hnext

/-- The state after a list of labels, when each step is allowed. -/
def run (next : S → L → Option S) (allowed : S → L → Prop)
    [∀ state label, Decidable (allowed state label)] : S → List L → Option S
  | state, [] => some state
  | state, label :: rest =>
      if allowed state label then
        match next state label with
        | some after => run next allowed after rest
        | none => none
      else none

/-- A state which a list of labels computes is reached. -/
theorem of_run {next : S → L → Option S} [∀ state label, Decidable (allowed state label)]
    (hnext : ∀ {state label after}, next state label = some after → step state label after)
    {labels : List L} {state after : S} (hreach : Reaches init step allowed state)
    (hrun : run next allowed state labels = some after) :
    Reaches init step allowed after := by
  induction labels generalizing state with
  | nil => exact Option.some.inj hrun ▸ hreach
  | cons label rest ih =>
      unfold run at hrun
      split at hrun
      · rename_i hallowed
        split at hrun
        · rename_i middle hmiddle
          exact ih (hreach.next hallowed (hnext hmiddle)) hrun
        · simp at hrun
      · simp at hrun

/-- Labels which compute a state with a decidable property reach such a state. -/
theorem exists_of_run {next : S → L → Option S}
    [∀ state label, Decidable (allowed state label)]
    (hnext : ∀ {state label after}, next state label = some after → step state label after)
    {state : S} (hreach : Reaches init step allowed state) (labels : List L)
    (property : S → Bool) (hrun : (run next allowed state labels).any property = true) :
    ∃ after, run next allowed state labels = some after ∧
      Reaches init step allowed after ∧ property after = true := by
  obtain ⟨after, hafter, hproperty⟩ := (Option.any_eq_true _ _).mp hrun
  exact ⟨after, hafter, of_run hnext hreach hafter, hproperty⟩

/-- A later state of a trace is reached from an earlier one. -/
theorem of_trace {trace : Nat → S} (htrace : IsTrace step trace) {first second : Nat}
    (hle : first ≤ second) :
    Reaches (· = trace first) step (fun _ _ => True) (trace second) := by
  induction hle with
  | refl => exact start rfl
  | @step time _ ih =>
      rcases htrace time with hsame | ⟨label, hstep⟩
      · rw [hsame]
        exact ih
      · exact ih.next trivial hstep

/-- A reached state is on a trace from an initial one. -/
theorem exists_trace {state : S} (hreach : Reaches init step (fun _ _ => True) state) :
    ∃ trace : Nat → S, init (trace 0) ∧ IsTrace step trace ∧
      ∃ last, ∀ time, last ≤ time → trace time = state := by
  induction hreach with
  | @start state hinit =>
      exact ⟨fun _ => state, hinit, fun _ => Or.inl rfl, 0, fun _ _ => rfl⟩
  | @next state label after hreach _ hstep ih =>
      obtain ⟨trace, hinit, htrace, last, hlast⟩ := ih
      refine ⟨_, ?_, htrace.extend hlast hstep, last + 1, fun time htime => ?_⟩
      · rw [if_pos (Nat.zero_le last)]
        exact hinit
      · rw [if_neg (by omega)]

/-- A trace through a reached state to one which is reached from it. -/
theorem exists_trace_through {middle state : S}
    (hmiddle : Reaches init step (fun _ _ => True) middle)
    (hreach : Reaches (· = middle) step (fun _ _ => True) state) :
    ∃ trace : Nat → S, init (trace 0) ∧ IsTrace step trace ∧
      ∃ first last, first ≤ last ∧ trace first = middle ∧
        ∀ time, last ≤ time → trace time = state := by
  induction hreach with
  | @start state hinit =>
      obtain ⟨trace, hstart, htrace, last, hlast⟩ := hmiddle.exists_trace
      exact ⟨trace, hstart, htrace, last, last, Nat.le_refl _, hlast last (Nat.le_refl _),
        hinit ▸ hlast⟩
  | @next state label after hreach _ hstep ih =>
      obtain ⟨trace, hstart, htrace, first, last, hle, hfirst, hlast⟩ := ih
      refine ⟨_, ?_, htrace.extend hlast hstep, first, last + 1, Nat.le_succ_of_le hle, ?_,
        fun time htime => ?_⟩
      · rw [if_pos (Nat.zero_le last)]
        exact hstart
      · rw [if_pos hle]
        exact hfirst
      · rw [if_neg (by omega)]

end Reaches

end BuddyWeb
