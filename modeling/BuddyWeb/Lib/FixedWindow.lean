/-
Events counted in windows of one length.  Each event carries the end of the window that
counted it, and two windows are the same or do not overlap.
-/
import Mathlib.Data.List.Basic

namespace BuddyWeb

universe u

variable {α : Type u} {timeOf endOf : α → Nat} {window limit : Nat} {events : List α}

/-- Every event lies in its own window, and no window counts more than the limit. -/
structure WindowLog (timeOf endOf : α → Nat) (window limit : Nat) (events : List α) : Prop where
  inside : ∀ event ∈ events, timeOf event < endOf event ∧ endOf event ≤ timeOf event + window
  apart : ∀ first ∈ events, ∀ second ∈ events, endOf first = endOf second ∨
    endOf first + window ≤ endOf second ∨ endOf second + window ≤ endOf first
  limited : ∀ event ∈ events, events.countP (endOf · == endOf event) ≤ limit

/-- The counter of the last window agrees with the events. -/
structure CountsWindow (timeOf endOf : α → Nat) (window limit : Nat) (events : List α)
    (windowEnd count : Nat) : Prop where
  log : WindowLog timeOf endOf window limit events
  last : ∀ event ∈ events, endOf event = windowEnd ∨ endOf event + window ≤ windowEnd
  counted : events.countP (endOf · == windowEnd) = count

theorem WindowLog.nil : WindowLog timeOf endOf window limit [] := by
  constructor <;> simp

/-- Whatever lies in the window of an event was counted in it. -/
theorem WindowLog.countP_le (hlog : WindowLog timeOf endOf window limit events) {event : α}
    (hevent : event ∈ events) :
    events.countP (fun other =>
      decide (endOf event ≤ timeOf other + window ∧ timeOf other < endOf event)) ≤ limit := by
  refine Nat.le_trans (List.countP_mono_left ?_) (hlog.limited event hevent)
  intro other hother hwithin
  have hwithin := of_decide_eq_true hwithin
  have hown := hlog.inside other hother
  rcases hlog.apart other hother event hevent with hsame | hbefore | hafter
  · exact beq_iff_eq.mpr hsame
  · omega
  · omega

/-- Opening a window after the end of all earlier ones. -/
theorem WindowLog.open_window (hlog : WindowLog timeOf endOf window limit events) {now : Nat}
    (hwindow : 0 < window) (hended : ∀ event ∈ events, endOf event ≤ now) :
    CountsWindow timeOf endOf window limit events (now + window) 0 := by
  constructor
  · exact hlog
  · intro event hevent
    have := hended event hevent
    omega
  · rw [List.countP_eq_zero]
    intro event hevent heq
    have := hended event hevent
    have := beq_iff_eq.mp heq
    omega

theorem CountsWindow.reopen {windowEnd count now : Nat}
    (h : CountsWindow timeOf endOf window limit events windowEnd count) (hwindow : 0 < window)
    (hended : windowEnd ≤ now) :
    CountsWindow timeOf endOf window limit events (now + window) 0 := by
  apply h.log.open_window hwindow
  intro event hevent
  rcases h.last event hevent with hsame | hbefore
  · omega
  · omega

/-- One more event in the last window. -/
theorem CountsWindow.add {windowEnd count : Nat} {event : α}
    (h : CountsWindow timeOf endOf window limit events windowEnd count)
    (hend : endOf event = windowEnd) (hbefore : timeOf event < windowEnd)
    (hafter : windowEnd ≤ timeOf event + window) (hlimit : count < limit) :
    CountsWindow timeOf endOf window limit (event :: events) windowEnd (count + 1) := by
  have hcount : (event :: events).countP (endOf · == windowEnd) = count + 1 := by
    rw [List.countP_cons, if_pos (beq_iff_eq.mpr hend), h.counted]
  refine ⟨⟨?_, ?_, ?_⟩, ?_, hcount⟩
  · intro other hother
    rcases List.mem_cons.mp hother with rfl | hold
    · omega
    · exact h.log.inside other hold
  · intro first hfirst second hsecond
    rcases List.mem_cons.mp hfirst with hnew | hfirst
    · rw [hnew]
      rcases List.mem_cons.mp hsecond with hsame | hsecond
      · exact Or.inl (congrArg endOf hsame.symm)
      · rcases h.last second hsecond with hsame | hold
        · exact Or.inl (by omega)
        · exact Or.inr (Or.inr (by omega))
    · rcases List.mem_cons.mp hsecond with hnew | hsecond
      · rw [hnew]
        rcases h.last first hfirst with hsame | hold
        · exact Or.inl (by omega)
        · exact Or.inr (Or.inl (by omega))
      · exact h.log.apart first hfirst second hsecond
  · intro other hother
    by_cases hsame : endOf other = windowEnd
    · rw [hsame, hcount]
      exact hlimit
    · have hne : ¬ (endOf event == endOf other) = true := by
        intro heq
        exact hsame ((beq_iff_eq.mp heq).symm.trans hend)
      rw [List.countP_cons, if_neg hne]
      rcases List.mem_cons.mp hother with rfl | hold
      · exact absurd hend hsame
      · exact h.log.limited other hold
  · intro other hother
    rcases List.mem_cons.mp hother with rfl | hold
    · exact Or.inl hend
    · exact h.last other hold

end BuddyWeb
