/-
The lockout of an account after failed logins: two counters of a shared storage, read and
written one operation at a time by any number of concurrent requests.
-/
import BuddyWeb.Lib.Run
import Mathlib.Logic.Function.Basic

namespace BuddyWeb

def failedLoginThreshold : Nat := 5

def loginLockoutSeconds : Nat := 900

section Storage

/-- A counter of a fixed window: the first increment sets its end, later ones keep it. -/
structure WindowCounter where
  count : Nat
  expiresAt : Nat
  deriving DecidableEq, Repr

def counterGet (key : Option WindowCounter) (now : Nat) : Nat :=
  match key with
  | some counter => if now < counter.expiresAt then counter.count else 0
  | none => 0

def counterIncr (key : Option WindowCounter) (ttl now : Nat) : WindowCounter :=
  match key with
  | some counter =>
      if now < counter.expiresAt then { counter with count := counter.count + 1 }
      else ⟨1, now + ttl⟩
  | none => ⟨1, now + ttl⟩

variable {key : Option WindowCounter} {ttl now later : Nat}

theorem counterGet_incr (httl : 0 < ttl) :
    counterGet (some (counterIncr key ttl now)) now = counterGet key now + 1 := by
  cases key with
  | none => simp [counterGet, counterIncr, httl]
  | some counter =>
    by_cases hlive : now < counter.expiresAt
    · simp [counterGet, counterIncr, hlive]
    · simp [counterGet, counterIncr, hlive, httl]

/-- A counter that still counts later counts the same. -/
theorem counterGet_of_later (hle : now ≤ later) (hlater : counterGet key later ≠ 0) :
    counterGet key now = counterGet key later := by
  cases key with
  | none => rfl
  | some counter =>
    simp only [counterGet] at hlater ⊢
    split at hlater
    · rw [if_pos (by omega), if_pos ‹_›]
    · exact absurd rfl hlater

theorem counterGet_later_eq_zero (hle : now ≤ later) (h : counterGet key now = 0) :
    counterGet key later = 0 := by
  by_contra hlater
  rw [counterGet_of_later hle hlater] at h
  exact hlater h

end Storage

/-- Since the fifth failure: a lock is owed, or one was there or created since. -/
inductive LockoutGuard
  | off
  | waiting
  | lockedUntil (expiresAt : Nat)
  deriving DecidableEq, Repr

/-- Where a request stands between two operations of the storage.  A check remembers whether
its first read came after the fifth failure. -/
inductive LoginPhase
  | idle
  | checking
  | checkedLock (guarded : Bool)
  | closingGap
  | admitted (guarded : Bool)
  | rejected
  | failing
  | creatingLock
  | clearingFailed
  | recorded
  | succeeding
  | succeeded
  deriving DecidableEq, Repr

/-- The storage of one identifier, with the guard as a history. -/
structure LockoutWorld where
  now : Nat
  failed : Option WindowCounter
  locked : Option WindowCounter
  guard : LockoutGuard
  phase : Nat → LoginPhase

inductive LoginCall
  | checkLogin
  | loginFailed
  | loginSucceeded
  deriving DecidableEq, Repr

def LoginCall.start : LoginCall → LoginPhase
  | checkLogin => .checking
  | loginFailed => .failing
  | loginSucceeded => .succeeding

inductive LoginLabel
  | tick (seconds : Nat)
  | arrive (request : Nat) (call : LoginCall)
  | advance (request : Nat)
  deriving DecidableEq, Repr

namespace LockoutWorld

def start (now : Nat) : LockoutWorld :=
  ⟨now, none, none, .off, fun _ => .idle⟩

variable (world : LockoutWorld)

def setPhase (request : Nat) (phase : LoginPhase) : LockoutWorld :=
  { world with phase := Function.update world.phase request phase }

/-- The fifth failure is counted and the lock has not expired since. -/
def isGuarded : Bool :=
  match world.guard with
  | .off => false
  | .waiting => true
  | .lockedUntil expiresAt => decide (world.now < expiresAt)

/-- The guard after a failure that reached the threshold. -/
def tripped : LockoutGuard :=
  if world.isGuarded then world.guard
  else
    match world.locked with
    | some counter =>
        if counterGet (some counter) world.now ≠ 0 then .lockedUntil counter.expiresAt
        else .waiting
    | none => .waiting

/-- `incr` on the lock. -/
def withLock : LockoutWorld :=
  let counter := counterIncr world.locked loginLockoutSeconds world.now
  { world with
    locked := some counter
    guard := if world.guard = .waiting then .lockedUntil counter.expiresAt else world.guard }

/-- `incr` on the failures. -/
def withFailure : LockoutWorld :=
  let counter := counterIncr world.failed loginLockoutSeconds world.now
  { world with
    failed := some counter
    guard :=
      if failedLoginThreshold ≤ counterGet (some counter) world.now then world.tripped
      else world.guard }

/-- `clear` on the failures. -/
def withoutFailures : LockoutWorld :=
  { world with failed := none }

/-- The next operation of a request on the storage. -/
def advance? (request : Nat) : Option LockoutWorld :=
  match world.phase request with
  | .checking =>
      if counterGet world.locked world.now ≠ 0 then some (world.setPhase request .rejected)
      else some (world.setPhase request (.checkedLock world.isGuarded))
  | .checkedLock guarded =>
      if failedLoginThreshold ≤ counterGet world.failed world.now then
        some (world.setPhase request .closingGap)
      else some (world.setPhase request (.admitted guarded))
  | .closingGap => some (world.withLock.setPhase request .rejected)
  | .failing =>
      if failedLoginThreshold ≤ counterGet world.withFailure.failed world.now then
        some (world.withFailure.setPhase request .creatingLock)
      else some (world.withFailure.setPhase request .recorded)
  | .creatingLock => some (world.withLock.setPhase request .clearingFailed)
  | .clearingFailed => some (world.withoutFailures.setPhase request .recorded)
  | .succeeding => some (world.withoutFailures.setPhase request .succeeded)
  | _ => none

def step? : LoginLabel → Option LockoutWorld
  | .tick seconds => some { world with now := world.now + seconds }
  | .arrive request call =>
      if world.phase request = .idle then some (world.setPhase request call.start) else none
  | .advance request => world.advance? request

def Step (world : LockoutWorld) (label : LoginLabel) (after : LockoutWorld) : Prop :=
  world.step? label = some after

/-- The failures are still needed: the lock is owed, or a check that found no lock in that
time has not read them yet. -/
def Owed : Prop :=
  world.guard = .waiting ∨ ∃ request, world.phase request = .checkedLock true

/-- A step that clears the failures or lets them expire. -/
def Loses : LoginLabel → Prop
  | .tick seconds => counterGet world.failed (world.now + seconds) = 0
  | .arrive _ _ => False
  | .advance request =>
      world.phase request = .clearingFailed ∨ world.phase request = .succeeding

/-- The failures are not lost while they are needed. -/
def KeepsFailures (world : LockoutWorld) (label : LoginLabel) : Prop :=
  world.Owed → ¬ world.Loses label

/-- No check whose first read came after the fifth failure is let through. -/
def Closed : Prop :=
  ∀ request, world.phase request ≠ .admitted true

section Invariant

variable {world}

@[simp]
theorem setPhase_now (request : Nat) (phase : LoginPhase) :
    (world.setPhase request phase).now = world.now := rfl

@[simp]
theorem setPhase_failed (request : Nat) (phase : LoginPhase) :
    (world.setPhase request phase).failed = world.failed := rfl

@[simp]
theorem setPhase_locked (request : Nat) (phase : LoginPhase) :
    (world.setPhase request phase).locked = world.locked := rfl

@[simp]
theorem setPhase_guard (request : Nat) (phase : LoginPhase) :
    (world.setPhase request phase).guard = world.guard := rfl

theorem setPhase_phase (request other : Nat) (phase : LoginPhase) :
    (world.setPhase request phase).phase other =
      if other = request then phase else world.phase other :=
  Function.update_apply _ _ _ _

/-- What runs keep whose steps do not lose the failures while they are needed. -/
structure Guarded (world : LockoutWorld) : Prop where
  unlocked : world.guard = .waiting → counterGet world.locked world.now = 0
  lockActive : ∀ expiresAt, world.guard = .lockedUntil expiresAt → world.now < expiresAt →
    counterGet world.locked world.now ≠ 0 ∧
      ∀ counter, world.locked = some counter → counter.expiresAt = expiresAt
  counted : world.Owed → failedLoginThreshold ≤ counterGet world.failed world.now
  closed : world.Closed
  fresh : ∃ bound, ∀ request, bound ≤ request → world.phase request = .idle

theorem guarded_start (now : Nat) : (start now).Guarded := by
  constructor
  · intro h
    cases h
  · intro expiresAt h
    cases h
  · rintro (h | ⟨request, h⟩)
    · cases h
    · cases h
  · intro request h
    cases h
  · exact ⟨0, fun _ _ => rfl⟩

/-- A request that is not between the two reads of a guarded check owes nothing. -/
theorem owed_setPhase {request : Nat} {phase : LoginPhase} (hphase : phase ≠ .checkedLock true)
    (h : (world.setPhase request phase).Owed) : world.Owed := by
  rcases h with hwaiting | ⟨other, hother⟩
  · exact Or.inl hwaiting
  · rw [setPhase_phase] at hother
    split at hother
    · exact absurd hother hphase
    · exact Or.inr ⟨other, hother⟩

theorem closed_setPhase (hclosed : world.Closed) {request : Nat} {phase : LoginPhase}
    (hphase : phase ≠ .admitted true) : (world.setPhase request phase).Closed := by
  intro other
  rw [setPhase_phase]
  split
  · exact hphase
  · exact hclosed other

theorem fresh_setPhase
    (hfresh : ∃ bound, ∀ request, bound ≤ request → world.phase request = .idle)
    (request : Nat) (phase : LoginPhase) :
    ∃ bound, ∀ other, bound ≤ other → (world.setPhase request phase).phase other = .idle := by
  obtain ⟨bound, hbound⟩ := hfresh
  refine ⟨max bound (request + 1), ?_⟩
  intro other hother
  rw [setPhase_phase, if_neg (by omega)]
  exact hbound other (by omega)

/-- A change of a request's place alone. -/
theorem Guarded.setPhase (hguarded : world.Guarded) {request : Nat} {phase : LoginPhase}
    (hadmitted : phase ≠ .admitted true)
    (hchecked : phase = .checkedLock true → world.guard = .waiting) :
    (world.setPhase request phase).Guarded := by
  constructor
  · exact hguarded.unlocked
  · exact hguarded.lockActive
  · intro howed
    apply hguarded.counted
    by_cases hphase : phase = .checkedLock true
    · exact Or.inl (hchecked hphase)
    · exact owed_setPhase hphase howed
  · exact closed_setPhase hguarded.closed hadmitted
  · exact fresh_setPhase hguarded.fresh request phase

theorem Guarded.withLock (hguarded : world.Guarded) : world.withLock.Guarded := by
  have hcount : counterGet world.withLock.locked world.now =
      counterGet world.locked world.now + 1 := counterGet_incr (by decide)
  constructor
  · intro hwaiting
    simp only [LockoutWorld.withLock] at hwaiting
    split at hwaiting
    · cases hwaiting
    · exact absurd hwaiting ‹_›
  · intro expiresAt hlocked hlive
    have hactive : counterGet world.withLock.locked world.now ≠ 0 := by omega
    refine ⟨hactive, ?_⟩
    intro counter hcounter
    cases hcounter
    simp only [LockoutWorld.withLock] at hlocked
    split at hlocked
    · cases hlocked
      rfl
    · -- the lock was there before and keeps its end
      obtain ⟨hbefore, hend⟩ := hguarded.lockActive expiresAt hlocked hlive
      cases hkey : world.locked with
      | none =>
        rw [hkey] at hbefore
        exact absurd rfl hbefore
      | some old =>
        have hold := hend old hkey
        have hwindow : world.now < old.expiresAt := by
          rw [hold]
          exact hlive
        simp only [counterIncr, if_pos hwindow]
        exact hold
  · rintro (hwaiting | hchecked)
    · simp only [LockoutWorld.withLock] at hwaiting
      split at hwaiting
      · cases hwaiting
      · exact absurd hwaiting ‹_›
    · exact hguarded.counted (Or.inr hchecked)
  · exact hguarded.closed
  · exact hguarded.fresh

theorem tripped_spec (hguarded : world.Guarded) :
    (world.tripped = .waiting → counterGet world.locked world.now = 0) ∧
      ∀ expiresAt, world.tripped = .lockedUntil expiresAt → world.now < expiresAt →
        counterGet world.locked world.now ≠ 0 ∧
          ∀ counter, world.locked = some counter → counter.expiresAt = expiresAt := by
  unfold tripped
  split
  · exact ⟨hguarded.unlocked, hguarded.lockActive⟩
  · split
    · rename_i counter hcounter
      rw [hcounter]
      split
      · rename_i hactive
        constructor
        · intro h
          cases h
        · intro expiresAt h _
          cases h
          refine ⟨hactive, ?_⟩
          intro other hother
          cases hother
          rfl
      · rename_i hinactive
        constructor
        · intro _
          exact not_not.mp hinactive
        · intro expiresAt h
          cases h
    · rename_i hnone
      rw [hnone]
      constructor
      · intro _
        rfl
      · intro expiresAt h
        cases h

theorem Guarded.withFailure (hguarded : world.Guarded) : world.withFailure.Guarded := by
  have hcount : counterGet world.withFailure.failed world.now =
      counterGet world.failed world.now + 1 := counterGet_incr (by decide)
  have hguard : world.withFailure.guard =
      if failedLoginThreshold ≤ counterGet world.withFailure.failed world.now then world.tripped
      else world.guard := rfl
  constructor
  · intro hwaiting
    rw [hguard] at hwaiting
    split at hwaiting
    · exact (tripped_spec hguarded).1 hwaiting
    · exact hguarded.unlocked hwaiting
  · intro expiresAt hlocked
    rw [hguard] at hlocked
    split at hlocked
    · exact (tripped_spec hguarded).2 expiresAt hlocked
    · exact hguarded.lockActive expiresAt hlocked
  · intro howed
    by_cases hreached : failedLoginThreshold ≤ counterGet world.withFailure.failed world.now
    · exact hreached
    · rw [Owed, hguard, if_neg hreached] at howed
      have hbefore := hguarded.counted howed
      have hafter : counterGet world.withFailure.failed world.withFailure.now =
          counterGet world.failed world.now + 1 := hcount
      omega
  · exact hguarded.closed
  · exact hguarded.fresh

theorem Guarded.withoutFailures (hguarded : world.Guarded) (howed : ¬ world.Owed) :
    world.withoutFailures.Guarded := by
  constructor
  · exact hguarded.unlocked
  · exact hguarded.lockActive
  · intro hstill
    exact absurd hstill howed
  · exact hguarded.closed
  · exact hguarded.fresh

theorem Guarded.tick (hguarded : world.Guarded) {seconds : Nat}
    (hkeeps : world.KeepsFailures (.tick seconds)) :
    { world with now := world.now + seconds : LockoutWorld }.Guarded := by
  have hle : world.now ≤ world.now + seconds := Nat.le_add_right _ _
  constructor
  · intro hwaiting
    exact counterGet_later_eq_zero hle (hguarded.unlocked hwaiting)
  · intro expiresAt hlocked hlive
    simp only at hlive
    obtain ⟨hactive, hend⟩ := hguarded.lockActive expiresAt hlocked (by omega)
    refine ⟨?_, hend⟩
    cases hkey : world.locked with
    | none =>
      rw [hkey] at hactive
      exact absurd rfl hactive
    | some counter =>
      have hexpires := hend counter hkey
      rw [hkey] at hactive
      simp only [counterGet] at hactive ⊢
      rw [if_pos (by omega)]
      rw [if_pos (by omega)] at hactive
      exact hactive
  · intro howed
    have hlater : counterGet world.failed (world.now + seconds) ≠ 0 := hkeeps howed
    have hcounted := hguarded.counted howed
    rw [counterGet_of_later hle hlater] at hcounted
    exact hcounted
  · exact hguarded.closed
  · exact hguarded.fresh

/-- A check that finds no lock while it is guarded finds it owed. -/
theorem Guarded.waiting_of_unlocked (hguarded : world.Guarded) (hon : world.isGuarded = true)
    (hunlocked : counterGet world.locked world.now = 0) : world.guard = .waiting := by
  unfold isGuarded at hon
  split at hon
  · cases hon
  · assumption
  · rename_i expiresAt hlocked
    exact absurd hunlocked (hguarded.lockActive expiresAt hlocked (of_decide_eq_true hon)).1

/-- The step of a request keeps the invariant unless it loses the failures. -/
theorem Guarded.advance (hguarded : world.Guarded) {request : Nat} {after : LockoutWorld}
    (hkeeps : world.KeepsFailures (.advance request))
    (hstep : world.advance? request = some after) : after.Guarded := by
  unfold advance? at hstep
  split at hstep
  · split at hstep
    · cases hstep
      exact hguarded.setPhase (by simp) (by simp)
    · rename_i hunlocked
      cases hstep
      apply hguarded.setPhase (by simp)
      intro hphase
      injection hphase with hon
      exact hguarded.waiting_of_unlocked hon (not_not.mp hunlocked)
  · rename_i guarded hphase
    split at hstep
    · cases hstep
      exact hguarded.setPhase (by simp) (by simp)
    · rename_i hfew
      cases hstep
      apply hguarded.setPhase _ (by simp)
      intro hadmitted
      injection hadmitted with hon
      rw [hon] at hphase
      exact hfew (hguarded.counted (Or.inr ⟨request, hphase⟩))
  · cases hstep
    exact hguarded.withLock.setPhase (by simp) (by simp)
  · split at hstep
    · cases hstep
      exact hguarded.withFailure.setPhase (by simp) (by simp)
    · cases hstep
      exact hguarded.withFailure.setPhase (by simp) (by simp)
  · cases hstep
    exact hguarded.withLock.setPhase (by simp) (by simp)
  · rename_i hphase
    cases hstep
    have howed : ¬ world.Owed := fun howed => hkeeps howed (Or.inl hphase)
    exact (hguarded.withoutFailures howed).setPhase (by simp) (by simp)
  · rename_i hphase
    cases hstep
    have howed : ¬ world.Owed := fun howed => hkeeps howed (Or.inr hphase)
    exact (hguarded.withoutFailures howed).setPhase (by simp) (by simp)
  · cases hstep

theorem Guarded.step (hguarded : world.Guarded) {label : LoginLabel} {after : LockoutWorld}
    (hkeeps : world.KeepsFailures label) (hstep : world.Step label after) : after.Guarded := by
  cases label with
  | tick seconds =>
    cases hstep
    exact hguarded.tick hkeeps
  | arrive request call =>
    simp only [Step, step?] at hstep
    split at hstep
    · cases hstep
      cases call <;> exact hguarded.setPhase (by simp [LoginCall.start]) (by simp [LoginCall.start])
    · cases hstep
  | advance request => exact hguarded.advance hkeeps hstep

end Invariant

section Breach

variable {world}

/-- The storage operations of a check that finds neither a lock nor five failures. -/
theorem admits_of_reads {request : Nat} (hphase : world.phase request = .checkedLock true)
    (hfew : counterGet world.failed world.now < failedLoginThreshold) :
    world.Step (.advance request) (world.setPhase request (.admitted true)) := by
  simp only [Step, step?, advance?, hphase]
  rw [if_neg (by omega)]

/-- When the failures are lost while they are needed, a check can be let through. -/
theorem exists_admitted (hfresh : ∃ bound, ∀ request, bound ≤ request →
      world.phase request = .idle)
    (hunlocked : world.guard = .waiting → counterGet world.locked world.now = 0)
    (howed : world.Owed) (hfew : counterGet world.failed world.now < failedLoginThreshold) :
    ∃ breached request, Reaches (· = world) Step (fun _ _ => True) breached ∧
      breached.phase request = .admitted true := by
  have hstart : Reaches (· = world) Step (fun _ _ => True) world := .start rfl
  rcases howed with hwaiting | ⟨request, hphase⟩
  · obtain ⟨request, hidle⟩ := hfresh
    have harrive : world.Step (.arrive request .checkLogin)
        (world.setPhase request .checking) := by
      simp only [Step, step?, hidle request (Nat.le_refl _), ↓reduceIte]
      rfl
    -- the lock is read before it exists, and the failures are gone already
    have hread : (world.setPhase request .checking).Step (.advance request)
        ((world.setPhase request .checking).setPhase request (.checkedLock true)) := by
      have hon : (world.setPhase request .checking).isGuarded = true := by
        simp only [isGuarded, setPhase_guard, hwaiting]
      have hzero : ¬ counterGet world.locked world.now ≠ 0 := not_not.mpr (hunlocked hwaiting)
      simp only [Step, step?, advance?, setPhase_phase, ↓reduceIte, setPhase_locked,
        setPhase_now, if_neg hzero, hon]
    have hadmit : ((world.setPhase request .checking).setPhase request
        (.checkedLock true)).Step (.advance request)
          (((world.setPhase request .checking).setPhase request (.checkedLock true)).setPhase
            request (.admitted true)) :=
      admits_of_reads (by rw [setPhase_phase, if_pos rfl]) hfew
    have harrived := hstart.next trivial harrive
    have hreads := harrived.next trivial hread
    refine ⟨_, request, hreads.next trivial hadmit, ?_⟩
    rw [setPhase_phase, if_pos rfl]
  · refine ⟨_, request, hstart.next trivial (admits_of_reads hphase hfew), ?_⟩
    rw [setPhase_phase, if_pos rfl]

/-- The failures cleared by a request that is not a check between its reads. -/
theorem owed_cleared {request : Nat} {phase : LoginPhase} (howed : world.Owed)
    (hrequest : world.phase request ≠ .checkedLock true) :
    (world.withoutFailures.setPhase request phase).Owed := by
  rcases howed with hwaiting | ⟨other, hother⟩
  · exact Or.inl hwaiting
  · have hne : other ≠ request := by
      rintro rfl
      exact hrequest hother
    refine Or.inr ⟨other, ?_⟩
    rw [setPhase_phase, if_neg hne]
    exact hother

/-- A step that loses the failures while they are needed lets a check through. -/
theorem Guarded.breach (hguarded : world.Guarded) {label : LoginLabel} {after : LockoutWorld}
    (hstep : world.Step label after) (hloses : ¬ world.KeepsFailures label) :
    ∃ breached request, Reaches (· = after) Step (fun _ _ => True) breached ∧
      breached.phase request = .admitted true := by
  obtain ⟨howed, hlost⟩ := Classical.not_imp.mp hloses
  have hlost := not_not.mp hlost
  cases label with
  | arrive request call => exact absurd hlost id
  | tick seconds =>
    cases hstep
    have hzero : counterGet world.failed (world.now + seconds) = 0 := hlost
    refine exists_admitted ?_ ?_ ?_ ?_
    · exact hguarded.fresh
    · intro hwaiting
      exact counterGet_later_eq_zero (Nat.le_add_right _ _) (hguarded.unlocked hwaiting)
    · exact howed
    · simp only [hzero]
      decide
  | advance request =>
    have hfresh : ∀ phase, ∃ bound, ∀ other, bound ≤ other →
        (world.withoutFailures.setPhase request phase).phase other = .idle := fun phase =>
      @fresh_setPhase world.withoutFailures hguarded.fresh request phase
    simp only [Step, step?, advance?] at hstep
    rcases hlost with hphase | hphase
    · rw [hphase] at hstep
      cases hstep
      apply exists_admitted (hfresh _)
      · exact hguarded.unlocked
      · exact owed_cleared howed (by simp [hphase])
      · exact Nat.succ_pos 4
    · rw [hphase] at hstep
      cases hstep
      apply exists_admitted (hfresh _)
      · exact hguarded.unlocked
      · exact owed_cleared howed (by simp [hphase])
      · exact Nat.succ_pos 4

end Breach

section Locks

variable {world}

/-- A lock that has not expired is still there, with the same end. -/
def LockKept (world after : LockoutWorld) : Prop :=
  ∀ counter, world.locked = some counter → after.now < counter.expiresAt →
    ∃ later, after.locked = some later ∧ later.expiresAt = counter.expiresAt ∧
      counter.count ≤ later.count

theorem lockKept_of_eq {after : LockoutWorld} (h : after.locked = world.locked) :
    world.LockKept after := by
  intro counter hcounter _
  exact ⟨counter, by rw [h, hcounter], rfl, Nat.le_refl _⟩

theorem lockKept_withLock (request : Nat) (phase : LoginPhase) :
    world.LockKept (world.withLock.setPhase request phase) := by
  intro counter hcounter hlive
  have hwindow : world.now < counter.expiresAt := hlive
  refine ⟨_, rfl, ?_, ?_⟩
  · rw [hcounter]
    simp only [counterIncr, if_pos hwindow]
  · rw [hcounter]
    simp only [counterIncr, if_pos hwindow]
    omega

/-- No step ends an active lock, a successful login included. -/
theorem lockKept_step {label : LoginLabel} {after : LockoutWorld}
    (hstep : world.Step label after) : world.LockKept after := by
  cases label with
  | tick seconds =>
    cases hstep
    exact lockKept_of_eq rfl
  | arrive request call =>
    simp only [Step, step?] at hstep
    split at hstep
    · cases hstep
      exact lockKept_of_eq rfl
    · cases hstep
  | advance request =>
    simp only [Step, step?, advance?] at hstep
    split at hstep
    · split at hstep
      · cases hstep
        exact lockKept_of_eq rfl
      · cases hstep
        exact lockKept_of_eq rfl
    · split at hstep
      · cases hstep
        exact lockKept_of_eq rfl
      · cases hstep
        exact lockKept_of_eq rfl
    · cases hstep
      exact lockKept_withLock request _
    · split at hstep
      · cases hstep
        exact lockKept_of_eq rfl
      · cases hstep
        exact lockKept_of_eq rfl
    · cases hstep
      exact lockKept_withLock request _
    · cases hstep
      exact lockKept_of_eq rfl
    · cases hstep
      exact lockKept_of_eq rfl
    · cases hstep

end Locks

/-- In a run that never loses the failures while they are needed, every check that begins
after the fifth failure is rejected until the lock expires; a step that loses them lets a check
through; and no step ends an active lock. -/
theorem closed_of_keepsFailures (now : Nat) :
    (∀ world, Reaches (· = start now) Step KeepsFailures world →
      world.Closed ∧ ∀ label after, world.Step label after → ¬ world.KeepsFailures label →
        ∃ breached request, Reaches (· = after) Step (fun _ _ => True) breached ∧
          breached.phase request = .admitted true) ∧
    ∀ world label after, Step world label after → world.LockKept after := by
  constructor
  · intro world hreach
    have hguarded : world.Guarded := by
      apply Reaches.invariant _ _ hreach
      · rintro state rfl
        exact guarded_start now
      · intro state label after hguarded hkeeps hstep
        exact hguarded.step hkeeps hstep
    refine ⟨hguarded.closed, ?_⟩
    intro label after hstep hloses
    exact hguarded.breach hstep hloses
  · intro world label after hstep
    exact lockKept_step hstep

/-- Five failed logins; a check reads the lock before the fifth creates it and the failures
after the fifth has cleared them. -/
def gapLabels : List LoginLabel :=
  [.arrive 0 .loginFailed, .advance 0, .arrive 1 .loginFailed, .advance 1,
    .arrive 2 .loginFailed, .advance 2, .arrive 3 .loginFailed, .advance 3,
    .arrive 4 .loginFailed, .advance 4, .arrive 5 .checkLogin, .advance 5,
    .advance 4, .advance 4, .advance 5]

theorem not_closed_gap :
    ¬ ∀ world, Reaches (· = start 0) Step (fun _ _ => True) world → world.Closed := by
  intro hclosed
  have hstart : Reaches (· = start 0) Step (fun _ _ => True) (start 0) := .start rfl
  obtain ⟨world, -, hreach, hadmitted⟩ := Reaches.exists_of_run (fun h => h) hstart gapLabels
    (fun world => world.phase 5 == .admitted true) (by decide +kernel)
  exact hclosed world hreach 5 (by simpa using hadmitted)

end LockoutWorld

end BuddyWeb
