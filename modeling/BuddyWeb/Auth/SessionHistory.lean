/-
What a safe history of the session client is, and the changes of the client which keep
its history safe.
-/
import BuddyWeb.Auth.SessionClient

namespace BuddyWeb

def SessionEvent.call? : SessionEvent → Option IdentityCall
  | .started call => some call
  | _ => none

/-- The user who has been installed, with the epochs of the operation and of the request. -/
def SessionEvent.install? : SessionEvent → Option (SessionUser × Nat × Nat)
  | .installed user calledIn sentIn => some (user, calledIn, sentIn)
  | _ => none

/-- The identity-changing calls of a history, in the order in which they started. -/
def identityCalls (history : List SessionEvent) : List IdentityCall :=
  history.filterMap SessionEvent.call?

def lastInstall (history : List SessionEvent) : Option (SessionUser × Nat × Nat) :=
  (history.filterMap SessionEvent.install?).getLast?

/-- A logout has been called since an operation that was called in the epoch. -/
def LogoutSince (history : List SessionEvent) (calledIn : Nat) : Prop :=
  ∃ index, calledIn ≤ index ∧ (identityCalls history)[index]? = some .logout

instance (history : List SessionEvent) (calledIn : Nat) :
    Decidable (LogoutSince history calledIn) :=
  decidable_of_iff (IdentityCall.logout ∈ (identityCalls history).drop calledIn) (by
    rw [List.mem_iff_getElem?]
    constructor
    · rintro ⟨index, h⟩
      rw [List.getElem?_drop] at h
      exact ⟨calledIn + index, Nat.le_add_right _ _, h⟩
    · rintro ⟨index, hle, h⟩
      exact ⟨index - calledIn, by rw [List.getElem?_drop, Nat.add_sub_of_le hle, h]⟩)

/-- No logout has overtaken the operation which installs a user or hands out data, and a
user comes from a request of the current epoch. -/
def SessionEvent.Timely (earlier : List SessionEvent) : SessionEvent → Prop
  | .started _ => True
  | .installed _ calledIn sentIn =>
      ¬LogoutSince earlier calledIn ∧ sentIn = (identityCalls earlier).length
  | .delivered calledIn => ¬LogoutSince earlier calledIn

/-- The store shows a user only outside a logout and from a request of the current epoch,
and every event has been timely. -/
structure SessionSafe (client : SessionClient) : Prop where
  store : ∀ user, client.store = .authenticated user →
    (identityCalls client.history).getLast? ≠ some .logout ∧
      ∃ calledIn, lastInstall client.history =
        some (user, calledIn, (identityCalls client.history).length)
  events : ∀ earlier event later, client.history = earlier ++ event :: later →
    event.Timely earlier

structure SessionInvariant (client : SessionClient) : Prop extends SessionSafe client where
  epoch : client.epoch = (identityCalls client.history).length

/-- The changes of the client which no program may leave. -/
structure SessionKeeps (before after : SessionClient) : Prop where
  history : before.history <+: after.history
  epoch : before.epoch ≤ after.epoch
  invariant : SessionInvariant before → SessionInvariant after

/-- A confirmation which a logout has overtaken reads the epoch of no newer identity. -/
def SessionSignal.Undisturbed : SessionSignal → SessionClient → Prop
  | .confirmed calledIn, client => LogoutSince client.history calledIn →
      (identityCalls client.history).getLast? = some .logout
  | _, _ => True

/-- No refresh of its own starts after a logout. -/
def ClientCall.Undisturbed : ClientCall → SessionClient → Prop
  | .refresh, client => client.refreshFlight = none →
      (identityCalls client.history).getLast? ≠ some .logout
  | _, _ => True

instance : (signal : SessionSignal) → (client : SessionClient) →
    Decidable (signal.Undisturbed client)
  | .confirmed calledIn, client =>
      inferInstanceAs (Decidable (LogoutSince client.history calledIn →
        (identityCalls client.history).getLast? = some .logout))
  | .resolved, _ | .reply _, _ | .turn _, _ | .flight _, _ => instDecidableTrue

instance : (call : ClientCall) → (client : SessionClient) → Decidable (call.Undisturbed client)
  | .refresh, client => inferInstanceAs (Decidable (client.refreshFlight = none →
      (identityCalls client.history).getLast? ≠ some .logout))
  | .bootstrap, _ | .login _ _, _ | .register _, _ | .logout, _ | .authenticatedJson _ _, _
  | .requestEmailVerification, _ | .confirmEmailVerification _, _
  | .changeEmail _, _ => instDecidableTrue

def sessionSetting : Setting SessionClient SessionSignal.Answer where
  ready signal client answer := signal.ready client answer ∧ signal.Undisturbed client
  keeps := SessionKeeps
  refl _ := ⟨List.prefix_refl _, Nat.le_refl _, id⟩
  trans hfirst hsecond :=
    ⟨hfirst.history.trans hsecond.history, Nat.le_trans hfirst.epoch hsecond.epoch,
      fun h => hsecond.invariant (hfirst.invariant h)⟩

section History

variable {history : List SessionEvent}

theorem identityCalls_append (history : List SessionEvent) (event : SessionEvent) :
    identityCalls (history ++ [event]) = identityCalls history ++ event.call?.toList := by
  cases event <;> simp [identityCalls, SessionEvent.call?]

theorem lastInstall_append (history : List SessionEvent) (event : SessionEvent) :
    lastInstall (history ++ [event]) = event.install?.or (lastInstall history) := by
  cases event <;> simp [lastInstall, SessionEvent.install?]

/-- The calls of the past stay. -/
theorem identityCalls_getElem {earlier later : List SessionEvent} (h : earlier <+: later)
    {index : Nat} (hindex : index < (identityCalls earlier).length) :
    (identityCalls later)[index]? = (identityCalls earlier)[index]? := by
  obtain ⟨rest, rfl⟩ := h
  simp only [identityCalls, List.filterMap_append]
  exact List.getElem?_append_left hindex

/-- A history stays timely with one more timely event. -/
theorem timely_append {event : SessionEvent}
    (hevents : ∀ earlier middle later, history = earlier ++ middle :: later →
      middle.Timely earlier)
    (hevent : event.Timely history) :
    ∀ earlier middle later, history ++ [event] = earlier ++ middle :: later →
      middle.Timely earlier := by
  intro earlier middle later h
  cases later using List.reverseRecOn with
  | nil =>
      obtain ⟨rfl, hlast⟩ := List.append_inj' h rfl
      cases hlast
      exact hevent
  | append_singleton rest last =>
      rw [← List.cons_append, ← List.append_assoc] at h
      exact hevents _ _ _ (List.append_inj' h rfl).1

end History

/-- A change that leaves the history and the epoch alone, and at most clears the store. -/
theorem SessionKeeps.of_same {before after : SessionClient}
    (hhistory : after.history = before.history) (hepoch : after.epoch = before.epoch)
    (hstore : after.store = before.store ∨ after.store.user? = none) :
    SessionKeeps before after := by
  refine ⟨hhistory ▸ List.prefix_refl _, Nat.le_of_eq hepoch.symm, fun h => ?_⟩
  constructor
  · constructor
    · intro user huser
      rw [hhistory]
      rcases hstore with hsame | hnone
      · exact h.store user (hsame ▸ huser)
      · rw [huser] at hnone
        cases hnone
    · rw [hhistory]
      exact h.events
  · rw [hepoch, hhistory]
    exact h.epoch

/-- A new identity begins with a store that shows no user. -/
theorem SessionKeeps.started (client : SessionClient) (call : IdentityCall) {store : AuthStore}
    (hstore : store.user? = none) :
    SessionKeeps client { client with
      epoch := client.epoch + 1
      store := store
      history := client.history ++ [.started call] } := by
  refine ⟨List.prefix_append _ _, Nat.le_succ _, fun h => ?_⟩
  constructor
  · constructor
    · intro user huser
      change store = .authenticated user at huser
      rw [huser] at hstore
      cases hstore
    · exact timely_append h.events trivial
  · simp [identityCalls_append, SessionEvent.call?, h.epoch]

/-- Data is handed out where no logout has overtaken the caller. -/
theorem SessionKeeps.delivered (client : SessionClient) (calledIn : Nat)
    (hquiet : SessionInvariant client → ¬LogoutSince client.history calledIn) :
    SessionKeeps client { client with
      history := client.history ++ [.delivered calledIn] } := by
  refine ⟨List.prefix_append _ _, Nat.le_refl _, fun h => ?_⟩
  constructor
  · constructor
    · intro user huser
      simpa [identityCalls_append, lastInstall_append, SessionEvent.call?,
        SessionEvent.install?] using h.store user huser
    · exact timely_append h.events (hquiet h)
  · simpa [identityCalls_append, SessionEvent.call?] using h.epoch

/-- A user is installed from a request of the current epoch, which no logout has begun. -/
theorem SessionKeeps.installed (client : SessionClient) (user : SessionUser)
    (calledIn sentIn : Nat)
    (hlatest : (identityCalls client.history).getLast? ≠ some .logout)
    (hquiet : ¬LogoutSince client.history calledIn) (hsent : sentIn = client.epoch) :
    SessionKeeps client { client with
      store := .authenticated user
      history := client.history ++ [.installed user calledIn sentIn] } := by
  refine ⟨List.prefix_append _ _, Nat.le_refl _, fun h => ?_⟩
  have hcount : sentIn = (identityCalls client.history).length := hsent.trans h.epoch
  constructor
  · constructor
    · intro other hother
      cases hother
      refine ⟨?_, calledIn, ?_⟩
      · simpa [identityCalls_append, SessionEvent.call?] using hlatest
      · simp [lastInstall_append, identityCalls_append, SessionEvent.call?,
          SessionEvent.install?, hcount]
    · exact timely_append h.events ⟨hquiet, hcount⟩
  · simpa [identityCalls_append, SessionEvent.call?] using h.epoch

/-- An operation which was called in one epoch and acts for another, with no logout called in
between. -/
structure Unlogged (calledIn generation : Nat) (client : SessionClient) : Prop where
  invariant : SessionInvariant client
  le : generation ≤ client.epoch
  called : calledIn ≤ generation
  quiet : ∀ index, calledIn ≤ index → index < generation →
    (identityCalls client.history)[index]? ≠ some .logout

/-- The epoch for which it acts is not a logout's either. -/
structure Entitled (calledIn generation : Nat) (client : SessionClient) : Prop
    extends Unlogged calledIn generation client where
  opened : ∀ index, index + 1 = generation →
    (identityCalls client.history)[index]? ≠ some .logout

theorem stable_invariant : sessionSetting.Stable SessionInvariant :=
  fun _ _ hkeeps h => hkeeps.invariant h

theorem stable_le_epoch (generation : Nat) :
    sessionSetting.Stable fun client => generation ≤ client.epoch :=
  fun _ _ hkeeps h => Nat.le_trans h hkeeps.epoch

/-- The calls up to an epoch that has begun stay. -/
theorem Unlogged.getElem {calledIn generation : Nat} {before after : SessionClient}
    (h : Unlogged calledIn generation before) (hkeeps : SessionKeeps before after) {index : Nat}
    (hindex : index < generation) :
    (identityCalls after.history)[index]? = (identityCalls before.history)[index]? := by
  apply identityCalls_getElem hkeeps.history
  have hle := h.le
  rw [h.invariant.epoch] at hle
  omega

theorem stable_unlogged (calledIn generation : Nat) :
    sessionSetting.Stable (Unlogged calledIn generation) := by
  intro before after hkeeps h
  constructor
  · exact hkeeps.invariant h.invariant
  · exact Nat.le_trans h.le hkeeps.epoch
  · exact h.called
  · intro index hcalled hindex
    rw [h.getElem hkeeps hindex]
    exact h.quiet index hcalled hindex

theorem stable_entitled (calledIn generation : Nat) :
    sessionSetting.Stable (Entitled calledIn generation) := by
  intro before after hkeeps h
  constructor
  · exact stable_unlogged calledIn generation before after hkeeps h.toUnlogged
  · intro index hindex
    rw [h.getElem hkeeps (by omega)]
    exact h.opened index hindex

theorem SessionInvariant.getLast?_eq {client : SessionClient} (h : SessionInvariant client)
    {index : Nat} (hindex : index + 1 = client.epoch) :
    (identityCalls client.history).getLast? = (identityCalls client.history)[index]? := by
  rw [List.getLast?_eq_getElem?, ← h.epoch, ← hindex]
  rfl

theorem unlogged_epoch {client : SessionClient} {calledIn : Nat} (h : SessionInvariant client)
    (hcalled : calledIn ≤ client.epoch) (hquiet : ¬LogoutSince client.history calledIn) :
    Unlogged calledIn client.epoch client where
  invariant := h
  le := Nat.le_refl _
  called := hcalled
  quiet index hle _ hlogout := hquiet ⟨index, hle, hlogout⟩

/-- No call has followed the latest epoch. -/
theorem SessionInvariant.not_logoutSince {client : SessionClient} (h : SessionInvariant client) :
    ¬LogoutSince client.history client.epoch := by
  rintro ⟨index, hindex, hlogout⟩
  have hlt := (List.getElem?_eq_some_iff.mp hlogout).1
  rw [← h.epoch] at hlt
  omega

/-- Whoever acts for the current epoch, which is no logout's, is entitled to it. -/
theorem entitled_epoch {client : SessionClient} (h : SessionInvariant client)
    (hlatest : (identityCalls client.history).getLast? ≠ some .logout) :
    Entitled client.epoch client.epoch client := by
  constructor
  · exact unlogged_epoch h (Nat.le_refl _) h.not_logoutSince
  · intro index hindex
    rw [← h.getLast?_eq hindex]
    exact hlatest

namespace Entitled

variable {client : SessionClient} {calledIn generation : Nat}

theorem not_logoutSince (h : Entitled calledIn generation client)
    (hepoch : generation = client.epoch) : ¬LogoutSince client.history calledIn := by
  rintro ⟨index, hindex, hlogout⟩
  have hlt := (List.getElem?_eq_some_iff.mp hlogout).1
  rw [← h.invariant.epoch, ← hepoch] at hlt
  exact h.quiet index hindex hlt hlogout

/-- An entitled epoch was not a logout's when it was read. -/
theorem latest_before {before : SessionClient} (h : Entitled before.epoch before.epoch client)
    (hbefore : SessionInvariant before) (hkeeps : SessionKeeps before client) :
    (identityCalls before.history).getLast? ≠ some .logout := by
  cases hepoch : before.epoch with
  | zero =>
      have hlength : (identityCalls before.history).length = 0 := by
        rw [← hbefore.epoch, hepoch]
      simp [List.length_eq_zero_iff.mp hlength]
  | succ index =>
      have hlt : index < (identityCalls before.history).length := by
        rw [← hbefore.epoch, hepoch]
        exact Nat.lt_succ_self index
      rw [hbefore.getLast?_eq hepoch.symm, ← identityCalls_getElem hkeeps.history hlt]
      exact h.opened index hepoch.symm

theorem latest (h : Entitled calledIn generation client) (hepoch : generation = client.epoch) :
    (identityCalls client.history).getLast? ≠ some .logout := by
  subst hepoch
  have hself : Entitled client.epoch client.epoch client :=
    { toUnlogged := unlogged_epoch h.invariant (Nat.le_refl _) h.invariant.not_logoutSince
      opened := h.opened }
  exact hself.latest_before h.invariant (sessionSetting.refl client)

/-- What was called before the epoch is entitled to it with whoever was called in it. -/
theorem of_unlogged (h : Entitled generation generation client)
    (hcalled : Unlogged calledIn generation client) : Entitled calledIn generation client where
  toUnlogged := hcalled
  opened := h.opened

end Entitled

end BuddyWeb
