/-
Every interleaving of the session client's calls keeps a safe history, where no refresh
starts after a logout and no confirmation goes on for the identity after one.
-/
import BuddyWeb.Auth.SessionHistory

namespace BuddyWeb

namespace SessionClient

open Async

variable {α : Type} {client : SessionClient} {generation : Nat}

/-- A reply that was asked for in the epoch or later. -/
def Fresh (generation : Nat) : Except ClientError SessionReply → SessionClient → Prop
  | .ok reply, client => generation ≤ reply.sentIn ∧ reply.sentIn ≤ client.epoch
  | .error _, _ => True

theorem stable_fresh (generation : Nat) (result : Except ClientError SessionReply) :
    sessionSetting.Stable (Fresh generation result) := by
  intro before after hkeeps h
  cases result with
  | error error => trivial
  | ok reply => exact ⟨h.1, Nat.le_trans h.2 hkeeps.epoch⟩

/-- A fact which all states share. -/
theorem stable_true : sessionSetting.Stable fun _ => True :=
  fun _ _ _ _ => trivial

theorem settle_secures {post : Except ClientError Unit → SessionClient → Prop}
    (hstable : sessionSetting.Stable (post (.ok ()))) (h : post (.ok ()) client) :
    settle.Secures sessionSetting post client :=
  Secures.await fun after _ hkeeps _ => hstable client after hkeeps h

theorem awaited_secures {program : SessionProgram α}
    {post : Except ClientError α → SessionClient → Prop}
    (hstable : ∀ result, sessionSetting.Stable (post result))
    (h : program.Secures sessionSetting post client) :
    (awaited program).Secures sessionSetting post client := by
  apply Secures.bind
  apply Secures.attempt
  refine h.mono fun result after hpost => ?_
  apply Secures.bind
  apply Secures.await
  intro later _ hkeeps _
  exact hstable result after later hkeeps hpost

theorem awaited_safe {program : SessionProgram α} (h : program.Safe sessionSetting client) :
    (awaited program).Safe sessionSetting client :=
  awaited_secures (fun _ => stable_true) h

/-- What follows the check of the epoch starts in this epoch. -/
theorem checkEpoch_bind_secures {next : Unit → SessionProgram α}
    {post : Except ClientError α → SessionClient → Prop}
    (hcurrent : generation = client.epoch → (next ()).Secures sessionSetting post client)
    (hother : ∀ error, post (.error error) client) :
    (checkEpoch generation >>= next).Secures sessionSetting post client := by
  apply Secures.bind
  apply Secures.read_bind
  apply Secures.onlyIf
  · intro _
    exact hother _
  · intro hsame
    exact hcurrent (not_not.mp hsame)

theorem checkEpoch_safe : (checkEpoch generation).Safe sessionSetting client :=
  Secures.read_bind Safe.throwIf

/-- A change of what the history and the store do not show. -/
theorem modify_safe {update : SessionClient → SessionClient}
    (hhistory : (update client).history = client.history)
    (hepoch : (update client).epoch = client.epoch)
    (hstore : (update client).store = client.store) :
    (Async.modify update : SessionProgram Unit).Safe sessionSetting client :=
  Secures.modify (SessionKeeps.of_same hhistory hepoch (Or.inl hstore)) trivial

theorem clearSession_safe : clearSession.Safe sessionSetting client :=
  Secures.modify (SessionKeeps.of_same rfl rfl (Or.inr rfl)) trivial

theorem settle_safe : settle.Safe sessionSetting client :=
  settle_secures stable_true trivial

theorem clearIdentity_safe : clearIdentity.Safe sessionSetting client :=
  Safe.seq stable_true trivial clearSession_safe fun _ _ _ => settle_safe

/-- The rest of a task after its action: the queue goes on, then the caller. -/
theorem enqueue_secures {action : SessionProgram α} {fact : SessionClient → Prop}
    (hstable : sessionSetting.Stable fact) (hfact : fact client)
    (haction : ∀ client, fact client → action.Safe sessionSetting client) :
    (enqueue action).Safe sessionSetting client := by
  apply Secures.read_bind
  refine Safe.seq hstable hfact (modify_safe rfl rfl rfl) fun _ queued hqueued => ?_
  refine Safe.seq hstable hqueued Safe.await fun _ turn hturn => ?_
  refine Safe.seq stable_true trivial (Safe.attempt (haction turn hturn))
    fun _ served _ => ?_
  refine Safe.seq stable_true trivial (modify_safe rfl rfl rfl) fun _ _ _ => ?_
  exact Safe.seq stable_true trivial settle_safe fun _ _ _ => trivial

theorem requestJson_secures {path : String} {options : JsonRequestOptions}
    {token : Option String} (hle : generation ≤ client.epoch) :
    (requestJson path options token).Secures sessionSetting (Fresh generation) client := by
  refine Secures.seq (stable_le_epoch generation) hle
    (Secures.onlyIf (fun _ => Safe.seq stable_true trivial settle_safe fun _ _ _ => trivial)
      fun _ => trivial) (fun _ sent hsent _ => ?_) fun _ _ _ _ => trivial
  apply Secures.read_bind
  apply Secures.bind
  apply Secures.await
  intro after answer hkeeps _
  cases answer with
  | error error => trivial
  | ok payload => exact ⟨hsent, hkeeps.epoch⟩

theorem requestJson_safe {path : String} {options : JsonRequestOptions}
    {token : Option String} : (requestJson path options token).Safe sessionSetting client :=
  (requestJson_secures (Nat.zero_le _)).safe

theorem fetchCsrf_safe {path : String} : (fetchCsrf path).Safe sessionSetting client := by
  refine Safe.seq stable_true trivial requestJson_safe fun reply answered _ => ?_
  split
  · trivial
  · exact Safe.seq stable_true trivial (modify_safe rfl rfl rfl) fun _ _ _ => trivial

theorem sessionToken_safe : sessionToken.Safe sessionSetting client := by
  apply Secures.read_bind
  split
  · trivial
  · exact awaited_safe fetchCsrf_safe

theorem sessionMutation_secures {path : String} (hle : generation ≤ client.epoch) :
    (sessionMutation path).Secures sessionSetting (Fresh generation) client := by
  refine Secures.seq (stable_le_epoch generation) hle sessionToken_safe
    (fun token known hknown _ => ?_) fun _ _ _ _ => trivial
  refine Secures.handle (stable_le_epoch generation) hknown
    (awaited_secures (stable_fresh generation) (requestJson_secures hknown))
    (fun _ _ _ hreply => hreply) fun error failed hfailed _ => ?_
  refine Secures.seq (stable_le_epoch generation) hfailed Safe.throwIf
    (fun _ rejected hrejected _ => ?_) fun _ _ _ _ => trivial
  refine Secures.seq (stable_le_epoch generation) hrejected (awaited_safe fetchCsrf_safe)
    (fun _ recovered hrecovered _ => ?_) fun _ _ _ _ => trivial
  exact requestJson_secures hrecovered

theorem sessionMutation_safe {path : String} : (sessionMutation path).Safe sessionSetting client :=
  (sessionMutation_secures (Nat.zero_le _)).safe

theorem requireSessionUser_safe {wire : WireFormat} {payload : Payload} :
    (requireSessionUser wire payload).Safe sessionSetting client := by
  unfold requireSessionUser
  split <;> trivial

/-- The store takes a user for an operation that is entitled to the current epoch. -/
theorem setAuthenticated_safe {wire : WireFormat} {payload : Payload} {calledIn sentIn : Nat}
    (h : Entitled calledIn generation client) (hepoch : generation = client.epoch)
    (hsent : sentIn = client.epoch) :
    (setAuthenticated wire payload calledIn sentIn).Safe sessionSetting client := by
  unfold setAuthenticated
  split
  · exact Safe.seq stable_true trivial clearSession_safe fun _ _ _ => trivial
  · exact Secures.modify (SessionKeeps.installed client _ calledIn sentIn (h.latest hepoch)
      (h.not_logoutSince hepoch) hsent) trivial

theorem installUser_safe {wire : WireFormat} {reply : SessionReply} {calledIn : Nat}
    (h : Entitled calledIn generation client)
    (hreply : Fresh generation (.ok reply) client) :
    (installUser wire reply generation calledIn).Safe sessionSetting client := by
  have hstable := (stable_entitled calledIn generation).and (stable_fresh generation (.ok reply))
  apply checkEpoch_bind_secures
  · intro _
    refine Safe.seq hstable ⟨h, hreply⟩ requireSessionUser_safe fun user parsed hparsed => ?_
    apply Secures.read_bind
    refine Safe.seq hstable hparsed
      (Secures.onlyIf (fun _ => settle_safe) fun _ => trivial) fun _ cleared hcleared => ?_
    apply checkEpoch_bind_secures
    · intro hepoch
      have hsent : reply.sentIn = cleared.epoch :=
        Nat.le_antisymm hcleared.2.2 (hepoch ▸ hcleared.2.1)
      exact Safe.seq stable_true trivial (setAuthenticated_safe hcleared.1 hepoch hsent)
        fun _ _ _ => trivial
    · intro _
      trivial
  · intro _
    trivial

theorem refreshInternal_safe {wire : WireFormat} {deferIdentity : Bool}
    (h : Entitled generation generation client) :
    (refreshInternal wire generation deferIdentity).Safe sessionSetting client := by
  refine Secures.seq (stable_entitled generation generation) h
    (awaited_secures (stable_fresh generation) (sessionMutation_secures h.le))
    (fun reply answered hanswered hreply => ?_) fun _ _ _ _ => trivial
  split
  · trivial
  · rename_i token user _
    refine Safe.seq ((stable_entitled generation generation).and
      (stable_fresh generation (.ok ⟨user, reply.sentIn⟩))) ⟨hanswered, hreply⟩
      (modify_safe rfl rfl rfl) fun _ kept hkept => ?_
    split
    · apply checkEpoch_bind_secures
      · intro _
        exact Safe.seq stable_true trivial requireSessionUser_safe
          fun _ _ _ => modify_safe rfl rfl rfl
      · intro _
        trivial
    · exact Safe.seq stable_true trivial (awaited_safe (installUser_safe hkept.1 hkept.2))
        fun _ _ _ => modify_safe rfl rfl rfl

theorem setFeedback_safe {ticket : Nat} {feedback : SessionFeedback} :
    (setFeedback ticket feedback).Safe sessionSetting client := by
  apply modify_safe <;> split <;> rfl

theorem feedbackTask_safe {action : SessionAction} {ticket : Nat} {work : SessionProgram α}
    (hwork : work.Safe sessionSetting client) :
    (feedbackTask action generation ticket work).Safe sessionSetting client := by
  refine Safe.handle stable_true trivial ?_ fun error failed _ => ?_
  · apply checkEpoch_bind_secures
    · intro _
      refine Safe.seq stable_true trivial (awaited_safe hwork) fun _ done _ => ?_
      refine Safe.seq stable_true trivial ?_ fun _ _ _ => trivial
      apply modify_safe <;> split <;> rfl
    · intro _
      trivial
  · apply Secures.read_bind
    refine Safe.seq stable_true trivial
      (Secures.onlyIf (fun _ => awaited_safe clearIdentity_safe) fun _ => trivial)
      fun _ _ _ => ?_
    exact Safe.seq stable_true trivial setFeedback_safe fun _ _ _ => trivial

/-- An action with feedback is safe where its work is, whenever its turn comes. -/
theorem withFeedback_safe {action : SessionAction} {work : SessionProgram α}
    {fact : SessionClient → Prop} (hstable : sessionSetting.Stable fact) (hfact : fact client)
    (hwork : ∀ client, fact client → work.Safe sessionSetting client) :
    (withFeedback action generation work).Safe sessionSetting client := by
  refine Safe.seq hstable hfact (modify_safe rfl rfl rfl) fun _ ticketed hticketed => ?_
  apply Secures.read_bind
  refine Safe.seq hstable hticketed setFeedback_safe fun _ shown hshown => ?_
  exact enqueue_secures hstable hshown fun _ h => feedbackTask_safe (hwork _ h)

theorem newPromise_safe : newPromise.Safe sessionSetting client :=
  Safe.seq stable_true trivial (modify_safe rfl rfl rfl)
    fun _ _ _ => Secures.read_bind trivial

/-- The end of a shared flight. -/
theorem endFlight_safe {update : SessionClient → SessionClient}
    {result : Except ClientError Unit}
    (hupdate : ∀ client, (Async.modify update : SessionProgram Unit).Safe sessionSetting client) :
    (do
      Async.modify update
      settle
      finish result : SessionProgram Unit).Safe sessionSetting client := by
  refine Safe.seq stable_true trivial (hupdate client) fun _ _ _ => ?_
  exact Safe.seq stable_true trivial settle_safe fun _ _ _ => trivial

/-- A refresh starts its own flight only outside a logout. -/
theorem refresh_safe {wire : WireFormat} (h : SessionInvariant client)
    (hlatest : client.refreshFlight = none →
      (identityCalls client.history).getLast? ≠ some .logout) :
    (refresh wire).Safe sessionSetting client := by
  apply Secures.read_bind
  split
  · exact Safe.seq stable_true trivial Safe.await
      fun _ _ _ => trivial
  · rename_i hflight
    have hentitled := entitled_epoch h (hlatest hflight)
    have hstable := stable_entitled client.epoch client.epoch
    refine Safe.seq hstable hentitled newPromise_safe fun promise opened hopened => ?_
    refine Safe.seq hstable hopened (modify_safe rfl rfl rfl) fun _ shared hshared => ?_
    refine Safe.seq stable_true trivial
      (Safe.attempt (withFeedback_safe hstable hshared fun _ => refreshInternal_safe))
      fun _ _ _ => ?_
    exact endFlight_safe fun _ => modify_safe rfl rfl rfl

/-- The epoch that a call begins, with what it is entitled to. -/
def Begun (call : IdentityCall) : Except ClientError Nat → SessionClient → Prop
  | .ok generation, client =>
      SessionInvariant client ∧ (call ≠ .logout → Entitled generation generation client)
  | .error _, _ => True

theorem changeIdentity_secures {call : IdentityCall} {store : AuthStore}
    (h : SessionInvariant client) (hstore : store.user? = none) :
    (changeIdentity call store).Secures sessionSetting (Begun call) client := by
  have hkeeps := SessionKeeps.started client call hstore
  apply Secures.modify_bind hkeeps
  apply Secures.read_bind
  have hafter := hkeeps.invariant h
  refine ⟨hafter, fun hcall => ?_⟩
  apply entitled_epoch hafter
  simpa [identityCalls_append, SessionEvent.call?] using hcall

theorem bootstrapUser_secures {wire : WireFormat} (h : Entitled generation generation client) :
    (bootstrapUser wire generation).Secures sessionSetting (Fresh generation) client := by
  have hstable := stable_entitled generation generation
  refine Secures.handle hstable h
    (awaited_secures (stable_fresh generation) (requestJson_secures h.le))
    (fun _ _ _ hreply => hreply) fun error failed hfailed _ => ?_
  refine Secures.seq hstable hfailed Safe.throwIf (fun _ expired hexpired _ => ?_)
    fun _ _ _ _ => trivial
  refine Secures.seq hstable hexpired (awaited_safe (refreshInternal_safe hexpired))
    (fun _ refreshed hrefreshed _ => ?_) fun _ _ _ _ => trivial
  exact awaited_secures (stable_fresh generation) (requestJson_secures hrefreshed.le)

theorem bootstrapWork_safe {wire : WireFormat} (h : Entitled generation generation client) :
    (bootstrapWork wire generation).Safe sessionSetting client := by
  have hstable := stable_entitled generation generation
  refine Safe.seq hstable h settle_safe fun _ cleared hcleared => ?_
  refine Safe.handle stable_true trivial ?_ fun error failed _ => ?_
  · refine Safe.seq hstable hcleared (awaited_safe fetchCsrf_safe) fun _ known hknown => ?_
    apply checkEpoch_bind_secures
    · intro _
      refine Secures.seq hstable hknown (bootstrapUser_secures hknown)
        (fun reply answered hanswered hreply => ?_) fun _ _ _ _ => trivial
      exact Safe.seq stable_true trivial (awaited_safe (installUser_safe hanswered hreply))
        fun _ _ _ => trivial
    · intro _
      trivial
  · refine Safe.seq stable_true trivial checkEpoch_safe fun _ _ _ => ?_
    exact Safe.seq stable_true trivial Safe.throwIf fun _ _ _ => clearSession_safe

theorem bootstrap_safe {wire : WireFormat} (h : SessionInvariant client) :
    (bootstrap wire).Safe sessionSetting client := by
  apply Secures.read_bind
  split
  · exact Safe.seq stable_true trivial Safe.await
      fun _ _ _ => trivial
  · refine Secures.seq stable_true trivial (changeIdentity_secures h rfl)
      (fun generation begun _ hbegun => ?_) fun _ _ _ _ => trivial
    have hstable := stable_entitled generation generation
    have hentitled := hbegun.2 (by decide)
    refine Safe.seq hstable hentitled newPromise_safe fun promise opened hopened => ?_
    refine Safe.seq hstable hopened (modify_safe rfl rfl rfl) fun _ shared hshared => ?_
    refine Safe.seq stable_true trivial
      (Safe.attempt (withFeedback_safe hstable hshared fun _ => bootstrapWork_safe))
      fun _ _ _ => ?_
    exact endFlight_safe fun _ => modify_safe rfl rfl rfl

theorem revokeSession_safe : revokeSession.Safe sessionSetting client :=
  Safe.seq stable_true trivial (awaited_safe sessionMutation_safe)
    fun _ _ _ => modify_safe rfl rfl rfl

theorem recoverLoginCsrf_safe : recoverLoginCsrf.Safe sessionSetting client := by
  refine Safe.handle stable_true trivial ?_ fun error failed _ => ?_
  · exact Safe.seq stable_true trivial (awaited_safe fetchCsrf_safe) fun _ _ _ => trivial
  · exact Safe.seq stable_true trivial Safe.throwIf fun _ _ _ => modify_safe rfl rfl rfl

theorem denyLogin_safe : (denyLogin generation).Safe sessionSetting client := by
  refine Safe.seq stable_true trivial (awaited_safe clearIdentity_safe) fun _ _ _ => ?_
  refine Safe.seq stable_true trivial checkEpoch_safe fun _ _ _ => ?_
  refine Safe.seq stable_true trivial (Safe.attempt revokeSession_safe) fun _ _ _ => ?_
  exact Safe.seq stable_true trivial checkEpoch_safe fun _ _ _ => trivial

theorem loginWork_safe {wire : WireFormat} {credentials : Credentials} {requireAdmin : Bool}
    (h : Entitled generation generation client) :
    (loginWork wire credentials requireAdmin generation).Safe sessionSetting client := by
  have hstable := stable_entitled generation generation
  refine Safe.seq hstable h settle_safe fun _ cleared hcleared => ?_
  refine Safe.seq hstable hcleared recoverLoginCsrf_safe fun _ known hknown => ?_
  apply Secures.read_bind
  refine Safe.seq hstable hknown
    (Secures.onlyIf (fun _ => revokeSession_safe) fun _ => trivial) fun _ revoked hrevoked => ?_
  apply checkEpoch_bind_secures
  · intro _
    refine Safe.seq hstable hrevoked (awaited_safe fetchCsrf_safe) fun token ready hready => ?_
    refine Secures.seq hstable hready (requestJson_secures hready.le)
      (fun reply answered hanswered hreply => ?_) fun _ _ _ _ => trivial
    split
    · trivial
    · rename_i sessionToken payload _
      have hboth := hstable.and (stable_fresh generation (.ok reply))
      refine Safe.seq hboth ⟨hanswered, hreply⟩ (modify_safe rfl rfl rfl) fun _ kept hkept => ?_
      apply checkEpoch_bind_secures
      · intro _
        refine Safe.seq hboth hkept requireSessionUser_safe fun user parsed hparsed => ?_
        split
        · exact denyLogin_safe
        · exact awaited_safe (installUser_safe hparsed.1 hparsed.2)
      · intro _
        trivial
  · intro _
    trivial

theorem login_safe {wire : WireFormat} {credentials : Credentials} {requireAdmin : Bool}
    (h : SessionInvariant client) :
    (login wire credentials requireAdmin).Safe sessionSetting client := by
  refine Secures.seq stable_true trivial (changeIdentity_secures h rfl)
    (fun generation begun _ hbegun => ?_) fun _ _ _ _ => trivial
  exact withFeedback_safe (stable_entitled generation generation) (hbegun.2 (by decide))
    fun _ => loginWork_safe

theorem registerRequest_safe {registration : Registration} {token : String} :
    (registerRequest registration token).Safe sessionSetting client :=
  Safe.seq stable_true trivial requestJson_safe fun _ _ _ => Safe.throwIf

theorem register_safe {registration : Registration} :
    (register registration).Safe sessionSetting client := by
  refine enqueue_secures stable_true trivial fun begun _ => ?_
  refine Safe.seq stable_true trivial (awaited_safe fetchCsrf_safe) fun token _ _ => ?_
  refine Safe.seq stable_true trivial (Safe.attempt registerRequest_safe)
    fun _ _ _ => ?_
  exact Safe.seq stable_true trivial (modify_safe rfl rfl rfl) fun _ _ _ => trivial

theorem logoutCsrf_safe : logoutCsrf.Safe sessionSetting client := by
  refine Safe.handle stable_true trivial ?_ fun error failed _ => ?_
  · exact Safe.seq stable_true trivial (awaited_safe fetchCsrf_safe) fun _ _ _ => trivial
  · refine Safe.seq stable_true trivial Safe.throwIf fun _ _ _ => ?_
    exact Safe.seq stable_true trivial (awaited_safe fetchCsrf_safe) fun _ _ _ => trivial

theorem logoutWork_safe : (logoutWork generation).Safe sessionSetting client := by
  refine Safe.seq stable_true trivial settle_safe fun _ _ _ => ?_
  apply Secures.read_bind
  refine Safe.seq stable_true trivial
    (Secures.onlyIf (fun _ => logoutCsrf_safe) fun _ => trivial) fun _ _ _ => ?_
  refine Safe.seq stable_true trivial revokeSession_safe fun _ _ _ => ?_
  refine Safe.seq stable_true trivial checkEpoch_safe fun _ _ _ => ?_
  exact awaited_safe clearIdentity_safe

theorem logout_safe (h : SessionInvariant client) : logout.Safe sessionSetting client := by
  refine Secures.seq stable_true trivial (changeIdentity_secures h rfl)
    (fun generation begun _ _ => ?_) fun _ _ _ _ => trivial
  exact withFeedback_safe stable_true trivial fun _ _ => logoutWork_safe

/-- A reply for a caller who is entitled to the epoch of the call. -/
def Delivered (generation : Nat) : Except ClientError SessionReply → SessionClient → Prop
  | .ok reply, client =>
      Entitled generation generation client ∧ Fresh generation (.ok reply) client
  | .error _, _ => True

theorem stable_delivered (generation : Nat) (result : Except ClientError SessionReply) :
    sessionSetting.Stable (Delivered generation result) := by
  cases result with
  | error error => exact stable_true
  | ok reply => exact (stable_entitled generation generation).and (stable_fresh generation _)

theorem sendOnce_secures {path : String} {options : JsonRequestOptions}
    (h : Entitled generation generation client) :
    (sendOnce path options generation).Secures sessionSetting (Delivered generation) client := by
  refine Secures.seq (stable_entitled generation generation) h
    (Secures.read_bind (requestJson_secures h.le)) (fun reply answered hanswered hreply => ?_)
    fun _ _ _ _ => trivial
  apply checkEpoch_bind_secures
  · intro hepoch
    have hkeeps := SessionKeeps.delivered answered generation
      fun hinvariant => hepoch ▸ hinvariant.not_logoutSince
    apply Secures.modify_bind hkeeps
    exact stable_delivered generation (.ok reply) answered _ hkeeps ⟨hanswered, hreply⟩
  · intro _
    trivial

theorem sendAgain_secures {path : String} {options : JsonRequestOptions}
    (h : Entitled generation generation client) :
    (sendAgain path options generation).Secures sessionSetting (Delivered generation) client := by
  refine Secures.handle stable_true trivial (sendOnce_secures h) (fun _ _ _ hreply => hreply)
    fun retryError failed _ _ => ?_
  apply Secures.read_bind
  exact Secures.seq stable_true trivial
    (Secures.onlyIf (fun _ => awaited_safe clearIdentity_safe) fun _ => trivial)
    (fun _ _ _ _ => trivial) fun _ _ _ _ => trivial

/-- The refresh of a rejected request starts in the epoch of the request. -/
theorem recoverRequest_secures {wire : WireFormat} {path : String}
    {options : JsonRequestOptions} {version : Nat} {error : ClientError}
    (h : Entitled generation generation client) :
    (recoverRequest wire path options generation version error).Secures sessionSetting
      (Delivered generation) client := by
  have hstable := stable_entitled generation generation
  have hchecked : ∀ {retry : SessionProgram SessionReply} {after : SessionClient},
      Entitled generation generation after →
      (∀ client, Entitled generation generation client →
        retry.Secures sessionSetting (Delivered generation) client) →
      (checkEpoch generation >>= fun _ => retry).Secures sessionSetting
        (Delivered generation) after :=
    fun hafter hretry => checkEpoch_bind_secures (fun _ => hretry _ hafter) fun _ => trivial
  apply checkEpoch_bind_secures
  · intro hepoch
    split
    · refine Secures.seq hstable h (enqueue_secures stable_true trivial fun _ _ => fetchCsrf_safe)
        (fun _ recovered hrecovered _ => ?_) fun _ _ _ _ => trivial
      exact hchecked hrecovered fun _ => sendOnce_secures
    · apply Secures.bind
      apply Secures.onlyIf
      · intro _
        trivial
      · intro _
        apply Secures.read_bind
        refine Secures.seq hstable h (Secures.onlyIf (fun _ => awaited_safe
          (refresh_safe h.invariant fun _ => h.latest hepoch)) fun _ => trivial)
          (fun _ refreshed hrefreshed _ => ?_) fun _ _ _ _ => trivial
        exact hchecked hrefreshed fun _ => sendAgain_secures
  · intro _
    trivial

theorem authenticatedJson_secures {wire : WireFormat} {path : String}
    {options : JsonRequestOptions} (h : SessionInvariant client) :
    (authenticatedJson wire path options).Secures sessionSetting (Delivered client.epoch)
      client := by
  apply Secures.read_bind
  refine Secures.seq stable_invariant h Safe.await
    (fun _ waited hwaited _ => ?_) fun _ _ _ hnever => ?_
  · apply checkEpoch_bind_secures
    · intro hepoch
      apply Secures.read_bind
      apply Secures.bind
      apply Secures.onlyIf
      · intro _
        trivial
      · intro hstore
        have hlatest : (identityCalls waited.history).getLast? ≠ some .logout := by
          cases hwhich : waited.store with
          | authenticated user => exact (hwaited.store user hwhich).1
          | _ => exact absurd (by rw [hwhich]; rfl) hstore
        have hentitled : Entitled client.epoch client.epoch waited := by
          have hcurrent := entitled_epoch hwaited hlatest
          rwa [← hepoch] at hcurrent
        have hstable := stable_entitled client.epoch client.epoch
        refine Secures.seq hstable hentitled (Secures.onlyIf (fun _ => Safe.seq stable_true trivial
          (enqueue_secures stable_true trivial fun _ _ => fetchCsrf_safe) fun _ _ _ => trivial)
          fun _ => trivial) (fun _ ready hready _ => ?_) fun _ _ _ _ => trivial
        exact Secures.handle hstable hready (sendOnce_secures hready)
          (fun _ _ _ hreply => hreply) fun _ _ hfailed _ => recoverRequest_secures hfailed
    · intro _
      trivial
  · trivial

theorem requestEmailVerification_safe {wire : WireFormat} (h : SessionInvariant client) :
    (requestEmailVerification wire).Safe sessionSetting client :=
  Safe.seq stable_true trivial (awaited_safe (authenticatedJson_secures h).safe)
    fun _ _ _ => Safe.throwIf

/-- The epochs which a confirmation may act for when it goes on. -/
def Resumed (calledIn : Nat) : Except ClientError SessionReply → SessionClient → Prop
  | .ok _, client => SessionInvariant client ∧ calledIn ≤ client.epoch ∧
      (LogoutSince client.history calledIn →
        (identityCalls client.history).getLast? = some .logout)
  | .error _, _ => True

theorem confirmationAnswer_secures {program : SessionProgram SessionReply}
    (h : SessionInvariant client) (hprogram : program.Safe sessionSetting client) :
    (confirmationAnswer client.epoch program).Secures sessionSetting (Resumed client.epoch)
      client := by
  have hcalled := stable_invariant.and (stable_le_epoch client.epoch)
  refine Secures.seq hcalled ⟨h, Nat.le_refl _⟩ (Safe.attempt hprogram)
    (fun result answered hanswered _ => ?_) fun _ _ _ _ => trivial
  cases result with
  | error error =>
      exact Secures.seq stable_true trivial settle_safe (fun _ _ _ _ => trivial)
        fun _ _ _ _ => trivial
  | ok reply =>
      apply Secures.bind
      apply Secures.await
      intro resumed _ hkeeps hready
      have hresumed := hcalled answered resumed hkeeps hanswered
      exact ⟨hresumed.1, hresumed.2, hready.2⟩

/-- A confirmation installs for the epoch which it reads, unless that is a logout's. -/
theorem confirmEmailVerification_safe {wire : WireFormat} {token : String}
    (h : SessionInvariant client) :
    (confirmEmailVerification wire token).Safe sessionSetting client := by
  apply Secures.read_bind
  refine Secures.bind ((confirmationAnswer_secures h (authenticatedJson_secures h).safe).mono
    fun result resumed hresumed => ?_)
  cases result with
  | error error => trivial
  | ok reply =>
      obtain ⟨hinvariant, hcalled, hlogout⟩ := hresumed
      apply Secures.bind
      apply Secures.onlyIf
      · intro _
        trivial
      · intro _
        apply Secures.read_bind
        refine Secures.seq (sessionSetting.stable_keeps resumed) (sessionSetting.refl resumed)
          (awaited_secures (stable_delivered resumed.epoch) (authenticatedJson_secures hinvariant))
          (fun me loaded hkeeps hme => ?_) fun _ _ _ _ => trivial
        have hnever := hme.1.latest_before hinvariant hkeeps
        have hunlogged := unlogged_epoch hinvariant hcalled fun hsince => hnever (hlogout hsince)
        have hloaded := stable_unlogged _ _ resumed loaded hkeeps hunlogged
        refine Safe.seq stable_true trivial (awaited_safe
          (installUser_safe (hme.1.of_unlogged hloaded) hme.2)) fun _ _ _ => ?_
        exact settle_safe

theorem changeEmail_safe {wire : WireFormat} {input : EmailChangeInput}
    (h : SessionInvariant client) : (changeEmail wire input).Safe sessionSetting client := by
  apply Secures.read_bind
  refine Secures.seq stable_true trivial (awaited_secures (stable_delivered client.epoch)
    (authenticatedJson_secures h)) (fun reply answered _ hreply => ?_) fun _ _ _ _ => trivial
  split
  · trivial
  · refine Safe.seq stable_true trivial (awaited_safe (installUser_safe hreply.1 hreply.2))
      fun _ _ _ => ?_
    exact Safe.seq stable_true trivial settle_safe fun _ _ _ => trivial

theorem ignored_safe {program : SessionProgram α} (h : program.Safe sessionSetting client) :
    (ignored program).Safe sessionSetting client :=
  Safe.seq stable_true trivial h fun _ _ _ => trivial

end SessionClient

/-- Each public function is safe from a safe client. -/
theorem program_safe {wire : WireFormat} {call : ClientCall} {client : SessionClient}
    (h : SessionInvariant client) (hcall : call.Undisturbed client) :
    (call.program wire).Safe sessionSetting client := by
  cases call with
  | bootstrap => exact SessionClient.bootstrap_safe h
  | refresh => exact SessionClient.refresh_safe h hcall
  | login => exact SessionClient.ignored_safe (SessionClient.login_safe h)
  | register => exact SessionClient.register_safe
  | logout => exact SessionClient.logout_safe h
  | authenticatedJson =>
      exact SessionClient.ignored_safe (SessionClient.authenticatedJson_secures h).safe
  | requestEmailVerification => exact SessionClient.requestEmailVerification_safe h
  | confirmEmailVerification => exact SessionClient.confirmEmailVerification_safe h
  | changeEmail => exact SessionClient.ignored_safe (SessionClient.changeEmail_safe h)

theorem SessionInvariant.fresh : SessionInvariant {} := by
  constructor
  · constructor
    · intro user huser
      cases huser
    · intro earlier event later h
      simp at h
  · rfl

abbrev SessionPool : Type :=
  Pool SessionClient SessionSignal.Answer ClientError Unit

/-- The pools of calls which a new client reaches. -/
def SessionReached (wire : WireFormat)
    (allowed : SessionPool → Pool.Label ClientCall SessionSignal → Prop)
    (pool : SessionPool) : Prop :=
  Reaches (fun pool => pool = ⟨{}, fun _ => none⟩)
    (Pool.Step (ClientCall.program wire) SessionSignal.ready) allowed pool

theorem SessionReached.exists_of_moves (wire : WireFormat)
    (allowed : SessionPool → Pool.Label ClientCall SessionSignal → Prop)
    [∀ pool label, Decidable (allowed pool label)]
    (list : List (Pool.Move ClientCall SessionSignal.Answer)) (property : SessionPool → Bool)
    (h : (Pool.moves (ClientCall.program wire) SessionSignal.ready allowed
      (⟨{}, fun _ => none⟩ : SessionPool) list).any property = true) :
    ∃ pool, SessionReached wire allowed pool ∧ property pool = true := by
  have hstart : SessionReached wire allowed ⟨{}, fun _ => none⟩ := Reaches.start rfl
  exact Pool.exists_of_moves hstart list property h

/-- While no refresh of its own starts after a logout, and no confirmation goes on for the
epoch of a newer identity after a logout, the client is safe under every interleaving. -/
theorem session_client_safe (wire : WireFormat) (pool : SessionPool)
    (hreached : SessionReached wire
      (Pool.Allowed ClientCall.Undisturbed SessionSignal.Undisturbed) pool) :
    SessionSafe pool.state := by
  have hkeeping : pool.Keeping sessionSetting {} := Pool.keeping_of_reaches sessionSetting
    (fun _ _ _ hready hundisturbed => ⟨hready, hundisturbed⟩)
    (fun _ _ hkeeps hcall => program_safe (hkeeps.invariant SessionInvariant.fresh) hcall)
    hreached
  exact (hkeeping.state.invariant SessionInvariant.fresh).toSessionSafe

section Runs

/-- Checks which accept every text. -/
def lenientWire : WireFormat where
  isUuid _ := true
  isoFormat _ := ""
  isDateTime _ := true
  dateParse _ := none

def sampleUser : SessionUser :=
  ⟨"fixture-user", "user@example.com", .user, false, none⟩

def sampleSession : Payload :=
  .object [("csrf_token", .string "session-fixture"), ("user", sampleUser.toPayload)]

def sampleConfirmation : Payload :=
  .object [("status", .string "email_verified"), ("redirect_to", .string "/user")]

/-- One reply for every request. -/
def replying (reply : Except ApiError Payload) : (signal : SessionSignal) → signal.Answer
  | .resolved | .turn _ | .confirmed _ => ()
  | .reply _ => reply
  | .flight _ => .ok ()

/-- A call goes on over some waits with the same reply. -/
def resumes (count thread : Nat) (reply : Except ApiError Payload) :
    List (Pool.Move ClientCall SessionSignal.Answer) :=
  List.replicate count (.resume thread (replying reply))

def bootstrapMoves : List (Pool.Move ClientCall SessionSignal.Answer) :=
  .call 0 .bootstrap :: resumes 4 0 (.ok sampleSession) ++ resumes 7 0 (.ok sampleUser.toPayload)

theorem bootstrapped_client_safe :
    ∃ pool, SessionReached lenientWire
        (Pool.Allowed ClientCall.Undisturbed SessionSignal.Undisturbed) pool ∧
      pool.state.store = .authenticated sampleUser ∧ SessionSafe pool.state := by
  obtain ⟨pool, hreached, hstore⟩ := SessionReached.exists_of_moves lenientWire
    (Pool.Allowed ClientCall.Undisturbed SessionSignal.Undisturbed) bootstrapMoves
    (fun pool => decide (pool.state.store = .authenticated sampleUser)) (by decide +kernel)
  exact ⟨pool, hreached, of_decide_eq_true hstore,
    session_client_safe lenientWire pool hreached⟩

/-- The server refuses the logout, and a refresh after it installs the user again. -/
def failedLogoutMoves : List (Pool.Move ClientCall SessionSignal.Answer) :=
  .call 0 .logout :: resumes 4 0 (.ok sampleSession) ++
    resumes 7 0 (.error ⟨500, .server⟩) ++
    .call 1 .refresh :: resumes 5 1 (.ok sampleSession)

theorem refresh_after_failed_logout :
    ¬∀ wire pool, SessionReached wire (fun _ _ => True) pool → SessionSafe pool.state := by
  intro hsafe
  obtain ⟨pool, hreached, hstore⟩ := SessionReached.exists_of_moves lenientWire
    (fun _ _ => True) failedLogoutMoves
    (fun pool => decide (pool.state.store = .authenticated sampleUser) &&
      decide ((identityCalls pool.state.history).getLast? = some .logout)) (by decide +kernel)
  rw [Bool.and_eq_true, decide_eq_true_eq, decide_eq_true_eq] at hstore
  exact ((hsafe lenientWire pool hreached).store sampleUser hstore.1).1 hstore.2

/-- A logout and a login overtake a confirmation, which installs a user for the new epoch. -/
def overtakenConfirmationMoves : List (Pool.Move ClientCall SessionSignal.Answer) :=
  bootstrapMoves ++
    .call 1 (.confirmEmailVerification "opaque-fixture-token") ::
      resumes 2 1 (.ok sampleConfirmation) ++
    .call 2 .logout :: .call 3 (.login ⟨"user@example.com", "fixture password"⟩ false) ::
      resumes 1 1 (.ok sampleConfirmation) ++ resumes 1 2 (.ok .undefined) ++
    resumes 4 3 (.error ⟨401, .unauthorized⟩) ++ resumes 6 3 (.ok sampleSession) ++
    resumes 3 1 (.ok sampleUser.toPayload)

/-- The second condition is needed as well: no refresh is called here. -/
theorem confirmation_outlives_logout :
    ∃ pool, SessionReached lenientWire (fun _ _ => True) pool ∧
      ∃ earlier, pool.state.history = earlier ++ [.installed sampleUser 1 3] ∧
        LogoutSince earlier 1 := by
  obtain ⟨pool, hreached, hhistory⟩ := SessionReached.exists_of_moves lenientWire
    (fun _ _ => True) overtakenConfirmationMoves (fun pool =>
      decide (pool.state.history =
        pool.state.history.dropLast ++ [.installed sampleUser 1 3]) &&
      decide (LogoutSince pool.state.history.dropLast 1)) (by decide +kernel)
  rw [Bool.and_eq_true, decide_eq_true_eq, decide_eq_true_eq] at hhistory
  exact ⟨pool, hreached, _, hhistory.1, hhistory.2⟩

end Runs

end BuddyWeb
