/-
What every run of the admission keeps: the counts of both windows, the table of clients, and
the slots of the leases.
-/
import BuddyWeb.Chatbot.Admission

namespace BuddyWeb

section Leases

namespace Lease

/-- A lease is released once, by its request when no worker was submitted and otherwise by the
end of the worker. -/
structure Settled (lease : Lease) : Prop where
  transferred : lease.transferred = true ↔ lease.worker ≠ .none
  released : lease.released = true ↔ lease.returned = 1
  returned : lease.returned =
    if lease.worker = .ended ∨ lease.worker = .none ∧ lease.requestEnded = true then 1 else 0

def held (lease : Lease) : Nat :=
  if lease.released then 0 else 1

variable {lease : Lease}

theorem held_release : lease.release.held + lease.slotsReleased = lease.held := by
  cases hreleased : lease.released with
  | false => simp [release, held, slotsReleased, hreleased]
  | true => simp [release, held, slotsReleased, hreleased]

theorem held_workerDone : lease.workerDone.held + lease.slotsReleased = lease.held := by
  have h := @held_release { lease with worker := .ended }
  exact h

theorem held_requestDone : lease.requestDone.held + lease.slotsRequestDone = lease.held := by
  cases htransferred : lease.transferred with
  | false =>
    have h := @held_release { lease with requestEnded := true }
    unfold requestDone slotsRequestDone
    rw [if_neg (by simp [htransferred]), if_neg (by simp [htransferred])]
    exact h
  | true => simp [requestDone, slotsRequestDone, htransferred, held]

theorem held_cancelled : lease.cancelled.held + lease.slotsCancelled = lease.held := by
  by_cases hqueued : lease.worker = .queued
  · rw [cancelled, slotsCancelled, if_pos hqueued, if_pos hqueued]
    exact held_workerDone
  · rw [cancelled, slotsCancelled, if_neg hqueued, if_neg hqueued]
    rfl

/-- A lease which was not given back is not released. -/
theorem Settled.released_eq (h : lease.Settled) :
    lease.released =
      decide (lease.worker = .ended ∨ lease.worker = .none ∧ lease.requestEnded = true) := by
  rw [Bool.eq_iff_iff, h.released, h.returned, decide_eq_true_iff]
  split
  · rename_i hended
    exact ⟨fun _ => hended, fun _ => rfl⟩
  · rename_i hactive
    exact ⟨fun h => absurd h (by decide), fun h => absurd h hactive⟩

theorem settled_new : ({} : Lease).Settled := by
  constructor <;> simp

theorem Settled.submitted (h : lease.Settled) (hrequest : lease.requestEnded = false)
    (hworker : lease.worker = .none) : lease.submitted.Settled := by
  have hreturned : lease.returned = 0 := by
    rw [h.returned, hworker, hrequest]
    rfl
  constructor
  · simp [Lease.submitted]
  · exact h.released
  · simp [Lease.submitted, hreturned]

theorem Settled.started (h : lease.Settled) (hworker : lease.worker = .queued) :
    ({ lease with worker := .running } : Lease).Settled := by
  have hreturned : lease.returned = 0 := by
    rw [h.returned, hworker]
    rfl
  constructor
  · have htransferred : lease.transferred = true := h.transferred.mpr (by simp [hworker])
    simp [htransferred]
  · exact h.released
  · simp [hreturned]

/-- The worker ends, or it is cancelled before it starts. -/
theorem Settled.workerDone (h : lease.Settled)
    (hworker : lease.worker = .queued ∨ lease.worker = .running) :
    lease.workerDone.Settled := by
  have hactive : ¬ (lease.worker = .ended ∨ lease.worker = .none ∧ lease.requestEnded = true) := by
    rcases hworker with hworker | hworker <;> simp [hworker]
  have hreleased : lease.released = false := by
    rw [h.released_eq]
    exact decide_eq_false hactive
  have hreturned : lease.returned = 0 := by
    rw [h.returned, if_neg hactive]
  have htransferred : lease.transferred = true := by
    apply h.transferred.mpr
    rcases hworker with hworker | hworker <;> simp [hworker]
  constructor <;> simp [Lease.workerDone, release, hreleased, hreturned, htransferred]

theorem Settled.requestDone (h : lease.Settled) (hrequest : lease.requestEnded = false) :
    lease.requestDone.Settled := by
  by_cases hworker : lease.worker = .none
  · have hreleased : lease.released = false := by
      rw [h.released_eq, hworker, hrequest]
      rfl
    have hreturned : lease.returned = 0 := by
      rw [h.returned, hworker, hrequest]
      rfl
    have htransferred : lease.transferred = false := by
      rw [Bool.eq_false_iff]
      intro htrue
      exact h.transferred.mp htrue hworker
    constructor <;>
      simp [Lease.requestDone, release, hreleased, hreturned, htransferred, hworker]
  · have htransferred : lease.transferred = true := h.transferred.mpr hworker
    constructor
    · simp [Lease.requestDone, htransferred, hworker]
    · simpa [Lease.requestDone, htransferred] using h.released
    · simpa [Lease.requestDone, htransferred, hworker] using h.returned

theorem Settled.cancelled (h : lease.Settled) : lease.cancelled.Settled := by
  by_cases hqueued : lease.worker = .queued
  · rw [Lease.cancelled, if_pos hqueued]
    exact h.workerDone (Or.inl hqueued)
  · rw [Lease.cancelled, if_neg hqueued]
    exact h

end Lease

/-- The leases whose slot was not given back. -/
def outstanding (leases : List Lease) : Nat :=
  (leases.map Lease.held).sum

theorem outstanding_set {leases : List Lease} {position : Nat} {lease after : Lease}
    (hlease : leases[position]? = some lease) :
    outstanding (leases.set position after) + lease.held = outstanding leases + after.held := by
  induction leases generalizing position with
  | nil => simp at hlease
  | cons head tail ih =>
    cases position with
    | zero =>
      have hhead : head = lease := by simpa using hlease
      simp only [outstanding, List.set_cons_zero, List.map_cons, List.sum_cons, hhead]
      omega
    | succ position =>
      have htail := ih (by simpa using hlease)
      simp only [outstanding] at htail
      simp only [outstanding, List.set_cons_succ, List.map_cons, List.sum_cons]
      omega

theorem outstanding_cancelled (leases : List Lease) :
    outstanding (leases.map Lease.cancelled) + (leases.map Lease.slotsCancelled).sum =
      outstanding leases := by
  induction leases with
  | nil => rfl
  | cons head tail ih =>
    have hhead := @Lease.held_cancelled head
    simp only [outstanding] at ih
    simp only [outstanding, List.map_cons, List.sum_cons]
    omega

end Leases

namespace ChatbotRuntime

variable {runtime : ChatbotRuntime} {now : Nat}

@[simp]
theorem withGlobalWindow_settings :
    (runtime.withGlobalWindow now).settings = runtime.settings := by
  unfold withGlobalWindow
  split <;> rfl

@[simp]
theorem withGlobalWindow_digest : (runtime.withGlobalWindow now).digest = runtime.digest := by
  unfold withGlobalWindow
  split <;> rfl

@[simp]
theorem withGlobalWindow_clients :
    (runtime.withGlobalWindow now).clients = runtime.clients := by
  unfold withGlobalWindow
  split <;> rfl

theorem lt_globalEnd_withGlobalWindow : now < (runtime.withGlobalWindow now).globalEnd := by
  unfold withGlobalWindow
  split
  · have hwindow := runtime.settings.window_pos
    change now < now + runtime.settings.window
    omega
  · omega

theorem mem_withoutExpired {bucket : ClientBucket} :
    bucket ∈ (runtime.withoutExpired now).clients.rows ↔
      bucket ∈ runtime.clients.rows ∧ now < bucket.expiry := by
  simp [withoutExpired]

theorem length_withoutExpired_le :
    (runtime.withoutExpired now).clients.rows.length ≤ runtime.clients.rows.length :=
  List.length_filter_le _ _

/-- The dictionary after an assignment. -/
theorem mem_withBucket {bucket other : ClientBucket} :
    other ∈ (runtime.withBucket bucket).clients.rows ↔
      other = bucket ∨ (other ∈ runtime.clients.rows ∧ other.key ≠ bucket.key) := by
  cases hget : runtime.clients.get? bucket.key with
  | none =>
    obtain ⟨after, hafter, _⟩ := Table.exists_insert? bucket hget
    obtain ⟨hfresh, hrows⟩ := Table.insert?_eq_some_iff.mp hafter
    simp only [withBucket, hafter, Option.getD_some, hrows, List.mem_cons]
    constructor
    · rintro (hnew | hold)
      · exact Or.inl hnew
      · exact Or.inr ⟨hold, hfresh other hold⟩
    · rintro (hnew | ⟨hold, _⟩)
      · exact Or.inl hnew
      · exact Or.inr hold
  | some old =>
    have hinsert : runtime.clients.insert? bucket = none := by
      rw [Option.eq_none_iff_forall_ne_some]
      intro after hafter
      exact (Table.insert?_eq_some_iff.mp hafter).1 old (Table.get?_mem hget)
        (Table.get?_key hget)
    simp only [withBucket, hinsert, Option.getD_none, Table.mem_put_iff]
    constructor
    · rintro (⟨hnew, _⟩ | hold)
      · exact Or.inl hnew
      · exact Or.inr hold
    · rintro (hnew | hold)
      · exact Or.inl ⟨hnew, old, Table.get?_mem hget, Table.get?_key hget⟩
      · exact Or.inr hold

/-- Only a new key makes the dictionary longer. -/
theorem length_withBucket {bucket : ClientBucket} :
    (runtime.withBucket bucket).clients.rows.length =
      runtime.clients.rows.length +
        if runtime.clients.get? bucket.key = none then 1 else 0 := by
  cases hget : runtime.clients.get? bucket.key with
  | none =>
    obtain ⟨after, hafter, _⟩ := Table.exists_insert? bucket hget
    have hrows := (Table.insert?_eq_some_iff.mp hafter).2
    simp [withBucket, hafter, hrows]
  | some old =>
    have hinsert : runtime.clients.insert? bucket = none := by
      rw [Option.eq_none_iff_forall_ne_some]
      intro after hafter
      exact (Table.insert?_eq_some_iff.mp hafter).1 old (Table.get?_mem hget)
        (Table.get?_key hget)
    simp [withBucket, hinsert, Table.put]

/-- A call is rejected, and at most the expired windows are gone, or its bucket counts it. -/
theorem countCall_cases (runtime : ChatbotRuntime) (now : Nat) (identifier : String) :
    (∃ failure,
      runtime.countCall now identifier = (.error failure, runtime.withGlobalWindow now) ∨
        runtime.countCall now identifier =
          (.error failure, (runtime.withGlobalWindow now).withoutExpired now)) ∨
    ∃ live bucket, live = (runtime.withGlobalWindow now).withoutExpired now ∧
      bucket = live.bucketFor now (runtime.digest identifier) ∧
      runtime.countCall now identifier = (.ok bucket, live.counting bucket) ∧
      live.globalCount < live.settings.globalRequests ∧
      bucket.count < live.settings.clientRequests ∧
      (live.clients.get? (runtime.digest identifier) = none →
        live.clients.rows.length < live.settings.maxClients) := by
  unfold countCall
  dsimp only
  split
  · exact Or.inl ⟨_, Or.inl rfl⟩
  · rename_i hglobal
    split
    · exact Or.inl ⟨_, Or.inr rfl⟩
    · rename_i hclient
      split
      · exact Or.inl ⟨_, Or.inr rfl⟩
      · rename_i hroom
        refine Or.inr ⟨_, _, rfl, rfl, rfl, Nat.lt_of_not_le hglobal,
          Nat.lt_of_not_le hclient, ?_⟩
        intro hnone
        by_contra hfull
        exact hroom ⟨hnone, Nat.le_of_not_lt hfull⟩

end ChatbotRuntime

namespace AdmissionWorld

/-- The counted calls of one key of the table. -/
def callsOf (world : AdmissionWorld) (key : Nat) : List CountedCall :=
  world.counted.filter (world.keyOf · == key)

/-- What every step keeps. -/
structure Governed (world : AdmissionWorld) : Prop where
  started : world.runtime.globalStarted ≤ world.now
  global : CountsWindow CountedCall.time CountedCall.globalEnd world.settings.window
    world.settings.globalRequests world.counted world.runtime.globalEnd
    world.runtime.globalCount
  logs : ∀ key, WindowLog CountedCall.time CountedCall.expiry world.settings.window
    world.settings.clientRequests (world.callsOf key)
  buckets : ∀ bucket ∈ world.runtime.clients.rows,
    bucket.expiry ≤ world.now + world.settings.window ∧
      CountsWindow CountedCall.time CountedCall.expiry world.settings.window
        world.settings.clientRequests (world.callsOf bucket.key) bucket.expiry bucket.count
  tabled : world.closed = false → ∀ call ∈ world.counted, world.now < call.expiry →
    ∃ bucket ∈ world.runtime.clients.rows, bucket.key = world.keyOf call
  clients : world.runtime.clients.rows.length ≤ world.settings.maxClients
  slots : world.slots + outstanding world.leases = world.settings.concurrency
  leases : ∀ lease ∈ world.leases, lease.Settled

theorem governed_start (settings : ChatbotSettings) (digest : String → Nat) (created : Nat) :
    (start settings digest created).Governed := by
  constructor
  · exact Nat.le_refl _
  · exact WindowLog.nil.open_window settings.window_pos (by simp)
  · intro key
    exact WindowLog.nil
  · intro bucket hbucket
    cases hbucket
  · intro _ call hcall
    cases hcall
  · exact Nat.zero_le _
  · rfl
  · intro lease hlease
    cases hlease

section Counting

variable {world : AdmissionWorld}

/-- The clock goes on, and an ended global window is replaced. -/
theorem Governed.withGlobalWindow (h : world.Governed) {now : Nat} (hnow : world.now ≤ now) :
    ({ world with runtime := world.runtime.withGlobalWindow now, now := now } :
      AdmissionWorld).Governed := by
  constructor
  · have hstarted := h.started
    simp only [ChatbotRuntime.withGlobalWindow]
    split
    · exact Nat.le_refl _
    · exact Nat.le_trans hstarted hnow
  · by_cases hended : world.runtime.globalEnd ≤ now
    · have hreset := h.global.reopen world.settings.window_pos hended
      simp only [settings, ChatbotRuntime.withGlobalWindow, if_pos hended]
      exact hreset
    · simp only [settings, ChatbotRuntime.withGlobalWindow, if_neg hended]
      exact h.global
  · intro key
    simpa [settings, callsOf, keyOf] using h.logs key
  · intro bucket hbucket
    rw [ChatbotRuntime.withGlobalWindow_clients] at hbucket
    have hold := h.buckets bucket hbucket
    refine ⟨?_, ?_⟩
    · simp only [settings, ChatbotRuntime.withGlobalWindow_settings]
      exact Nat.le_trans hold.1 (Nat.add_le_add_right hnow _)
    · simpa [settings, callsOf, keyOf] using hold.2
  · intro hopen call hcall hlive
    simpa [keyOf] using h.tabled hopen call hcall (Nat.lt_of_le_of_lt hnow hlive)
  · simpa [settings] using h.clients
  · simpa [settings] using h.slots
  · exact h.leases

theorem Governed.withoutExpired (h : world.Governed) :
    ({ world with runtime := world.runtime.withoutExpired world.now } :
      AdmissionWorld).Governed := by
  constructor
  · exact h.started
  · exact h.global
  · exact h.logs
  · intro bucket hbucket
    exact h.buckets bucket (ChatbotRuntime.mem_withoutExpired.mp hbucket).1
  · intro hopen call hcall hlive
    obtain ⟨bucket, hbucket, hkey⟩ := h.tabled hopen call hcall hlive
    refine ⟨bucket, ChatbotRuntime.mem_withoutExpired.mpr ⟨hbucket, ?_⟩, hkey⟩
    -- the call is counted in the bucket's window or in one that ended before it
    have hmem : call ∈ world.callsOf bucket.key :=
      List.mem_filter.mpr ⟨hcall, beq_iff_eq.mpr hkey.symm⟩
    rcases (h.buckets bucket hbucket).2.last call hmem with hsame | hbefore
    · exact hsame ▸ hlive
    · exact Nat.lt_of_lt_of_le hlive (Nat.le_trans (Nat.le_add_right _ _) hbefore)
  · exact Nat.le_trans ChatbotRuntime.length_withoutExpired_le h.clients
  · exact h.slots
  · exact h.leases

/-- The bucket of a client when all buckets of the table are live. -/
theorem Governed.bucketFor (h : world.Governed)
    (hlive : ∀ bucket ∈ world.runtime.clients.rows, world.now < bucket.expiry)
    (hopen : world.closed = false) (key : Nat) :
    let bucket := world.runtime.bucketFor world.now key
    bucket.key = key ∧ world.now < bucket.expiry ∧
      bucket.expiry ≤ world.now + world.settings.window ∧
      CountsWindow CountedCall.time CountedCall.expiry world.settings.window
        world.settings.clientRequests (world.callsOf key) bucket.expiry bucket.count := by
  cases hget : world.runtime.clients.get? key with
  | some bucket =>
    have hmem := Table.get?_mem hget
    have hkey : bucket.key = key := Table.get?_key hget
    simp only [ChatbotRuntime.bucketFor, hget, Option.getD_some]
    refine ⟨hkey, hlive bucket hmem, (h.buckets bucket hmem).1, ?_⟩
    rw [← hkey]
    exact (h.buckets bucket hmem).2
  | none =>
    have hwindow := world.settings.window_pos
    simp only [ChatbotRuntime.bucketFor, hget, Option.getD_none]
    refine ⟨trivial, Nat.lt_add_of_pos_right hwindow, Nat.le_refl _, ?_⟩
    apply (h.logs key).open_window hwindow
    intro call hcall
    obtain ⟨hcounted, hkey⟩ := List.mem_filter.mp hcall
    by_contra hafter
    obtain ⟨bucket, hbucket, hsame⟩ :=
      h.tabled hopen call hcounted (Nat.lt_of_not_le hafter)
    exact List.find?_eq_none.mp hget bucket hbucket
      (beq_iff_eq.mpr (hsame.trans (beq_iff_eq.mp hkey)))

/-- The call is counted in its bucket and in the global window. -/
def withCall (world : AdmissionWorld) (identifier : String) (bucket : ClientBucket) :
    AdmissionWorld :=
  { world with
    runtime := world.runtime.counting bucket
    entering := world.entering + 1
    counted := ⟨identifier, world.now, bucket.expiry, world.runtime.globalEnd⟩ :: world.counted }

theorem callsOf_withCall {identifier : String} {bucket : ClientBucket} {key : Nat} :
    (world.withCall identifier bucket).callsOf key =
      if world.runtime.digest identifier = key then
        ⟨identifier, world.now, bucket.expiry, world.runtime.globalEnd⟩ :: world.callsOf key
      else world.callsOf key := by
  change List.filter (fun call => world.runtime.digest call.identifier == key)
    (_ :: world.counted) = _
  rw [List.filter_cons]
  by_cases hkey : world.runtime.digest identifier = key
  · rw [if_pos hkey, if_pos (beq_iff_eq.mpr hkey)]
    rfl
  · rw [if_neg hkey, if_neg (fun heq => hkey (beq_iff_eq.mp heq))]
    rfl

theorem Governed.withCall (h : world.Governed)
    (hlive : ∀ bucket ∈ world.runtime.clients.rows, world.now < bucket.expiry)
    (hopen : world.closed = false) (hwindow : world.now < world.runtime.globalEnd)
    (hglobal : world.runtime.globalCount < world.settings.globalRequests)
    {identifier : String} {bucket : ClientBucket}
    (hbucket : bucket = world.runtime.bucketFor world.now (world.runtime.digest identifier))
    (hclient : bucket.count < world.settings.clientRequests)
    (hroom : world.runtime.clients.get? (world.runtime.digest identifier) = none →
      world.runtime.clients.rows.length < world.settings.maxClients) :
    (world.withCall identifier bucket).Governed := by
  obtain ⟨hkey, hbefore, hafter, hcounts⟩ :=
    h.bucketFor hlive hopen (world.runtime.digest identifier)
  rw [← hbucket] at hkey hbefore hafter hcounts
  have hadded : CountsWindow CountedCall.time CountedCall.expiry world.settings.window
      world.settings.clientRequests
      (⟨identifier, world.now, bucket.expiry, world.runtime.globalEnd⟩ ::
        world.callsOf (world.runtime.digest identifier)) bucket.expiry (bucket.count + 1) :=
    hcounts.add rfl hbefore hafter hclient
  constructor
  · exact h.started
  · exact h.global.add rfl hwindow (Nat.add_le_add_right h.started _) hglobal
  · intro key
    rw [callsOf_withCall]
    split
    · rename_i hsame
      rw [← hsame]
      exact hadded.log
    · exact h.logs key
  · intro other hother
    rw [callsOf_withCall]
    rcases ChatbotRuntime.mem_withBucket.mp hother with rfl | ⟨hold, hne⟩
    · refine ⟨hafter, ?_⟩
      dsimp only
      rw [if_pos hkey.symm, hkey]
      exact hadded
    · refine ⟨(h.buckets other hold).1, ?_⟩
      rw [if_neg fun hsame => hne (hsame.symm.trans hkey.symm)]
      exact (h.buckets other hold).2
  · intro _ call hcall hcallLive
    rcases List.mem_cons.mp hcall with rfl | hold
    · exact ⟨_, ChatbotRuntime.mem_withBucket.mpr (Or.inl rfl), hkey⟩
    · obtain ⟨other, hother, hsame⟩ := h.tabled hopen call hold hcallLive
      by_cases hown : other.key = bucket.key
      · exact ⟨_, ChatbotRuntime.mem_withBucket.mpr (Or.inl rfl), hown.symm.trans hsame⟩
      · exact ⟨other, ChatbotRuntime.mem_withBucket.mpr (Or.inr ⟨hother, hown⟩), hsame⟩
  · change (world.runtime.withBucket _).clients.rows.length ≤ world.settings.maxClients
    rw [ChatbotRuntime.length_withBucket]
    have hlength := h.clients
    split
    · rename_i hnone
      rw [hkey] at hnone
      have := hroom hnone
      omega
    · omega
  · exact h.slots
  · exact h.leases

theorem Governed.admitCall (h : world.Governed) {now : Nat} (hnow : world.now ≤ now)
    (hopen : world.closed = false) (identifier : String) :
    (world.admitCall identifier now).Governed := by
  have hcurrent := h.withGlobalWindow hnow
  have hpurged := hcurrent.withoutExpired
  rcases world.runtime.countCall_cases now identifier with
    ⟨failure, hcall | hcall⟩ | ⟨live, bucket, rfl, hbucket, hcall, hglobal, hclient, hroom⟩
  · simp only [AdmissionWorld.admitCall, hcall]
    exact hcurrent
  · simp only [AdmissionWorld.admitCall, hcall]
    exact hpurged
  · simp only [AdmissionWorld.admitCall, hcall]
    refine hpurged.withCall (fun other hother => (ChatbotRuntime.mem_withoutExpired.mp hother).2)
      hopen ChatbotRuntime.lt_globalEnd_withGlobalWindow hglobal ?_ hclient ?_
    · rw [hbucket]
      simp [ChatbotRuntime.withoutExpired]
    · simpa [ChatbotRuntime.withoutExpired, settings] using hroom

end Counting

section Slots

variable {world : AdmissionWorld}

theorem Governed.acquire (h : world.Governed) : world.acquire.Governed := by
  by_cases hslots : world.slots = 0
  · rw [AdmissionWorld.acquire, if_pos hslots]
    exact { h with }
  · rw [AdmissionWorld.acquire, if_neg hslots]
    refine { h with slots := ?_, leases := ?_ }
    · have hsum := h.slots
      simp only [outstanding, List.map_append, List.sum_append] at hsum ⊢
      change world.slots - 1 + (_ + 1) = _
      change _ = world.settings.concurrency
      omega
    · intro lease hlease
      rcases List.mem_append.mp hlease with hold | hnew
      · exact h.leases lease hold
      · rw [List.mem_singleton.mp hnew]
        exact Lease.settled_new

/-- One lease changes, and what it no longer holds is given back. -/
theorem Governed.withLease (h : world.Governed) {position returned : Nat} {lease after : Lease}
    (hlease : world.leases[position]? = some lease)
    (hheld : after.held + returned = lease.held) (hafter : after.Settled) :
    (world.withLease position after returned).Governed := by
  refine { h with slots := ?_, leases := ?_ }
  · have hset := @outstanding_set world.leases position lease after hlease
    have hsum := h.slots
    change world.slots + returned + outstanding (world.leases.set position after) =
      world.settings.concurrency
    omega
  · intro other hother
    rcases List.mem_or_eq_of_mem_set hother with hold | hnew
    · exact h.leases other hold
    · rw [hnew]
      exact hafter

theorem Governed.close (h : world.Governed) : world.close.Governed := by
  constructor
  · exact h.started
  · exact h.global
  · exact h.logs
  · intro bucket hbucket
    cases hbucket
  · intro hopen
    cases hopen
  · exact Nat.zero_le _
  · have hsum := h.slots
    have hcancelled := outstanding_cancelled world.leases
    change world.slots + (world.leases.map Lease.slotsCancelled).sum +
      outstanding (world.leases.map Lease.cancelled) = world.settings.concurrency
    omega
  · intro lease hlease
    obtain ⟨old, hold, rfl⟩ := List.mem_map.mp hlease
    exact (h.leases old hold).cancelled

end Slots

section Runs

variable {world after : AdmissionWorld}

/-- The change a step makes to one lease: it releases what the lease no longer holds. -/
theorem leaseStep_cases {label : AdmissionLabel} (hstep : world.Step label after) :
    (∃ identifier now, label = .admitCall identifier now ∧ world.closed = false ∧
      after = world.admitCall identifier now) ∨
    (label = .acquire ∧ after = world.acquire) ∨
    (label = .close ∧ after = world.close) ∨
    ∃ position lease changed returned, world.leases[position]? = some lease ∧
      (lease.Settled → changed.Settled) ∧ changed.held + returned = lease.held ∧
      after = world.withLease position changed returned := by
  simp only [Step] at hstep
  cases label with
  | admitCall identifier now =>
    simp only [step?] at hstep
    split at hstep
    · cases hstep
    · rename_i hopen
      exact Or.inl ⟨identifier, now, rfl, by simpa using hopen, (Option.some.inj hstep).symm⟩
  | acquire =>
    simp only [step?] at hstep
    split at hstep
    · cases hstep
    · exact Or.inr (Or.inl ⟨rfl, (Option.some.inj hstep).symm⟩)
  | close =>
    simp only [step?] at hstep
    split at hstep
    · cases hstep
    · exact Or.inr (Or.inr (Or.inl ⟨rfl, (Option.some.inj hstep).symm⟩))
  | submit position =>
    simp only [step?] at hstep
    split at hstep
    · rename_i lease hlease
      split at hstep
      · cases hstep
      · rename_i hready
        simp only [not_or, not_not] at hready
        refine Or.inr (Or.inr (Or.inr ⟨position, lease, _, _, hlease, fun h => ?_, ?_,
          (Option.some.inj hstep).symm⟩))
        · exact h.submitted (by simpa using hready.1) hready.2.1
        · rfl
    · cases hstep
  | workerStarts position =>
    simp only [step?] at hstep
    split at hstep
    · rename_i lease hlease
      split at hstep
      · rename_i hqueued
        refine Or.inr (Or.inr (Or.inr ⟨position, lease, _, _, hlease, fun h => ?_, ?_,
          (Option.some.inj hstep).symm⟩))
        · exact h.started hqueued
        · rfl
      · cases hstep
    · cases hstep
  | workerEnds position =>
    simp only [step?] at hstep
    split at hstep
    · rename_i lease hlease
      split at hstep
      · rename_i hrunning
        exact Or.inr (Or.inr (Or.inr ⟨position, lease, _, _, hlease,
          fun h => h.workerDone (Or.inr hrunning), Lease.held_workerDone,
          (Option.some.inj hstep).symm⟩))
      · cases hstep
    · cases hstep
  | requestEnds position =>
    simp only [step?] at hstep
    split at hstep
    · rename_i lease hlease
      split at hstep
      · cases hstep
      · rename_i hrequest
        exact Or.inr (Or.inr (Or.inr ⟨position, lease, _, _, hlease,
          fun h => h.requestDone (by simpa using hrequest), Lease.held_requestDone,
          (Option.some.inj hstep).symm⟩))
    · cases hstep

theorem Governed.step (h : world.Governed) {label : AdmissionLabel}
    (horder : world.InOrder label) (hstep : world.Step label after) : after.Governed := by
  rcases leaseStep_cases hstep with ⟨identifier, now, rfl, hopen, rfl⟩ | ⟨_, rfl⟩ | ⟨_, rfl⟩ |
    ⟨position, lease, changed, returned, hlease, hsettled, hheld, rfl⟩
  · exact h.admitCall horder hopen identifier
  · exact h.acquire
  · exact h.close
  · exact h.withLease hlease hheld (hsettled (h.leases lease (List.mem_of_getElem? hlease)))

theorem admit_settings (identifier : String) (now : Nat) :
    (world.admitCall identifier now).settings = world.settings := by
  rcases world.runtime.countCall_cases now identifier with
    ⟨failure, hcall | hcall⟩ | ⟨live, bucket, rfl, _, hcall, _⟩
  all_goals
    simp [admitCall, settings, hcall, ChatbotRuntime.withoutExpired, ChatbotRuntime.counting,
      ChatbotRuntime.withBucket]

theorem step_settings {label : AdmissionLabel} (hstep : world.Step label after) :
    after.settings = world.settings := by
  rcases leaseStep_cases hstep with ⟨identifier, now, _, _, rfl⟩ | ⟨_, rfl⟩ | ⟨_, rfl⟩ |
    ⟨position, lease, changed, returned, _, _, _, rfl⟩
  · exact admit_settings identifier now
  · unfold acquire
    split <;> rfl
  · rfl
  · rfl

/-- A bucket of the table is the one its client gets. -/
theorem bucketFor_eq {runtime : ChatbotRuntime} {now key : Nat} {bucket : ClientBucket}
    (hbucket : bucket ∈ runtime.clients.rows)
    (hkey : bucket.key = (runtime.bucketFor now key).key) :
    runtime.bucketFor now key = bucket := by
  cases hget : runtime.clients.get? key with
  | none =>
    simp only [ChatbotRuntime.bucketFor, hget, Option.getD_none] at hkey
    exact absurd (beq_iff_eq.mpr hkey) (List.find?_eq_none.mp hget bucket hbucket)
  | some found =>
    simp only [ChatbotRuntime.bucketFor, hget, Option.getD_some] at hkey ⊢
    exact Table.eq_of_key (Table.get?_mem hget) hbucket hkey.symm

/-- A live bucket stays in the table with its expiry, and it only counts up. -/
theorem admit_bucket (identifier : String) (now : Nat) {bucket : ClientBucket}
    (hbucket : bucket ∈ world.runtime.clients.rows)
    (hlive : (world.admitCall identifier now).now < bucket.expiry) :
    ∃ later ∈ (world.admitCall identifier now).runtime.clients.rows,
      later.key = bucket.key ∧ later.expiry = bucket.expiry ∧ bucket.count ≤ later.count := by
  rcases world.runtime.countCall_cases now identifier with
    ⟨failure, hcall | hcall⟩ | ⟨live, counted, rfl, hcounted, hcall, _⟩
  · simp only [admitCall, hcall, ChatbotRuntime.withGlobalWindow_clients]
    exact ⟨bucket, hbucket, rfl, rfl, Nat.le_refl _⟩
  · simp only [admitCall, hcall] at hlive ⊢
    exact ⟨bucket, ChatbotRuntime.mem_withoutExpired.mpr ⟨by simpa using hbucket, hlive⟩,
      rfl, rfl, Nat.le_refl _⟩
  · simp only [admitCall, hcall] at hlive ⊢
    have hkept : bucket ∈
        ((world.runtime.withGlobalWindow now).withoutExpired now).clients.rows :=
      ChatbotRuntime.mem_withoutExpired.mpr ⟨by simpa using hbucket, hlive⟩
    by_cases hkey : bucket.key = counted.key
    · have hown : counted = bucket := by
        rw [hcounted] at hkey ⊢
        exact bucketFor_eq hkept hkey
      refine ⟨_, ChatbotRuntime.mem_withBucket.mpr (Or.inl rfl), ?_⟩
      rw [hown]
      exact ⟨rfl, rfl, Nat.le_succ _⟩
    · exact ⟨bucket, ChatbotRuntime.mem_withBucket.mpr (Or.inr ⟨hkept, hkey⟩), rfl, rfl,
        Nat.le_refl _⟩

theorem Runs.governed {settings : ChatbotSettings} {digest : String → Nat} {created : Nat}
    (hruns : Runs settings digest created world) :
    world.Governed ∧ world.settings = settings := by
  refine @Reaches.invariant _ _ _ _ _
    (fun world => world.Governed ∧ world.settings = settings) ?_ ?_ _ hruns
  · intro state hstate
    rw [hstate]
    exact ⟨governed_start settings digest created, rfl⟩
  · intro state label after hstate horder hstep
    exact ⟨hstate.1.step horder hstep, (step_settings hstep).trans hstate.2⟩

/-- What the admission promises of every state: the counts of each window, the table of
clients, and the slots. -/
structure Controlled (settings : ChatbotSettings) (world : AdmissionWorld) : Prop where
  /-- The calls of one client between the creation and the expiry of its bucket. -/
  perClient : ∀ call ∈ world.counted,
    world.counted.countP (fun other => decide (other.identifier = call.identifier ∧
      call.expiry ≤ other.time + settings.window ∧ other.time < call.expiry)) ≤
        settings.clientRequests
  perWindow : ∀ call ∈ world.counted,
    world.counted.countP (fun other => decide
      (call.globalEnd ≤ other.time + settings.window ∧ other.time < call.globalEnd)) ≤
        settings.globalRequests
  kept : ∀ label after, world.Step label after → label ≠ .close →
    ∀ bucket ∈ world.runtime.clients.rows, after.now < bucket.expiry →
      ∃ later ∈ after.runtime.clients.rows, later.key = bucket.key ∧
        later.expiry = bucket.expiry ∧ bucket.count ≤ later.count
  clients : world.runtime.clients.rows.length ≤ settings.maxClients
  outstanding : world.leases.countP (·.returned == 0) ≤ settings.concurrency
  /-- A lease gives its slot back once: with its request when no worker was submitted, else
  when the worker has ended. -/
  once : ∀ lease ∈ world.leases, lease.returned =
    if lease.worker = .ended ∨ lease.worker = .none ∧ lease.requestEnded = true then 1 else 0

theorem Governed.perClient (h : world.Governed) {call : CountedCall}
    (hcall : call ∈ world.counted) :
    world.counted.countP (fun other => decide (other.identifier = call.identifier ∧
      call.expiry ≤ other.time + world.settings.window ∧ other.time < call.expiry)) ≤
        world.settings.clientRequests := by
  have hmem : call ∈ world.callsOf (world.keyOf call) :=
    List.mem_filter.mpr ⟨hcall, beq_iff_eq.mpr rfl⟩
  have hbound := (h.logs (world.keyOf call)).countP_le hmem
  rw [callsOf, List.countP_filter] at hbound
  refine Nat.le_trans (List.countP_mono_left ?_) hbound
  intro other _ hother
  obtain ⟨hclient, hafter, hbefore⟩ := of_decide_eq_true hother
  rw [Bool.and_eq_true, beq_iff_eq]
  exact ⟨decide_eq_true ⟨hafter, hbefore⟩, congrArg world.runtime.digest hclient⟩

theorem countP_returned {leases : List Lease} (hsettled : ∀ lease ∈ leases, lease.Settled) :
    leases.countP (·.returned == 0) = BuddyWeb.outstanding leases := by
  induction leases with
  | nil => rfl
  | cons head tail ih =>
    obtain ⟨hhead, htail⟩ := List.forall_mem_cons.mp hsettled
    have hheld : head.held = if (head.returned == 0) = true then 1 else 0 := by
      have hreturned := hhead.returned
      cases hreleased : head.released with
      | false =>
        have hnot : head.returned ≠ 1 := fun hone => by
          simp [hhead.released.mpr hone] at hreleased
        have hzero : head.returned = 0 := by
          split at hreturned
          · exact absurd hreturned hnot
          · exact hreturned
        simp [Lease.held, hreleased, hzero]
      | true => simp [Lease.held, hreleased, hhead.released.mp hreleased]
    rw [List.countP_cons, ih htail, ← hheld]
    change (tail.map Lease.held).sum + head.held = head.held + (tail.map Lease.held).sum
    exact Nat.add_comm _ _

theorem step_bucket {label : AdmissionLabel} (hstep : world.Step label after)
    (hlabel : label ≠ .close) {bucket : ClientBucket}
    (hbucket : bucket ∈ world.runtime.clients.rows) (hlive : after.now < bucket.expiry) :
    ∃ later ∈ after.runtime.clients.rows, later.key = bucket.key ∧
      later.expiry = bucket.expiry ∧ bucket.count ≤ later.count := by
  rcases leaseStep_cases hstep with ⟨identifier, now, _, _, rfl⟩ | ⟨_, rfl⟩ | ⟨hclose, _⟩ |
    ⟨position, lease, changed, returned, _, _, _, rfl⟩
  · exact admit_bucket identifier now hbucket hlive
  · refine ⟨bucket, ?_, rfl, rfl, Nat.le_refl _⟩
    unfold acquire
    split <;> exact hbucket
  · exact absurd hclose hlabel
  · exact ⟨bucket, hbucket, rfl, rfl, Nat.le_refl _⟩

/-- The admission keeps its limits in every state of every run. -/
theorem runs_controlled {settings : ChatbotSettings} {digest : String → Nat} {created : Nat}
    (hruns : Runs settings digest created world) : world.Controlled settings := by
  obtain ⟨hgoverned, rfl⟩ := Runs.governed hruns
  constructor
  · intro call hcall
    exact hgoverned.perClient hcall
  · intro call hcall
    exact hgoverned.global.log.countP_le hcall
  · intro label after hstep hlabel bucket hbucket hlive
    exact step_bucket hstep hlabel hbucket hlive
  · exact hgoverned.clients
  · have hslots := hgoverned.slots
    rw [countP_returned hgoverned.leases]
    omega
  · intro lease hlease
    exact (hgoverned.leases lease hlease).returned

/-- Two clients, two slots, one question each: one request ends before its worker, the other
one without a worker. -/
theorem runs_controlled_lateWorker :
    ∃ world, Reaches.run step? InOrder
        (start ⟨1, 3, 60, 2, 2, by decide, by decide, by decide, by decide, by decide⟩
          String.length 5)
        [.admitCall "ana" 7, .acquire, .submit 0, .admitCall "bo" 9, .acquire, .admitCall "ana" 9,
          .workerStarts 0, .requestEnds 0, .requestEnds 1] = some world ∧
      world.Controlled
        ⟨1, 3, 60, 2, 2, by decide, by decide, by decide, by decide, by decide⟩ ∧
      world.leases.map (·.returned) = [0, 1] := by
  have hstart : Runs ⟨1, 3, 60, 2, 2, by decide, by decide, by decide, by decide, by decide⟩
      String.length 5 (start _ String.length 5) := .start rfl
  obtain ⟨world, hrun, hreach, hreturned⟩ := Reaches.exists_of_run (fun h => h) hstart
    [.admitCall "ana" 7, .acquire, .submit 0, .admitCall "bo" 9, .acquire, .admitCall "ana" 9,
      .workerStarts 0, .requestEnds 0, .requestEnds 1]
    (fun world => world.leases.map (·.returned) == [0, 1]) (by decide +kernel)
  exact ⟨world, hrun, runs_controlled hreach, beq_iff_eq.mp hreturned⟩

end Runs

end AdmissionWorld

end BuddyWeb
