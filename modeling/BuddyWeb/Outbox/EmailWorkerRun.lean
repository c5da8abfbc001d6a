/-
One run of the Edge worker: it claims a batch, delivers each e-mail of it as a task of its
own, and counts the outcomes.
-/
import BuddyWeb.Chat.WireContract
import BuddyWeb.Outbox.BoundedConcurrency
import BuddyWeb.Outbox.EdgeFunctions

namespace BuddyWeb

variable {π μ ε : Type}

structure EmailWorkerOptions where
  batchSize : Option Int := none
  deliveryConcurrency : Option Int := none
  workerId : Option String := none
  deriving DecidableEq, Repr

/-- What the gateway, the templates and the provider answer to one task. -/
structure DeliveryCalls (π μ ε : Type) where
  resolve : OutboxJob π → Except DeliveryException (OutboxJob π)
  renderEmail : OutboxJob π → Except DeliveryException μ
  send : μ → String → Except DeliveryException String
  complete : Nat → String → String → Except DeliveryException DeliveryOutcome
  fail : Nat → String → Bool → String → Except ε DeliveryOutcome

/-- The task of one job: what fails on the way is recorded as a failure. -/
def deliverJob (calls : DeliveryCalls π μ ε) (workerId : String) (job : OutboxJob π) :
    Except ε DeliveryOutcome :=
  let delivery : Except DeliveryException DeliveryOutcome := do
    let resolvedJob ← calls.resolve job
    let message ← calls.renderEmail resolvedJob
    let providerMessageId ← calls.send message resolvedJob.idempotencyKey
    calls.complete resolvedJob.id workerId providerMessageId
  match delivery with
  | .ok outcome => .ok outcome
  | .error error =>
      calls.fail job.id workerId error.failure.retryable error.failure.errorCode

structure WorkerReport where
  claimed : Nat
  sent : Nat
  retryScheduled : Nat
  terminalFailed : Nat
  skipped : Nat
  deriving DecidableEq, Repr

def workerReport (jobs : List (OutboxJob π)) (outcomes : List (Option DeliveryOutcome)) :
    WorkerReport where
  claimed := jobs.length
  sent := (outcomes.filter (· == some .sent)).length
  retryScheduled := (outcomes.filter (· == some .retry)).length
  terminalFailed := (outcomes.filter (· == some .failed)).length
  skipped := (outcomes.filter (· == some .skipped)).length

inductive EmailWorkerError (ε : Type)
  | batchSize
  | deliveryConcurrency
  | workerId
  | claimBound
  | raised (error : ε)
  deriving DecidableEq, Repr

/-- Where a run stands. -/
inductive EmailWorkerRun (π ε : Type)
  | threw (error : EmailWorkerError ε)
  | claiming (batchSize deliveryConcurrency : Nat) (workerId : String)
  | delivering (deliveryConcurrency : Nat) (workerId : String) (jobs : List (OutboxJob π))
      (pool : TaskPool (OutboxJob π) DeliveryOutcome ε)

def isEdgeWorkerId (workerId : String) : Bool :=
  decide (workerId ≠ "") && decide (utf16Length workerId ≤ 100) &&
    !workerId.toList.any fun char => char == '\r' || char == '\n'

/-- The run up to the claim of the batch. -/
def runEmailWorker (options : EmailWorkerOptions) (randomId : String) : EmailWorkerRun π ε :=
  let batchSize := options.batchSize.getD 20
  let deliveryConcurrency := options.deliveryConcurrency.getD 5
  let workerId := options.workerId.getD ("edge-email-worker-" ++ randomId)
  if batchSize < 1 ∨ 100 < batchSize then .threw .batchSize
  else if deliveryConcurrency < 1 ∨ batchSize < deliveryConcurrency then
    .threw .deliveryConcurrency
  else if isEdgeWorkerId workerId = false then .threw .workerId
  else .claiming batchSize.toNat deliveryConcurrency.toNat workerId

inductive EmailWorkerLabel (π μ ε : Type)
  | claimed (answer : Except ε (List (OutboxJob π)))
  | settled (position : Nat) (calls : DeliveryCalls π μ ε)

namespace EmailWorkerRun

/-- The claim is answered, or the task of one loop settles. -/
def step? : EmailWorkerRun π ε → EmailWorkerLabel π μ ε → Option (EmailWorkerRun π ε)
  | claiming batchSize deliveryConcurrency workerId, .claimed answer =>
      match answer with
      | .error error => some (threw (.raised error))
      | .ok jobs =>
          if batchSize < jobs.length then some (threw .claimBound)
          else some (delivering deliveryConcurrency workerId jobs
            (mapWithConcurrency jobs deliveryConcurrency))
  | delivering deliveryConcurrency workerId jobs pool, .settled position calls =>
      match pool.consumers[position]? with
      | some (.awaiting index) =>
          (jobs[index]?).map fun job =>
            delivering deliveryConcurrency workerId jobs
              (pool.settle position index (deliverJob calls workerId job))
      | _ => none
  | _, _ => none

def Step (run : EmailWorkerRun π ε) (label : EmailWorkerLabel π μ ε)
    (after : EmailWorkerRun π ε) : Prop :=
  run.step? label = some after

/-- The states of one run. -/
def Runs (μ : Type) (options : EmailWorkerOptions) (randomId : String) :
    EmailWorkerRun π ε → Prop :=
  Reaches (· = runEmailWorker options randomId) (@Step π μ ε) fun _ _ => True

/-- What the run returns or throws, once it has ended. -/
def result : EmailWorkerRun π ε → Option (Except (EmailWorkerError ε) WorkerReport)
  | threw error => some (.error error)
  | claiming _ _ _ => none
  | delivering _ _ jobs pool =>
      match pool.resolution with
      | some (.ok outcomes) => some (.ok (workerReport jobs outcomes))
      | some (.error error) => some (.error (.raised error))
      | none => none

/-- A claimed batch is delivered: the driver runs over its jobs, and a task which has settled
is that of its own job. -/
structure Delivers (μ : Type) (batchSize deliveryConcurrency : Nat) (workerId : String)
    (jobs : List (OutboxJob π)) (pool : TaskPool (OutboxJob π) DeliveryOutcome ε) : Prop where
  bounded : jobs.length ≤ batchSize
  runs : TaskPool.Runs jobs deliveryConcurrency pool
  settled : ∀ index outcome, (index, outcome) ∈ pool.settled →
    ∃ (job : OutboxJob π) (calls : DeliveryCalls π μ ε),
      jobs[index]? = some job ∧ outcome = deliverJob calls workerId job

/-- A run claims as its options say, and delivers what it has claimed. -/
def Driven (μ : Type) (options : EmailWorkerOptions) (randomId : String) :
    EmailWorkerRun π ε → Prop
  | threw _ => True
  | claiming batchSize deliveryConcurrency workerId =>
      (runEmailWorker options randomId : EmailWorkerRun π ε) =
        .claiming batchSize deliveryConcurrency workerId
  | delivering deliveryConcurrency workerId jobs pool => ∃ batchSize,
      (runEmailWorker options randomId : EmailWorkerRun π ε) =
        .claiming batchSize deliveryConcurrency workerId ∧
      Delivers μ batchSize deliveryConcurrency workerId jobs pool

section Driven

variable {options : EmailWorkerOptions} {randomId workerId : String}
  {batchSize deliveryConcurrency : Nat} {jobs : List (OutboxJob π)}
  {pool : TaskPool (OutboxJob π) DeliveryOutcome ε}

/-- The driver gets a limit of at least one. -/
theorem concurrency_pos (hrun : (runEmailWorker options randomId : EmailWorkerRun π ε) =
    .claiming batchSize deliveryConcurrency workerId) : 1 ≤ deliveryConcurrency := by
  unfold runEmailWorker at hrun
  dsimp only at hrun
  split at hrun
  · cases hrun
  · split at hrun
    · cases hrun
    · split at hrun
      · cases hrun
      · rename_i hconcurrency _
        cases hrun
        omega

theorem Delivers.step {position index : Nat} {job : OutboxJob π}
    {calls : DeliveryCalls π μ ε}
    (h : Delivers μ batchSize deliveryConcurrency workerId jobs pool)
    (hconsumer : pool.consumers[position]? = some (.awaiting index))
    (hjob : jobs[index]? = some job) :
    Delivers μ batchSize deliveryConcurrency workerId jobs
      (pool.settle position index (deliverJob calls workerId job)) := by
  have hpool : pool.Step (position, deliverJob calls workerId job)
      (pool.settle position index (deliverJob calls workerId job)) := by
    unfold TaskPool.Step TaskPool.settle?
    rw [hconsumer]
  refine ⟨h.bounded, h.runs.next trivial hpool, ?_⟩
  intro other outcome hmem
  rw [TaskPool.settled_settle] at hmem
  rcases List.mem_append.mp hmem with hold | hnew
  · exact h.settled other outcome hold
  · obtain ⟨rfl, rfl⟩ := Prod.mk.inj (List.mem_singleton.mp hnew)
    exact ⟨job, calls, hjob, rfl⟩

theorem Driven.step {run after : EmailWorkerRun π ε} {label : EmailWorkerLabel π μ ε}
    (hdriven : run.Driven μ options randomId) (hstep : run.Step label after) :
    after.Driven μ options randomId := by
  unfold Step at hstep
  cases run with
  | threw error => cases label <;> cases hstep
  | claiming batchSize deliveryConcurrency workerId =>
    cases label with
    | settled position calls => cases hstep
    | claimed answer =>
      cases answer with
      | error error =>
        cases hstep
        trivial
      | ok jobs =>
        simp only [step?] at hstep
        split at hstep
        · cases hstep
          trivial
        · rename_i hbound
          cases hstep
          refine ⟨batchSize, hdriven, Nat.le_of_not_lt hbound, .start rfl, ?_⟩
          intro index outcome hmem
          rw [TaskPool.settled_mapWithConcurrency] at hmem
          cases hmem
  | delivering deliveryConcurrency workerId jobs pool =>
    cases label with
    | claimed answer => cases hstep
    | settled position calls =>
      simp only [step?] at hstep
      split at hstep
      · rename_i index hconsumer
        obtain ⟨job, hjob, rfl⟩ := Option.map_eq_some_iff.mp hstep
        obtain ⟨batchSize, hclaimed, hdelivers⟩ := hdriven
        exact ⟨batchSize, hclaimed, hdelivers.step hconsumer hjob⟩
      · cases hstep

end Driven

end EmailWorkerRun

/-- A report counts every claimed job once, by the outcome of its own task. -/
structure WorkerReport.Counts (μ ε : Type) (workerId : String) (jobs : List (OutboxJob π))
    (outcomes : List DeliveryOutcome) (report : WorkerReport) : Prop where
  each : outcomes.length = jobs.length
  delivered : ∀ (index : Nat) outcome, outcomes[index]? = some outcome →
    ∃ (job : OutboxJob π) (calls : DeliveryCalls π μ ε),
      jobs[index]? = some job ∧ deliverJob calls workerId job = .ok outcome
  claimed : report.claimed = jobs.length
  sent : report.sent = outcomes.count .sent
  retryScheduled : report.retryScheduled = outcomes.count .retry
  terminalFailed : report.terminalFailed = outcomes.count .failed
  skipped : report.skipped = outcomes.count .skipped
  sum : report.sent + report.retryScheduled + report.terminalFailed + report.skipped =
    jobs.length

namespace EmailWorkerRun

theorem length_filter_eq_count (kind : DeliveryOutcome) (outcomes : List DeliveryOutcome) :
    ((outcomes.map some).filter (· == some kind)).length = outcomes.count kind := by
  rw [List.filter_map, List.length_map, List.count, List.countP_eq_length_filter]
  rfl

/-- Every outcome is counted in exactly one place. -/
theorem count_outcomes (outcomes : List DeliveryOutcome) :
    outcomes.count .sent + outcomes.count .retry + outcomes.count .failed +
      outcomes.count .skipped = outcomes.length := by
  induction outcomes with
  | nil => rfl
  | cons outcome rest ih =>
    cases outcome <;> simp <;> omega

/-- The report of a run counts the outcomes of the tasks of its claimed jobs. -/
theorem Driven.counts {options : EmailWorkerOptions} {randomId : String}
    {run : EmailWorkerRun π ε} (hdriven : run.Driven μ options randomId)
    {report : WorkerReport} (hresult : run.result = some (.ok report)) :
    ∃ batchSize deliveryConcurrency workerId jobs pool outcomes,
      (runEmailWorker options randomId : EmailWorkerRun π ε) =
        .claiming batchSize deliveryConcurrency workerId ∧
      jobs.length ≤ batchSize ∧ run = .delivering deliveryConcurrency workerId jobs pool ∧
      pool.resolution = some (.ok (outcomes.map some)) ∧
      report.Counts μ ε workerId jobs outcomes := by
  cases run with
  | threw error => cases hresult
  | claiming batchSize deliveryConcurrency workerId => cases hresult
  | delivering deliveryConcurrency workerId jobs pool =>
    obtain ⟨batchSize, hclaimed, hdelivers⟩ := hdriven
    simp only [result] at hresult
    split at hresult
    · rename_i results hreturned
      cases hresult
      obtain ⟨-, -, outcomes, rfl, hlength, hsettled⟩ :=
        hdelivers.runs.returned (concurrency_pos hclaimed) hreturned
      refine ⟨batchSize, deliveryConcurrency, workerId, jobs, pool, outcomes, hclaimed,
        hdelivers.bounded, rfl, hreturned, ?_⟩
      constructor
      · exact hlength
      · intro index outcome houtcome
        obtain ⟨job, calls, hjob, hdelivered⟩ :=
          hdelivers.settled index _ (hsettled index outcome houtcome)
        exact ⟨job, calls, hjob, hdelivered.symm⟩
      · rfl
      · exact length_filter_eq_count .sent outcomes
      · exact length_filter_eq_count .retry outcomes
      · exact length_filter_eq_count .failed outcomes
      · exact length_filter_eq_count .skipped outcomes
      · simp only [workerReport, length_filter_eq_count]
        rw [count_outcomes, hlength]
    · cases hresult
    · cases hresult

end EmailWorkerRun

end BuddyWeb
