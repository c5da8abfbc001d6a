/-
The read model of the semester management and the commands it announces: after a
failed reset the status looks at that reset, the command at the last one which
succeeded.
-/
import BuddyWeb.Semester.LifecycleChanges

namespace BuddyWeb

inductive RestoreBlockReason
  | newCohort
  | expired
  | notReady
  | alreadyRestored
  | operationRunning
  deriving DecidableEq, Repr

structure SemesterOperationStatus where
  id : Nat
  operationType : SemesterOperationType
  state : SemesterOperationState
  requestedAt : Nat
  startedAt : Option Nat
  completedAt : Option Nat
  failureCode : Option FailureCode
  deriving DecidableEq, Repr

structure SemesterBackupStatus where
  id : Nat
  state : SemesterBackupState
  verifiedAt : Option Nat
  expiresAt : Option Nat
  deriving DecidableEq, Repr

structure SemesterManagementStatus where
  currentSemesterId : Nat
  currentSemesterStatus : SemesterStatus
  currentStudentAccountsCreated : Nat
  resetOperation : Option SemesterOperationStatus
  restoreOperation : Option SemesterOperationStatus
  backup : Option SemesterBackupStatus
  canPrepareReset : Bool
  canPrepareRestore : Bool
  restoreBlockReason : Option RestoreBlockReason
  deriving DecidableEq, Repr

def operationStatus (operation : SemesterOperation) : SemesterOperationStatus where
  id := operation.id
  operationType := operation.operationType
  state := operation.state
  requestedAt := operation.requestedAt
  startedAt := operation.startedAt
  completedAt := operation.completedAt
  failureCode := operation.failureCode

/-- The first selected operation in the order of `requested_at DESC`; the newer row comes
first where two requests have the same time. -/
def Database.latestRequested? (db : Database) (filter : SemesterOperation → Bool) :
    Option SemesterOperation :=
  ((db.operations.rows.filter filter).insertionSort
    fun first second => second.requestedAt ≤ first.requestedAt).head?

/-- The reset which the status looks at, in any state. -/
def Database.latestRequestedReset? (db : Database) : Option SemesterOperation :=
  db.latestRequested? fun operation => operation.operationType == .reset

def Database.latestRequestedRestore? (db : Database) (backupId : Nat) :
    Option SemesterOperation :=
  db.latestRequested? fun operation =>
    operation.operationType == .restore && operation.backupId == some backupId

/-- The reason of a blocked restore, in the order of its checks. -/
def restoreBlockReason (current : Semester) (active : Option SemesterOperation)
    (backup : Option SemesterBackup) (effectiveState : Option SemesterBackupState) :
    Option RestoreBlockReason :=
  if backup.any (·.restoredAt.isSome) then some .alreadyRestored
  else if current.HasNewStudents then some .newCohort
  else if effectiveState = some .expired then some .expired
  else if backup.isSome && effectiveState ≠ some .ready then some .notReady
  else if active.any (·.operationType != .restore) then some .operationRunning
  else none

/-- `get_semester_management_status`. -/
def getSemesterManagementStatus (db : Database) (now : Nat) (actor : UserRow) :
    Except SemesterError SemesterManagementStatus := do
  ensure (actor.role = .admin) .management
  let current ← require db.currentSemester? .management
  let reset := db.latestRequestedReset?
  let backup := reset.bind fun reset => reset.backupId.bind db.backups.get?
  let restore := backup.bind fun backup => db.latestRequestedRestore? backup.id
  let active := db.runningOperation?
  let effectiveState ← backup.mapM fun backup => backup.effectiveState now
  let blocked := restoreBlockReason current active backup effectiveState
  return {
    currentSemesterId := current.id
    currentSemesterStatus := current.status
    currentStudentAccountsCreated := current.studentAccountsCreated
    resetOperation := reset.map operationStatus
    restoreOperation := restore.map operationStatus
    backup := backup.bind fun backup => effectiveState.map fun state =>
      ⟨backup.id, state, backup.verifiedAt, backup.expiresAt⟩
    canPrepareReset := active.isNone && current.resetOperationId.isNone
    canPrepareRestore := backup.isSome && reset.any (·.state == .succeeded) &&
      active.isNone && blocked.isNone
    restoreBlockReason := blocked }

/-- The preparation adds a running operation of this type. -/
def CreatesOperation (prepared : Except SemesterError (Database × (Nat × Nat)))
    (operationType : SemesterOperationType) (newOperationId : Nat) : Prop :=
  ∃ db ids, prepared = .ok (db, ids) ∧ ∃ operation ∈ db.operations.rows,
    operation.id = newOperationId ∧ operation.operationType = operationType ∧
      operation.state = .running

/-- The status announces exactly what both commands would do, under any fresh keys. -/
def StatusAgrees (w : World) (actor : UserRow) : Prop :=
  ∃ status, getSemesterManagementStatus w.db w.now actor = .ok status ∧
    ∀ newOperationId newBackupId, w.db.operations.get? newOperationId = none →
      w.db.backups.get? newBackupId = none →
      (status.canPrepareRestore = true ↔ CreatesOperation
        (prepareSemesterRestore w.db w.now actor.id newOperationId) .restore newOperationId) ∧
      (status.canPrepareReset = true ↔ CreatesOperation
        (prepareResetMetadata w.db w.now actor.id newOperationId newBackupId) .reset
        newOperationId)

/-- The last requested reset succeeded, or the backup of the last SUCCEEDED reset cannot
be restored now. -/
def LastResetGoverns (w : World) : Prop :=
  ∀ latest ∈ w.db.latestRequestedReset?, latest.state = .succeeded ∨
    ∀ reset ∈ w.db.latestSucceededReset?, ∀ backup ∈ reset.backupId.bind w.db.backups.get?,
      ∀ current ∈ w.db.currentSemester?, ¬ RestorableBackup w.now backup current

/-- A later operation is requested once the earlier one has settled. -/
def SemesterOperation.Follows (later earlier : SemesterOperation) : Prop :=
  earlier.state ≠ .running ∧ earlier.requestedAt ≤ later.requestedAt ∧
    ∀ completedAt ∈ earlier.completedAt, completedAt ≤ later.requestedAt

/-- The operations stand in the order of their requests and of their completions. -/
structure OperationsOrdered (db : Database) (now : Nat) : Prop where
  pairs : db.operations.rows.Pairwise SemesterOperation.Follows
  requested : ∀ operation ∈ db.operations.rows, operation.requestedAt ≤ now
  completed : ∀ operation ∈ db.operations.rows, ∀ completedAt ∈ operation.completedAt,
    operation.requestedAt ≤ completedAt ∧ completedAt ≤ now
  succeeded : ∀ operation ∈ db.operations.rows, operation.state = .succeeded →
    operation.completedAt ≠ none

theorem Step.now_le {env : SemesterEnvironment} {w after : World} {label : Label}
    (hstep : Step env w label after) : w.now ≤ after.now := by
  cases hstep with
  | tick => exact Nat.le_add_right _ _
  | _ => exact le_rfl

namespace OperationsOrdered

variable {checksums : Checksums} {w : World} {label : Label} {after db : Database} {now : Nat}

theorem change (h : OperationsOrdered w.db w.now)
    (hchange : LifecycleChange checksums w label after)
    (hnow : w.now ≤ now) : OperationsOrdered after now := by
  have hversions : ∀ operation ∈ after.operations.rows,
      (∃ old ∈ w.db.operations.rows, operation = old) ∨
      (∃ old ∈ w.db.operations.rows, operation.requestedAt = old.requestedAt ∧
        operation.completedAt = some w.now) ∨
      (operation.requestedAt = w.now ∧ operation.completedAt = none ∧
        operation.state = .running) := by
    intro operation hmem
    rcases hchange.operations.backward hmem with ⟨old, hold, _, heq | hversion⟩ |
      ⟨_, _, _, _, _, _, rfl, _⟩
    · exact Or.inl ⟨old, hold, heq⟩
    · obtain ⟨_, _, hcompleted, _, _, hrequested, _⟩ := hversion.settles
      exact Or.inr (Or.inl ⟨old, hold, hrequested, hcompleted⟩)
    · exact Or.inr (Or.inr ⟨rfl, rfl, rfl⟩)
  constructor
  · obtain ⟨added, kept, hrows, hadded, hkept⟩ := hchange.operations.split
    rw [hrows]
    have hpairs : kept.Pairwise SemesterOperation.Follows := by
      refine pairwise_of_forall₂ hkept h.pairs ?_
      rintro old _ other _ new changed ⟨hsettled, hrequested, hcompleted⟩ ⟨_, hnew⟩ ⟨_, hchanged⟩
      have hsame : changed = other := by
        rcases hchanged with heq | hversion
        · exact heq
        · exact absurd hversion.settles.1 hsettled
      have htime : new.requestedAt = old.requestedAt := by
        rcases hnew with rfl | hversion
        · rfl
        · exact hversion.settles.2.2.2.2.2.1
      exact ⟨hsame ▸ hsettled, by rw [hsame, htime]; exact hrequested, by
        rw [hsame, htime]
        exact hcompleted⟩
    cases added with
    | none => simpa using hpairs
    | some operation =>
        obtain ⟨hidle, _, _, _, _, _, rfl, _⟩ := hadded operation rfl
        refine List.pairwise_cons.mpr ⟨fun older holder => ?_, hpairs⟩
        obtain ⟨old, hold, _, heq⟩ := exists_left_of_forall₂ hkept holder
        have hsame : older = old := by
          rcases heq with heq | hversion
          · exact heq
          · exact absurd hversion.settles.1 (hidle old hold)
        subst hsame
        exact ⟨hidle older hold, h.requested older hold, fun completedAt hat =>
          (h.completed older hold completedAt hat).2⟩
  · intro operation hmem
    rcases hversions operation hmem with ⟨old, hold, rfl⟩ | ⟨old, hold, hrequested, _⟩ |
      ⟨hrequested, _⟩
    · exact (h.requested operation hold).trans hnow
    · exact hrequested ▸ (h.requested old hold).trans hnow
    · exact hrequested ▸ hnow
  · intro operation hmem completedAt hat
    rcases hversions operation hmem with ⟨old, hold, rfl⟩ | ⟨old, hold, hrequested, hcompleted⟩ |
      ⟨_, hcompleted, _⟩
    · exact (h.completed operation hold completedAt hat).imp_right (le_trans · hnow)
    · obtain rfl := Option.some.inj (hcompleted.symm.trans hat)
      exact ⟨hrequested ▸ h.requested old hold, hnow⟩
    · simp [hcompleted] at hat
  · intro operation hmem hstate
    rcases hversions operation hmem with ⟨old, hold, rfl⟩ | ⟨_, _, _, hcompleted⟩ |
      ⟨_, _, hrunning⟩
    · exact h.succeeded operation hold hstate
    · simp [hcompleted]
    · simp [hrunning] at hstate

section Latest

variable (h : OperationsOrdered db now)

include h

/-- The order by request is the order of the rows. -/
theorem latestRequested?_eq (filter : SemesterOperation → Bool) :
    db.latestRequested? filter = db.operations.rows.find? filter := by
  have hsorted : (db.operations.rows.filter filter).Pairwise
      fun first second => second.requestedAt ≤ first.requestedAt :=
    (h.pairs.filter _).imp fun hfollows => hfollows.2.1
  rw [Database.latestRequested?, hsorted.insertionSort_eq, List.head?_filter]

/-- The order by completion is the order of the rows. -/
theorem latestSucceededReset?_eq :
    db.latestSucceededReset? = db.operations.rows.find? fun operation =>
      operation.operationType == .reset && operation.state == .succeeded := by
  have hsorted : (db.operations.rows.filter fun operation =>
      operation.operationType == .reset && operation.state == .succeeded).Pairwise
      fun first second => second.completedAt.getD 0 ≤ first.completedAt.getD 0 := by
    refine List.Pairwise.imp_of_mem ?_ (h.pairs.filter _)
    intro later earlier hlater hearlier hfollows
    obtain ⟨hmemLater, hlaterReset⟩ := List.mem_filter.mp hlater
    obtain ⟨hmemEarlier, hearlierReset⟩ := List.mem_filter.mp hearlier
    simp only [Bool.and_eq_true, beq_iff_eq] at hlaterReset hearlierReset
    obtain ⟨done, hdone⟩ :=
      Option.ne_none_iff_exists'.mp (h.succeeded later hmemLater hlaterReset.2)
    obtain ⟨before, hbefore⟩ :=
      Option.ne_none_iff_exists'.mp (h.succeeded earlier hmemEarlier hearlierReset.2)
    rw [hdone, hbefore]
    exact (hfollows.2.2 before hbefore).trans (h.completed later hmemLater done hdone).1
  rw [Database.latestSucceededReset?, hsorted.insertionSort_eq, List.head?_filter]

/-- A last reset which succeeded is also the last SUCCEEDED one. -/
theorem latestSucceededReset?_of_succeeded {latest : SemesterOperation}
    (hlatest : db.latestRequestedReset? = some latest) (hstate : latest.state = .succeeded) :
    db.latestSucceededReset? = some latest := by
  rw [Database.latestRequestedReset?, h.latestRequested?_eq,
    List.find?_eq_some_iff_append] at hlatest
  obtain ⟨htype, before, rest, hrows, hbefore⟩ := hlatest
  rw [h.latestSucceededReset?_eq, List.find?_eq_some_iff_append]
  refine ⟨by simpa [hstate] using htype, before, rest, hrows, fun other hother => ?_⟩
  have hother := hbefore other hother
  simp only [Bool.not_eq_true'] at hother
  simp [hother]

/-- After a reset which succeeded some reset was requested last. -/
theorem exists_latestRequestedReset {reset : SemesterOperation}
    (hreset : db.latestSucceededReset? = some reset) :
    ∃ latest, db.latestRequestedReset? = some latest := by
  obtain ⟨hmem, htype, _⟩ := latestSucceededReset?_spec hreset
  rw [Database.latestRequestedReset?, h.latestRequested?_eq]
  exact Option.isSome_iff_exists.mp (List.find?_isSome.mpr ⟨reset, hmem, by simp [htype]⟩)

end Latest

end OperationsOrdered

section Agreement

variable {env : SemesterEnvironment} {w : World} {actor : UserRow} {current : Semester}

/-- A backup which the commands could restore now. -/
def HasRestorableBackup (db : Database) (now : Nat) (reset : SemesterOperation)
    (current : Semester) : Prop :=
  ∃ backup, reset.backupId.bind db.backups.get? = some backup ∧
    RestorableBackup now backup current

/-- The command creates a restore from the backup of the last SUCCEEDED reset. -/
theorem prepareSemesterRestore_creates_iff {newOperationId : Nat}
    (hactor : requireManagementAdmin w.db actor.id = .ok actor)
    (hcurrent : w.db.currentSemester? = some current)
    (hidle : w.db.runningOperation? = none)
    (hfresh : w.db.operations.get? newOperationId = none) :
    CreatesOperation (prepareSemesterRestore w.db w.now actor.id newOperationId) .restore
        newOperationId ↔
      ∃ reset ∈ w.db.latestSucceededReset?, HasRestorableBackup w.db w.now reset current := by
  constructor
  · rintro ⟨db, ids, hprepare, _⟩
    obtain ⟨_, _, _, hfound, ⟨_, hrunning, _⟩ | ⟨_, reset, backup, _, hreset, hbackup,
      hrestorable, _⟩⟩ := prepareSemesterRestore_spec hprepare
    · simp [hidle] at hrunning
    · obtain rfl := Option.some.inj (hfound.symm.trans hcurrent)
      exact ⟨reset, hreset, backup, hbackup, hrestorable⟩
  · rintro ⟨reset, hreset, backup, hbackup, hrestorable⟩
    obtain ⟨operations, hinsert, hadded⟩ := Table.exists_insert? (runningOperation newOperationId
      .restore reset.semesterId actor.id backup.id w.now) hfresh
    refine ⟨{ w.db with operations }, (newOperationId, backup.id), ?_, _, hadded, rfl, rfl, rfl⟩
    simp only [prepareSemesterRestore, except_bind_eq_ok_iff, require_eq_ok_iff]
    refine ⟨actor, hactor, current, hcurrent, ?_⟩
    simp only [hidle, except_bind_eq_ok_iff, require_eq_ok_iff, ensure_eq_ok_iff,
      except_pure_eq_ok_iff, exists_const]
    exact ⟨reset, hreset, backup, hbackup, hrestorable, operations, hinsert, rfl⟩

/-- The command creates a reset whenever nothing is running. -/
theorem prepareResetMetadata_creates {newOperationId newBackupId : Nat}
    (hactor : requireManagementAdmin w.db actor.id = .ok actor)
    (hcurrent : w.db.currentSemester? = some current)
    (hopen : current.resetOperationId = none) (hidle : w.db.runningOperation? = none)
    (hfresh : w.db.operations.get? newOperationId = none)
    (hfreshBackup : w.db.backups.get? newBackupId = none) :
    CreatesOperation (prepareResetMetadata w.db w.now actor.id newOperationId newBackupId)
      .reset newOperationId := by
  obtain ⟨operations, hoperations, hadded⟩ := Table.exists_insert? (runningOperation newOperationId
    .reset current.id actor.id newBackupId w.now) hfresh
  obtain ⟨backups, hbackups, _⟩ := Table.exists_insert?
    (creatingBackup newBackupId current newOperationId) hfreshBackup
  refine ⟨{ w.db with operations, backups }, (newOperationId, newBackupId), ?_, _, hadded,
    rfl, rfl, rfl⟩
  simp only [prepareResetMetadata, except_bind_eq_ok_iff, require_eq_ok_iff, ensure_eq_ok_iff,
    exists_const]
  refine ⟨actor, hactor, current, hcurrent, hopen, ?_⟩
  simp only [hidle, except_bind_eq_ok_iff, require_eq_ok_iff, except_pure_eq_ok_iff]
  exact ⟨operations, hoperations, backups, hbackups, rfl⟩

/-- Nothing blocks a restore exactly when the backup may be restored. -/
theorem restoreBlockReason_eq_none_iff {backup : SemesterBackup}
    {effectiveState : SemesterBackupState}
    (heffective : backup.effectiveState w.now = .ok effectiveState) :
    restoreBlockReason current none (some backup) (some effectiveState) = none ↔
      RestorableBackup w.now backup current := by
  unfold restoreBlockReason RestorableBackup
  cases hrestored : backup.restoredAt with
  | some restoredAt => simp [hrestored]
  | none =>
      by_cases hstudents : current.HasNewStudents
      · simp [hrestored, hstudents]
      · cases effectiveState <;> simp [hrestored, hstudents, heffective]

/-- In a reachable state every backup has an effective state. -/
theorem LifecycleInvariant.exists_effectiveState {db : Database} (h : LifecycleInvariant db)
    {backup : SemesterBackup} (hmem : backup ∈ db.backups.rows) (now : Nat) :
    ∃ effectiveState, backup.effectiveState now = .ok effectiveState := by
  obtain ⟨_, _, _, _, haggregate⟩ := h.backups backup hmem
  unfold SemesterBackup.effectiveState
  cases hstate : backup.state with
  | creating | expired | failed => exact ⟨_, rfl⟩
  | ready | restoreBlockedNewData =>
      obtain ⟨_, _, _, _, _, _, hretained⟩ := haggregate.retained_of_state (by simp [hstate])
      simp only [hretained.2.1]
      exact ⟨_, rfl⟩

/-- What the status announces while nothing is running. -/
theorem getSemesterManagementStatus_spec (hlife : LifecycleInvariant w.db)
    (hrole : actor.role = .admin) (hcurrent : w.db.currentSemester? = some current)
    (hopen : current.resetOperationId = none) (hidle : w.db.runningOperation? = none) :
    ∃ status, getSemesterManagementStatus w.db w.now actor = .ok status ∧
      status.canPrepareReset = true ∧
      (status.canPrepareRestore = true ↔ ∃ latest ∈ w.db.latestRequestedReset?,
        latest.state = .succeeded ∧ HasRestorableBackup w.db w.now latest current) := by
  have hbackup : ∀ backup,
      (w.db.latestRequestedReset?.bind fun reset => reset.backupId.bind w.db.backups.get?) =
        some backup → ∃ effectiveState, backup.effectiveState w.now = .ok effectiveState := by
    intro backup hfound
    obtain ⟨reset, _, hlink⟩ := Option.bind_eq_some_iff.mp hfound
    obtain ⟨_, _, hget⟩ := Option.bind_eq_some_iff.mp hlink
    exact hlife.exists_effectiveState (Table.get?_mem hget) w.now
  have hfree : (none : Option SemesterOperation).isNone && current.resetOperationId.isNone := by
    simp [hopen]
  unfold getSemesterManagementStatus
  simp only [ensure_of_true _ hrole, hcurrent, require, hidle]
  cases hlatest : w.db.latestRequestedReset? with
  | none => exact ⟨_, rfl, hfree, by simp⟩
  | some latest =>
      cases hlink : latest.backupId.bind w.db.backups.get? with
      | none =>
          refine ⟨_, by simp only [Option.bind_some, hlink]; rfl, hfree, ?_⟩
          simp [HasRestorableBackup, hlink]
      | some backup =>
          obtain ⟨effectiveState, heffective⟩ := hbackup backup (by simp [hlatest, hlink])
          refine ⟨_, by simp only [Option.bind_some, hlink, Option.mapM_some, heffective]; rfl,
            hfree, ?_⟩
          have hblocked : restoreBlockReason current none (some backup)
              (some effectiveState) = none ↔ RestorableBackup w.now backup current :=
            restoreBlockReason_eq_none_iff heffective
          simp [HasRestorableBackup, hlink, ← hblocked]

/-- The status agrees with the commands exactly when the last reset governs both. -/
theorem lifecycle_statusAgrees_iff {allowed : World → Label → Prop}
    (hreach : Lifecycle env allowed w)
    (hidle : ∀ operation ∈ w.db.operations.rows, operation.state ≠ .running)
    (hactor : actor ∈ w.db.data.users)
    (hadmin : actor.role = .admin ∧ actor.isActive = true ∧ actor.deletedAt = none) :
    StatusAgrees w actor ↔ LastResetGoverns w := by
  have hlife := hreach.worldInvariant.lifecycle
  have hordered : OperationsOrdered w.db w.now :=
    Lifecycle.invariant (fun w => OperationsOrdered w.db w.now)
      (fun start hinitial => by constructor <;> simp [hinitial.operations])
      (fun _ _ _ hbefore h _ hstep =>
        h.change (hstep.change hbefore.lifecycle) hstep.now_le) hreach
  obtain ⟨current, hmem, hstatus, hopen, _⟩ := hlife.current
  have hcurrent := hlife.currentSemester_eq hmem hstatus
  have hnone : w.db.runningOperation? = none :=
    List.find?_eq_none.mpr fun operation hrow => by simpa using hidle operation hrow
  have hfind : requireManagementAdmin w.db actor.id = .ok actor :=
    requireManagementAdmin_eq_ok_iff.mpr ⟨hlife.find_user hactor, hadmin.1⟩
  obtain ⟨status, hok, hreset, hrestore⟩ :=
    getSemesterManagementStatus_spec hlife hadmin.1 hcurrent hopen hnone
  have hcommand : ∀ newOperationId, w.db.operations.get? newOperationId = none →
      (CreatesOperation (prepareSemesterRestore w.db w.now actor.id newOperationId) .restore
        newOperationId ↔
      ∃ reset ∈ w.db.latestSucceededReset?, HasRestorableBackup w.db w.now reset current) :=
    fun _ hfresh => prepareSemesterRestore_creates_iff hfind hcurrent hnone hfresh
  constructor
  · rintro ⟨other, hother, hagrees⟩ latest hlatest
    obtain rfl := Except.ok.inj (hother.symm.trans hok)
    obtain ⟨newOperationId, hfresh⟩ := w.db.operations.exists_fresh
    obtain ⟨newBackupId, hfreshBackup⟩ := w.db.backups.exists_fresh
    by_cases hsucceeded : latest.state = .succeeded
    · exact Or.inl hsucceeded
    · refine Or.inr fun reset hlast backup hbackup found hfound hrestorable => ?_
      obtain rfl := Option.some.inj (hcurrent.symm.trans hfound)
      have hcreates := (hcommand newOperationId hfresh).mpr
        ⟨reset, hlast, backup, hbackup, hrestorable⟩
      have hcan := (hagrees newOperationId newBackupId hfresh hfreshBackup).1.mpr hcreates
      obtain ⟨found, hfoundLatest, hstate, _⟩ := hrestore.mp hcan
      obtain rfl := Option.some.inj (hlatest.symm.trans hfoundLatest)
      exact hsucceeded hstate
  · intro hgoverns
    refine ⟨status, hok, fun newOperationId newBackupId hfresh hfreshBackup => ⟨?_, ?_⟩⟩
    · rw [hrestore, hcommand newOperationId hfresh]
      constructor
      · rintro ⟨latest, hlatest, hsucceeded, hrestorable⟩
        exact ⟨latest, hordered.latestSucceededReset?_of_succeeded hlatest hsucceeded,
          hrestorable⟩
      · rintro ⟨reset, hlast, backup, hbackup, hrestorable⟩
        obtain ⟨latest, hlatest⟩ := hordered.exists_latestRequestedReset hlast
        rcases hgoverns latest hlatest with hsucceeded | hno
        · have hsame := hordered.latestSucceededReset?_of_succeeded hlatest hsucceeded
          obtain rfl := Option.some.inj (hlast.symm.trans hsame)
          exact ⟨reset, hlatest, hsucceeded, backup, hbackup, hrestorable⟩
        · exact absurd hrestorable (hno reset hlast backup hbackup current hcurrent)
    · exact iff_of_true hreset
        (prepareResetMetadata_creates hfind hcurrent hopen hnone hfresh hfreshBackup)

end Agreement

namespace ManagementStatusWitness

open LifecycleWitness
open ResetExactWitness (env account)

def admin : UserRow := account 1 .admin none

/-- After a finished reset the status announces the restore which the command creates. -/
theorem lifecycle_statusAgrees_iff_reset : ∃ w, Lifecycle env AnyStep w ∧
    LastResetGoverns w ∧ (StatusAgrees w admin ↔ LastResetGoverns w) := by
  obtain ⟨w, _, hreach, hstate⟩ := Lifecycle.exists_of_run resetLabels
    (fun w => w.db.operations.rows.all (·.state != .running) && decide (admin ∈ w.db.data.users) &&
      w.db.latestRequestedReset?.all (·.state == .succeeded))
    (start_reached AnyStep) (by decide +kernel)
  simp only [Bool.and_eq_true, List.all_eq_true, bne_iff_ne, decide_eq_true_eq,
    Option.all_eq_true, beq_iff_eq] at hstate
  obtain ⟨⟨hidle, hactor⟩, hlatest⟩ := hstate
  exact ⟨w, hreach, fun latest hfound => Or.inl (hlatest latest hfound),
    lifecycle_statusAgrees_iff hreach hidle hactor ⟨rfl, rfl, rfl⟩⟩

/-- A second reset whose preparation fails. -/
def failedPreparationLabels : List Label :=
  resetLabels ++ [.prepareReset 1 20 21, .startCreation .database 21 (some 20),
    .interruptCreation 21 fun _ => false,
    .recordFailure (.backup 21 .databaseBackupFailed (some 20)),
    .recordFailure (.preparation 20)]

/-- After it the status hides the restore which the command still creates. -/
theorem not_lifecycle_statusAgrees_failedReset :
    ¬ ∀ w actor, Lifecycle env AnyStep w →
      (∀ operation ∈ w.db.operations.rows, operation.state ≠ .running) →
      actor ∈ w.db.data.users →
      actor.role = .admin ∧ actor.isActive = true ∧ actor.deletedAt = none →
      StatusAgrees w actor := by
  intro h
  obtain ⟨w, _, hreach, hstate⟩ := Lifecycle.exists_of_run failedPreparationLabels
    (fun w => w.db.operations.rows.all (·.state != .running) && decide (admin ∈ w.db.data.users) &&
      (w.db.operations.get? 22).isNone && (w.db.backups.get? 23).isNone &&
      (getSemesterManagementStatus w.db w.now admin).toOption.all (!·.canPrepareRestore) &&
      (prepareSemesterRestore w.db w.now 1 22).toOption.any fun prepared =>
        prepared.1.operations.rows.any fun operation => operation.id == 22 &&
          operation.operationType == .restore && operation.state == .running)
    (start_reached AnyStep) (by decide +kernel)
  simp only [Bool.and_eq_true, List.all_eq_true, bne_iff_ne, decide_eq_true_eq,
    Option.isNone_iff_eq_none] at hstate
  obtain ⟨⟨⟨⟨⟨hidle, hactor⟩, hfresh⟩, hfreshBackup⟩, hhidden⟩, hcreated⟩ := hstate
  obtain ⟨status, hok, hagrees⟩ := h w admin hreach hidle hactor ⟨rfl, rfl, rfl⟩
  have hno : status.canPrepareRestore = false := by simpa [hok, Except.toOption] using hhidden
  have hcreates : CreatesOperation (prepareSemesterRestore w.db w.now admin.id 22) .restore 22 := by
    cases hprepare : prepareSemesterRestore w.db w.now 1 22 with
    | error error => simp [hprepare, Except.toOption] at hcreated
    | ok prepared =>
        simp only [hprepare, Except.toOption, Option.any_some, List.any_eq_true,
          Bool.and_eq_true, beq_iff_eq] at hcreated
        obtain ⟨operation, hmem, ⟨hid, htype⟩, hrunning⟩ := hcreated
        exact ⟨prepared.1, prepared.2, hprepare, operation, hmem, hid, htype, hrunning⟩
  have hannounced := (hagrees 22 23 hfresh hfreshBackup).1.mpr hcreates
  simp [hno] at hannounced

end ManagementStatusWitness

end BuddyWeb
