/-
What a step does to the tables of the lifecycle: the changes of a backup, of an
operation and of a semester, each with the guard under which the services make it.
-/
import BuddyWeb.Lib.TableHistory
import BuddyWeb.Semester.LifecycleRun

namespace BuddyWeb

/-- The changes of a backup.  A restore which its gate ends leaves nothing running. -/
inductive BackupChange (checksums : Checksums) (w : World) (label : Label) (after : Database)
    (backup : SemesterBackup) : SemesterBackup → Prop
  | attached {content : PackageContent} {attached : SemesterBackup}
      (hcreating : backup.state = .creating)
      (hattaches : Attaches checksums backup content attached) :
      BackupChange checksums w label after backup attached
  | verified (hcreating : backup.state = .creating) :
      BackupChange checksums w label after backup
        { backup with verifiedAt := backup.verifiedAt.or (some w.now) }
  | finalized {reset : SemesterOperation} {completedAt : Nat}
      (hcreating : backup.state = .creating) (hreset : reset ∈ w.db.operations.rows)
      (hcreated : backup.createdByOperationId = reset.id) (hsucceeded : reset.state = .succeeded)
      (hcompleted : reset.completedAt = some completedAt)
      (hdeadline : w.now < semesterBackupExpiresAt completedAt) :
      BackupChange checksums w label after backup { backup with
        verifiedAt := backup.verifiedAt.or (some w.now)
        expiresAt := some (semesterBackupExpiresAt completedAt), state := .ready }
  | failed {code : FailureCode} {caller : Option Nat} (hcreating : backup.state = .creating)
      (hpending : .backup backup.id code caller ∈ w.failing) :
      BackupChange checksums w label after backup
        { backup with failureCode := some code, state := .failed }
  | blocked {current : Semester} (hcurrent : w.db.currentSemester? = some current)
      (hstudents : current.HasNewStudents) (hready : backup.state = .ready)
      (hsettled : ∀ operation ∈ after.operations.rows, operation.state ≠ .running) :
      BackupChange checksums w label after backup { backup with state := .restoreBlockedNewData }
  | expired {deadline : Nat}
      (hedge : backup.state = .ready ∨ backup.state = .restoreBlockedNewData)
      (hexpires : backup.expiresAt = some deadline) (hdue : deadline ≤ w.now)
      (hcause : (∃ skipped, label = .expireBackup skipped ∧
          selectExpiredBackup w.db w.now skipped = some backup) ∨
        ∀ operation ∈ after.operations.rows, operation.state ≠ .running) :
      BackupChange checksums w label after backup { backup with state := .expired }
  | restored {current : Semester} {operationId adminId : Nat}
      (hcurrent : w.db.currentSemester? = some current)
      (hstudents : ¬ current.HasNewStudents)
      (heffective : backup.effectiveState w.now = .ok .ready)
      (hunrestored : backup.restoredAt = none) :
      BackupChange checksums w label after backup (restoredBackup backup operationId adminId w.now)

/-- The backup which a preparation adds. -/
def BackupAdded (added : SemesterBackup) : Prop :=
  ∃ id source operationId, added = creatingBackup id source operationId

/-- The changes of an operation; a restore succeeds together with its backup. -/
inductive OperationChange (w : World) (label : Label) (after : Database)
    (operation : SemesterOperation) : SemesterOperation → Prop
  | failed {code : FailureCode} (hrunning : operation.state = .running) :
      OperationChange w label after operation { operation with
        completedAt := some w.now, failureCode := some code, state := .failed }
  | reset {affected : RowCounts} {summary : ResultSummary}
      (hrunning : operation.state = .running) (htype : operation.operationType = .reset)
      (hlabel : ∃ request newSemesterId auditId,
        label = .executeReset request newSemesterId auditId) :
      OperationChange w label after operation (succeededReset operation affected summary w.now)
  | restore {counts : RowCounts} {summary : ResultSummary} {backup : SemesterBackup}
      {adminId : Nat} (hrunning : operation.state = .running)
      (htype : operation.operationType = .restore)
      (hlink : operation.backupId = some backup.id) (hbackup : backup ∈ w.db.backups.rows)
      (hunrestored : backup.restoredAt = none)
      (hrestored : restoredBackup backup operation.id adminId w.now ∈ after.backups.rows) :
      OperationChange w label after operation { operation with
        affectedCounts := counts, completedAt := some w.now, resultSummary := summary
        failureCode := none, state := .succeeded }

/-- The operation which a preparation adds while nothing is running; a restore uses a
READY backup. -/
def OperationAdded (w : World) (after : Database) (added : SemesterOperation) : Prop :=
  (∀ other ∈ w.db.operations.rows, other.state ≠ .running) ∧
    ∃ id operationType semesterId adminActorId backupId,
      added = runningOperation id operationType semesterId adminActorId backupId w.now ∧
      (operationType = .restore → after.backups = w.db.backups ∧
        ∃ backup ∈ w.db.backups.rows, backup.id = backupId ∧
          backup.effectiveState w.now = .ok .ready)

/-- The changes of a semester. -/
inductive SemesterChange (w : World) (semester : Semester) : Semester → Prop
  | counted {count : Nat} : SemesterChange w semester (countRegistrations semester count w.now)
  | closed {operation : SemesterOperation} (hcurrent : semester.status = .current) :
      SemesterChange w semester (closedSemester operation semester w.now)

/-- The semester which a reset opens. -/
def SemesterAdded (w : World) (added : Semester) : Prop :=
  ∃ id, added = nextSemester id w.now

/-- What one step does to the tables of the lifecycle. -/
structure LifecycleChange (checksums : Checksums) (w : World) (label : Label)
    (after : Database) : Prop where
  backups : w.db.backups.Evolves (BackupChange checksums w label after) BackupAdded
    after.backups
  operations : w.db.operations.Evolves (OperationChange w label after) (OperationAdded w after)
    after.operations
  semesters : w.db.semesters.Evolves (SemesterChange w) (SemesterAdded w) after.semesters

namespace BackupChange

variable {checksums : Checksums} {w : World} {label : Label} {after : Database}
  {backup changed : SemesterBackup}

theorem sameOrigin (h : BackupChange checksums w label after backup changed) :
    backup.SameOrigin changed := by
  cases h with
  | attached _ hattaches => cases hattaches <;> exact ⟨rfl, rfl, rfl, rfl⟩
  | _ => exact ⟨rfl, rfl, rfl, rfl⟩

end BackupChange

namespace OperationChange

variable {w : World} {label : Label} {after : Database}
  {operation changed : SemesterOperation}

/-- Only a running operation changes, and it settles now. -/
theorem settles (h : OperationChange w label after operation changed) :
    operation.state = .running ∧ changed.state ≠ .running ∧ changed.completedAt = some w.now ∧
      changed.id = operation.id ∧ changed.operationType = operation.operationType ∧
      changed.requestedAt = operation.requestedAt ∧ changed.backupId = operation.backupId := by
  cases h with
  | failed hrunning => exact ⟨hrunning, by simp, rfl, rfl, rfl, rfl, rfl⟩
  | reset hrunning => exact ⟨hrunning, by simp [succeededReset], rfl, rfl, rfl, rfl, rfl⟩
  | restore hrunning => exact ⟨hrunning, by simp, rfl, rfl, rfl, rfl, rfl⟩

end OperationChange

namespace LifecycleChange

variable {checksums : Checksums} {env : SemesterEnvironment} {w : World} {label : Label}
  {after : Database}

theorem frame (hbackups : after.backups = w.db.backups)
    (hoperations : after.operations = w.db.operations)
    (hsemesters : after.semesters = w.db.semesters) : LifecycleChange checksums w label after :=
  ⟨.of_eq hbackups, .of_eq hoperations, .of_eq hsemesters⟩

/-- One new version of a backup. -/
theorem putBackup {backup changed : SemesterBackup} (hmem : backup ∈ w.db.backups.rows)
    (hchange : BackupChange checksums w label after backup changed)
    (hbackups : after.backups = w.db.backups.put changed)
    (hoperations : after.operations = w.db.operations)
    (hsemesters : after.semesters = w.db.semesters) : LifecycleChange checksums w label after :=
  ⟨hbackups ▸ .put hmem hchange.sameOrigin.id hchange, .of_eq hoperations, .of_eq hsemesters⟩

theorem cohortWrite {current : Semester} {data : Dataset}
    (hwrite : CohortWrite w.db current data) :
    LifecycleChange checksums w label { w.db with
      data
      semesters := w.db.semesters.put (countRegistrations current
        (registeredStudents w.db.data data).length w.now) } where
  backups := .refl _
  operations := .refl _
  semesters := by
    refine .put (Table.select?_mem hwrite.semester) ?_ .counted
    unfold countRegistrations
    split <;> rfl

theorem prepareReset {actorId newOperationId newBackupId : Nat} {prepared : Nat × Nat}
    (hprepare : prepareResetMetadata w.db w.now actorId newOperationId newBackupId =
      .ok (after, prepared)) : LifecycleChange checksums w label after := by
  obtain ⟨actor, current, _, _, _, ⟨_, _, _, rfl⟩ | ⟨hnone, operations, backups, hoperations,
    hbackups, rfl⟩⟩ := prepareResetMetadata_spec hprepare
  · exact frame rfl rfl rfl
  · exact ⟨.insert ⟨_, _, _, rfl⟩ hbackups,
      .insert ⟨fun other hother => by simpa using Table.select?_eq_none hnone other hother,
        _, _, _, _, _, rfl, by simp⟩ hoperations, .refl _⟩

theorem prepareRestore {actorId newOperationId : Nat} {prepared : Nat × Nat}
    (hprepare : prepareSemesterRestore w.db w.now actorId newOperationId =
      .ok (after, prepared)) : LifecycleChange checksums w label after := by
  obtain ⟨actor, current, _, _, ⟨_, _, _, rfl⟩ | ⟨hnone, _, backup, operations, _, hlink,
    hrestorable, hoperations, rfl⟩⟩ := prepareSemesterRestore_spec hprepare
  · exact frame rfl rfl rfl
  · obtain ⟨_, _, hbackup⟩ := Option.bind_eq_some_iff.mp hlink
    exact ⟨.refl _,
      .insert ⟨fun other hother => by simpa using Table.select?_eq_none hnone other hother,
        _, _, _, _, _, rfl, fun _ => ⟨rfl, backup, Table.get?_mem hbackup, rfl, hrestorable.1⟩⟩
        hoperations, .refl _⟩

theorem verify {backupId : Nat} {busy fault : Bool} {stored : StoredPackage}
    {report : SemesterBackupVerificationReport} (hlife : LifecycleInvariant w.db)
    (hverify : verifySemesterBackup env w.db w.now busy stored backupId fault =
      .ok (after, report)) : LifecycleChange checksums w label after := by
  obtain ⟨_, backup, hbackup, ⟨rfl, _⟩ | ⟨operation, verified, hcreating, hoperation, _, _,
    hverified, rfl⟩⟩ := verifySemesterBackup_spec hverify
  · exact frame rfl rfl rfl
  have hmem := Table.get?_mem hbackup
  obtain ⟨hoperationMem, hoperationId⟩ := Table.get?_eq_some_iff.mp hoperation
  obtain ⟨_, _, haggregate⟩ := hlife.aggregate_of_backup hmem hoperationMem hoperationId.symm
  have hlinked : operation.backupId ≠ none := by simp [haggregate.operation_backup]
  by_cases hsucceeded : operation.state = .succeeded
  · obtain ⟨completedAt, hcompleted, hdeadline, _, rfl⟩ :=
      (finalizeVerification_eq_ok_iff hsucceeded).mp hverified
    exact putBackup hmem
      (.finalized hcreating hoperationMem hoperationId.symm hsucceeded hcompleted hdeadline)
      rfl (if_neg hlinked) rfl
  · rw [finalizeVerification_of_running hsucceeded] at hverified
    obtain rfl := Except.ok.inj hverified
    exact putBackup hmem (.verified hcreating) rfl (if_neg hlinked) rfl

theorem recordFailure {pending : PendingFailure} (hpending : pending ∈ w.failing) :
    LifecycleChange checksums w label (pending.record w.db w.now) := by
  cases pending with
  | backup backupId code _ =>
      simp only [PendingFailure.record, markSemesterBackupFailed]
      split
      · exact frame rfl rfl rfl
      · rename_i backup hbackup
        split
        · rename_i hcreating
          obtain rfl : backup.id = backupId := Table.get?_key hbackup
          exact putBackup (Table.get?_mem hbackup) (.failed hcreating hpending) rfl rfl rfl
        · exact frame rfl rfl rfl
  | preparation operationId =>
      simp only [PendingFailure.record, failResetPreparation]
      split
      · exact frame rfl rfl rfl
      · rename_i operation hoperation
        split
        · rename_i failed hfailed
          obtain ⟨_, rfl⟩ := SemesterOperation.fail_eq_ok_iff.mp hfailed
          split
          · rename_i hrunning
            exact ⟨.refl _, .put (Table.get?_mem hoperation) rfl (.failed hrunning), .refl _⟩
          · exact frame rfl rfl rfl
        · exact frame rfl rfl rfl

theorem executeReset {stored : StoredPackage} {request : ExecutionRequest}
    {newSemesterId auditId : Nat} {committed : ResetCommit} (hlife : LifecycleInvariant w.db)
    (hreset : executeSemesterReset env w.db stored request ⟨w.now, newSemesterId, auditId⟩
      none = .ok committed) :
    LifecycleChange checksums w (.executeReset request newSemesterId auditId)
      committed.database := by
  obtain ⟨context, hcontext, _, hkind⟩ := executeSemesterReset_spec hreset
  split at hkind
  · exact hkind.1 ▸ frame rfl rfl rfl
  rename_i hreplay
  obtain ⟨_, _, _, _, _, hsql, hcommitted⟩ := hkind
  obtain ⟨_, hoperation, hbackup, hsemester, _, heligible⟩ :=
    lockedResetContext_eq_ok_iff.mp hcontext
  simp only [hreplay, Bool.false_eq_true, ↓reduceIte] at heligible
  obtain ⟨hnotSucceeded, htype, hrunning, -, -, -, hcurrent, -⟩ := heligible
  obtain ⟨_, _, _, hclose⟩ := (executeSemesterResetSql_eq_ok_iff hlife.integrity.data
    (Table.get?_self hoperation) (Table.get?_self hbackup) hsemester hnotSucceeded).mp hsql
  obtain ⟨_, semesters, hinsert, _, rfl⟩ := closeSemester_eq_ok_iff.mp hclose
  rw [hcommitted]
  refine ⟨.refl _, .put (Table.get?_mem hoperation) rfl (.reset hrunning htype ⟨_, _, _, rfl⟩), ?_⟩
  exact .put_insert (Table.get?_mem hsemester) (by rfl) (.closed hcurrent) ⟨_, rfl⟩ hinsert

section Restore

variable {auditId : Nat} {request : ExecutionRequest} {context : RestoreContext}
  {gate : RestoreGate}

theorem gateCommit (hlife : LifecycleInvariant w.db)
    (hcontext : lockedRestoreContext env w.db request = .ok context)
    (hgate : GateCommit w.db w.now auditId context after gate) :
    LifecycleChange checksums w label after := by
  obtain ⟨_, hoperation, hbackup, _, hcurrent, _, _, _, hkind⟩ :=
    lockedRestoreContext_eq_ok_iff.mp hcontext
  have hoperationMem := Table.get?_mem hoperation
  have hmem := Table.get?_mem hbackup
  cases hgate with
  | replay | ready => exact frame rfl rfl rfl
  | blocked hreplay hstudents hready _ =>
      simp only [hreplay, Bool.false_eq_true, ↓reduceIte] at hkind
      obtain ⟨_, -, hrunning, _⟩ := hkind
      exact ⟨.put hmem rfl (.blocked hcurrent hstudents hready fun other hother =>
          hlife.not_running_of_settled hoperationMem hrunning (by rfl) (by simp) hother),
        .put hoperationMem rfl (.failed hrunning), .refl _⟩
  | expired effectiveState hreplay _ heffective hnotReady hedge _ =>
      simp only [hreplay, Bool.false_eq_true, ↓reduceIte] at hkind
      obtain ⟨_, -, hrunning, -, -, -, -, -, -, -, -, -, -, -, -, hready, -⟩ := hkind
      obtain ⟨_, _, _, _, haggregate⟩ := hlife.backups _ hmem
      obtain ⟨_, _, _, _, completedAt, _, hretained⟩ :=
        haggregate.retained_of_state (Or.inl hready)
      have hdue : semesterBackupExpiresAt completedAt ≤ w.now := by
        by_contra hearly
        have hstate := SemesterBackup.effectiveState_eq_ready_iff.mpr
          ⟨hready, _, hretained.2.1, not_le.mp hearly⟩
        exact hnotReady (Except.ok.inj (heffective.symm.trans hstate))
      exact ⟨.put hmem rfl (.expired hedge hretained.2.1 hdue (Or.inr fun other hother =>
          hlife.not_running_of_settled hoperationMem hrunning (by rfl) (by simp) hother)),
        .put hoperationMem rfl (.failed hrunning), .refl _⟩

theorem restoreFinal {images restoredImages : ImageStore} {package : RestorePackage}
    (hlife : LifecycleInvariant w.db)
    (hfinal : semesterRestoreFinal env w.db w.now images package request auditId =
      .ok (after, restoredImages, gate)) : LifecycleChange checksums w label after := by
  obtain ⟨context, hcontext, ⟨hcommit, _⟩ | ⟨_, hreplay, hstudents, heffective, counts, summary,
    _, _, hrunning, rfl⟩⟩ := semesterRestoreFinal_spec hfinal
  · exact gateCommit hlife hcontext hcommit
  obtain ⟨_, hoperation, hbackup, hlink, hcurrent, _, _, _, hkind⟩ :=
    lockedRestoreContext_eq_ok_iff.mp hcontext
  simp only [hreplay, Bool.false_eq_true, ↓reduceIte] at hkind
  obtain ⟨_, htype, -, -, -, -, -, -, -, -, -, -, -, -, -, -, -, -, -, -, -, -, -,
    hunrestored, -⟩ := hkind
  have hmem := Table.get?_mem hbackup
  exact ⟨.put hmem rfl (.restored hcurrent hstudents heffective hunrestored),
    .put (Table.get?_mem hoperation) rfl
      (.restore hrunning htype hlink hmem hunrestored (Table.mem_put_self hmem rfl)), .refl _⟩

end Restore

end LifecycleChange

/-- The tables of the lifecycle after a step. -/
theorem Step.change {env : SemesterEnvironment} {w after : World} {label : Label}
    (hstep : Step env w label after) (hlife : LifecycleInvariant w.db) :
    LifecycleChange env.checksums w label after.db := by
  cases hstep with
  | tick | startCreation | interruptExport | rejectCreation | refuseAttachment | interruptCreation
  | rejectVerification | skipFailure | interruptReset | loadRestore | interruptRestore
  | interruptExpiry | migrate => exact .frame rfl rfl rfl
  | cohortWrite hwrite => exact .cohortWrite hwrite
  | prepareReset hprepare => exact .prepareReset hprepare
  | attachCreation _ hbackup hattach =>
      obtain ⟨hcreating, _, _, hattaches⟩ := attachBackupPackage_spec hattach
      exact .putBackup (Table.get?_mem hbackup) (.attached hcreating hattaches) rfl rfl rfl
  | verify _ hverify => exact .verify hlife hverify
  | recordFailure hpending => exact .recordFailure hpending
  | executeReset hreset => exact .executeReset hlife hreset
  | prepareRestore hprepare => exact .prepareRestore hprepare
  | restoreGate hgate =>
      obtain ⟨_, hcontext, hcommit⟩ := semesterRestoreGate_eq_ok_iff.mp hgate
      exact .gateCommit hlife hcontext hcommit
  | finishRestore _ hfinal => exact .restoreFinal hlife hfinal
  | expireBackup hselect _ hexpired =>
      obtain ⟨hmem, hedge, deadline, hdeadline, hdue⟩ := selectExpiredBackup_spec hselect
      obtain ⟨_, rfl⟩ := SemesterBackup.transitionTo_eq_ok_iff.mp hexpired
      exact .putBackup hmem (.expired hedge hdeadline hdue (Or.inl ⟨_, rfl, hselect⟩))
        rfl rfl rfl

end BuddyWeb
