/-
Every step of the lifecycle keeps its metadata, service by service.
-/
import BuddyWeb.Semester.Invariants

namespace BuddyWeb

namespace ResetAggregate

variable {operation : SemesterOperation} {before after : SemesterBackup} {semester : Semester}

/-- What the constraints of a backup row keep true. -/
structure Consistent (backup : SemesterBackup) : Prop where
  attached : backup.verifiedAt ≠ none → backup.IsAttached
  restored : backup.restoredAt = none →
    backup.restoredByAdminId = none ∧ backup.restoreOperationId = none

theorem consistent (h : ResetAggregate operation before semester) : Consistent before :=
  ⟨h.attached, h.restored⟩

/-- A new version of the backup in the phase it belongs to. -/
theorem update (h : ResetAggregate operation before semester)
    (horigin : before.SameOrigin after) (hconsistent : Consistent after)
    (hphase : ResetPhase operation after semester) :
    ResetAggregate operation after semester where
  operation_type := h.operation_type
  operation_backup := by rw [h.operation_backup, horigin.id]
  operation_semester := h.operation_semester
  backup_operation := horigin.operation.trans h.backup_operation
  backup_semester := horigin.semester.trans h.backup_semester
  boundary := horigin.boundary.trans h.boundary
  attached := hconsistent.attached
  restored := hconsistent.restored
  phase := hphase

/-- A backup may change as long as it is not finalized. -/
theorem unfinished (h : ResetAggregate operation before semester)
    (horigin : before.SameOrigin after) (hunfinished : after.IsUnfinished)
    (hverified : before.verifiedAt ≠ none → after.verifiedAt ≠ none)
    (hconsistent : Consistent after) : ResetAggregate operation after semester := by
  refine h.update horigin hconsistent ?_
  rcases h.phase with ⟨hstate, hcurrent, hopen, _⟩ | ⟨hstate, _⟩ |
    ⟨completedAt, hstate, hclosed, hreset, hdone, hcompleted, hbackup⟩
  · exact .running hstate hcurrent hopen hunfinished
  · exact .failed hstate hunfinished
  · exact .succeeded completedAt hstate hclosed hreset (hverified hdone) hcompleted
      (Or.inl hunfinished)

/-- A retained backup may change as long as it keeps its deadline. -/
theorem retained (h : ResetAggregate operation before semester)
    (hstate : before.state = .ready ∨ before.state = .restoreBlockedNewData)
    (horigin : before.SameOrigin after)
    (hretained : ∀ deadline, before.IsRetained deadline → after.IsRetained deadline)
    (hverified : after.verifiedAt = before.verifiedAt)
    (hconsistent : Consistent after) : ResetAggregate operation after semester := by
  have hnotUnfinished : ¬ before.IsUnfinished := by
    rintro ⟨⟨hcreating, _⟩ | hfailed, _⟩ <;> rcases hstate with h | h <;> simp_all
  refine h.update horigin hconsistent ?_
  rcases h.phase with ⟨_, _, _, hbackup⟩ | ⟨_, hbackup⟩ |
    ⟨completedAt, hsucceeded, hclosed, hreset, hdone, hcompleted, hbackup⟩
  · exact absurd hbackup hnotUnfinished
  · exact absurd hbackup hnotUnfinished
  · refine .succeeded completedAt hsucceeded hclosed hreset (hverified ▸ hdone) hcompleted
      (Or.inr (hretained _ ?_))
    exact hbackup.resolve_left hnotUnfinished

/-- A CREATING backup is not retained, so it is unfinished. -/
theorem unfinished_of_creating (h : ResetAggregate operation before semester)
    (hcreating : before.state = .creating) : before.IsUnfinished := by
  rcases h.phase with ⟨_, _, _, hbackup⟩ | ⟨_, hbackup⟩ | ⟨_, _, _, _, _, _, hbackup⟩
  · exact hbackup
  · exact hbackup
  · refine hbackup.resolve_right ?_
    rintro ⟨hstate, _⟩
    rcases hstate with hstate | hstate | hstate <;> simp [hcreating] at hstate

/-- A backup which is READY, blocked or EXPIRED has its deadline from the completed
reset. -/
theorem retained_of_state (h : ResetAggregate operation before semester)
    (hstate : before.state = .ready ∨ before.state = .restoreBlockedNewData ∨
      before.state = .expired) :
    operation.state = .succeeded ∧ semester.status = .closed ∧
      semester.resetOperationId = some operation.id ∧ before.verifiedAt ≠ none ∧
      ∃ completedAt, operation.completedAt = some completedAt ∧
        before.IsRetained (semesterBackupExpiresAt completedAt) := by
  have hnotUnfinished : ¬ before.IsUnfinished := by
    rintro ⟨⟨hcreating, _⟩ | hfailed, _⟩ <;> rcases hstate with h | h | h <;> simp_all
  rcases h.phase with ⟨_, _, _, hbackup⟩ | ⟨_, hbackup⟩ |
    ⟨completedAt, hsucceeded, hclosed, hreset, hdone, hcompleted, hbackup⟩
  · exact absurd hbackup hnotUnfinished
  · exact absurd hbackup hnotUnfinished
  · exact ⟨hsucceeded, hclosed, hreset, hdone, completedAt, hcompleted,
      hbackup.resolve_left hnotUnfinished⟩

end ResetAggregate

namespace LifecycleInvariant

/-- No running restore uses a CREATING backup. -/
theorem not_restoreLink_of_creating {restore reset : SemesterOperation}
    {backup : SemesterBackup} (hcreating : backup.state = .creating) :
    ¬ RestoreLink restore backup reset := by
  intro hlink
  rcases hlink.retained with hstate | hstate <;> simp [hcreating] at hstate

/-- The attachment fields which a verification has required. -/
theorem isAttached_of_required {backup : SemesterBackup} {checksums : String × String}
    (hrequired : requireAttachedPackage backup = .ok checksums) : backup.IsAttached := by
  unfold requireAttachedPackage at hrequired
  split at hrequired
  · rename_i h₁ h₂ h₃ h₄
    simp [SemesterBackup.IsAttached, h₁, h₂, h₃, h₄]
  · simp at hrequired

variable {db after : Database}

section Services

variable (h : LifecycleInvariant db)

include h

/-- A CREATING backup changes without being finalized. -/
theorem putCreating {backup changed : SemesterBackup} (hmem : backup ∈ db.backups.rows)
    (hcreating : backup.state = .creating) (horigin : backup.SameOrigin changed)
    (hunfinished : changed.IsUnfinished)
    (hverified : backup.verifiedAt ≠ none → changed.verifiedAt ≠ none)
    (hconsistent : ResetAggregate.Consistent changed) :
    LifecycleInvariant { db with backups := db.backups.put changed } :=
  h.putBackup hmem horigin.id horigin.operation
    (fun _ _ _ _ haggregate =>
      haggregate.unfinished horigin hunfinished hverified hconsistent)
    fun _ _ _ _ _ _ hlink => absurd hlink (not_restoreLink_of_creating hcreating)

theorem cohortWrite {current : Semester} {data : Dataset} {now : Nat}
    (hwrite : CohortWrite db current data) :
    LifecycleInvariant { db with
      data
      semesters := db.semesters.put (countRegistrations current
        (registeredStudents db.data data).length now) } := by
  have hadmins : ∀ user, user.role = .admin → (user ∈ data.users ↔ user ∈ db.data.users) := by
    intro user hrole
    have hsame := congrArg (user ∈ ·) hwrite.admins
    simpa [hrole] using hsame
  have hmem := Table.select?_mem hwrite.semester
  have hdata := h.withData hwrite.integrity hadmins
  have hcount : ∀ count, (countRegistrations current count now).id = current.id ∧
      (countRegistrations current count now).status = current.status ∧
      (countRegistrations current count now).startedAt = current.startedAt ∧
      (countRegistrations current count now).resetOperationId = current.resetOperationId := by
    intro count
    unfold countRegistrations
    split <;> simp
  obtain ⟨hid, hstatus, hstarted, hreset⟩ := hcount (registeredStudents db.data data).length
  exact hdata.putSemester hmem hid hstatus hstarted hreset

theorem attachPackage {checksums : Checksums} {backup attached : SemesterBackup}
    {stored result : StoredPackage} {content : PackageContent}
    (hmem : backup ∈ db.backups.rows)
    (hattach : attachBackupPackage checksums backup stored content = .ok (attached, result)) :
    LifecycleInvariant { db with backups := db.backups.put attached } := by
  obtain ⟨hcreating, _, _, hattaches⟩ := attachBackupPackage_spec hattach
  obtain ⟨operation, hoperation, semester, hsemester, haggregate⟩ := h.backups backup hmem
  have hunfinished := haggregate.unfinished_of_creating hcreating
  cases hattaches with
  | database hopen =>
      have hunverified : backup.verifiedAt = none := by
        by_contra hverified
        exact (haggregate.attached hverified).1 hopen
      exact h.putCreating hmem hcreating ⟨rfl, rfl, rfl, rfl⟩ hunfinished (fun hne => hne)
        ⟨fun hne => absurd hunverified hne, haggregate.restored⟩
  | avatars hopen =>
      have hunverified : backup.verifiedAt = none := by
        by_contra hverified
        exact (haggregate.attached hverified).2.2.1 hopen.1
      exact h.putCreating hmem hcreating ⟨rfl, rfl, rfl, rfl⟩ hunfinished (fun hne => hne)
        ⟨fun hne => absurd hunverified hne, haggregate.restored⟩

theorem markFailed (backupId : Nat) (code : FailureCode) :
    LifecycleInvariant (markSemesterBackupFailed db backupId code) := by
  unfold markSemesterBackupFailed
  split
  · exact h
  · rename_i backup hbackup
    split
    · rename_i hcreating
      have hmem := Table.get?_mem hbackup
      obtain ⟨operation, hoperation, semester, hsemester, haggregate⟩ := h.backups backup hmem
      exact h.putCreating hmem hcreating ⟨rfl, rfl, rfl, rfl⟩
        ⟨Or.inr rfl, (haggregate.unfinished_of_creating hcreating).2⟩ (fun hne => hne)
        ⟨haggregate.attached, haggregate.restored⟩
    · exact h

theorem failPreparation (operationId now : Nat) :
    LifecycleInvariant (failResetPreparation db operationId now) := by
  unfold failResetPreparation
  split
  · exact h
  · rename_i operation hoperation
    obtain ⟨hmem, hid⟩ := Table.get?_eq_some_iff.mp hoperation
    split
    · rename_i failed hfailed
      obtain ⟨_, rfl⟩ := SemesterOperation.fail_eq_ok_iff.mp hfailed
      split
      · rename_i hrunning
        have htype : operation.operationType = .reset ∨ operation.operationType = .restore := by
          cases operation.operationType <;> simp
        rcases htype with hreset | hrestore
        · exact h.failReset hmem hrunning hreset rfl
        · exact h.settleRestore hmem rfl hrestore hrestore (by simp)
      · exact h
    · exact h

theorem verify {env : SemesterEnvironment} {now backupId : Nat} {busy fault : Bool}
    {stored : StoredPackage} {report : SemesterBackupVerificationReport}
    (hverify : verifySemesterBackup env db now busy stored backupId fault =
      .ok (after, report)) : LifecycleInvariant after := by
  obtain ⟨_, backup, hbackup, ⟨rfl, _⟩ | ⟨operation, verified, hcreating, hoperation, _,
    hpackages, hverified, rfl⟩⟩ := verifySemesterBackup_spec hverify
  · exact h
  have hmem := Table.get?_mem hbackup
  obtain ⟨hoperationMem, hoperationId⟩ := Table.get?_eq_some_iff.mp hoperation
  obtain ⟨semester, hsemester, haggregate⟩ :=
    h.aggregate_of_backup hmem hoperationMem hoperationId.symm
  have hlinked : operation.backupId ≠ none := by simp [haggregate.operation_backup]
  rw [if_neg hlinked]
  have hattached : backup.IsAttached := by
    obtain ⟨_, _, _, _, _, _, hrequired, _⟩ := verifyPackages_eq_ok_iff.mp hpackages
    exact isAttached_of_required hrequired
  have hunfinished := haggregate.unfinished_of_creating hcreating
  by_cases hsucceeded : operation.state = .succeeded
  · obtain ⟨completedAt, hcompleted, hdeadline, _, rfl⟩ :=
      (finalizeVerification_eq_ok_iff hsucceeded).mp hverified
    refine h.putBackup hmem rfl rfl (fun other hother source hsource hbound => ?_)
      fun _ _ _ _ _ _ hlink => absurd hlink (not_restoreLink_of_creating hcreating)
    refine hbound.update ⟨rfl, rfl, rfl, rfl⟩ ⟨fun _ => hattached, hbound.restored⟩ ?_
    have hsame : other = operation := by
      refine Table.eq_of_key hother hoperationMem ?_
      exact hbound.backup_operation.symm.trans hoperationId.symm
    subst hsame
    rcases hbound.phase with ⟨hrunning, _⟩ | ⟨hfailed, _⟩ |
      ⟨found, hstate, hclosed, hreset, hdone, hfound, _⟩
    · simp [hsucceeded] at hrunning
    · simp [hsucceeded] at hfailed
    · obtain rfl := Option.some.inj (hfound.symm.trans hcompleted)
      refine .succeeded found hstate hclosed hreset ?_ hfound (Or.inr ⟨Or.inl rfl, rfl, ?_⟩)
      · obtain ⟨time, htime⟩ := Option.ne_none_iff_exists'.mp hdone
        simp [htime]
      · rcases hunfinished.1 with ⟨_, hcode⟩ | hfailed
        · exact hcode
        · simp [hcreating] at hfailed
  · rw [finalizeVerification_of_running hsucceeded] at hverified
    obtain rfl := Except.ok.inj hverified
    refine h.putCreating hmem hcreating ⟨rfl, rfl, rfl, rfl⟩ hunfinished (fun _ => ?_)
      ⟨fun _ => hattached, haggregate.restored⟩
    cases backup.verifiedAt <;> simp

theorem prepareReset {now actorId newOperationId newBackupId : Nat} {prepared : Nat × Nat}
    (hprepare : prepareResetMetadata db now actorId newOperationId newBackupId =
      .ok (after, prepared)) : LifecycleInvariant after := by
  obtain ⟨actor, current, hactor, hcurrent, hopen, ⟨_, _, _, rfl⟩ | ⟨hnone, operations,
    backups, hoperations, hbackups, rfl⟩⟩ := prepareResetMetadata_spec hprepare
  · exact h
  obtain ⟨hfind, hrole⟩ := requireManagementAdmin_eq_ok_iff.mp hactor
  have hstatus : current.status = .current := by simpa using Table.select?_filter hcurrent
  refine h.addReset (fun other hother => by simpa using Table.select?_eq_none hnone other hother)
    (Table.insert?_eq_some_iff.mp hoperations).2 (Table.insert?_eq_some_iff.mp hbackups).2
    ⟨actor, List.mem_of_find?_eq_some hfind, rfl, hrole⟩ (Table.select?_mem hcurrent) ?_
  exact
  { operation_type := rfl
    operation_backup := rfl
    operation_semester := rfl
    backup_operation := rfl
    backup_semester := rfl
    boundary := rfl
    attached := fun hverified => absurd rfl hverified
    restored := fun _ => ⟨rfl, rfl⟩
    phase := .running rfl hstatus hopen ⟨Or.inl ⟨rfl, rfl⟩, rfl⟩ }

theorem prepareRestore {now actorId newOperationId : Nat} {prepared : Nat × Nat}
    (hprepare : prepareSemesterRestore db now actorId newOperationId = .ok (after, prepared)) :
    LifecycleInvariant after := by
  obtain ⟨actor, current, hactor, _, ⟨_, _, _, rfl⟩ | ⟨hnone, reset, backup, operations,
    hlatest, hlink, hrestorable, hoperations, rfl⟩⟩ := prepareSemesterRestore_spec hprepare
  · exact h
  obtain ⟨hfind, hrole⟩ := requireManagementAdmin_eq_ok_iff.mp hactor
  obtain ⟨hresetMem, hresetType, hsucceeded⟩ := latestSucceededReset?_spec hlatest
  obtain ⟨created, hcreated, hcreatedLink, hcreator⟩ := h.resets reset hresetMem hresetType
  have hbackup : created = backup := by
    rw [hcreatedLink, Option.bind_some] at hlink
    exact Table.eq_of_key hcreated (Table.get?_mem hlink) (Table.get?_key hlink).symm
  subst hbackup
  have hready := (SemesterBackup.effectiveState_eq_ready_iff.mp hrestorable.1).1
  exact h.addRestore (fun other hother => by
      simpa using Table.select?_eq_none hnone other hother)
    (Table.insert?_eq_some_iff.mp hoperations).2 rfl
    ⟨actor, List.mem_of_find?_eq_some hfind, rfl, hrole⟩ hcreated hresetMem
    ⟨rfl, hcreator, hsucceeded, rfl, hrestorable.2.1, Or.inl hready⟩

/-- The commit of a reset. -/
theorem executeReset {env : SemesterEnvironment} {stored : StoredPackage}
    {request : ExecutionRequest} {clock : ResetClock} {fault : Option ResetStage}
    {committed : ResetCommit}
    (hreset : executeSemesterReset env db stored request clock fault = .ok committed) :
    LifecycleInvariant committed.database := by
  obtain ⟨context, hcontext, _, hkind⟩ := executeSemesterReset_spec hreset
  split at hkind
  · rw [hkind.1]
    exact h
  rename_i hreplay
  obtain ⟨database, avatars, result, _, _, hsql, hcommitted⟩ := hkind
  obtain ⟨hadmin, hoperation, hbackup, hsemester, _, heligible⟩ :=
    lockedResetContext_eq_ok_iff.mp hcontext
  simp only [hreplay, Bool.false_eq_true, ↓reduceIte] at heligible
  obtain ⟨hfind, hactive, _⟩ := requireActiveAdmin_eq_ok_iff.mp hadmin
  obtain ⟨hnotSucceeded, -, hrunning, -, -, -, hcurrent, -, hcreated, -, -, -, hverified, -⟩ :=
    heligible
  obtain ⟨_, _, _, hclose⟩ := (executeSemesterResetSql_eq_ok_iff h.integrity.data
    (Table.get?_self hoperation) (Table.get?_self hbackup) hsemester hnotSucceeded).mp hsql
  obtain ⟨_, semesters, hinsert, hsummary, rfl⟩ := closeSemester_eq_ok_iff.mp hclose
  have hrows := (Table.insert?_eq_some_iff.mp hinsert).2
  have hoperationMem := Table.get?_mem hoperation
  have hsemesterMem := Table.get?_mem hsemester
  obtain ⟨found, hfound, haggregate⟩ :=
    h.aggregate_of_backup (Table.get?_mem hbackup) hoperationMem hcreated
  have hsame : found = context.semester := by
    refine Table.eq_of_key hfound hsemesterMem ?_
    exact haggregate.operation_semester.symm.trans (Table.get?_key hsemester).symm
  subst hsame
  have hadmins : ∀ user : UserRow, user.role = .admin →
      (user ∈ (db.data.withoutCohort context.semester.id).users ↔ user ∈ db.data.users) := by
    intro user hrole
    refine ⟨fun huser => (mem_withoutCohort_iff.mp huser).1, fun huser => ?_⟩
    exact mem_withoutCohort_iff.mpr ⟨huser, by simp [Dataset.resetPredicate, hrole]⟩
  have hintegrity : { db with
      data := db.data.withoutCohort context.semester.id, semesters }.Integrity := by
    refine ⟨withoutCohort_integrity h.integrity.data, fun user huser semesterId hmem => ?_⟩
    obtain ⟨source, hsource, hid⟩ := h.integrity.user_semesters user
      (mem_withoutCohort_iff.mp huser).1 semesterId hmem
    have hclosedId : (closedSemester context.operation context.semester clock.now).id =
        context.semester.id := rfl
    rcases Table.mem_put_or_eq hsemesterMem hclosedId hsource with rfl | hkept
    · have hput := Table.mem_put_self hsemesterMem hclosedId
      exact ⟨closedSemester context.operation context.semester clock.now,
        by rw [hrows]; exact List.mem_cons_of_mem _ hput, hid⟩
    · exact ⟨source, by rw [hrows]; exact List.mem_cons_of_mem _ hkept, hid⟩
  have hclosed := h.closeReset (succeededReset context.operation
      (db.data.affectedCounts context.semester.id) committed.summary clock.now) hintegrity
    hadmins hoperationMem hrunning (Table.get?_mem hbackup) hsemesterMem
    hcurrent hverified haggregate rfl ⟨rfl, rfl⟩ hrows
  have hactor : context.actor ∈ (db.data.withoutCohort context.semester.id).users :=
    (hadmins _ hactive.1).mpr (List.mem_of_find?_eq_some hfind)
  rw [hcommitted]
  exact hclosed.withData
    ⟨recordAuditLog_integrity hclosed.integrity.data hactor hactive.1 _ _,
      hclosed.integrity.user_semesters⟩ fun _ _ => Iff.rfl

/-- Nothing is running once the running restore has settled. -/
theorem not_running_of_settled {before settled restore : SemesterOperation}
    (hmem : before ∈ db.operations.rows) (hrunning : before.state = .running)
    (hid : settled.id = before.id) (hstate : settled.state ≠ .running)
    (hrestore : restore ∈ (db.operations.put settled).rows) : restore.state ≠ .running := by
  intro hrun
  rcases Table.mem_put_cases hid hrestore with rfl | ⟨hold, hne⟩
  · exact hstate hrun
  · exact hne (h.running restore hold before hmem hrun hrunning)

/-- A restore settles together with the backup it uses. -/
theorem settleWithBackup {operation : SemesterOperation} (settled : SemesterOperation)
    {backup : SemesterBackup} (changed : SemesterBackup) (hmem : operation ∈ db.operations.rows)
    (hrunning : operation.state = .running) (hbefore : operation.operationType = .restore)
    (hafter : settled.operationType = .restore) (hid : settled.id = operation.id)
    (hstate : settled.state ≠ .running) (hbackup : backup ∈ db.backups.rows)
    (hready : backup.state = .ready ∨ backup.state = .restoreBlockedNewData)
    (horigin : backup.SameOrigin changed)
    (hretained : ∀ deadline, backup.IsRetained deadline → changed.IsRetained deadline)
    (hverified : changed.verifiedAt = backup.verifiedAt)
    (hconsistent : ResetAggregate.Consistent backup → ResetAggregate.Consistent changed) :
    LifecycleInvariant { db with
      backups := db.backups.put changed, operations := db.operations.put settled } := by
  have hsettled := h.settleRestore hmem hid hbefore hafter hstate
  refine hsettled.putBackup hbackup horigin.id horigin.operation
    (fun _ _ _ _ haggregate => haggregate.retained hready horigin hretained hverified
      (hconsistent haggregate.consistent)) ?_
  intro restore hrestore _ hrun
  exact absurd hrun (h.not_running_of_settled hmem hrunning hid hstate hrestore)

section Restore

variable {env : SemesterEnvironment} {now auditId : Nat} {request : ExecutionRequest}
  {context : RestoreContext} {gate : RestoreGate}

theorem gateCommit (hcontext : lockedRestoreContext env db request = .ok context)
    (hgate : GateCommit db now auditId context after gate) : LifecycleInvariant after := by
  obtain ⟨hadmin, hoperation, hbackup, _, _, _, _, _, hkind⟩ :=
    lockedRestoreContext_eq_ok_iff.mp hcontext
  obtain ⟨hfind, hactive, _⟩ := requireActiveAdmin_eq_ok_iff.mp hadmin
  have hoperationMem := Table.get?_mem hoperation
  have hbackupMem := Table.get?_mem hbackup
  cases hgate with
  | replay _ => exact h
  | ready _ _ _ => exact h
  | blocked hreplay _ hready _ =>
      simp only [hreplay, Bool.false_eq_true, ↓reduceIte] at hkind
      obtain ⟨_, htype, hrunning, _⟩ := hkind
      have hsettled := h.settleWithBackup { context.operation with
          completedAt := some now, failureCode := some .restoreBlockedNewData
          state := .failed } { context.backup with state := .restoreBlockedNewData }
        hoperationMem hrunning htype htype rfl (by simp) hbackupMem (Or.inl hready)
        ⟨rfl, rfl, rfl, rfl⟩
        (fun _ hretained => ⟨Or.inr (Or.inl rfl), hretained.2⟩) rfl
        fun hconsistent => ⟨hconsistent.attached, hconsistent.restored⟩
      exact hsettled.withData
        ⟨recordAuditLog_integrity h.integrity.data (List.mem_of_find?_eq_some hfind)
          hactive.1 _ _, hsettled.integrity.user_semesters⟩ fun _ _ => Iff.rfl
  | expired _ hreplay _ _ _ hedge _ =>
      simp only [hreplay, Bool.false_eq_true, ↓reduceIte] at hkind
      obtain ⟨_, htype, hrunning, _⟩ := hkind
      exact h.settleWithBackup { context.operation with
          completedAt := some now, failureCode := some .restoreBackupExpired
          state := .failed } { context.backup with state := .expired }
        hoperationMem hrunning htype htype rfl (by simp) hbackupMem hedge ⟨rfl, rfl, rfl, rfl⟩
        (fun _ hretained => ⟨Or.inr (Or.inr rfl), hretained.2⟩) rfl
        fun hconsistent => ⟨hconsistent.attached, hconsistent.restored⟩

theorem restoreGate
    (hgate : semesterRestoreGate env db now request auditId = .ok (after, gate)) :
    LifecycleInvariant after := by
  obtain ⟨context, hcontext, hcommit⟩ := semesterRestoreGate_eq_ok_iff.mp hgate
  exact h.gateCommit hcontext hcommit

theorem restoreFinal {images restoredImages : ImageStore} {package : RestorePackage}
    (hstudents : StudentRows package.artifact)
    (hfinal : semesterRestoreFinal env db now images package request auditId =
      .ok (after, restoredImages, gate)) : LifecycleInvariant after := by
  obtain ⟨context, hcontext, ⟨hcommit, _⟩ | ⟨_, hreplay, _, heffective, counts, summary,
    hintegrity, _, hrunning, rfl⟩⟩ := semesterRestoreFinal_spec hfinal
  · exact h.gateCommit hcontext hcommit
  obtain ⟨hadmin, hoperation, hbackup, _, _, _, _, _, hkind⟩ :=
    lockedRestoreContext_eq_ok_iff.mp hcontext
  obtain ⟨hfind, hactive, _⟩ := requireActiveAdmin_eq_ok_iff.mp hadmin
  simp only [hreplay, Bool.false_eq_true, ↓reduceIte] at hkind
  obtain ⟨_, htype, _⟩ := hkind
  have hstate := (SemesterBackup.effectiveState_eq_ready_iff.mp heffective).1
  have hsettled := h.settleWithBackup { context.operation with
      affectedCounts := counts, completedAt := some now, resultSummary := summary
      failureCode := none, state := .succeeded }
    (restoredBackup context.backup context.operation.id context.actor.id now)
    (Table.get?_mem hoperation) hrunning htype htype rfl (by simp) (Table.get?_mem hbackup)
    (Or.inl hstate) ⟨rfl, rfl, rfl, rfl⟩ (fun _ hretained => hretained) rfl
    fun hconsistent => ⟨hconsistent.attached, fun hnone => by simp [restoredBackup] at hnone⟩
  have hadmins : ∀ user : UserRow, user.role = .admin →
      (user ∈ (db.data.insertRows package.artifact).users ↔ user ∈ db.data.users) := by
    intro user hrole
    refine List.mem_append.trans ⟨fun huser => huser.resolve_left fun hartifact => ?_, Or.inr⟩
    exact absurd ((hstudents user hartifact).symm.trans hrole) (by decide)
  have hactor := (hadmins _ hactive.1).mpr (List.mem_of_find?_eq_some hfind)
  exact hsettled.withData ⟨recordAuditLog_integrity hintegrity.data hactor hactive.1 _ _,
    hintegrity.user_semesters⟩ hadmins

end Restore

/-- A due backup which is EXPIRED; a running restore may still refer to it. -/
theorem expire {backup expired : SemesterBackup} {now : Nat} {skipped : List Nat}
    (hselect : selectExpiredBackup db now skipped = some backup)
    (hexpired : backup.transitionTo .expired = .ok expired) :
    LifecycleInvariant { db with backups := db.backups.put expired } := by
  obtain ⟨hmem, hstate, _⟩ := selectExpiredBackup_spec hselect
  obtain ⟨_, rfl⟩ := SemesterBackup.transitionTo_eq_ok_iff.mp hexpired
  refine h.putBackup hmem rfl rfl (fun _ _ _ _ haggregate => ?_) fun _ _ _ _ _ _ hlink => ?_
  · exact haggregate.retained hstate ⟨rfl, rfl, rfl, rfl⟩
      (fun _ hretained => ⟨Or.inr (Or.inr rfl), hretained.2⟩) rfl
      ⟨haggregate.attached, haggregate.restored⟩
  · exact { hlink with retained := Or.inr rfl }

end Services

end LifecycleInvariant

end BuddyWeb
