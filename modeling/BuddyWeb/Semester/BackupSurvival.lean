/-
The backup of a committed reset until it is READY: a failed verification after the
commit is recorded like one before it, and gives the deleted cohort up.
-/
import BuddyWeb.Semester.LifecycleChanges
import BuddyWeb.Semester.RestoreCompatibility

namespace BuddyWeb

/-- The backup whose failure a handler has not recorded yet. -/
def PendingFailure.backupId? : PendingFailure → Option Nat
  | .backup backupId _ _ => some backupId
  | .preparation _ => none

/-- The reset of the backup has succeeded and the backup is not READY yet. -/
def AwaitsReady (db : Database) (backup : SemesterBackup) : Prop :=
  backup.state = .creating ∧ ∃ reset ∈ db.operations.rows,
    backup.createdByOperationId = reset.id ∧ reset.state = .succeeded

instance (db : Database) (backup : SemesterBackup) : Decidable (AwaitsReady db backup) := by
  unfold AwaitsReady
  infer_instance

/-- The retention of the backup has not elapsed. -/
def BeforeDeadline (w : World) (backup : SemesterBackup) : Prop :=
  ∀ reset ∈ w.db.operations.rows, backup.createdByOperationId = reset.id →
    ∀ completedAt ∈ reset.completedAt, w.now < semesterBackupExpiresAt completedAt

instance (w : World) (backup : SemesterBackup) : Decidable (BeforeDeadline w backup) := by
  unfold BeforeDeadline
  infer_instance

/-- A reset commits while no handler waits to fail its backup; until the backup is READY
no read fails, the verification comes in time and the schema stays. -/
def KeepsCommittedBackups (w : World) : Label → Prop
  | .executeReset request _ _ =>
      (∃ operation ∈ w.db.operations.rows, operation.id = request.operationId ∧
        operation.state = .succeeded) ∨
      ∀ pending ∈ w.failing, pending.backupId? ≠ some request.backupId
  | .verify backupId _ fault => ∀ backup ∈ w.db.backups.rows, backup.id = backupId →
      AwaitsReady w.db backup → fault = false ∧ BeforeDeadline w backup
  | .interruptExport _ backupId _ => ∀ backup ∈ w.db.backups.rows, backup.id = backupId →
      ¬ AwaitsReady w.db backup
  | .migrate alembicHead => alembicHead = w.db.alembicHead ∨
      ∀ backup ∈ w.db.backups.rows, ¬ AwaitsReady w.db backup
  | _ => True

instance (w : World) (label : Label) : Decidable (KeepsCommittedBackups w label) := by
  apply @Label.casesOn (fun label => Decidable (KeepsCommittedBackups w label)) label <;> intros <;>
    unfold KeepsCommittedBackups <;> infer_instance

/-- The backup of a SUCCEEDED reset is not FAILED, and a verification before the deadline
makes it READY. -/
def SurvivesReset (env : SemesterEnvironment) (w : World) : Prop :=
  ∀ reset ∈ w.db.operations.rows, reset.operationType = .reset → reset.state = .succeeded →
    ∀ backup ∈ w.db.backups.rows, backup.createdByOperationId = reset.id →
      backup.state ≠ .failed ∧
      (backup.state = .creating →
        (∀ completedAt ∈ reset.completedAt, w.now < semesterBackupExpiresAt completedAt) →
        ∃ after report, verifySemesterBackup env w.db w.now (w.busy backup.id)
            (w.packages backup.id) backup.id false = .ok (after, report) ∧
          ∃ ready ∈ after.backups.rows, ready.id = backup.id ∧ ready.state = .ready)

/-- What keeps the backup of a committed reset verifiable. -/
structure CommittedBackup (env : SemesterEnvironment) (w : World) (backup : SemesterBackup) :
    Prop where
  state : backup.state ≠ .failed
  unfailing : backup.state = .creating →
    ∀ pending ∈ w.failing, pending.backupId? ≠ some backup.id
  compatible : backup.state = .creating →
    ∀ database ∈ (w.packages backup.id).databaseManifest, DatabaseCompatible env w.db database

/-- The backups of all SUCCEEDED resets stay verifiable. -/
def CommittedBackups (env : SemesterEnvironment) (w : World) : Prop :=
  ∀ reset ∈ w.db.operations.rows, reset.operationType = .reset → reset.state = .succeeded →
    ∀ backup ∈ w.db.backups.rows, backup.createdByOperationId = reset.id →
      CommittedBackup env w backup

section Verification

variable {env : SemesterEnvironment} {w after : World} {label : Label} {backup : SemesterBackup}
  {reset : SemesterOperation}

/-- A CREATING backup of a SUCCEEDED reset has both packages, complete and unlocked. -/
theorem WorldInvariant.complete_of_succeeded (h : WorldInvariant env w)
    (hreset : reset ∈ w.db.operations.rows) (hsucceeded : reset.state = .succeeded)
    (hbackup : backup ∈ w.db.backups.rows) (hcreated : backup.createdByOperationId = reset.id)
    (hcreating : backup.state = .creating) :
    backup.IsAttached ∧ w.creating backup.id = none ∧
      PackageComplete env.checksums backup (w.packages backup.id) := by
  obtain ⟨semester, _, haggregate⟩ := h.lifecycle.aggregate_of_backup hbackup hreset hcreated
  have hverified : backup.verifiedAt ≠ none := by
    rcases haggregate.phase with ⟨hstate, _⟩ | ⟨hstate, _⟩ | ⟨_, _, _, _, hverified, _⟩
    · simp [hsucceeded] at hstate
    · simp [hsucceeded] at hstate
    · exact hverified
  have hattached := haggregate.attached hverified
  have hget : w.db.backups.get? backup.id = some backup :=
    Table.get?_eq_some_iff.mpr ⟨hbackup, rfl⟩
  have hcell := h.storage.cells backup.id
  rw [hget] at hcell
  exact ⟨hattached, hcell.creation_eq_none hattached, hcell.verified backup rfl hcreating
    hverified⟩

/-- Such a backup is verified before its deadline when nothing fails. -/
theorem CommittedBackup.verify (h : CommittedBackup env w backup)
    (hinvariant : WorldInvariant env w) (hreset : reset ∈ w.db.operations.rows)
    (hsucceeded : reset.state = .succeeded) (hbackup : backup ∈ w.db.backups.rows)
    (hcreated : backup.createdByOperationId = reset.id) (hcreating : backup.state = .creating)
    (hdeadline : ∀ completedAt ∈ reset.completedAt,
      w.now < semesterBackupExpiresAt completedAt) :
    ∃ after report, verifySemesterBackup env w.db w.now (w.busy backup.id)
        (w.packages backup.id) backup.id false = .ok (after, report) ∧
      ∃ ready ∈ after.backups.rows, ready.id = backup.id ∧ ready.state = .ready := by
  obtain ⟨_, hfree, hcomplete⟩ :=
    hinvariant.complete_of_succeeded hreset hsucceeded hbackup hcreated hcreating
  obtain ⟨_, _, haggregate⟩ :=
    hinvariant.lifecycle.aggregate_of_backup hbackup hreset hcreated
  obtain ⟨databaseChecksum, avatarChecksum, database, artifact, avatars, contents, hrequired,
    hdatabase, havatars, hlinked⟩ := hcomplete
  have hpackages : verifyPackages env w.db backup (w.packages backup.id) = .ok () :=
    verifyPackages_eq_ok_iff.mpr ⟨databaseChecksum, avatarChecksum, database, artifact, avatars,
      contents, hrequired, hdatabase, havatars, hlinked,
      h.compatible hcreating database (loadDatabaseBackupFromStorage_eq_ok_iff.mp hdatabase).2.1⟩
  obtain ⟨completedAt, hcompleted⟩ : ∃ completedAt, reset.completedAt = some completedAt := by
    rcases haggregate.phase with ⟨hstate, _⟩ | ⟨hstate, _⟩ |
      ⟨completedAt, _, _, _, _, hcompleted, _⟩
    · simp [hsucceeded] at hstate
    · simp [hsucceeded] at hstate
    · exact ⟨completedAt, hcompleted⟩
  let ready : SemesterBackup := { backup with
    verifiedAt := backup.verifiedAt.or (some w.now)
    expiresAt := some (semesterBackupExpiresAt completedAt), state := .ready }
  have hfinalized : finalizeVerification backup reset w.now = .ok ready :=
    (finalizeVerification_eq_ok_iff hsucceeded).mpr
      ⟨completedAt, hcompleted, hdeadline completedAt hcompleted, hcreating, rfl⟩
  have heligible : IsVerificationEligible reset backup :=
    ⟨haggregate.operation_type,
      haggregate.operation_semester.trans haggregate.backup_semester.symm, Or.inr hsucceeded,
      Or.inr haggregate.operation_backup, fun _ => haggregate.operation_backup⟩
  obtain ⟨report, hverify⟩ := verifySemesterBackup_eq_ok
    (Table.get?_eq_some_iff.mpr ⟨hbackup, rfl⟩) hcreating
    (Table.get?_eq_some_iff.mpr ⟨hreset, hcreated.symm⟩) heligible hpackages hfinalized
    (by simp [ready])
  have hstored : ready ∈ (w.db.backups.put ready).rows := Table.mem_put_self hbackup rfl
  have hbusy : w.busy backup.id = false := by simp [World.busy, hfree]
  rw [hbusy]
  exact ⟨_, report, hverify, ready, hstored, rfl, rfl⟩

/-- The failures of a creation or a verification are those of its own backup. -/
theorem backupId_of_mem_creationFailures {kind : BackupKind} {backupId id : Nat}
    {caller : Option Nat} {error : SemesterError} {pending : PendingFailure}
    (hpending : pending ∈ creationFailures kind backupId caller error)
    (hid : pending.backupId? = some id) : backupId = id := by
  unfold creationFailures at hpending
  split at hpending
  case h_5 =>
    obtain rfl := List.mem_singleton.mp hpending
    exact Option.some.inj hid
  all_goals simp at hpending

theorem backupId_of_mem_verificationFailures {backupId id : Nat} {caller : Option Nat}
    {error : SemesterError} {pending : PendingFailure}
    (hpending : pending ∈ verificationFailures backupId caller error)
    (hid : pending.backupId? = some id) : backupId = id := by
  unfold verificationFailures at hpending
  split at hpending
  · simp at hpending
  · obtain ⟨_, _, rfl⟩ := List.mem_map.mp hpending
    simp [PendingFailure.backupId?] at hid
  · obtain rfl := List.mem_singleton.mp hpending
    exact Option.some.inj hid

/-- A package which is attached is not created again. -/
theorem creationFailures_of_attached {kind : BackupKind} {caller : Option Nat}
    {error : SemesterError} (hbackup : backup ∈ w.db.backups.rows)
    (hcreating : backup.state = .creating) (hfree : w.creating backup.id = none)
    (hattached : backup.IsAttached) (hcounts : backup.databaseRowCounts ≠ []) :
    startCreation env w kind backup.id = .error error →
      creationFailures kind backup.id caller error = [] := by
  have hget : w.db.backups.get? backup.id = some backup :=
    Table.get?_eq_some_iff.mpr ⟨hbackup, rfl⟩
  obtain ⟨hlocation, hchecksum, havatarLocation, havatarChecksum⟩ := hattached
  cases kind with
  | database =>
      have hresult : startCreation env w .database backup.id =
          .error .databaseBackupAlreadyAttached := by
        simp [startCreation, exportDatabaseBackup, World.busy, hfree, hget, require, ensure,
          hcreating, SemesterBackup.DatabaseAttached, hlocation, hchecksum, hcounts, bind,
          Except.bind]
      rw [hresult]
      rintro ⟨⟩
      rfl
  | avatars =>
      have hresult : startCreation env w .avatars backup.id =
          .error .avatarBackupAlreadyAttached := by
        simp [startCreation, exportAvatarBackup, World.busy, hfree, hget, require, ensure,
          hcreating, havatarLocation, havatarChecksum, bind, Except.bind]
      rw [hresult]
      rintro ⟨⟩
      rfl

end Verification

section Steps

variable {env : SemesterEnvironment} {w after : World} {label : Label} {backup : SemesterBackup}
  {reset : SemesterOperation}

/-- Storage of a CREATING backup changes only through its own creation. -/
theorem Step.packages_eq (hstep : Step env w label after) (hmem : backup ∈ w.db.backups.rows)
    (hcreating : backup.state = .creating) (hfree : w.creating backup.id = none) :
    after.packages backup.id = w.packages backup.id := by
  have hcreation : ∀ {backupId creation}, w.creating backupId = some creation →
      backup.id ≠ backupId := by
    rintro backupId creation hsome rfl
    simp [hfree] at hsome
  have hselected : ∀ {skipped due}, selectExpiredBackup w.db w.now skipped = some due →
      backup.id ≠ due.id := by
    intro skipped due hselect hid
    obtain ⟨hdue, hstate, _⟩ := selectExpiredBackup_spec hselect
    obtain rfl := Table.eq_of_key hmem hdue hid
    simp [hcreating] at hstate
  cases hstep with
  | attachCreation hsome | refuseAttachment hsome | interruptCreation hsome =>
      exact Function.update_of_ne (hcreation hsome) _ _
  | expireBackup hselect | interruptExpiry hselect =>
      exact Function.update_of_ne (hselected hselect) _ _
  | _ => rfl

/-- No allowed step adds a failure of a committed backup which is not READY yet. -/
theorem Step.failing_of_committed (hstep : Step env w label after)
    (hinvariant : WorldInvariant env w) (hallowed : KeepsCommittedBackups w label)
    (hreset : reset ∈ w.db.operations.rows) (hsucceeded : reset.state = .succeeded)
    (hmem : backup ∈ w.db.backups.rows) (hcreated : backup.createdByOperationId = reset.id)
    (hcreating : backup.state = .creating) (hcommitted : CommittedBackup env w backup) :
    ∀ pending ∈ after.failing, pending.backupId? ≠ some backup.id := by
  have hkept := hcommitted.unfailing hcreating
  have hawaits : AwaitsReady w.db backup := ⟨hcreating, reset, hreset, hcreated, hsucceeded⟩
  obtain ⟨hattached, hfree, hcomplete⟩ :=
    hinvariant.complete_of_succeeded hreset hsucceeded hmem hcreated hcreating
  have hadded : ∀ (failures : List PendingFailure),
      (∀ pending ∈ failures, pending.backupId? ≠ some backup.id) →
      ∀ pending ∈ failures ++ w.failing, pending.backupId? ≠ some backup.id := by
    intro failures hfailures pending hpending
    rcases List.mem_append.mp hpending with hnew | hold
    · exact hfailures pending hnew
    · exact hkept pending hold
  have hsettled : ∀ settled, ∀ pending ∈ PendingFailure.next settled ++ w.failing.erase settled,
      pending.backupId? ≠ some backup.id := by
    intro settled pending hpending
    rcases List.mem_append.mp hpending with hnew | hold
    · cases settled with
      | preparation => simp [PendingFailure.next] at hnew
      | backup =>
          simp only [PendingFailure.next, callerFailures, List.mem_map] at hnew
          obtain ⟨_, _, rfl⟩ := hnew
          simp [PendingFailure.backupId?]
    · exact hkept pending (List.mem_of_mem_erase hold)
  cases hstep with
  | recordFailure | skipFailure => exact hsettled _
  | @rejectCreation kind backupId caller error _ hstart =>
      refine hadded _ fun pending hpending hid => ?_
      obtain rfl := backupId_of_mem_creationFailures hpending hid
      obtain ⟨_, _, _, _, _, _, hrequired, _⟩ := hcomplete
      have hcounts : backup.databaseRowCounts ≠ [] := by
        intro hnil
        unfold requireAttachedPackage at hrequired
        split at hrequired <;> simp [hnil] at hrequired
      rw [creationFailures_of_attached hmem hcreating hfree hattached hcounts hstart] at hpending
      simp at hpending
  | @interruptExport kind backupId caller _ =>
      refine hadded _ fun pending hpending hid => ?_
      obtain rfl := List.mem_singleton.mp hpending
      exact hallowed backup hmem (Option.some.inj hid).symm hawaits
  | @refuseAttachment backupId _ _ _ _ hsome | @interruptCreation backupId _ _ hsome =>
      refine hadded _ fun pending hpending hid => ?_
      obtain rfl := List.mem_singleton.mp hpending
      obtain rfl : backupId = backup.id := Option.some.inj hid
      simp [hfree] at hsome
  | @rejectVerification backupId caller fault error _ hverify =>
      refine hadded _ fun pending hpending hid => ?_
      obtain rfl := backupId_of_mem_verificationFailures hpending hid
      obtain ⟨rfl, hdeadline⟩ := hallowed backup hmem rfl hawaits
      obtain ⟨_, _, hok, _⟩ := hcommitted.verify hinvariant hreset hsucceeded hmem hcreated
        hcreating (hdeadline reset hreset hcreated)
      simp [hverify] at hok
  | _ => exact hkept

/-- The reset which commits was compared with the live database. -/
theorem committedBackup_of_executeReset {request : ExecutionRequest}
    {newSemesterId auditId : Nat} {committed : ResetCommit} (hlife : LifecycleInvariant w.db)
    (hallowed : KeepsCommittedBackups w (.executeReset request newSemesterId auditId))
    (hreset : executeSemesterReset env w.db (w.packages request.backupId) request
      ⟨w.now, newSemesterId, auditId⟩ none = .ok committed) (hnew : committed.replay = false) :
    ∃ operation ∈ w.db.operations.rows, operation.state = .running ∧
      ∃ backup ∈ w.db.backups.rows, backup.createdByOperationId = operation.id ∧
        CommittedBackup env { w with db := committed.database } backup := by
  obtain ⟨context, hcontext, hreplay, hkind⟩ := executeSemesterReset_spec hreset
  have hhead := executeSemesterReset_alembicHead hlife.integrity.data hreset
  rw [hnew] at hreplay
  simp only [← hreplay, Bool.false_eq_true, ↓reduceIte] at hkind
  obtain ⟨database, avatars, _, hload, hsame, _⟩ := hkind
  obtain ⟨_, hoperation, hbackup, _, _, heligible⟩ := lockedResetContext_eq_ok_iff.mp hcontext
  simp only [← hreplay, Bool.false_eq_true, ↓reduceIte] at heligible
  obtain ⟨hnotSucceeded, -, hrunning, -, -, -, -, -, hcreated, -, -, hcreating, -⟩ := heligible
  obtain hid : context.backup.id = request.backupId := Table.get?_key hbackup
  refine ⟨context.operation, Table.get?_mem hoperation, hrunning, context.backup,
    Table.get?_mem hbackup, hcreated, by simp [hcreating], fun _ => ?_, fun _ found hfound => ?_⟩
  · rw [hid]
    rcases hallowed with ⟨operation, hmem, hsameId, hsucceeded⟩ | hnone
    · have heq : operation = context.operation := Table.eq_of_key hmem
        (Table.get?_mem hoperation) (hsameId.trans (Table.get?_key hoperation).symm)
      exact absurd hsucceeded (heq ▸ hnotSucceeded)
    · exact hnone
  · obtain ⟨⟨_, _, hstored, _⟩, _⟩ := loadVerifiedManifests_eq_ok_iff.mp hload
    rw [hid] at hfound
    obtain rfl := Option.some.inj (hstored.symm.trans hfound)
    have hcompatibility : database.compatibility = _ := hsame.2.2.2.2.2.2
    rw [DatabaseCompatible, hhead, hcompatibility]
    exact ⟨rfl, rfl⟩

/-- A committed backup after a step which is not its commit. -/
theorem CommittedBackup.step (h : CommittedBackup env w backup)
    (hinvariant : WorldInvariant env w) (hallowed : KeepsCommittedBackups w label)
    (hstep : Step env w label after) (hreset : reset ∈ w.db.operations.rows)
    (hsucceeded : reset.state = .succeeded) (hmem : backup ∈ w.db.backups.rows)
    (hcreated : backup.createdByOperationId = reset.id) {changed : SemesterBackup}
    (hversion : changed = backup ∨ BackupChange env.checksums w label after.db backup changed) :
    CommittedBackup env after changed := by
  have hopen : backup.state = .creating → changed.id = backup.id →
      (∀ pending ∈ after.failing, pending.backupId? ≠ some changed.id) ∧
      ∀ database ∈ (after.packages changed.id).databaseManifest,
        DatabaseCompatible env after.db database := by
    intro hcreating hid
    obtain ⟨_, hfree, _⟩ :=
      hinvariant.complete_of_succeeded hreset hsucceeded hmem hcreated hcreating
    have hhead : after.db.alembicHead = w.db.alembicHead := by
      by_cases hmigrate : ∃ alembicHead, label = .migrate alembicHead
      · obtain ⟨alembicHead, rfl⟩ := hmigrate
        cases hstep
        refine hallowed.resolve_right fun hnone => ?_
        exact hnone backup hmem ⟨hcreating, reset, hreset, hcreated, hsucceeded⟩
      · exact hstep.alembicHead hinvariant.lifecycle fun head heq => hmigrate ⟨head, heq⟩
    rw [hid]
    refine ⟨hstep.failing_of_committed hinvariant hallowed hreset hsucceeded hmem hcreated
      hcreating h, fun database hdatabase => ?_⟩
    rw [hstep.packages_eq hmem hcreating hfree] at hdatabase
    rw [DatabaseCompatible, hhead]
    exact h.compatible hcreating database hdatabase
  rcases hversion with rfl | hversion
  · exact ⟨h.state, fun hcreating => (hopen hcreating rfl).1,
      fun hcreating => (hopen hcreating rfl).2⟩
  have hid := hversion.sameOrigin.id
  cases hversion with
  | attached hcreating hattaches =>
      obtain ⟨hattached, _, _⟩ :=
        hinvariant.complete_of_succeeded hreset hsucceeded hmem hcreated hcreating
      cases hattaches with
      | database hunattached => exact absurd hunattached hattached.1
      | avatars hunattached => exact absurd hunattached.1 hattached.2.2.1
  | verified hcreating =>
      exact ⟨h.state, fun _ => (hopen hcreating hid).1, fun _ => (hopen hcreating hid).2⟩
  | failed hcreating hpending => exact absurd rfl (h.unfailing hcreating _ hpending)
  | finalized | blocked | expired => exact ⟨by simp, by simp, by simp⟩
  | restored _ _ heffective _ =>
      have hready := (SemesterBackup.effectiveState_eq_ready_iff.mp heffective).1
      constructor <;> simp [restoredBackup, hready]

theorem CommittedBackups.step (h : CommittedBackups env w) (hinvariant : WorldInvariant env w)
    (hallowed : KeepsCommittedBackups w label) (hstep : Step env w label after) :
    CommittedBackups env after := by
  intro reset hmem htype hsucceeded backup hbackup hcreated
  have hchange := hstep.change hinvariant.lifecycle
  have hafter := (hinvariant.step hstep).lifecycle
  rcases hchange.operations.backward hmem with ⟨old, hold, _, rfl | hversion⟩ |
    ⟨_, _, _, _, _, _, rfl, _⟩
  · -- The reset had succeeded before, and its backup is a version of the same row.
    obtain ⟨before, hbefore, hlink, hcreatedBefore⟩ := hinvariant.lifecycle.resets reset hold htype
    obtain ⟨_, _, haggregate⟩ := hafter.aggregate_of_backup hbackup hmem hcreated
    have hid : backup.id = before.id :=
      Option.some.inj (haggregate.operation_backup.symm.trans hlink)
    exact (h reset hold htype hsucceeded before hbefore hcreatedBefore).step hinvariant hallowed
      hstep hold hsucceeded hbefore hcreatedBefore
      (hchange.backups.version hbefore hbackup hid)
  · cases hversion with
    | failed => simp at hsucceeded
    | restore _ hrestore => simp [hrestore] at htype
    | reset hrunning _ hlabel =>
        obtain ⟨request, newSemesterId, auditId, rfl⟩ := hlabel
        cases hstep with
        | @executeReset _ _ _ committed hreset =>
            have hbackups := executeSemesterReset_backups hinvariant.lifecycle.integrity.data hreset
            have hnew : committed.replay = false := by
              by_contra hreplay
              obtain ⟨context, _, hcontext, hkind⟩ := executeSemesterReset_spec hreset
              rw [if_pos (by simpa [hcontext] using hreplay)] at hkind
              have hmemBefore : succeededReset old _ _ w.now ∈ w.db.operations.rows :=
                hkind.1 ▸ hmem
              have hsame := Table.eq_of_key hmemBefore hold rfl
              rw [← hsame] at hrunning
              simp [succeededReset] at hrunning
            obtain ⟨operation, hoperation, hrunningOperation, verified, hverified, hcreator,
              hcommitted⟩ :=
                committedBackup_of_executeReset hinvariant.lifecycle hallowed hreset hnew
            obtain rfl := hinvariant.lifecycle.running operation hoperation old hold
              hrunningOperation hrunning
            obtain ⟨_, _, hfirst⟩ :=
              hinvariant.lifecycle.aggregate_of_backup hverified hold hcreator
            obtain ⟨_, _, hsecond⟩ := hinvariant.lifecycle.aggregate_of_backup
              (hbackups ▸ hbackup) hold hcreated
            have hid := Option.some.inj
              (hfirst.operation_backup.symm.trans hsecond.operation_backup)
            obtain rfl := Table.eq_of_key hverified (hbackups ▸ hbackup) hid
            exact ⟨hcommitted.state, hcommitted.unfailing, hcommitted.compatible⟩
  · simp [runningOperation] at hsucceeded

end Steps

/-- In every run whose steps keep committed backups the backup of a SUCCEEDED reset
survives. -/
theorem lifecycle_survivesReset {env : SemesterEnvironment} {w : World}
    (hreach : Lifecycle env KeepsCommittedBackups w) : SurvivesReset env w := by
  have hcommitted : CommittedBackups env w :=
    Lifecycle.invariant (CommittedBackups env)
      (fun start hinitial => by simp [CommittedBackups, hinitial.operations])
      (fun _ _ _ hinvariant h hallowed hstep => h.step hinvariant hallowed hstep) hreach
  intro reset hreset htype hsucceeded backup hbackup hcreated
  have hbackupCommitted := hcommitted reset hreset htype hsucceeded backup hbackup hcreated
  refine ⟨hbackupCommitted.state, fun hcreating hdeadline => ?_⟩
  exact hbackupCommitted.verify hreach.worldInvariant hreset hsucceeded hbackup hcreated hcreating
    hdeadline

namespace BackupSurvivalWitness

open LifecycleWitness
open ResetExactWitness (env request)

/-- A committed reset whose backup is not READY yet. -/
theorem lifecycle_survivesReset_committed : ∃ w, Lifecycle env KeepsCommittedBackups w ∧
    (∃ backup ∈ w.db.backups.rows, AwaitsReady w.db backup) ∧ SurvivesReset env w := by
  obtain ⟨w, _, hreach, hawaits⟩ := Lifecycle.exists_of_run
    (prepareLabels ++ [.executeReset request 10 11])
    (fun w => decide (∃ backup ∈ w.db.backups.rows, AwaitsReady w.db backup))
    (start_reached KeepsCommittedBackups) (by decide +kernel)
  exact ⟨w, hreach, of_decide_eq_true hawaits, lifecycle_survivesReset hreach⟩

/-- A read which fails once after the commit costs the backup. -/
theorem not_lifecycle_survivesReset_read :
    ¬ ∀ w, Lifecycle env AnyStep w → SurvivesReset env w := by
  intro h
  obtain ⟨w, _, hreach, hstate⟩ := Lifecycle.exists_of_run
    (prepareLabels ++ [.executeReset request 10 11, .verify 9 none true,
      .recordFailure (.backup 9 .backupVerificationFailed none)])
    (fun w => w.db.operations.rows.any fun reset => reset.operationType == .reset &&
      reset.state == .succeeded && w.db.backups.rows.any fun backup =>
        backup.createdByOperationId == reset.id && backup.state == .failed)
    (start_reached AnyStep) (by decide +kernel)
  simp only [List.any_eq_true, Bool.and_eq_true, beq_iff_eq] at hstate
  obtain ⟨reset, hreset, ⟨htype, hsucceeded⟩, backup, hbackup, hcreated, hfailed⟩ := hstate
  exact (h w hreach reset hreset htype hsucceeded backup hbackup hcreated).1 hfailed

end BackupSurvivalWitness

end BuddyWeb
