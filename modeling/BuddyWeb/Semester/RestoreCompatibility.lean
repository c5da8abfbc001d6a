/-
Verification accepts a backup at the live migration head, the restore only at a head
of its own constants: at the latest head of the repository the two never agree.
-/
import BuddyWeb.Semester.LifecycleRun

namespace BuddyWeb

/-- The migrations of the repository, each with the one it revises. -/
def alembicRevisions : List (String × Option String) :=
  [("0001_private_app_schema", none),
    ("0002_users", some "0001_private_app_schema"),
    ("0003_refresh_sessions", some "0002_users"),
    ("0004_audit_logs", some "0003_refresh_sessions"),
    ("0005_storage_buckets", some "0004_audit_logs"),
    ("0006_profile_catalogs", some "0005_storage_buckets"),
    ("0007_event_tables", some "0006_profile_catalogs"),
    ("0008_email_verification", some "0007_event_tables"),
    ("0009_transactional_outbox", some "0008_email_verification"),
    ("0010_edge_email_outbox_functions", some "0009_transactional_outbox"),
    ("0011_preference_persistence", some "0010_edge_email_outbox_functions"),
    ("0012_invitation_persistence", some "0011_preference_persistence"),
    ("0013_active_match_persistence", some "0012_invitation_persistence"),
    ("0014_buddy_chat_persistence", some "0013_active_match_persistence"),
    ("0015_chat_send_idempotency", some "0014_buddy_chat_persistence"),
    ("0016_chat_message_cleanup", some "0015_chat_send_idempotency"),
    ("0017_semester_boundary_metadata", some "0016_chat_message_cleanup"),
    ("0018_backup_verification", some "0017_semester_boundary_metadata"),
    ("0019_semester_reset_execution", some "0018_backup_verification"),
    ("0020_semester_restore_execution", some "0019_semester_reset_execution"),
    ("0021_restore_runtime_permissions", some "0020_semester_restore_execution"),
    ("0022_public_event_visibility_default", some "0021_restore_runtime_permissions"),
    ("0023_recaps", some "0022_public_event_visibility_default"),
    ("0024_recap_retention", some "0023_recaps")]

/-- The heads: the migrations which no other one revises. -/
def alembicHeads : List String :=
  (alembicRevisions.map (·.1)).filter fun revision =>
    !alembicRevisions.any fun entry => entry.2 == some revision

/-- The head which a restore requires was revised since. -/
theorem semesterRestoreAlembicHead_notMem_alembicHeads :
    semesterRestoreAlembicHead ∉ alembicHeads := by
  decide +kernel

/-- A verification made the backup READY at a latest head, and no migration ran since. -/
inductive ReadyAtLatestHead (env : SemesterEnvironment) (backupId : Nat) : World → Prop
  | verified {w marked : World} {caller : Option Nat} {fault : Bool}
      {backup ready : SemesterBackup} (hreach : Lifecycle env AnyStep w)
      (hhead : w.db.alembicHead ∈ alembicHeads)
      (hbackup : w.db.backups.get? backupId = some backup)
      (hcreating : backup.state = .creating)
      (hverify : Step env w (.verify backupId caller fault) marked)
      (hready : marked.db.backups.get? backupId = some ready) (hstate : ready.state = .ready) :
      ReadyAtLatestHead env backupId marked
  | next {w after : World} {label : Label} (h : ReadyAtLatestHead env backupId w)
      (hlabel : ∀ alembicHead, label ≠ .migrate alembicHead) (hstep : Step env w label after) :
      ReadyAtLatestHead env backupId after

/-- The restore loads the package of the backup and its gate accepts it. -/
def RestoreTargetAccepts (env : SemesterEnvironment) (w : World) (backupId : Nat) : Prop :=
  ∃ backup package, w.db.backups.get? backupId = some backup ∧
    loadRestorePackage env.checksums backup (w.packages backupId) = .ok package ∧
    validateRestoreTarget env w.db package.database semesterRestoreCompatibleManifestHeads
      semesterRestoreAlembicHead = .ok ()

section Heads

variable {env : SemesterEnvironment} {db after : Database}

theorem validateRestoreTarget_head {manifest : DatabaseManifest} {heads : List String}
    {head : String} (h : validateRestoreTarget env db manifest heads head = .ok ()) :
    db.alembicHead = head ∧ manifest.compatibility.requiredAlembicHead ∈ heads := by
  simp only [validateRestoreTarget, except_bind_eq_ok_iff, ensure_eq_ok_iff, exists_const] at h
  exact h.2.1

theorem executeSemesterReset_alembicHead {stored : StoredPackage} {request : ExecutionRequest}
    {clock : ResetClock} {committed : ResetCommit} (hintegrity : db.data.Integrity)
    (h : executeSemesterReset env db stored request clock none = .ok committed) :
    committed.database.alembicHead = db.alembicHead := by
  obtain ⟨context, hcontext, _, hkind⟩ := executeSemesterReset_spec h
  split at hkind
  · rw [hkind.1]
  · rename_i hreplay
    obtain ⟨_, _, _, _, _, hsql, hcommitted⟩ := hkind
    obtain ⟨_, hoperation, hbackup, hsemester, _, heligible⟩ :=
      lockedResetContext_eq_ok_iff.mp hcontext
    simp only [hreplay, Bool.false_eq_true, ↓reduceIte] at heligible
    obtain ⟨_, _, _, hclose⟩ := (executeSemesterResetSql_eq_ok_iff hintegrity
      (Table.get?_self hoperation) (Table.get?_self hbackup) hsemester heligible.1).mp hsql
    obtain ⟨_, _, _, _, rfl⟩ := closeSemester_eq_ok_iff.mp hclose
    rw [hcommitted]

theorem GateCommit.alembicHead {now auditId : Nat} {context : RestoreContext}
    {gate : RestoreGate} (h : GateCommit db now auditId context after gate) :
    after.alembicHead = db.alembicHead := by
  cases h <;> rfl

/-- Only a migration changes the head. -/
theorem Step.alembicHead {w result : World} {label : Label} (hlife : LifecycleInvariant w.db)
    (hlabel : ∀ alembicHead, label ≠ .migrate alembicHead) (hstep : Step env w label result) :
    result.db.alembicHead = w.db.alembicHead := by
  cases hstep with
  | tick | startCreation | interruptExport | rejectCreation | attachCreation | refuseAttachment
  | interruptCreation | rejectVerification | skipFailure | interruptReset | loadRestore
  | interruptRestore | interruptExpiry | cohortWrite | expireBackup => rfl
  | migrate => exact absurd rfl (hlabel _)
  | prepareReset hprepare =>
      obtain ⟨_, _, _, _, _, ⟨_, _, _, rfl⟩ | ⟨_, _, _, _, _, rfl⟩⟩ :=
        prepareResetMetadata_spec hprepare <;> rfl
  | verify _ hverify =>
      obtain ⟨_, _, _, ⟨rfl, _⟩ | ⟨_, _, _, _, _, _, _, rfl⟩⟩ :=
        verifySemesterBackup_spec hverify <;> rfl
  | @recordFailure pending _ =>
      cases pending with
      | backup =>
          simp only [PendingFailure.record, markSemesterBackupFailed]
          split
          · rfl
          · split <;> rfl
      | preparation =>
          simp only [PendingFailure.record, failResetPreparation]
          split
          · rfl
          · split
            · split <;> rfl
            · rfl
  | executeReset hreset => exact executeSemesterReset_alembicHead hlife.integrity.data hreset
  | prepareRestore hprepare =>
      obtain ⟨_, _, _, _, ⟨_, _, _, rfl⟩ | ⟨_, _, _, _, _, _, _, _, rfl⟩⟩ :=
        prepareSemesterRestore_spec hprepare <;> rfl
  | restoreGate hgate =>
      obtain ⟨_, _, hcommit⟩ := semesterRestoreGate_eq_ok_iff.mp hgate
      exact hcommit.alembicHead
  | finishRestore _ hfinal =>
      obtain ⟨_, _, ⟨hcommit, _⟩ | ⟨_, _, _, _, _, _, _, _, _, rfl⟩⟩ :=
        semesterRestoreFinal_spec hfinal
      · exact hcommit.alembicHead
      · rfl

end Heads

/-- The head stays latest while no migration runs. -/
theorem ReadyAtLatestHead.alembicHead {env : SemesterEnvironment} {backupId : Nat} {w : World}
    (h : ReadyAtLatestHead env backupId w) :
    WorldInvariant env w ∧ w.db.alembicHead ∈ alembicHeads := by
  induction h with
  | verified hreach hhead _ _ hverify =>
      have hinvariant := hreach.worldInvariant
      refine ⟨hinvariant.step hverify, ?_⟩
      rw [hverify.alembicHead hinvariant.lifecycle (by simp)]
      exact hhead
  | next _ hlabel hstep ih =>
      refine ⟨ih.1.step hstep, ?_⟩
      rw [hstep.alembicHead ih.1.lifecycle hlabel]
      exact ih.2

/-- The restore rejects every backup which was verified at a latest head. -/
theorem readyAtLatestHead_rejected {env : SemesterEnvironment} {backupId : Nat} {w : World}
    (h : ReadyAtLatestHead env backupId w) : ¬ RestoreTargetAccepts env w backupId := by
  rintro ⟨backup, package, _, _, haccepted⟩
  have hhead := (validateRestoreTarget_head haccepted).1
  exact semesterRestoreAlembicHead_notMem_alembicHeads (hhead ▸ h.alembicHead.2)

namespace RestoreCompatibilityWitness

open LifecycleWitness
open ResetExactWitness (env)

/-- The reset of a database at the latest head, up to its last verification. -/
def latestHeadLabels : List Label :=
  .migrate "0024_recap_retention" :: prepareLabels ++
    [.executeReset ResetExactWitness.request 10 11]

/-- The verified backup has a package which loads, in time, and no student is there. -/
def Restorable (w : World) : Prop :=
  ∃ backup package, w.db.backups.get? 9 = some backup ∧
    loadRestorePackage env.checksums backup (w.packages 9) = .ok package ∧
    (∀ deadline ∈ backup.expiresAt, w.now < deadline) ∧
    (∀ current ∈ w.db.currentSemester?, ¬ current.HasNewStudents) ∧
    ∀ user ∈ w.db.data.users, user.role ≠ .user

theorem exists_readyAtLatestHead : ∃ w, ReadyAtLatestHead env 9 w ∧ Restorable w := by
  obtain ⟨w, _, hreach, hstate⟩ := Lifecycle.exists_of_run latestHeadLabels
    (fun w => decide (w.db.alembicHead ∈ alembicHeads) &&
      (w.db.backups.get? 9).any (·.state == .creating) &&
      (w.after env (.verify 9 none false)).any fun marked =>
        (marked.db.backups.get? 9).any fun ready => ready.state == .ready &&
          (loadRestorePackage env.checksums ready (marked.packages 9)).toBool &&
          ready.expiresAt.all (marked.now < ·) &&
          marked.db.currentSemester?.all (fun current => decide ¬ current.HasNewStudents) &&
          marked.db.data.users.all (·.role != .user))
    (start_reached AnyStep) (by decide +kernel)
  simp only [Bool.and_eq_true, decide_eq_true_eq, Option.any_eq_true, beq_iff_eq,
    Option.all_eq_true, List.all_eq_true, bne_iff_ne] at hstate
  obtain ⟨⟨hhead, backup, hbackup, hcreating⟩, marked, hmarked, ready, hready,
    ⟨⟨⟨hstate, hload⟩, hdeadline⟩, hstudents⟩, husers⟩ := hstate
  obtain ⟨package, hpackage⟩ := exists_ok_of_toBool _ hload
  exact ⟨marked, .verified hreach hhead hbackup hcreating (Step.of_after hmarked) hready hstate,
    ready, package, hready, hpackage, hdeadline, hstudents, husers⟩

theorem readyAtLatestHead_rejected_reset : ∃ w, ReadyAtLatestHead env 9 w ∧
    ¬ RestoreTargetAccepts env w 9 := by
  obtain ⟨w, hready, _⟩ := exists_readyAtLatestHead
  exact ⟨w, hready, readyAtLatestHead_rejected hready⟩

/-- The restore does not accept what verification has just accepted. -/
theorem not_readyAtLatestHead_accepted :
    ¬ ∀ w, ReadyAtLatestHead env 9 w → Restorable w → RestoreTargetAccepts env w 9 := by
  intro h
  obtain ⟨w, hready, hrestorable⟩ := exists_readyAtLatestHead
  obtain ⟨_, _, _, _, haccepted⟩ := h w hready hrestorable
  have hhead := (validateRestoreTarget_head haccepted).1
  exact semesterRestoreAlembicHead_notMem_alembicHeads (hhead ▸ hready.alembicHead.2)

end RestoreCompatibilityWitness

end BuddyWeb
