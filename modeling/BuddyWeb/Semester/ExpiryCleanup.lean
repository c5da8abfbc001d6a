/-
An EXPIRED backup has no object left in private storage, as long as no restore
gate finds its backup past the deadline: the gate changes the state and leaves
the objects to nobody.
-/
import BuddyWeb.Semester.LifecycleRun

namespace BuddyWeb

/-- The package of every EXPIRED backup is gone. -/
def ExpiredCleaned (w : World) : Prop :=
  ∀ backup ∈ w.db.backups.rows, backup.state = .expired → (w.packages backup.id).IsEmpty

/-- The gate of a running restore comes before the deadline of its backup, or finds new
students in the current semester. -/
def GateInTime (w : World) (request : ExecutionRequest) : Prop :=
  ∀ operation ∈ w.db.operations.rows, operation.id = request.operationId →
    operation.state = .running → ∀ backup ∈ w.db.backups.rows, backup.id = request.backupId →
      (∀ deadline ∈ backup.expiresAt, w.now < deadline) ∨
        ∃ semester ∈ w.db.semesters.rows, semester.status = .current ∧ semester.HasNewStudents

instance (w : World) (request : ExecutionRequest) : Decidable (GateInTime w request) := by
  unfold GateInTime
  infer_instance

/-- Both transactions of a restore pass their gate in time. -/
def GatesInTime (w : World) : Label → Prop
  | .restoreGate request _ => GateInTime w request
  | .finishRestore index _ => ∀ attempt ∈ w.restoring[index]?, GateInTime w attempt.request
  | _ => True

instance (w : World) (label : Label) : Decidable (GatesInTime w label) := by
  cases label <;> unfold GatesInTime <;> infer_instance

namespace ExpiredCleaned

variable {env : SemesterEnvironment} {w after : World}

theorem frame (h : ExpiredCleaned w) (hbackups : after.db.backups = w.db.backups)
    (hpackages : after.packages = w.packages) : ExpiredCleaned after := by
  intro backup hmem hexpired
  rw [hpackages]
  exact h backup (hbackups ▸ hmem) hexpired

/-- A backup which does not become EXPIRED. -/
theorem putBackup (h : ExpiredCleaned w) {backup changed : SemesterBackup}
    (hmem : backup ∈ w.db.backups.rows) (hbackups : after.db.backups = w.db.backups.put changed)
    (hpackages : ∀ id, id ≠ backup.id → after.packages id = w.packages id)
    (hid : changed.id = backup.id) (hstate : changed.state ≠ .expired) :
    ExpiredCleaned after := by
  intro other hother hexpired
  rw [hbackups] at hother
  rcases Table.mem_put_cases hid hother with rfl | ⟨hold, hne⟩
  · exact absurd hexpired hstate
  · rw [hpackages other.id fun hsame => hne (Table.eq_of_key hold hmem hsame)]
    exact h other hold hexpired

/-- Storage of a backup which is not EXPIRED. -/
theorem setPackage (h : ExpiredCleaned w) {backup : SemesterBackup}
    (hmem : backup ∈ w.db.backups.rows) (hstate : backup.state ≠ .expired)
    (hbackups : after.db.backups = w.db.backups)
    (hpackages : ∀ id, id ≠ backup.id → after.packages id = w.packages id) :
    ExpiredCleaned after := by
  intro other hother hexpired
  rw [hbackups] at hother
  rw [hpackages other.id fun hsame => hstate (Table.eq_of_key hother hmem hsame ▸ hexpired)]
  exact h other hother hexpired

/-- A creation which ends leaves its uploads to a backup which is not EXPIRED. -/
theorem abandonCreation (h : ExpiredCleaned w) (hinvariant : WorldInvariant env w)
    {backupId : Nat} {creation : BackupCreation} (kept : BackupObject → Bool)
    (hcreation : w.creating backupId = some creation) :
    ExpiredCleaned (w.abandonCreation backupId creation kept) := by
  cases hbackup : w.db.backups.get? backupId with
  | none =>
      have hunused := ((hinvariant.storage.cells backupId).unused hbackup).2
      exact absurd hunused (by simp [hcreation])
  | some backup =>
      obtain rfl : backup.id = backupId := Table.get?_key hbackup
      obtain ⟨hstate, _⟩ :=
        hinvariant.storage.open_of_creation hinvariant.lifecycle hbackup hcreation
      refine h.setPackage (Table.get?_mem hbackup) ?_ rfl fun id hne => ?_
      · rcases hstate with hstate | hstate <;> simp [hstate]
      · exact Function.update_of_ne hne _ _

/-- A gate in time does not expire its backup. -/
theorem gateCommit (h : ExpiredCleaned w) (hinvariant : WorldInvariant env w)
    {auditId : Nat} {request : ExecutionRequest} {context : RestoreContext}
    {gate : RestoreGate} {db : Database} (hintime : GateInTime w request)
    (hcontext : lockedRestoreContext env w.db request = .ok context)
    (hgate : GateCommit w.db w.now auditId context db gate)
    (hbackups : after.db.backups = db.backups) (hpackages : after.packages = w.packages) :
    ExpiredCleaned after := by
  obtain ⟨_, hoperation, hbackup, _, hcurrent, _, _, _, hkind⟩ :=
    lockedRestoreContext_eq_ok_iff.mp hcontext
  have hmem := Table.get?_mem hbackup
  cases hgate with
  | replay | ready => exact h.frame hbackups hpackages
  | blocked =>
      exact h.putBackup hmem hbackups (fun id _ => congrFun hpackages id) rfl (by simp)
  | expired effectiveState hreplay hstudents heffective hnotReady _ _ =>
      simp only [hreplay, Bool.false_eq_true, ↓reduceIte] at hkind
      obtain ⟨_, -, hrunning, -, -, -, -, -, -, -, -, -, -, -, -, hready, -⟩ := hkind
      rcases hintime context.operation (Table.get?_mem hoperation) (Table.get?_key hoperation)
        hrunning context.backup hmem (Table.get?_key hbackup) with hdeadline | hnew
      · -- Before its deadline a READY backup is effectively READY.
        have hstate : context.backup.effectiveState w.now = .ok .ready := by
          obtain ⟨_, _, _, _, haggregate⟩ := hinvariant.lifecycle.backups _ hmem
          obtain ⟨_, _, _, _, _, _, hretained⟩ :=
            haggregate.retained_of_state (Or.inl hready)
          exact SemesterBackup.effectiveState_eq_ready_iff.mpr
            ⟨hready, _, hretained.2.1, hdeadline _ hretained.2.1⟩
        exact absurd (Except.ok.inj (heffective.symm.trans hstate)) hnotReady
      · obtain ⟨semester, hsemester, hstatus, hnewStudents⟩ := hnew
        have hsame := hinvariant.lifecycle.currentSemester_eq hsemester hstatus
        rw [hcurrent] at hsame
        exact absurd (Option.some.inj hsame ▸ hnewStudents) hstudents

theorem step (h : ExpiredCleaned w) (hinvariant : WorldInvariant env w) {label : Label}
    (hintime : GatesInTime w label) (hstep : Step env w label after) : ExpiredCleaned after := by
  cases hstep with
  | tick | cohortWrite | migrate | interruptExport | rejectCreation | rejectVerification
  | skipFailure | interruptReset | startCreation | loadRestore | interruptRestore =>
      exact h.frame rfl rfl
  | prepareReset hprepare =>
      obtain ⟨_, current, _, _, _, ⟨_, _, _, rfl⟩ | ⟨_, _, backups, _, hbackups, rfl⟩⟩ :=
        prepareResetMetadata_spec hprepare
      · exact h
      intro backup hmem hexpired
      have hrows := (Table.insert?_eq_some_iff.mp hbackups).2
      rcases List.mem_cons.mp (hrows ▸ hmem) with rfl | hold
      · simp [creatingBackup] at hexpired
      · exact h backup hold hexpired
  | @attachCreation backupId _ creation backup attached stored hcreation hbackup hattach =>
      obtain ⟨hcreating, _, _, hattaches⟩ := attachBackupPackage_spec hattach
      obtain ⟨hid, hstate, _⟩ := hattaches.unchanged
      obtain rfl : backup.id = backupId := Table.get?_key hbackup
      exact h.putBackup (Table.get?_mem hbackup) rfl
        (fun id hne => Function.update_of_ne hne _ _) hid (by simp [hstate, hcreating])
  | refuseAttachment hcreation => exact h.abandonCreation hinvariant _ hcreation
  | interruptCreation hcreation => exact h.abandonCreation hinvariant _ hcreation
  | verify _ hverify =>
      obtain ⟨_, backup, hbackup, ⟨rfl, _⟩ | ⟨operation, verified, hcreating, _, _, _,
        hverified, rfl⟩⟩ := verifySemesterBackup_spec hverify
      · exact h
      by_cases hsucceeded : operation.state = .succeeded
      · obtain ⟨_, _, _, _, rfl⟩ := (finalizeVerification_eq_ok_iff hsucceeded).mp hverified
        exact h.putBackup (Table.get?_mem hbackup) rfl (fun _ _ => rfl) rfl (by simp)
      · rw [finalizeVerification_of_running hsucceeded] at hverified
        obtain rfl := Except.ok.inj hverified
        exact h.putBackup (Table.get?_mem hbackup) rfl (fun _ _ => rfl) rfl (by simp [hcreating])
  | @recordFailure pending _ =>
      cases pending with
      | backup backupId code _ =>
          simp only [PendingFailure.record, markSemesterBackupFailed]
          split
          · exact h.frame rfl rfl
          · rename_i backup hbackup
            split
            · exact h.putBackup (Table.get?_mem hbackup) rfl (fun _ _ => rfl) rfl (by simp)
            · exact h.frame rfl rfl
      | preparation operationId =>
          exact h.frame (failResetPreparation_backups w.db operationId w.now) rfl
  | executeReset hreset =>
      exact h.frame (executeSemesterReset_backups hinvariant.lifecycle.integrity.data hreset) rfl
  | prepareRestore hprepare =>
      obtain ⟨_, _, _, _, ⟨_, _, _, rfl⟩ | ⟨_, _, _, _, _, _, _, _, rfl⟩⟩ :=
        prepareSemesterRestore_spec hprepare <;> exact h.frame rfl rfl
  | restoreGate hgate =>
      obtain ⟨context, hcontext, hcommit⟩ := semesterRestoreGate_eq_ok_iff.mp hgate
      exact h.gateCommit hinvariant hintime hcontext hcommit rfl rfl
  | finishRestore hattempt hfinal =>
      obtain ⟨context, hcontext, ⟨hcommit, _⟩ | ⟨_, _, _, heffective, _, _, _, _, _, rfl⟩⟩ :=
        semesterRestoreFinal_spec hfinal
      · exact h.gateCommit hinvariant (hintime _ hattempt) hcontext hcommit rfl rfl
      · obtain ⟨_, _, hbackup, _⟩ := lockedRestoreContext_eq_ok_iff.mp hcontext
        have hready := (SemesterBackup.effectiveState_eq_ready_iff.mp heffective).1
        exact h.putBackup (Table.get?_mem hbackup) rfl (fun _ _ => rfl) rfl
          (by simp [restoredBackup, hready])
  | @expireBackup _ backup expired objects hselect hcleanup hexpired =>
      obtain ⟨hmem, _⟩ := selectExpiredBackup_spec hselect
      obtain ⟨_, rfl⟩ := SemesterBackup.transitionTo_eq_ok_iff.mp hexpired
      intro other hother hstate
      have hother : other ∈ (w.db.backups.put { backup with state := .expired }).rows := hother
      have hid : Keyed.key ({ backup with state := .expired } : SemesterBackup) =
          Keyed.key backup := rfl
      rcases Table.mem_put_cases hid hother with rfl | ⟨hold, hne⟩
      · have hempty := (hinvariant.storage.cells backup.id).isEmpty_of_cleanup backup.id
          (cleanupExpiredBackupArtifacts_spec hcleanup)
        simpa [World.setPackage] using hempty
      · have hother : other.id ≠ backup.id := fun hsame => hne (Table.eq_of_key hold hmem hsame)
        have hframe : ((w.putBackup { backup with state := .expired }).setPackage backup.id
            ((w.packages backup.id).deleteAll objects)).packages other.id =
              w.packages other.id := Function.update_of_ne hother _ _
        rw [hframe]
        exact h other hold hstate
  | interruptExpiry hselect _ =>
      obtain ⟨hmem, hstate, _⟩ := selectExpiredBackup_spec hselect
      refine h.setPackage hmem ?_ rfl fun id hne => Function.update_of_ne hne _ _
      rcases hstate with hstate | hstate <;> simp [hstate]

end ExpiredCleaned

/-- In every run whose restore gates are in time an EXPIRED backup has no object left. -/
theorem lifecycle_expiredCleaned {env : SemesterEnvironment} {w : World}
    (hreach : Lifecycle env GatesInTime w) : ExpiredCleaned w :=
  Lifecycle.invariant ExpiredCleaned (fun _ hinitial => by simp [ExpiredCleaned, hinitial.backups])
    (fun _ _ _ hinvariant h hallowed hstep => h.step hinvariant hallowed hstep) hreach

namespace ExpiryCleanupWitness

open LifecycleWitness
open ResetExactWitness (env)

/-- The batch expires the backup of a finished reset and leaves nothing of it. -/
theorem lifecycle_expiredCleaned_batch : ∃ w, Lifecycle env GatesInTime w ∧
    (∃ backup ∈ w.db.backups.rows, backup.state = .expired) ∧ ExpiredCleaned w := by
  obtain ⟨w, _, hreach, hexpired⟩ := Lifecycle.exists_of_run
    (resetLabels ++ [.tick semesterBackupRetention, .expireBackup []])
    (fun w => w.db.backups.rows.any (·.state == .expired)) (start_reached GatesInTime)
    (by decide +kernel)
  refine ⟨w, hreach, ?_, lifecycle_expiredCleaned hreach⟩
  simpa using hexpired

/-- The gate of a restore expires its backup at the deadline and leaves the package. -/
theorem not_lifecycle_expiredCleaned_gate :
    ¬ ∀ w, Lifecycle env AnyStep w → ExpiredCleaned w := by
  intro h
  obtain ⟨w, _, hreach, hkept⟩ := Lifecycle.exists_of_run
    (resetLabels ++
      [.prepareRestore 1 12, .tick semesterBackupRetention, .restoreGate restoreRequest 13])
    (fun w => w.db.backups.rows.any fun backup =>
      backup.state == .expired && (w.packages backup.id).databaseManifest.isSome)
    (start_reached AnyStep) (by decide +kernel)
  simp only [List.any_eq_true, Bool.and_eq_true, beq_iff_eq] at hkept
  obtain ⟨backup, hmem, hexpired, hmanifest⟩ := hkept
  simp [(h w hreach backup hmem hexpired).2.1] at hmanifest

end ExpiryCleanupWitness

end BuddyWeb
