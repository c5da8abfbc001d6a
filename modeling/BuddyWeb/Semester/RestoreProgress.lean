/-
A running restore can be ended by its administrator as long as the expiry batch
leaves the backup of a running restore alone: the gate of the restore expires it
together with the operation, the batch expires it alone.
-/
import BuddyWeb.Semester.LifecycleChanges

namespace BuddyWeb

/-- The request of the administrator who prepared the restore. -/
def restoreRequestOf (operation : SemesterOperation) (backupId : Nat) (password : String) :
    ExecutionRequest where
  operationId := operation.id
  backupId := backupId
  adminId := operation.adminActorId
  currentPassword := password
  confirmationPhrase := semesterRestoreConfirmationPhrase backupId

/-- Time, and the transactions of one request to execute a restore. -/
def ExecutesRestore (request : ExecutionRequest) (w : World) : Label → Prop
  | .tick _ => True
  | .restoreGate other _ => other = request
  | .loadRestore other => other = request
  | .finishRestore index _ => ∀ attempt ∈ w.restoring[index]?, attempt.request = request
  | _ => False

def SemesterOperation.HasEnded (operation : SemesterOperation) : Prop :=
  operation.state = .succeeded ∨ operation.state = .failed

/-- Further executions by its administrator end every running restore. -/
def RestoreEnds (env : SemesterEnvironment) (w : World) : Prop :=
  ∀ operation ∈ w.db.operations.rows, operation.operationType = .restore →
    operation.state = .running → ∃ backupId, operation.backupId = some backupId ∧
    ∃ actor ∈ w.db.data.users, actor.id = operation.adminActorId ∧
      ∀ password, env.verifyPassword password actor.passwordHash = true →
        ∃ after, Reaches (· = w) (Step env)
            (ExecutesRestore (restoreRequestOf operation backupId password)) after ∧
          ∃ ended ∈ after.db.operations.rows, ended.id = operation.id ∧ ended.HasEnded

/-- The expiry batch does not take the backup of a running restore. -/
def SparesRunningRestores (w : World) : Label → Prop
  | .expireBackup skipped => ∀ backup ∈ selectExpiredBackup w.db w.now skipped,
      ∀ operation ∈ w.db.operations.rows, operation.operationType = .restore →
        operation.state = .running → operation.backupId ≠ some backup.id
  | _ => True

instance (w : World) (label : Label) : Decidable (SparesRunningRestores w label) := by
  apply @Label.casesOn (fun label => Decidable (SparesRunningRestores w label)) label <;> intros <;>
    unfold SparesRunningRestores <;> infer_instance

/-- The backup of every running restore is READY. -/
def RestoresReady (db : Database) : Prop :=
  ∀ operation ∈ db.operations.rows, operation.operationType = .restore →
    operation.state = .running → ∀ backup ∈ db.backups.rows,
      operation.backupId = some backup.id → backup.state = .ready

section Readiness

variable {env : SemesterEnvironment} {w after : World} {label : Label}

/-- A READY backup stays READY while a restore is running, unless the batch takes it. -/
theorem BackupChange.ready_of_running {checksums : Checksums} {backup changed : SemesterBackup}
    {restore : SemesterOperation} (h : BackupChange checksums w label after.db backup changed)
    (hready : backup.state = .ready) (hmem : restore ∈ after.db.operations.rows)
    (hrunning : restore.state = .running)
    (hspared : ∀ skipped, label = .expireBackup skipped →
      selectExpiredBackup w.db w.now skipped ≠ some backup) : changed.state = .ready := by
  cases h with
  | attached hcreating | verified hcreating | finalized hcreating | failed hcreating =>
      simp [hready] at hcreating
  | blocked _ _ _ hsettled => exact absurd hrunning (hsettled restore hmem)
  | expired _ _ _ hcause =>
      rcases hcause with ⟨skipped, hlabel, hselect⟩ | hsettled
      · exact absurd hselect (hspared skipped hlabel)
      · exact absurd hrunning (hsettled restore hmem)
  | restored => exact hready

theorem RestoresReady.step (h : RestoresReady w.db) (hinvariant : WorldInvariant env w)
    (hallowed : SparesRunningRestores w label) (hstep : Step env w label after) :
    RestoresReady after.db := by
  intro restore hmem htype hrunning backup hbackup hlink
  have hchange := hstep.change hinvariant.lifecycle
  rcases hchange.operations.backward hmem with ⟨old, hold, _, rfl | hversion⟩ |
    ⟨_, _, _, _, _, _, rfl, hadded⟩
  · obtain ⟨before, hbefore, _, _, hknown⟩ :=
      hinvariant.lifecycle.restores restore hold htype hrunning
    have hkey : backup.id = before.id := Option.some.inj (hlink.symm.trans hknown.backup_id)
    have hready := h restore hold htype hrunning before hbefore hknown.backup_id
    rcases hchange.backups.version hbefore hbackup hkey with rfl | hversion
    · exact hready
    · refine hversion.ready_of_running hready hmem hrunning fun skipped hlabel hselect => ?_
      subst hlabel
      exact hallowed before hselect restore hold htype hrunning hknown.backup_id
  · exact absurd hrunning hversion.settles.2.1
  · obtain ⟨hsame, before, hbefore, hid, heffective⟩ := hadded htype
    have hready := (SemesterBackup.effectiveState_eq_ready_iff.mp heffective).1
    have heq : backup.id = before.id := by
      rw [hid]
      exact (Option.some.inj hlink).symm
    rwa [Table.eq_of_key (hsame ▸ hbackup) hbefore heq]

end Readiness

section Exit

variable {env : SemesterEnvironment} {w : World} {operation : SemesterOperation}
  {backup : SemesterBackup} {password : String}

/-- The metadata of a running restore whose backup is READY passes the checks of its
administrator. -/
theorem LifecycleInvariant.exists_restoreContext {db : Database} (h : LifecycleInvariant db)
    (hmem : operation ∈ db.operations.rows) (htype : operation.operationType = .restore)
    (hrunning : operation.state = .running) (hbackup : backup ∈ db.backups.rows)
    (hlink : operation.backupId = some backup.id) (hready : backup.state = .ready)
    {actor : UserRow} (hactor : actor ∈ db.data.users)
    (hid : actor.id = operation.adminActorId)
    (hpassword : env.verifyPassword password actor.passwordHash = true) :
    ∃ context, lockedRestoreContext env db
        (restoreRequestOf operation backup.id password) = .ok context ∧
      context.operation = operation ∧ context.backup = backup ∧ context.replay = false := by
  obtain ⟨found, hfound, reset, hreset, hrestore⟩ := h.restores operation hmem htype hrunning
  obtain rfl := Table.eq_of_key hfound hbackup
    (Option.some.inj (hrestore.backup_id.symm.trans hlink))
  obtain ⟨source, hsource, haggregate⟩ := h.aggregate_of_backup hfound hreset hrestore.created
  obtain ⟨_, hclosed, hsourceReset, hverified, completedAt, _, hretained⟩ :=
    haggregate.retained_of_state (Or.inl hready)
  obtain ⟨hlocation, hchecksum, havatarLocation, havatarChecksum⟩ :=
    haggregate.attached hverified
  obtain ⟨hrestoredBy, hrestoreOperation⟩ := haggregate.restored hrestore.unrestored
  obtain ⟨current, hcurrentMem, hstatus, _⟩ := h.current
  have hsourceId : operation.semesterId = source.id :=
    hrestore.semester.trans haggregate.operation_semester
  obtain ⟨user, hfind, huserId, hrole, hactive, hdeleted⟩ := h.find_actor hmem hrunning
  have huser : actor = user := by
    have hself := h.find_user hactor
    rw [hid, hfind] at hself
    exact (Option.some.inj hself).symm
  subst huser
  refine ⟨⟨actor, operation, found, source, current, reset, false⟩,
    lockedRestoreContext_eq_ok_iff.mpr ⟨?_, ?_, ?_, hlink, ?_, ?_, ?_, rfl, ?_⟩, rfl, rfl, rfl⟩
  · exact requireActiveAdmin_eq_ok_iff.mpr ⟨hfind, ⟨hrole, hactive, hdeleted⟩, hpassword⟩
  · exact Table.get?_eq_some_iff.mpr ⟨hmem, rfl⟩
  · exact Table.get?_eq_some_iff.mpr ⟨hfound, rfl⟩
  · exact h.currentSemester_eq hcurrentMem hstatus
  · exact Table.get?_eq_some_iff.mpr ⟨hsource, hsourceId.symm⟩
  · exact Table.get?_eq_some_iff.mpr ⟨hreset, hrestore.created.symm⟩
  · refine ⟨by simp [hrunning], htype, hrunning, hid.symm, hsourceId, hlink, hclosed,
      hsourceReset, haggregate.backup_semester, haggregate.boundary, hrestore.created,
      haggregate.operation_type, hrestore.completed, haggregate.operation_semester,
      haggregate.operation_backup, hready, hverified, ?_, hretained.2.2, hlocation, hchecksum,
      havatarLocation, havatarChecksum, hrestore.unrestored, hrestoredBy, hrestoreOperation⟩
    simp [hretained.2.1]

/-- The gate of a restore whose deadline has passed ends it. -/
theorem exists_gateCommit_ended {db : Database} {context : RestoreContext} (now : Nat)
    (h : LifecycleInvariant db) (hmem : context.operation ∈ db.operations.rows)
    (hrunning : context.operation.state = .running) (hbackup : context.backup ∈ db.backups.rows)
    (hready : context.backup.state = .ready) (hreplay : context.replay = false)
    (hdue : ∀ deadline ∈ context.backup.expiresAt, deadline ≤ now) :
    ∃ after gate, GateCommit db now 0 context after gate ∧
      ∃ ended ∈ after.operations.rows, ended.id = context.operation.id ∧ ended.HasEnded := by
  by_cases hstudents : context.current.HasNewStudents
  · exact ⟨_, _, .blocked hreplay hstudents hready (Or.inl hrunning), _,
      Table.mem_put_self hmem rfl, rfl, Or.inr rfl⟩
  · obtain ⟨_, _, _, _, haggregate⟩ := h.backups _ hbackup
    obtain ⟨_, _, _, _, completedAt, _, hretained⟩ :=
      haggregate.retained_of_state (Or.inl hready)
    have hpast := hdue _ hretained.2.1
    have heffective : context.backup.effectiveState now = .ok .expired := by
      simp [SemesterBackup.effectiveState, hready, hretained.2.1, hpast]
    exact ⟨_, _, .expired .expired hreplay hstudents heffective (by simp) (Or.inl hready)
      (Or.inl hrunning), _, Table.mem_put_self hmem rfl, rfl, Or.inr rfl⟩

theorem WorldInvariant.restoreEnds (h : WorldInvariant env w) (hready : RestoresReady w.db) :
    RestoreEnds env w := by
  intro operation hmem htype hrunning
  obtain ⟨backup, hbackup, _, _, hrestore⟩ := h.lifecycle.restores operation hmem htype hrunning
  obtain ⟨actor, hactor, hid, _⟩ := h.lifecycle.actors operation hmem hrunning
  have hstate := hready operation hmem htype hrunning backup hbackup hrestore.backup_id
  refine ⟨backup.id, hrestore.backup_id, actor, hactor, hid, fun password hpassword => ?_⟩
  obtain ⟨context, hcontext, rfl, rfl, hreplay⟩ := h.lifecycle.exists_restoreContext hmem htype
    hrunning hbackup hrestore.backup_id hstate hactor hid hpassword
  -- Once the deadline has passed the gate decides without the package.
  let late := w.now + context.backup.expiresAt.getD 0
  obtain ⟨after, gate, hcommit, ended, hended, hendedId, houtcome⟩ :=
    exists_gateCommit_ended late h.lifecycle hmem hrunning hbackup hstate hreplay
      fun deadline hdeadline => by simp [late, Option.mem_def.mp hdeadline]
  have hwait : Step env w (.tick (context.backup.expiresAt.getD 0)) { w with now := late } :=
    .tick
  have hgate : Step env { w with now := late }
      (.restoreGate (restoreRequestOf context.operation context.backup.id password) 0)
      { w with now := late, db := after } :=
    .restoreGate (semesterRestoreGate_eq_ok_iff.mpr ⟨context, hcontext, hcommit⟩)
  refine ⟨{ w with now := late, db := after }, ?_, ended, hended, hendedId, houtcome⟩
  refine .next (.next (.start rfl) ?_ hwait) ?_ hgate
  · exact trivial
  · exact rfl

end Exit

/-- In every run whose expiry batches spare running restores each restore can be ended. -/
theorem lifecycle_restoreEnds {env : SemesterEnvironment} {w : World}
    (hreach : Lifecycle env SparesRunningRestores w) : RestoreEnds env w :=
  hreach.worldInvariant.restoreEnds
    (Lifecycle.invariant (fun w => RestoresReady w.db)
      (fun _ hinitial => by simp [RestoresReady, hinitial.operations])
      (fun _ _ _ hinvariant h hallowed hstep => h.step hinvariant hallowed hstep) hreach)

section Wedge

variable {env : SemesterEnvironment} {w after : World} {label : Label}
  {operation : SemesterOperation} {request : ExecutionRequest}

/-- The restore is running and its backup is EXPIRED. -/
structure RestoreWedged (operation : SemesterOperation) (db : Database) : Prop where
  running : operation ∈ db.operations.rows ∧ operation.state = .running
  expired : ∃ backup ∈ db.backups.rows, operation.backupId = some backup.id ∧
    backup.state = .expired

/-- The context of a wedged restore is never accepted. -/
theorem RestoreWedged.lockedRestoreContext_ne_ok {db : Database} {context : RestoreContext}
    (h : RestoreWedged operation db) (hrequest : request.operationId = operation.id) :
    lockedRestoreContext env db request ≠ .ok context := by
  intro hcontext
  obtain ⟨_, hoperation, hbackup, hlink, _, _, _, _, hkind⟩ :=
    lockedRestoreContext_eq_ok_iff.mp hcontext
  obtain ⟨hmem, hrunning⟩ := h.running
  obtain ⟨backup, hrow, hbound, hexpired⟩ := h.expired
  have hsame : context.operation = operation :=
    Table.eq_of_key (Table.get?_mem hoperation) hmem ((Table.get?_key hoperation).trans hrequest)
  rw [hsame] at hlink
  have hsameBackup : context.backup = backup :=
    Table.eq_of_key (Table.get?_mem hbackup) hrow (Option.some.inj (hlink.symm.trans hbound))
  split at hkind
  · simp [hsame, hrunning] at hkind
  · obtain ⟨_, -, -, -, -, -, -, -, -, -, -, -, -, -, -, hready, -⟩ := hkind
    simp [hsameBackup, hexpired] at hready

theorem RestoreWedged.step (h : RestoreWedged operation w.db)
    (hrequest : request.operationId = operation.id)
    (hallowed : ExecutesRestore request w label) (hstep : Step env w label after) :
    RestoreWedged operation after.db := by
  cases hstep with
  | tick | loadRestore => exact h
  | restoreGate hgate =>
      obtain ⟨_, hcontext, _⟩ := semesterRestoreGate_eq_ok_iff.mp hgate
      obtain rfl := hallowed
      exact absurd hcontext (h.lockedRestoreContext_ne_ok hrequest)
  | finishRestore hattempt hfinal =>
      obtain ⟨_, hcontext, _⟩ := semesterRestoreFinal_spec hfinal
      rw [hallowed _ hattempt] at hcontext
      exact absurd hcontext (h.lockedRestoreContext_ne_ok hrequest)
  | _ => exact hallowed.elim

theorem RestoreWedged.run (h : RestoreWedged operation w.db)
    (hrequest : request.operationId = operation.id)
    (hrun : Reaches (· = w) (Step env) (ExecutesRestore request) after) :
    RestoreWedged operation after.db := by
  induction hrun with
  | start hstart => exact hstart ▸ h
  | next _ hallowed hstep ih => exact ih.step hrequest hallowed hstep

/-- No execution ends a wedged restore. -/
theorem RestoreWedged.not_restoreEnds (h : RestoreWedged operation w.db)
    (htype : operation.operationType = .restore) {actor : UserRow} {password : String}
    (hactor : (w.db.data.users.map (·.id)).Nodup) (hmem : actor ∈ w.db.data.users)
    (hid : actor.id = operation.adminActorId)
    (hpassword : env.verifyPassword password actor.passwordHash = true) :
    ¬ RestoreEnds env w := by
  intro hends
  obtain ⟨backupId, _, found, hfound, hfoundId, hexit⟩ :=
    hends operation h.running.1 htype h.running.2
  obtain rfl := List.inj_on_of_nodup_map hactor hfound hmem (hfoundId.trans hid.symm)
  obtain ⟨after, hrun, ended, hended, hendedId, houtcome⟩ := hexit password hpassword
  have hwedged := h.run rfl hrun
  obtain rfl := Table.eq_of_key hended hwedged.running.1 hendedId
  simp [SemesterOperation.HasEnded, hwedged.running.2] at houtcome

end Wedge

namespace RestoreProgressWitness

open LifecycleWitness
open ResetExactWitness (env account)

/-- A prepared restore can be ended. -/
theorem lifecycle_restoreEnds_prepared : ∃ w, Lifecycle env SparesRunningRestores w ∧
    (∃ operation ∈ w.db.operations.rows, operation.operationType = .restore ∧
      operation.state = .running) ∧ RestoreEnds env w := by
  obtain ⟨w, _, hreach, hrunning⟩ := Lifecycle.exists_of_run
    (resetLabels ++ [.prepareRestore 1 12])
    (fun w => w.db.operations.rows.any fun operation =>
      operation.operationType == .restore && operation.state == .running)
    (start_reached SparesRunningRestores) (by decide +kernel)
  refine ⟨w, hreach, ?_, lifecycle_restoreEnds hreach⟩
  simpa using hrunning

/-- The batch expires the backup of a prepared restore, which then runs forever. -/
theorem not_lifecycle_restoreEnds_expired :
    ¬ ∀ w, Lifecycle env AnyStep w → RestoreEnds env w := by
  intro h
  obtain ⟨w, _, hreach, hstate⟩ := Lifecycle.exists_of_run
    (resetLabels ++ [.prepareRestore 1 12, .tick semesterBackupRetention, .expireBackup []])
    (fun w => decide (account 1 .admin none ∈ w.db.data.users) &&
      w.db.operations.rows.any fun operation => operation.operationType == .restore &&
        operation.state == .running && operation.adminActorId == 1 &&
        w.db.backups.rows.any fun backup =>
          operation.backupId == some backup.id && backup.state == .expired)
    (start_reached AnyStep) (by decide +kernel)
  simp only [Bool.and_eq_true, decide_eq_true_eq, List.any_eq_true, beq_iff_eq] at hstate
  obtain ⟨hactor, operation, hmem, ⟨⟨htype, hrunning⟩, hadmin⟩, backup, hbackup, hlink,
    hexpired⟩ := hstate
  have hwedged : RestoreWedged operation w.db :=
    ⟨⟨hmem, hrunning⟩, backup, hbackup, hlink, hexpired⟩
  have hpassword : env.verifyPassword "secret" (account 1 .admin none).passwordHash = true := by
    decide
  exact hwedged.not_restoreEnds htype hreach.worldInvariant.lifecycle.integrity.data.user_keys
    hactor hadmin.symm hpassword (h w hreach)

end RestoreProgressWitness

end BuddyWeb
