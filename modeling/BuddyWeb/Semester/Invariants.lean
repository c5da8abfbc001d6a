/-
What every step keeps of the semesters, operations and backups: each backup is
bound to the reset which created it and to its source semester, one operation at
most is running, and one semester is current.
-/
import BuddyWeb.Semester.System
import BuddyWeb.Semester.ResetExact

namespace BuddyWeb

namespace SemesterBackup

/-- The reset of the backup is not completed, or its backup is not finalized. -/
def IsUnfinished (backup : SemesterBackup) : Prop :=
  (backup.state = .creating ∧ backup.failureCode = none ∨ backup.state = .failed) ∧
    backup.expiresAt = none

/-- The backup was finalized with a deadline. -/
def IsRetained (backup : SemesterBackup) (deadline : Nat) : Prop :=
  (backup.state = .ready ∨ backup.state = .restoreBlockedNewData ∨ backup.state = .expired) ∧
    backup.expiresAt = some deadline ∧ backup.failureCode = none

/-- Both packages are attached. -/
def IsAttached (backup : SemesterBackup) : Prop :=
  backup.databaseManifestLocation ≠ none ∧ backup.databaseManifestChecksum ≠ none ∧
    backup.avatarManifestLocation ≠ none ∧ backup.avatarManifestChecksum ≠ none

/-- What no step changes in a backup. -/
structure SameOrigin (before after : SemesterBackup) : Prop where
  id : after.id = before.id
  operation : after.createdByOperationId = before.createdByOperationId
  semester : after.sourceSemesterId = before.sourceSemesterId
  boundary : after.sourceBoundaryAt = before.sourceBoundaryAt

end SemesterBackup

/-- Where a reset stands. -/
inductive ResetPhase (operation : SemesterOperation) (backup : SemesterBackup)
    (semester : Semester) : Prop
  | running (hstate : operation.state = .running) (hcurrent : semester.status = .current)
      (hopen : semester.resetOperationId = none) (hbackup : backup.IsUnfinished)
  | failed (hstate : operation.state = .failed) (hbackup : backup.IsUnfinished)
  | succeeded (completedAt : Nat) (hstate : operation.state = .succeeded)
      (hclosed : semester.status = .closed)
      (hreset : semester.resetOperationId = some operation.id)
      (hverified : backup.verifiedAt ≠ none)
      (hcompleted : operation.completedAt = some completedAt)
      (hbackup : backup.IsUnfinished ∨
        backup.IsRetained (semesterBackupExpiresAt completedAt))

/-- A reset operation, its backup and its source semester. -/
structure ResetAggregate (operation : SemesterOperation) (backup : SemesterBackup)
    (semester : Semester) : Prop where
  operation_type : operation.operationType = .reset
  operation_backup : operation.backupId = some backup.id
  operation_semester : operation.semesterId = semester.id
  backup_operation : backup.createdByOperationId = operation.id
  backup_semester : backup.sourceSemesterId = semester.id
  boundary : backup.sourceBoundaryAt = semester.startedAt
  attached : backup.verifiedAt ≠ none → backup.IsAttached
  restored : backup.restoredAt = none →
    backup.restoredByAdminId = none ∧ backup.restoreOperationId = none
  phase : ResetPhase operation backup semester

/-- A running restore, the backup it uses and the reset which made the backup. -/
structure RestoreLink (restore : SemesterOperation) (backup : SemesterBackup)
    (reset : SemesterOperation) : Prop where
  backup_id : restore.backupId = some backup.id
  created : backup.createdByOperationId = reset.id
  completed : reset.state = .succeeded
  semester : restore.semesterId = reset.semesterId
  unrestored : backup.restoredAt = none
  retained : backup.state = .ready ∨ backup.state = .expired

namespace ResetAggregate

variable {operation : SemesterOperation} {backup : SemesterBackup} {semester : Semester}

/-- A running reset keeps its aggregate when it succeeds and closes its semester. -/
theorem close {after : SemesterOperation} {now : Nat}
    (h : ResetAggregate operation backup semester) (hrunning : operation.state = .running)
    (hverified : backup.verifiedAt ≠ none)
    (hafter : after = { operation with
      state := .succeeded, completedAt := some now, affectedCounts := after.affectedCounts
      resultSummary := after.resultSummary, failureCode := none }) :
    ResetAggregate after backup (closedSemester operation semester now) := by
  have hid : after.id = operation.id := by rw [hafter]
  refine { h with
    operation_type := by rw [hafter]; exact h.operation_type
    operation_backup := by rw [hafter]; exact h.operation_backup
    operation_semester := by rw [hafter]; exact h.operation_semester
    backup_operation := h.backup_operation.trans hid.symm
    phase := ?_ }
  rcases h.phase with ⟨_, _, _, hphase⟩ | ⟨hfailed, _⟩ | ⟨_, hsucceeded, _⟩
  · refine .succeeded now (by rw [hafter]) rfl ?_ hverified (by rw [hafter]) (Or.inl hphase)
    rw [hid]
    rfl
  · exact absurd (hrunning.symm.trans hfailed) (by simp)
  · exact absurd (hrunning.symm.trans hsucceeded) (by simp)

/-- An older attempt, which failed, keeps its aggregate when another reset closes the
semester. -/
theorem closeOther {closing : SemesterOperation} {now : Nat}
    (h : ResetAggregate operation backup semester) (hcurrent : semester.status = .current)
    (hstopped : operation.state ≠ .running) :
    ResetAggregate operation backup (closedSemester closing semester now) := by
  refine { h with phase := ?_ }
  rcases h.phase with ⟨hrun, _, _, _⟩ | ⟨hfailed, hphase⟩ | ⟨_, _, hclosed, _⟩
  · exact absurd hrun hstopped
  · exact .failed hfailed hphase
  · exact absurd (hcurrent.symm.trans hclosed) (by simp)

end ResetAggregate

/-- The metadata of the lifecycle. -/
structure LifecycleInvariant (db : Database) : Prop where
  integrity : db.Integrity
  admins : ∀ user ∈ db.data.users, user.role = .admin →
    user.isActive = true ∧ user.deletedAt = none
  actors : ∀ operation ∈ db.operations.rows, operation.state = .running →
    ∃ user ∈ db.data.users, user.id = operation.adminActorId ∧ user.role = .admin
  running : ∀ first ∈ db.operations.rows, ∀ second ∈ db.operations.rows,
    first.state = .running → second.state = .running → first = second
  current : ∃ semester ∈ db.semesters.rows, semester.status = .current ∧
    semester.resetOperationId = none ∧
    ∀ other ∈ db.semesters.rows, other.status = .current → other = semester
  backups : ∀ backup ∈ db.backups.rows, ∃ operation ∈ db.operations.rows,
    ∃ semester ∈ db.semesters.rows, ResetAggregate operation backup semester
  resets : ∀ operation ∈ db.operations.rows, operation.operationType = .reset →
    ∃ backup ∈ db.backups.rows, operation.backupId = some backup.id ∧
      backup.createdByOperationId = operation.id
  restores : ∀ restore ∈ db.operations.rows, restore.operationType = .restore →
    restore.state = .running → ∃ backup ∈ db.backups.rows,
      ∃ reset ∈ db.operations.rows, RestoreLink restore backup reset

namespace LifecycleInvariant

variable {db : Database}

theorem of_initial {w : World} (hinitial : w.Initial) : LifecycleInvariant w.db where
  integrity := hinitial.integrity
  admins := hinitial.admins
  actors := by simp [hinitial.operations]
  running := by simp [hinitial.operations]
  current := by
    obtain ⟨semester, hrows, hcurrent, hopen⟩ := hinitial.current
    refine ⟨semester, by simp [hrows], hcurrent, hopen, fun other hother _ => ?_⟩
    simpa [hrows] using hother
  backups := by simp [hinitial.backups]
  resets := by simp [hinitial.operations]
  restores := by simp [hinitial.operations]

section Lookup

variable (h : LifecycleInvariant db)

include h

/-- The aggregate of a backup is the one of the operation which created it. -/
theorem aggregate_of_backup {operation : SemesterOperation} {backup : SemesterBackup}
    (hbackup : backup ∈ db.backups.rows) (hmem : operation ∈ db.operations.rows)
    (hcreated : backup.createdByOperationId = operation.id) :
    ∃ semester ∈ db.semesters.rows, ResetAggregate operation backup semester := by
  obtain ⟨found, hfound, semester, hsemester, haggregate⟩ := h.backups backup hbackup
  have hsame : found = operation :=
    Table.eq_of_key hfound hmem (haggregate.backup_operation.symm.trans hcreated)
  subst hsame
  exact ⟨semester, hsemester, haggregate⟩

theorem currentSemester_eq {semester : Semester} (hmem : semester ∈ db.semesters.rows)
    (hcurrent : semester.status = .current) : db.currentSemester? = some semester := by
  obtain ⟨current, _, _, _, hunique⟩ := h.current
  refine Table.select?_eq_some_of_unique hmem (by simp [hcurrent]) fun other hother hfilter => ?_
  rw [hunique other hother (by simpa using hfilter), hunique semester hmem hcurrent]

theorem find_user {user : UserRow} (huser : user ∈ db.data.users) :
    (db.data.users.find? fun other => other.id == user.id) = some user := by
  cases hfind : db.data.users.find? fun other => other.id == user.id with
  | none => simpa using List.find?_eq_none.mp hfind user huser
  | some found =>
      have hid : found.id = user.id := by simpa using List.find?_some hfind
      exact congrArg some (List.inj_on_of_nodup_map h.integrity.data.user_keys
        (List.mem_of_find?_eq_some hfind) huser hid)

/-- The rows which name one administrator are one row. -/
theorem find_actor {operation : SemesterOperation} (hmem : operation ∈ db.operations.rows)
    (hrunning : operation.state = .running) :
    ∃ actor, (db.data.users.find? fun user => user.id == operation.adminActorId) = some actor ∧
      actor.id = operation.adminActorId ∧ actor.role = .admin ∧ actor.isActive = true ∧
      actor.deletedAt = none := by
  obtain ⟨user, huser, hid, hrole⟩ := h.actors operation hmem hrunning
  exact ⟨user, hid ▸ h.find_user huser, hid, hrole, h.admins user huser hrole⟩

end Lookup

section Effects

variable (h : LifecycleInvariant db)

include h

/-- Students, catalogs and events may change under their constraints. -/
theorem withData {data : Dataset} (hintegrity : { db with data }.Integrity)
    (hadmins : ∀ user, user.role = .admin → (user ∈ data.users ↔ user ∈ db.data.users)) :
    LifecycleInvariant { db with data } where
  integrity := hintegrity
  admins user huser hrole := h.admins user ((hadmins user hrole).mp huser) hrole
  actors operation hmem hrunning := by
    obtain ⟨user, huser, hid, hrole⟩ := h.actors operation hmem hrunning
    exact ⟨user, (hadmins user hrole).mpr huser, hid, hrole⟩
  running := h.running
  current := h.current
  backups := h.backups
  resets := h.resets
  restores := h.restores

theorem withAlembicHead (alembicHead : String) :
    LifecycleInvariant { db with alembicHead } where
  integrity := ⟨h.integrity.data, h.integrity.user_semesters⟩
  admins := h.admins
  actors := h.actors
  running := h.running
  current := h.current
  backups := h.backups
  resets := h.resets
  restores := h.restores

/-- The counters of the current semester are no part of an aggregate. -/
theorem putSemester {before after : Semester} (hmem : before ∈ db.semesters.rows)
    (hid : after.id = before.id) (hstatus : after.status = before.status)
    (hstarted : after.startedAt = before.startedAt)
    (hreset : after.resetOperationId = before.resetOperationId) :
    LifecycleInvariant { db with semesters := db.semesters.put after } where
  integrity := by
    refine ⟨h.integrity.data, fun user huser semesterId hsemester => ?_⟩
    obtain ⟨semester, hrow, hsame⟩ := h.integrity.user_semesters user huser semesterId hsemester
    rcases Table.mem_put_or_eq hmem hid hrow with rfl | hkept
    · exact ⟨after, Table.mem_put_self hmem hid, hid.trans hsame⟩
    · exact ⟨semester, hkept, hsame⟩
  admins := h.admins
  actors := h.actors
  running := h.running
  current := by
    obtain ⟨current, hrow, hcurrent, hopen, hunique⟩ := h.current
    rcases Table.mem_put_or_eq hmem hid hrow with rfl | hkept
    · refine ⟨after, Table.mem_put_self hmem hid, hstatus.trans hcurrent, hreset.trans hopen,
        fun other hother hstate => ?_⟩
      rcases Table.mem_put_cases hid hother with rfl | ⟨hold, hne⟩
      · rfl
      · exact absurd (hunique other hold hstate) hne
    · refine ⟨current, hkept, hcurrent, hopen, fun other hother hstate => ?_⟩
      rcases Table.mem_put_cases hid hother with rfl | ⟨hold, _⟩
      · have hsame := hunique before hmem (hstatus ▸ hstate)
        subst hsame
        rcases Table.mem_put_cases hid hkept with heq | ⟨_, hne⟩
        · exact heq.symm
        · exact absurd rfl hne
      · exact hunique other hold hstate
  backups backup hbackup := by
    obtain ⟨operation, hoperation, semester, hsemester, haggregate⟩ := h.backups backup hbackup
    rcases Table.mem_put_or_eq hmem hid hsemester with rfl | hkept
    · refine ⟨operation, hoperation, after, Table.mem_put_self hmem hid,
        { haggregate with
          operation_semester := haggregate.operation_semester.trans hid.symm
          backup_semester := haggregate.backup_semester.trans hid.symm
          boundary := haggregate.boundary.trans hstarted.symm
          phase := ?_ }⟩
      rcases haggregate.phase with ⟨hstate, hcurrent, hopen, hphase⟩ | ⟨hstate, hphase⟩ |
        ⟨completedAt, hstate, hclosed, hclosing, hverified, hcompleted, hphase⟩
      · exact .running hstate (hstatus.trans hcurrent) (hreset.trans hopen) hphase
      · exact .failed hstate hphase
      · exact .succeeded completedAt hstate (hstatus.trans hclosed) (hreset.trans hclosing)
          hverified hcompleted hphase
    · exact ⟨operation, hoperation, semester, hkept, haggregate⟩
  resets := h.resets
  restores := h.restores

/-- A new version of a backup which stays in its aggregate and which running restores
still accept. -/
theorem putBackup {before after : SemesterBackup} (hmem : before ∈ db.backups.rows)
    (hid : after.id = before.id)
    (hcreated : after.createdByOperationId = before.createdByOperationId)
    (haggregate : ∀ operation ∈ db.operations.rows, ∀ semester ∈ db.semesters.rows,
      ResetAggregate operation before semester → ResetAggregate operation after semester)
    (hrestore : ∀ restore ∈ db.operations.rows, restore.operationType = .restore →
      restore.state = .running → ∀ reset ∈ db.operations.rows,
      RestoreLink restore before reset → RestoreLink restore after reset) :
    LifecycleInvariant { db with backups := db.backups.put after } where
  integrity := ⟨h.integrity.data, h.integrity.user_semesters⟩
  admins := h.admins
  actors := h.actors
  running := h.running
  current := h.current
  backups backup hbackup := by
    rcases Table.mem_put_cases hid hbackup with rfl | ⟨hold, _⟩
    · obtain ⟨operation, hoperation, semester, hsemester, hbound⟩ := h.backups before hmem
      exact ⟨operation, hoperation, semester, hsemester,
        haggregate operation hoperation semester hsemester hbound⟩
    · exact h.backups backup hold
  resets operation hoperation htype := by
    obtain ⟨backup, hbackup, hlink, hcreator⟩ := h.resets operation hoperation htype
    rcases Table.mem_put_or_eq hmem hid hbackup with rfl | hkept
    · exact ⟨after, Table.mem_put_self hmem hid, by rw [hlink, hid], hcreated.trans hcreator⟩
    · exact ⟨backup, hkept, hlink, hcreator⟩
  restores restore hmemRestore htype hrunning := by
    obtain ⟨backup, hbackup, reset, hreset, hlink⟩ :=
      h.restores restore hmemRestore htype hrunning
    rcases Table.mem_put_or_eq hmem hid hbackup with rfl | hkept
    · exact ⟨after, Table.mem_put_self hmem hid, reset, hreset,
        hrestore restore hmemRestore htype hrunning reset hreset hlink⟩
    · exact ⟨backup, hkept, reset, hreset, hlink⟩

/-- A restore which is no longer running. -/
theorem settleRestore {before after : SemesterOperation} (hmem : before ∈ db.operations.rows)
    (hid : after.id = before.id) (hbefore : before.operationType = .restore)
    (hafter : after.operationType = .restore) (hstate : after.state ≠ .running) :
    LifecycleInvariant { db with operations := db.operations.put after } where
  integrity := ⟨h.integrity.data, h.integrity.user_semesters⟩
  admins := h.admins
  actors operation hoperation hrunning := by
    rcases Table.mem_put_cases hid hoperation with rfl | ⟨hold, _⟩
    · exact absurd hrunning hstate
    · exact h.actors operation hold hrunning
  running first hfirst second hsecond hrunFirst hrunSecond := by
    rcases Table.mem_put_cases hid hfirst with rfl | ⟨holdFirst, _⟩
    · exact absurd hrunFirst hstate
    rcases Table.mem_put_cases hid hsecond with rfl | ⟨holdSecond, _⟩
    · exact absurd hrunSecond hstate
    exact h.running first holdFirst second holdSecond hrunFirst hrunSecond
  current := h.current
  backups backup hbackup := by
    obtain ⟨operation, hoperation, semester, hsemester, haggregate⟩ := h.backups backup hbackup
    rcases Table.mem_put_or_eq hmem hid hoperation with rfl | hkept
    · exact absurd (haggregate.operation_type.symm.trans hbefore) (by simp)
    · exact ⟨operation, hkept, semester, hsemester, haggregate⟩
  resets operation hoperation htype := by
    rcases Table.mem_put_cases hid hoperation with rfl | ⟨hold, _⟩
    · exact absurd (htype.symm.trans hafter) (by simp)
    · exact h.resets operation hold htype
  restores restore hrestore htype hrunning := by
    rcases Table.mem_put_cases hid hrestore with rfl | ⟨hold, _⟩
    · exact absurd hrunning hstate
    obtain ⟨backup, hbackup, reset, hreset, hlink⟩ := h.restores restore hold htype hrunning
    rcases Table.mem_put_or_eq hmem hid hreset with rfl | hkept
    · obtain ⟨semester, _, haggregate⟩ := h.aggregate_of_backup hbackup hmem hlink.created
      exact absurd (haggregate.operation_type.symm.trans hbefore) (by simp)
    · exact ⟨backup, hbackup, reset, hkept, hlink⟩

/-- A running reset whose preparation fails. -/
theorem failReset {before after : SemesterOperation} (hmem : before ∈ db.operations.rows)
    (hrunning : before.state = .running) (htype : before.operationType = .reset)
    (hafter : after = { before with
      state := .failed, completedAt := after.completedAt, failureCode := after.failureCode }) :
    LifecycleInvariant { db with operations := db.operations.put after } := by
  have hid : after.id = before.id := by rw [hafter]
  have hstate : after.state = .failed := by rw [hafter]
  have hnotRunning : after.state ≠ .running := by simp [hstate]
  exact
  { integrity := ⟨h.integrity.data, h.integrity.user_semesters⟩
    admins := h.admins
    actors := fun operation hoperation hrun => by
      rcases Table.mem_put_cases hid hoperation with rfl | ⟨hold, _⟩
      · exact absurd hrun hnotRunning
      · exact h.actors operation hold hrun
    running := fun first hfirst second hsecond hrunFirst hrunSecond => by
      rcases Table.mem_put_cases hid hfirst with rfl | ⟨holdFirst, _⟩
      · exact absurd hrunFirst hnotRunning
      rcases Table.mem_put_cases hid hsecond with rfl | ⟨holdSecond, _⟩
      · exact absurd hrunSecond hnotRunning
      exact h.running first holdFirst second holdSecond hrunFirst hrunSecond
    current := h.current
    backups := fun backup hbackup => by
      obtain ⟨operation, hoperation, semester, hsemester, haggregate⟩ := h.backups backup hbackup
      rcases Table.mem_put_or_eq hmem hid hoperation with rfl | hkept
      · refine ⟨after, Table.mem_put_self hmem hid, semester, hsemester,
          { haggregate with
            operation_type := by rw [hafter]; exact haggregate.operation_type
            operation_backup := by rw [hafter]; exact haggregate.operation_backup
            operation_semester := by rw [hafter]; exact haggregate.operation_semester
            backup_operation := haggregate.backup_operation.trans hid.symm
            phase := ?_ }⟩
        rcases haggregate.phase with ⟨_, _, _, hphase⟩ | ⟨hfailed, _⟩ | ⟨_, hsucceeded, _⟩
        · exact .failed hstate hphase
        · exact absurd (hrunning.symm.trans hfailed) (by simp)
        · exact absurd (hrunning.symm.trans hsucceeded) (by simp)
      · exact ⟨operation, hkept, semester, hsemester, haggregate⟩
    resets := fun operation hoperation hreset => by
      rcases Table.mem_put_cases hid hoperation with rfl | ⟨hold, _⟩
      · obtain ⟨backup, hbackup, hlink, hcreator⟩ := h.resets before hmem htype
        exact ⟨backup, hbackup, by rw [hafter]; exact hlink, hcreator.trans hid.symm⟩
      · exact h.resets operation hold hreset
    restores := fun restore hrestore hkind hrun => by
      rcases Table.mem_put_cases hid hrestore with rfl | ⟨hold, _⟩
      · exact absurd hrun hnotRunning
      obtain ⟨backup, hbackup, reset, hreset, hlink⟩ := h.restores restore hold hkind hrun
      rcases Table.mem_put_or_eq hmem hid hreset with rfl | hkept
      · exact absurd (hrunning.symm.trans hlink.completed) (by simp)
      · exact ⟨backup, hbackup, reset, hkept, hlink⟩ }

/-- A new running operation of an administrator, with its new backup when it is a
reset. -/
theorem addReset {operations : Table SemesterOperation} {backups : Table SemesterBackup}
    {operation : SemesterOperation} {backup : SemesterBackup} {semester : Semester}
    (hnone : ∀ other ∈ db.operations.rows, other.state ≠ .running)
    (hoperations : operations.rows = operation :: db.operations.rows)
    (hbackups : backups.rows = backup :: db.backups.rows)
    (hactor : ∃ user ∈ db.data.users, user.id = operation.adminActorId ∧ user.role = .admin)
    (hsemester : semester ∈ db.semesters.rows)
    (haggregate : ResetAggregate operation backup semester) :
    LifecycleInvariant { db with operations, backups } where
  integrity := ⟨h.integrity.data, h.integrity.user_semesters⟩
  admins := h.admins
  actors other hother hrun := by
    rcases List.mem_cons.mp (hoperations ▸ hother) with rfl | hold
    · exact hactor
    · exact h.actors other hold hrun
  running first hfirst second hsecond hrunFirst hrunSecond := by
    rcases List.mem_cons.mp (hoperations ▸ hfirst) with rfl | holdFirst
    · rcases List.mem_cons.mp (hoperations ▸ hsecond) with rfl | holdSecond
      · rfl
      · exact absurd hrunSecond (hnone second holdSecond)
    · exact absurd hrunFirst (hnone first holdFirst)
  current := h.current
  backups other hother := by
    rcases List.mem_cons.mp (hbackups ▸ hother) with rfl | hold
    · exact ⟨operation, by simp [hoperations], semester, hsemester, haggregate⟩
    · obtain ⟨creator, hcreator, source, hsource, hbound⟩ := h.backups other hold
      exact ⟨creator, by simp [hoperations, hcreator], source, hsource, hbound⟩
  resets other hother htype := by
    rcases List.mem_cons.mp (hoperations ▸ hother) with rfl | hold
    · exact ⟨backup, by simp [hbackups], haggregate.operation_backup,
        haggregate.backup_operation⟩
    · obtain ⟨created, hcreated, hlink, hcreator⟩ := h.resets other hold htype
      exact ⟨created, by simp [hbackups, hcreated], hlink, hcreator⟩
  restores other hother htype hrun := by
    rcases List.mem_cons.mp (hoperations ▸ hother) with rfl | hold
    · exact absurd (haggregate.operation_type.symm.trans htype) (by simp)
    · exact absurd hrun (hnone other hold)

theorem addRestore {operations : Table SemesterOperation} {operation reset : SemesterOperation}
    {backup : SemesterBackup}
    (hnone : ∀ other ∈ db.operations.rows, other.state ≠ .running)
    (hoperations : operations.rows = operation :: db.operations.rows)
    (htype : operation.operationType = .restore)
    (hactor : ∃ user ∈ db.data.users, user.id = operation.adminActorId ∧ user.role = .admin)
    (hbackup : backup ∈ db.backups.rows) (hreset : reset ∈ db.operations.rows)
    (hlink : RestoreLink operation backup reset) :
    LifecycleInvariant { db with operations } where
  integrity := ⟨h.integrity.data, h.integrity.user_semesters⟩
  admins := h.admins
  actors other hother hrun := by
    rcases List.mem_cons.mp (hoperations ▸ hother) with rfl | hold
    · exact hactor
    · exact h.actors other hold hrun
  running first hfirst second hsecond hrunFirst hrunSecond := by
    rcases List.mem_cons.mp (hoperations ▸ hfirst) with rfl | holdFirst
    · rcases List.mem_cons.mp (hoperations ▸ hsecond) with rfl | holdSecond
      · rfl
      · exact absurd hrunSecond (hnone second holdSecond)
    · exact absurd hrunFirst (hnone first holdFirst)
  current := h.current
  backups other hother := by
    obtain ⟨creator, hcreator, source, hsource, hbound⟩ := h.backups other hother
    exact ⟨creator, by simp [hoperations, hcreator], source, hsource, hbound⟩
  resets other hother hkind := by
    rcases List.mem_cons.mp (hoperations ▸ hother) with rfl | hold
    · exact absurd (hkind.symm.trans htype) (by simp)
    · exact h.resets other hold hkind
  restores other hother _ hrun := by
    rcases List.mem_cons.mp (hoperations ▸ hother) with rfl | hold
    · exact ⟨backup, hbackup, reset, by simp [hoperations, hreset], hlink⟩
    · exact absurd hrun (hnone other hold)

/-- The commit of a reset: its semester is closed, a new one is current. -/
theorem closeReset {data : Dataset} {semesters : Table Semester}
    {before : SemesterOperation} (after : SemesterOperation) {backup : SemesterBackup}
    {semester opened : Semester} {now : Nat}
    (hintegrity : { db with data, semesters }.Integrity)
    (hadmins : ∀ user, user.role = .admin → (user ∈ data.users ↔ user ∈ db.data.users))
    (hmem : before ∈ db.operations.rows) (hrunning : before.state = .running)
    (hbackup : backup ∈ db.backups.rows) (hsemester : semester ∈ db.semesters.rows)
    (hcurrent : semester.status = .current) (hverified : backup.verifiedAt ≠ none)
    (haggregate : ResetAggregate before backup semester)
    (hafter : after = { before with
      state := .succeeded, completedAt := some now, affectedCounts := after.affectedCounts
      resultSummary := after.resultSummary, failureCode := none })
    (hopened : opened.status = .current ∧ opened.resetOperationId = none)
    (hsemesters : semesters.rows =
      opened :: (db.semesters.put (closedSemester before semester now)).rows) :
    LifecycleInvariant { db with data, semesters, operations := db.operations.put after } := by
  have hid : after.id = before.id := by rw [hafter]
  have hstate : after.state = .succeeded := by rw [hafter]
  have hnotRunning : after.state ≠ .running := by simp [hstate]
  have hclosedId : (closedSemester before semester now).id = semester.id := rfl
  have honly : ∀ other ∈ db.semesters.rows, other.status = .current → other = semester := by
    obtain ⟨current, _, _, _, hunique⟩ := h.current
    intro other hother hstatus
    rw [hunique other hother hstatus, hunique semester hsemester hcurrent]
  have hsource : ∀ other ∈ db.semesters.rows,
      other = semester ∨ other ∈ semesters.rows := by
    intro other hother
    rcases Table.mem_put_or_eq hsemester hclosedId hother with hsame | hkept
    · exact Or.inl hsame
    · exact Or.inr (by simp [hsemesters, hkept])
  have hclosedMem : closedSemester before semester now ∈ semesters.rows := by
    have hput := Table.mem_put_self hsemester hclosedId
    simp [hsemesters, hput]
  exact
  { integrity := ⟨hintegrity.data, hintegrity.user_semesters⟩
    admins := fun user huser hrole => h.admins user ((hadmins user hrole).mp huser) hrole
    actors := fun operation hoperation hrun => by
      rcases Table.mem_put_cases hid hoperation with rfl | ⟨hold, hne⟩
      · exact absurd hrun hnotRunning
      · exact absurd (h.running operation hold before hmem hrun hrunning) hne
    running := fun first hfirst second _ hrunFirst _ => by
      rcases Table.mem_put_cases hid hfirst with rfl | ⟨hold, hne⟩
      · exact absurd hrunFirst hnotRunning
      · exact absurd (h.running first hold before hmem hrunFirst hrunning) hne
    current := by
      refine ⟨opened, by simp [hsemesters], hopened.1, hopened.2, fun other hother hstatus => ?_⟩
      rcases List.mem_cons.mp (hsemesters ▸ hother) with rfl | hold
      · rfl
      rcases Table.mem_put_cases hclosedId hold with rfl | ⟨hrow, hne⟩
      · exact absurd hstatus (by simp [closedSemester])
      · exact absurd (honly other hrow hstatus) hne
    backups := fun other hother => by
      obtain ⟨operation, hoperation, source, hsourceMem, hbound⟩ := h.backups other hother
      rcases Table.mem_put_or_eq hmem hid hoperation with rfl | hkept
      · -- The aggregate of this reset: its backup is the one which was verified.
        have hsame : other = backup := by
          have hlink := hbound.operation_backup.symm.trans haggregate.operation_backup
          exact Table.eq_of_key hother hbackup (Option.some.inj hlink)
        subst hsame
        exact ⟨after, Table.mem_put_self hmem hid, closedSemester operation semester now,
          hclosedMem, haggregate.close hrunning hverified hafter⟩
      rcases hsource source hsourceMem with rfl | hsourceKept
      · -- An older attempt for the same semester, which failed.
        refine ⟨operation, hkept, closedSemester before source now, hclosedMem,
          hbound.closeOther hcurrent fun hrun => ?_⟩
        obtain rfl := h.running operation hoperation before hmem hrun hrunning
        rcases Table.mem_put_cases hid hkept with heq | ⟨_, hne⟩
        · exact hnotRunning (heq ▸ hrun)
        · exact hne rfl
      · exact ⟨operation, hkept, source, hsourceKept, hbound⟩
    resets := fun operation hoperation htype => by
      rcases Table.mem_put_cases hid hoperation with rfl | ⟨hold, _⟩
      · exact ⟨backup, hbackup, by rw [hafter]; exact haggregate.operation_backup,
          haggregate.backup_operation.trans hid.symm⟩
      · exact h.resets operation hold htype
    restores := fun restore hrestore _ hrun => by
      rcases Table.mem_put_cases hid hrestore with rfl | ⟨hold, hne⟩
      · exact absurd hrun hnotRunning
      · exact absurd (h.running restore hold before hmem hrun hrunning) hne }

end Effects

end LifecycleInvariant

end BuddyWeb
