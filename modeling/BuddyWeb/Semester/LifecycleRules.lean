/-
The rules of the semester lifecycle: one CURRENT semester, one RUNNING operation,
the retention of a backup, and the conditions under which it is restored.
-/
import BuddyWeb.Semester.LifecycleChanges

namespace BuddyWeb

/-- The rules of one state. -/
structure LifecycleRules (db : Database) : Prop where
  current : ∃! semester, semester ∈ db.semesters.rows ∧ semester.status = .current
  running : ∀ first ∈ db.operations.rows, ∀ second ∈ db.operations.rows,
    first.state = .running → second.state = .running → first = second
  finalized : ∀ backup ∈ db.backups.rows,
    backup.state = .ready ∨ backup.state = .restoreBlockedNewData →
    ∃ reset ∈ db.operations.rows, ∃ completedAt, reset.id = backup.createdByOperationId ∧
      reset.operationType = .reset ∧ reset.state = .succeeded ∧
      reset.completedAt = some completedAt ∧
      backup.expiresAt = some (completedAt + 30 * 24 * 60 * 60 * 1000000)
  in_time : ∀ backup ∈ db.backups.rows, ∀ restoredAt ∈ backup.restoredAt,
    ∃ deadline, backup.expiresAt = some deadline ∧ restoredAt < deadline
  once : ∀ first ∈ db.operations.rows, ∀ second ∈ db.operations.rows,
    first.operationType = .restore → first.state = .succeeded →
    second.operationType = .restore → second.state = .succeeded →
    first.backupId = second.backupId → first = second

/-- The step marks the backup as restored, or a restore which uses it succeeds. -/
def Restores (w after : World) (backupId : Nat) : Prop :=
  (∃ backup ∈ w.db.backups.rows, ∃ changed ∈ after.db.backups.rows,
    backup.id = backupId ∧ changed.id = backupId ∧ changed.restoredAt ≠ backup.restoredAt) ∨
  ∃ settled ∈ after.db.operations.rows, settled.operationType = .restore ∧
    settled.state = .succeeded ∧ settled.backupId = some backupId ∧
    ∀ operation ∈ w.db.operations.rows, operation.id = settled.id → operation.state ≠ .succeeded

/-- The backup was never restored, its deadline is ahead and the current semester has no
student of its own. -/
def MayRestore (w : World) (backupId : Nat) : Prop :=
  ∃ backup ∈ w.db.backups.rows, backup.id = backupId ∧ backup.restoredAt = none ∧
    (∃ deadline, backup.expiresAt = some deadline ∧ w.now < deadline) ∧
    ∃ current, w.db.currentSemester? = some current ∧ ¬ current.HasNewStudents

/-- The step creates a student account. -/
def RegistersStudent (w : World) : Label → Prop
  | .cohortWrite data _ => registeredStudents w.db.data data ≠ []
  | _ => False

/-- An earlier step of the run created a student account in the semester which is
still current. -/
def RegisteredInCurrent (env : SemesterEnvironment) (allowed : World → Label → Prop)
    (w : World) : Prop :=
  ∃ earlier label middle current latest, Lifecycle env allowed earlier ∧
    Step env earlier label middle ∧ RegistersStudent earlier label ∧
    Reaches (· = middle) (Step env) allowed w ∧
    earlier.db.currentSemester? = some current ∧ w.db.currentSemester? = some latest ∧
    latest.id = current.id

/-- The rules of one step. -/
structure StepRules (env : SemesterEnvironment) (allowed : World → Label → Prop)
    (w after : World) : Prop where
  restores : ∀ backupId, Restores w after backupId →
    MayRestore w backupId ∧ ¬ RegisteredInCurrent env allowed w ∧
      ∃ changed ∈ after.db.backups.rows, changed.id = backupId ∧
        changed.restoredAt = some w.now
  kept : ∀ backup ∈ w.db.backups.rows, ∃ changed ∈ after.db.backups.rows,
    changed.id = backup.id ∧
      (backup.restoredAt ≠ none → changed.restoredAt = backup.restoredAt) ∧
      (backup.state = .restoreBlockedNewData →
        changed.state = .restoreBlockedNewData ∨ changed.state = .expired)

section Semesters

variable {w after : World} {semester changed : Semester}

/-- A semester never forgets that students were created in it. -/
theorem SemesterChange.hasNewStudents (h : SemesterChange w semester changed)
    (hstudents : semester.HasNewStudents) : changed.HasNewStudents := by
  cases h with
  | closed => exact hstudents
  | counted =>
      unfold countRegistrations
      split
      · exact hstudents
      · rename_i hcount
        exact Or.inl (Nat.add_pos_right _ (Nat.pos_of_ne_zero hcount))

/-- The semester with this key has students of its own. -/
def SemesterHasStudents (semesterId : Nat) (w : World) : Prop :=
  ∃ semester ∈ w.db.semesters.rows, semester.id = semesterId ∧ semester.HasNewStudents

theorem SemesterHasStudents.step {env : SemesterEnvironment} {semesterId : Nat} {label : Label}
    (h : SemesterHasStudents semesterId w) (hinvariant : WorldInvariant env w)
    (hstep : Step env w label after) : SemesterHasStudents semesterId after := by
  obtain ⟨semester, hmem, hid, hstudents⟩ := h
  obtain ⟨changed, hchanged, hkey, hversion⟩ :=
    (hstep.change hinvariant.lifecycle).semesters.forward hmem
  refine ⟨changed, hchanged, Eq.trans hkey hid, ?_⟩
  rcases hversion with rfl | hchange
  · exact hstudents
  · exact hchange.hasNewStudents hstudents

/-- A registration is counted in the current semester. -/
theorem semesterHasStudents_of_registers {env : SemesterEnvironment} {label : Label}
    {current : Semester} (hcurrent : w.db.currentSemester? = some current)
    (hregisters : RegistersStudent w label) (hstep : Step env w label after) :
    SemesterHasStudents current.id after := by
  cases hstep with
  | @cohortWrite data images counted hwrite =>
      obtain rfl := Option.some.inj (hwrite.semester.symm.trans hcurrent)
      have hcount : (registeredStudents w.db.data data).length ≠ 0 := by
        simpa [RegistersStudent] using hregisters
      refine ⟨_, Table.mem_put_self (Table.select?_mem hcurrent) ?_, ?_, ?_⟩
      · simp [countRegistrations, hcount]
        rfl
      · simp [countRegistrations, hcount]
      · left
        simp only [countRegistrations, hcount, ↓reduceIte]
        exact Nat.add_pos_right _ (Nat.pos_of_ne_zero hcount)
  | _ => exact absurd hregisters (by simp [RegistersStudent])

/-- Once a student was registered in the current semester, its counters say so. -/
theorem RegisteredInCurrent.hasNewStudents {env : SemesterEnvironment}
    {allowed : World → Label → Prop} {latest : Semester}
    (h : RegisteredInCurrent env allowed w) (hlatest : w.db.currentSemester? = some latest) :
    latest.HasNewStudents := by
  obtain ⟨earlier, label, middle, current, found, hearlier, hstep, hregisters, hrun, hcurrent,
    hfound, hid⟩ := h
  obtain rfl := Option.some.inj (hfound.symm.trans hlatest)
  have hmiddle := hearlier.worldInvariant.step hstep
  have hboth : WorldInvariant env w ∧ SemesterHasStudents current.id w := by
    clear hlatest hfound
    induction hrun with
    | start hinit =>
        subst hinit
        exact ⟨hmiddle, semesterHasStudents_of_registers hcurrent hregisters hstep⟩
    | next _ _ hnext ih => exact ⟨ih.1.step hnext, ih.2.step ih.1 hnext⟩
  obtain ⟨semester, hmem, hsame, hstudents⟩ := hboth.2
  rwa [← Table.eq_of_key hmem (Table.select?_mem hfound) (hsame.trans hid.symm)]

end Semesters

section Restores

variable {checksums : Checksums} {w : World} {label : Label} {after : Database}
  {backup changed : SemesterBackup}

/-- A restored backup is finalized and was restored before its deadline. -/
def SemesterBackup.RestoredInTime (backup : SemesterBackup) : Prop :=
  ∀ restoredAt ∈ backup.restoredAt, backup.state ≠ .creating ∧
    ∃ deadline, backup.expiresAt = some deadline ∧ restoredAt < deadline

/-- A change keeps the restore of a backup, or is the restore. -/
theorem BackupChange.restoredAt_eq (h : BackupChange checksums w label after backup changed) :
    changed.restoredAt = backup.restoredAt ∨
      changed = restoredBackup backup (changed.restoreOperationId.getD 0)
        (changed.restoredByAdminId.getD 0) w.now ∧ backup.restoredAt = none ∧
      backup.effectiveState w.now = .ok .ready ∧
      ∃ current, w.db.currentSemester? = some current ∧ ¬ current.HasNewStudents := by
  cases h with
  | attached _ hattaches => cases hattaches <;> exact Or.inl rfl
  | restored hcurrent hstudents heffective hunrestored =>
      exact Or.inr ⟨rfl, hunrestored, heffective, _, hcurrent, hstudents⟩
  | _ => exact Or.inl rfl

theorem BackupChange.restoredInTime (h : BackupChange checksums w label after backup changed)
    (hrestored : backup.RestoredInTime) : changed.RestoredInTime := by
  have hopen : backup.state = .creating → backup.restoredAt = none := by
    intro hcreating
    cases hat : backup.restoredAt with
    | none => rfl
    | some restoredAt => exact absurd hcreating (hrestored restoredAt hat).1
  cases h with
  | attached hcreating hattaches =>
      cases hattaches <;> simp [SemesterBackup.RestoredInTime, hopen hcreating]
  | verified hcreating | finalized hcreating | failed hcreating =>
      simp [SemesterBackup.RestoredInTime, hopen hcreating]
  | blocked | expired =>
      exact fun restoredAt hat => ⟨by simp, (hrestored restoredAt hat).2⟩
  | restored _ _ heffective _ =>
      obtain ⟨hready, deadline, hdeadline, hearly⟩ :=
        SemesterBackup.effectiveState_eq_ready_iff.mp heffective
      intro restoredAt hat
      obtain rfl := Option.some.inj hat
      exact ⟨by simp [restoredBackup, hready], deadline, hdeadline, hearly⟩

theorem BackupChange.blocked_left (h : BackupChange checksums w label after backup changed)
    (hblocked : backup.state = .restoreBlockedNewData) : changed.state = .expired := by
  cases h with
  | expired => rfl
  | attached hcreating | verified hcreating | finalized hcreating | failed hcreating =>
      simp [hblocked] at hcreating
  | blocked _ _ hready => simp [hblocked] at hready
  | restored _ _ heffective _ =>
      have hready := (SemesterBackup.effectiveState_eq_ready_iff.mp heffective).1
      simp [hblocked] at hready

end Restores

/-- What runs keep of restores: every SUCCEEDED restore is the one its backup names. -/
structure RestoreRecords (db : Database) : Prop where
  in_time : ∀ backup ∈ db.backups.rows, backup.RestoredInTime
  named : ∀ restore ∈ db.operations.rows, restore.operationType = .restore →
    restore.state = .succeeded → ∃ backup ∈ db.backups.rows,
      restore.backupId = some backup.id ∧ backup.restoreOperationId = some restore.id ∧
      backup.restoredAt ≠ none

namespace RestoreRecords

variable {checksums : Checksums} {w : World} {label : Label} {after : Database}

theorem change (h : RestoreRecords w.db) (hchange : LifecycleChange checksums w label after) :
    RestoreRecords after where
  in_time backup hmem := by
    rcases hchange.backups.backward hmem with ⟨old, hold, _, rfl | hversion⟩ | ⟨_, _, _, rfl⟩
    · exact h.in_time backup hold
    · exact hversion.restoredInTime (h.in_time old hold)
    · simp [SemesterBackup.RestoredInTime, creatingBackup]
  named restore hmem htype hstate := by
    rcases hchange.operations.backward hmem with ⟨old, hold, _, rfl | hversion⟩ |
      ⟨_, _, _, _, _, _, rfl, _⟩
    · obtain ⟨backup, hbackup, hlink, hnamed, hrestored⟩ := h.named restore hold htype hstate
      obtain ⟨changed, hchanged, hkey, rfl | hversion⟩ := hchange.backups.forward hbackup
      · exact ⟨changed, hchanged, hlink, hnamed, hrestored⟩
      · refine ⟨changed, hchanged, hlink.trans (congrArg some hkey.symm), ?_, ?_⟩
        · cases hversion with
          | attached _ hattaches => cases hattaches <;> exact hnamed
          | restored _ _ _ hunrestored => exact absurd hunrestored hrestored
          | _ => exact hnamed
        · rcases hversion.restoredAt_eq with hsame | ⟨_, hunrestored, _⟩
          · rwa [hsame]
          · exact absurd hunrestored hrestored
    · cases hversion with
      | failed => simp at hstate
      | reset _ hreset => simp [succeededReset, hreset] at htype
      | restore _ _ hlink _ _ hrestored =>
          exact ⟨_, hrestored, hlink, rfl, by simp [restoredBackup]⟩
    · simp [runningOperation] at hstate

end RestoreRecords

/-- A step which restores a backup was allowed to, and marks it. -/
theorem LifecycleChange.of_restores {checksums : Checksums} {w after : World} {label : Label}
    {backupId : Nat} (hchange : LifecycleChange checksums w label after.db)
    (hrestores : Restores w after backupId) :
    MayRestore w backupId ∧ ∃ changed ∈ after.db.backups.rows, changed.id = backupId ∧
      changed.restoredAt = some w.now := by
  have hmarks : ∀ backup ∈ w.db.backups.rows, ∀ changed ∈ after.db.backups.rows,
      changed.id = backup.id → changed.restoredAt ≠ backup.restoredAt →
      MayRestore w backup.id ∧ ∃ changed ∈ after.db.backups.rows, changed.id = backup.id ∧
        changed.restoredAt = some w.now := by
    intro backup hmem changed hchanged hid hdiffers
    rcases hchange.backups.version hmem hchanged hid with rfl | hversion
    · exact absurd rfl hdiffers
    rcases hversion.restoredAt_eq with hsame | ⟨hrestored, hunrestored, heffective, hcurrent⟩
    · exact absurd hsame hdiffers
    · obtain ⟨_, hdeadline⟩ := SemesterBackup.effectiveState_eq_ready_iff.mp heffective
      refine ⟨⟨backup, hmem, rfl, hunrestored, hdeadline, hcurrent⟩, changed, hchanged, hid, ?_⟩
      rw [hrestored]
      rfl
  rcases hrestores with ⟨backup, hmem, changed, hchanged, rfl, hid, hdiffers⟩ |
    ⟨settled, hsettled, htype, hstate, hlink, hnew⟩
  · exact hmarks backup hmem changed hchanged hid hdiffers
  rcases hchange.operations.backward hsettled with ⟨old, hold, hkey, rfl | hversion⟩ |
    ⟨_, _, _, _, _, _, rfl, _⟩
  · exact absurd hstate (hnew settled hold rfl)
  · cases hversion with
    | failed => simp at hstate
    | reset _ hreset => simp [succeededReset, hreset] at htype
    | restore _ _ hlinked hbackup hunrestored hrestored =>
        -- The restore succeeds in the transaction which marks its backup.
        obtain rfl := Option.some.inj (hlinked.symm.trans hlink)
        exact hmarks _ hbackup _ hrestored rfl (by simp [restoredBackup, hunrestored])
  · simp [runningOperation] at hstate

theorem LifecycleInvariant.rules {db : Database} (h : LifecycleInvariant db)
    (hrecords : RestoreRecords db) : LifecycleRules db where
  current := by
    obtain ⟨semester, hmem, hstatus, _, hunique⟩ := h.current
    exact ⟨semester, ⟨hmem, hstatus⟩, fun other hother => hunique other hother.1 hother.2⟩
  running := h.running
  finalized backup hmem hstate := by
    obtain ⟨reset, hreset, semester, _, haggregate⟩ := h.backups backup hmem
    obtain ⟨hsucceeded, _, _, _, completedAt, hcompleted, hretained⟩ :=
      haggregate.retained_of_state (hstate.imp_right Or.inl)
    exact ⟨reset, hreset, completedAt, haggregate.backup_operation.symm,
      haggregate.operation_type, hsucceeded, hcompleted, hretained.2.1⟩
  in_time backup hmem restoredAt hat := (hrecords.in_time backup hmem restoredAt hat).2
  once first hfirst second hsecond htypeFirst hstateFirst htypeSecond hstateSecond hsame := by
    obtain ⟨backup, hbackup, hlinkFirst, hnamedFirst, _⟩ :=
      hrecords.named first hfirst htypeFirst hstateFirst
    obtain ⟨other, hother, hlinkSecond, hnamedSecond, _⟩ :=
      hrecords.named second hsecond htypeSecond hstateSecond
    have hid : backup.id = other.id :=
      Option.some.inj (hlinkFirst.symm.trans (hsame.trans hlinkSecond))
    obtain rfl := Table.eq_of_key hbackup hother hid
    exact Table.eq_of_key hfirst hsecond
      (Option.some.inj (hnamedFirst.symm.trans hnamedSecond))

/-- The rules hold in every state of every run and in each of its steps. -/
theorem lifecycle_rules {env : SemesterEnvironment} {allowed : World → Label → Prop}
    {w : World} (hreach : Lifecycle env allowed w) :
    LifecycleRules w.db ∧
      ∀ label after, Step env w label after → StepRules env allowed w after := by
  have hinvariant := hreach.worldInvariant
  have hrecords : RestoreRecords w.db :=
    Lifecycle.invariant (fun w => RestoreRecords w.db)
      (fun start hinitial => ⟨by simp [hinitial.backups], by simp [hinitial.operations]⟩)
      (fun before _ _ hbefore h _ hstep => h.change (hstep.change hbefore.lifecycle)) hreach
  refine ⟨hinvariant.lifecycle.rules hrecords, fun label after hstep => ?_⟩
  have hchange := hstep.change hinvariant.lifecycle
  constructor
  · intro backupId hrestores
    obtain ⟨hmay, hmarked⟩ := hchange.of_restores hrestores
    refine ⟨hmay, fun hregistered => ?_, hmarked⟩
    obtain ⟨_, _, _, _, _, current, hcurrent, hstudents⟩ := hmay
    exact hstudents (hregistered.hasNewStudents hcurrent)
  · intro backup hmem
    obtain ⟨changed, hchanged, hid, rfl | hversion⟩ := hchange.backups.forward hmem
    · exact ⟨changed, hchanged, rfl, fun _ => rfl, Or.inl⟩
    · refine ⟨changed, hchanged, hid, fun hrestored => ?_, fun hblocked =>
        Or.inr (hversion.blocked_left hblocked)⟩
      rcases hversion.restoredAt_eq with hsame | ⟨_, hunrestored, _⟩
      · exact hsame
      · exact absurd hunrestored hrestored

namespace LifecycleRulesWitness

open LifecycleWitness
open ResetExactWitness (env)

/-- A run which restores its backup, and the rules of its last state. -/
theorem lifecycle_rules_restored : ∃ w, Lifecycle env AnyStep w ∧
    (∃ backup ∈ w.db.backups.rows, backup.restoredAt ≠ none) ∧ LifecycleRules w.db ∧
      ∀ label after, Step env w label after → StepRules env AnyStep w after := by
  obtain ⟨w, _, hreach, hrestored⟩ := Lifecycle.exists_of_run
    (.migrate semesterRestoreAlembicHead :: resetLabels ++ [.prepareRestore 1 12,
      .restoreGate restoreRequest 13, .loadRestore restoreRequest, .finishRestore 0 13])
    (fun w => w.db.backups.rows.any (·.restoredAt.isSome)) (start_reached AnyStep)
    (by decide +kernel)
  refine ⟨w, hreach, ?_, lifecycle_rules hreach⟩
  simpa [Option.isSome_iff_ne_none] using hrestored

end LifecycleRulesWitness

end BuddyWeb
