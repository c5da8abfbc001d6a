/-
The invariants of the lifecycle and of its storage along whole runs.
-/
import BuddyWeb.Semester.StorageInvariants

namespace BuddyWeb

theorem LifecycleInvariant.step {env : SemesterEnvironment} {w after : World} {label : Label}
    (h : LifecycleInvariant w.db) (hstorage : StorageInvariant env.checksums w)
    (hstep : Step env w label after) : LifecycleInvariant after.db := by
  cases hstep with
  | tick | startCreation | interruptExport | rejectCreation | refuseAttachment | interruptCreation
  | rejectVerification | skipFailure | interruptReset | loadRestore | interruptRestore
  | interruptExpiry => exact h
  | cohortWrite hwrite => exact h.cohortWrite hwrite
  | migrate => exact h.withAlembicHead _
  | prepareReset hprepare => exact h.prepareReset hprepare
  | attachCreation _ hbackup hattach => exact h.attachPackage (Table.get?_mem hbackup) hattach
  | verify _ hverify => exact h.verify hverify
  | @recordFailure pending _ =>
      cases pending with
      | backup backupId code _ => exact h.markFailed backupId code
      | preparation operationId => exact h.failPreparation operationId _
  | executeReset hreset => exact h.executeReset hreset
  | prepareRestore hprepare => exact h.prepareRestore hprepare
  | restoreGate hgate => exact h.restoreGate hgate
  | finishRestore hattempt hfinal =>
      exact h.restoreFinal (hstorage.restoring _ (List.mem_of_getElem? hattempt)) hfinal
  | expireBackup hselect _ hexpired => exact h.expire hselect hexpired

namespace StorageInvariant

variable {env : SemesterEnvironment} {w after : World}

section Services

variable (h : StorageInvariant env.checksums w) (hlife : LifecycleInvariant w.db)

include h hlife

/-- A backup which waits for a creation is CREATING or FAILED, and not verified while it
is CREATING. -/
theorem open_of_creation {backup : SemesterBackup} {creation : BackupCreation}
    (hbackup : w.db.backups.get? backup.id = some backup)
    (hcreation : w.creating backup.id = some creation) :
    (backup.state = .creating ∨ backup.state = .failed) ∧ backup.verifiedAt = none := by
  obtain ⟨operation, _, semester, _, haggregate⟩ :=
    hlife.backups backup (Table.get?_mem hbackup)
  have hcell := h.cells backup.id
  rw [hbackup, hcreation] at hcell
  have hunverified : backup.verifiedAt = none := by
    by_contra hverified
    have hnone := hcell.creation_eq_none (haggregate.attached hverified)
    simp at hnone
  refine ⟨?_, hunverified⟩
  cases hstate : backup.state with
  | creating => exact Or.inl rfl
  | failed => exact Or.inr rfl
  | ready | restoreBlockedNewData | expired =>
      have hretained := haggregate.retained_of_state (by simp [hstate])
      exact absurd hunverified hretained.2.2.2.1

/-- A finalized backup has no creation waiting. -/
theorem creation_eq_none_of_retained {backup : SemesterBackup}
    (hbackup : w.db.backups.get? backup.id = some backup)
    (hstate : backup.state = .ready ∨ backup.state = .restoreBlockedNewData ∨
      backup.state = .expired) : w.creating backup.id = none := by
  cases hcreation : w.creating backup.id with
  | none => rfl
  | some creation =>
      have hopen := (open_of_creation h hlife hbackup hcreation).1
      rcases hstate with hstate | hstate | hstate <;> simp [hstate] at hopen

omit hlife in
theorem prepareReset {actorId newOperationId newBackupId : Nat} {db : Database}
    {prepared : Nat × Nat}
    (hprepare : prepareResetMetadata w.db w.now actorId newOperationId newBackupId =
      .ok (db, prepared)) : StorageInvariant env.checksums { w with db } := by
  obtain ⟨actor, current, _, _, _, ⟨_, _, _, rfl⟩ | ⟨_, operations, backups, _, hbackups,
    rfl⟩⟩ := prepareResetMetadata_spec hprepare
  · exact h
  have hget := Table.get?_insert? hbackups
  refine h.update newBackupId (fun other hne => ⟨?_, rfl, rfl⟩) ?_ rfl
  · exact (hget other).trans (if_neg hne)
  · have hnew : backups.get? newBackupId =
        some (creatingBackup newBackupId current newOperationId) :=
      (hget newBackupId).trans (if_pos rfl)
    have hold : w.db.backups.get? newBackupId = none := Table.get?_of_insert? hbackups
    have hcell := h.cells newBackupId
    obtain ⟨hempty, hcreation⟩ := hcell.unused hold
    show StorageCell env.checksums (backups.get? newBackupId) (w.packages newBackupId)
      (w.creating newBackupId)
    rw [hnew, hcreation]
    refine ⟨by simp, hcell.students, by simp, hcell.named, ?_, ?_⟩
    · intro row hrow hstate
      obtain rfl := Option.mem_some.mp hrow
      simp [creatingBackup] at hstate
    · intro row hrow _ hverified
      obtain rfl := Option.mem_some.mp hrow
      simp [creatingBackup] at hverified

omit hlife in
theorem startCreation {kind : BackupKind} {backupId : Nat} {caller : Option Nat}
    {content : PackageContent} (hstart : startCreation env w kind backupId = .ok content) :
    StorageInvariant env.checksums (w.setCreating backupId (some ⟨caller, content⟩)) := by
  have hcell := h.cells backupId
  refine h.update backupId (fun other hne => ⟨rfl, rfl, Function.update_of_ne hne _ _⟩) ?_ rfl
  show StorageCell env.checksums (w.db.backups.get? backupId) (w.packages backupId)
    (Function.update w.creating backupId (some ⟨caller, content⟩) backupId)
  rw [Function.update_self]
  have hupload : (∃ backup, w.db.backups.get? backupId = some backup ∧ backup.Open content) ∧
      content.Students ∧ content.NamedIn (w.packages backupId) := by
    cases kind with
    | database =>
        obtain ⟨_, backup, hbackup, _, hopen, _, manifest, rows, hexport, rfl⟩ :=
          exportDatabaseBackup_spec hstart
        refine ⟨⟨backup, hbackup, hopen.1⟩, ?_, trivial⟩
        have hrows := congrArg Prod.snd hexport
        rw [← show _ = rows from hrows]
        exact copyFromQuery_students _ _
    | avatars =>
        obtain ⟨_, backup, hbackup, _, hopen, database, manifest, binaries, hstored, rfl,
          hnames⟩ := exportAvatarBackup_spec hstart
        exact ⟨⟨backup, hbackup, hopen.1⟩, trivial, database, hstored, hnames⟩
  obtain ⟨⟨backup, hbackup, hopen⟩, hstudents, hnamed⟩ := hupload
  refine ⟨fun hnone => absurd hbackup (by simp [hnone]), hcell.students, ?_, hcell.named,
    hcell.artifact, hcell.verified⟩
  intro upload hmem
  obtain rfl := Option.mem_some.mp hmem
  refine ⟨hstudents, hnamed, fun row hrow => ?_⟩
  rw [hbackup] at hrow
  obtain rfl := Option.mem_some.mp hrow
  exact hopen

theorem attachCreation {backupId : Nat} {creation : BackupCreation}
    {backup attached : SemesterBackup} {stored : StoredPackage}
    (hcreation : w.creating backupId = some creation)
    (hbackup : w.db.backups.get? backupId = some backup)
    (hattach : attachBackupPackage env.checksums backup (w.packages backupId)
      creation.content = .ok (attached, stored)) :
    StorageInvariant env.checksums
      (((w.putBackup attached).setPackage backupId stored).setCreating backupId none) := by
  obtain rfl : backup.id = backupId := Table.get?_key hbackup
  obtain ⟨hcreating, _, rfl, hattaches⟩ := attachBackupPackage_spec hattach
  obtain ⟨_, hunverified⟩ := open_of_creation h hlife hbackup hcreation
  obtain ⟨hid, hstate, hverified⟩ := hattaches.unchanged
  refine h.update backup.id (fun other hne => ⟨?_, Function.update_of_ne hne _ _,
    Function.update_of_ne hne _ _⟩) ?_ rfl
  · refine Table.get?_put_of_ne ?_
    rw [show Keyed.key attached = attached.id from rfl, hid]
    exact hne
  · have hput : (w.db.backups.put attached).get? backup.id = some attached := by
      rw [← hid]
      exact Table.put_get?_self (Table.get?_mem hbackup) hid
    have hcell := h.cells backup.id
    rw [hbackup, hcreation] at hcell
    have hended := hcell.endCreation (fun _ => true) (Or.inl (hstate.trans hcreating))
      fun _ => hverified.trans hunverified
    simpa [World.setCreating, World.setPackage, World.putBackup, hput] using hended

theorem abandonCreation {backupId : Nat} {creation : BackupCreation}
    (kept : BackupObject → Bool) (hcreation : w.creating backupId = some creation) :
    StorageInvariant env.checksums (w.abandonCreation backupId creation kept) := by
  have hcell := h.cells backupId
  cases hbackup : w.db.backups.get? backupId with
  | none => exact absurd (hcell.unused hbackup).2 (by simp [hcreation])
  | some backup =>
      obtain rfl : backup.id = backupId := Table.get?_key hbackup
      obtain ⟨hstate, hunverified⟩ := open_of_creation h hlife hbackup hcreation
      refine h.update backup.id (fun other hne => ⟨rfl, Function.update_of_ne hne _ _,
        Function.update_of_ne hne _ _⟩) ?_ rfl
      rw [hbackup, hcreation] at hcell
      have hended := hcell.endCreation kept hstate fun _ => hunverified
      simpa [World.abandonCreation, World.addFailures, World.setCreating, World.setPackage,
        hbackup] using hended

omit hlife in
theorem verify {backupId : Nat} {fault : Bool} {db : Database}
    {report : SemesterBackupVerificationReport}
    (hverify : verifySemesterBackup env w.db w.now (w.busy backupId) (w.packages backupId)
      backupId fault = .ok (db, report)) : StorageInvariant env.checksums { w with db } := by
  obtain ⟨_, backup, hbackup, ⟨rfl, _⟩ | ⟨operation, verified, hcreating, _, _, hpackages,
    hverified, rfl⟩⟩ := verifySemesterBackup_spec hverify
  · exact h
  obtain rfl : backup.id = backupId := Table.get?_key hbackup
  have hcomplete : PackageComplete env.checksums backup (w.packages backup.id) := by
    obtain ⟨databaseChecksum, avatarChecksum, database, artifact, avatars, contents, hattached,
      hdatabase, havatars, hlinked, _⟩ := verifyPackages_eq_ok_iff.mp hpackages
    exact ⟨databaseChecksum, avatarChecksum, database, artifact, avatars, contents, hattached,
      hdatabase, havatars, hlinked⟩
  have hmanifest : (w.packages backup.id).databaseManifest ≠ none := by
    obtain ⟨_, _, database, _, _, _, _, hdatabase, _⟩ := hcomplete
    simp [(loadDatabaseBackupFromStorage_eq_ok_iff.mp hdatabase).2.1]
  by_cases hsucceeded : operation.state = .succeeded
  · obtain ⟨completedAt, _, _, _, rfl⟩ :=
      (finalizeVerification_eq_ok_iff hsucceeded).mp hverified
    exact h.putBackup hbackup rfl rfl fun hcell => hcell.changeRow
      (fun content hopen => by cases content <;> exact hopen)
      (fun _ hnone => absurd hnone hmanifest) (by simp)
  · rw [finalizeVerification_of_running hsucceeded] at hverified
    obtain rfl := Except.ok.inj hverified
    exact h.putBackup hbackup rfl rfl fun hcell => hcell.changeRow
      (fun content hopen => by cases content <;> exact hopen)
      (fun _ hnone => absurd hnone hmanifest) fun _ _ => hcomplete

omit hlife in
theorem markFailed (backupId : Nat) (code : FailureCode) :
    StorageInvariant env.checksums
      { w with db := markSemesterBackupFailed w.db backupId code } := by
  unfold markSemesterBackupFailed
  split
  · exact h
  · rename_i backup hbackup
    obtain rfl : backup.id = backupId := Table.get?_key hbackup
    split
    · exact h.putBackup hbackup rfl rfl fun hcell => hcell.changeRow
        (fun content hopen => by cases content <;> exact hopen) (by simp) (by simp)
    · exact h

omit hlife in
/-- A gate changes the backup row of its restore only. -/
theorem gateCommit {now auditId : Nat} {request : ExecutionRequest} {context : RestoreContext}
    {gate : RestoreGate} {db : Database}
    (hcontext : lockedRestoreContext env w.db request = .ok context)
    (hgate : GateCommit w.db now auditId context db gate) :
    StorageInvariant env.checksums { w with db } := by
  obtain ⟨_, _, hbackup, _⟩ := lockedRestoreContext_eq_ok_iff.mp hcontext
  have hget := Table.get?_self hbackup
  cases hgate with
  | replay | ready => exact h
  | blocked _ _ hready _ =>
      exact h.putBackup hget rfl rfl fun hcell => hcell.changeRow
        (fun content hopen => by cases content <;> exact hopen)
        (fun _ => hcell.artifact _ rfl (Or.inl hready)) (by simp)
  | expired _ _ _ _ _ _ _ =>
      exact h.putBackup hget rfl rfl fun hcell => hcell.changeRow
        (fun content hopen => by cases content <;> exact hopen) (by simp) (by simp)

omit hlife in
theorem restoreFinal {auditId : Nat} {attempt : RestoreAttempt} {gate : RestoreGate}
    {db : Database} {images : ImageStore}
    (hfinal : semesterRestoreFinal env w.db w.now w.images attempt.package attempt.request
      auditId = .ok (db, images, gate)) : StorageInvariant env.checksums { w with db } := by
  obtain ⟨context, hcontext, ⟨hgate, _⟩ | ⟨_, _, _, heffective, counts, summary, _, _, _,
    rfl⟩⟩ := semesterRestoreFinal_spec hfinal
  · exact h.gateCommit hcontext hgate
  obtain ⟨_, _, hbackup, _⟩ := lockedRestoreContext_eq_ok_iff.mp hcontext
  have hready := (SemesterBackup.effectiveState_eq_ready_iff.mp heffective).1
  exact h.putBackup (Table.get?_self hbackup) rfl rfl fun hcell => hcell.changeRow
    (fun content hopen => by cases content <;> exact hopen)
    (fun _ => hcell.artifact _ rfl (Or.inl hready)) (by simp [restoredBackup, hready])

omit hlife in
/-- A restore holds rows which were stored. -/
theorem loadRestore {request : ExecutionRequest} {backup : SemesterBackup}
    {package : RestorePackage}
    (hload : loadRestorePackage env.checksums backup (w.packages request.backupId) =
      .ok package) :
    StorageInvariant env.checksums { w with restoring := ⟨request, package⟩ :: w.restoring } where
  cells := h.cells
  restoring attempt hattempt := by
    rcases List.mem_cons.mp hattempt with rfl | hold
    · simp only [loadRestorePackage, except_bind_eq_ok_iff, except_pure_eq_ok_iff] at hload
      obtain ⟨_, _, _, _, ⟨database, artifact⟩, hdatabase, ⟨avatars, contents⟩, _, _, _,
        rfl⟩ := hload
      have hstored := (loadDatabaseBackupFromStorage_eq_ok_iff.mp hdatabase).1
      exact (h.cells request.backupId).students artifact hstored
    · exact h.restoring attempt hold

theorem interruptExpiry {skipped : List Nat} {backup : SemesterBackup}
    {objects : List BackupObject}
    (hselect : selectExpiredBackup w.db w.now skipped = some backup)
    (hcleanup : cleanupExpiredBackupArtifacts env.checksums backup (w.packages backup.id) =
      .ok objects) (deletions : Nat) :
    StorageInvariant env.checksums (w.setPackage backup.id
      ((w.packages backup.id).deleteAll (objects.take deletions))) := by
  obtain ⟨hmem, hstate, _⟩ := selectExpiredBackup_spec hselect
  have hbackup : w.db.backups.get? backup.id = some backup :=
    Table.get?_eq_some_iff.mpr ⟨hmem, rfl⟩
  have hnone : w.creating backup.id = none := by
    refine creation_eq_none_of_retained h hlife hbackup ?_
    rcases hstate with hstate | hstate <;> simp [hstate]
  refine h.update backup.id (fun other hne => ⟨rfl, Function.update_of_ne hne _ _, rfl⟩) ?_ rfl
  have hcell := h.cells backup.id
  rw [hbackup, hnone] at hcell
  have hleft := hcell.interruptCleanup backup.id hstate
    (cleanupExpiredBackupArtifacts_spec hcleanup) deletions
  simpa [World.setPackage, hbackup, hnone] using hleft

theorem expireBackup {skipped : List Nat} {backup expired : SemesterBackup}
    {objects : List BackupObject}
    (hselect : selectExpiredBackup w.db w.now skipped = some backup)
    (hcleanup : cleanupExpiredBackupArtifacts env.checksums backup (w.packages backup.id) =
      .ok objects) (hexpired : backup.transitionTo .expired = .ok expired) :
    StorageInvariant env.checksums ((w.putBackup expired).setPackage backup.id
      ((w.packages backup.id).deleteAll objects)) := by
  have hcleaned := interruptExpiry h hlife hselect hcleanup objects.length
  rw [List.take_length] at hcleaned
  obtain ⟨hmem, _⟩ := selectExpiredBackup_spec hselect
  obtain ⟨_, rfl⟩ := SemesterBackup.transitionTo_eq_ok_iff.mp hexpired
  have hbackup : w.db.backups.get? backup.id = some backup :=
    Table.get?_eq_some_iff.mpr ⟨hmem, rfl⟩
  have hput : (w.setPackage backup.id
      ((w.packages backup.id).deleteAll objects)).db.backups.get? backup.id = some backup :=
    hbackup
  exact hcleaned.putBackup hput rfl rfl fun hcell => hcell.changeRow
    (fun content hopen => by cases content <;> exact hopen) (by simp) (by simp)

end Services

theorem step (h : StorageInvariant env.checksums w) (hlife : LifecycleInvariant w.db)
    {label : Label} (hstep : Step env w label after) :
    StorageInvariant env.checksums after := by
  cases hstep with
  | tick | migrate | interruptExport | rejectCreation | rejectVerification | skipFailure
  | interruptReset =>
      exact h.frame rfl rfl rfl rfl
  | cohortWrite => exact h.frame rfl rfl rfl rfl
  | prepareReset hprepare => exact h.prepareReset hprepare
  | startCreation _ hstart => exact h.startCreation hstart
  | attachCreation hcreation hbackup hattach =>
      exact h.attachCreation hlife hcreation hbackup hattach
  | refuseAttachment hcreation => exact h.abandonCreation hlife _ hcreation
  | interruptCreation hcreation => exact h.abandonCreation hlife _ hcreation
  | verify _ hverify => exact h.verify hverify
  | @recordFailure pending _ =>
      cases pending with
      | backup backupId code _ => exact (h.markFailed backupId code).frame rfl rfl rfl rfl
      | preparation operationId =>
          exact h.frame (failResetPreparation_backups w.db operationId w.now) rfl rfl rfl
  | executeReset hreset =>
      refine h.frame ?_ rfl rfl rfl
      exact executeSemesterReset_backups hlife.integrity.data hreset
  | prepareRestore hprepare =>
      obtain ⟨_, _, _, _, ⟨_, _, _, rfl⟩ | ⟨_, _, _, _, _, _, _, _, rfl⟩⟩ :=
        prepareSemesterRestore_spec hprepare <;> exact h.frame rfl rfl rfl rfl
  | restoreGate hgate =>
      obtain ⟨context, hcontext, hcommit⟩ := semesterRestoreGate_eq_ok_iff.mp hgate
      exact h.gateCommit hcontext hcommit
  | loadRestore _ hload => exact h.loadRestore hload
  | finishRestore hattempt hfinal =>
      have hfinished := h.restoreFinal hfinal
      exact ⟨hfinished.cells, fun attempt hmem =>
        h.restoring attempt (List.mem_of_mem_eraseIdx hmem)⟩
  | interruptRestore hattempt =>
      exact ⟨h.cells, fun attempt hmem =>
        h.restoring attempt (List.mem_of_mem_eraseIdx hmem)⟩
  | expireBackup hselect hcleanup hexpired =>
      exact h.expireBackup hlife hselect hcleanup hexpired
  | interruptExpiry hselect hcleanup => exact h.interruptExpiry hlife hselect hcleanup _

end StorageInvariant

/-- The invariants of the lifecycle. -/
structure WorldInvariant (env : SemesterEnvironment) (w : World) : Prop where
  lifecycle : LifecycleInvariant w.db
  storage : StorageInvariant env.checksums w

theorem WorldInvariant.step {env : SemesterEnvironment} {w after : World} {label : Label}
    (h : WorldInvariant env w) (hstep : Step env w label after) : WorldInvariant env after where
  lifecycle := h.lifecycle.step h.storage hstep
  storage := h.storage.step h.lifecycle hstep

/-- The invariants hold in every state which a run reaches. -/
theorem Lifecycle.worldInvariant {env : SemesterEnvironment} {allowed : World → Label → Prop}
    {w : World} (hreach : Lifecycle env allowed w) : WorldInvariant env w :=
  Reaches.invariant (fun _ hinitial => ⟨.of_initial hinitial, .of_initial hinitial⟩)
    (fun _ _ _ h _ hstep => h.step hstep) hreach

/-- A property of the first states which each allowed step keeps next to the invariants. -/
theorem Lifecycle.invariant {env : SemesterEnvironment} {allowed : World → Label → Prop}
    (property : World → Prop) (hinit : ∀ w, w.Initial → property w)
    (hstep : ∀ w label after, WorldInvariant env w → property w → allowed w label →
      Step env w label after → property after)
    {w : World} (hreach : Lifecycle env allowed w) : property w := by
  induction hreach with
  | start hinitial => exact hinit _ hinitial
  | next hbefore hallowed hnext ih =>
      exact hstep _ _ _ (Lifecycle.worldInvariant hbefore) ih hallowed hnext

/-- Every order of the steps. -/
abbrev AnyStep : World → Label → Prop := fun _ _ => True

instance (w : World) (label : Label) : Decidable (AnyStep w label) :=
  inferInstanceAs (Decidable True)

/-- Labels which compute a state with a decidable property reach such a state. -/
theorem Lifecycle.exists_of_run {env : SemesterEnvironment} {allowed : World → Label → Prop}
    [∀ w label, Decidable (allowed w label)] {w : World} (labels : List Label)
    (property : World → Bool) (hreach : Lifecycle env allowed w)
    (hrun : (Reaches.run (World.after env) allowed w labels).any property = true) :
    ∃ after, Reaches.run (World.after env) allowed w labels = some after ∧
      Lifecycle env allowed after ∧ property after = true :=
  Reaches.exists_of_run Step.of_after hreach labels property hrun

namespace LifecycleWitness

open ResetExactWitness (env data semester request)

/-- One administrator, two matched students, and no reset yet. -/
def start : World where
  db := {
    data
    semesters := ⟨[semester], ResetExactWitness.semester_keys⟩
    operations := .empty
    backups := .empty
    alembicHead := "head" }
  now := 105
  packages := fun _ => .empty
  images := fun key => if key = 41 then some [0] else none
  creating := fun _ => none
  restoring := []
  failing := []

theorem start_initial : start.Initial where
  integrity := by decide +kernel
  admins := by decide
  current := ⟨semester, rfl, rfl, rfl⟩
  operations := rfl
  backups := rfl
  packages := rfl
  creating := rfl
  restoring := rfl
  failing := rfl

theorem start_reached (allowed : World → Label → Prop) : Lifecycle env allowed start :=
  .start start_initial

/-- A prepared reset with its verified backup. -/
def prepareLabels : List Label :=
  [.prepareReset 1 8 9, .startCreation .database 9 (some 8), .finishCreation 9 fun _ => false,
    .startCreation .avatars 9 (some 8), .finishCreation 9 fun _ => false,
    .verify 9 (some 8) false]

/-- A committed reset with its READY backup. -/
def resetLabels : List Label :=
  prepareLabels ++ [.executeReset request 10 11, .verify 9 none false]

def restoreRequest : ExecutionRequest := ⟨12, 9, 1, "secret", "RESTORE 9"⟩

end LifecycleWitness

end BuddyWeb
