/-
The semester lifecycle as one transition system: the database, the private
storage of backups, the images, and what unfinished calls still hold.

Each step is one transaction, or one call to storage outside a transaction.
-/
import BuddyWeb.Lib.Run
import BuddyWeb.Semester.RestoreExecution

namespace BuddyWeb

inductive BackupKind
  | database
  | avatars
  deriving DecidableEq, Repr

/-- A creation which has exported its package.  `caller` is the operation whose
preparation waits for it. -/
structure BackupCreation where
  caller : Option Nat
  content : PackageContent

/-- An error which its handler has not recorded yet. -/
inductive PendingFailure
  | backup (backupId : Nat) (failureCode : FailureCode) (caller : Option Nat)
  | preparation (operationId : Nat)
  deriving DecidableEq, Repr

/-- A restore which has loaded its package. -/
structure RestoreAttempt where
  request : ExecutionRequest
  package : RestorePackage

structure World where
  db : Database
  now : Nat
  packages : Nat → StoredPackage
  images : ImageStore
  /-- The holders of the advisory locks of backups. -/
  creating : Nat → Option BackupCreation
  restoring : List RestoreAttempt
  failing : List PendingFailure

namespace World

def busy (w : World) (backupId : Nat) : Bool := (w.creating backupId).isSome

def setPackage (w : World) (backupId : Nat) (stored : StoredPackage) : World :=
  { w with packages := Function.update w.packages backupId stored }

def setCreating (w : World) (backupId : Nat) (creation : Option BackupCreation) : World :=
  { w with creating := Function.update w.creating backupId creation }

def putBackup (w : World) (backup : SemesterBackup) : World :=
  { w with db := { w.db with backups := w.db.backups.put backup } }

def addFailures (w : World) (failures : List PendingFailure) : World :=
  { w with failing := failures ++ w.failing }

end World

/-- What a failed preparation still has to record. -/
def callerFailures (caller : Option Nat) : List PendingFailure :=
  caller.toList.map .preparation

def BackupKind.failureCode : BackupKind → FailureCode
  | .database => .databaseBackupFailed
  | .avatars => .avatarBackupFailed

def PackageContent.kind : PackageContent → BackupKind
  | .database _ _ => .database
  | .avatars _ _ => .avatars

/-- What an error of a creation leaves to its handlers: nothing when the backup is
busy or has its package already. -/
def creationFailures (kind : BackupKind) (backupId : Nat) (caller : Option Nat) :
    SemesterError → List PendingFailure
  | .databaseBackupBusy | .databaseBackupAlreadyAttached => []
  | .avatarBackupBusy | .avatarBackupAlreadyAttached => []
  | _ => [.backup backupId kind.failureCode caller]

/-- What an error of a verification leaves to its handlers. -/
def verificationFailures (backupId : Nat) (caller : Option Nat) :
    SemesterError → List PendingFailure
  | .verificationBusy => []
  | .verificationState => callerFailures caller
  | _ => [.backup backupId .backupVerificationFailed caller]

/-- The errors which remain once a handler is through. -/
def PendingFailure.next : PendingFailure → List PendingFailure
  | .backup _ _ caller => callerFailures caller
  | .preparation _ => []

/-- The transaction of a handler. -/
def PendingFailure.record (db : Database) (now : Nat) : PendingFailure → Database
  | .backup backupId failureCode _ => markSemesterBackupFailed db backupId failureCode
  | .preparation operationId => failResetPreparation db operationId now

def startCreation (env : SemesterEnvironment) (w : World) (kind : BackupKind) (backupId : Nat) :
    Except SemesterError PackageContent :=
  match kind with
  | .database => exportDatabaseBackup env w.db w.now (w.busy backupId) backupId
  | .avatars => exportAvatarBackup env w.db w.now (w.busy backupId) w.images
      (w.packages backupId) backupId

/-- The operation whose preparation makes a call for a backup. -/
def PreparesBackup (db : Database) (backupId : Nat) (caller : Option Nat) : Prop :=
  ∀ operationId ∈ caller, ∃ operation ∈ db.operations.rows, operation.id = operationId ∧
    operation.operationType = .reset ∧ operation.backupId = some backupId

instance (db : Database) (backupId : Nat) (caller : Option Nat) :
    Decidable (PreparesBackup db backupId caller) :=
  match caller with
  | none => isTrue (by simp [PreparesBackup])
  | some operationId =>
      decidable_of_iff
        (∃ operation ∈ db.operations.rows, operation.id = operationId ∧
          operation.operationType = .reset ∧ operation.backupId = some backupId)
        (by simp [PreparesBackup])

/-- A creation ends with an error: some of its uploads may outlive the cleanup. -/
def World.abandonCreation (w : World) (backupId : Nat) (creation : BackupCreation)
    (kept : BackupObject → Bool) : World :=
  ((w.setPackage backupId
    ((w.packages backupId).upload backupId kept creation.content)).setCreating backupId
      none).addFailures [.backup backupId creation.content.kind.failureCode creation.caller]

/-- The students whom a write adds. -/
def registeredStudents (before after : Dataset) : List UserRow :=
  after.users.filter fun user =>
    user.role == .user && !before.users.any fun old => old.id == user.id

/-- `stamp_user_semester` counts the new students of the current semester. -/
def countRegistrations (semester : Semester) (count now : Nat) : Semester :=
  if count = 0 then semester
  else { semester with
    studentAccountsCreated := semester.studentAccountsCreated + count
    firstStudentCreatedAt := semester.firstStudentCreatedAt.or (some now) }

/-- A transaction of the services which own student data: it keeps the constraints and
the administrators, and new students belong to the current semester. -/
structure CohortWrite (db : Database) (current : Semester) (data : Dataset) : Prop where
  semester : db.currentSemester? = some current
  integrity : { db with data }.Integrity
  admins : (data.users.filter fun user => user.role == .admin) =
    db.data.users.filter fun user => user.role == .admin
  registered : ∀ user ∈ registeredStudents db.data data, user.semesterId = some current.id

instance (db : Database) (current : Semester) (data : Dataset) :
    Decidable (CohortWrite db current data) :=
  decidable_of_iff
    (db.currentSemester? = some current ∧ { db with data }.Integrity ∧
      (data.users.filter fun user => user.role == .admin) =
        (db.data.users.filter fun user => user.role == .admin) ∧
      ∀ user ∈ registeredStudents db.data data, user.semesterId = some current.id)
    ⟨fun ⟨semester, integrity, admins, registered⟩ =>
        ⟨semester, integrity, admins, registered⟩,
      fun h => ⟨h.semester, h.integrity, h.admins, h.registered⟩⟩

/-- The avatars which a reset deletes with its cohort. -/
def StoredPackage.avatarKeys (stored : StoredPackage) : List Nat :=
  stored.avatarManifest.elim [] fun manifest => manifest.objects.map (·.reference.objectKey)

/-- The avatars of a failed restore which its compensation did not delete. -/
def leaveAvatars (images : ImageStore) (package : RestorePackage) (kept : Nat → Bool) :
    ImageStore :=
  (package.avatars.objects.zip package.contents).foldl (fun images (item, content) =>
    if kept item.reference.objectKey && (images item.reference.objectKey).isNone then
      Function.update images item.reference.objectKey (some content)
    else images) images

inductive Label
  | tick (elapsed : Nat)
  | cohortWrite (data : Dataset) (images : ImageStore)
  | migrate (alembicHead : String)
  | prepareReset (actorId newOperationId newBackupId : Nat)
  | startCreation (kind : BackupKind) (backupId : Nat) (caller : Option Nat)
  | interruptExport (kind : BackupKind) (backupId : Nat) (caller : Option Nat)
  | finishCreation (backupId : Nat) (kept : BackupObject → Bool)
  | interruptCreation (backupId : Nat) (kept : BackupObject → Bool)
  | verify (backupId : Nat) (caller : Option Nat) (fault : Bool)
  | recordFailure (pending : PendingFailure)
  | skipFailure (pending : PendingFailure)
  | executeReset (request : ExecutionRequest) (newSemesterId auditId : Nat)
  | interruptReset (backupId : Nat) (deleted : List Nat)
  | prepareRestore (actorId newOperationId : Nat)
  | restoreGate (request : ExecutionRequest) (auditId : Nat)
  | loadRestore (request : ExecutionRequest)
  | finishRestore (index auditId : Nat)
  | interruptRestore (index : Nat) (kept : Nat → Bool)
  | expireBackup (skipped : List Nat)
  | interruptExpiry (skipped : List Nat) (deletions : Nat)

section Step

variable (env : SemesterEnvironment)

/-- One step.  A transaction which fails without a trace is not a step. -/
inductive Step : World → Label → World → Prop
  | tick {w : World} {elapsed : Nat} :
      Step w (.tick elapsed) { w with now := w.now + elapsed }
  | cohortWrite {w : World} {data : Dataset} {images : ImageStore} {current : Semester}
      (hwrite : CohortWrite w.db current data) :
      Step w (.cohortWrite data images) { w with
        images
        db := { w.db with
          data
          semesters := w.db.semesters.put (countRegistrations current
            (registeredStudents w.db.data data).length w.now) } }
  | migrate {w : World} {alembicHead : String} :
      Step w (.migrate alembicHead) { w with db := { w.db with alembicHead } }
  | prepareReset {w : World} {actorId newOperationId newBackupId : Nat} {db : Database}
      {prepared : Nat × Nat}
      (hprepare : prepareResetMetadata w.db w.now actorId newOperationId newBackupId =
        .ok (db, prepared)) :
      Step w (.prepareReset actorId newOperationId newBackupId) { w with db }
  | startCreation {w : World} {kind : BackupKind} {backupId : Nat} {caller : Option Nat}
      {content : PackageContent} (hcaller : PreparesBackup w.db backupId caller)
      (hstart : startCreation env w kind backupId = .ok content) :
      Step w (.startCreation kind backupId caller)
        (w.setCreating backupId (some ⟨caller, content⟩))
  | rejectCreation {w : World} {kind : BackupKind} {backupId : Nat} {caller : Option Nat}
      {error : SemesterError} (hcaller : PreparesBackup w.db backupId caller)
      (hstart : startCreation env w kind backupId = .error error) :
      Step w (.startCreation kind backupId caller)
        (w.addFailures (creationFailures kind backupId caller error))
  | interruptExport {w : World} {kind : BackupKind} {backupId : Nat} {caller : Option Nat}
      (hcaller : PreparesBackup w.db backupId caller) :
      Step w (.interruptExport kind backupId caller)
        (w.addFailures [.backup backupId kind.failureCode caller])
  | attachCreation {w : World} {backupId : Nat} {kept : BackupObject → Bool}
      {creation : BackupCreation} {backup attached : SemesterBackup} {stored : StoredPackage}
      (hcreation : w.creating backupId = some creation)
      (hbackup : w.db.backups.get? backupId = some backup)
      (hattach : attachBackupPackage env.checksums backup (w.packages backupId)
        creation.content = .ok (attached, stored)) :
      Step w (.finishCreation backupId kept)
        (((w.putBackup attached).setPackage backupId stored).setCreating backupId none)
  | refuseAttachment {w : World} {backupId : Nat} {kept : BackupObject → Bool}
      {creation : BackupCreation} {backup : SemesterBackup} {error : SemesterError}
      (hcreation : w.creating backupId = some creation)
      (hbackup : w.db.backups.get? backupId = some backup)
      (hattach : attachBackupPackage env.checksums backup (w.packages backupId)
        creation.content = .error error) :
      Step w (.finishCreation backupId kept) (w.abandonCreation backupId creation kept)
  | interruptCreation {w : World} {backupId : Nat} {kept : BackupObject → Bool}
      {creation : BackupCreation} (hcreation : w.creating backupId = some creation) :
      Step w (.interruptCreation backupId kept) (w.abandonCreation backupId creation kept)
  | verify {w : World} {backupId : Nat} {caller : Option Nat} {fault : Bool} {db : Database}
      {report : SemesterBackupVerificationReport}
      (hcaller : PreparesBackup w.db backupId caller)
      (hverify : verifySemesterBackup env w.db w.now (w.busy backupId) (w.packages backupId)
        backupId fault = .ok (db, report)) :
      Step w (.verify backupId caller fault) { w with db }
  | rejectVerification {w : World} {backupId : Nat} {caller : Option Nat} {fault : Bool}
      {error : SemesterError} (hcaller : PreparesBackup w.db backupId caller)
      (hverify : verifySemesterBackup env w.db w.now (w.busy backupId) (w.packages backupId)
        backupId fault = .error error) :
      Step w (.verify backupId caller fault)
        (w.addFailures (verificationFailures backupId caller error))
  | recordFailure {w : World} {pending : PendingFailure} (hpending : pending ∈ w.failing) :
      Step w (.recordFailure pending) { w with
        db := pending.record w.db w.now
        failing := pending.next ++ w.failing.erase pending }
  | skipFailure {w : World} {pending : PendingFailure} (hpending : pending ∈ w.failing) :
      Step w (.skipFailure pending) { w with
        failing := pending.next ++ w.failing.erase pending }
  | executeReset {w : World} {request : ExecutionRequest} {newSemesterId auditId : Nat}
      {committed : ResetCommit}
      (hreset : executeSemesterReset env w.db (w.packages request.backupId) request
        ⟨w.now, newSemesterId, auditId⟩ none = .ok committed) :
      Step w (.executeReset request newSemesterId auditId) { w with
        db := committed.database
        images := if committed.replay = true then w.images
          else deleteManagedAvatars w.images (w.packages request.backupId).avatarKeys }
  | interruptReset {w : World} {backupId : Nat} {deleted : List Nat}
      (hdeleted : ∀ key ∈ deleted, key ∈ (w.packages backupId).avatarKeys) :
      Step w (.interruptReset backupId deleted)
        { w with images := deleteManagedAvatars w.images deleted }
  | prepareRestore {w : World} {actorId newOperationId : Nat} {db : Database}
      {prepared : Nat × Nat}
      (hprepare : prepareSemesterRestore w.db w.now actorId newOperationId = .ok (db, prepared)) :
      Step w (.prepareRestore actorId newOperationId) { w with db }
  | restoreGate {w : World} {request : ExecutionRequest} {auditId : Nat} {db : Database}
      {gate : RestoreGate}
      (hgate : semesterRestoreGate env w.db w.now request auditId = .ok (db, gate)) :
      Step w (.restoreGate request auditId) { w with db }
  | loadRestore {w : World} {request : ExecutionRequest} {backup : SemesterBackup}
      {package : RestorePackage}
      (hbackup : w.db.backups.get? request.backupId = some backup)
      (hload : loadRestorePackage env.checksums backup (w.packages request.backupId) =
        .ok package) :
      Step w (.loadRestore request) { w with restoring := ⟨request, package⟩ :: w.restoring }
  | finishRestore {w : World} {index auditId : Nat} {attempt : RestoreAttempt} {db : Database}
      {images : ImageStore} {gate : RestoreGate}
      (hattempt : w.restoring[index]? = some attempt)
      (hfinal : semesterRestoreFinal env w.db w.now w.images attempt.package attempt.request
        auditId = .ok (db, images, gate)) :
      Step w (.finishRestore index auditId)
        { w with db, images, restoring := w.restoring.eraseIdx index }
  | interruptRestore {w : World} {index : Nat} {kept : Nat → Bool} {attempt : RestoreAttempt}
      (hattempt : w.restoring[index]? = some attempt) :
      Step w (.interruptRestore index kept) { w with
        images := leaveAvatars w.images attempt.package kept
        restoring := w.restoring.eraseIdx index }
  | expireBackup {w : World} {skipped : List Nat} {backup expired : SemesterBackup}
      {objects : List BackupObject}
      (hselect : selectExpiredBackup w.db w.now skipped = some backup)
      (hcleanup : cleanupExpiredBackupArtifacts env.checksums backup (w.packages backup.id) =
        .ok objects)
      (hexpired : backup.transitionTo .expired = .ok expired) :
      Step w (.expireBackup skipped) ((w.putBackup expired).setPackage backup.id
        ((w.packages backup.id).deleteAll objects))
  | interruptExpiry {w : World} {skipped : List Nat} {deletions : Nat} {backup : SemesterBackup}
      {objects : List BackupObject}
      (hselect : selectExpiredBackup w.db w.now skipped = some backup)
      (hcleanup : cleanupExpiredBackupArtifacts env.checksums backup (w.packages backup.id) =
        .ok objects) :
      Step w (.interruptExpiry skipped deletions) (w.setPackage backup.id
        ((w.packages backup.id).deleteAll (objects.take deletions)))

end Step

/-- The same step as a function of its label. -/
def World.after (env : SemesterEnvironment) (w : World) : Label → Option World
  | .tick elapsed => some { w with now := w.now + elapsed }
  | .cohortWrite data images => do
      let current ← w.db.currentSemester?
      if CohortWrite w.db current data then
        some { w with
          images
          db := { w.db with
            data
            semesters := w.db.semesters.put (countRegistrations current
              (registeredStudents w.db.data data).length w.now) } }
      else none
  | .migrate alembicHead => some { w with db := { w.db with alembicHead } }
  | .prepareReset actorId newOperationId newBackupId =>
      match prepareResetMetadata w.db w.now actorId newOperationId newBackupId with
      | .ok (db, _) => some { w with db }
      | .error _ => none
  | .startCreation kind backupId caller =>
      if PreparesBackup w.db backupId caller then
        match startCreation env w kind backupId with
        | .ok content => some (w.setCreating backupId (some ⟨caller, content⟩))
        | .error error => some (w.addFailures (creationFailures kind backupId caller error))
      else none
  | .interruptExport kind backupId caller =>
      if PreparesBackup w.db backupId caller then
        some (w.addFailures [.backup backupId kind.failureCode caller])
      else none
  | .finishCreation backupId kept => do
      let creation ← w.creating backupId
      let backup ← w.db.backups.get? backupId
      match attachBackupPackage env.checksums backup (w.packages backupId) creation.content with
      | .ok (attached, stored) =>
          some (((w.putBackup attached).setPackage backupId stored).setCreating backupId none)
      | .error _ => some (w.abandonCreation backupId creation kept)
  | .interruptCreation backupId kept => do
      let creation ← w.creating backupId
      some (w.abandonCreation backupId creation kept)
  | .verify backupId caller fault =>
      if PreparesBackup w.db backupId caller then
        match verifySemesterBackup env w.db w.now (w.busy backupId) (w.packages backupId)
            backupId fault with
        | .ok (db, _) => some { w with db }
        | .error error => some (w.addFailures (verificationFailures backupId caller error))
      else none
  | .recordFailure pending =>
      if pending ∈ w.failing then
        some { w with
          db := pending.record w.db w.now
          failing := pending.next ++ w.failing.erase pending }
      else none
  | .skipFailure pending =>
      if pending ∈ w.failing then
        some { w with failing := pending.next ++ w.failing.erase pending }
      else none
  | .executeReset request newSemesterId auditId =>
      match executeSemesterReset env w.db (w.packages request.backupId) request
          ⟨w.now, newSemesterId, auditId⟩ none with
      | .ok committed =>
          some { w with
            db := committed.database
            images := if committed.replay = true then w.images
              else deleteManagedAvatars w.images (w.packages request.backupId).avatarKeys }
      | .error _ => none
  | .interruptReset backupId deleted =>
      if ∀ key ∈ deleted, key ∈ (w.packages backupId).avatarKeys then
        some { w with images := deleteManagedAvatars w.images deleted }
      else none
  | .prepareRestore actorId newOperationId =>
      match prepareSemesterRestore w.db w.now actorId newOperationId with
      | .ok (db, _) => some { w with db }
      | .error _ => none
  | .restoreGate request auditId =>
      match semesterRestoreGate env w.db w.now request auditId with
      | .ok (db, _) => some { w with db }
      | .error _ => none
  | .loadRestore request => do
      let backup ← w.db.backups.get? request.backupId
      match loadRestorePackage env.checksums backup (w.packages request.backupId) with
      | .ok package => some { w with restoring := ⟨request, package⟩ :: w.restoring }
      | .error _ => none
  | .finishRestore index auditId => do
      let attempt ← w.restoring[index]?
      match semesterRestoreFinal env w.db w.now w.images attempt.package attempt.request
          auditId with
      | .ok (db, images, _) =>
          some { w with db, images, restoring := w.restoring.eraseIdx index }
      | .error _ => none
  | .interruptRestore index kept => do
      let attempt ← w.restoring[index]?
      some { w with
        images := leaveAvatars w.images attempt.package kept
        restoring := w.restoring.eraseIdx index }
  | .expireBackup skipped => do
      let backup ← selectExpiredBackup w.db w.now skipped
      match cleanupExpiredBackupArtifacts env.checksums backup (w.packages backup.id),
          backup.transitionTo .expired with
      | .ok objects, .ok expired =>
          some ((w.putBackup expired).setPackage backup.id
            ((w.packages backup.id).deleteAll objects))
      | _, _ => none
  | .interruptExpiry skipped deletions => do
      let backup ← selectExpiredBackup w.db w.now skipped
      match cleanupExpiredBackupArtifacts env.checksums backup (w.packages backup.id) with
      | .ok objects =>
          some (w.setPackage backup.id
            ((w.packages backup.id).deleteAll (objects.take deletions)))
      | .error _ => none

/-- The function computes a step of the relation. -/
theorem Step.of_after {env : SemesterEnvironment} {w after : World} {label : Label}
    (h : w.after env label = some after) : Step env w label after := by
  cases label <;> simp only [World.after, Option.bind_eq_bind, Option.bind_eq_some_iff] at h
  case tick => exact Option.some.inj h ▸ .tick
  case migrate => exact Option.some.inj h ▸ .migrate
  case cohortWrite =>
    obtain ⟨current, _, h⟩ := h
    split at h
    · exact Option.some.inj h ▸ .cohortWrite ‹_›
    · simp at h
  case prepareReset =>
    split at h
    · exact Option.some.inj h ▸ .prepareReset ‹_›
    · simp at h
  case startCreation =>
    split at h
    · split at h
      · exact Option.some.inj h ▸ .startCreation ‹_› ‹_›
      · exact Option.some.inj h ▸ .rejectCreation ‹_› ‹_›
    · simp at h
  case interruptExport =>
    split at h
    · exact Option.some.inj h ▸ .interruptExport ‹_›
    · simp at h
  case finishCreation =>
    obtain ⟨creation, hcreation, backup, hbackup, h⟩ := h
    split at h
    · exact Option.some.inj h ▸ .attachCreation hcreation hbackup ‹_›
    · exact Option.some.inj h ▸ .refuseAttachment hcreation hbackup ‹_›
  case interruptCreation =>
    obtain ⟨creation, hcreation, h⟩ := h
    exact Option.some.inj h ▸ .interruptCreation hcreation
  case verify =>
    split at h
    · split at h
      · exact Option.some.inj h ▸ .verify ‹_› ‹_›
      · exact Option.some.inj h ▸ .rejectVerification ‹_› ‹_›
    · simp at h
  case recordFailure =>
    split at h
    · exact Option.some.inj h ▸ .recordFailure ‹_›
    · simp at h
  case skipFailure =>
    split at h
    · exact Option.some.inj h ▸ .skipFailure ‹_›
    · simp at h
  case executeReset =>
    split at h
    · exact Option.some.inj h ▸ .executeReset ‹_›
    · simp at h
  case interruptReset =>
    split at h
    · exact Option.some.inj h ▸ .interruptReset ‹_›
    · simp at h
  case prepareRestore =>
    split at h
    · exact Option.some.inj h ▸ .prepareRestore ‹_›
    · simp at h
  case restoreGate =>
    split at h
    · exact Option.some.inj h ▸ .restoreGate ‹_›
    · simp at h
  case loadRestore =>
    obtain ⟨backup, hbackup, h⟩ := h
    split at h
    · exact Option.some.inj h ▸ .loadRestore hbackup ‹_›
    · simp at h
  case finishRestore =>
    obtain ⟨attempt, hattempt, h⟩ := h
    split at h
    · exact Option.some.inj h ▸ .finishRestore hattempt ‹_›
    · simp at h
  case interruptRestore =>
    obtain ⟨attempt, hattempt, h⟩ := h
    exact Option.some.inj h ▸ .interruptRestore hattempt
  case expireBackup =>
    obtain ⟨backup, hselect, h⟩ := h
    split at h
    · exact Option.some.inj h ▸ .expireBackup hselect ‹_› ‹_›
    · simp at h
  case interruptExpiry =>
    obtain ⟨backup, hselect, h⟩ := h
    split at h
    · exact Option.some.inj h ▸ .interruptExpiry hselect ‹_›
    · simp at h

/-- A deployment before its first reset. -/
structure World.Initial (w : World) : Prop where
  integrity : w.db.Integrity
  admins : ∀ user ∈ w.db.data.users, user.role = .admin →
    user.isActive = true ∧ user.deletedAt = none
  current : ∃ semester, w.db.semesters.rows = [semester] ∧ semester.status = .current ∧
    semester.resetOperationId = none
  operations : w.db.operations.rows = []
  backups : w.db.backups.rows = []
  packages : w.packages = fun _ => StoredPackage.empty
  creating : w.creating = fun _ => none
  restoring : w.restoring = []
  failing : w.failing = []

/-- The states of the runs whose steps are all allowed. -/
abbrev Lifecycle (env : SemesterEnvironment) (allowed : World → Label → Prop) : World → Prop :=
  Reaches World.Initial (Step env) allowed

end BuddyWeb
