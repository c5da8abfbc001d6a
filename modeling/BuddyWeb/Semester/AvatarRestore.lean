/-
`restore_avatar_backup_idempotently` over a storage whose calls may fail: the upload of each
avatar, the comparison with an object which is there already, and the compensation.
-/
import BuddyWeb.Lib.TableHistory
import BuddyWeb.Semester.RestoreExecution

namespace BuddyWeb

def maxImageBytes : Nat := 5 * 1024 * 1024

/-- A call of the image storage; an upload which did not raise has created its object. -/
inductive ImageCall
  | upload (objectKey : Nat) (created : Bool)
  | download (objectKey : Nat)
  | delete (objectKey : Nat)
  deriving DecidableEq, Repr

def createdKeys (calls : List ImageCall) : List Nat :=
  calls.filterMap fun
    | .upload objectKey true => some objectKey
    | _ => none

def deletedKeys (calls : List ImageCall) : List Nat :=
  calls.filterMap fun
    | .delete objectKey => some objectKey
    | _ => none

/-- The calls which raise for a reason of their own, and have no effect then.  An upload
carries the status of its answer, if it got one. -/
structure RestoreFaults where
  reads : Nat → Bool
  uploads : Nat → Option (Option Nat)
  downloads : Nat → Bool
  deletions : Nat → Bool
  /-- The status with which an upload over an object is refused. -/
  conflictStatus : Nat → Nat
  conflictStatus_mem : ∀ objectKey, conflictStatus objectKey = 400 ∨ conflictStatus objectKey = 409

/-- The image storage and the calls which it has answered, the oldest first. -/
structure ImageSession where
  images : ImageStore
  calls : List ImageCall

namespace ImageSession

variable (faults : RestoreFaults) (session : ImageSession) (objectKey : Nat)

def record (call : ImageCall) : ImageSession :=
  { session with calls := session.calls ++ [call] }

/-- An upload never replaces an object. -/
def upload (content : ImageContent) : Except (Option Nat) Unit × ImageSession :=
  match faults.uploads objectKey, session.images objectKey with
  | some status, _ => (.error status, session.record (.upload objectKey false))
  | none, some _ =>
      (.error (some (faults.conflictStatus objectKey)), session.record (.upload objectKey false))
  | none, none =>
      (.ok (), { session.record (.upload objectKey true) with
        images := Function.update session.images objectKey (some content) })

/-- The bytes of an object of an acceptable size, unless the call raises. -/
def download : Option ImageContent × ImageSession :=
  (if faults.downloads objectKey then none
    else (session.images objectKey).filter fun content =>
      1 ≤ content.length && content.length ≤ maxImageBytes,
    session.record (.download objectKey))

def delete : ImageSession :=
  { session.record (.delete objectKey) with
    images := if faults.deletions objectKey then session.images
      else Function.update session.images objectKey none }

end ImageSession

/-- `_compensate_avatars`, which is also what a failing restore of the avatars does: every
deletion is tried, the newest object first. -/
def compensateAvatars (faults : RestoreFaults) (references : List Nat)
    (session : ImageSession) : ImageSession :=
  references.reverse.foldl (fun session objectKey => session.delete faults objectKey) session

/-- What the loop over the objects has done. -/
structure RestoreProgress where
  session : ImageSession
  newlyRestored : List Nat
  alreadyPresent : Nat

structure AvatarRestoreResult where
  manifest : AvatarManifest
  newlyRestored : List Nat
  alreadyPresent : Nat
  deriving DecidableEq, Repr

section Restore

variable (checksums : Checksums)
  /- The image decodes to the type and the dimensions of its metadata. -/
  (decodes : AvatarReference → ImageContent → Bool)
  (faults : RestoreFaults)

def validateStoredImageContent (reference : AvatarReference) (content : ImageContent) : Bool :=
  reference.byteSize = content.length && decodes reference content

/-- The local file of an object, by photo and MIME type. -/
def AvatarObjectManifest.file? (item : AvatarObjectManifest)
    (objectPaths : List ((Nat × ImageMimeType) × ImageContent)) : Option ImageContent :=
  (objectPaths.find? fun entry =>
    entry.1 == (item.reference.photoId, item.reference.mimeType)).map (·.2)

def validateAvatarFile (objectPaths : List ((Nat × ImageMimeType) × ImageContent))
    (item : AvatarObjectManifest) :
    Except SemesterError (AvatarObjectManifest × ImageContent) := do
  let content ← require (item.file? objectPaths) .avatarBackupValidation
  ensure (content ≠ [] ∧ content.length ≤ maxImageBytes) .avatarBackupValidation
  ensure (checksums.image content = item.sha256 ∧ content.length = item.reference.byteSize)
    .avatarBackupValidation
  ensure (validateStoredImageContent decodes item.reference content = true)
    .avatarBackupValidation
  return (item, content)

/-- `validate_avatar_backup_package`, with the objects beside their contents. -/
def validateAvatarBackupPackage (manifest : AvatarManifest)
    (objectPaths : List ((Nat × ImageMimeType) × ImageContent)) (expectedChecksum : String) :
    Except SemesterError (List (AvatarObjectManifest × ImageContent)) := do
  let manifest ← validateAvatarBackupManifest checksums manifest manifest.backupId
    expectedChecksum
  let expectedKeys := manifest.objects.map fun item =>
    (item.reference.photoId, item.reference.mimeType)
  ensure (objectPaths.map (·.1) ⊆ expectedKeys ∧ expectedKeys ⊆ objectPaths.map (·.1))
    .avatarBackupValidation
  manifest.objects.mapM (validateAvatarFile checksums decodes objectPaths)

/-- One round of the loop. -/
def restoreAvatarObject (progress : RestoreProgress) (item : AvatarObjectManifest)
    (content : ImageContent) : Except SemesterError Unit × RestoreProgress :=
  let objectKey := item.reference.objectKey
  if faults.reads objectKey = true ∨
      validateStoredImageContent decodes item.reference content = false then
    (.error .avatarBackup, progress)
  else
    match progress.session.upload faults objectKey content with
    | (.ok (), session) =>
        (.ok (), { progress with
          session := session
          newlyRestored := progress.newlyRestored ++ [objectKey] })
    | (.error status, session) =>
        if status ≠ some 400 ∧ status ≠ some 409 then
          (.error .avatarBackup, { progress with session := session })
        else
          match session.download faults objectKey with
          | (none, session) => (.error .avatarBackup, { progress with session := session })
          | (some existing, session) =>
              if checksums.image existing ≠ checksums.image content then
                (.error .avatarBackup, { progress with session := session })
              else
                (.ok (), { progress with
                  session := session
                  alreadyPresent := progress.alreadyPresent + 1 })

def restoreAvatarObjects (progress : RestoreProgress) :
    List (AvatarObjectManifest × ImageContent) → Except SemesterError Unit × RestoreProgress
  | [] => (.ok (), progress)
  | (item, content) :: rest =>
      match restoreAvatarObject checksums decodes faults progress item content with
      | (.error error, progress) => (.error error, progress)
      | (.ok (), progress) => restoreAvatarObjects progress rest

/-- `restore_avatar_backup_idempotently`, with the storage which it leaves. -/
def restoreAvatarBackup (images : ImageStore) (manifest : AvatarManifest)
    (objectPaths : List ((Nat × ImageMimeType) × ImageContent)) (expectedChecksum : String) :
    Except SemesterError AvatarRestoreResult × ImageSession :=
  match validateAvatarBackupPackage checksums decodes manifest objectPaths expectedChecksum with
  | .error error => (.error error, ⟨images, []⟩)
  | .ok objects =>
      match restoreAvatarObjects checksums decodes faults ⟨⟨images, []⟩, [], 0⟩ objects with
      | (.ok (), progress) =>
          (.ok ⟨manifest, progress.newlyRestored, progress.alreadyPresent⟩, progress.session)
      | (.error error, progress) =>
          (.error error, compensateAvatars faults progress.newlyRestored progress.session)

end Restore

section Calls

variable {calls : List ImageCall} {objectKey : Nat}

@[simp]
theorem createdKeys_created :
    createdKeys (calls ++ [.upload objectKey true]) = createdKeys calls ++ [objectKey] := by
  simp [createdKeys]

@[simp]
theorem createdKeys_refused :
    createdKeys (calls ++ [.upload objectKey false]) = createdKeys calls := by
  simp [createdKeys]

@[simp]
theorem createdKeys_download :
    createdKeys (calls ++ [.download objectKey]) = createdKeys calls := by
  simp [createdKeys]

@[simp]
theorem createdKeys_delete :
    createdKeys (calls ++ [.delete objectKey]) = createdKeys calls := by
  simp [createdKeys]

@[simp]
theorem deletedKeys_upload {created : Bool} :
    deletedKeys (calls ++ [.upload objectKey created]) = deletedKeys calls := by
  simp [deletedKeys]

@[simp]
theorem deletedKeys_download :
    deletedKeys (calls ++ [.download objectKey]) = deletedKeys calls := by
  simp [deletedKeys]

@[simp]
theorem deletedKeys_delete :
    deletedKeys (calls ++ [.delete objectKey]) = deletedKeys calls ++ [objectKey] := by
  simp [deletedKeys]

end Calls

namespace ImageSession

variable (faults : RestoreFaults) (session : ImageSession) (objectKey : Nat)
  (content : ImageContent)

theorem upload_cases :
    (∃ status, session.upload faults objectKey content =
        (.error status, session.record (.upload objectKey false))) ∨
      (session.images objectKey = none ∧ session.upload faults objectKey content =
        (.ok (), { session.record (.upload objectKey true) with
          images := Function.update session.images objectKey (some content) })) := by
  unfold upload
  cases hfault : faults.uploads objectKey with
  | some status => exact Or.inl ⟨status, rfl⟩
  | none =>
      cases hexisting : session.images objectKey with
      | some existing => exact Or.inl ⟨_, rfl⟩
      | none => exact Or.inr ⟨rfl, rfl⟩

/-- What a download returns is there. -/
theorem download_cases :
    session.download faults objectKey = (none, session.record (.download objectKey)) ∨
      ∃ existing, session.images objectKey = some existing ∧
        session.download faults objectKey =
          (some existing, session.record (.download objectKey)) := by
  unfold download
  split
  · exact Or.inl rfl
  · cases hfound : (session.images objectKey).filter fun content =>
      1 ≤ content.length && content.length ≤ maxImageBytes with
    | none => exact Or.inl rfl
    | some existing => exact Or.inr ⟨existing, (Option.filter_eq_some_iff.mp hfound).1, rfl⟩

end ImageSession

section Steps

variable {checksums : Checksums} {decodes : AvatarReference → ImageContent → Bool}
  {faults : RestoreFaults} {before : RestoreProgress} {item : AvatarObjectManifest}
  {content : ImageContent}

/-- A round which creates nothing: the storage and the list of created objects stay, and no
object is deleted. -/
structure RestoreProgress.CreatesNothing (before after : RestoreProgress) : Prop where
  images : after.session.images = before.session.images
  newlyRestored : after.newlyRestored = before.newlyRestored
  created : createdKeys after.session.calls = createdKeys before.session.calls
  deleted : deletedKeys after.session.calls = deletedKeys before.session.calls

/-- A round which creates its object. -/
structure RestoreProgress.Creates (before after : RestoreProgress) (objectKey : Nat)
    (content : ImageContent) : Prop where
  absent : before.session.images objectKey = none
  images : after.session.images =
    Function.update before.session.images objectKey (some content)
  newlyRestored : after.newlyRestored = before.newlyRestored ++ [objectKey]
  alreadyPresent : after.alreadyPresent = before.alreadyPresent
  created : createdKeys after.session.calls = createdKeys before.session.calls ++ [objectKey]
  deleted : deletedKeys after.session.calls = deletedKeys before.session.calls

/-- A round which accepts the object that it finds: its bytes have the same checksum. -/
structure RestoreProgress.Accepts (checksums : Checksums) (before after : RestoreProgress)
    (objectKey : Nat) (content : ImageContent) : Prop extends before.CreatesNothing after where
  alreadyPresent : after.alreadyPresent = before.alreadyPresent + 1
  existing : ∃ existing, before.session.images objectKey = some existing ∧
    checksums.image existing = checksums.image content

/-- What one round can do. -/
theorem restoreAvatarObject_cases (checksums : Checksums)
    (decodes : AvatarReference → ImageContent → Bool) (faults : RestoreFaults)
    (before : RestoreProgress) (item : AvatarObjectManifest) (content : ImageContent) :
    ∃ outcome after,
      restoreAvatarObject checksums decodes faults before item content = (outcome, after) ∧
        ((∃ error, outcome = .error error ∧ before.CreatesNothing after) ∨
          outcome = .ok () ∧ before.Creates after item.reference.objectKey content ∨
          outcome = .ok () ∧ before.Accepts checksums after item.reference.objectKey
            content) := by
  refine ⟨(restoreAvatarObject checksums decodes faults before item content).1,
    (restoreAvatarObject checksums decodes faults before item content).2, rfl, ?_⟩
  unfold restoreAvatarObject
  dsimp only
  split
  · exact Or.inl ⟨_, rfl, ⟨rfl, rfl, rfl, rfl⟩⟩
  · obtain ⟨status, hupload⟩ | ⟨habsent, hupload⟩ :=
      before.session.upload_cases faults item.reference.objectKey content
    · rw [hupload]
      dsimp only
      split
      · exact Or.inl ⟨_, rfl, ⟨rfl, rfl, createdKeys_refused, deletedKeys_upload⟩⟩
      · obtain hdownload | ⟨existing, hexisting, hdownload⟩ :=
          (before.session.record (.upload item.reference.objectKey false)).download_cases faults
            item.reference.objectKey
        · rw [hdownload]
          exact Or.inl ⟨_, rfl, ⟨rfl, rfl, createdKeys_download.trans createdKeys_refused,
            deletedKeys_download.trans deletedKeys_upload⟩⟩
        · rw [hdownload]
          dsimp only
          split
          · exact Or.inl ⟨_, rfl, ⟨rfl, rfl, createdKeys_download.trans createdKeys_refused,
              deletedKeys_download.trans deletedKeys_upload⟩⟩
          · rename_i hsame
            exact Or.inr (Or.inr ⟨rfl, ⟨rfl, rfl, createdKeys_download.trans createdKeys_refused,
              deletedKeys_download.trans deletedKeys_upload⟩, rfl, existing, hexisting,
              not_ne_iff.mp hsame⟩)
    · rw [hupload]
      exact Or.inr (Or.inl ⟨rfl, habsent, rfl, rfl, rfl, createdKeys_created,
        deletedKeys_upload⟩)

/-- What the loop has done so far, against the storage it began with. -/
structure RestoreProgress.Sound (images : ImageStore) (progress : RestoreProgress) : Prop where
  created : createdKeys progress.session.calls = progress.newlyRestored
  deleted : deletedKeys progress.session.calls = []
  fresh : ∀ objectKey ∈ progress.newlyRestored, images objectKey = none
  there : ∀ objectKey ∈ progress.newlyRestored, progress.session.images objectKey ≠ none
  kept : ∀ objectKey, objectKey ∉ progress.newlyRestored →
    progress.session.images objectKey = images objectKey

namespace RestoreProgress

variable {images : ImageStore} {after : RestoreProgress} {objectKey : Nat}

theorem CreatesNothing.sound (h : before.CreatesNothing after) (hsound : before.Sound images) :
    after.Sound images where
  created := by rw [h.created, h.newlyRestored, hsound.created]
  deleted := by rw [h.deleted, hsound.deleted]
  fresh := by
    rw [h.newlyRestored]
    exact hsound.fresh
  there := by
    rw [h.newlyRestored, h.images]
    exact hsound.there
  kept := by
    rw [h.newlyRestored, h.images]
    exact hsound.kept

theorem Creates.sound (h : before.Creates after objectKey content)
    (hsound : before.Sound images) : after.Sound images where
  created := by rw [h.created, h.newlyRestored, hsound.created]
  deleted := by rw [h.deleted, hsound.deleted]
  fresh := by
    rw [h.newlyRestored]
    intro other hother
    rcases List.mem_append.mp hother with hmem | hmem
    · exact hsound.fresh other hmem
    · obtain rfl := List.mem_singleton.mp hmem
      have hnew : other ∉ before.newlyRestored := fun hold => hsound.there other hold h.absent
      exact (hsound.kept other hnew).symm.trans h.absent
  there := by
    rw [h.newlyRestored, h.images]
    intro other hother
    by_cases hsame : other = objectKey
    · rw [hsame, Function.update_self]
      exact Option.some_ne_none content
    · rw [Function.update_of_ne hsame]
      have hmem := (List.mem_append.mp hother).resolve_right fun hlast =>
        hsame (List.mem_singleton.mp hlast)
      exact hsound.there other hmem
  kept := by
    rw [h.newlyRestored, h.images]
    intro other hother
    have hsame : other ≠ objectKey := fun heq =>
      hother (List.mem_append_right _ (List.mem_singleton.mpr heq))
    rw [Function.update_of_ne hsame]
    exact hsound.kept other fun hmem => hother (List.mem_append_left _ hmem)

/-- No round changes an object which is there. -/
theorem CreatesNothing.keeps (h : before.CreatesNothing after) {bytes : ImageContent}
    (hbytes : before.session.images objectKey = some bytes) :
    after.session.images objectKey = some bytes := by
  rw [h.images, hbytes]

theorem Creates.keeps {created : Nat} (h : before.Creates after created content)
    {bytes : ImageContent} (hbytes : before.session.images objectKey = some bytes) :
    after.session.images objectKey = some bytes := by
  have hne : objectKey ≠ created := fun hsame => by
    rw [hsame, h.absent] at hbytes
    cases hbytes
  rw [h.images, Function.update_of_ne hne, hbytes]

end RestoreProgress

end Steps

section Loop

variable {checksums : Checksums} {decodes : AvatarReference → ImageContent → Bool}
  {faults : RestoreFaults} {objects : List (AvatarObjectManifest × ImageContent)}
  {images : ImageStore}

/-- The loop over one object and the rest. -/
theorem restoreAvatarObjects_cons (before : RestoreProgress) (item : AvatarObjectManifest)
    (content : ImageContent) :
    ∃ after,
      (∃ error, restoreAvatarObjects checksums decodes faults before
          ((item, content) :: objects) = (.error error, after) ∧ before.CreatesNothing after) ∨
        restoreAvatarObjects checksums decodes faults before ((item, content) :: objects) =
            restoreAvatarObjects checksums decodes faults after objects ∧
          (before.Creates after item.reference.objectKey content ∨
            before.Accepts checksums after item.reference.objectKey content) := by
  obtain ⟨outcome, after, hround, hcases⟩ :=
    restoreAvatarObject_cases checksums decodes faults before item content
  refine ⟨after, ?_⟩
  rw [restoreAvatarObjects, hround]
  rcases hcases with ⟨error, rfl, hnothing⟩ | ⟨rfl, hcreates⟩ | ⟨rfl, haccepts⟩
  · exact Or.inl ⟨error, rfl, hnothing⟩
  · exact Or.inr ⟨rfl, Or.inl hcreates⟩
  · exact Or.inr ⟨rfl, Or.inr haccepts⟩

/-- The loop keeps its account of what it has created. -/
theorem restoreAvatarObjects_sound (before : RestoreProgress) (hsound : before.Sound images) :
    (restoreAvatarObjects checksums decodes faults before objects).2.Sound images := by
  induction objects generalizing before with
  | nil => exact hsound
  | cons entry rest ih =>
      obtain ⟨after, ⟨error, hloop, hnothing⟩ | ⟨hloop, hcreates | haccepts⟩⟩ :=
        restoreAvatarObjects_cons before entry.1 entry.2
      · rw [hloop]
        exact hnothing.sound hsound
      · rw [hloop]
        exact ih after (hcreates.sound hsound)
      · rw [hloop]
        exact ih after (haccepts.toCreatesNothing.sound hsound)

/-- The loop changes no object which is there. -/
theorem restoreAvatarObjects_keeps (before : RestoreProgress) {objectKey : Nat}
    {bytes : ImageContent} (hbytes : before.session.images objectKey = some bytes) :
    (restoreAvatarObjects checksums decodes faults before objects).2.session.images objectKey =
      some bytes := by
  induction objects generalizing before with
  | nil => exact hbytes
  | cons entry rest ih =>
      obtain ⟨after, ⟨error, hloop, hnothing⟩ | ⟨hloop, hcreates | haccepts⟩⟩ :=
        restoreAvatarObjects_cons before entry.1 entry.2
      · rw [hloop]
        exact hnothing.keeps hbytes
      · rw [hloop]
        exact ih after (hcreates.keeps hbytes)
      · rw [hloop]
        exact ih after (haccepts.toCreatesNothing.keeps hbytes)

/-- A loop which ends has every object in storage. -/
theorem restoreAvatarObjects_restored (before : RestoreProgress)
    (hok : (restoreAvatarObjects checksums decodes faults before objects).1 = .ok ()) :
    (∀ entry ∈ objects, ∃ bytes,
        (restoreAvatarObjects checksums decodes faults before objects).2.session.images
            entry.1.reference.objectKey = some bytes ∧
          checksums.image bytes = checksums.image entry.2) ∧
      (restoreAvatarObjects checksums decodes faults before objects).2.newlyRestored.length +
          (restoreAvatarObjects checksums decodes faults before objects).2.alreadyPresent =
        before.newlyRestored.length + before.alreadyPresent + objects.length := by
  induction objects generalizing before with
  | nil => exact ⟨by simp, rfl⟩
  | cons entry rest ih =>
      obtain ⟨after, ⟨error, hloop, _⟩ | ⟨hloop, hcreates | haccepts⟩⟩ :=
        restoreAvatarObjects_cons before entry.1 entry.2
      · rw [hloop] at hok
        cases hok
      · rw [hloop] at hok ⊢
        obtain ⟨hrest, hcount⟩ := ih after hok
        refine ⟨fun other hother => ?_, ?_⟩
        · rcases List.mem_cons.mp hother with rfl | hmem
          · refine ⟨other.2, restoreAvatarObjects_keeps after ?_, rfl⟩
            rw [hcreates.images, Function.update_self]
          · exact hrest other hmem
        · rw [hcount, hcreates.newlyRestored, hcreates.alreadyPresent, List.length_append,
            List.length_singleton, List.length_cons]
          omega
      · rw [hloop] at hok ⊢
        obtain ⟨hrest, hcount⟩ := ih after hok
        obtain ⟨existing, hexisting, hsame⟩ := haccepts.existing
        refine ⟨fun other hother => ?_, ?_⟩
        · rcases List.mem_cons.mp hother with rfl | hmem
          · exact ⟨existing, restoreAvatarObjects_keeps after
              (haccepts.toCreatesNothing.keeps hexisting), hsame⟩
          · exact hrest other hmem
        · rw [hcount, haccepts.newlyRestored, haccepts.alreadyPresent, List.length_cons]
          omega

end Loop

section Compensation

variable {faults : RestoreFaults}

/-- The deletions of a list, the first one first. -/
theorem foldl_delete (faults : RestoreFaults) (keys : List Nat) (session : ImageSession) :
    (∀ objectKey, (keys.foldl (fun session objectKey => session.delete faults objectKey)
        session).images objectKey =
      if objectKey ∈ keys ∧ faults.deletions objectKey = false then none
      else session.images objectKey) ∧
      deletedKeys (keys.foldl (fun session objectKey => session.delete faults objectKey)
          session).calls = deletedKeys session.calls ++ keys ∧
      createdKeys (keys.foldl (fun session objectKey => session.delete faults objectKey)
          session).calls = createdKeys session.calls := by
  induction keys generalizing session with
  | nil => simp
  | cons first rest ih =>
      obtain ⟨himages, hdeleted, hcreated⟩ := ih (session.delete faults first)
      rw [List.foldl_cons]
      refine ⟨fun objectKey => ?_, ?_, ?_⟩
      · rw [himages, ImageSession.delete]
        by_cases hsame : objectKey = first
        · subst hsame
          cases faults.deletions objectKey <;> simp
        · have hstep : (if faults.deletions first = true then session.images
              else Function.update session.images first none) objectKey =
                session.images objectKey := by
            split
            · rfl
            · exact Function.update_of_ne hsame none session.images
          simp [hsame, hstep]
      · rw [hdeleted, ImageSession.delete, ImageSession.record, deletedKeys_delete,
          List.append_assoc]
        rfl
      · rw [hcreated, ImageSession.delete, ImageSession.record, createdKeys_delete]

/-- The compensation deletes what it is given and nothing else, unless a deletion fails. -/
theorem compensateAvatars_images (references : List Nat) (session : ImageSession)
    (objectKey : Nat) :
    (compensateAvatars faults references session).images objectKey =
      if objectKey ∈ references ∧ faults.deletions objectKey = false then none
      else session.images objectKey := by
  rw [compensateAvatars, (foldl_delete faults _ _).1]
  simp only [List.mem_reverse]

end Compensation

section Package

variable {checksums : Checksums} {decodes : AvatarReference → ImageContent → Bool}
  {manifest : AvatarManifest} {objectPaths : List ((Nat × ImageMimeType) × ImageContent)}
  {expectedChecksum : String} {objects : List (AvatarObjectManifest × ImageContent)}

/-- A validated package has its objects, each with a file of its checksum. -/
theorem validateAvatarBackupPackage_spec
    (h : validateAvatarBackupPackage checksums decodes manifest objectPaths expectedChecksum =
      .ok objects) :
    objects.map Prod.fst = manifest.objects ∧
      ∀ entry ∈ objects, entry.1.file? objectPaths = some entry.2 ∧
        checksums.image entry.2 = entry.1.sha256 := by
  simp only [validateAvatarBackupPackage, except_bind_eq_ok_iff,
    validateAvatarBackupManifest_eq_ok_iff, ensure_eq_ok_iff, exists_const] at h
  obtain ⟨valid, ⟨rfl, _⟩, _, hobjects⟩ := h
  have hfile : ∀ item entry, validateAvatarFile checksums decodes objectPaths item = .ok entry →
      entry.1 = item ∧ item.file? objectPaths = some entry.2 ∧
        checksums.image entry.2 = item.sha256 := by
    intro item entry hentry
    simp only [validateAvatarFile, except_bind_eq_ok_iff, require_eq_ok_iff, ensure_eq_ok_iff,
      exists_const, except_pure_eq_ok_iff] at hentry
    obtain ⟨content, hcontent, _, ⟨hchecksum, _⟩, _, rfl⟩ := hentry
    exact ⟨rfl, hcontent, hchecksum⟩
  refine ⟨?_, fun entry hentry => ?_⟩
  · have hpairs := forall₂_of_mapM hobjects
    rw [map_eq_of_forall₂ hpairs fun item entry hentry => (hfile item entry hentry).1]
    exact List.map_id _
  · obtain ⟨item, _, hitem⟩ := exists_of_mem_mapM hobjects hentry
    obtain ⟨rfl, hspec⟩ := hfile item entry hitem
    exact hspec

end Package

section Safety

variable (checksums : Checksums) (decodes : AvatarReference → ImageContent → Bool)
  (faults : RestoreFaults) (images : ImageStore) (manifest : AvatarManifest)
  (objectPaths : List ((Nat × ImageMimeType) × ImageContent)) (expectedChecksum : String)

theorem sound_start : RestoreProgress.Sound images ⟨⟨images, []⟩, [], 0⟩ where
  created := rfl
  deleted := rfl
  fresh := by simp
  there := by simp
  kept := fun _ _ => rfl

/-- A run ends before its first call, with the loop, or with the compensation of the loop. -/
theorem restoreAvatarBackup_cases :
    (∃ error, restoreAvatarBackup checksums decodes faults images manifest objectPaths
        expectedChecksum = (.error error, ⟨images, []⟩)) ∨
      ∃ objects progress,
        validateAvatarBackupPackage checksums decodes manifest objectPaths expectedChecksum =
            .ok objects ∧
          progress.Sound images ∧
          (restoreAvatarObjects checksums decodes faults ⟨⟨images, []⟩, [], 0⟩ objects =
                (.ok (), progress) ∧
              restoreAvatarBackup checksums decodes faults images manifest objectPaths
                  expectedChecksum =
                (.ok ⟨manifest, progress.newlyRestored, progress.alreadyPresent⟩,
                  progress.session) ∨
            ∃ error, restoreAvatarBackup checksums decodes faults images manifest objectPaths
                expectedChecksum =
              (.error error,
                compensateAvatars faults progress.newlyRestored progress.session)) := by
  unfold restoreAvatarBackup
  cases hpackage : validateAvatarBackupPackage checksums decodes manifest objectPaths
    expectedChecksum with
  | error error => exact Or.inl ⟨error, rfl⟩
  | ok objects =>
      have hsound : (restoreAvatarObjects checksums decodes faults ⟨⟨images, []⟩, [], 0⟩
          objects).2.Sound images := restoreAvatarObjects_sound _ (sound_start images)
      refine Or.inr ⟨objects, _, rfl, hsound, ?_⟩
      cases hloop : restoreAvatarObjects checksums decodes faults ⟨⟨images, []⟩, [], 0⟩
        objects with
      | mk outcome progress =>
          cases outcome with
          | ok value =>
              dsimp only
              rw [hloop]
              exact Or.inl ⟨rfl, rfl⟩
          | error error =>
              dsimp only
              rw [hloop]
              exact Or.inr ⟨error, rfl⟩

namespace RestoreProgress.Sound

variable {faults images} {progress : RestoreProgress} {objectKey : Nat}

/-- The created objects are those which were not there before. -/
theorem mem_newlyRestored_iff (h : progress.Sound images) :
    objectKey ∈ progress.newlyRestored ↔
      images objectKey = none ∧ progress.session.images objectKey ≠ none := by
  constructor
  · exact fun hmem => ⟨h.fresh objectKey hmem, h.there objectKey hmem⟩
  · rintro ⟨habsent, hthere⟩
    by_contra hmem
    exact hthere ((h.kept objectKey hmem).trans habsent)

/-- The compensation leaves the objects which were there, and of the others only those
whose deletion fails. -/
theorem compensated (h : progress.Sound images) :
    (∀ bytes, images objectKey = some bytes →
        (compensateAvatars faults progress.newlyRestored progress.session).images objectKey =
          some bytes) ∧
      (images objectKey = none →
        (compensateAvatars faults progress.newlyRestored progress.session).images objectKey ≠
          none →
        objectKey ∈ progress.newlyRestored ∧ faults.deletions objectKey = true) := by
  rw [compensateAvatars_images]
  by_cases hmem : objectKey ∈ progress.newlyRestored
  · have habsent := h.fresh objectKey hmem
    constructor
    · intro bytes hbytes
      rw [habsent] at hbytes
      cases hbytes
    · intro _ hthere
      refine ⟨hmem, ?_⟩
      by_contra hdeletion
      rw [if_pos ⟨hmem, by simpa using hdeletion⟩] at hthere
      exact hthere rfl
  · rw [if_neg fun hboth => hmem hboth.1, h.kept objectKey hmem]
    exact ⟨fun bytes hbytes => hbytes, fun habsent hthere => absurd habsent hthere⟩

end RestoreProgress.Sound

/-- No run changes or removes an object which was there. -/
theorem restoreAvatarBackup_keeps (objectKey : Nat) (bytes : ImageContent)
    (hbytes : images objectKey = some bytes) :
    (restoreAvatarBackup checksums decodes faults images manifest objectPaths
      expectedChecksum).2.images objectKey = some bytes := by
  obtain ⟨error, hrun⟩ | ⟨objects, progress, _, hsound, ⟨_, hrun⟩ | ⟨error, hrun⟩⟩ :=
    restoreAvatarBackup_cases checksums decodes faults images manifest objectPaths
      expectedChecksum
  · rw [hrun]
    exact hbytes
  · rw [hrun]
    have hmem : objectKey ∉ progress.newlyRestored := fun hmem => by
      rw [hsound.fresh objectKey hmem] at hbytes
      cases hbytes
    exact (hsound.kept objectKey hmem).trans hbytes
  · rw [hrun]
    exact hsound.compensated.1 bytes hbytes

/-- A run which succeeds has every object of the manifest in storage. -/
theorem restoreAvatarBackup_restored {objects : List (AvatarObjectManifest × ImageContent)}
    {progress : RestoreProgress}
    (hpackage : validateAvatarBackupPackage checksums decodes manifest objectPaths
      expectedChecksum = .ok objects)
    (hloop : restoreAvatarObjects checksums decodes faults ⟨⟨images, []⟩, [], 0⟩ objects =
      (.ok (), progress)) :
    (∀ item ∈ manifest.objects, ∃ bytes,
        progress.session.images item.reference.objectKey = some bytes ∧
          checksums.image bytes = item.sha256) ∧
      progress.newlyRestored.length + progress.alreadyPresent = manifest.objects.length := by
  obtain ⟨hobjects, hchecksums⟩ := validateAvatarBackupPackage_spec hpackage
  have hok : (restoreAvatarObjects checksums decodes faults ⟨⟨images, []⟩, [], 0⟩ objects).1 =
      .ok () := by rw [hloop]
  have hrestored := restoreAvatarObjects_restored _ hok
  rw [hloop] at hrestored
  obtain ⟨hthere, hcount⟩ := hrestored
  constructor
  · intro item hitem
    rw [← hobjects] at hitem
    obtain ⟨entry, hentry, rfl⟩ := List.mem_map.mp hitem
    obtain ⟨bytes, hbytes, hsame⟩ := hthere entry hentry
    exact ⟨bytes, hbytes, hsame.trans (hchecksums entry hentry).2⟩
  · rw [← hobjects, List.length_map, hcount]
    simp

/-- The report of a run which succeeds names the objects which it created, and nothing was
deleted. -/
theorem restoreAvatarBackup_succeeds {result : AvatarRestoreResult}
    (hresult : (restoreAvatarBackup checksums decodes faults images manifest objectPaths
      expectedChecksum).1 = .ok result) :
    let session := (restoreAvatarBackup checksums decodes faults images manifest objectPaths
      expectedChecksum).2
    (∀ item ∈ manifest.objects, ∃ bytes,
        session.images item.reference.objectKey = some bytes ∧
          checksums.image bytes = item.sha256) ∧
      result.newlyRestored = createdKeys session.calls ∧
      (∀ objectKey, objectKey ∈ result.newlyRestored ↔
        images objectKey = none ∧ session.images objectKey ≠ none) ∧
      deletedKeys session.calls = [] ∧
      result.newlyRestored.length + result.alreadyPresent = manifest.objects.length := by
  obtain ⟨error, hrun⟩ | ⟨objects, progress, hpackage, hsound, ⟨hloop, hrun⟩ | ⟨error, hrun⟩⟩ :=
    restoreAvatarBackup_cases checksums decodes faults images manifest objectPaths
      expectedChecksum
  · simp [hrun] at hresult
  · simp only [hrun, Except.ok.injEq] at hresult ⊢
    subst hresult
    obtain ⟨hthere, hcount⟩ := restoreAvatarBackup_restored checksums decodes faults images
      manifest objectPaths expectedChecksum hpackage hloop
    exact ⟨hthere, hsound.created.symm, fun _ => hsound.mem_newlyRestored_iff, hsound.deleted,
      hcount⟩
  · simp [hrun] at hresult

/-- A run which fails deletes what it created in the reverse order, and only a failed delete
leaves an object behind. -/
theorem restoreAvatarBackup_fails {error : SemesterError}
    (herror : (restoreAvatarBackup checksums decodes faults images manifest objectPaths
      expectedChecksum).1 = .error error) :
    let session := (restoreAvatarBackup checksums decodes faults images manifest objectPaths
      expectedChecksum).2
    deletedKeys session.calls = (createdKeys session.calls).reverse ∧
      ∀ objectKey, images objectKey = none → session.images objectKey ≠ none →
        objectKey ∈ createdKeys session.calls ∧ faults.deletions objectKey = true := by
  obtain ⟨_, hrun⟩ | ⟨objects, progress, _, hsound, ⟨_, hrun⟩ | ⟨_, hrun⟩⟩ :=
    restoreAvatarBackup_cases checksums decodes faults images manifest objectPaths
      expectedChecksum
  · simp only [hrun]
    exact ⟨rfl, fun objectKey habsent hthere => absurd habsent hthere⟩
  · simp [hrun] at herror
  · simp only [hrun]
    obtain ⟨_, hdeleted, hcreated⟩ :=
      foldl_delete faults progress.newlyRestored.reverse progress.session
    rw [compensateAvatars, hdeleted, hcreated, hsound.deleted, hsound.created]
    exact ⟨rfl, fun objectKey => hsound.compensated.2⟩

/-- A run creates no object which was there. -/
theorem restoreAvatarBackup_creates {objectKey : Nat}
    (hcreated : objectKey ∈ createdKeys (restoreAvatarBackup checksums decodes faults images
      manifest objectPaths expectedChecksum).2.calls) : images objectKey = none := by
  obtain ⟨_, hrun⟩ | ⟨objects, progress, _, hsound, ⟨_, hrun⟩ | ⟨_, hrun⟩⟩ :=
    restoreAvatarBackup_cases checksums decodes faults images manifest objectPaths
      expectedChecksum
  · simp [hrun, createdKeys] at hcreated
  · simp only [hrun, hsound.created] at hcreated
    exact hsound.fresh objectKey hcreated
  · simp only [hrun] at hcreated
    rw [compensateAvatars, (foldl_delete faults _ _).2.2, hsound.created] at hcreated
    exact hsound.fresh objectKey hcreated

/-- A run fails at an object which is there with another checksum. -/
theorem restoreAvatarBackup_refuses {item : AvatarObjectManifest} (hitem : item ∈ manifest.objects)
    {existing : ImageContent} (hexisting : images item.reference.objectKey = some existing)
    (hchecksum : checksums.image existing ≠ item.sha256) :
    ∃ error, (restoreAvatarBackup checksums decodes faults images manifest objectPaths
      expectedChecksum).1 = .error error := by
  cases houtcome : (restoreAvatarBackup checksums decodes faults images manifest objectPaths
      expectedChecksum).1 with
  | error error => exact ⟨error, rfl⟩
  | ok result =>
      obtain ⟨bytes, hbytes, hsame⟩ := (restoreAvatarBackup_succeeds checksums decodes faults
        images manifest objectPaths expectedChecksum houtcome).1 item hitem
      rw [restoreAvatarBackup_keeps checksums decodes faults images manifest objectPaths
        expectedChecksum _ existing hexisting, Option.some_inj] at hbytes
      exact absurd (hbytes ▸ hsame) hchecksum

/-- A restore of avatars leaves all of its objects or, but for failed deletes, none of those
which it created, and it changes no object which it found. -/
theorem avatar_restore_all_or_nothing (checksums : Checksums)
    (decodes : AvatarReference → ImageContent → Bool) (faults : RestoreFaults)
    (images : ImageStore) (manifest : AvatarManifest)
    (objectPaths : List ((Nat × ImageMimeType) × ImageContent)) (expectedChecksum : String) :
    let run := restoreAvatarBackup checksums decodes faults images manifest objectPaths
      expectedChecksum
    (∀ result, run.1 = .ok result →
        (∀ item ∈ manifest.objects, ∃ bytes,
            run.2.images item.reference.objectKey = some bytes ∧
              checksums.image bytes = item.sha256) ∧
          result.newlyRestored = createdKeys run.2.calls ∧
          (∀ objectKey, objectKey ∈ result.newlyRestored ↔
            images objectKey = none ∧ run.2.images objectKey ≠ none) ∧
          deletedKeys run.2.calls = [] ∧
          result.newlyRestored.length + result.alreadyPresent = manifest.objects.length) ∧
      (∀ error, run.1 = .error error →
        deletedKeys run.2.calls = (createdKeys run.2.calls).reverse ∧
          ∀ objectKey, images objectKey = none → run.2.images objectKey ≠ none →
            objectKey ∈ createdKeys run.2.calls ∧ faults.deletions objectKey = true) ∧
      (∀ objectKey ∈ createdKeys run.2.calls, images objectKey = none) ∧
      (∀ objectKey bytes, images objectKey = some bytes →
        run.2.images objectKey = some bytes) ∧
      (∀ item ∈ manifest.objects, ∀ existing,
        images item.reference.objectKey = some existing →
        checksums.image existing ≠ item.sha256 → ∃ error, run.1 = .error error) ∧
      ∀ item ∈ manifest.objects, ∀ existing content,
        images item.reference.objectKey = some existing →
        item.file? objectPaths = some content → existing ≠ content →
        (checksums.image existing = checksums.image content → existing = content) →
        ∃ error, run.1 = .error error := by
  intro run
  refine ⟨fun _ => restoreAvatarBackup_succeeds _ _ _ _ _ _ _,
    fun _ => restoreAvatarBackup_fails _ _ _ _ _ _ _,
    fun _ => restoreAvatarBackup_creates _ _ _ _ _ _ _,
    restoreAvatarBackup_keeps _ _ _ _ _ _ _,
    fun _ hitem _ => restoreAvatarBackup_refuses _ _ _ _ _ _ _ hitem, ?_⟩
  intro item hitem existing content hexisting hfile hdiffers hcollision
  obtain ⟨error, hrun⟩ | ⟨objects, _, hpackage, _⟩ :=
    restoreAvatarBackup_cases checksums decodes faults images manifest objectPaths
      expectedChecksum
  · exact ⟨error, by simp only [run, hrun]⟩
  · obtain ⟨hobjects, hspec⟩ := validateAvatarBackupPackage_spec hpackage
    rw [← hobjects] at hitem
    obtain ⟨entry, hentry, rfl⟩ := List.mem_map.mp hitem
    obtain ⟨hentryFile, hentryChecksum⟩ := hspec entry hentry
    obtain rfl := Option.some.inj (hentryFile.symm.trans hfile)
    refine restoreAvatarBackup_refuses _ _ _ _ _ _ _ (hobjects ▸ hitem) hexisting
      fun hsame => hdiffers ?_
    exact hcollision (hsame.trans hentryChecksum.symm)

end Safety

section Refinement

variable {checksums : Checksums} {decodes : AvatarReference → ImageContent → Bool}
  {faults : RestoreFaults} {objects : List (AvatarObjectManifest × ImageContent)}

/-- A loop which ends has changed the storage as the restore over a working storage does. -/
theorem restoreAvatarObjects_refines (before : RestoreProgress)
    (hok : (restoreAvatarObjects checksums decodes faults before objects).1 = .ok ()) :
    objects.foldlM (fun images (item, content) =>
        restoreAvatar checksums images item.reference.objectKey content)
        before.session.images =
      .ok (restoreAvatarObjects checksums decodes faults before objects).2.session.images := by
  induction objects generalizing before with
  | nil => rfl
  | cons entry rest ih =>
      cases entry with | mk item content =>
      obtain ⟨after, ⟨error, hloop, _⟩ | ⟨hloop, hround⟩⟩ :=
        restoreAvatarObjects_cons before item content
      · rw [hloop] at hok
        cases hok
      · rw [hloop] at hok ⊢
        have hstep : restoreAvatar checksums before.session.images item.reference.objectKey
            content = .ok after.session.images := by
          rcases hround with hcreates | haccepts
          · rw [restoreAvatar, hcreates.absent, hcreates.images]
          · obtain ⟨existing, hexisting, hsame⟩ := haccepts.existing
            rw [restoreAvatar, hexisting, haccepts.images]
            simp only [except_bind_eq_ok_iff, ensure_eq_ok_iff, exists_const]
            exact ⟨hsame, rfl⟩
        rw [List.foldlM_cons]
        dsimp only
        rw [hstep]
        exact ih after hok

theorem restoreAvatarBackup_refines (images : ImageStore) (manifest : AvatarManifest)
    (objectPaths : List ((Nat × ImageMimeType) × ImageContent)) (expectedChecksum : String)
    (database : DatabaseManifest) (artifact : CohortRows) (result : AvatarRestoreResult)
    (hok : (restoreAvatarBackup checksums decodes faults images manifest objectPaths
      expectedChecksum).1 = .ok result) :
    ∃ contents, restoreAvatarBackupIdempotently checksums images
        ⟨database, artifact, manifest, contents⟩ =
      .ok (restoreAvatarBackup checksums decodes faults images manifest objectPaths
        expectedChecksum).2.images := by
  obtain ⟨error, hrun⟩ | ⟨objects, progress, hpackage, _, ⟨hloop, hrun⟩ | ⟨error, hrun⟩⟩ :=
    restoreAvatarBackup_cases checksums decodes faults images manifest objectPaths
      expectedChecksum
  · rw [hrun] at hok
    cases hok
  · obtain ⟨hobjects, _⟩ := validateAvatarBackupPackage_spec hpackage
    have hok : (restoreAvatarObjects checksums decodes faults ⟨⟨images, []⟩, [], 0⟩ objects).1 =
        .ok () := by rw [hloop]
    have hrefines := restoreAvatarObjects_refines _ hok
    rw [hloop] at hrefines
    have hzip : manifest.objects.zip (objects.map Prod.snd) = objects :=
      (List.zip_of_prod hobjects rfl).symm
    exact ⟨objects.map Prod.snd, by rw [hrun, restoreAvatarBackupIdempotently, hzip, hrefines]⟩
  · rw [hrun] at hok
    cases hok

end Refinement

end BuddyWeb
