/-
A reset which fails: the avatars which its deletion pass has already taken, and when the
photos which are still stored have lost none.
-/
import BuddyWeb.Semester.ResetExact

namespace BuddyWeb

/-- How a deletion fails: the status of its answer, if it got one, and whether the object is
gone all the same. -/
structure DeletionFault where
  statusCode : Option Nat
  removed : Bool
  deriving DecidableEq, Repr

/-- The deletions which do not succeed. -/
abbrev DeletionFaults : Type := Nat → Option DeletionFault

namespace DeletionFaults

variable (faults : DeletionFaults)

/-- The pass stops at every error but a missing object. -/
def stopsAt (key : Nat) : Bool :=
  (faults key).any fun fault => fault.statusCode ≠ some 404

def removes (key : Nat) : Bool :=
  (faults key).all (·.removed)

/-- The pass calls for the deletion of an object unless it stops before. -/
def Reaches (keys : List Nat) (key : Nat) : Prop :=
  ∃ earlier later, keys = earlier ++ key :: later ∧
    ∀ previous ∈ earlier, faults.stopsAt previous = false

end DeletionFaults

/-- `_delete_managed_avatars` over a storage which may fail. -/
def deleteManagedAvatarsOneByOne (faults : DeletionFaults) :
    ImageStore → List Nat → Except SemesterError Unit × ImageStore
  | images, [] => (.ok (), images)
  | images, key :: rest =>
      let after := if faults.removes key then Function.update images key none else images
      if faults.stopsAt key then (.error .resetStorage, after)
      else deleteManagedAvatarsOneByOne faults after rest

section Reset

variable (env : SemesterEnvironment) (db : Database) (stored : StoredPackage)
  (request : ExecutionRequest) (clock : ResetClock) (fault : Option ResetStage)

/-- The transaction before its first avatar goes; a replay has none to delete. -/
def preparedReset : Except SemesterError (ResetContext × Option AvatarManifest) := do
  ensure (fault ≠ some .barrier) .resetBusy
  let context ← lockedResetContext env db request
  if context.replay = true then return (context, none)
  ensure (fault ≠ some .manifests) .resetSnapshot
  let (database, avatars) ← loadVerifiedManifests env context.backup stored
  ensure (fault ≠ some .export) .databaseBackup
  checkCurrentSnapshot env db clock context.backup context.semester database
  return (context, some avatars)

/-- The transaction after its last avatar is gone. -/
def finishedReset (context : ResetContext) (avatars : AvatarManifest) :
    Except SemesterError ResetCommit := do
  ensure (fault ≠ some .sql) .integrity
  let (after, summary) ← executeSemesterResetSql db context.operation.id context.backup.id
    context.actor.id avatars.objects.length clock.now clock.newSemesterId
  ensure (fault ≠ some .audit) .integrity
  ensure (fault ≠ some .commit) .integrity
  return ⟨{ after with
    data := recordAuditLog after.data clock.auditId context.actor.id semesterResetAuditAction },
    summary, false⟩

def replayedReset (context : ResetContext) : Except SemesterError ResetCommit := do
  ensure (fault ≠ some .commit) .integrity
  return ⟨db, context.operation.resultSummary, true⟩

def AvatarManifest.keys (avatars : AvatarManifest) : List Nat :=
  avatars.objects.map (·.reference.objectKey)

/-- The transaction of `execute_semester_reset` with the image storage, whose deletions no
rollback undoes. -/
def executeSemesterResetWithStorage (images : ImageStore) (faults : DeletionFaults) :
    Except SemesterError ResetCommit × ImageStore :=
  match preparedReset env db stored request clock fault with
  | .error error => (.error error, images)
  | .ok (context, none) => (replayedReset db fault context, images)
  | .ok (context, some avatars) =>
      let (outcome, after) := deleteManagedAvatarsOneByOne faults images avatars.keys
      (outcome.bind fun _ => finishedReset db clock fault context avatars, after)

/-- The transaction on the database alone, divided at its deletion pass. -/
theorem executeSemesterReset_eq :
    executeSemesterReset env db stored request clock fault =
      (do
        let (context, cleanup) ← preparedReset env db stored request clock fault
        match cleanup with
        | none => replayedReset db fault context
        | some avatars =>
            ensure (fault ≠ some .avatars) .resetStorage
            finishedReset db clock fault context avatars) := by
  simp only [executeSemesterReset, preparedReset, bind_assoc]
  congr 1
  funext _
  congr 1
  funext context
  split
  · rfl
  · simp only [bind_assoc]
    rfl

end Reset

section Cleanup

variable {faults : DeletionFaults} {keys : List Nat} {key first : Nat}

theorem DeletionFaults.reaches_cons :
    faults.Reaches (first :: keys) key ↔
      key = first ∨ faults.stopsAt first = false ∧ faults.Reaches keys key := by
  constructor
  · rintro ⟨earlier, later, hkeys, hearlier⟩
    cases earlier with
    | nil =>
        rw [List.nil_append, List.cons.injEq] at hkeys
        exact Or.inl hkeys.1.symm
    | cons head tail =>
        rw [List.cons_append, List.cons.injEq] at hkeys
        obtain ⟨rfl, hrest⟩ := hkeys
        refine Or.inr ⟨hearlier first List.mem_cons_self, tail, later, hrest, ?_⟩
        exact fun previous hprevious =>
          hearlier previous (List.mem_cons_of_mem first hprevious)
  · rintro (rfl | ⟨hgoes, earlier, later, rfl, hearlier⟩)
    · exact ⟨[], keys, rfl, by simp⟩
    · refine ⟨first :: earlier, later, rfl, fun previous hprevious => ?_⟩
      rcases List.mem_cons.mp hprevious with rfl | hmem
      · exact hgoes
      · exact hearlier previous hmem

theorem DeletionFaults.Reaches.mem (h : faults.Reaches keys key) : key ∈ keys := by
  obtain ⟨earlier, later, rfl, _⟩ := h
  exact List.mem_append_right earlier List.mem_cons_self

theorem DeletionFaults.not_reaches_nil : ¬faults.Reaches [] key := by
  rintro ⟨earlier, later, hkeys, _⟩
  simp at hkeys

/-- One deletion. -/
def DeletionFaults.afterDeletion (faults : DeletionFaults) (images : ImageStore)
    (first : Nat) : ImageStore :=
  if faults.removes first then Function.update images first none else images

theorem DeletionFaults.afterDeletion_self (images : ImageStore) :
    faults.afterDeletion images key key =
      if faults.removes key then none else images key := by
  unfold DeletionFaults.afterDeletion
  split
  · exact Function.update_self key none images
  · rfl

theorem DeletionFaults.afterDeletion_of_ne (images : ImageStore) (hne : key ≠ first) :
    faults.afterDeletion images first key = images key := by
  unfold DeletionFaults.afterDeletion
  split
  · exact Function.update_of_ne hne none images
  · rfl

theorem deleteManagedAvatarsOneByOne_cons (images : ImageStore) :
    (deleteManagedAvatarsOneByOne faults images (first :: keys)).2 =
      if faults.stopsAt first then faults.afterDeletion images first
      else (deleteManagedAvatarsOneByOne faults (faults.afterDeletion images first) keys).2 := by
  rw [deleteManagedAvatarsOneByOne]
  split
  · rfl
  · rfl

/-- The pass takes nothing but what it deletes with an effect. -/
theorem deleteManagedAvatarsOneByOne_kept (images : ImageStore)
    (h : ¬(faults.Reaches keys key ∧ faults.removes key = true)) :
    (deleteManagedAvatarsOneByOne faults images keys).2 key = images key := by
  induction keys generalizing images with
  | nil => rfl
  | cons first rest ih =>
      rw [deleteManagedAvatarsOneByOne_cons]
      have hafter : faults.afterDeletion images first key = images key := by
        by_cases hsame : key = first
        · subst hsame
          have hkept : ¬faults.removes key = true := fun hremoves =>
            h ⟨DeletionFaults.reaches_cons.mpr (Or.inl rfl), hremoves⟩
          rw [DeletionFaults.afterDeletion_self, if_neg hkept]
        · exact DeletionFaults.afterDeletion_of_ne images hsame
      split
      · exact hafter
      · rename_i hgoes
        refine (ih (faults.afterDeletion images first) fun hrest => h ⟨?_, hrest.2⟩).trans hafter
        exact DeletionFaults.reaches_cons.mpr (Or.inr ⟨by simpa using hgoes, hrest.1⟩)

theorem deleteManagedAvatarsOneByOne_of_none (images : ImageStore) (h : images key = none) :
    (deleteManagedAvatarsOneByOne faults images keys).2 key = none := by
  induction keys generalizing images with
  | nil => exact h
  | cons first rest ih =>
      have hafter : faults.afterDeletion images first key = none := by
        by_cases hsame : key = first
        · subst hsame
          rw [DeletionFaults.afterDeletion_self, h]
          exact ite_self none
        · rw [DeletionFaults.afterDeletion_of_ne images hsame, h]
      rw [deleteManagedAvatarsOneByOne_cons]
      split
      · exact hafter
      · exact ih (faults.afterDeletion images first) hafter

/-- What the pass deletes with an effect is gone after it. -/
theorem deleteManagedAvatarsOneByOne_gone (images : ImageStore)
    (hreaches : faults.Reaches keys key) (hremoves : faults.removes key = true) :
    (deleteManagedAvatarsOneByOne faults images keys).2 key = none := by
  induction keys generalizing images with
  | nil => exact absurd hreaches DeletionFaults.not_reaches_nil
  | cons first rest ih =>
      rw [deleteManagedAvatarsOneByOne_cons]
      by_cases hsame : key = first
      · subst hsame
        have hafter : faults.afterDeletion images key key = none := by
          rw [DeletionFaults.afterDeletion_self, if_pos hremoves]
        split
        · exact hafter
        · exact deleteManagedAvatarsOneByOne_of_none _ hafter
      · obtain ⟨hgoes, hrest⟩ :=
          (DeletionFaults.reaches_cons.mp hreaches).resolve_left hsame
        rw [if_neg (by simp [hgoes])]
        exact ih _ hrest

end Cleanup

section Failures

variable {env : SemesterEnvironment} {db : Database} {stored : StoredPackage}
  {request : ExecutionRequest} {clock : ResetClock} {fault : Option ResetStage}

/-- An exported avatar reference is that of a stored photo. -/
theorem avatarReferences_photo {data : Dataset} {semesterId : Nat} {reference : AvatarReference}
    (h : reference ∈ data.avatarReferences semesterId) :
    ∃ photo ∈ (data.rows .profilePhotos : List PhotoRow),
      photo.objectKey = reference.objectKey := by
  simp only [Dataset.avatarReferences, List.mem_insertionSort, List.mem_flatMap,
    List.mem_map] at h
  obtain ⟨photo, hphoto, profile, _, owner, _, rfl⟩ := h
  exact ⟨photo, hphoto, rfl⟩

/-- Every avatar of a manifest which passes the checks belongs to a stored photo. -/
theorem preparedReset_photo {context : ResetContext} {avatars : AvatarManifest}
    (h : preparedReset env db stored request clock fault = .ok (context, some avatars))
    {key : Nat} (hkey : key ∈ avatars.keys) :
    ∃ photo ∈ (db.data.rows .profilePhotos : List PhotoRow), photo.objectKey = key := by
  simp only [preparedReset, except_bind_eq_ok_iff, ensure_eq_ok_iff, exists_const] at h
  obtain ⟨_, found, _, h⟩ := h
  split at h
  · simp at h
  · simp only [except_bind_eq_ok_iff, ensure_eq_ok_iff, exists_const, except_pure_eq_ok_iff,
      Prod.mk.injEq, Option.some_inj] at h
    obtain ⟨_, ⟨database, verified⟩, hload, _, _, hsnapshot, _, rfl⟩ := h
    have hlinked := (loadVerifiedManifests_eq_ok_iff.mp hload).2.2
    have hreferences : database.avatarReferences = verified.objects.map (·.reference) :=
      hlinked.2.2.2.2.2.2.2.2.2.2.2.2.2
    simp only [checkCurrentSnapshot, validateCurrentSnapshot, ensure_eq_ok_iff] at hsnapshot
    have hcurrent := hsnapshot.2.2.2.2.2.1
    obtain ⟨item, hitem, rfl⟩ := List.mem_map.mp hkey
    have hreference : item.reference ∈ database.avatarReferences :=
      hreferences ▸ List.mem_map_of_mem hitem
    rw [hcurrent] at hreference
    exact avatarReferences_photo hreference

/-- No stored photo loses its object. -/
def KeepsAvatars (db : Database) (before after : ImageStore) : Prop :=
  ∀ photo ∈ (db.data.rows .profilePhotos : List PhotoRow), ∀ content,
    before photo.objectKey = some content → after photo.objectKey = some content

/-- The checks refuse the reset, or its deletion pass takes no object which is there. -/
def TakesNoAvatar (env : SemesterEnvironment) (db : Database) (stored : StoredPackage)
    (request : ExecutionRequest) (clock : ResetClock) (fault : Option ResetStage)
    (images : ImageStore) (faults : DeletionFaults) : Prop :=
  ∀ context avatars,
    preparedReset env db stored request clock fault = .ok (context, some avatars) →
      ∀ key, faults.Reaches avatars.keys key → faults.removes key = true → images key = none

/-- A failed reset keeps the avatars exactly when no delete took one of them. -/
theorem failed_reset_keeps_avatars_iff (env : SemesterEnvironment) (db : Database)
    (stored : StoredPackage) (request : ExecutionRequest) (clock : ResetClock)
    (fault : Option ResetStage) (images : ImageStore) (faults : DeletionFaults)
    (error : SemesterError)
    (hfailed : (executeSemesterResetWithStorage env db stored request clock fault images
      faults).1 = .error error) :
    KeepsAvatars
        (db.afterReset (executeSemesterResetWithStorage env db stored request clock fault images
          faults).1) images
        (executeSemesterResetWithStorage env db stored request clock fault images faults).2 ↔
      TakesNoAvatar env db stored request clock fault images faults := by
  have hsame : db.afterReset (executeSemesterResetWithStorage env db stored request clock fault
      images faults).1 = db := by
    rw [hfailed]
    rfl
  rw [hsame]
  clear hsame hfailed
  unfold executeSemesterResetWithStorage TakesNoAvatar
  split
  · rename_i hprepared
    simp [hprepared, KeepsAvatars]
  · rename_i hprepared
    simp [hprepared, KeepsAvatars]
  · rename_i context avatars hprepared
    constructor
    · intro hkeeps found manifest hfound key hreaches hremoves
      obtain ⟨rfl, hsome⟩ := Prod.mk.inj (Except.ok.inj (hprepared.symm.trans hfound))
      obtain rfl := Option.some.inj hsome
      obtain ⟨photo, hphoto, rfl⟩ := preparedReset_photo hprepared hreaches.mem
      cases hcontent : images photo.objectKey with
      | none => rfl
      | some content =>
          have hkept := hkeeps photo hphoto content hcontent
          rw [deleteManagedAvatarsOneByOne_gone images hreaches hremoves] at hkept
          exact absurd hkept (by simp)
    · intro htakes photo _ content hcontent
      rw [deleteManagedAvatarsOneByOne_kept]
      · exact hcontent
      · rintro ⟨hreaches, hremoves⟩
        rw [htakes context avatars hprepared photo.objectKey hreaches hremoves] at hcontent
        exact absurd hcontent (by simp)

end Failures

namespace ResetFailuresWitness

open ResetExactWitness (env db stored request clock)

/-- The storage of the one avatar. -/
def images : ImageStore := fun key => if key = 41 then some [0] else none

def unavailable : DeletionFaults := fun _ => some ⟨some 503, false⟩

/-- A reset whose first deletion is refused keeps the avatar. -/
theorem failed_reset_keeps_avatars_unavailable :
    KeepsAvatars
      (db.afterReset (executeSemesterResetWithStorage env db stored request clock none images
        unavailable).1) images
      (executeSemesterResetWithStorage env db stored request clock none images
        unavailable).2 := by
  obtain ⟨error, hfailed⟩ := exists_error_of_toBool
    (executeSemesterResetWithStorage env db stored request clock none images unavailable).1
    (by decide +kernel)
  refine (failed_reset_keeps_avatars_iff env db stored request clock none images unavailable
    error hfailed).mpr ?_
  intro context avatars _ key _ hremoves
  simp [DeletionFaults.removes, unavailable] at hremoves

/-- A reset whose commit fails has lost the avatar of a photo which is still stored. -/
theorem failed_commit_loses_avatar :
    ∃ error, (executeSemesterResetWithStorage env db stored request clock (some .commit) images
        fun _ => none).1 = .error error ∧
      ¬KeepsAvatars
        (db.afterReset (executeSemesterResetWithStorage env db stored request clock
          (some .commit) images fun _ => none).1) images
        (executeSemesterResetWithStorage env db stored request clock (some .commit) images
          fun _ => none).2 := by
  obtain ⟨error, hfailed⟩ := exists_error_of_toBool
    (executeSemesterResetWithStorage env db stored request clock (some .commit) images
      fun _ => none).1 (by decide +kernel)
  refine ⟨error, hfailed, fun hkeeps => ?_⟩
  rw [hfailed] at hkeeps
  have hgone : (executeSemesterResetWithStorage env db stored request clock (some .commit)
      images fun _ => none).2 41 = none := by decide +kernel
  have hkept := hkeeps ⟨40, 20, 41, .png, 1, 1, 1⟩ List.mem_cons_self [0] rfl
  rw [hgone] at hkept
  exact absurd hkept (by simp)

end ResetFailuresWitness

end BuddyWeb
