/-
The deletion of the media of deleted photos: the objects, the image rows, and repeated runs
after crashes and lost answers.
-/
import Mathlib.Data.List.Nodup
import Mathlib.Logic.Function.Iterate
import BuddyWeb.Recap.Records
import BuddyWeb.Storage.CallOutcome

namespace BuddyWeb

namespace RecapDatabase

variable (db : RecapDatabase) (recapId : Nat)

def deletedPhotosFor : List RecapPhoto :=
  (db.allPhotosFor recapId).filter (·.deletedAt.isSome)

def imagesOf (photo : RecapPhoto) : List RecapImage :=
  db.images.rows.filter (·.photoId = photo.id)

def deletedPhotoImages : List RecapImage :=
  (db.deletedPhotosFor recapId).flatMap db.imagesOf

end RecapDatabase

/-- The tables and the object store beside them.  No two images share an object. -/
structure RecapMedia where
  db : RecapDatabase
  objects : List String
  objectKeys : (db.images.rows.map (·.objectKey)).Nodup

/-- What becomes of the calls of one run: of the deletion for each image, and of the commit.
A crash is a call which raises something else than a storage error. -/
structure CleanupRun where
  deletion : Nat → CallOutcome
  commit : CallOutcome

/-- A run in which nothing fails. -/
def CleanupRun.working : CleanupRun := ⟨fun _ => .returns, .returns⟩

/-- The objects after a deletion and its error.  For an absent object the storage answers that
it is not found. -/
def deleteObject (objects : List String) (objectKey : String) :
    CallOutcome → List String × Option RaisedError
  | .returns =>
      if objectKey ∈ objects then (objects.filter (· ≠ objectKey), none)
      else (objects, some .storageOperation)
  | .failsBefore error => (objects, some error)
  | .failsAfter error => (objects.filter (· ≠ objectKey), some error)

structure MediaSweep where
  objects : List String
  deletedImages : List Nat
  pending : Bool

section Sweep

variable (run : CleanupRun)

/-- Delete the objects of images, with the row of each deleted one.  A storage error leaves the
row pending, another error ends the run. -/
def sweepImages : List RecapImage → MediaSweep → MediaSweep × Option RaisedError
  | [], sweep => (sweep, none)
  | image :: images, sweep =>
      match deleteObject sweep.objects image.objectKey (run.deletion image.id) with
      | (objects, none) =>
          sweepImages images
            { sweep with objects := objects, deletedImages := image.id :: sweep.deletedImages }
      | (objects, some .storageOperation) =>
          sweepImages images { sweep with objects := objects, pending := true }
      | (objects, some error) => ({ sweep with objects := objects }, some error)

def sweepPhotos (db : RecapDatabase) :
    List RecapPhoto → MediaSweep → MediaSweep × Option RaisedError
  | [], sweep => (sweep, none)
  | photo :: photos, sweep =>
      match sweepImages run (db.imagesOf photo) sweep with
      | (swept, none) => sweepPhotos db photos swept
      | (swept, some error) => (swept, some error)

end Sweep

namespace RecapMedia

variable (media : RecapMedia)

def deleteImages (deletedImages : List Nat) : RecapMedia where
  db := { media.db with images := media.db.images.delete fun image => image.id ∈ deletedImages }
  objects := media.objects
  objectKeys := (List.filter_sublist.map RecapImage.objectKey).nodup media.objectKeys

/-- `cleanup_photos`: the media after the run, and what it reports. -/
def cleanupPhotos (run : CleanupRun) (recapId : Nat) :
    RecapMedia × Except RaisedError Bool :=
  match sweepPhotos run media.db (media.db.deletedPhotosFor recapId)
      ⟨media.objects, [], false⟩ with
  | (sweep, some error) => ({ media with objects := sweep.objects }, .error error)
  | (sweep, none) =>
      let swept := { media with objects := sweep.objects }
      let committed :=
        if run.commit.takesEffect then swept.deleteImages sweep.deletedImages else swept
      match run.commit.error? with
      | none => (committed, .ok sweep.pending)
      | some error => (committed, .error error)

/-- The media after earlier runs. -/
def afterRuns (recapId : Nat) (runs : List CleanupRun) : RecapMedia :=
  runs.foldl (fun media run => (media.cleanupPhotos run recapId).1) media

/-- Repeated runs with working storage finally leave no image row of a deleted photo and
report nothing pending. -/
def Converges (recapId : Nat) : Prop :=
  ∃ enough, ∀ count, enough ≤ count →
    let after := media.afterRuns recapId (List.replicate count .working)
    after.db.deletedPhotoImages recapId = [] ∧
      (after.cleanupPhotos .working recapId).2 = .ok false

/-- The object belongs to a photo which is not deleted. -/
def Owned (objectKey : String) : Prop :=
  ∃ image ∈ media.db.images.rows, image.objectKey = objectKey ∧
    ∃ photo ∈ media.db.photos.rows, photo.id = image.photoId ∧ photo.deletedAt = none

/-- Each image of a deleted photo still has its object. -/
def Intact (recapId : Nat) : Prop :=
  ∀ image ∈ media.db.deletedPhotoImages recapId, image.objectKey ∈ media.objects

instance (recapId : Nat) : Decidable (media.Intact recapId) :=
  inferInstanceAs (Decidable (∀ image ∈ media.db.deletedPhotoImages recapId, _))

end RecapMedia

namespace CleanupRun

variable (run : CleanupRun)

/-- The error of the deletion ends the run. -/
def crashesAt (image : RecapImage) : Bool :=
  match (run.deletion image.id).error? with
  | none => false
  | some .storageOperation => false
  | some _ => true

/-- The images for which the run calls the storage. -/
def reached : List RecapImage → List RecapImage
  | [] => []
  | image :: images => image :: if run.crashesAt image then [] else reached images

/-- The run comes to its commit, which takes effect. -/
def Commits (images : List RecapImage) : Prop :=
  (∀ image ∈ images, run.crashesAt image = false) ∧ run.commit.takesEffect = true

/-- The run deletes an object of a deleted photo, but the answer is lost or the deletion of the
row is not committed. -/
def LosesDeletion (recapId : Nat) (media : RecapMedia) : Prop :=
  ∃ image ∈ run.reached (media.db.deletedPhotoImages recapId),
    image.objectKey ∈ media.objects ∧ (run.deletion image.id).takesEffect = true ∧
      ¬ (run.deletion image.id = .returns ∧
        run.Commits (media.db.deletedPhotoImages recapId))

end CleanupRun

/-- None of the runs loses a deletion. -/
def LosesNothing (recapId : Nat) : List CleanupRun → RecapMedia → Prop
  | [], _ => True
  | run :: runs, media =>
      ¬ run.LosesDeletion recapId media ∧
        LosesNothing recapId runs (media.cleanupPhotos run recapId).1

section DeletedPhotos

variable {db : RecapDatabase} {recapId : Nat} {image : RecapImage}

theorem mem_deletedPhotosFor {photo : RecapPhoto} : photo ∈ db.deletedPhotosFor recapId ↔
    photo ∈ db.photos.rows ∧ photo.recapId = recapId ∧ photo.deletedAt.isSome = true := by
  rw [RecapDatabase.deletedPhotosFor, List.mem_filter, RecapDatabase.allPhotosFor,
    List.mem_insertionSort, List.mem_filter, decide_eq_true_iff, and_assoc]

theorem mem_imagesOf {photo : RecapPhoto} :
    image ∈ db.imagesOf photo ↔ image ∈ db.images.rows ∧ image.photoId = photo.id := by
  rw [RecapDatabase.imagesOf, List.mem_filter, decide_eq_true_iff]

theorem mem_deletedPhotoImages : image ∈ db.deletedPhotoImages recapId ↔
    image ∈ db.images.rows ∧
      ∃ photo ∈ db.deletedPhotosFor recapId, image.photoId = photo.id := by
  rw [RecapDatabase.deletedPhotoImages, List.mem_flatMap]
  constructor
  · rintro ⟨photo, hphoto, himage⟩
    exact ⟨(mem_imagesOf.mp himage).1, photo, hphoto, (mem_imagesOf.mp himage).2⟩
  · rintro ⟨himage, photo, hphoto, howner⟩
    exact ⟨photo, hphoto, mem_imagesOf.mpr ⟨himage, howner⟩⟩

/-- No image comes twice, as no photo does. -/
theorem deletedPhotoImages_nodup (db : RecapDatabase) (recapId : Nat) :
    (db.deletedPhotoImages recapId).Nodup := by
  have hphotos : ((db.deletedPhotosFor recapId).map Keyed.key).Nodup := by
    apply (List.filter_sublist.map Keyed.key).nodup
    have hperm := (db.photos.rows.filter (·.recapId = recapId)).perm_insertionSort
      fun first second => first.sortOrder < second.sortOrder ∨
        first.sortOrder = second.sortOrder ∧ first.id ≤ second.id
    exact (hperm.map Keyed.key).nodup_iff.mpr
      ((List.filter_sublist.map Keyed.key).nodup db.photos.nodup)
  apply List.nodup_flatMap.mpr
  constructor
  · intro photo _
    exact (db.images.nodup.of_map).filter _
  · apply (List.pairwise_map.mp hphotos).imp
    intro first second hne image hfirst hsecond
    exact hne ((mem_imagesOf.mp hfirst).2.symm.trans (mem_imagesOf.mp hsecond).2)

/-- Two images of one object are one image. -/
theorem RecapMedia.image_unique (media : RecapMedia) {first second : RecapImage}
    (hfirst : first ∈ media.db.images.rows) (hsecond : second ∈ media.db.images.rows)
    (hkey : first.objectKey = second.objectKey) : first = second :=
  List.inj_on_of_nodup_map media.objectKeys hfirst hsecond hkey

theorem RecapMedia.deletedKeys_nodup (media : RecapMedia) (recapId : Nat) :
    ((media.db.deletedPhotoImages recapId).map (·.objectKey)).Nodup := by
  apply List.Nodup.map_on _ (deletedPhotoImages_nodup media.db recapId)
  intro first hfirst second hsecond hkey
  exact media.image_unique (mem_deletedPhotoImages.mp hfirst).1
    (mem_deletedPhotoImages.mp hsecond).1 hkey

end DeletedPhotos

section Deletion

variable {objects : List String} {objectKey : String} {outcome : CallOutcome}

theorem mem_deleteObject {other : String} :
    other ∈ (deleteObject objects objectKey outcome).1 ↔
      other ∈ objects ∧ (outcome.takesEffect = true → other ≠ objectKey) := by
  cases outcome with
  | returns =>
      by_cases hpresent : objectKey ∈ objects
      · simp [deleteObject, hpresent]
      · have hother : other ∈ objects → other ≠ objectKey := by
          rintro hmem rfl
          exact hpresent hmem
        simpa [deleteObject, hpresent] using hother
  | failsBefore error => simp [deleteObject]
  | failsAfter error => simp [deleteObject]

/-- Only a deletion that works on a present object raises nothing. -/
theorem deleteObject_error_eq_none :
    (deleteObject objects objectKey outcome).2 = none ↔
      outcome = .returns ∧ objectKey ∈ objects := by
  cases outcome with
  | returns =>
      by_cases hpresent : objectKey ∈ objects
      · simp [deleteObject, hpresent]
      · simp [deleteObject, hpresent]
  | failsBefore error => simp [deleteObject]
  | failsAfter error => simp [deleteObject]

end Deletion

section Swept

variable {run : CleanupRun}

/-- The sweep after one image whose deletion does not end the run. -/
def MediaSweep.after (run : CleanupRun) (image : RecapImage) (sweep : MediaSweep) :
    MediaSweep :=
  let deleted := deleteObject sweep.objects image.objectKey (run.deletion image.id)
  { objects := deleted.1
    deletedImages :=
      if deleted.2 = none then image.id :: sweep.deletedImages else sweep.deletedImages
    pending := sweep.pending || deleted.2.isSome }

theorem CleanupRun.error_of_crashesAt {image : RecapImage} (h : run.crashesAt image = true) :
    ∃ error, (run.deletion image.id).error? = some error ∧ error ≠ .storageOperation := by
  rw [crashesAt] at h
  cases herror : (run.deletion image.id).error? with
  | none => simp [herror] at h
  | some error =>
      have hother : error ≠ .storageOperation := by
        rintro rfl
        simp [herror] at h
      exact ⟨error, rfl, hother⟩

/-- A crash ends the sweep. -/
theorem sweepImages_cons_of_crash (image : RecapImage) (images : List RecapImage)
    (sweep : MediaSweep) (h : run.crashesAt image = true) :
    sweepImages run (image :: images) sweep =
      ({ sweep with objects := (sweep.after run image).objects },
        (run.deletion image.id).error?) := by
  obtain ⟨error, herror, hother⟩ := run.error_of_crashesAt h
  simp only [sweepImages, MediaSweep.after]
  cases houtcome : run.deletion image.id with
  | returns =>
      rw [houtcome] at herror
      cases herror
  | failsBefore raised =>
      rw [houtcome] at herror
      cases herror
      cases error with
      | storageOperation => exact absurd rfl hother
      | exception => rfl
      | cancelled => rfl
  | failsAfter raised =>
      rw [houtcome] at herror
      cases herror
      cases error with
      | storageOperation => exact absurd rfl hother
      | exception => rfl
      | cancelled => rfl

theorem sweepImages_cons (image : RecapImage) (images : List RecapImage) (sweep : MediaSweep)
    (h : run.crashesAt image = false) :
    sweepImages run (image :: images) sweep =
      sweepImages run images (sweep.after run image) := by
  simp only [sweepImages, MediaSweep.after]
  cases houtcome : run.deletion image.id with
  | returns =>
      by_cases hpresent : image.objectKey ∈ sweep.objects
      · simp [deleteObject, hpresent]
      · simp [deleteObject, hpresent]
  | failsBefore error =>
      cases error with
      | storageOperation => simp [deleteObject]
      | exception => simp [CleanupRun.crashesAt, houtcome] at h
      | cancelled => simp [CleanupRun.crashesAt, houtcome] at h
  | failsAfter error =>
      cases error with
      | storageOperation => simp [deleteObject]
      | exception => simp [CleanupRun.crashesAt, houtcome] at h
      | cancelled => simp [CleanupRun.crashesAt, houtcome] at h

/-- The photos are swept image by image. -/
theorem sweepImages_append (first second : List RecapImage) (sweep : MediaSweep) :
    sweepImages run (first ++ second) sweep =
      match sweepImages run first sweep with
      | (swept, none) => sweepImages run second swept
      | (swept, some error) => (swept, some error) := by
  induction first generalizing sweep with
  | nil => rfl
  | cons image images ih =>
      rw [List.cons_append]
      by_cases hcrash : run.crashesAt image = true
      · obtain ⟨error, herror, -⟩ := run.error_of_crashesAt hcrash
        rw [sweepImages_cons_of_crash image _ sweep hcrash,
          sweepImages_cons_of_crash image _ sweep hcrash, herror]
      · have hnone := Bool.eq_false_iff.mpr hcrash
        rw [sweepImages_cons image _ sweep hnone, sweepImages_cons image _ sweep hnone]
        exact ih (sweep.after run image)

theorem sweepPhotos_eq (db : RecapDatabase) (photos : List RecapPhoto) (sweep : MediaSweep) :
    sweepPhotos run db photos sweep =
      sweepImages run (photos.flatMap db.imagesOf) sweep := by
  induction photos generalizing sweep with
  | nil => rfl
  | cons photo photos ih =>
      rw [List.flatMap_cons, sweepImages_append]
      simp only [sweepPhotos, ih]

/-- The run ends early exactly at a crash. -/
theorem sweepImages_error_eq_none (images : List RecapImage) (sweep : MediaSweep) :
    (sweepImages run images sweep).2 = none ↔
      ∀ image ∈ images, run.crashesAt image = false := by
  induction images generalizing sweep with
  | nil => simp [sweepImages]
  | cons image images ih =>
      by_cases hcrash : run.crashesAt image = true
      · obtain ⟨error, herror, -⟩ := run.error_of_crashesAt hcrash
        rw [sweepImages_cons_of_crash image images sweep hcrash]
        simp [herror, hcrash]
      · have hnone := Bool.eq_false_iff.mpr hcrash
        rw [sweepImages_cons image images sweep hnone, ih]
        simp [hnone]

theorem mem_sweepImages_objects (images : List RecapImage) (sweep : MediaSweep)
    (objectKey : String) :
    objectKey ∈ (sweepImages run images sweep).1.objects ↔
      objectKey ∈ sweep.objects ∧ ∀ image ∈ run.reached images,
        (run.deletion image.id).takesEffect = true → objectKey ≠ image.objectKey := by
  induction images generalizing sweep with
  | nil => simp [sweepImages, CleanupRun.reached]
  | cons image images ih =>
      have hfirst := @mem_deleteObject sweep.objects image.objectKey (run.deletion image.id)
        objectKey
      by_cases hcrash : run.crashesAt image = true
      · rw [sweepImages_cons_of_crash image images sweep hcrash]
        simp only [CleanupRun.reached, if_pos hcrash, List.mem_singleton, forall_eq]
        exact hfirst
      · rw [sweepImages_cons image images sweep (Bool.eq_false_iff.mpr hcrash), ih]
        simp only [CleanupRun.reached, if_neg hcrash, List.forall_mem_cons]
        rw [← and_assoc]
        exact and_congr_left fun _ => hfirst

/-- In a run that does not end early an image row goes exactly when its deletion works on a
present object. -/
theorem mem_sweepImages_deletedImages (images : List RecapImage) (sweep : MediaSweep) (id : Nat)
    (hkeys : (images.map (·.objectKey)).Nodup)
    (hruns : ∀ image ∈ images, run.crashesAt image = false) :
    id ∈ (sweepImages run images sweep).1.deletedImages ↔
      id ∈ sweep.deletedImages ∨ ∃ image ∈ images, image.id = id ∧
        run.deletion image.id = .returns ∧ image.objectKey ∈ sweep.objects := by
  induction images generalizing sweep with
  | nil => simp [sweepImages]
  | cons image images ih =>
      rw [List.map_cons, List.nodup_cons] at hkeys
      rw [List.forall_mem_cons] at hruns
      rw [sweepImages_cons image images sweep hruns.1, ih (sweep.after run image) hkeys.2 hruns.2]
      -- the first deletion leaves the objects of the other images
      have hothers : ∀ other ∈ images,
          (other.objectKey ∈ (sweep.after run image).objects ↔
            other.objectKey ∈ sweep.objects) := by
        intro other hother
        have hne : other.objectKey ≠ image.objectKey := fun hkey =>
          hkeys.1 (hkey ▸ List.mem_map_of_mem hother)
        rw [MediaSweep.after, mem_deleteObject]
        exact and_iff_left fun _ => hne
      have hrest : (∃ other ∈ images, other.id = id ∧ run.deletion other.id = .returns ∧
            other.objectKey ∈ (sweep.after run image).objects) ↔
          ∃ other ∈ images, other.id = id ∧ run.deletion other.id = .returns ∧
            other.objectKey ∈ sweep.objects := by
        apply exists_congr
        intro other
        apply and_congr_right
        intro hother
        rw [hothers other hother]
      rw [hrest, List.exists_mem_cons_iff, ← or_assoc]
      apply or_congr_left
      simp only [MediaSweep.after]
      by_cases hdeleted : (deleteObject sweep.objects image.objectKey
          (run.deletion image.id)).2 = none
      · have hworks := deleteObject_error_eq_none.mp hdeleted
        rw [if_pos hdeleted, List.mem_cons, or_comm]
        apply or_congr_right
        constructor
        · rintro rfl
          exact ⟨rfl, hworks⟩
        · intro hid
          exact hid.1.symm
      · rw [if_neg hdeleted]
        constructor
        · exact Or.inl
        · rintro (hold | ⟨-, hworks⟩)
          · exact hold
          · exact absurd (deleteObject_error_eq_none.mpr hworks) hdeleted

end Swept

namespace RecapMedia

variable {media : RecapMedia} {run : CleanupRun} {recapId : Nat}

/-- What a run of `cleanup_photos` comes to. -/
theorem cleanupPhotos_eq (media : RecapMedia) (run : CleanupRun) (recapId : Nat) :
    let swept := sweepImages run (media.db.deletedPhotoImages recapId) ⟨media.objects, [], false⟩
    (swept.2.isSome = true ∧
        (media.cleanupPhotos run recapId).1 = { media with objects := swept.1.objects }) ∨
      (swept.2 = none ∧ (media.cleanupPhotos run recapId).1 =
        if run.commit.takesEffect then
          { media with objects := swept.1.objects }.deleteImages swept.1.deletedImages
        else { media with objects := swept.1.objects }) := by
  simp only [cleanupPhotos, sweepPhotos_eq]
  rw [← RecapDatabase.deletedPhotoImages]
  rcases hswept : sweepImages run (media.db.deletedPhotoImages recapId)
      ⟨media.objects, [], false⟩ with ⟨sweep, _ | error⟩
  · right
    simp only [true_and]
    cases run.commit.error? with
    | none => rfl
    | some error => rfl
  · exact .inl ⟨rfl, rfl⟩

theorem cleanupPhotos_photos :
    (media.cleanupPhotos run recapId).1.db.photos = media.db.photos := by
  rcases cleanupPhotos_eq media run recapId with ⟨-, hafter⟩ | ⟨-, hafter⟩
  · rw [hafter]
  · rw [hafter]
    split
    · rfl
    · rfl

theorem mem_cleanupPhotos_objects {objectKey : String} :
    objectKey ∈ (media.cleanupPhotos run recapId).1.objects ↔
      objectKey ∈ media.objects ∧
        ∀ image ∈ run.reached (media.db.deletedPhotoImages recapId),
          (run.deletion image.id).takesEffect = true → objectKey ≠ image.objectKey := by
  rw [← mem_sweepImages_objects _ ⟨media.objects, [], false⟩]
  rcases cleanupPhotos_eq media run recapId with ⟨-, hafter⟩ | ⟨-, hafter⟩
  · rw [hafter]
  · rw [hafter]
    split
    · rfl
    · rfl

/-- A row goes exactly when the storage has deleted its object and the run commits. -/
theorem mem_cleanupPhotos_images {image : RecapImage} :
    image ∈ (media.cleanupPhotos run recapId).1.db.images.rows ↔
      image ∈ media.db.images.rows ∧
        ¬ (image ∈ media.db.deletedPhotoImages recapId ∧ image.objectKey ∈ media.objects ∧
          run.deletion image.id = .returns ∧
          run.Commits (media.db.deletedPhotoImages recapId)) := by
  rcases cleanupPhotos_eq media run recapId with ⟨herror, hafter⟩ | ⟨hnone, hafter⟩
  · rw [hafter]
    apply (and_iff_left _).symm
    rintro ⟨-, -, -, hcommits⟩
    rw [(sweepImages_error_eq_none _ _).mpr hcommits.1] at herror
    cases herror
  · rw [hafter]
    have hruns := (sweepImages_error_eq_none _ _).mp hnone
    by_cases hcommit : run.commit.takesEffect = true
    · rw [if_pos hcommit]
      simp only [deleteImages]
      rw [Table.mem_delete_iff, decide_eq_false_iff_not,
        mem_sweepImages_deletedImages _ _ _ (media.deletedKeys_nodup recapId) hruns]
      apply and_congr_right
      intro himage
      apply not_congr
      constructor
      · rintro (hnil | ⟨other, hother, hid, hdeleted, hpresent⟩)
        · cases hnil
        · have hsame : other = image :=
            Table.eq_of_key (mem_deletedPhotoImages.mp hother).1 himage hid
          subst hsame
          exact ⟨hother, hpresent, hdeleted, hruns, hcommit⟩
      · rintro ⟨hdeletedPhoto, hpresent, hdeleted, -⟩
        exact .inr ⟨image, hdeletedPhoto, rfl, hdeleted, hpresent⟩
    · rw [if_neg hcommit]
      apply (and_iff_left _).symm
      rintro ⟨-, -, -, hcommits⟩
      exact hcommit hcommits.2

theorem mem_deletedPhotoImages_cleanupPhotos {image : RecapImage} :
    image ∈ (media.cleanupPhotos run recapId).1.db.deletedPhotoImages recapId ↔
      image ∈ media.db.deletedPhotoImages recapId ∧
        ¬ (image.objectKey ∈ media.objects ∧ run.deletion image.id = .returns ∧
          run.Commits (media.db.deletedPhotoImages recapId)) := by
  have hphotos : ∀ photo, photo ∈ (media.cleanupPhotos run recapId).1.db.deletedPhotosFor recapId ↔
      photo ∈ media.db.deletedPhotosFor recapId := by
    intro photo
    rw [mem_deletedPhotosFor, mem_deletedPhotosFor, cleanupPhotos_photos]
  rw [mem_deletedPhotoImages, mem_cleanupPhotos_images]
  simp only [hphotos]
  rw [and_right_comm, ← mem_deletedPhotoImages]
  apply and_congr_right
  intro himage
  rw [and_iff_right himage]

theorem mem_of_mem_reached {image : RecapImage} {images : List RecapImage}
    (h : image ∈ run.reached images) : image ∈ images := by
  induction images with
  | nil => exact h
  | cons first images ih =>
      rw [CleanupRun.reached, List.mem_cons] at h
      rcases h with hfirst | hrest
      · exact hfirst ▸ List.mem_cons_self
      · by_cases hcrash : run.crashesAt first = true
        · rw [if_pos hcrash] at hrest
          cases hrest
        · rw [if_neg hcrash] at hrest
          exact List.mem_cons_of_mem first (ih hrest)

/-- The media are intact after a run exactly when they were before and the run loses no
deletion. -/
theorem intact_cleanupPhotos_iff : (media.cleanupPhotos run recapId).1.Intact recapId ↔
    media.Intact recapId ∧ ¬ run.LosesDeletion recapId media := by
  constructor
  · intro hintact
    have hbefore : media.Intact recapId := by
      intro image himage
      by_contra habsent
      have hkept : image ∈ (media.cleanupPhotos run recapId).1.db.deletedPhotoImages recapId :=
        mem_deletedPhotoImages_cleanupPhotos.mpr
          ⟨himage, fun hdeleted => habsent hdeleted.1⟩
      exact habsent (mem_cleanupPhotos_objects.mp (hintact image hkept)).1
    apply And.intro hbefore
    rintro ⟨image, hreached, hpresent, heffect, hlost⟩
    have hkept := mem_deletedPhotoImages_cleanupPhotos.mpr
      ⟨mem_of_mem_reached hreached, fun hdeleted => hlost hdeleted.2⟩
    exact (mem_cleanupPhotos_objects.mp (hintact image hkept)).2 image hreached heffect rfl
  · rintro ⟨hintact, hlosesNot⟩ image hafter
    obtain ⟨himage, hkept⟩ := mem_deletedPhotoImages_cleanupPhotos.mp hafter
    apply mem_cleanupPhotos_objects.mpr
    apply And.intro (hintact image himage)
    intro other hreached heffect hkey
    have hother := mem_of_mem_reached hreached
    have hsame : image = other := media.image_unique (mem_deletedPhotoImages.mp himage).1
      (mem_deletedPhotoImages.mp hother).1 hkey
    subst hsame
    apply hlosesNot
    exact ⟨image, hreached, hintact image himage, heffect,
      fun hdeleted => hkept ⟨hintact image himage, hdeleted⟩⟩

/-- An object which a photo owns that is not deleted outlives a run, and so does its owner. -/
theorem owned_cleanupPhotos {objectKey : String} (howned : media.Owned objectKey) :
    (media.cleanupPhotos run recapId).1.Owned objectKey ∧
      (objectKey ∈ media.objects →
        objectKey ∈ (media.cleanupPhotos run recapId).1.objects) := by
  obtain ⟨image, himage, hkey, photo, hphoto, howner, hactive⟩ := howned
  have hother : ∀ other ∈ media.db.deletedPhotoImages recapId, image ≠ other := by
    rintro other hdeleted rfl
    obtain ⟨deleted, hdeletedPhoto, hdeletedOwner⟩ := (mem_deletedPhotoImages.mp hdeleted).2
    rw [mem_deletedPhotosFor] at hdeletedPhoto
    have hsame : deleted = photo :=
      Table.eq_of_key hdeletedPhoto.1 hphoto (hdeletedOwner.symm.trans howner.symm)
    rw [hsame, hactive] at hdeletedPhoto
    exact Bool.false_ne_true hdeletedPhoto.2.2
  constructor
  · apply Exists.intro image
    refine ⟨mem_cleanupPhotos_images.mpr ⟨himage, ?_⟩, hkey, photo, ?_, howner, hactive⟩
    · intro hdeleted
      exact hother image hdeleted.1 rfl
    · rwa [cleanupPhotos_photos]
  · intro hpresent
    apply mem_cleanupPhotos_objects.mpr
    apply And.intro hpresent
    intro other hreached _ hsame
    have hdeleted := mem_of_mem_reached hreached
    exact hother other hdeleted
      (media.image_unique himage (mem_deletedPhotoImages.mp hdeleted).1 (hkey.trans hsame))

theorem owned_afterRuns (runs : List CleanupRun) {objectKey : String}
    (howned : media.Owned objectKey) (hpresent : objectKey ∈ media.objects) :
    objectKey ∈ (media.afterRuns recapId runs).objects := by
  induction runs generalizing media with
  | nil => exact hpresent
  | cons run runs ih =>
      have hnext := @owned_cleanupPhotos media run recapId objectKey howned
      exact ih hnext.1 (hnext.2 hpresent)

/-- The run invariant: intact media stay intact as long as no run loses a deletion. -/
theorem intact_afterRuns_iff (runs : List CleanupRun) :
    (media.afterRuns recapId runs).Intact recapId ↔
      media.Intact recapId ∧ LosesNothing recapId runs media := by
  induction runs generalizing media with
  | nil => simp [afterRuns, LosesNothing]
  | cons run runs ih =>
      have hrest := @ih (media.cleanupPhotos run recapId).1
      rw [intact_cleanupPhotos_iff, and_assoc] at hrest
      exact hrest

theorem commits_working (images : List RecapImage) : CleanupRun.working.Commits images :=
  ⟨fun _ _ => rfl, rfl⟩

/-- With working storage a row stays exactly when its object is missing. -/
theorem mem_deletedPhotoImages_working {image : RecapImage} :
    image ∈ (media.cleanupPhotos .working recapId).1.db.deletedPhotoImages recapId ↔
      image ∈ media.db.deletedPhotoImages recapId ∧ image.objectKey ∉ media.objects := by
  rw [mem_deletedPhotoImages_cleanupPhotos]
  apply and_congr_right
  intro _
  apply not_congr
  exact and_iff_left ⟨rfl, commits_working _⟩

theorem reports_nothing (h : media.db.deletedPhotoImages recapId = []) :
    (media.cleanupPhotos .working recapId).2 = .ok false := by
  simp only [cleanupPhotos, sweepPhotos_eq]
  rw [← RecapDatabase.deletedPhotoImages, h]
  rfl

/-- Working runs leave nothing once nothing is left. -/
theorem afterRuns_working_nil (count : Nat) (h : media.db.deletedPhotoImages recapId = []) :
    (media.afterRuns recapId (List.replicate count .working)).db.deletedPhotoImages recapId =
      [] := by
  induction count generalizing media with
  | zero => exact h
  | succ count ih =>
      apply ih
      apply List.eq_nil_iff_forall_not_mem.mpr
      intro image himage
      rw [mem_deletedPhotoImages_working, h] at himage
      cases himage.1

/-- A row whose object is missing stays whatever working runs follow. -/
theorem mem_afterRuns_working (count : Nat) {image : RecapImage}
    (himage : image ∈ media.db.deletedPhotoImages recapId)
    (habsent : image.objectKey ∉ media.objects) :
    image ∈ (media.afterRuns recapId
      (List.replicate count .working)).db.deletedPhotoImages recapId := by
  induction count generalizing media with
  | zero => exact himage
  | succ count ih =>
      apply ih
      · exact mem_deletedPhotoImages_working.mpr ⟨himage, habsent⟩
      · intro hpresent
        exact habsent (mem_cleanupPhotos_objects.mp hpresent).1

theorem converges_iff : media.Converges recapId ↔ media.Intact recapId := by
  constructor
  · rintro ⟨enough, hfinally⟩ image himage
    by_contra habsent
    have hstays := mem_afterRuns_working enough himage habsent
    rw [(hfinally enough le_rfl).1] at hstays
    cases hstays
  · intro hintact
    apply Exists.intro 1
    intro count hcount
    obtain ⟨more, rfl⟩ := Nat.exists_eq_add_of_le hcount
    have hnil : (media.afterRuns recapId
        (List.replicate (1 + more) .working)).db.deletedPhotoImages recapId = [] := by
      rw [Nat.add_comm, List.replicate_succ]
      apply @afterRuns_working_nil (media.cleanupPhotos .working recapId).1
      apply List.eq_nil_iff_forall_not_mem.mpr
      intro image himage
      obtain ⟨hbefore, habsent⟩ := mem_deletedPhotoImages_working.mp himage
      exact habsent (hintact image hbefore)
    exact ⟨hnil, reports_nothing hnil⟩

end RecapMedia

/-- After earlier runs the cleanup converges, and no run has deleted or will delete an object of
a photo which is not deleted. -/
structure CleanupConverges (recapId : Nat) (earlier : List CleanupRun) (media : RecapMedia) :
    Prop where
  converges : (media.afterRuns recapId earlier).Converges recapId
  owned : ∀ objectKey ∈ media.objects, media.Owned objectKey → ∀ count,
    objectKey ∈ (media.afterRuns recapId
      (earlier ++ List.replicate count .working)).objects

/-- The cleanup converges exactly when each image of a deleted photo has its object at first
and no earlier run loses a deletion. -/
theorem cleanup_converges_iff (recapId : Nat) (earlier : List CleanupRun) (media : RecapMedia) :
    CleanupConverges recapId earlier media ↔
      media.Intact recapId ∧ LosesNothing recapId earlier media := by
  constructor
  · intro hconverges
    exact (media.intact_afterRuns_iff earlier).mp
      (RecapMedia.converges_iff.mp hconverges.converges)
  · intro hintact
    constructor
    · exact RecapMedia.converges_iff.mpr ((media.intact_afterRuns_iff earlier).mpr hintact)
    · intro objectKey hpresent howned count
      exact media.owned_afterRuns _ howned hpresent

def recapWithoutPhotos : Recap where
  relatedEventId := none
  titleEn := none
  titleDe := none
  summaryEn := none
  summaryDe := none
  editorialEn := none
  editorialDe := none
  eventDate := none
  id := 1
  status := .draft
  version := 3
  thumbnailId := none
  firstPublishedAt := none
  createdBy := 1
  updatedBy := 1
  deletedAt := none

def deletedPhoto : RecapPhoto where
  id := 1
  recapId := 1
  uploadId := 1
  fingerprint := ""
  altEn := ""
  altDe := ""
  captionEn := none
  captionDe := none
  sortOrder := 0
  deletedAt := some 1

/-- The media of a deleted photo before its cleanup. -/
def deletedPhotoMedia : RecapMedia where
  db := {
    recaps := ⟨[recapWithoutPhotos], by decide⟩
    photos := ⟨[deletedPhoto], by decide⟩
    images := ⟨[⟨1, 1, "thumbnail.webp", .thumbnail⟩, ⟨2, 1, "display.webp", .display⟩],
      by decide⟩
    cleanups := .empty
    events := .empty
    eventMediaKeys := [] }
  objects := ["thumbnail.webp", "display.webp"]
  objectKeys := by decide

/-- The storage deletes each object, and then the commit fails. -/
def uncommittedRun : CleanupRun := ⟨fun _ => .returns, .failsBefore .exception⟩

/-- After a run without its commit no cleanup succeeds any more. -/
theorem not_cleanup_converges_uncommittedRun :
    ¬ ∀ (recapId : Nat) (earlier : List CleanupRun) (media : RecapMedia),
      media.Intact recapId → CleanupConverges recapId earlier media := by
  intro hconverges
  obtain ⟨enough, hfinally⟩ :=
    (hconverges 1 [uncommittedRun] deletedPhotoMedia (by decide +kernel)).converges
  have hstays := @RecapMedia.mem_afterRuns_working
    (deletedPhotoMedia.afterRuns 1 [uncommittedRun]) 1 enough
    ⟨1, 1, "thumbnail.webp", .thumbnail⟩ (by decide +kernel) (by decide +kernel)
  rw [(hfinally enough le_rfl).1] at hstays
  cases hstays

end BuddyWeb
