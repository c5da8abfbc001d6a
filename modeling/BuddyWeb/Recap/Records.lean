/-
Recaps with their photos, the stored images of a photo and the queued deletions of media, and
the rows which a transaction stages.
-/
import Mathlib.Data.Int.ConditionallyCompleteOrder
import Mathlib.Order.ConditionallyCompleteLattice.Basic
import Mathlib.Data.Prod.Lex
import Mathlib.Data.List.Sort
import Mathlib.Order.WithBot
import BuddyWeb.Lib.Outcome
import BuddyWeb.Lib.PyText
import BuddyWeb.Lib.Table

namespace BuddyWeb

inductive RecapStatus
  | draft
  | published
  | archived
  deriving DecidableEq, Repr

/-- The editable texts and links of a recap. -/
structure RecapContent where
  relatedEventId : Option Nat
  titleEn : Option String
  titleDe : Option String
  summaryEn : Option String
  summaryDe : Option String
  editorialEn : Option String
  editorialDe : Option String
  eventDate : Option Int
  deriving DecidableEq, Repr

structure Recap extends RecapContent where
  id : Nat
  status : RecapStatus
  version : Nat
  thumbnailId : Option Nat
  firstPublishedAt : Option Int
  createdBy : Nat
  updatedBy : Nat
  deletedAt : Option Int
  deriving DecidableEq, Repr

structure RecapPhoto where
  id : Nat
  recapId : Nat
  uploadId : Nat
  fingerprint : String
  altEn : String
  altDe : String
  captionEn : Option String
  captionDe : Option String
  sortOrder : Nat
  deletedAt : Option Int
  deriving DecidableEq, Repr

inductive RecapVariant
  | thumbnail
  | display
  deriving DecidableEq, Repr

structure RecapImage where
  id : Nat
  photoId : Nat
  objectKey : String
  variant : RecapVariant
  deriving DecidableEq, Repr

/-- A queued deletion, which survives the rows of its recap. -/
structure RecapMediaCleanup where
  id : Nat
  recapId : Nat
  objectKey : String
  deriving DecidableEq, Repr

inductive EventVisibility
  | toPublic
  | toMembers
  deriving DecidableEq, Repr

inductive EventStatus
  | draft
  | published
  | cancelled
  deriving DecidableEq, Repr

/-- An event, as far as recaps look at it. -/
structure Event where
  id : Nat
  visibility : EventVisibility
  status : EventStatus
  publishedAt : Option Int
  deletedAt : Option Int
  deriving DecidableEq, Repr

instance : Keyed Recap := ⟨Recap.id⟩

instance : Keyed RecapPhoto := ⟨RecapPhoto.id⟩

instance : Keyed RecapImage := ⟨RecapImage.id⟩

instance : Keyed RecapMediaCleanup := ⟨RecapMediaCleanup.id⟩

instance : Keyed Event := ⟨Event.id⟩

/-- The tables of the recaps, with the events and the object keys of event media beside
them. -/
structure RecapDatabase where
  recaps : Table Recap
  photos : Table RecapPhoto
  images : Table RecapImage
  cleanups : Table RecapMediaCleanup
  events : Table Event
  eventMediaKeys : List String

namespace Recap

/-- The recap counts for the retention. -/
def isPublished (recap : Recap) : Bool :=
  recap.status = .published && recap.deletedAt.isNone

/-- `first_published_at` and then the identifier; a null sorts above every instant. -/
def rankKey (recap : Recap) : WithTop Int ×ₗ Nat :=
  toLex ((recap.firstPublishedAt : WithTop Int), recap.id)

/-- The recap comes before another one when the greatest comes first. -/
def Outranks (first second : Recap) : Prop :=
  second.rankKey < first.rankKey

instance : DecidableRel Outranks := fun first second =>
  inferInstanceAs (Decidable (second.rankKey < first.rankKey))

end Recap

def publishedRecaps (recaps : Table Recap) : List Recap :=
  recaps.rows.filter (·.isPublished)

/-- The published recaps, the greatest first. -/
def rankedRecaps (recaps : Table Recap) : List Recap :=
  (publishedRecaps recaps).insertionSort fun first second => second.rankKey ≤ first.rankKey

namespace RecapDatabase

variable (db : RecapDatabase)

/-- The photos of a recap in their order, deleted ones too. -/
def allPhotosFor (recapId : Nat) : List RecapPhoto :=
  (db.photos.rows.filter (·.recapId = recapId)).insertionSort fun first second =>
    first.sortOrder < second.sortOrder ∨
      first.sortOrder = second.sortOrder ∧ first.id ≤ second.id

def photosFor (recapId : Nat) : List RecapPhoto :=
  (db.allPhotosFor recapId).filter (·.deletedAt.isNone)

/-- The images of a recap, through its photos. -/
def imagesFor (recapId : Nat) : List RecapImage :=
  db.images.rows.filter fun image =>
    db.photos.rows.any fun photo => photo.id = image.photoId && photo.recapId = recapId

/-- The unique constraints, and the references between recaps, photos and images. -/
structure KeepsConstraints : Prop where
  imageKeys : (db.images.rows.map (·.objectKey)).Nodup
  cleanupKeys : (db.cleanups.rows.map (·.objectKey)).Nodup
  variants : (db.images.rows.map fun image => (image.photoId, image.variant)).Nodup
  uploads : (db.photos.rows.map fun photo => (photo.recapId, photo.uploadId)).Nodup
  photoOwners : ∀ photo ∈ db.photos.rows, ∃ recap ∈ db.recaps.rows, recap.id = photo.recapId
  imageOwners : ∀ image ∈ db.images.rows, ∃ photo ∈ db.photos.rows, photo.id = image.photoId
  thumbnails : ∀ recap ∈ db.recaps.rows, ∀ thumbnailId ∈ recap.thumbnailId,
    ∃ photo ∈ db.photos.rows, photo.id = thumbnailId ∧ photo.recapId = recap.id

instance : Decidable db.KeepsConstraints :=
  decidable_of_iff
    ((db.images.rows.map (·.objectKey)).Nodup ∧ (db.cleanups.rows.map (·.objectKey)).Nodup ∧
      (db.images.rows.map fun image => (image.photoId, image.variant)).Nodup ∧
      (db.photos.rows.map fun photo => (photo.recapId, photo.uploadId)).Nodup ∧
      (∀ photo ∈ db.photos.rows, ∃ recap ∈ db.recaps.rows, recap.id = photo.recapId) ∧
      (∀ image ∈ db.images.rows, ∃ photo ∈ db.photos.rows, photo.id = image.photoId) ∧
      ∀ recap ∈ db.recaps.rows, ∀ thumbnailId ∈ recap.thumbnailId,
        ∃ photo ∈ db.photos.rows, photo.id = thumbnailId ∧ photo.recapId = recap.id)
    ⟨fun ⟨imageKeys, cleanupKeys, variants, uploads, photoOwners, imageOwners, thumbnails⟩ =>
      ⟨imageKeys, cleanupKeys, variants, uploads, photoOwners, imageOwners, thumbnails⟩,
    fun h => ⟨h.imageKeys, h.cleanupKeys, h.variants, h.uploads, h.photoOwners, h.imageOwners,
      h.thumbnails⟩⟩

end RecapDatabase

/-- The rows which a transaction has flushed and not yet committed. -/
structure RecapWrites where
  created : Option Recap := none
  updated : Option Recap := none
  photos : List RecapPhoto := []
  photo : Option RecapPhoto := none
  images : List RecapImage := []
  jobs : List RecapMediaCleanup := []
  evicted : List Nat := []
  deletedImages : List Nat := []
  deriving DecidableEq, Repr

namespace RecapWrites

variable (writes : RecapWrites)

/-- The recaps with the new versions and the created row. -/
def storedRecaps (recaps : Table Recap) : Option (Table Recap) :=
  (writes.updated.toList.foldl Table.put recaps).insertAll? writes.created.toList

def storedPhotos (photos : Table RecapPhoto) : Option (Table RecapPhoto) :=
  (writes.photos.foldl Table.put photos).insertAll? writes.photo.toList

/-- The tables after the flush.  Deleting a recap takes its photos and their images along. -/
def applyTo (db : RecapDatabase) : Option RecapDatabase := do
  let recaps ← writes.storedRecaps db.recaps
  let photos ← writes.storedPhotos db.photos
  let images ← db.images.insertAll? writes.images
  let cleanups ← db.cleanups.insertAll? writes.jobs
  let after : RecapDatabase := { db with
    recaps := recaps.delete fun recap => recap.id ∈ writes.evicted
    photos := photos.delete fun photo => photo.recapId ∈ writes.evicted
    images := images.delete fun image => image.id ∈ writes.deletedImages ||
      photos.rows.any fun photo => photo.id = image.photoId && photo.recapId ∈ writes.evicted
    cleanups := cleanups }
  if after.KeepsConstraints then some after else none

end RecapWrites

end BuddyWeb
