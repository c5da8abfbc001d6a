/-
What the recap endpoints stage under the lock of a recap: contents, photos, deletions, status
transitions, and the evictions which a publication brings.
-/
import BuddyWeb.Recap.Records

namespace BuddyWeb

/-- Why a recap request fails: an HTTP error, or a constraint of the tables. -/
inductive RecapError
  | http (code : Nat) (message : String)
  | integrity
  deriving DecidableEq, Repr

/-- How many published recaps a publication leaves. -/
def maxPublishedRecaps : Nat := 9

def maxRecapPhotos : Nat := 12

/-- `value or None`. -/
def RecapContent.stored (content : RecapContent) : RecapContent where
  relatedEventId := content.relatedEventId
  titleEn := content.titleEn.filter (· ≠ "")
  titleDe := content.titleDe.filter (· ≠ "")
  summaryEn := content.summaryEn.filter (· ≠ "")
  summaryDe := content.summaryDe.filter (· ≠ "")
  editorialEn := content.editorialEn.filter (· ≠ "")
  editorialDe := content.editorialDe.filter (· ≠ "")
  eventDate := content.eventDate

structure PhotoEdit where
  id : Nat
  altEn : String
  altDe : String
  captionEn : Option String
  captionDe : Option String
  deriving DecidableEq, Repr

structure PhotoOrderUpdate where
  version : Nat
  photos : List PhotoEdit
  thumbnailId : Option Nat
  photos_le : photos.length ≤ maxRecapPhotos
  deriving DecidableEq, Repr

/-- A derivative of an uploaded photo, under the identifiers drawn for it. -/
structure PreparedImage where
  id : Nat
  objectKey : String
  variant : RecapVariant
  deriving DecidableEq, Repr

structure PhotoUpload where
  photoId : Nat
  uploadId : Nat
  version : Nat
  fingerprint : String
  altEn : String
  altDe : String
  derivatives : List PreparedImage
  deriving DecidableEq, Repr

structure RecapStatusUpdate where
  actor : Nat
  recapId : Nat
  version : Nat
  status : RecapStatus

namespace Recap

def requireVersion (recap : Recap) (version : Nat) : Except RecapError PUnit :=
  ensure (recap.version = version) (.http 409 "Recap version is stale.")

def touch (recap : Recap) (actor : Nat) : Recap :=
  { recap with version := recap.version + 1, updatedBy := actor }

/-- The row after a transition.  The publication clock is read for the first publication
only. -/
def transition (recap : Recap) (status : RecapStatus) (actor : Nat) (now : Int) : Recap :=
  if recap.status = status then recap
  else
    { recap.touch actor with
      status := status
      firstPublishedAt :=
        if status = .published ∧ recap.firstPublishedAt = none then some now
        else recap.firstPublishedAt }

end Recap

section Checks

variable (db : RecapDatabase)

def getRecap (recapId : Nat) : Except RecapError Recap :=
  require (db.recaps.select? fun recap => recap.id = recapId && recap.deletedAt.isNone)
    (.http 404 "Recap not found.")

def validateRelated (eventId : Option Nat) : Except RecapError PUnit :=
  ensure (∀ id ∈ eventId, ∃ event ∈ db.events.rows, event.id = id ∧ event.deletedAt = none)
    (.http 422 "Related Event is unavailable.")

def hasText (text : Option String) : Bool :=
  text.any fun value => value ≠ "" && pyStrip value ≠ ""

/-- The event is shown to everybody. -/
def Event.isShown (event : Event) : Bool :=
  event.deletedAt.isNone && event.visibility = .toPublic &&
    (event.status = .published || event.status = .cancelled) && event.publishedAt.isSome

def validatePublication (recap : Recap) : Except RecapError PUnit := do
  ensure (hasText recap.titleEn && hasText recap.titleDe && hasText recap.summaryEn &&
      hasText recap.summaryDe)
    (.http 422 "Publishing requires localized titles and summaries.")
  let photos := db.photosFor recap.id
  ensure ((1 ≤ photos.length ∧ photos.length ≤ maxRecapPhotos) ∧
      ∀ photo ∈ photos, pyStrip photo.altEn ≠ "" ∧ pyStrip photo.altDe ≠ "")
    (.http 422 "Publishing requires 1–12 photos with EN/DE alt text.")
  let images := db.images.rows.filter fun image => photos.any (·.id = image.photoId)
  ensure (images.length = photos.length * 2) (.http 422 "Photos are incomplete.")
  ensure (∀ eventId ∈ recap.relatedEventId,
      (db.events.get? eventId).any (·.isShown) = true)
    (.http 422 "Related Event must be published and PUBLIC.")

/-- Flushed rows; a published recap must stay publishable. -/
def flushRecap (writes : RecapWrites) (recap : Recap) : Except RecapError RecapWrites := do
  let view ← require (writes.applyTo db) .integrity
  if recap.status = .published then
    validatePublication view recap
  return writes

end Checks

section Mutations

variable (db : RecapDatabase)

/-- `save_content` for a new recap. -/
def createContent (actor newId : Nat) (content : RecapContent) :
    Except RecapError RecapWrites := do
  validateRelated db content.relatedEventId
  let recap : Recap := { content.stored with
    id := newId
    status := .draft
    version := 1
    thumbnailId := none
    firstPublishedAt := none
    createdBy := actor
    updatedBy := actor
    deletedAt := none }
  flushRecap db { created := some recap } recap

/-- `save_content` for a loaded recap. -/
def saveContent (actor version : Nat) (content : RecapContent) (recap : Recap) :
    Except RecapError RecapWrites := do
  recap.requireVersion version
  validateRelated db content.relatedEventId
  let row := { recap.touch actor with toRecapContent := content.stored }
  flushRecap db { updated := some row } row

def PhotoEdit.applyTo (edit : PhotoEdit) (index : Nat) (photo : RecapPhoto) : RecapPhoto :=
  { photo with
    sortOrder := index
    altEn := edit.altEn
    altDe := edit.altDe
    captionEn := edit.captionEn
    captionDe := edit.captionDe }

def savePhotos (actor : Nat) (payload : PhotoOrderUpdate) (recap : Recap) :
    Except RecapError RecapWrites := do
  recap.requireVersion payload.version
  let photos := db.photosFor recap.id
  let owned := photos.map (·.id)
  let incoming := payload.photos.map (·.id)
  ensure (incoming.Nodup ∧ ((∀ id ∈ incoming, id ∈ owned) ∧ ∀ id ∈ owned, id ∈ incoming) ∧
      ∀ thumbnailId ∈ payload.thumbnailId, thumbnailId ∈ owned)
    (.http 422 "Photo order or thumbnail ownership is invalid.")
  let edited := payload.photos.zipIdx.filterMap fun (edit, index) =>
    (photos.find? (·.id = edit.id)).map (edit.applyTo index)
  let row := { recap.touch actor with thumbnailId := payload.thumbnailId }
  flushRecap db { updated := some row, photos := edited } row

/-- A repeated upload changes nothing; a new one adds a photo with its images. -/
def uploadPhoto (actor : Nat) (upload : PhotoUpload) (recap : Recap) :
    Except RecapError RecapWrites :=
  match db.photos.select? fun photo =>
      photo.recapId = recap.id && photo.uploadId = upload.uploadId with
  | some previous => do
      ensure (previous.fingerprint = upload.fingerprint ∧ previous.deletedAt = none)
        (.http 409 "Upload identifier was already used.")
      return {}
  | none => do
      recap.requireVersion upload.version
      let photos := db.photosFor recap.id
      ensure (photos.length < maxRecapPhotos)
        (.http 422 "A recap supports at most 12 photos.")
      let photo : RecapPhoto := {
        id := upload.photoId
        recapId := recap.id
        uploadId := upload.uploadId
        fingerprint := upload.fingerprint
        altEn := upload.altEn
        altDe := upload.altDe
        captionEn := none
        captionDe := none
        sortOrder := photos.length
        deletedAt := none }
      let row := recap.touch actor
      flushRecap db {
        updated := some row
        photo := some photo
        images := upload.derivatives.map fun derivative =>
          ⟨derivative.id, photo.id, derivative.objectKey, derivative.variant⟩ } row

/-- Delete a photo, or without one the recap.  The flag tells that the thumbnail changes. -/
def markDeleted (actor : Nat) (recap : Recap) (photoId : Option Nat) (now : Int) :
    Except RecapError (Bool × RecapWrites) := do
  let photos := db.photosFor recap.id
  ensure (∀ id ∈ photoId, id ∈ photos.map (·.id)) (.http 404 "Photo not found.")
  let remaining := if photoId.isSome then photos.filter fun photo => photoId ≠ some photo.id
    else []
  ensure (¬ (photoId.isSome ∧ recap.status = .published ∧ remaining = []))
    (.http 422 "Unpublish before removing the last photo.")
  let changed := recap.thumbnailId = photoId ||
    photoId.isSome && recap.thumbnailId.isNone && photos.head?.map (·.id) = photoId
  let gone := if photoId.isNone then
      { recap with deletedAt := some now, status := RecapStatus.archived }
    else recap
  let row := { gone.touch actor with
    thumbnailId := recap.thumbnailId.filter fun id => id ∈ remaining.map (·.id) }
  let deleted := (photos.filter fun photo => photoId.isNone || photoId = some photo.id).map
    fun photo => { photo with deletedAt := some now }
  let ordered := remaining.zipIdx.map fun (photo, index) => { photo with sortOrder := index }
  return (changed, { updated := some row, photos := deleted ++ ordered })

def deletePhoto (actor version photoId : Nat) (recap : Recap) (now : Int) :
    Except RecapError RecapWrites := do
  recap.requireVersion version
  let (_, writes) ← markDeleted db actor recap (some photoId) now
  return writes

def deleteRecap (actor version : Nat) (recap : Recap) (now : Int) :
    Except RecapError RecapWrites := do
  recap.requireVersion version
  let (_, writes) ← markDeleted db actor recap none now
  return writes

end Mutations

section Publication

variable (db : RecapDatabase)

/-- A status transition up to its flush. -/
def statusRecap (update : RecapStatusUpdate) (recap : Recap) (now : Int) :
    Except RecapError Recap := do
  recap.requireVersion update.version
  if update.status = .published then
    validatePublication db recap
  return recap.transition update.status update.actor now

/-- One turn of the loop of `evict_overflow`: a deletion is queued for each image of an evicted
recap, whose row then goes with its photos and images. -/
def RecapWrites.evict (writes : RecapWrites) (jobId : String → Nat) (old : Recap) :
    RecapWrites :=
  { writes with
    jobs := writes.jobs ++ (db.imagesFor old.id).map fun image =>
      ⟨jobId image.objectKey, old.id, image.objectKey⟩
    evicted := writes.evicted ++ [old.id] }

/-- The object still has another owner in its bucket. -/
def RecapDatabase.ownsObject (objectKey : String) : Bool :=
  db.images.rows.any (·.objectKey = objectKey) || db.eventMediaKeys.contains objectKey

end Publication

end BuddyWeb
