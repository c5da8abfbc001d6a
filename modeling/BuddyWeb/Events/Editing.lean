/-
Events and their covers as administrators edit them: drafts, publication, cancellation and
deletion, each one transaction which locks its event.
-/
import BuddyWeb.Accounts
import BuddyWeb.Lib.Outcome
import BuddyWeb.Lib.PyText
import BuddyWeb.Recap.Records

namespace BuddyWeb

inductive EventMediaUsage
  | eventCover
  | recapCover
  | recapGallery
  deriving DecidableEq, Repr

inductive EventMediaProcessingStatus
  | ready
  | failed
  deriving DecidableEq, Repr

/-- The fields which administrators edit; the instants are counted in microseconds. -/
structure EventContent where
  titleEn : Option String
  titleDe : Option String
  descriptionEn : Option String
  descriptionDe : Option String
  startDate : Option Int
  endDate : Option Int
  timezone : String
  locationEn : Option String
  locationDe : Option String
  category : Option String
  organizer : Option String
  registrationUrl : Option String
  registrationEnabled : Bool
  maxParticipants : Option Nat
  registrationDeadline : Option Int
  deriving DecidableEq, Repr

structure EventRow extends EventContent where
  id : Nat
  coverMediaId : Option Nat
  status : EventStatus
  visibility : EventVisibility
  createdBy : Nat
  updatedBy : Nat
  publishedAt : Option Int
  version : Nat
  deletedAt : Option Int
  deriving DecidableEq, Repr

structure EventMediaRow where
  id : Nat
  eventId : Nat
  objectKey : String
  usage : EventMediaUsage
  altEn : String
  altDe : String
  mimeType : String
  width : Nat
  height : Nat
  sortOrder : Nat
  processingStatus : EventMediaProcessingStatus
  deletedAt : Option Int
  deriving DecidableEq, Repr

instance : Keyed EventRow := ⟨EventRow.id⟩

instance : Keyed EventMediaRow := ⟨EventMediaRow.id⟩

structure EventDb where
  events : Table EventRow
  media : Table EventMediaRow

/-- What a request supplies of the content; a field which it leaves out is `none`. -/
structure EventChanges where
  titleEn : Option (Option String) := none
  titleDe : Option (Option String) := none
  descriptionEn : Option (Option String) := none
  descriptionDe : Option (Option String) := none
  startDate : Option (Option Int) := none
  endDate : Option (Option Int) := none
  timezone : Option String := none
  locationEn : Option (Option String) := none
  locationDe : Option (Option String) := none
  category : Option (Option String) := none
  organizer : Option (Option String) := none
  registrationUrl : Option (Option String) := none
  registrationEnabled : Option Bool := none
  maxParticipants : Option (Option Nat) := none
  registrationDeadline : Option (Option Int) := none
  coverMediaId : Option (Option Nat) := none

inductive EventError
  | access
  | notFound
  | versionConflict
  | validation (message : String)
  | dependencyConflict (message : String)
  | mediaNotFound
  | mediaConflict (message : String)
  /-- A row which its table does not take. -/
  | integrity
  deriving DecidableEq, Repr

namespace Events

section Checks

def requireAdmin (actor : User) : Except EventError Unit :=
  ensure (actor.role = .admin ∧ actor.isActive ∧ actor.deletedAt = none) .access

def lockedEvent (db : EventDb) (eventId : Nat) : Except EventError EventRow :=
  require (db.events.select? fun event => event.id == eventId && event.deletedAt.isNone)
    .notFound

def requireVersion (event : EventRow) (version : Nat) : Except EventError Unit :=
  ensure (event.version = version) .versionConflict

/-- The value of a field after the request: supplied, or as it is stored. -/
def effective {α : Type} (supplied : Option α) (stored : α) : α :=
  supplied.getD stored

/-- The event with what a request supplies. -/
def applyTo (changes : EventChanges) (event : EventRow) : EventRow :=
  { event with
    titleEn := effective changes.titleEn event.titleEn
    titleDe := effective changes.titleDe event.titleDe
    descriptionEn := effective changes.descriptionEn event.descriptionEn
    descriptionDe := effective changes.descriptionDe event.descriptionDe
    startDate := effective changes.startDate event.startDate
    endDate := effective changes.endDate event.endDate
    timezone := effective changes.timezone event.timezone
    locationEn := effective changes.locationEn event.locationEn
    locationDe := effective changes.locationDe event.locationDe
    category := effective changes.category event.category
    organizer := effective changes.organizer event.organizer
    registrationUrl := effective changes.registrationUrl event.registrationUrl
    registrationEnabled := effective changes.registrationEnabled event.registrationEnabled
    maxParticipants := effective changes.maxParticipants event.maxParticipants
    registrationDeadline := effective changes.registrationDeadline event.registrationDeadline
    coverMediaId := effective changes.coverMediaId event.coverMediaId }

/-- Both instants are there and the first is not before the second. -/
def notBefore (first second : Option Int) : Bool :=
  match first, second with
  | some first, some second => second ≤ first
  | _, _ => false

def isAfter (first second : Option Int) : Bool :=
  match first, second with
  | some first, some second => second < first
  | _, _ => false

/-- The schedule of an event as a request leaves it. -/
def validateSchedule (event : EventRow) : Except EventError Unit := do
  ensure (notBefore event.startDate event.endDate = false)
    (.validation "Event end date must be later than start date.")
  ensure (isAfter event.registrationDeadline event.startDate = false)
    (.validation "Registration deadline cannot be after the event start date.")

def isReadyCoverOf (media : EventMediaRow) (eventId coverMediaId : Nat) : Bool :=
  media.id == coverMediaId && media.eventId == eventId && media.usage == .eventCover &&
    media.processingStatus == .ready && media.deletedAt.isNone

def validateCover (db : EventDb) (eventId coverMediaId : Nat) : Except EventError Unit :=
  ensure (db.media.select? (isReadyCoverOf · eventId coverMediaId) ≠ none)
    (.validation "Event cover is invalid or not ready.")

def hasText (value : Option String) : Bool :=
  match value with
  | some text => pyStrip text != ""
  | none => false

/-- An event as a request leaves it may be published. -/
def validatePublishable (db : EventDb) (event : EventRow) : Except EventError Unit := do
  ensure (hasText event.titleEn ∧ hasText event.titleDe ∧ hasText event.descriptionEn ∧
      hasText event.descriptionDe)
    (.validation "Event publication fields are incomplete.")
  validateSchedule event
  match event.coverMediaId with
  | none => throw (.validation "Event publication requires a cover.")
  | some coverMediaId => validateCover db event.id coverMediaId

end Checks

section Services

/-- What the recaps and the registrations of an event say about its mutation. -/
structure Dependencies where
  publishedRecapBoundary : Option Int
  activeRegistration : Bool
  deriving DecidableEq, Repr

variable (db : EventDb) (actor : User)

def createEventDraft (id : Nat) (draft : EventContent) : Except EventError EventDb := do
  requireAdmin actor
  let event : EventRow :=
    { toEventContent := draft, id, coverMediaId := none, status := .draft,
      visibility := .toPublic, createdBy := actor.id, updatedBy := actor.id,
      publishedAt := none, version := 1, deletedAt := none }
  validateSchedule event
  let events ← require (db.events.insert? event) .integrity
  pure { db with events }

def validateRecapBoundary (event : EventRow) (changes : EventChanges)
    (dependencies : Dependencies) : Except EventError Unit :=
  if changes.startDate = none ∧ changes.endDate = none then .ok ()
  else
    match dependencies.publishedRecapBoundary with
    | none => .ok ()
    | some boundary =>
        ensure (∃ endDate, (applyTo changes event).endDate = some endDate ∧
            endDate ≤ boundary)
          (.dependencyConflict
            "Unpublish the Event recap before moving the Event beyond its recap boundary.")

/-- A cover which a request supplies is ready and belongs to the event. -/
def validateSuppliedCover (event : EventRow) (changes : EventChanges) :
    Except EventError Unit :=
  match changes.coverMediaId with
  | some (some coverMediaId) => validateCover db event.id coverMediaId
  | _ => .ok ()

def remainsPubliclyPublished (event : EventRow) : Bool :=
  event.status == .published || (event.status == .cancelled && event.publishedAt.isSome)

def validateRemainsPublishable (event changed : EventRow) : Except EventError Unit :=
  if remainsPubliclyPublished event then validatePublishable db changed else .ok ()

/-- The event after a mutation, which counts in its version. -/
def touchedBy (actor : User) (event : EventRow) : EventRow :=
  { event with updatedBy := actor.id, version := event.version + 1 }

def updateEventDraft (eventId version : Nat) (changes : EventChanges)
    (dependencies : Dependencies) : Except EventError EventDb := do
  requireAdmin actor
  let event ← lockedEvent db eventId
  requireVersion event version
  let changed := applyTo changes event
  validateSchedule changed
  validateRecapBoundary event changes dependencies
  validateSuppliedCover db event changes
  validateRemainsPublishable db event changed
  pure { db with events := db.events.put (touchedBy actor changed) }

/-- The event in another status; the first publication gives it its instant. -/
def withStatus (event : EventRow) (status : EventStatus) (now : Int) : EventRow :=
  match status with
  | .published =>
      { event with
        status, publishedAt := some (event.publishedAt.getD now), visibility := .toPublic }
  | .cancelled => { event with status, registrationEnabled := false }
  | .draft => { event with status }

def validatePublication (event : EventRow) (status : EventStatus) : Except EventError Unit :=
  if status = .published then validatePublishable db event else .ok ()

def setEventStatus (eventId version : Nat) (status : EventStatus) (now : Int) :
    Except EventError EventDb := do
  requireAdmin actor
  let event ← lockedEvent db eventId
  requireVersion event version
  if event.status = status then pure db
  else
    validatePublication db event status
    pure { db with events := db.events.put (touchedBy actor (withStatus event status now)) }

/-- The row goes, and its media with it. -/
def deleteEvent (eventId version : Nat) (dependencies : Dependencies) :
    Except EventError EventDb := do
  requireAdmin actor
  let event ← lockedEvent db eventId
  requireVersion event version
  ensure (dependencies.publishedRecapBoundary = none)
    (.dependencyConflict "Published Event recap must be unpublished before deletion.")
  ensure (dependencies.activeRegistration = false)
    (.dependencyConflict "Active Event registrations must be resolved before deletion.")
  pure
    { events := db.events.delete fun row => row.id == event.id
      media := db.media.delete fun media => media.eventId == event.id }

def activeMedia (eventId mediaId : Nat) : Option EventMediaRow :=
  db.media.select? fun media =>
    media.id == mediaId && media.eventId == eventId && media.deletedAt.isNone

/-- What the storage says of an uploaded image, and the texts of the request. -/
structure UploadedCover where
  objectKey : String
  mimeType : String
  width : Nat
  height : Nat
  altEn : String
  altDe : String
  deriving DecidableEq, Repr

def stageEventCoverReplacement (eventId version mediaId : Nat) (uploaded : UploadedCover) :
    Except EventError EventDb := do
  requireAdmin actor
  let event ← lockedEvent db eventId
  requireVersion event version
  let previous := event.coverMediaId.bind (activeMedia db event.id)
  let media : EventMediaRow :=
    { id := mediaId, eventId := event.id, objectKey := uploaded.objectKey,
      usage := .eventCover, altEn := uploaded.altEn, altDe := uploaded.altDe,
      mimeType := uploaded.mimeType, width := uploaded.width, height := uploaded.height,
      sortOrder := 0, processingStatus := .ready, deletedAt := none }
  let inserted ← require (db.media.insert? media) .integrity
  pure
    { events := db.events.put (touchedBy actor { event with coverMediaId := some media.id })
      media := inserted.delete fun row => (previous.map EventMediaRow.id).any (· == row.id) }

/-- What a request supplies of the metadata of a cover; a null does not fit its column. -/
structure MediaChanges where
  altEn : Option String := none
  altDe : Option String := none
  sortOrder : Option Nat := none

/-- The cover of an event under its identifier. -/
def requireCover (eventId mediaId : Nat) : Except EventError EventMediaRow := do
  let media ← require (activeMedia db eventId mediaId) .mediaNotFound
  ensure (media.usage = .eventCover) .mediaNotFound
  pure media

def updateEventMediaMetadata (eventId mediaId version : Nat) (changes : MediaChanges) :
    Except EventError EventDb := do
  requireAdmin actor
  let event ← lockedEvent db eventId
  requireVersion event version
  let media ← requireCover db event.id mediaId
  pure
    { events := db.events.put (touchedBy actor event)
      media := db.media.put
        { media with
          altEn := effective changes.altEn media.altEn
          altDe := effective changes.altDe media.altDe
          sortOrder := effective changes.sortOrder media.sortOrder } }

/-- A cover in use goes from a draft only. -/
def detachCover (event : EventRow) (media : EventMediaRow) : Except EventError EventRow :=
  if event.coverMediaId = some media.id then do
    ensure (event.status = .draft)
      (.mediaConflict "Published or cancelled Event cover cannot be removed.")
    pure { event with coverMediaId := none }
  else pure event

def deleteEventMedia (eventId mediaId version : Nat) : Except EventError EventDb := do
  requireAdmin actor
  let event ← lockedEvent db eventId
  requireVersion event version
  let media ← requireCover db event.id mediaId
  let event ← detachCover event media
  pure
    { events := db.events.put (touchedBy actor event)
      media := db.media.delete fun row => row.id == media.id }

end Services

end Events

/-- The requests of administrators, with what they meet outside these tables. -/
inductive EventAction
  | create (actor : User) (id : Nat) (draft : EventContent)
  | update (actor : User) (eventId version : Nat) (changes : EventChanges)
      (dependencies : Events.Dependencies)
  | setStatus (actor : User) (eventId version : Nat) (status : EventStatus) (now : Int)
  | delete (actor : User) (eventId version : Nat) (dependencies : Events.Dependencies)
  | uploadCover (actor : User) (eventId version mediaId : Nat) (uploaded : Events.UploadedCover)
  | updateMedia (actor : User) (eventId mediaId version : Nat) (changes : Events.MediaChanges)
  | deleteMedia (actor : User) (eventId mediaId version : Nat)

namespace EventDb

def empty : EventDb := ⟨Table.empty, Table.empty⟩

/-- The tables after a request which commits. -/
def next (db : EventDb) : EventAction → Except EventError EventDb
  | .create actor id draft => Events.createEventDraft db actor id draft
  | .update actor eventId version changes dependencies =>
      Events.updateEventDraft db actor eventId version changes dependencies
  | .setStatus actor eventId version status now =>
      Events.setEventStatus db actor eventId version status now
  | .delete actor eventId version dependencies =>
      Events.deleteEvent db actor eventId version dependencies
  | .uploadCover actor eventId version mediaId uploaded =>
      Events.stageEventCoverReplacement db actor eventId version mediaId uploaded
  | .updateMedia actor eventId mediaId version changes =>
      Events.updateEventMediaMetadata db actor eventId mediaId version changes
  | .deleteMedia actor eventId mediaId version =>
      Events.deleteEventMedia db actor eventId mediaId version

/-- A request which fails rolls back, so it takes no step. -/
def Step (db : EventDb) (action : EventAction) (after : EventDb) : Prop :=
  db.next action = .ok after

end EventDb

end BuddyWeb
