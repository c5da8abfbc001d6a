/-
Interleaved recap requests: the advisory lock of status transitions, the row locks of recaps,
staged rows which commit or roll back at once, and the deletion of media after a commit.
-/
import Mathlib.Logic.Function.Basic
import BuddyWeb.Lib.Run
import BuddyWeb.Recap.Services

namespace BuddyWeb

inductive RecapRequest
  | create (actor newId : Nat) (content : RecapContent)
  | update (actor recapId version : Nat) (content : RecapContent)
  | status (update : RecapStatusUpdate) (jobId : String → Nat)
  | orderPhotos (actor recapId : Nat) (payload : PhotoOrderUpdate)
  | upload (actor recapId : Nat) (upload : PhotoUpload)
  | deletePhoto (actor recapId version photoId : Nat)
  | delete (actor recapId version : Nat)
  | cleanupEvicted (recapId : Nat)
  | cleanupPhotos (recapId : Nat)

/-- How far a request has come. -/
inductive RecapPhase
  | started
  /-- The advisory lock is held. -/
  | serialized
  /-- The row is locked and loaded. -/
  | loaded (recap : Recap)
  /-- The publication is flushed. -/
  | published (row : Recap)
  /-- `evict_overflow` locks the rows of its query one by one. -/
  | ranking (row : Recap) (waiting kept : List Recap)
  | evicting (row : Recap) (victims : List Recap) (writes : RecapWrites)
  | flushed (writes : RecapWrites)
  /-- `cleanup_evicted`, before a queued deletion, during it and after it. -/
  | cleaning (jobs : List RecapMediaCleanup)
  | deletingObject (job : RecapMediaCleanup) (jobs : List RecapMediaCleanup)
  | deletedObject (job : RecapMediaCleanup) (jobs : List RecapMediaCleanup)
  /-- `cleanup_photos`, with the rows whose objects are gone. -/
  | sweeping (images : List RecapImage) (deletedImages : List Nat)
  | succeeded
  | rejected

structure RecapTransaction where
  request : RecapRequest
  phase : RecapPhase

/-- The committed tables, the clock, the locks and the requests.  As a history it keeps the
identifiers of the queued deletions, which are drawn once, and the keys whose deletion the
storage has acknowledged. -/
structure RecapWorld where
  db : RecapDatabase
  now : Int
  publicationLock : Option Nat
  recapLocks : Nat → Option Nat
  transactions : Nat → Option RecapTransaction
  drawnJobs : List Nat
  acknowledged : List String

/-- What the storage answers to a deletion. -/
inductive StorageAnswer
  | deleted
  | notFound
  | failed
  deriving DecidableEq, Repr

inductive RecapLabel
  | start (id : Nat) (request : RecapRequest)
  | advance (id : Nat)
  | storage (id : Nat) (answer : StorageAnswer)
  | commit (id : Nat)
  | rollback (id : Nat)
  | tick (instant : Int)
  | events (events : Table Event) (eventMediaKeys : List String)

/-- The recap which a request loads under its row lock. -/
def RecapRequest.target : RecapRequest → Option Nat
  | .update _ recapId _ _ => some recapId
  | .status payload _ => some payload.recapId
  | .orderPhotos _ recapId _ => some recapId
  | .upload _ recapId _ => some recapId
  | .deletePhoto _ recapId _ _ => some recapId
  | .delete _ recapId _ => some recapId
  | _ => none

def RecapPhase.finished : RecapPhase → Bool
  | .succeeded => true
  | .rejected => true
  | _ => false

namespace RecapWorld

variable (w : RecapWorld)

def setPhase (id : Nat) (transaction : RecapTransaction) (phase : RecapPhase) : RecapWorld :=
  { w with
    transactions :=
      Function.update w.transactions id (some { transaction with phase := phase }) }

/-- Ending a request releases its locks. -/
def finish (id : Nat) (transaction : RecapTransaction) (phase : RecapPhase) : RecapWorld :=
  { w.setPhase id transaction phase with
    publicationLock := if w.publicationLock = some id then none else w.publicationLock
    recapLocks := fun recapId =>
      if w.recapLocks recapId = some id then none else w.recapLocks recapId }

def isFree (id recapId : Nat) : Bool :=
  w.recapLocks recapId = none || w.recapLocks recapId = some id

def takeRow (id recapId : Nat) : RecapWorld :=
  { w with recapLocks := Function.update w.recapLocks recapId (some id) }

/-- Staged rows, or a rejection. -/
def stage (id : Nat) (transaction : RecapTransaction)
    (outcome : Except RecapError RecapWrites) : RecapWorld :=
  match outcome with
  | .ok writes => w.setPhase id transaction (.flushed writes)
  | .error _ => w.finish id transaction .rejected

/-- `get_recap` with its row lock; `none` when another transaction holds the lock. -/
def load (id : Nat) (transaction : RecapTransaction) (recapId : Nat) : Option RecapWorld :=
  match getRecap w.db recapId with
  | .error _ => some (w.finish id transaction .rejected)
  | .ok recap =>
      if w.isFree id recapId then
        some ((w.takeRow id recapId).setPhase id transaction (.loaded recap))
      else none

/-- The rows of `cleanup_photos`. -/
def deletedPhotoImages (recapId : Nat) : List RecapImage :=
  w.db.images.rows.filter fun image =>
    ((w.db.allPhotosFor recapId).filter (·.deletedAt.isSome)).any (·.id = image.photoId)

/-- The first statement of a request. -/
def begin (id : Nat) (transaction : RecapTransaction) : Option RecapWorld :=
  match transaction.request with
  | .create actor newId content =>
      some (w.stage id transaction (createContent w.db actor newId content))
  | .status _ _ =>
      if w.publicationLock = none then
        some ({ w with publicationLock := some id }.setPhase id transaction .serialized)
      else none
  | .update _ recapId _ _ => w.load id transaction recapId
  | .orderPhotos _ recapId _ => w.load id transaction recapId
  | .upload _ recapId _ => w.load id transaction recapId
  | .deletePhoto _ recapId _ _ => w.load id transaction recapId
  | .delete _ recapId _ => w.load id transaction recapId
  | .cleanupEvicted recapId =>
      some (w.setPhase id transaction
        (.cleaning (w.db.cleanups.rows.filter (·.recapId = recapId))))
  | .cleanupPhotos recapId =>
      some (w.setPhase id transaction (.sweeping (w.deletedPhotoImages recapId) []))

/-- A status transition under its locks.  A new publication still has to evict. -/
def changeStatus (id : Nat) (transaction : RecapTransaction) (update : RecapStatusUpdate)
    (recap : Recap) : RecapWorld :=
  match statusRecap w.db update recap w.now with
  | .error _ => w.finish id transaction .rejected
  | .ok row =>
      if recap.status ≠ update.status ∧ update.status = .published then
        w.setPhase id transaction (.published row)
      else w.setPhase id transaction (.flushed { updated := some row })

/-- What a request does with its locked recap. -/
def change (id : Nat) (transaction : RecapTransaction) (recap : Recap) :
    Option RecapWorld :=
  match transaction.request with
  | .status update _ => some (w.changeStatus id transaction update recap)
  | .update actor _ version content =>
      some (w.stage id transaction (saveContent w.db actor version content recap))
  | .orderPhotos actor _ payload =>
      some (w.stage id transaction (savePhotos w.db actor payload recap))
  | .upload actor _ upload =>
      some (w.stage id transaction (uploadPhoto w.db actor upload recap))
  | .deletePhoto actor _ version photoId =>
      some (w.stage id transaction (deletePhoto w.db actor version photoId recap w.now))
  | .delete actor _ version =>
      some (w.stage id transaction (deleteRecap w.db actor version recap w.now))
  | _ => none

/-- A row as the transaction sees it which has flushed a new version of another one. -/
def seenRecap (row : Recap) (recapId : Nat) : Option Recap :=
  (w.db.recaps.put row).get? recapId

/-- Lock the next row of the eviction query.  A row which has left the published ones since the
query is skipped. -/
def rankNext (id : Nat) (transaction : RecapTransaction) (row next : Recap)
    (waiting kept : List Recap) : Option RecapWorld :=
  if w.isFree id next.id then
    let current := (w.seenRecap row next.id).filter (·.isPublished)
    some ((w.takeRow id next.id).setPhase id transaction
      (.ranking row waiting (kept ++ current.toList)))
  else none

def jobIdOf : RecapRequest → String → Nat
  | .status _ jobId => jobId
  | _ => fun _ => 0

/-- The next queued deletion, unless its object has another owner. -/
def cleanNext (id : Nat) (transaction : RecapTransaction) (job : RecapMediaCleanup)
    (jobs : List RecapMediaCleanup) : RecapWorld :=
  if w.db.ownsObject job.objectKey then w.setPhase id transaction (.cleaning jobs)
  else w.setPhase id transaction (.deletingObject job jobs)

/-- The next statement of a request. -/
def advance (id : Nat) (transaction : RecapTransaction) : Option RecapWorld :=
  match transaction.phase with
  | .started => w.begin id transaction
  | .serialized => do
      let recapId ← transaction.request.target
      w.load id transaction recapId
  | .loaded recap => w.change id transaction recap
  | .published row =>
      some (w.setPhase id transaction
        (.ranking row (rankedRecaps (w.db.recaps.put row)) []))
  | .ranking row (next :: waiting) kept => w.rankNext id transaction row next waiting kept
  | .ranking row [] kept =>
      some (w.setPhase id transaction
        (.evicting row (kept.drop maxPublishedRecaps) { updated := some row }))
  | .evicting row (old :: victims) writes =>
      some (w.setPhase id transaction
        (.evicting row victims (writes.evict w.db (jobIdOf transaction.request) old)))
  | .evicting _ [] writes => some (w.setPhase id transaction (.flushed writes))
  | .cleaning [] => some (w.finish id transaction .succeeded)
  | .cleaning (job :: jobs) => some (w.cleanNext id transaction job jobs)
  | .deletedObject job jobs =>
      some ({ w with
        db := { w.db with cleanups := w.db.cleanups.delete fun other => other.id = job.id }
      }.setPhase id transaction (.cleaning jobs))
  | .sweeping [] deletedImages =>
      some (w.setPhase id transaction (.flushed { deletedImages := deletedImages }))
  | _ => none

def acknowledge (objectKey : String) : RecapWorld :=
  { w with acknowledged := objectKey :: w.acknowledged }

/-- An answer of the storage to a deletion. -/
def answer (id : Nat) (transaction : RecapTransaction) (answer : StorageAnswer) :
    Option RecapWorld :=
  match transaction.phase with
  | .deletingObject job jobs =>
      some (if answer = .failed then w.setPhase id transaction (.cleaning jobs)
        else (w.acknowledge job.objectKey).setPhase id transaction (.deletedObject job jobs))
  | .sweeping (image :: images) deletedImages =>
      some (if answer = .deleted then
          (w.acknowledge image.objectKey).setPhase id transaction
            (.sweeping images (image.id :: deletedImages))
        else w.setPhase id transaction (.sweeping images deletedImages))
  | _ => none

def commit (id : Nat) (transaction : RecapTransaction) : Option RecapWorld :=
  match transaction.phase with
  | .flushed writes =>
      if writes.jobs.all (·.id ∉ w.drawnJobs) then
        (writes.applyTo w.db).map fun db =>
          { w.finish id transaction .succeeded with
            db := db
            drawnJobs := writes.jobs.map (·.id) ++ w.drawnJobs }
      else none
  | _ => none

/-- One step of the system. -/
def next : RecapLabel → Option RecapWorld
  | .start id request =>
      if (w.transactions id).isNone then
        some { w with
          transactions := Function.update w.transactions id (some ⟨request, .started⟩) }
      else none
  | .advance id => do
      let transaction ← w.transactions id
      w.advance id transaction
  | .storage id answer => do
      let transaction ← w.transactions id
      w.answer id transaction answer
  | .commit id => do
      let transaction ← w.transactions id
      w.commit id transaction
  | .rollback id => do
      let transaction ← w.transactions id
      if transaction.phase.finished then none
      else some (w.finish id transaction .rejected)
  | .tick instant => some { w with now := instant }
  | .events events eventMediaKeys =>
      some { w with db := { w.db with events := events, eventMediaKeys := eventMediaKeys } }

def Step (w : RecapWorld) (label : RecapLabel) (after : RecapWorld) : Prop :=
  w.next label = some after

/-- No recap has been created and no request made. -/
structure Initial (w : RecapWorld) : Prop where
  recaps : w.db.recaps.rows = []
  photos : w.db.photos.rows = []
  images : w.db.images.rows = []
  cleanups : w.db.cleanups.rows = []
  publicationLock : w.publicationLock = none
  recapLocks : ∀ recapId, w.recapLocks recapId = none
  transactions : ∀ id, w.transactions id = none

/-- No request has been made, whatever recaps the tables hold: at most nine are published, and
the identifiers of the queued deletions are drawn. -/
structure AtRest (w : RecapWorld) : Prop where
  published : (publishedRecaps w.db.recaps).length ≤ maxPublishedRecaps
  drawn : ∀ job ∈ w.db.cleanups.rows, job.id ∈ w.drawnJobs
  publicationLock : w.publicationLock = none
  recapLocks : ∀ recapId, w.recapLocks recapId = none
  transactions : ∀ id, w.transactions id = none

theorem Initial.atRest {w : RecapWorld} (h : w.Initial) : w.AtRest where
  published := by
    rw [publishedRecaps, h.recaps]
    exact Nat.zero_le _
  drawn := by
    rw [h.cleanups]
    simp
  publicationLock := h.publicationLock
  recapLocks := h.recapLocks
  transactions := h.transactions

/-- The states which runs reach, whatever the order of their steps. -/
def Reached (w : RecapWorld) : Prop :=
  Reaches AtRest Step (fun _ _ => True) w

end RecapWorld

end BuddyWeb
