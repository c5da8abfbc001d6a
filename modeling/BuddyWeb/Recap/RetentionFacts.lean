/-
What holds of the recaps and of every request between its statements.
-/
import BuddyWeb.Recap.StagedRows

namespace BuddyWeb

/-- The request is a transition which publishes a recap. -/
def RecapRequest.PublishesRow (request : RecapRequest) (row : Recap) : Prop :=
  ∃ payload jobId, request = .status payload jobId ∧ payload.status = .published ∧
    payload.recapId = row.id

namespace RecapWorld

/-- A deletion is queued for each image of a recap. -/
def QueuesImages (w : RecapWorld) (jobs : List RecapMediaCleanup) (recapId : Nat) : Prop :=
  ∀ photo ∈ w.db.photos.rows, photo.recapId = recapId → ∀ image ∈ w.db.images.rows,
    image.photoId = photo.id → ∃ job ∈ jobs, job.recapId = recapId ∧
      job.objectKey = image.objectKey

/-- Staged rows which add nothing to the published recaps, under the locks of their recaps. -/
structure PlainWrites (w : RecapWorld) (id : Nat) (writes : RecapWrites) : Prop where
  updated : ∀ row ∈ writes.updated, w.recapLocks row.id = some id ∧
    ∃ old ∈ w.db.recaps.rows, old.Keeps row
  created : ∀ row ∈ writes.created, row.isPublished = false
  photos : ∀ photo ∈ writes.photos, w.recapLocks photo.recapId = some id
  photo : ∀ photo ∈ writes.photo, w.recapLocks photo.recapId = some id
  images : ∀ image ∈ writes.images, ∃ photo ∈ writes.photo, photo.id = image.photoId
  jobs : writes.jobs = []
  evicted : writes.evicted = []

/-- A flushed publication under the advisory lock and the lock of its row. -/
structure Publishing (w : RecapWorld) (id : Nat) (row : Recap) : Prop where
  serialized : w.publicationLock = some id
  locked : w.recapLocks row.id = some id
  version : ∃ old ∈ w.db.recaps.rows, old.Publishes row

/-- The locked rows of the eviction query, and the rows of its snapshot which are still to be
locked, are in order and cover the published recaps. -/
structure Ranking (w : RecapWorld) (id : Nat) (row : Recap) (waiting kept : List Recap) :
    Prop where
  sorted : ((kept ++ waiting).map (·.rankKey)).Pairwise fun first second => second < first
  ids : ((kept ++ waiting).map (·.id)).Nodup
  locked : ∀ recap ∈ kept, recap ∈ (w.db.recaps.put row).rows ∧ recap.isPublished = true ∧
    w.recapLocks recap.id = some id
  cover : ∀ recap ∈ (w.db.recaps.put row).rows, recap.isPublished = true →
    recap ∈ kept ∨ ∃ seen ∈ waiting, seen.rankKey = recap.rankKey

/-- The evictions of a publication, done and still to do. -/
structure Evicting (w : RecapWorld) (id : Nat) (row : Recap) (kept victims : List Recap)
    (writes : RecapWrites) : Prop where
  publishing : w.Publishing id row
  ranking : w.Ranking id row [] kept
  overflow : (kept.drop maxPublishedRecaps).map (·.id) = writes.evicted ++ victims.map (·.id)
  rows : writes = { updated := some row, jobs := writes.jobs, evicted := writes.evicted }
  queued : ∀ recapId ∈ writes.evicted, w.QueuesImages writes.jobs recapId

/-- A queued deletion which a cleanup has read; no other row gets its identifier. -/
structure KnownJob (w : RecapWorld) (job : RecapMediaCleanup) : Prop where
  drawn : job.id ∈ w.drawnJobs
  only : ∀ row ∈ w.db.cleanups.rows, row.id = job.id → row = job

/-- The row of a request which is under its lock. -/
structure Loaded (w : RecapWorld) (id : Nat) (recap : Recap) : Prop where
  mem : recap ∈ w.db.recaps.rows
  live : recap.deletedAt = none
  locked : w.recapLocks recap.id = some id

def PhaseFacts (w : RecapWorld) (id : Nat) (request : RecapRequest) : RecapPhase → Prop
  | .serialized => w.publicationLock = some id
  | .loaded recap => w.Loaded id recap ∧ request.target = some recap.id ∧
      ∀ payload jobId, request = .status payload jobId → w.publicationLock = some id
  | .published row => request.PublishesRow row ∧ w.Publishing id row
  | .ranking row waiting kept => request.PublishesRow row ∧ w.Publishing id row ∧
      w.Ranking id row waiting kept
  | .evicting row victims writes => request.PublishesRow row ∧
      ∃ kept, w.Evicting id row kept victims writes
  | .flushed writes => w.PlainWrites id writes ∨
      ∃ row kept, request.PublishesRow row ∧ w.Evicting id row kept [] writes
  | .cleaning jobs => ∀ job ∈ jobs, w.KnownJob job
  | .deletingObject job jobs => ∀ known ∈ job :: jobs, w.KnownJob known
  | .deletedObject job jobs => (∀ known ∈ job :: jobs, w.KnownJob known) ∧
      job.objectKey ∈ w.acknowledged
  | _ => True

structure RetentionFacts (w : RecapWorld) : Prop where
  bound : (publishedRecaps w.db.recaps).length ≤ maxPublishedRecaps
  drawn : ∀ job ∈ w.db.cleanups.rows, job.id ∈ w.drawnJobs
  phases : ∀ id transaction, w.transactions id = some transaction →
    w.PhaseFacts id transaction.request transaction.phase

section Frames

variable {w after : RecapWorld} {id : Nat}

/-- What other transactions may do beside a transaction: they leave its locks and what these
protect, and while it holds the advisory lock they publish nothing. -/
structure Preserves (w after : RecapWorld) (id : Nat) : Prop where
  publication : w.publicationLock = some id → after.publicationLock = some id
  locks : ∀ recapId, w.recapLocks recapId = some id → after.recapLocks recapId = some id
  locked : ∀ recap ∈ w.db.recaps.rows, w.recapLocks recap.id = some id →
    recap ∈ after.db.recaps.rows
  published : w.publicationLock = some id → ∀ recap ∈ after.db.recaps.rows,
    recap.isPublished = true → ∃ old ∈ w.db.recaps.rows, old.isPublished = true ∧
      old.rankKey = recap.rankKey
  photos : ∀ photo ∈ after.db.photos.rows, w.recapLocks photo.recapId = some id →
    photo ∈ w.db.photos.rows
  images : ∀ photo ∈ w.db.photos.rows, ∀ image ∈ after.db.images.rows,
    image.photoId = photo.id → image ∈ w.db.images.rows
  drawn : ∀ jobId ∈ w.drawnJobs, jobId ∈ after.drawnJobs
  cleanups : ∀ job ∈ after.db.cleanups.rows, job ∈ w.db.cleanups.rows ∨ job.id ∉ w.drawnJobs
  acknowledged : ∀ key ∈ w.acknowledged, key ∈ after.acknowledged

/-- The evicted recaps are among the locked ones. -/
theorem Evicting.locked {row : Recap} {kept victims : List Recap}
    {writes : RecapWrites} (hevicting : w.Evicting id row kept victims writes) {recapId : Nat}
    (hevicted : recapId ∈ writes.evicted) : w.recapLocks recapId = some id := by
  have hmem : recapId ∈ (kept.drop maxPublishedRecaps).map (·.id) := by
    rw [hevicting.overflow]
    exact List.mem_append_left _ hevicted
  obtain ⟨recap, hrecap, hid⟩ := List.mem_map.mp hmem
  rw [← hid]
  exact (hevicting.ranking.locked recap (List.mem_of_mem_drop hrecap)).2.2

namespace Preserves

variable (h : Preserves w after id)

include h

theorem loaded {recap : Recap} (hloaded : w.Loaded id recap) : after.Loaded id recap where
  mem := h.locked recap hloaded.mem hloaded.locked
  live := hloaded.live
  locked := h.locks recap.id hloaded.locked

/-- A locked row has no other version. -/
theorem eq_of_locked {old recap : Recap} (hold : old ∈ w.db.recaps.rows)
    (hlocked : w.recapLocks old.id = some id) (hrecap : recap ∈ after.db.recaps.rows)
    (hid : old.id = recap.id) : old = recap :=
  Table.eq_of_key (h.locked old hold hlocked) hrecap hid

theorem publishing {row : Recap} (hrow : w.Publishing id row) : after.Publishing id row where
  serialized := h.publication hrow.serialized
  locked := h.locks row.id hrow.locked
  version := by
    obtain ⟨old, hold, hversion⟩ := hrow.version
    have hlocked : w.recapLocks old.id = some id := hversion.id ▸ hrow.locked
    exact ⟨old, h.locked old hold hlocked, hversion⟩

theorem ranking {row : Recap} {waiting kept : List Recap} (hrow : w.Publishing id row)
    (hranking : w.Ranking id row waiting kept) : after.Ranking id row waiting kept where
  sorted := hranking.sorted
  ids := hranking.ids
  locked := by
    intro recap hrecap
    obtain ⟨hmem, hpublished, hlocked⟩ := hranking.locked recap hrecap
    refine ⟨?_, hpublished, h.locks recap.id hlocked⟩
    rcases Table.mem_put_iff.mp hmem with ⟨hsame, _⟩ | ⟨hold, hne⟩
    · obtain ⟨old, hold, hversion⟩ := (h.publishing hrow).version
      rw [hsame]
      exact Table.mem_put_self hold hversion.id
    · exact Table.mem_put_of_ne (h.locked recap hold hlocked) hne
  cover := by
    intro recap hmem hpublished
    rcases Table.mem_put_iff.mp hmem with ⟨hsame, _⟩ | ⟨hafter, hne⟩
    · obtain ⟨old, hold, hversion⟩ := hrow.version
      have hrowMem : row ∈ (w.db.recaps.put row).rows := Table.mem_put_self hold hversion.id
      rw [hsame] at hpublished ⊢
      exact hranking.cover row hrowMem hpublished
    · obtain ⟨old, hold, holdPublished, hkey⟩ :=
        h.published hrow.serialized recap hafter hpublished
      have hid : old.id = recap.id := Recap.rankKey_inj_id hkey
      have holdNe : Keyed.key old ≠ Keyed.key row := fun hsame => hne (hid.symm.trans hsame)
      rcases hranking.cover old (Table.mem_put_of_ne hold holdNe) holdPublished with
        hkept | ⟨seen, hseen, hseenKey⟩
      · have hlocked := (hranking.locked old hkept).2.2
        rw [← h.eq_of_locked hold hlocked hafter hid]
        exact Or.inl hkept
      · exact Or.inr ⟨seen, hseen, hseenKey.trans hkey⟩

theorem queuesImages {jobs : List RecapMediaCleanup} {recapId : Nat}
    (hlocked : w.recapLocks recapId = some id) (hqueues : w.QueuesImages jobs recapId) :
    after.QueuesImages jobs recapId := by
  intro photo hphoto howner image himage hof
  have hold : photo ∈ w.db.photos.rows := by
    apply h.photos photo hphoto
    rw [howner]
    exact hlocked
  exact hqueues photo hold howner image (h.images photo hold image himage hof) hof

theorem evicting {row : Recap} {kept victims : List Recap} {writes : RecapWrites}
    (hevicting : w.Evicting id row kept victims writes) :
    after.Evicting id row kept victims writes where
  publishing := h.publishing hevicting.publishing
  ranking := h.ranking hevicting.publishing hevicting.ranking
  overflow := hevicting.overflow
  rows := hevicting.rows
  queued recapId hevicted :=
    h.queuesImages (hevicting.locked hevicted) (hevicting.queued recapId hevicted)

theorem plainWrites {writes : RecapWrites} (hwrites : w.PlainWrites id writes) :
    after.PlainWrites id writes where
  updated row hrow := by
    obtain ⟨hlocked, old, hold, hkeeps⟩ := hwrites.updated row hrow
    have holdLocked : w.recapLocks old.id = some id := hkeeps.id ▸ hlocked
    exact ⟨h.locks row.id hlocked, old, h.locked old hold holdLocked, hkeeps⟩
  created := hwrites.created
  photos photo hphoto := h.locks _ (hwrites.photos photo hphoto)
  photo photo hphoto := h.locks _ (hwrites.photo photo hphoto)
  images := hwrites.images
  jobs := hwrites.jobs
  evicted := hwrites.evicted

theorem knownJob {job : RecapMediaCleanup} (hjob : w.KnownJob job) : after.KnownJob job where
  drawn := h.drawn job.id hjob.drawn
  only row hrow hid := by
    rcases h.cleanups row hrow with hold | hnew
    · exact hjob.only row hold hid
    · rw [hid] at hnew
      exact absurd hjob.drawn hnew

/-- What holds of a transaction which the step of another one passes by. -/
theorem phaseFacts {request : RecapRequest} {phase : RecapPhase}
    (hphase : w.PhaseFacts id request phase) : after.PhaseFacts id request phase := by
  cases phase with
  | serialized => exact h.publication hphase
  | loaded recap =>
      refine ⟨h.loaded hphase.1, hphase.2.1, fun payload jobId hrequest => ?_⟩
      exact h.publication (hphase.2.2 payload jobId hrequest)
  | published row => exact ⟨hphase.1, h.publishing hphase.2⟩
  | ranking row waiting kept =>
      exact ⟨hphase.1, h.publishing hphase.2.1, h.ranking hphase.2.1 hphase.2.2⟩
  | evicting row victims writes =>
      obtain ⟨hrequest, kept, hevicting⟩ := hphase
      exact ⟨hrequest, kept, h.evicting hevicting⟩
  | flushed writes =>
      rcases hphase with hplain | ⟨row, kept, hrequest, hevicting⟩
      · exact Or.inl (h.plainWrites hplain)
      · exact Or.inr ⟨row, kept, hrequest, h.evicting hevicting⟩
  | cleaning jobs =>
      intro job hjob
      exact h.knownJob (hphase job hjob)
  | deletingObject job jobs =>
      intro known hknown
      exact h.knownJob (hphase known hknown)
  | deletedObject job jobs =>
      refine ⟨fun known hknown => ?_, h.acknowledged _ hphase.2⟩
      exact h.knownJob (hphase.1 known hknown)
  | _ => trivial

end Preserves

end Frames

end RecapWorld

end BuddyWeb
