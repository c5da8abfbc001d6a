/-
The statements of a request before its commit keep what holds of all requests.
-/
import BuddyWeb.Recap.RetentionFacts

namespace BuddyWeb

namespace RecapWorld

variable {w after : RecapWorld} {id : Nat} {transaction : RecapTransaction}
  {phase : RecapPhase}

/-- A step before a commit: the recaps stay, queued deletions go only after their objects, and
the other transactions keep their locks. -/
structure Moves (w after : RecapWorld) (id : Nat) (transaction : RecapTransaction)
    (phase : RecapPhase) : Prop where
  transactions : after.transactions =
    Function.update w.transactions id (some { transaction with phase := phase })
  recaps : after.db.recaps = w.db.recaps
  photos : after.db.photos = w.db.photos
  images : after.db.images = w.db.images
  cleanups : ∀ job ∈ after.db.cleanups.rows, job ∈ w.db.cleanups.rows
  durable : ∀ job ∈ w.db.cleanups.rows,
    job ∈ after.db.cleanups.rows ∨ job.objectKey ∈ after.acknowledged
  drawn : after.drawnJobs = w.drawnJobs
  acknowledged : ∀ key ∈ w.acknowledged, key ∈ after.acknowledged
  publication : ∀ other, other ≠ id → w.publicationLock = some other →
    after.publicationLock = some other
  locks : ∀ other, other ≠ id → ∀ recapId, w.recapLocks recapId = some other →
    after.recapLocks recapId = some other
  heldPublication : phase.finished = false → w.publicationLock = some id →
    after.publicationLock = some id
  heldLocks : phase.finished = false → ∀ recapId, w.recapLocks recapId = some id →
    after.recapLocks recapId = some id

namespace Moves

theorem self (h : Moves w after id transaction phase) :
    after.transactions id = some { transaction with phase := phase } := by
  rw [h.transactions]
  exact Function.update_self ..

theorem of_ne (h : Moves w after id transaction phase) {other : Nat} (hother : other ≠ id) :
    after.transactions other = w.transactions other := by
  rw [h.transactions]
  exact Function.update_of_ne hother ..

theorem preserves (h : Moves w after id transaction phase) {other : Nat}
    (hpublication : w.publicationLock = some other → after.publicationLock = some other)
    (hlocks : ∀ recapId, w.recapLocks recapId = some other →
      after.recapLocks recapId = some other) : Preserves w after other where
  publication := hpublication
  locks := hlocks
  locked recap hrecap _ := by
    rw [h.recaps]
    exact hrecap
  published _ recap hrecap hpublished := by
    rw [h.recaps] at hrecap
    exact ⟨recap, hrecap, hpublished, rfl⟩
  photos photo hphoto _ := by
    rw [h.photos] at hphoto
    exact hphoto
  images _ _ image himage _ := by
    rw [h.images] at himage
    exact himage
  drawn jobId hjob := by
    rw [h.drawn]
    exact hjob
  cleanups job hjob := Or.inl (h.cleanups job hjob)
  acknowledged := h.acknowledged

theorem preserves_other (h : Moves w after id transaction phase) {other : Nat}
    (hother : other ≠ id) : Preserves w after other :=
  h.preserves (h.publication other hother) (h.locks other hother)

theorem preserves_self (h : Moves w after id transaction phase)
    (hrunning : phase.finished = false) : Preserves w after id :=
  h.preserves (h.heldPublication hrunning) (h.heldLocks hrunning)

end Moves

theorem setPhase_moves (w : RecapWorld) (id : Nat) (transaction : RecapTransaction)
    (phase : RecapPhase) : Moves w (w.setPhase id transaction phase) id transaction phase where
  transactions := rfl
  recaps := rfl
  photos := rfl
  images := rfl
  cleanups _ hjob := hjob
  durable _ hjob := Or.inl hjob
  drawn := rfl
  acknowledged _ hkey := hkey
  publication _ _ hlock := hlock
  locks _ _ _ hlock := hlock
  heldPublication _ hlock := hlock
  heldLocks _ _ hlock := hlock

/-- Ending a transaction releases no lock of another one. -/
theorem release_other {other : Nat} {lock : Option Nat} (hother : other ≠ id)
    (hlock : lock = some other) : (if lock = some id then none else lock) = some other := by
  have hne : lock ≠ some id := by
    intro hsame
    exact hother (Option.some.inj (hlock.symm.trans hsame))
  rw [if_neg hne]
  exact hlock

theorem finish_moves (w : RecapWorld) (id : Nat) (transaction : RecapTransaction)
    {phase : RecapPhase} (hfinished : phase.finished = true) :
    Moves w (w.finish id transaction phase) id transaction phase where
  transactions := rfl
  recaps := rfl
  photos := rfl
  images := rfl
  cleanups _ hjob := hjob
  durable _ hjob := Or.inl hjob
  drawn := rfl
  acknowledged _ hkey := hkey
  publication _ hother hlock := release_other hother hlock
  locks _ hother _ hlock := release_other hother hlock
  heldPublication hrunning := by
    rw [hfinished] at hrunning
    exact absurd hrunning (by simp)
  heldLocks hrunning := by
    rw [hfinished] at hrunning
    exact absurd hrunning (by simp)

theorem isFree_cases {recapId : Nat} (h : w.isFree id recapId = true) :
    w.recapLocks recapId = none ∨ w.recapLocks recapId = some id := by
  simpa [isFree] using h

theorem takeRow_self (w : RecapWorld) (id recapId : Nat) :
    (w.takeRow id recapId).recapLocks recapId = some id :=
  Function.update_self ..

/-- A free row lock is taken from nobody. -/
theorem takeRow_moves {recapId : Nat} (hfree : w.isFree id recapId = true) :
    Moves w ((w.takeRow id recapId).setPhase id transaction phase) id transaction phase where
  transactions := rfl
  recaps := rfl
  photos := rfl
  images := rfl
  cleanups _ hjob := hjob
  durable _ hjob := Or.inl hjob
  drawn := rfl
  acknowledged _ hkey := hkey
  publication _ _ hlock := hlock
  locks other hother otherId hlock := by
    change Function.update w.recapLocks recapId (some id) otherId = some other
    by_cases hsame : otherId = recapId
    · rw [hsame] at hlock
      rcases isFree_cases hfree with hnone | hself
      · exact absurd (hnone.symm.trans hlock) (by simp)
      · exact absurd (Option.some.inj (hlock.symm.trans hself)) hother
    · rw [Function.update_of_ne hsame]
      exact hlock
  heldPublication _ hlock := hlock
  heldLocks _ otherId hlock := by
    change Function.update w.recapLocks recapId (some id) otherId = some id
    by_cases hsame : otherId = recapId
    · rw [hsame]
      exact Function.update_self ..
    · rw [Function.update_of_ne hsame]
      exact hlock

/-- A free advisory lock is taken from nobody. -/
theorem serialize_moves (hfree : w.publicationLock = none) :
    Moves w ({ w with publicationLock := some id }.setPhase id transaction phase) id transaction
      phase where
  transactions := rfl
  recaps := rfl
  photos := rfl
  images := rfl
  cleanups _ hjob := hjob
  durable _ hjob := Or.inl hjob
  drawn := rfl
  acknowledged _ hkey := hkey
  publication other _ hlock := by
    rw [hfree] at hlock
    exact absurd hlock (by simp)
  locks _ _ _ hlock := hlock
  heldPublication _ _ := rfl
  heldLocks _ _ hlock := hlock

theorem acknowledge_moves (w : RecapWorld) (id : Nat) (transaction : RecapTransaction)
    (phase : RecapPhase) (objectKey : String) :
    Moves w ((w.acknowledge objectKey).setPhase id transaction phase) id transaction phase where
  transactions := rfl
  recaps := rfl
  photos := rfl
  images := rfl
  cleanups _ hjob := hjob
  durable _ hjob := Or.inl hjob
  drawn := rfl
  acknowledged _ hkey := List.mem_cons_of_mem objectKey hkey
  publication _ _ hlock := hlock
  locks _ _ _ hlock := hlock
  heldPublication _ hlock := hlock
  heldLocks _ _ hlock := hlock

/-- A step of one transaction before its commit, with what holds of its new phase. -/
def Advances (w after : RecapWorld) (id : Nat) (transaction : RecapTransaction) : Prop :=
  ∃ phase, Moves w after id transaction phase ∧ after.PhaseFacts id transaction.request phase

theorem setPhase_advances (h : w.PhaseFacts id transaction.request phase)
    (hrunning : phase.finished = false) :
    Advances w (w.setPhase id transaction phase) id transaction :=
  ⟨phase, setPhase_moves w id transaction phase,
    ((setPhase_moves w id transaction phase).preserves_self hrunning).phaseFacts h⟩

theorem reject_advances (w : RecapWorld) (id : Nat) (transaction : RecapTransaction) :
    Advances w (w.finish id transaction .rejected) id transaction :=
  ⟨.rejected, finish_moves w id transaction rfl, trivial⟩

section Loading

/-- `get_recap` leaves the recap under the lock of the request. -/
theorem load_advances {recapId : Nat} (hstep : w.load id transaction recapId = some after)
    (htarget : transaction.request.target = some recapId)
    (hserialized : ∀ payload jobId, transaction.request = .status payload jobId →
      w.publicationLock = some id) : Advances w after id transaction := by
  unfold load at hstep
  split at hstep
  · rw [← Option.some.inj hstep]
    exact reject_advances w id transaction
  · rename_i recap hrecap
    obtain ⟨hmem, hid, hlive⟩ := getRecap_eq_ok hrecap
    split at hstep
    · rename_i hfree
      rw [← Option.some.inj hstep]
      refine ⟨.loaded recap, takeRow_moves hfree, ⟨hmem, hlive, ?_⟩, ?_, hserialized⟩
      · rw [hid]
        exact takeRow_self w id recapId
      · rw [hid]
        exact htarget
    · exact absurd hstep (by simp)

theorem stage_advances {outcome : Except RecapError RecapWrites}
    (hplain : ∀ writes, outcome = .ok writes → w.PlainWrites id writes) :
    Advances w (w.stage id transaction outcome) id transaction := by
  cases outcome with
  | error error => exact reject_advances w id transaction
  | ok writes =>
      have hfacts : w.PhaseFacts id transaction.request (.flushed writes) :=
        Or.inl (hplain writes rfl)
      exact setPhase_advances hfacts rfl

/-- What a service stages for the loaded recap is under its lock. -/
theorem Loaded.plainWrites {recap : Recap} {writes : RecapWrites} (h : w.Loaded id recap)
    (hstaged : writes.StagedFor recap) : w.PlainWrites id writes where
  updated row hrow := by
    have hkeeps := hstaged.updated row hrow
    refine ⟨?_, recap, h.mem, hkeeps⟩
    rw [hkeeps.id]
    exact h.locked
  created row hrow := by
    rw [hstaged.created] at hrow
    exact absurd hrow (by simp)
  photos photo hphoto := by
    rw [hstaged.photos photo hphoto]
    exact h.locked
  photo photo hphoto := by
    rw [hstaged.photo photo hphoto]
    exact h.locked
  images := hstaged.images
  jobs := hstaged.jobs
  evicted := hstaged.evicted

theorem known_of_queued (hdrawn : ∀ job ∈ w.db.cleanups.rows, job.id ∈ w.drawnJobs)
    {job : RecapMediaCleanup} (hjob : job ∈ w.db.cleanups.rows) : w.KnownJob job where
  drawn := hdrawn job hjob
  only _ hrow hid := Table.eq_of_key hrow hjob hid

theorem begin_advances (hdrawn : ∀ job ∈ w.db.cleanups.rows, job.id ∈ w.drawnJobs)
    (hstep : w.begin id transaction = some after) : Advances w after id transaction := by
  unfold begin at hstep
  split at hstep
  · rw [← Option.some.inj hstep]
    apply stage_advances
    intro writes hwrites
    obtain ⟨row, hdraft, _, hsame⟩ := createContent_facts hwrites
    rw [hsame]
    refine ⟨by simp, fun created hcreated => ?_, by simp, by simp, by simp, rfl, rfl⟩
    rw [← Option.some.inj hcreated]
    exact hdraft
  · split at hstep
    · rename_i hfree
      rw [← Option.some.inj hstep]
      exact ⟨.serialized, serialize_moves hfree, rfl⟩
    · exact absurd hstep (by simp)
  case h_8 recapId _ =>
    rw [← Option.some.inj hstep]
    apply setPhase_advances _ rfl
    intro job hjob
    exact known_of_queued hdrawn (List.mem_filter.mp hjob).1
  case h_9 recapId _ =>
    rw [← Option.some.inj hstep]
    exact setPhase_advances trivial rfl
  all_goals
    rename_i hrequest
    refine load_advances hstep (by rw [hrequest]; rfl) fun payload jobId hstatus => ?_
    rw [hrequest] at hstatus
    exact absurd hstatus (by simp)

end Loading

section Ranked

theorem mem_rankedRecaps {recaps : Table Recap} {recap : Recap} :
    recap ∈ rankedRecaps recaps ↔ recap ∈ recaps.rows ∧ recap.isPublished = true := by
  rw [rankedRecaps, List.mem_insertionSort, publishedRecaps, List.mem_filter]

theorem rankedRecaps_ids (recaps : Table Recap) :
    ((rankedRecaps recaps).map (·.id)).Nodup := by
  have hperm := (List.perm_insertionSort (fun first second : Recap =>
    second.rankKey ≤ first.rankKey) (publishedRecaps recaps)).map (·.id)
  apply hperm.nodup_iff.mpr
  exact (List.filter_sublist.map _).nodup recaps.nodup

/-- The eviction query returns its rows in strict order. -/
theorem rankedRecaps_sorted (recaps : Table Recap) :
    ((rankedRecaps recaps).map (·.rankKey)).Pairwise fun first second => second < first := by
  have hweak : (rankedRecaps recaps).Pairwise fun first second : Recap =>
      second.rankKey ≤ first.rankKey := by
    have : Std.Total fun first second : WithTop Int ×ₗ Nat => second ≤ first :=
      ⟨fun first second => le_total second first⟩
    have : IsTrans (WithTop Int ×ₗ Nat) fun first second => second ≤ first :=
      ⟨fun first second third hfirst hsecond => le_trans hsecond hfirst⟩
    exact @pairwise_insertionSort_key _ _ Recap.rankKey
      (fun first second : WithTop Int ×ₗ Nat => second ≤ first) _ _ _ (publishedRecaps recaps)
  have hdistinct : (rankedRecaps recaps).Pairwise fun first second : Recap =>
      first.id ≠ second.id := List.pairwise_map.mp (rankedRecaps_ids recaps)
  rw [List.pairwise_map]
  refine (hweak.and hdistinct).imp ?_
  intro first second ⟨hle, hne⟩
  apply lt_of_le_of_ne hle
  intro hsame
  exact hne (Recap.rankKey_inj_id hsame).symm

/-- The snapshot of the eviction query. -/
theorem ranking_start {row : Recap} : w.Ranking id row (rankedRecaps (w.db.recaps.put row)) [] where
  sorted := rankedRecaps_sorted _
  ids := rankedRecaps_ids _
  locked recap hrecap := absurd hrecap (by simp)
  cover recap hmem hpublished :=
    Or.inr ⟨recap, mem_rankedRecaps.mpr ⟨hmem, hpublished⟩, rfl⟩

variable {row next : Recap} {waiting kept : List Recap}

/-- A row of the query which is published no longer is skipped. -/
theorem Ranking.skip (h : w.Ranking id row (next :: waiting) kept)
    (hgone : ∀ recap ∈ (w.db.recaps.put row).rows, recap.isPublished = true →
      recap.id ≠ next.id) : w.Ranking id row waiting kept where
  sorted := by
    have hsub := List.Sublist.append_left (List.sublist_cons_self next waiting) kept
    exact List.Pairwise.sublist (hsub.map _) h.sorted
  ids := by
    have hsub := List.Sublist.append_left (List.sublist_cons_self next waiting) kept
    exact List.Nodup.sublist (hsub.map _) h.ids
  locked := h.locked
  cover recap hmem hpublished := by
    rcases h.cover recap hmem hpublished with hkept | ⟨seen, hseen, hkey⟩
    · exact Or.inl hkept
    · rcases List.mem_cons.mp hseen with hnext | hwaiting
      · rw [hnext] at hkey
        exact absurd (Recap.rankKey_inj_id hkey).symm (hgone recap hmem hpublished)
      · exact Or.inr ⟨seen, hwaiting, hkey⟩

/-- The current version of the next row has the rank of the row in the snapshot. -/
theorem Ranking.rankKey_next {current : Recap} (h : w.Ranking id row (next :: waiting) kept)
    (hmem : current ∈ (w.db.recaps.put row).rows) (hpublished : current.isPublished = true)
    (hid : current.id = next.id) : current.rankKey = next.rankKey := by
  have hnodup := h.ids
  rw [List.map_append, List.map_cons, List.nodup_append] at hnodup
  rcases h.cover current hmem hpublished with hkept | ⟨seen, hseen, hkey⟩
  · have hfirst : current.id ∈ kept.map (·.id) := List.mem_map.mpr ⟨current, hkept, rfl⟩
    exact absurd hid (hnodup.2.2 current.id hfirst next.id List.mem_cons_self)
  · rcases List.mem_cons.mp hseen with hnext | hwaiting
    · rw [← hkey, hnext]
    · have hlater : next.id ∈ waiting.map (·.id) := by
        rw [← hid, ← Recap.rankKey_inj_id hkey]
        exact List.mem_map.mpr ⟨seen, hwaiting, rfl⟩
      exact absurd hlater (List.nodup_cons.mp hnodup.2.1).1

/-- A published row is kept in its current version. -/
theorem Ranking.keep {current : Recap} (h : w.Ranking id row (next :: waiting) kept)
    (hmem : current ∈ (w.db.recaps.put row).rows) (hpublished : current.isPublished = true)
    (hid : current.id = next.id) (hlocked : w.recapLocks current.id = some id) :
    w.Ranking id row waiting (kept ++ [current]) := by
  have hkey := h.rankKey_next hmem hpublished hid
  constructor
  · have hsorted := h.sorted
    rw [List.map_append, List.map_cons, ← hkey] at hsorted
    simpa using hsorted
  · have hids := h.ids
    rw [List.map_append, List.map_cons, ← hid] at hids
    simpa using hids
  · intro recap hrecap
    rcases List.mem_append.mp hrecap with hkept | hnew
    · exact h.locked recap hkept
    · rw [List.mem_singleton.mp hnew]
      exact ⟨hmem, hpublished, hlocked⟩
  · intro recap hother hotherPublished
    rcases h.cover recap hother hotherPublished with hkept | ⟨seen, hseen, hseenKey⟩
    · exact Or.inl (List.mem_append_left _ hkept)
    · rcases List.mem_cons.mp hseen with hnext | hwaiting
      · rw [hnext] at hseenKey
        have hsame : recap = current := by
          apply Table.eq_of_key hother hmem
          exact (Recap.rankKey_inj_id hseenKey).symm.trans hid.symm
        rw [hsame]
        exact Or.inl (List.mem_append_right _ (List.mem_singleton.mpr rfl))
      · exact Or.inr ⟨seen, hwaiting, hseenKey⟩

theorem rankNext_advances
    (hfacts : w.PhaseFacts id transaction.request (.ranking row (next :: waiting) kept))
    (hstep : w.rankNext id transaction row next waiting kept = some after) :
    Advances w after id transaction := by
  unfold rankNext at hstep
  by_cases hfree : w.isFree id next.id = true
  · rw [if_pos hfree] at hstep
    dsimp only at hstep
    cases hcurrent : (w.seenRecap row next.id).filter (·.isPublished) with
    | none =>
        rw [hcurrent, Option.toList_none, List.append_nil] at hstep
        rw [← Option.some.inj hstep]
        have hmoves : Moves w ((w.takeRow id next.id).setPhase id transaction
            (.ranking row waiting kept)) id transaction _ := takeRow_moves hfree
        obtain ⟨hrequest, hpublishing, hranking⟩ := (hmoves.preserves_self rfl).phaseFacts hfacts
        refine ⟨_, hmoves, hrequest, hpublishing, hranking.skip ?_⟩
        intro recap hmem hpublished hid
        have hseen : w.seenRecap row next.id = some recap :=
          Table.get?_eq_some_iff.mpr ⟨hmem, hid⟩
        rw [hseen, Option.filter_some, if_pos hpublished] at hcurrent
        exact absurd hcurrent (by simp)
    | some current =>
        rw [hcurrent, Option.toList_some] at hstep
        rw [← Option.some.inj hstep]
        have hmoves : Moves w ((w.takeRow id next.id).setPhase id transaction
            (.ranking row waiting (kept ++ [current]))) id transaction _ := takeRow_moves hfree
        obtain ⟨hrequest, hpublishing, hranking⟩ := (hmoves.preserves_self rfl).phaseFacts hfacts
        obtain ⟨hseen, hpublished⟩ := Option.filter_eq_some_iff.mp hcurrent
        obtain ⟨hmem, hid⟩ := Table.get?_eq_some_iff.mp hseen
        refine ⟨_, hmoves, hrequest, hpublishing, hranking.keep hmem hpublished hid ?_⟩
        have hlock : current.id = next.id := hid
        rw [hlock]
        exact takeRow_self w id next.id
  · rw [if_neg hfree] at hstep
    exact absurd hstep (by simp)

end Ranked

section Changes

variable {recap : Recap}

theorem changeStatus_advances {payload : RecapStatusUpdate} {jobId : String → Nat}
    (hloaded : w.Loaded id recap) (hrequest : transaction.request = .status payload jobId)
    (htarget : payload.recapId = recap.id) (hserialized : w.publicationLock = some id) :
    Advances w (w.changeStatus id transaction payload recap) id transaction := by
  unfold changeStatus
  cases hstatus : statusRecap w.db payload recap w.now with
  | error error => exact reject_advances w id transaction
  | ok row =>
      have hrow := statusRecap_eq_ok hstatus
      dsimp only
      by_cases hpublish : recap.status ≠ payload.status ∧ payload.status = .published
      · rw [if_pos hpublish]
        have hchanged : recap.status ≠ .published := by
          rw [← hpublish.2]
          exact hpublish.1
        have hversion : recap.Publishes row := by
          rw [hrow, hpublish.2]
          exact Recap.transition_publishes hchanged hloaded.live
        have hlocked : w.recapLocks row.id = some id := by
          rw [hversion.id]
          exact hloaded.locked
        have hpublishes : transaction.request.PublishesRow row :=
          ⟨payload, jobId, hrequest, hpublish.2, htarget.trans hversion.id.symm⟩
        have hfacts : w.PhaseFacts id transaction.request (.published row) :=
          ⟨hpublishes, hserialized, hlocked, recap, hloaded.mem, hversion⟩
        exact setPhase_advances hfacts rfl
      · rw [if_neg hpublish]
        have hstaged : RecapWrites.StagedFor { updated := some row } recap := by
          refine ⟨rfl, fun version hupdated => ?_, by simp, by simp, by simp, rfl, rfl⟩
          rw [← Option.some.inj hupdated, hrow]
          exact Recap.transition_keeps hpublish
        have hfacts : w.PhaseFacts id transaction.request (.flushed { updated := some row }) :=
          Or.inl (hloaded.plainWrites hstaged)
        exact setPhase_advances hfacts rfl

theorem change_advances (hfacts : w.PhaseFacts id transaction.request (.loaded recap))
    (hstep : w.change id transaction recap = some after) : Advances w after id transaction := by
  obtain ⟨hloaded, htarget, hserialized⟩ := hfacts
  unfold change at hstep
  split at hstep
  · rename_i payload jobId hrequest
    rw [← Option.some.inj hstep]
    rw [hrequest] at htarget
    exact changeStatus_advances hloaded hrequest (Option.some.inj htarget)
      (hserialized payload jobId hrequest)
  case h_7 => exact absurd hstep (by simp)
  all_goals
    rw [← Option.some.inj hstep]
    apply stage_advances
    intro writes hwrites
    apply hloaded.plainWrites
  · exact saveContent_staged hwrites
  · exact savePhotos_staged hwrites
  · exact uploadPhoto_staged hwrites
  · exact deletePhoto_staged hwrites
  · exact deleteRecap_staged hwrites

end Changes

section Evictions

variable {row old : Recap} {kept victims : List Recap} {writes : RecapWrites}

theorem Evicting.start (hpublishing : w.Publishing id row)
    (hranking : w.Ranking id row [] kept) :
    w.Evicting id row kept (kept.drop maxPublishedRecaps) { updated := some row } where
  publishing := hpublishing
  ranking := hranking
  overflow := rfl
  rows := rfl
  queued recapId hrecap := absurd hrecap (by simp)

theorem mem_imagesFor {db : RecapDatabase} {photo : RecapPhoto} {image : RecapImage}
    (hphoto : photo ∈ db.photos.rows) (himage : image ∈ db.images.rows)
    (hof : image.photoId = photo.id) : image ∈ db.imagesFor photo.recapId := by
  rw [RecapDatabase.imagesFor, List.mem_filter, List.any_eq_true]
  exact ⟨himage, photo, hphoto, by simp [hof]⟩

/-- One turn of the loop queues the images of the recap which it evicts. -/
theorem Evicting.evict (h : w.Evicting id row kept (old :: victims) writes)
    (jobId : String → Nat) :
    w.Evicting id row kept victims (writes.evict w.db jobId old) where
  publishing := h.publishing
  ranking := h.ranking
  overflow := by
    rw [h.overflow, RecapWrites.evict, List.map_cons, List.append_assoc, List.singleton_append]
  rows := by
    have hrows := h.rows
    rw [hrows]
    rfl
  queued := by
    intro recapId hrecap photo hphoto howner image himage hof
    rcases List.mem_append.mp hrecap with hearlier | hnew
    · obtain ⟨job, hjob, hsame⟩ := h.queued recapId hearlier photo hphoto howner image himage hof
      exact ⟨job, List.mem_append_left _ hjob, hsame⟩
    · have hid := List.mem_singleton.mp hnew
      have hmem := mem_imagesFor hphoto himage hof
      rw [howner, hid] at hmem
      refine ⟨⟨jobId image.objectKey, old.id, image.objectKey⟩, ?_, hid.symm, rfl⟩
      exact List.mem_append_right _ (List.mem_map.mpr ⟨image, hmem, rfl⟩)

end Evictions

section Cleanups

variable {job : RecapMediaCleanup} {jobs : List RecapMediaCleanup}

theorem cleanNext_advances (hknown : ∀ known ∈ job :: jobs, w.KnownJob known) :
    Advances w (w.cleanNext id transaction job jobs) id transaction := by
  unfold cleanNext
  split
  · apply setPhase_advances _ rfl
    intro known hmem
    exact hknown known (List.mem_cons_of_mem job hmem)
  · exact setPhase_advances hknown rfl

/-- A queued deletion goes when its object has gone. -/
theorem forget_moves (hknown : w.KnownJob job) (hgone : job.objectKey ∈ w.acknowledged) :
    Moves w ({ w with
        db := { w.db with cleanups := w.db.cleanups.delete fun other => other.id = job.id }
      }.setPhase id transaction phase) id transaction phase where
  transactions := rfl
  recaps := rfl
  photos := rfl
  images := rfl
  cleanups _ hother := (Table.mem_delete_iff.mp hother).1
  durable other hother := by
    by_cases hid : other.id = job.id
    · rw [hknown.only other hother hid]
      exact Or.inr hgone
    · exact Or.inl (Table.mem_delete_iff.mpr ⟨hother, by simp [hid]⟩)
  drawn := rfl
  acknowledged _ hkey := hkey
  publication _ _ hlock := hlock
  locks _ _ _ hlock := hlock
  heldPublication _ hlock := hlock
  heldLocks _ _ hlock := hlock

theorem answer_advances {answer : StorageAnswer}
    (hfacts : w.PhaseFacts id transaction.request transaction.phase)
    (hstep : w.answer id transaction answer = some after) :
    Advances w after id transaction := by
  unfold RecapWorld.answer at hstep
  split at hstep
  · rename_i job jobs hphase
    rw [hphase] at hfacts
    rw [← Option.some.inj hstep]
    by_cases hfailed : answer = .failed
    · rw [if_pos hfailed]
      apply setPhase_advances _ rfl
      intro known hmem
      exact hfacts known (List.mem_cons_of_mem job hmem)
    · rw [if_neg hfailed]
      have hmoves := acknowledge_moves w id transaction (.deletedObject job jobs) job.objectKey
      have hkept := (hmoves.preserves_self rfl).phaseFacts hfacts
      exact ⟨_, hmoves, hkept, List.mem_cons_self⟩
  · rename_i image images deletedImages hphase
    rw [← Option.some.inj hstep]
    by_cases hdeleted : answer = .deleted
    · rw [if_pos hdeleted]
      exact ⟨_, acknowledge_moves w id transaction _ image.objectKey, trivial⟩
    · rw [if_neg hdeleted]
      exact setPhase_advances trivial rfl
  · exact absurd hstep (by simp)

end Cleanups

theorem advance_advances (hdrawn : ∀ job ∈ w.db.cleanups.rows, job.id ∈ w.drawnJobs)
    (hfacts : w.PhaseFacts id transaction.request transaction.phase)
    (hstep : w.advance id transaction = some after) : Advances w after id transaction := by
  unfold advance at hstep
  split at hstep <;> rename_i hphase
  · exact begin_advances hdrawn hstep
  · rw [hphase] at hfacts
    obtain ⟨recapId, htarget, hload⟩ := Option.bind_eq_some_iff.mp hstep
    exact load_advances hload htarget fun _ _ _ => hfacts
  · rw [hphase] at hfacts
    exact change_advances hfacts hstep
  · rw [hphase] at hfacts
    rw [← Option.some.inj hstep]
    exact setPhase_advances ⟨hfacts.1, hfacts.2, ranking_start⟩ rfl
  · rw [hphase] at hfacts
    exact rankNext_advances hfacts hstep
  · rw [hphase] at hfacts
    rw [← Option.some.inj hstep]
    exact setPhase_advances ⟨hfacts.1, _, .start hfacts.2.1 hfacts.2.2⟩ rfl
  · rw [hphase] at hfacts
    rw [← Option.some.inj hstep]
    obtain ⟨hrequest, kept, hevicting⟩ := hfacts
    exact setPhase_advances ⟨hrequest, kept, hevicting.evict _⟩ rfl
  · rename_i row writes
    rw [hphase] at hfacts
    rw [← Option.some.inj hstep]
    obtain ⟨hrequest, kept, hevicting⟩ := hfacts
    have hflushed : w.PhaseFacts id transaction.request (.flushed writes) :=
      Or.inr ⟨row, kept, hrequest, hevicting⟩
    exact setPhase_advances hflushed rfl
  · rw [← Option.some.inj hstep]
    exact ⟨.succeeded, finish_moves w id transaction rfl, trivial⟩
  · rw [hphase] at hfacts
    rw [← Option.some.inj hstep]
    exact cleanNext_advances hfacts
  · rename_i job jobs
    rw [hphase] at hfacts
    rw [← Option.some.inj hstep]
    have hmoves : Moves w _ id transaction (.cleaning jobs) :=
      forget_moves (hfacts.1 job List.mem_cons_self) hfacts.2
    refine ⟨_, hmoves, fun known hmem => ?_⟩
    exact (hmoves.preserves_self rfl).knownJob (hfacts.1 known (List.mem_cons_of_mem job hmem))
  · rename_i deletedImages
    rw [← Option.some.inj hstep]
    have hplain : w.PlainWrites id { deletedImages := deletedImages } :=
      ⟨by simp, by simp, by simp, by simp, by simp, rfl, rfl⟩
    have hflushed : w.PhaseFacts id transaction.request
        (.flushed { deletedImages := deletedImages }) := Or.inl hplain
    exact setPhase_advances hflushed rfl
  · exact absurd hstep (by simp)

end RecapWorld

end BuddyWeb
