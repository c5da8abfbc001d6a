/-
The rolling retention of published recaps: a publication evicts the overflow in its own commit.
-/
import BuddyWeb.Recap.RetentionSteps

namespace BuddyWeb

/-- The published recap comes after the nine greatest. -/
def Overflows (recaps : Table Recap) (recap : Recap) : Prop :=
  recap ∈ recaps.rows ∧ recap.isPublished = true ∧
    maxPublishedRecaps ≤ rankIn Recap.Outranks (publishedRecaps recaps) recap

namespace RecapWorld

/-- The row which a commit adds to the published recaps. -/
def publishedBy (w : RecapWorld) : RecapLabel → Option Recap
  | .commit id => (w.transactions id).bind fun transaction =>
      match transaction.phase with
      | .flushed writes => writes.updated.filter fun row =>
          row.isPublished && !(w.db.recaps.get? row.id).any (·.isPublished)
      | _ => none
  | _ => none

/-- What a step leaves of the recaps. -/
structure Retains (w : RecapWorld) (label : RecapLabel) (after : RecapWorld) : Prop where
  bound : (publishedRecaps after.db.recaps).length ≤ maxPublishedRecaps
  /-- Only a status transition publishes. -/
  transition : ∀ row, w.publishedBy label = some row → ∃ id payload jobId writes,
    label = .commit id ∧
      w.transactions id = some ⟨.status payload jobId, .flushed writes⟩ ∧
      payload.recapId = row.id ∧ payload.status = .published
  /-- The commit of a publication is the commit of its evictions. -/
  retained : ∀ row, w.publishedBy label = some row → ∀ recap,
    recap ∈ after.db.recaps.rows ↔
      recap ∈ (w.db.recaps.put row).rows ∧ ¬ Overflows (w.db.recaps.put row) recap
  queued : ∀ row, w.publishedBy label = some row → ∀ recap,
    Overflows (w.db.recaps.put row) recap → ∀ photo ∈ w.db.photos.rows,
      photo.recapId = recap.id → ∀ image ∈ w.db.images.rows, image.photoId = photo.id →
        ∃ job ∈ after.db.cleanups.rows, job.recapId = recap.id ∧
          job.objectKey = image.objectKey
  /-- No other step evicts. -/
  undisturbed : w.publishedBy label = none → ∀ old ∈ w.db.recaps.rows,
    ∃ recap ∈ after.db.recaps.rows, recap.id = old.id
  clock : ∀ old ∈ w.db.recaps.rows, ∀ recap ∈ after.db.recaps.rows, recap.id = old.id →
    ∀ instant, old.firstPublishedAt = some instant → recap.firstPublishedAt = some instant
  clockSet : ∀ old ∈ w.db.recaps.rows, ∀ recap ∈ after.db.recaps.rows, recap.id = old.id →
    old.firstPublishedAt = none → recap.firstPublishedAt.isSome = true →
      w.publishedBy label = some recap
  /-- A queued deletion stays until the storage has answered for its object. -/
  durable : ∀ job ∈ w.db.cleanups.rows,
    job ∈ after.db.cleanups.rows ∨ job.objectKey ∈ after.acknowledged

section Commits

variable {w after : RecapWorld} {id : Nat} {transaction : RecapTransaction}
  {writes : RecapWrites} {db : RecapDatabase}

/-- The state after the commit of staged rows. -/
def committed (w : RecapWorld) (id : Nat) (transaction : RecapTransaction)
    (writes : RecapWrites) (db : RecapDatabase) : RecapWorld :=
  { w.finish id transaction .succeeded with
    db := db
    drawnJobs := writes.jobs.map (·.id) ++ w.drawnJobs }

theorem commit_cases (hstep : w.commit id transaction = some after) :
    ∃ writes db, transaction.phase = .flushed writes ∧
      (∀ job ∈ writes.jobs, job.id ∉ w.drawnJobs) ∧ writes.applyTo w.db = some db ∧
      after = w.committed id transaction writes db := by
  unfold commit at hstep
  split at hstep
  · rename_i writes hphase
    split at hstep
    · rename_i hfresh
      obtain ⟨db, hdb, hafter⟩ := Option.map_eq_some_iff.mp hstep
      refine ⟨writes, db, hphase, fun job hjob => ?_, hdb, hafter.symm⟩
      simpa using List.all_eq_true.mp hfresh job hjob
    · exact absurd hstep (by simp)
  · exact absurd hstep (by simp)

/-- What a commit does whatever it commits. -/
structure Commits (w : RecapWorld) (writes : RecapWrites) (db : RecapDatabase) : Prop where
  fresh : ∀ job ∈ writes.jobs, job.id ∉ w.drawnJobs
  applied : writes.Applied w.db db

theorem Commits.mem_cleanups (h : w.Commits writes db) {job : RecapMediaCleanup} :
    job ∈ db.cleanups.rows ↔ job ∈ writes.jobs ∨ job ∈ w.db.cleanups.rows :=
  Table.mem_insertAll? h.applied.cleanups

/-- Committed rows which leave what another transaction has locked are no matter to it. -/
theorem Commits.preserves (h : w.Commits writes db) {other : Nat} (hother : other ≠ id)
    (hlocked : ∀ recap ∈ w.db.recaps.rows, w.recapLocks recap.id = some other →
      recap ∈ db.recaps.rows)
    (hpublished : w.publicationLock = some other → ∀ recap ∈ db.recaps.rows,
      recap.isPublished = true → ∃ old ∈ w.db.recaps.rows, old.isPublished = true ∧
        old.rankKey = recap.rankKey)
    (hphotos : ∀ photo ∈ db.photos.rows, w.recapLocks photo.recapId = some other →
      photo ∈ w.db.photos.rows)
    (himages : ∀ photo ∈ w.db.photos.rows, ∀ image ∈ db.images.rows,
      image.photoId = photo.id → image ∈ w.db.images.rows) :
    Preserves w (w.committed id transaction writes db) other where
  publication hlock := release_other hother hlock
  locks _ hlock := release_other hother hlock
  locked := hlocked
  published := hpublished
  photos := hphotos
  images := himages
  drawn _ hjob := List.mem_append_right _ hjob
  cleanups job hjob := by
    rcases h.mem_cleanups.mp hjob with hnew | hold
    · exact Or.inr (h.fresh job hnew)
    · exact Or.inl hold
  acknowledged _ hkey := hkey

/-- A commit keeps the invariant when it keeps the bound and what the others have locked. -/
theorem RetentionFacts.of_commit (hfacts : w.RetentionFacts) (h : w.Commits writes db)
    (hbound : (publishedRecaps db.recaps).length ≤ maxPublishedRecaps)
    (hothers : ∀ other, other ≠ id →
      Preserves w (w.committed id transaction writes db) other) :
    (w.committed id transaction writes db).RetentionFacts where
  bound := hbound
  drawn job hjob := by
    rcases h.mem_cleanups.mp hjob with hnew | hold
    · exact List.mem_append_left _ (List.mem_map.mpr ⟨job, hnew, rfl⟩)
    · exact List.mem_append_right _ (hfacts.drawn job hold)
  phases other state hstate := by
    by_cases hother : other = id
    · rw [hother] at hstate
      have hself : (w.committed id transaction writes db).transactions id =
          some { transaction with phase := .succeeded } := Function.update_self ..
      rw [hself] at hstate
      rw [← Option.some.inj hstate]
      trivial
    · have hsame : (w.committed id transaction writes db).transactions other =
          w.transactions other := Function.update_of_ne hother ..
      rw [hsame] at hstate
      exact (hothers other hother).phaseFacts (hfacts.phases other state hstate)

end Commits

section Plain

variable {w : RecapWorld} {id : Nat} {transaction : RecapTransaction} {writes : RecapWrites}
  {db : RecapDatabase}

/-- The recaps after a commit which evicts nothing. -/
theorem PlainWrites.stored (h : w.PlainWrites id writes) (hcommits : w.Commits writes db) :
    ∃ recaps, writes.storedRecaps w.db.recaps = some recaps ∧
      ∀ recap, recap ∈ db.recaps.rows ↔ recap ∈ recaps.rows := by
  obtain ⟨recaps, hstored, hafter⟩ := hcommits.applied.recaps
  refine ⟨recaps, hstored, fun recap => ?_⟩
  rw [hafter, Table.mem_delete_iff, h.evicted]
  simp

/-- Each recap is new or a version of a recap. -/
theorem PlainWrites.version (h : w.PlainWrites id writes) (hcommits : w.Commits writes db)
    {recap : Recap} (hrecap : recap ∈ db.recaps.rows) :
    recap ∈ writes.created ∨ ∃ old ∈ w.db.recaps.rows, old.Keeps recap := by
  obtain ⟨recaps, hstored, hmem⟩ := h.stored hcommits
  rcases (Table.mem_insertAll? hstored).mp ((hmem recap).mp hrecap) with hcreated | hput
  · exact Or.inl (Option.mem_toList.mp hcreated)
  · rcases Table.mem_putAll_cases hput with hupdated | hold
    · exact Or.inr (h.updated recap (Option.mem_toList.mp hupdated)).2
    · exact Or.inr ⟨recap, hold, .refl recap⟩

/-- A recap without a new version stays as it is. -/
theorem PlainWrites.mem_of_not_updated (h : w.PlainWrites id writes)
    (hcommits : w.Commits writes db) {recap : Recap} (hrecap : recap ∈ w.db.recaps.rows)
    (hother : ∀ row ∈ writes.updated, recap.id ≠ row.id) : recap ∈ db.recaps.rows := by
  obtain ⟨recaps, hstored, hmem⟩ := h.stored hcommits
  apply (hmem recap).mpr
  apply (Table.mem_insertAll? hstored).mpr
  apply Or.inr
  cases hupdated : writes.updated with
  | none => exact hrecap
  | some row =>
      rw [hupdated] at hother
      exact Table.mem_put_of_ne hrecap (hother row rfl)

theorem PlainWrites.exists_id (h : w.PlainWrites id writes) (hcommits : w.Commits writes db)
    {old : Recap} (hold : old ∈ w.db.recaps.rows) :
    ∃ recap ∈ db.recaps.rows, recap.id = old.id := by
  obtain ⟨recaps, hstored, hmem⟩ := h.stored hcommits
  obtain ⟨recap, hrecap, hid⟩ := Table.exists_key_of_putAll writes.updated.toList hold
  exact ⟨recap, (hmem recap).mpr ((Table.mem_insertAll? hstored).mpr (Or.inr hrecap)), hid⟩

theorem PlainWrites.created_ne (h : w.PlainWrites id writes) (hcommits : w.Commits writes db)
    {recap old : Recap} (hrecap : recap ∈ writes.created) (hold : old ∈ w.db.recaps.rows) :
    recap.id ≠ old.id := by
  obtain ⟨recaps, hstored, _⟩ := h.stored hcommits
  obtain ⟨other, hother, hid⟩ := Table.exists_key_of_putAll writes.updated.toList hold
  intro hsame
  have hfresh := Table.insertAll?_key_ne hstored (Option.mem_toList.mpr hrecap) hother
  exact hfresh (hsame.trans hid.symm)

/-- A recap of the committed tables is a version of the one with its identifier. -/
theorem PlainWrites.keeps (h : w.PlainWrites id writes) (hcommits : w.Commits writes db)
    {old recap : Recap} (hold : old ∈ w.db.recaps.rows) (hrecap : recap ∈ db.recaps.rows)
    (hid : recap.id = old.id) : old.Keeps recap := by
  rcases h.version hcommits hrecap with hcreated | ⟨other, hother, hkeeps⟩
  · exact absurd hid (h.created_ne hcommits hcreated hold)
  · have hsame : other = old := Table.eq_of_key hother hold (hkeeps.id.symm.trans hid)
    rw [← hsame]
    exact hkeeps

/-- Nothing is added to the published recaps. -/
theorem PlainWrites.bound (h : w.PlainWrites id writes) (hcommits : w.Commits writes db) :
    (publishedRecaps db.recaps).length ≤ (publishedRecaps w.db.recaps).length := by
  have hnodup : ((publishedRecaps db.recaps).map (·.id)).Nodup :=
    (List.filter_sublist.map _).nodup db.recaps.nodup
  have hsub : (publishedRecaps db.recaps).map (·.id) ⊆
      (publishedRecaps w.db.recaps).map (·.id) := by
    intro recapId hrecap
    obtain ⟨recap, hmem, hid⟩ := List.mem_map.mp hrecap
    obtain ⟨hrow, hpublished⟩ := List.mem_filter.mp hmem
    rcases h.version hcommits hrow with hcreated | ⟨old, hold, hkeeps⟩
    · rw [h.created recap hcreated] at hpublished
      exact absurd hpublished (by simp)
    · refine List.mem_map.mpr ⟨old, ?_, hkeeps.id.symm.trans hid⟩
      exact List.mem_filter.mpr ⟨hold, hkeeps.published hpublished⟩
  have hle := (hnodup.subperm hsub).length_le
  rwa [List.length_map, List.length_map] at hle

theorem PlainWrites.preserves (h : w.PlainWrites id writes) (hcommits : w.Commits writes db)
    {other : Nat} (hother : other ≠ id) :
    Preserves w (w.committed id transaction writes db) other := by
  have hforeign : ∀ {recapId : Nat}, w.recapLocks recapId = some id →
      w.recapLocks recapId ≠ some other := by
    intro recapId hown hlock
    exact hother (Option.some.inj (hlock.symm.trans hown))
  obtain ⟨photos, hphotos, hafter⟩ := hcommits.applied.photos
  apply hcommits.preserves hother
  · intro recap hrecap hlock
    apply h.mem_of_not_updated hcommits hrecap
    intro row hrow hid
    have hown := (h.updated row hrow).1
    rw [← hid] at hown
    exact hforeign hown hlock
  · intro _ recap hrecap hpublished
    rcases h.version hcommits hrecap with hcreated | ⟨old, hold, hkeeps⟩
    · rw [h.created recap hcreated] at hpublished
      exact absurd hpublished (by simp)
    · exact ⟨old, hold, hkeeps.published hpublished, hkeeps.rankKey.symm⟩
  · intro photo hphoto hlock
    rw [hafter] at hphoto
    have hstored := (Table.mem_delete_iff.mp hphoto).1
    rcases (Table.mem_insertAll? hphotos).mp hstored with hnew | hput
    · exact absurd hlock (hforeign (h.photo photo (Option.mem_toList.mp hnew)))
    · rcases Table.mem_putAll_cases hput with hupdated | hold
      · exact absurd hlock (hforeign (h.photos photo hupdated))
      · exact hold
  · intro photo hphoto image himage hof
    obtain ⟨images, himages, hkept⟩ := hcommits.applied.images
    rcases (Table.mem_insertAll? himages).mp (hkept image himage) with hnew | hold
    · -- The photo of a new image is new too.
      obtain ⟨inserted, hinserted, hid⟩ := h.images image hnew
      obtain ⟨seen, hseen, hsame⟩ := Table.exists_key_of_putAll writes.photos hphoto
      have hfresh := Table.insertAll?_key_ne hphotos (Option.mem_toList.mpr hinserted) hseen
      exact absurd (hid.trans (hof.trans hsame.symm)) hfresh
    · exact hold

end Plain

section Eviction

variable {w : RecapWorld} {id : Nat} {transaction : RecapTransaction} {row : Recap}
  {kept : List Recap} {writes : RecapWrites} {db : RecapDatabase}

theorem Evicting.updated (h : w.Evicting id row kept [] writes) : writes.updated = some row := by
  rw [h.rows]

/-- The recaps after the commit of a publication. -/
theorem Evicting.mem_recaps (h : w.Evicting id row kept [] writes)
    (hcommits : w.Commits writes db) {recap : Recap} :
    recap ∈ db.recaps.rows ↔
      recap ∈ (w.db.recaps.put row).rows ∧ recap.id ∉ writes.evicted := by
  obtain ⟨recaps, hstored, hafter⟩ := hcommits.applied.recaps
  rw [h.rows] at hstored
  have hput : w.db.recaps.put row = recaps := Option.some.inj hstored
  rw [hafter, Table.mem_delete_iff, ← hput, decide_eq_false_iff_not]

theorem Evicting.evicted (h : w.Evicting id row kept [] writes) :
    writes.evicted = (kept.drop maxPublishedRecaps).map (·.id) := by
  have hoverflow := h.overflow
  rw [List.map_nil, List.append_nil] at hoverflow
  exact hoverflow.symm

/-- The locked rows are the published recaps. -/
theorem Evicting.mem_kept (h : w.Evicting id row kept [] writes) {recap : Recap} :
    recap ∈ kept ↔ recap ∈ (w.db.recaps.put row).rows ∧ recap.isPublished = true := by
  constructor
  · intro hkept
    obtain ⟨hmem, hpublished, _⟩ := h.ranking.locked recap hkept
    exact ⟨hmem, hpublished⟩
  · rintro ⟨hmem, hpublished⟩
    rcases h.ranking.cover recap hmem hpublished with hkept | ⟨seen, hseen, _⟩
    · exact hkept
    · exact absurd hseen (by simp)

theorem Evicting.kept_sorted (h : w.Evicting id row kept [] writes) :
    kept.Pairwise Recap.Outranks := by
  have hsorted := h.ranking.sorted
  rw [List.append_nil, List.pairwise_map] at hsorted
  exact hsorted

theorem Evicting.kept_perm (h : w.Evicting id row kept [] writes) :
    kept.Perm (publishedRecaps (w.db.recaps.put row)) := by
  have hids := h.ranking.ids
  rw [List.append_nil] at hids
  have hpublished : (publishedRecaps (w.db.recaps.put row)).Nodup :=
    (List.filter_sublist).nodup (List.Nodup.of_map _ (w.db.recaps.put row).nodup)
  apply (List.perm_ext_iff_of_nodup (List.Nodup.of_map _ hids) hpublished).mpr
  intro recap
  rw [h.mem_kept, publishedRecaps, List.mem_filter]

/-- The evicted recaps are the overflow. -/
theorem Evicting.mem_evicted_iff (h : w.Evicting id row kept [] writes) {recap : Recap}
    (hmem : recap ∈ (w.db.recaps.put row).rows) :
    recap.id ∈ writes.evicted ↔ Overflows (w.db.recaps.put row) recap := by
  rw [h.evicted, List.mem_map, Overflows, ← rankIn_perm h.kept_perm]
  constructor
  · rintro ⟨other, hother, hid⟩
    have hkept := List.mem_of_mem_drop hother
    have hsame : other = recap := Table.eq_of_key (h.mem_kept.mp hkept).1 hmem hid
    rw [hsame] at hother hkept
    refine ⟨hmem, (h.mem_kept.mp hkept).2, ?_⟩
    exact (mem_drop_iff_rankIn Recap.outranks_asymm h.kept_sorted hkept _).mp hother
  · rintro ⟨_, hpublished, hrank⟩
    have hkept := h.mem_kept.mpr ⟨hmem, hpublished⟩
    exact ⟨recap, (mem_drop_iff_rankIn Recap.outranks_asymm h.kept_sorted hkept _).mpr hrank,
      rfl⟩

/-- What is published after the commit is among the nine greatest. -/
theorem Evicting.bound (h : w.Evicting id row kept [] writes) (hcommits : w.Commits writes db) :
    (publishedRecaps db.recaps).length ≤ maxPublishedRecaps := by
  have hnodup : (publishedRecaps db.recaps).Nodup :=
    (List.filter_sublist).nodup (List.Nodup.of_map _ db.recaps.nodup)
  have hsub : publishedRecaps db.recaps ⊆ kept.take maxPublishedRecaps := by
    intro recap hrecap
    obtain ⟨hrow, hpublished⟩ := List.mem_filter.mp hrecap
    obtain ⟨hmem, hretained⟩ := (h.mem_recaps hcommits).mp hrow
    have hkept := h.mem_kept.mpr ⟨hmem, hpublished⟩
    rw [← List.take_append_drop maxPublishedRecaps kept, List.mem_append] at hkept
    rcases hkept with htake | hdrop
    · exact htake
    · apply absurd _ hretained
      rw [h.evicted]
      exact List.mem_map.mpr ⟨recap, hdrop, rfl⟩
  apply le_trans (hnodup.subperm hsub).length_le
  rw [List.length_take]
  exact Nat.min_le_left _ _

theorem Evicting.preserves (h : w.Evicting id row kept [] writes)
    (hcommits : w.Commits writes db) {other : Nat} (hother : other ≠ id) :
    Preserves w (w.committed id transaction writes db) other := by
  apply hcommits.preserves hother
  · intro recap hrecap hlock
    have hforeign : ∀ {recapId : Nat}, w.recapLocks recapId = some id → recap.id ≠ recapId := by
      intro recapId hown hid
      rw [← hid, hlock] at hown
      exact hother (Option.some.inj hown)
    apply (h.mem_recaps hcommits).mpr
    constructor
    · exact Table.mem_put_of_ne hrecap (hforeign h.publishing.locked)
    · intro hevicted
      exact hforeign (h.locked hevicted) rfl
  · intro hserialized
    rw [h.publishing.serialized] at hserialized
    exact absurd (Option.some.inj hserialized).symm hother
  · intro photo hphoto _
    obtain ⟨photos, hphotos, hafter⟩ := hcommits.applied.photos
    rw [h.rows] at hphotos
    have hsame : w.db.photos = photos := Option.some.inj hphotos
    rw [hafter, ← hsame] at hphoto
    exact (Table.mem_delete_iff.mp hphoto).1
  · intro _ _ image himage _
    obtain ⟨images, himages, hkept⟩ := hcommits.applied.images
    rw [h.rows] at himages
    have hsame : w.db.images = images := Option.some.inj himages
    rw [hsame]
    exact hkept image himage

end Eviction

section Steps

variable {w after : RecapWorld} {id : Nat} {transaction : RecapTransaction}
  {label : RecapLabel}

theorem RetentionFacts.of_advances (h : w.RetentionFacts)
    (hstep : Advances w after id transaction) : after.RetentionFacts := by
  obtain ⟨phase, hmoves, hphase⟩ := hstep
  constructor
  · rw [hmoves.recaps]
    exact h.bound
  · intro job hjob
    rw [hmoves.drawn]
    exact h.drawn job (hmoves.cleanups job hjob)
  · intro other state hstate
    by_cases hother : other = id
    · rw [hother, hmoves.self] at hstate
      rw [hother, ← Option.some.inj hstate]
      exact hphase
    · rw [hmoves.of_ne hother] at hstate
      exact (hmoves.preserves_other hother).phaseFacts (h.phases other state hstate)

/-- The clock, the events and the start of a request are no matter to any transaction. -/
theorem outside_preserves (w : RecapWorld) (now : Int) (events : Table Event)
    (eventMediaKeys : List String) (transactions : Nat → Option RecapTransaction) :
    Preserves w { w with
      db := { w.db with events := events, eventMediaKeys := eventMediaKeys }
      now := now
      transactions := transactions } id where
  publication hlock := hlock
  locks _ hlock := hlock
  locked _ hrecap _ := hrecap
  published _ recap hrecap hpublished := ⟨recap, hrecap, hpublished, rfl⟩
  photos _ hphoto _ := hphoto
  images _ _ _ himage _ := himage
  drawn _ hjob := hjob
  cleanups _ hjob := Or.inl hjob
  acknowledged _ hkey := hkey

/-- A step which leaves the recaps. -/
theorem Retains.of_same (h : w.RetentionFacts) (hrecaps : after.db.recaps = w.db.recaps)
    (hnone : w.publishedBy label = none)
    (hdurable : ∀ job ∈ w.db.cleanups.rows,
      job ∈ after.db.cleanups.rows ∨ job.objectKey ∈ after.acknowledged) :
    Retains w label after := by
  have hversion : ∀ old ∈ w.db.recaps.rows, ∀ recap ∈ after.db.recaps.rows,
      recap.id = old.id → recap = old := by
    intro old hold recap hrecap hid
    rw [hrecaps] at hrecap
    exact Table.eq_of_key hrecap hold hid
  constructor
  · rw [hrecaps]
    exact h.bound
  · intro row hrow
    rw [hnone] at hrow
    exact absurd hrow (by simp)
  · intro row hrow
    rw [hnone] at hrow
    exact absurd hrow (by simp)
  · intro row hrow
    rw [hnone] at hrow
    exact absurd hrow (by simp)
  · intro _ old hold
    rw [hrecaps]
    exact ⟨old, hold, rfl⟩
  · intro old hold recap hrecap hid instant hinstant
    rw [hversion old hold recap hrecap hid]
    exact hinstant
  · intro old hold recap hrecap hid hunset hset
    rw [hversion old hold recap hrecap hid, hunset] at hset
    exact absurd hset (by simp)
  · exact hdurable

theorem publishedBy_commit {writes : RecapWrites}
    (htransaction : w.transactions id = some transaction)
    (hphase : transaction.phase = .flushed writes) :
    w.publishedBy (.commit id) = writes.updated.filter fun row =>
      row.isPublished && !(w.db.recaps.get? row.id).any (·.isPublished) := by
  change (w.transactions id).bind _ = _
  rw [htransaction, Option.bind_some, hphase]

/-- The commit of rows which publish nothing. -/
theorem PlainWrites.retains {writes : RecapWrites} {db : RecapDatabase} (hfacts : w.RetentionFacts)
    (h : w.PlainWrites id writes) (hcommits : w.Commits writes db)
    (htransaction : w.transactions id = some transaction)
    (hphase : transaction.phase = .flushed writes) :
    Retains w (.commit id) (w.committed id transaction writes db) := by
  have hnone : w.publishedBy (.commit id) = none := by
    rw [publishedBy_commit htransaction hphase, Option.filter_eq_none_iff]
    intro row hrow hpublish
    obtain ⟨_, old, hold, hkeeps⟩ := h.updated row hrow
    rw [Bool.and_eq_true] at hpublish
    have hget : w.db.recaps.get? row.id = some old :=
      Table.get?_eq_some_iff.mpr ⟨hold, hkeeps.id.symm⟩
    rw [hget, Option.any_some, hkeeps.published hpublish.1] at hpublish
    exact absurd hpublish.2 (by simp)
  constructor
  · exact le_trans (h.bound hcommits) hfacts.bound
  · intro row hrow
    rw [hnone] at hrow
    exact absurd hrow (by simp)
  · intro row hrow
    rw [hnone] at hrow
    exact absurd hrow (by simp)
  · intro row hrow
    rw [hnone] at hrow
    exact absurd hrow (by simp)
  · intro _ old hold
    exact h.exists_id hcommits hold
  · intro old hold recap hrecap hid instant hinstant
    rw [(h.keeps hcommits hold hrecap hid).clock]
    exact hinstant
  · intro old hold recap hrecap hid hunset hset
    rw [(h.keeps hcommits hold hrecap hid).clock, hunset] at hset
    exact absurd hset (by simp)
  · intro job hjob
    exact Or.inl (hcommits.mem_cleanups.mpr (Or.inr hjob))

/-- The commit of a publication with its evictions. -/
theorem Evicting.retains {writes : RecapWrites} {db : RecapDatabase} {row : Recap}
    {kept : List Recap} (h : w.Evicting id row kept [] writes) (hcommits : w.Commits writes db)
    (hrequest : transaction.request.PublishesRow row)
    (htransaction : w.transactions id = some transaction)
    (hphase : transaction.phase = .flushed writes) :
    Retains w (.commit id) (w.committed id transaction writes db) := by
  obtain ⟨version, hversion, hpublishes⟩ := h.publishing.version
  have hget : w.db.recaps.get? row.id = some version :=
    Table.get?_eq_some_iff.mpr ⟨hversion, hpublishes.id.symm⟩
  have hsome : w.publishedBy (.commit id) = some row := by
    rw [publishedBy_commit htransaction hphase, h.updated, Option.filter_some, hget,
      Option.any_some, hpublishes.after, hpublishes.before]
    rfl
  have hrow : ∀ {other : Recap}, w.publishedBy (.commit id) = some other → other = row := by
    intro other hother
    exact (Option.some.inj (hsome.symm.trans hother)).symm
  constructor
  · exact h.bound hcommits
  · intro other hother
    rw [hrow hother]
    obtain ⟨payload, jobId, hstatus, hpublished, htarget⟩ := hrequest
    refine ⟨id, payload, jobId, writes, rfl, ?_, htarget, hpublished⟩
    rw [htransaction, ← hstatus, ← hphase]
  · intro other hother recap
    rw [hrow hother]
    change recap ∈ db.recaps.rows ↔ _
    rw [h.mem_recaps hcommits]
    constructor
    · rintro ⟨hmem, hretained⟩
      exact ⟨hmem, fun hover => hretained ((h.mem_evicted_iff hmem).mpr hover)⟩
    · rintro ⟨hmem, hover⟩
      exact ⟨hmem, fun hevicted => hover ((h.mem_evicted_iff hmem).mp hevicted)⟩
  · intro other hother recap hover photo hphoto howner image himage hof
    rw [hrow hother] at hover
    have hevicted := (h.mem_evicted_iff hover.1).mpr hover
    obtain ⟨job, hjob, hsame⟩ := h.queued recap.id hevicted photo hphoto howner image himage hof
    exact ⟨job, hcommits.mem_cleanups.mpr (Or.inl hjob), hsame⟩
  · intro hnone
    rw [hsome] at hnone
    exact absurd hnone (by simp)
  · intro old hold recap hrecap hid instant hinstant
    rcases Table.mem_put_iff.mp ((h.mem_recaps hcommits).mp hrecap).1 with ⟨hsame, _⟩ | ⟨hmem, _⟩
    · have hold' : version = old := by
        apply Table.eq_of_key hversion hold
        rw [hsame] at hid
        exact hpublishes.id.symm.trans hid
      rw [hsame]
      apply hpublishes.clock
      rw [hold']
      exact hinstant
    · have hsame : recap = old := Table.eq_of_key hmem hold hid
      rw [hsame]
      exact hinstant
  · intro old hold recap hrecap hid hunset hset
    rcases Table.mem_put_iff.mp ((h.mem_recaps hcommits).mp hrecap).1 with ⟨hsame, _⟩ | ⟨hmem, _⟩
    · rw [hsame]
      exact hsome
    · have hsame : recap = old := Table.eq_of_key hmem hold hid
      rw [hsame, hunset] at hset
      exact absurd hset (by simp)
  · intro job hjob
    exact Or.inl (hcommits.mem_cleanups.mpr (Or.inr hjob))

/-- What one step keeps and what it leaves. -/
theorem RetentionFacts.step (h : w.RetentionFacts) (hstep : w.Step label after) :
    after.RetentionFacts ∧ Retains w label after := by
  unfold Step at hstep
  cases label with
  | start id request =>
      simp only [next] at hstep
      split at hstep
      · rw [← Option.some.inj hstep]
        refine ⟨⟨h.bound, h.drawn, fun other state hstate => ?_⟩, ?_⟩
        · by_cases hother : other = id
          · rw [hother] at hstate
            have hstarted := (Function.update_self ..).symm.trans hstate
            rw [← Option.some.inj hstarted]
            trivial
          · have hsame := (Function.update_of_ne hother ..).symm.trans hstate
            exact (outside_preserves w w.now w.db.events w.db.eventMediaKeys _).phaseFacts
              (h.phases other state hsame)
        · exact .of_same h rfl rfl fun _ hjob => Or.inl hjob
      · exact absurd hstep (by simp)
  | advance id =>
      obtain ⟨transaction, htransaction, hadvance⟩ := Option.bind_eq_some_iff.mp hstep
      have hadvances := advance_advances h.drawn (h.phases id transaction htransaction) hadvance
      refine ⟨h.of_advances hadvances, ?_⟩
      obtain ⟨_, hmoves, _⟩ := hadvances
      exact .of_same h hmoves.recaps rfl hmoves.durable
  | storage id answer =>
      obtain ⟨transaction, htransaction, hanswer⟩ := Option.bind_eq_some_iff.mp hstep
      have hadvances := answer_advances (h.phases id transaction htransaction) hanswer
      refine ⟨h.of_advances hadvances, ?_⟩
      obtain ⟨_, hmoves, _⟩ := hadvances
      exact .of_same h hmoves.recaps rfl hmoves.durable
  | commit id =>
      obtain ⟨transaction, htransaction, hcommit⟩ := Option.bind_eq_some_iff.mp hstep
      obtain ⟨writes, db, hphase, hfresh, hdb, hafter⟩ := commit_cases hcommit
      have hcommits : w.Commits writes db := ⟨hfresh, RecapWrites.applied_of_applyTo hdb⟩
      have hfacts := h.phases id transaction htransaction
      rw [hphase] at hfacts
      rw [hafter]
      rcases hfacts with hplain | ⟨row, kept, hrequest, hevicting⟩
      · constructor
        · apply h.of_commit hcommits (le_trans (hplain.bound hcommits) h.bound)
          intro other hother
          exact hplain.preserves hcommits hother
        · exact hplain.retains h hcommits htransaction hphase
      · constructor
        · apply h.of_commit hcommits (hevicting.bound hcommits)
          intro other hother
          exact hevicting.preserves hcommits hother
        · exact hevicting.retains hcommits hrequest htransaction hphase
  | rollback id =>
      obtain ⟨transaction, _, hrollback⟩ := Option.bind_eq_some_iff.mp hstep
      split at hrollback
      · exact absurd hrollback (by simp)
      · rw [← Option.some.inj hrollback]
        refine ⟨h.of_advances (reject_advances w id transaction), ?_⟩
        exact .of_same h rfl rfl fun _ hjob => Or.inl hjob
  | tick instant =>
      rw [← Option.some.inj hstep]
      refine ⟨⟨h.bound, h.drawn, fun id transaction htransaction => ?_⟩, ?_⟩
      · exact (outside_preserves w instant w.db.events w.db.eventMediaKeys _).phaseFacts
          (h.phases id transaction htransaction)
      · exact .of_same h rfl rfl fun _ hjob => Or.inl hjob
  | events events eventMediaKeys =>
      rw [← Option.some.inj hstep]
      refine ⟨⟨h.bound, h.drawn, fun id transaction htransaction => ?_⟩, ?_⟩
      · exact (outside_preserves w w.now events eventMediaKeys _).phaseFacts
          (h.phases id transaction htransaction)
      · exact .of_same h rfl rfl fun _ hjob => Or.inl hjob

theorem AtRest.retentionFacts (h : w.AtRest) : w.RetentionFacts := by
  refine ⟨h.published, h.drawn, fun id transaction htransaction => ?_⟩
  rw [h.transactions id] at htransaction
  exact absurd htransaction (by simp)

theorem Reached.retentionFacts (h : w.Reached) : w.RetentionFacts :=
  Reaches.invariant (fun _ hinit => hinit.retentionFacts)
    (fun _ _ _ hfacts _ hstep => (hfacts.step hstep).1) h

/-- Whatever the order of requests and failures, at most nine recaps are published, and only
the commit of a publication evicts: exactly those beyond the nine greatest, with a queued
deletion for each of their images. -/
theorem rolling_recap_retention (hreached : w.Reached) :
    (publishedRecaps w.db.recaps).length ≤ maxPublishedRecaps ∧
      ∀ label after, w.Step label after → Retains w label after := by
  have hfacts := hreached.retentionFacts
  exact ⟨hfacts.bound, fun label after hstep => (hfacts.step hstep).2⟩

end Steps

end RecapWorld

namespace RetentionWitness

open RecapWorld

def quiet : RecapWorld where
  db := ⟨.empty, .empty, .empty, .empty, .empty, []⟩
  now := 0
  publicationLock := none
  recapLocks := fun _ => none
  transactions := fun _ => none
  drawnJobs := []
  acknowledged := []

theorem quiet_initial : quiet.Initial :=
  ⟨rfl, rfl, rfl, rfl, rfl, fun _ => rfl, fun _ => rfl⟩

def content : RecapContent :=
  ⟨none, some "Day", some "Tag", some "Together", some "Zusammen", none, none, none⟩

def objectKey (number : Nat) : String :=
  String.ofList (List.replicate number 'k')

def upload (recapId : Nat) : PhotoUpload where
  photoId := recapId
  uploadId := recapId
  version := 1
  fingerprint := ""
  altEn := "People"
  altDe := "Menschen"
  derivatives := [⟨2 * recapId, objectKey (2 * recapId), .thumbnail⟩,
    ⟨2 * recapId + 1, objectKey (2 * recapId + 1), .display⟩]

/-- A recap is created, gets a photo and is published, up to the last commit. -/
def publish (steps recapId : Nat) : List RecapLabel :=
  [.tick recapId, .start (3 * recapId) (.create 1 recapId content), .advance (3 * recapId),
    .commit (3 * recapId), .start (3 * recapId + 1) (.upload 1 recapId (upload recapId)),
    .advance (3 * recapId + 1), .advance (3 * recapId + 1), .commit (3 * recapId + 1),
    .start (3 * recapId + 2) (.status ⟨1, recapId, 2, .published⟩ String.length)] ++
  List.replicate steps (.advance (3 * recapId + 2))

/-- Ten publications, the last one before its commit. -/
def labels : List RecapLabel :=
  ((List.range 9).flatMap fun recapId =>
    publish (7 + recapId) recapId ++ [.commit (3 * recapId + 2)]) ++ publish 17 9

/-- The tenth publication evicts one recap with two images. -/
theorem rolling_recap_retention_tenth :
    ∃ (w after : RecapWorld) (row : Recap), w.publishedBy (.commit 29) = some row ∧
      w.db.recaps.rows.length = 10 ∧ after.db.recaps.rows.length = 9 ∧
      after.db.cleanups.rows.length = 2 ∧ Retains w (.commit 29) after := by
  have hrun : (Reaches.run RecapWorld.next (fun _ _ => True) quiet labels).any (fun w =>
      (w.publishedBy (.commit 29)).isSome && (w.next (.commit 29)).any fun after =>
        w.db.recaps.rows.length = 10 ∧ after.db.recaps.rows.length = 9 ∧
          after.db.cleanups.rows.length = 2) = true := by decide +kernel
  obtain ⟨w, hw, hproperty⟩ := (Option.any_eq_true _ _).mp hrun
  rw [Bool.and_eq_true] at hproperty
  obtain ⟨row, hrow⟩ := Option.isSome_iff_exists.mp hproperty.1
  obtain ⟨after, hstep, hlengths⟩ := (Option.any_eq_true _ _).mp hproperty.2
  obtain ⟨hbefore, hafter, hqueued⟩ := of_decide_eq_true hlengths
  have hreached : w.Reached := Reaches.of_run (fun hnext => hnext) (.start quiet_initial.atRest) hw
  exact ⟨w, after, row, hrow, hbefore, hafter, hqueued,
    (rolling_recap_retention hreached).2 (.commit 29) after hstep⟩

end RetentionWitness

end BuddyWeb
