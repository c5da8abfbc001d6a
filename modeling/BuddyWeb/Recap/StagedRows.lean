/-
What each recap service stages, and what a flush makes of it.
-/
import BuddyWeb.Lib.SortByKey
import BuddyWeb.Lib.TopRanked
import BuddyWeb.Recap.RecapWorld

namespace BuddyWeb

namespace Recap

/-- A new version which takes part in the retention as the old one did, or no longer. -/
structure Keeps (old row : Recap) : Prop where
  id : row.id = old.id
  clock : row.firstPublishedAt = old.firstPublishedAt
  published : row.isPublished = true → old.isPublished = true

/-- A new version which enters the published recaps. -/
structure Publishes (old row : Recap) : Prop where
  id : row.id = old.id
  before : old.isPublished = false
  after : row.isPublished = true
  clock : ∀ instant, old.firstPublishedAt = some instant → row.firstPublishedAt = some instant

theorem Keeps.refl (recap : Recap) : Keeps recap recap :=
  ⟨rfl, rfl, fun h => h⟩

/-- A published row is as high as the row which it replaces. -/
theorem Keeps.rankKey {old row : Recap} (h : Keeps old row) : row.rankKey = old.rankKey := by
  unfold Recap.rankKey
  rw [h.id, h.clock]

theorem rankKey_inj_id {first second : Recap} (h : first.rankKey = second.rankKey) :
    first.id = second.id := by
  unfold Recap.rankKey at h
  exact congrArg (fun key => (ofLex key).2) h

theorem outranks_asymm (first second : Recap) (h : first.Outranks second) :
    ¬ second.Outranks first :=
  lt_asymm h

/-- A transition to another status than published, or to the status of the row. -/
theorem transition_keeps {recap : Recap} {status : RecapStatus} {actor : Nat} {now : Int}
    (hquiet : ¬ (recap.status ≠ status ∧ status = .published)) :
    Keeps recap (recap.transition status actor now) := by
  unfold transition
  by_cases hsame : recap.status = status
  · rw [if_pos hsame]
    exact Keeps.refl recap
  · have hstatus : status ≠ .published := fun hpublished => hquiet ⟨hsame, hpublished⟩
    rw [if_neg hsame]
    refine ⟨rfl, ?_, fun h => ?_⟩
    · simp [hstatus]
    · simp [isPublished, touch, hstatus] at h

theorem transition_publishes {recap : Recap} {actor : Nat} {now : Int}
    (hchanged : recap.status ≠ .published) (hlive : recap.deletedAt = none) :
    Publishes recap (recap.transition .published actor now) := by
  unfold transition
  rw [if_neg hchanged]
  refine ⟨rfl, ?_, ?_, fun instant hinstant => ?_⟩
  · simp [isPublished, hchanged]
  · simp [isPublished, touch, hlive]
  · simp [hinstant]

end Recap

/-- What a service stages for one loaded recap: a version which keeps its rank, and photos and
images of its own. -/
structure RecapWrites.StagedFor (writes : RecapWrites) (recap : Recap) : Prop where
  created : writes.created = none
  updated : ∀ row ∈ writes.updated, recap.Keeps row
  photos : ∀ photo ∈ writes.photos, photo.recapId = recap.id
  photo : ∀ photo ∈ writes.photo, photo.recapId = recap.id
  images : ∀ image ∈ writes.images, ∃ photo ∈ writes.photo, photo.id = image.photoId
  jobs : writes.jobs = []
  evicted : writes.evicted = []

section Services

variable {db : RecapDatabase} {recap : Recap} {writes : RecapWrites}

theorem getRecap_eq_ok {recapId : Nat} (h : getRecap db recapId = .ok recap) :
    recap ∈ db.recaps.rows ∧ recap.id = recapId ∧ recap.deletedAt = none := by
  have hselect := require_eq_ok_iff.mp h
  have hfilter := Table.select?_filter hselect
  simp only [Bool.and_eq_true, decide_eq_true_eq, Option.isNone_iff_eq_none] at hfilter
  exact ⟨Table.select?_mem hselect, hfilter.1, hfilter.2⟩

theorem flushRecap_eq_ok {row : Recap} {result : RecapWrites}
    (h : flushRecap db writes row = .ok result) : result = writes := by
  simp only [flushRecap, except_bind_eq_ok_iff] at h
  obtain ⟨_, _, h⟩ := h
  split at h
  · simp only [except_bind_eq_ok_iff, except_pure_eq_ok_iff] at h
    obtain ⟨_, _, hsame⟩ := h
    exact hsame.symm
  · exact (except_pure_eq_ok_iff.mp h).symm

theorem mem_photosFor {recapId : Nat} {photo : RecapPhoto} (h : photo ∈ db.photosFor recapId) :
    photo.recapId = recapId := by
  have hall := (List.mem_filter.mp h).1
  rw [RecapDatabase.allPhotosFor, List.mem_insertionSort, List.mem_filter] at hall
  exact of_decide_eq_true hall.2

theorem createContent_facts {actor newId : Nat} {content : RecapContent}
    (h : createContent db actor newId content = .ok writes) :
    ∃ row : Recap, row.isPublished = false ∧ row.firstPublishedAt = none ∧
      writes = { created := some row } := by
  simp only [createContent, except_bind_eq_ok_iff] at h
  obtain ⟨_, _, h⟩ := h
  rw [flushRecap_eq_ok h]
  exact ⟨_, rfl, rfl, rfl⟩

theorem touch_keeps (recap : Recap) (actor : Nat) (content : RecapContent)
    (thumbnailId : Option Nat) :
    recap.Keeps { recap.touch actor with
      toRecapContent := content
      thumbnailId := thumbnailId } :=
  ⟨rfl, rfl, fun h => h⟩

theorem saveContent_staged {actor version : Nat} {content : RecapContent}
    (h : saveContent db actor version content recap = .ok writes) : writes.StagedFor recap := by
  simp only [saveContent, except_bind_eq_ok_iff] at h
  obtain ⟨_, _, _, _, h⟩ := h
  rw [flushRecap_eq_ok h]
  constructor
  · rfl
  · intro row hrow
    rw [← Option.some.inj hrow]
    exact touch_keeps recap actor content.stored recap.thumbnailId
  · simp
  · simp
  · simp
  · rfl
  · rfl

theorem savePhotos_staged {actor : Nat} {payload : PhotoOrderUpdate}
    (h : savePhotos db actor payload recap = .ok writes) : writes.StagedFor recap := by
  simp only [savePhotos, except_bind_eq_ok_iff] at h
  obtain ⟨_, _, _, _, h⟩ := h
  rw [flushRecap_eq_ok h]
  constructor
  · rfl
  · intro row hrow
    rw [← Option.some.inj hrow]
    exact touch_keeps recap actor recap.toRecapContent payload.thumbnailId
  · intro photo hphoto
    obtain ⟨⟨edit, index⟩, _, hedit⟩ := List.mem_filterMap.mp hphoto
    obtain ⟨old, hold, hsame⟩ := Option.map_eq_some_iff.mp hedit
    have howner := mem_photosFor (List.mem_of_find?_eq_some hold)
    rw [← hsame]
    exact howner
  · simp
  · simp
  · rfl
  · rfl

theorem uploadPhoto_staged {actor : Nat} {upload : PhotoUpload}
    (h : uploadPhoto db actor upload recap = .ok writes) : writes.StagedFor recap := by
  unfold uploadPhoto at h
  split at h
  · simp only [except_bind_eq_ok_iff, except_pure_eq_ok_iff] at h
    obtain ⟨_, _, hnothing⟩ := h
    rw [← hnothing]
    exact ⟨rfl, by simp, by simp, by simp, by simp, rfl, rfl⟩
  · simp only [except_bind_eq_ok_iff] at h
    obtain ⟨_, _, _, _, h⟩ := h
    rw [flushRecap_eq_ok h]
    constructor
    · rfl
    · intro row hrow
      rw [← Option.some.inj hrow]
      exact touch_keeps recap actor recap.toRecapContent recap.thumbnailId
    · simp
    · intro photo hphoto
      rw [← Option.some.inj hphoto]
    · intro image himage
      obtain ⟨derivative, _, hsame⟩ := List.mem_map.mp himage
      exact ⟨_, rfl, by rw [← hsame]⟩
    · rfl
    · rfl

theorem markDeleted_staged {actor : Nat} {photoId : Option Nat} {now : Int} {changed : Bool}
    (h : markDeleted db actor recap photoId now = .ok (changed, writes)) :
    writes.StagedFor recap := by
  simp only [markDeleted, except_bind_eq_ok_iff, except_pure_eq_ok_iff, Prod.mk.injEq] at h
  obtain ⟨_, _, _, _, _, hwrites⟩ := h
  rw [← hwrites]
  constructor
  · rfl
  · intro row hrow
    rw [← Option.some.inj hrow]
    cases photoId with
    | none =>
        refine ⟨rfl, rfl, fun hpublished => ?_⟩
        simp [Recap.isPublished, Recap.touch] at hpublished
    | some photoId => exact ⟨rfl, rfl, fun hpublished => hpublished⟩
  · intro photo hphoto
    rcases List.mem_append.mp hphoto with hdeleted | hordered
    · obtain ⟨old, hold, hsame⟩ := List.mem_map.mp hdeleted
      have howner := mem_photosFor (List.mem_of_mem_filter hold)
      rw [← hsame]
      exact howner
    · obtain ⟨⟨old, index⟩, hold, hsame⟩ := List.mem_map.mp hordered
      have hremaining := List.fst_mem_of_mem_zipIdx hold
      rw [← hsame]
      split at hremaining
      · have howner := mem_photosFor (List.mem_of_mem_filter hremaining)
        exact howner
      · exact absurd hremaining (by simp)
  · simp
  · simp
  · rfl
  · rfl

theorem deletePhoto_staged {actor version photoId : Nat} {now : Int}
    (h : deletePhoto db actor version photoId recap now = .ok writes) :
    writes.StagedFor recap := by
  simp only [deletePhoto, except_bind_eq_ok_iff, except_pure_eq_ok_iff] at h
  obtain ⟨_, _, ⟨changed, staged⟩, hstaged, hsame⟩ := h
  rw [← hsame]
  exact markDeleted_staged hstaged

theorem deleteRecap_staged {actor version : Nat} {now : Int}
    (h : deleteRecap db actor version recap now = .ok writes) : writes.StagedFor recap := by
  simp only [deleteRecap, except_bind_eq_ok_iff, except_pure_eq_ok_iff] at h
  obtain ⟨_, _, ⟨changed, staged⟩, hstaged, hsame⟩ := h
  rw [← hsame]
  exact markDeleted_staged hstaged

theorem statusRecap_eq_ok {update : RecapStatusUpdate} {now : Int} {row : Recap}
    (h : statusRecap db update recap now = .ok row) :
    row = recap.transition update.status update.actor now := by
  simp only [statusRecap, except_bind_eq_ok_iff] at h
  obtain ⟨_, _, h⟩ := h
  split at h
  · simp only [except_bind_eq_ok_iff, except_pure_eq_ok_iff] at h
    obtain ⟨_, _, hsame⟩ := h
    exact hsame.symm
  · exact (except_pure_eq_ok_iff.mp h).symm

end Services

/-- The tables after a flush, one by one. -/
structure RecapWrites.Applied (writes : RecapWrites) (db after : RecapDatabase) : Prop where
  recaps : ∃ recaps, writes.storedRecaps db.recaps = some recaps ∧
    after.recaps = recaps.delete fun recap => recap.id ∈ writes.evicted
  photos : ∃ photos, writes.storedPhotos db.photos = some photos ∧
    after.photos = photos.delete fun photo => photo.recapId ∈ writes.evicted
  images : ∃ images, db.images.insertAll? writes.images = some images ∧
    ∀ image ∈ after.images.rows, image ∈ images.rows
  cleanups : db.cleanups.insertAll? writes.jobs = some after.cleanups

theorem RecapWrites.applied_of_applyTo {writes : RecapWrites} {db after : RecapDatabase}
    (h : writes.applyTo db = some after) : writes.Applied db after := by
  simp only [applyTo, Option.bind_eq_bind, Option.bind_eq_some_iff] at h
  obtain ⟨recaps, hrecaps, photos, hphotos, images, himages, cleanups, hcleanups, h⟩ := h
  split at h
  · rw [← Option.some.inj h]
    refine ⟨⟨recaps, hrecaps, rfl⟩, ⟨photos, hphotos, rfl⟩, ⟨images, himages, ?_⟩, hcleanups⟩
    intro image himage
    exact (Table.mem_delete_iff.mp himage).1
  · exact absurd h (by simp)

end BuddyWeb
