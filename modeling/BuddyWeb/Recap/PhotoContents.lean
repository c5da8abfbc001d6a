/-
What holds of the photos of a recap, and what the services make of it.
-/
import BuddyWeb.Recap.MediaCleanup
import BuddyWeb.Recap.StagedRows

namespace BuddyWeb

namespace RecapDatabase

variable (db : RecapDatabase)

/-- A recap may be shown: its titles and summaries, its photos and their texts are there in
both languages. -/
structure Publishable (recap : Recap) : Prop where
  titles : hasText recap.titleEn = true ∧ hasText recap.titleDe = true
  summaries : hasText recap.summaryEn = true ∧ hasText recap.summaryDe = true
  photos : 1 ≤ (db.photosFor recap.id).length
  alternatives : ∀ photo ∈ db.photosFor recap.id,
    pyStrip photo.altEn ≠ "" ∧ pyStrip photo.altDe ≠ ""

/-- The photos of a recap are in order, each with its two images, and the recap refers to one
of them at most. -/
structure ContentKept (recap : Recap) : Prop where
  order : (db.photosFor recap.id).map (·.sortOrder) =
    List.range (db.photosFor recap.id).length
  limit : (db.photosFor recap.id).length ≤ maxRecapPhotos
  thumbnail : ∀ id ∈ recap.thumbnailId, id ∈ (db.photosFor recap.id).map (·.id)
  images : ∀ photo ∈ db.photosFor recap.id,
    ((db.imagesOf photo).map (·.variant)).Perm [.display, .thumbnail]
  published : recap.isPublished = true → db.Publishable recap

end RecapDatabase

section PhotoLists

variable {db other : RecapDatabase} {recapId : Nat} {photo : RecapPhoto}

theorem mem_photosFor_iff : photo ∈ db.photosFor recapId ↔
    photo ∈ db.photos.rows ∧ photo.recapId = recapId ∧ photo.deletedAt = none := by
  rw [RecapDatabase.photosFor, List.mem_filter, RecapDatabase.allPhotosFor,
    List.mem_insertionSort, List.mem_filter, decide_eq_true_iff, Option.isNone_iff_eq_none,
    and_assoc]

theorem photosFor_ids (db : RecapDatabase) (recapId : Nat) :
    ((db.photosFor recapId).map (·.id)).Nodup := by
  apply (List.filter_sublist.map RecapPhoto.id).nodup
  have hperm := (db.photos.rows.filter (·.recapId = recapId)).perm_insertionSort
    fun first second => first.sortOrder < second.sortOrder ∨
      first.sortOrder = second.sortOrder ∧ first.id ≤ second.id
  exact (hperm.map RecapPhoto.id).nodup_iff.mpr
    ((List.filter_sublist.map RecapPhoto.id).nodup db.photos.nodup)

/-- The order of the photos of a recap. -/
def RecapPhoto.Precedes (first second : RecapPhoto) : Prop :=
  first.sortOrder < second.sortOrder ∨
    first.sortOrder = second.sortOrder ∧ first.id ≤ second.id

instance : DecidableRel RecapPhoto.Precedes := fun first second =>
  inferInstanceAs (Decidable (first.sortOrder < second.sortOrder ∨
    first.sortOrder = second.sortOrder ∧ first.id ≤ second.id))

theorem photosFor_sorted (db : RecapDatabase) (recapId : Nat) :
    (db.photosFor recapId).Pairwise RecapPhoto.Precedes := by
  have : Std.Total RecapPhoto.Precedes := by
    constructor
    intro first second
    simp only [RecapPhoto.Precedes]
    omega
  have : IsTrans RecapPhoto RecapPhoto.Precedes := by
    constructor
    intro first second third hfirst hsecond
    simp only [RecapPhoto.Precedes] at hfirst hsecond ⊢
    omega
  apply List.Pairwise.filter
  exact List.pairwise_insertionSort RecapPhoto.Precedes _

/-- Photos with different identifiers which are the photos of a recap are these in another
order. -/
theorem photosFor_perm {photos : List RecapPhoto} (hids : (photos.map (·.id)).Nodup)
    (hmem : ∀ photo, photo ∈ db.photosFor recapId ↔ photo ∈ photos) :
    (db.photosFor recapId).Perm photos := by
  apply (List.perm_ext_iff_of_nodup (List.Nodup.of_map _ (photosFor_ids db recapId))
    (List.Nodup.of_map _ hids)).mpr
  exact hmem

/-- The list of the photos is determined by the rows. -/
theorem photosFor_congr
    (h : ∀ photo, photo ∈ db.photosFor recapId ↔ photo ∈ other.photosFor recapId) :
    db.photosFor recapId = other.photosFor recapId := by
  apply List.Perm.eq_of_pairwise _ (photosFor_sorted db recapId) (photosFor_sorted other recapId)
    (photosFor_perm (photosFor_ids other recapId) h)
  intro first second hfirst hsecond hle hge
  have hid : first.id = second.id := by
    simp only [RecapPhoto.Precedes] at hle hge
    omega
  exact Table.eq_of_key (mem_photosFor_iff.mp ((h first).mp hfirst)).1
    (mem_photosFor_iff.mp hsecond).1 hid

/-- Photos which are numbered one by one, in whatever order, are in order. -/
theorem photosFor_order {photos : List RecapPhoto}
    (hperm : (db.photosFor recapId).Perm photos)
    (hnumbers : (photos.map (·.sortOrder)).Perm (List.range photos.length)) :
    (db.photosFor recapId).map (·.sortOrder) =
      List.range (db.photosFor recapId).length := by
  have hsorted : ((db.photosFor recapId).map (·.sortOrder)).Pairwise (· ≤ ·) := by
    apply List.pairwise_map.mpr
    apply (photosFor_sorted db recapId).imp
    intro first second hprecedes
    simp only [RecapPhoto.Precedes] at hprecedes
    omega
  have hrange : ((db.photosFor recapId).map (·.sortOrder)).Perm
      (List.range (db.photosFor recapId).length) := by
    rw [hperm.length_eq]
    exact (hperm.map _).trans hnumbers
  apply List.Perm.eq_of_pairwise _ hsorted List.pairwise_le_range hrange
  intro first second _ _ hle hge
  exact le_antisymm hle hge

end PhotoLists

/-- Two databases hold the same of a recap: its photos, and the images of those which are not
deleted. -/
structure RecapAgrees (recapId : Nat) (before after : RecapDatabase) : Prop where
  photos : ∀ photo, photo.recapId = recapId →
    (photo ∈ before.photos.rows ↔ photo ∈ after.photos.rows)
  images : ∀ photo ∈ before.photosFor recapId, ∀ image, image.photoId = photo.id →
    (image ∈ before.images.rows ↔ image ∈ after.images.rows)

namespace RecapAgrees

variable {recapId : Nat} {before middle after : RecapDatabase}

theorem refl (recapId : Nat) (db : RecapDatabase) : RecapAgrees recapId db db :=
  ⟨fun _ _ => Iff.rfl, fun _ _ _ _ => Iff.rfl⟩

theorem photosFor_eq (h : RecapAgrees recapId before after) :
    before.photosFor recapId = after.photosFor recapId := by
  apply photosFor_congr
  intro photo
  rw [mem_photosFor_iff, mem_photosFor_iff]
  constructor
  · rintro ⟨hmem, howner, hactive⟩
    exact ⟨(h.photos photo howner).mp hmem, howner, hactive⟩
  · rintro ⟨hmem, howner, hactive⟩
    exact ⟨(h.photos photo howner).mpr hmem, howner, hactive⟩

theorem trans (h : RecapAgrees recapId before middle) (hnext : RecapAgrees recapId middle after) :
    RecapAgrees recapId before after where
  photos photo howner := (h.photos photo howner).trans (hnext.photos photo howner)
  images photo hphoto image hof := by
    have hmiddle := hphoto
    rw [h.photosFor_eq] at hmiddle
    exact (h.images photo hphoto image hof).trans (hnext.images photo hmiddle image hof)

theorem imagesOf_perm (h : RecapAgrees recapId before after) {photo : RecapPhoto}
    (hphoto : photo ∈ before.photosFor recapId) :
    (before.imagesOf photo).Perm (after.imagesOf photo) := by
  have hnodup : ∀ db : RecapDatabase, (db.imagesOf photo).Nodup := fun db =>
    (List.Nodup.of_map _ db.images.nodup).filter _
  apply (List.perm_ext_iff_of_nodup (hnodup before) (hnodup after)).mpr
  intro image
  rw [mem_imagesOf, mem_imagesOf]
  apply and_congr_left
  intro hof
  exact h.images photo hphoto image hof

theorem publishable {recap : Recap} (h : RecapAgrees recap.id before after)
    (hpublishable : before.Publishable recap) : after.Publishable recap where
  titles := hpublishable.titles
  summaries := hpublishable.summaries
  photos := by
    rw [← h.photosFor_eq]
    exact hpublishable.photos
  alternatives := by
    rw [← h.photosFor_eq]
    exact hpublishable.alternatives

theorem contentKept {recap : Recap} (h : RecapAgrees recap.id before after)
    (hkept : before.ContentKept recap) : after.ContentKept recap where
  order := by
    rw [← h.photosFor_eq]
    exact hkept.order
  limit := by
    rw [← h.photosFor_eq]
    exact hkept.limit
  thumbnail := by
    rw [← h.photosFor_eq]
    exact hkept.thumbnail
  images photo hphoto := by
    rw [← h.photosFor_eq] at hphoto
    exact ((h.imagesOf_perm hphoto).map _).symm.trans (hkept.images photo hphoto)
  published hpublished := h.publishable (hkept.published hpublished)

end RecapAgrees

section Applied

variable {db after : RecapDatabase} {writes : RecapWrites} {recapId : Nat}

theorem applyTo_constraints (h : writes.applyTo db = some after) : after.KeepsConstraints := by
  simp only [RecapWrites.applyTo, Option.bind_eq_bind, Option.bind_eq_some_iff] at h
  obtain ⟨recaps, -, photos, -, images, -, cleanups, -, h⟩ := h
  split at h
  · rename_i hconstraints
    rw [← Option.some.inj h]
    exact hconstraints
  · cases h

/-- The rows of photos and images after a flush. -/
theorem applyTo_photos (h : writes.applyTo db = some after) :
    ∃ photos, writes.storedPhotos db.photos = some photos ∧
      (∀ photo, photo ∈ after.photos.rows ↔
        photo ∈ photos.rows ∧ photo.recapId ∉ writes.evicted) ∧
      ∀ image, image ∈ after.images.rows ↔
        (image ∈ writes.images ∨ image ∈ db.images.rows) ∧ image.id ∉ writes.deletedImages ∧
          ∀ photo ∈ photos.rows, photo.id = image.photoId → photo.recapId ∉ writes.evicted := by
  simp only [RecapWrites.applyTo, Option.bind_eq_bind, Option.bind_eq_some_iff] at h
  obtain ⟨recaps, -, photos, hphotos, images, himages, cleanups, -, h⟩ := h
  split at h
  · rw [← Option.some.inj h]
    refine ⟨photos, hphotos, ?_, ?_⟩
    · intro photo
      rw [Table.mem_delete_iff, decide_eq_false_iff_not]
    · intro image
      rw [Table.mem_delete_iff, Table.mem_insertAll? himages, Bool.or_eq_false_iff,
        decide_eq_false_iff_not, List.any_eq_false]
      apply and_congr_right
      intro _
      apply and_congr_right
      intro _
      apply forall_congr'
      intro photo
      apply imp_congr_right
      intro _
      rw [Bool.and_eq_true, decide_eq_true_iff, decide_eq_true_iff, not_and]
  · cases h

/-- A new photo has an identifier of its own. -/
theorem new_photo_fresh (happlied : writes.applyTo db = some after) {photo old : RecapPhoto}
    (hphoto : photo ∈ writes.photo) (hold : old ∈ db.photos.rows) : photo.id ≠ old.id := by
  obtain ⟨photos, hphotos, -, -⟩ := applyTo_photos happlied
  obtain ⟨seen, hseen, hsame⟩ := Table.exists_key_of_putAll writes.photos hold
  have hfresh := Table.insertAll?_key_ne hphotos (Option.mem_toList.mpr hphoto) hseen
  intro hid
  exact hfresh (hid.trans hsame.symm)

/-- What a service stages of the photos of a recap: new versions of photos which are not
deleted, and at most one new photo with its two images. -/
structure RecapWrites.ChangesPhotos (writes : RecapWrites) (db : RecapDatabase)
    (recapId : Nat) : Prop where
  ids : (writes.photos.map (·.id)).Nodup
  versions : ∀ photo ∈ writes.photos, photo.recapId = recapId ∧
    ∃ old ∈ db.photosFor recapId, old.id = photo.id
  photo : ∀ photo ∈ writes.photo, photo.recapId = recapId ∧ photo.deletedAt = none
  images : ∀ image ∈ writes.images, ∃ photo ∈ writes.photo, photo.id = image.photoId
  variants : ∀ photo ∈ writes.photo, writes.images.map (·.variant) = [.display, .thumbnail]
  deletedImages : writes.deletedImages = []
  evicted : writes.evicted = []

namespace RecapWrites.ChangesPhotos

variable (h : writes.ChangesPhotos db recapId) (happlied : writes.applyTo db = some after)

include h

theorem congr {other : RecapDatabase} (hsame : db.photosFor recapId = other.photosFor recapId) :
    writes.ChangesPhotos other recapId where
  ids := h.ids
  versions := by
    rw [← hsame]
    exact h.versions
  photo := h.photo
  images := h.images
  variants := h.variants
  deletedImages := h.deletedImages
  evicted := h.evicted

include happlied

theorem mem_photos {photo : RecapPhoto} : photo ∈ after.photos.rows ↔
    photo ∈ writes.photo ∨ photo ∈ writes.photos ∨
      (photo ∈ db.photos.rows ∧ ∀ other ∈ writes.photos, other.id ≠ photo.id) := by
  obtain ⟨photos, hphotos, hmem, -⟩ := applyTo_photos happlied
  rw [hmem, h.evicted, and_iff_left List.not_mem_nil, Table.mem_insertAll? hphotos,
    Option.mem_toList, Table.mem_putAll_iff h.ids]
  apply or_congr_right
  apply or_congr_left
  apply and_iff_left_of_imp
  intro hversion
  obtain ⟨-, old, hold, hid⟩ := h.versions photo hversion
  exact ⟨old, (mem_photosFor_iff.mp hold).1, hid⟩

theorem mem_images {image : RecapImage} : image ∈ after.images.rows ↔
    image ∈ writes.images ∨ image ∈ db.images.rows := by
  obtain ⟨photos, -, -, himages⟩ := applyTo_photos happlied
  rw [himages, h.evicted, h.deletedImages]
  apply and_iff_left
  exact ⟨List.not_mem_nil, fun _ _ _ => List.not_mem_nil⟩

theorem mem_photosFor {photo : RecapPhoto} : photo ∈ after.photosFor recapId ↔
    photo.deletedAt = none ∧ (photo ∈ writes.photo ∨ photo ∈ writes.photos ∨
      (photo ∈ db.photosFor recapId ∧ ∀ other ∈ writes.photos, other.id ≠ photo.id)) := by
  rw [mem_photosFor_iff, h.mem_photos happlied, mem_photosFor_iff]
  constructor
  · rintro ⟨hnew | hversion | ⟨hold, hothers⟩, howner, hactive⟩
    · exact ⟨hactive, .inl hnew⟩
    · exact ⟨hactive, .inr (.inl hversion)⟩
    · exact ⟨hactive, .inr (.inr ⟨⟨hold, howner, hactive⟩, hothers⟩)⟩
  · rintro ⟨hactive, hnew | hversion | ⟨⟨hold, howner, -⟩, hothers⟩⟩
    · exact ⟨.inl hnew, (h.photo photo hnew).1, hactive⟩
    · exact ⟨.inr (.inl hversion), (h.versions photo hversion).1, hactive⟩
    · exact ⟨.inr (.inr ⟨hold, hothers⟩), howner, hactive⟩

/-- When each photo gets a new version, the photos are the versions which are not deleted. -/
theorem mem_photosFor_of_cover (hphoto : writes.photo = none)
    (hcover : ∀ old ∈ db.photosFor recapId, ∃ photo ∈ writes.photos, photo.id = old.id)
    {photo : RecapPhoto} : photo ∈ after.photosFor recapId ↔
      photo ∈ writes.photos ∧ photo.deletedAt = none := by
  rw [h.mem_photosFor happlied, hphoto]
  constructor
  · rintro ⟨hactive, hnew | hversion | ⟨hold, hothers⟩⟩
    · cases hnew
    · exact ⟨hversion, hactive⟩
    · obtain ⟨version, hversion, hid⟩ := hcover photo hold
      exact absurd hid (hothers version hversion)
  · rintro ⟨hversion, hactive⟩
    exact ⟨hactive, .inr (.inl hversion)⟩

/-- A photo keeps its images. -/
theorem mem_images_of_old {old : RecapPhoto} {image : RecapImage} (hold : old ∈ db.photos.rows)
    (hof : image.photoId = old.id) : image ∈ after.images.rows ↔ image ∈ db.images.rows := by
  rw [h.mem_images happlied]
  apply or_iff_right
  intro himage
  obtain ⟨photo, hphoto, hid⟩ := h.images image himage
  exact new_photo_fresh happlied hphoto hold (hid.trans hof)

/-- The images of a new photo are the staged ones. -/
theorem mem_images_of_new (hdb : db.KeepsConstraints) {photo : RecapPhoto} {image : RecapImage}
    (hphoto : photo ∈ writes.photo) (hof : image.photoId = photo.id) :
    image ∈ after.images.rows ↔ image ∈ writes.images := by
  rw [h.mem_images happlied]
  apply or_iff_left
  intro himage
  obtain ⟨owner, howner, hid⟩ := hdb.imageOwners image himage
  exact new_photo_fresh happlied hphoto howner (hof.symm.trans hid.symm)

/-- The photos of another recap are left. -/
theorem agrees_other {other : Nat} (hother : other ≠ recapId) : RecapAgrees other db after where
  photos photo howner := by
    rw [h.mem_photos happlied]
    constructor
    · intro hold
      apply Or.inr
      apply Or.inr
      apply And.intro hold
      intro version hversion hid
      obtain ⟨-, old, holdPhoto, holdId⟩ := h.versions version hversion
      obtain ⟨holdMem, holdOwner, -⟩ := mem_photosFor_iff.mp holdPhoto
      have hsame : old = photo := Table.eq_of_key holdMem hold (holdId.trans hid)
      rw [hsame, howner] at holdOwner
      exact hother holdOwner
    · rintro (hnew | hversion | ⟨hold, -⟩)
      · exact absurd (howner.symm.trans (h.photo photo hnew).1) hother
      · exact absurd (howner.symm.trans (h.versions photo hversion).1) hother
      · exact hold
  images photo hphoto image hof :=
    (h.mem_images_of_old happlied (mem_photosFor_iff.mp hphoto).1 hof).symm

/-- What becomes of a recap depends on nothing else than the recap. -/
theorem agrees_applied (hdb : db.KeepsConstraints) {other otherAfter : RecapDatabase}
    (hother : other.KeepsConstraints) (hagrees : RecapAgrees recapId db other)
    (hotherApplied : writes.applyTo other = some otherAfter) :
    RecapAgrees recapId after otherAfter where
  photos photo howner := by
    rw [h.mem_photos happlied, (h.congr hagrees.photosFor_eq).mem_photos hotherApplied,
      hagrees.photos photo howner]
  images photo hphoto image hof := by
    have hchanges := h.congr hagrees.photosFor_eq
    -- the photo is new, or a version of an old one under the same identifier
    have hcases : photo ∈ writes.photo ∨ ∃ old ∈ db.photosFor recapId, old.id = photo.id := by
      rcases ((h.mem_photosFor happlied).mp hphoto).2 with hnew | hversion | ⟨hold, -⟩
      · exact .inl hnew
      · exact .inr (h.versions photo hversion).2
      · exact .inr ⟨photo, hold, rfl⟩
    rcases hcases with hnew | ⟨old, hold, hid⟩
    · rw [h.mem_images_of_new happlied hdb hnew hof,
        hchanges.mem_images_of_new hotherApplied hother hnew hof]
    · have holdOf : image.photoId = old.id := hof.trans hid.symm
      have holdOther := hold
      rw [hagrees.photosFor_eq] at holdOther
      rw [h.mem_images_of_old happlied (mem_photosFor_iff.mp hold).1 holdOf,
        hchanges.mem_images_of_old hotherApplied (mem_photosFor_iff.mp holdOther).1 holdOf]
      exact hagrees.images old hold image holdOf

/-- Each photo has its two images after the flush when each has them before. -/
theorem images_kept (hdb : db.KeepsConstraints)
    (hkept : ∀ photo ∈ db.photosFor recapId,
      ((db.imagesOf photo).map (·.variant)).Perm [.display, .thumbnail])
    (photo : RecapPhoto) (hphoto : photo ∈ after.photosFor recapId) :
    ((after.imagesOf photo).map (·.variant)).Perm [.display, .thumbnail] := by
  have hnodup : ∀ db : RecapDatabase, ∀ photo, (db.imagesOf photo).Nodup := fun db photo =>
    (List.Nodup.of_map _ db.images.nodup).filter _
  have hold : ∀ old ∈ db.photosFor recapId, old.id = photo.id →
      ((after.imagesOf photo).map (·.variant)).Perm [.display, .thumbnail] := by
    intro old hold hid
    have hperm : (after.imagesOf photo).Perm (db.imagesOf old) := by
      apply (List.perm_ext_iff_of_nodup (hnodup after photo) (hnodup db old)).mpr
      intro image
      rw [mem_imagesOf, mem_imagesOf, hid]
      apply and_congr_left
      intro hof
      exact h.mem_images_of_old happlied (mem_photosFor_iff.mp hold).1 (hof.trans hid.symm)
    exact (hperm.map _).trans (hkept old hold)
  rcases ((h.mem_photosFor happlied).mp hphoto).2 with hnew | hversion | ⟨hphotoOld, -⟩
  · have hvariants := h.variants photo hnew
    have hstaged : writes.images.Nodup := by
      apply List.Nodup.of_map RecapImage.variant
      rw [hvariants]
      decide
    have hperm : (after.imagesOf photo).Perm writes.images := by
      apply (List.perm_ext_iff_of_nodup (hnodup after photo) hstaged).mpr
      intro image
      rw [mem_imagesOf]
      constructor
      · rintro ⟨himage, hof⟩
        exact (h.mem_images_of_new happlied hdb hnew hof).mp himage
      · intro himage
        obtain ⟨staged, hstagedPhoto, hid⟩ := h.images image himage
        have hsame : photo = staged := Option.some.inj (hnew.symm.trans hstagedPhoto)
        rw [← hsame] at hid
        exact ⟨(h.mem_images happlied).mpr (.inl himage), hid.symm⟩
    rw [← hvariants]
    exact hperm.map _
  · obtain ⟨-, old, holdPhoto, hid⟩ := h.versions photo hversion
    exact hold old holdPhoto hid
  · exact hold photo hphotoOld rfl

end RecapWrites.ChangesPhotos

end Applied

section Rows

variable {db after : RecapDatabase} {row : Recap} {photos : List RecapPhoto}

/-- The contents are kept with numbered photos, each with its images. -/
theorem contentKept_of_photos {recapId : Nat} (hrow : row.id = recapId)
    (hids : (photos.map (·.id)).Nodup)
    (hmem : ∀ photo, photo ∈ after.photosFor recapId ↔ photo ∈ photos)
    (hnumbers : (photos.map (·.sortOrder)).Perm (List.range photos.length))
    (hlimit : photos.length ≤ maxRecapPhotos)
    (hthumbnail : ∀ id ∈ row.thumbnailId, id ∈ photos.map (·.id))
    (himages : ∀ photo ∈ after.photosFor recapId,
      ((after.imagesOf photo).map (·.variant)).Perm [.display, .thumbnail])
    (hpublished : row.isPublished = true → after.Publishable row) : after.ContentKept row := by
  subst hrow
  have hperm := photosFor_perm hids hmem
  constructor
  · exact photosFor_order hperm hnumbers
  · rw [hperm.length_eq]
    exact hlimit
  · intro id hid
    exact (hperm.map RecapPhoto.id).mem_iff.mpr (hthumbnail id hid)
  · exact himages
  · exact hpublished

theorem validatePublication_eq_ok (h : validatePublication db row = .ok ()) :
    db.Publishable row := by
  simp only [validatePublication, except_bind_eq_ok_iff, ensure_eq_ok_iff, Bool.and_eq_true] at h
  obtain ⟨-, htexts, -, hphotos, -, -, -⟩ := h
  exact ⟨htexts.1.1, ⟨htexts.1.2, htexts.2⟩, hphotos.1.1, hphotos.2⟩

/-- A flush checks a published recap again. -/
theorem flushRecap_publishable {writes result : RecapWrites}
    (h : flushRecap db writes row = .ok result) : ∃ view, writes.applyTo db = some view ∧
      (row.isPublished = true → view.Publishable row) := by
  simp only [flushRecap, except_bind_eq_ok_iff, require_eq_ok_iff] at h
  obtain ⟨view, hview, h⟩ := h
  refine ⟨view, hview, ?_⟩
  intro hpublished
  simp only [Recap.isPublished, Bool.and_eq_true, decide_eq_true_iff] at hpublished
  rw [if_pos hpublished.1] at h
  obtain ⟨_, hvalid, _⟩ := except_bind_eq_ok_iff.mp h
  exact validatePublication_eq_ok hvalid

end Rows

/-- Staged rows keep the contents of the recap whatever becomes of the other recaps before
their commit. -/
def RecapWrites.Sound (writes : RecapWrites) (db : RecapDatabase) (row : Recap) : Prop :=
  ∀ other after, RecapAgrees row.id db other → other.KeepsConstraints →
    writes.applyTo other = some after → after.ContentKept row

/-- Rows which keep the contents in one database keep them in each that agrees on the recap. -/
theorem RecapWrites.Sound.of_view {writes : RecapWrites} {db view : RecapDatabase} {row : Recap}
    (hchanges : writes.ChangesPhotos db row.id) (hdb : db.KeepsConstraints)
    (hview : writes.applyTo db = some view) (hkept : view.ContentKept row) :
    writes.Sound db row := by
  intro other after hagrees hother happlied
  exact (hchanges.agrees_applied hview hdb hother hagrees happlied).contentKept hkept

/-- What a service stages for a loaded recap, with the identifiers of new images. -/
structure RecapWrites.StagesContent (writes : RecapWrites) (db : RecapDatabase)
    (recap : Recap) (imageIds : List Nat) : Prop where
  created : writes.created = none
  changes : writes.ChangesPhotos db recap.id
  updated : ∀ row ∈ writes.updated, row.id = recap.id ∧ writes.Sound db row
  unchanged : writes.updated = none → writes = {}
  drawn : ∀ image ∈ writes.images, image.id ∈ imageIds

section Services

variable {db : RecapDatabase} {recap : Recap} {writes : RecapWrites}

theorem changesPhotos_of_none (db : RecapDatabase) (recapId : Nat)
    (hphotos : writes.photos = []) (hphoto : writes.photo = none) (himages : writes.images = [])
    (hdeleted : writes.deletedImages = []) (hevicted : writes.evicted = []) :
    writes.ChangesPhotos db recapId := by
  constructor
  · rw [hphotos]
    exact List.nodup_nil
  · rw [hphotos]
    simp
  · rw [hphoto]
    simp
  · rw [himages]
    simp
  · rw [hphoto]
    simp
  · exact hdeleted
  · exact hevicted

/-- Staged rows without photos leave every recap. -/
theorem RecapWrites.ChangesPhotos.agrees_of_none {after : RecapDatabase} {recapId : Nat}
    (h : writes.ChangesPhotos db recapId) (happlied : writes.applyTo db = some after)
    (hphotos : writes.photos = []) (hphoto : writes.photo = none) (other : Nat) :
    RecapAgrees other db after where
  photos photo _ := by
    rw [h.mem_photos happlied, hphotos, hphoto]
    simp
  images photo hold image hof :=
    (h.mem_images_of_old happlied (mem_photosFor_iff.mp hold).1 hof).symm

/-- Another version of a recap keeps its contents when it may be shown. -/
theorem contentKept_of_row {row : Recap} (hkept : db.ContentKept recap)
    (hid : row.id = recap.id) (hthumbnail : row.thumbnailId = recap.thumbnailId)
    (hpublished : row.isPublished = true → db.Publishable row) : db.ContentKept row := by
  constructor
  · rw [hid]
    exact hkept.order
  · rw [hid]
    exact hkept.limit
  · rw [hid, hthumbnail]
    exact hkept.thumbnail
  · rw [hid]
    exact hkept.images
  · exact hpublished

/-- A new version without photos is sound. -/
theorem sound_of_row {row : Recap} (hkept : db.ContentKept row)
    (hphotos : writes.photos = []) (hphoto : writes.photo = none) (himages : writes.images = [])
    (hdeleted : writes.deletedImages = []) (hevicted : writes.evicted = []) :
    writes.Sound db row := by
  intro other after hagrees _ happlied
  have hchanges := changesPhotos_of_none other row.id hphotos hphoto himages hdeleted hevicted
  have hafter := hchanges.agrees_of_none happlied hphotos hphoto row.id
  exact (hagrees.trans hafter).contentKept hkept

theorem stagesContent_of_row {row : Recap} (hid : row.id = recap.id)
    (hkept : db.ContentKept row) :
    RecapWrites.StagesContent { updated := some row } db recap [] := by
  constructor
  · rfl
  · exact changesPhotos_of_none db recap.id rfl rfl rfl rfl rfl
  · intro updated hupdated
    have hsame : row = updated := Option.some.inj hupdated
    subst hsame
    exact ⟨hid, sound_of_row hkept rfl rfl rfl rfl rfl⟩
  · intro hnone
    cases hnone
  · simp

/-- Flushed rows stage a version of the recap whose contents the flush has checked. -/
theorem stagesContent_of_flush (recap : Recap) {row : Recap} {result : RecapWrites}
    (hflush : flushRecap db writes row = .ok result) (hdb : db.KeepsConstraints)
    (hid : row.id = recap.id) (hcreated : writes.created = none)
    (hupdated : writes.updated = some row) (hchanges : writes.ChangesPhotos db recap.id)
    {imageIds : List Nat} (hdrawn : ∀ image ∈ writes.images, image.id ∈ imageIds)
    (hkept : ∀ view, writes.applyTo db = some view →
      (row.isPublished = true → view.Publishable row) → view.ContentKept row) :
    result.StagesContent db recap imageIds := by
  obtain ⟨view, hview, hpublished⟩ := flushRecap_publishable hflush
  rw [flushRecap_eq_ok hflush]
  constructor
  · exact hcreated
  · exact hchanges
  · intro updated hsome
    have hsame : row = updated := Option.some.inj (hupdated.symm.trans hsome)
    subst hsame
    apply And.intro hid
    rw [← hid] at hchanges
    exact .of_view hchanges hdb hview (hkept view hview hpublished)
  · intro hnone
    rw [hupdated] at hnone
    cases hnone
  · exact hdrawn

theorem stagesContent_of_flushed_row (recap : Recap) {row : Recap} {result : RecapWrites}
    (hflush : flushRecap db { updated := some row } row = .ok result)
    (hdb : db.KeepsConstraints) (hkept : db.ContentKept recap) (hid : row.id = recap.id)
    (hthumbnail : row.thumbnailId = recap.thumbnailId) : result.StagesContent db recap [] := by
  have hchanges : RecapWrites.ChangesPhotos { updated := some row } db recap.id :=
    changesPhotos_of_none db recap.id rfl rfl rfl rfl rfl
  apply stagesContent_of_flush recap hflush hdb hid rfl rfl hchanges (by simp)
  intro view hview hpublished
  have hviewKept := (hchanges.agrees_of_none hview rfl rfl recap.id).contentKept hkept
  exact contentKept_of_row hviewKept hid hthumbnail hpublished

theorem saveContent_stages (hdb : db.KeepsConstraints) (hkept : db.ContentKept recap)
    {actor version : Nat} {content : RecapContent}
    (h : saveContent db actor version content recap = .ok writes) :
    writes.StagesContent db recap [] := by
  simp only [saveContent, except_bind_eq_ok_iff] at h
  obtain ⟨-, -, -, -, hflush⟩ := h
  exact stagesContent_of_flushed_row recap hflush hdb hkept rfl rfl

/-- The rows of edited photos, in the order of the edits. -/
theorem editedPhotos {photos : List RecapPhoto} (edits : List (PhotoEdit × Nat))
    (howned : ∀ edit ∈ edits, edit.1.id ∈ photos.map (·.id)) :
    let edited := edits.filterMap fun (edit, index) =>
      (photos.find? (·.id = edit.id)).map (edit.applyTo index)
    edited.map (·.id) = edits.map (·.1.id) ∧ edited.map (·.sortOrder) = edits.map (·.2) ∧
      ∀ photo ∈ edited, ∃ old ∈ photos, old.id = photo.id ∧ photo.recapId = old.recapId ∧
        photo.deletedAt = old.deletedAt := by
  induction edits with
  | nil => exact ⟨rfl, rfl, by simp⟩
  | cons first edits ih =>
      rw [List.forall_mem_cons] at howned
      obtain ⟨hids, hnumbers, hversions⟩ := ih howned.2
      obtain ⟨old, hold, hid⟩ := List.mem_map.mp howned.1
      cases hfind : photos.find? (·.id = first.1.id) with
      | none =>
          have hnone := List.find?_eq_none.mp hfind old hold
          exact absurd hid (by simpa using hnone)
      | some found =>
          have hfound : found.id = first.1.id := by simpa using List.find?_some hfind
          simp only [List.filterMap_cons, hfind, Option.map_some, List.map_cons]
          constructor
          · exact congrArg₂ List.cons hfound hids
          · constructor
            · exact congrArg₂ List.cons rfl hnumbers
            · rw [List.forall_mem_cons]
              exact ⟨⟨found, List.mem_of_find?_eq_some hfind, rfl, rfl, rfl⟩, hversions⟩

theorem savePhotos_stages (hdb : db.KeepsConstraints) (hkept : db.ContentKept recap) {actor : Nat}
    {payload : PhotoOrderUpdate} (h : savePhotos db actor payload recap = .ok writes) :
    writes.StagesContent db recap [] := by
  simp only [savePhotos, except_bind_eq_ok_iff, ensure_eq_ok_iff] at h
  obtain ⟨-, -, -, ⟨hnodup, ⟨hincoming, hall⟩, hthumbnail⟩, hflush⟩ := h
  have hedits : ∀ edit ∈ payload.photos.zipIdx, edit.1.id ∈
      (db.photosFor recap.id).map (·.id) := by
    intro edit hedit
    exact hincoming _ (List.mem_map_of_mem (List.fst_mem_of_mem_zipIdx hedit))
  obtain ⟨hids, hnumbers, hversions⟩ := editedPhotos payload.photos.zipIdx hedits
  generalize payload.photos.zipIdx.filterMap (fun (edit, index) =>
    ((db.photosFor recap.id).find? (·.id = edit.id)).map (edit.applyTo index)) = edited
    at hids hnumbers hversions hflush
  have hincomingIds : payload.photos.zipIdx.map (·.1.id) = payload.photos.map (·.id) := by
    have hfirst := congrArg (List.map PhotoEdit.id) (List.zipIdx_map_fst 0 payload.photos)
    rwa [List.map_map] at hfirst
  rw [hincomingIds] at hids
  rw [List.zipIdx_map_snd] at hnumbers
  have hlength : edited.length = payload.photos.length := by
    simpa using congrArg List.length hids
  have hchanges : RecapWrites.ChangesPhotos
      { updated := some { recap.touch actor with thumbnailId := payload.thumbnailId }
        photos := edited } db recap.id := by
    constructor
    · rw [hids]
      exact hnodup
    · intro photo hphoto
      obtain ⟨old, hold, hid, howner, -⟩ := hversions photo hphoto
      exact ⟨howner.trans (mem_photosFor_iff.mp hold).2.1, old, hold, hid⟩
    · simp
    · simp
    · simp
    · rfl
    · rfl
  apply stagesContent_of_flush recap hflush hdb rfl rfl rfl hchanges (by simp)
  intro view hview hpublished
  have hmem : ∀ photo, photo ∈ view.photosFor recap.id ↔ photo ∈ edited := by
    intro photo
    rw [hchanges.mem_photosFor_of_cover hview rfl]
    · apply and_iff_left_of_imp
      intro hphoto
      obtain ⟨old, hold, -, -, hdeleted⟩ := hversions photo hphoto
      exact hdeleted.trans (mem_photosFor_iff.mp hold).2.2
    · intro old hold
      have hincluded := hall old.id (List.mem_map_of_mem hold)
      rw [← hids] at hincluded
      exact List.mem_map.mp hincluded
  apply contentKept_of_photos ?_ (hids ▸ hnodup) hmem
  · rw [hnumbers, hlength, List.range_eq_range']
  · rw [hlength]
    exact payload.photos_le
  · intro id hid
    rw [hids]
    exact hall id (hthumbnail id hid)
  · exact hchanges.images_kept hview hdb hkept.images
  · exact hpublished
  · rfl

theorem changesPhotos_of_upload (db : RecapDatabase) (row : Recap) {photo : RecapPhoto}
    {images : List RecapImage} (hactive : photo.deletedAt = none)
    (howned : ∀ image ∈ images, photo.id = image.photoId)
    (hvariants : images.map (·.variant) = [.display, .thumbnail]) :
    RecapWrites.ChangesPhotos { updated := some row, photo := some photo, images := images } db
      photo.recapId := by
  constructor
  · exact List.nodup_nil
  · simp
  · intro staged hstaged
    have hsame : photo = staged := Option.some.inj hstaged
    subst hsame
    exact ⟨rfl, hactive⟩
  · intro image himage
    exact ⟨photo, rfl, howned image himage⟩
  · intro _ _
    exact hvariants
  · rfl
  · rfl

theorem uploadPhoto_stages (hdb : db.KeepsConstraints) (hkept : db.ContentKept recap)
    {actor : Nat} {upload : PhotoUpload}
    (hprepared : upload.derivatives.map (·.variant) = [.display, .thumbnail])
    (h : uploadPhoto db actor upload recap = .ok writes) :
    writes.StagesContent db recap (upload.derivatives.map (·.id)) := by
  simp only [uploadPhoto] at h
  split at h
  · simp only [except_bind_eq_ok_iff, except_pure_eq_ok_iff] at h
    obtain ⟨-, -, hnothing⟩ := h
    subst hnothing
    constructor
    · rfl
    · exact changesPhotos_of_none db recap.id rfl rfl rfl rfl rfl
    · simp
    · simp
    · simp
  · simp only [except_bind_eq_ok_iff, ensure_eq_ok_iff] at h
    obtain ⟨-, -, -, hlimit, hflush⟩ := h
    let photo : RecapPhoto := ⟨upload.photoId, recap.id, upload.uploadId, upload.fingerprint,
      upload.altEn, upload.altDe, none, none, (db.photosFor recap.id).length, none⟩
    have hvariants : (upload.derivatives.map fun derivative => RecapImage.mk derivative.id
        photo.id derivative.objectKey derivative.variant).map (·.variant) =
          [.display, .thumbnail] := by
      rw [List.map_map]
      exact hprepared
    have howned : ∀ image ∈ upload.derivatives.map (fun derivative => RecapImage.mk
        derivative.id photo.id derivative.objectKey derivative.variant),
          photo.id = image.photoId := by
      intro image himage
      obtain ⟨derivative, -, hsame⟩ := List.mem_map.mp himage
      rw [← hsame]
    have hdrawn : ∀ image ∈ upload.derivatives.map (fun derivative => RecapImage.mk
        derivative.id photo.id derivative.objectKey derivative.variant),
          image.id ∈ upload.derivatives.map (·.id) := by
      intro image himage
      obtain ⟨derivative, hderivative, hsame⟩ := List.mem_map.mp himage
      rw [← hsame]
      exact List.mem_map_of_mem hderivative
    have hchanges := changesPhotos_of_upload db (recap.touch actor) rfl howned hvariants
    apply stagesContent_of_flush recap hflush hdb rfl rfl rfl hchanges hdrawn
    intro view hview hpublished
    have hmem : ∀ other, other ∈ view.photosFor recap.id ↔
        other ∈ photo :: db.photosFor recap.id := by
      intro other
      rw [hchanges.mem_photosFor hview, List.mem_cons]
      constructor
      · rintro ⟨-, hnew | hversion | ⟨hold, -⟩⟩
        · exact .inl (Option.some.inj hnew).symm
        · cases hversion
        · exact .inr hold
      · rintro (rfl | hold)
        · exact ⟨rfl, .inl rfl⟩
        · exact ⟨(mem_photosFor_iff.mp hold).2.2, .inr (.inr ⟨hold, by simp⟩)⟩
    have hids : ((photo :: db.photosFor recap.id).map (·.id)).Nodup := by
      rw [List.map_cons, List.nodup_cons]
      constructor
      · intro hused
        obtain ⟨old, hold, hid⟩ := List.mem_map.mp hused
        exact new_photo_fresh hview rfl (mem_photosFor_iff.mp hold).1 hid.symm
      · exact photosFor_ids db recap.id
    apply contentKept_of_photos ?_ hids hmem
    · rw [List.map_cons, hkept.order, List.length_cons, List.range_succ]
      exact (List.perm_append_singleton _ _).symm
    · exact hlimit
    · intro id hid
      exact List.mem_cons_of_mem photo.id (hkept.thumbnail id hid)
    · exact hchanges.images_kept hview hdb hkept.images
    · exact hpublished
    · rfl

/-- Photos under the numbers of their places. -/
def renumbered (photos : List RecapPhoto) : List RecapPhoto :=
  photos.zipIdx.map fun (photo, index) => { photo with sortOrder := index }

theorem renumbered_ids (photos : List RecapPhoto) :
    (renumbered photos).map (·.id) = photos.map (·.id) := by
  have hfirst := congrArg (List.map RecapPhoto.id) (List.zipIdx_map_fst 0 photos)
  rw [List.map_map] at hfirst
  rw [renumbered, List.map_map]
  exact hfirst

theorem renumbered_numbers (photos : List RecapPhoto) :
    (renumbered photos).map (·.sortOrder) = List.range photos.length := by
  rw [renumbered, List.map_map, List.range_eq_range', ← List.zipIdx_map_snd 0 photos]
  rfl

theorem mem_renumbered {photos : List RecapPhoto} {photo : RecapPhoto}
    (h : photo ∈ renumbered photos) :
    ∃ old ∈ photos, photo = { old with sortOrder := photo.sortOrder } := by
  obtain ⟨⟨old, index⟩, hold, hsame⟩ := List.mem_map.mp h
  apply Exists.intro old
  rw [← hsame]
  exact ⟨List.fst_mem_of_mem_zipIdx hold, rfl⟩

/-- Some photos are marked as deleted and the others renumbered. -/
def RecapWrites.marking (row : Recap) (gone remaining : List RecapPhoto) (now : Int) :
    RecapWrites where
  updated := some row
  photos := gone.map (fun photo => { photo with deletedAt := some now }) ++ renumbered remaining

section Marking

variable {gone remaining : List RecapPhoto} {row : Recap} {now : Int}
  (hsplit : (gone ++ remaining).Perm (db.photosFor recap.id))

include hsplit

theorem marking_changes :
    (RecapWrites.marking row gone remaining now).ChangesPhotos db recap.id := by
  constructor
  · have hids : (RecapWrites.marking row gone remaining now).photos.map (·.id) =
        (gone ++ remaining).map (·.id) := by
      rw [RecapWrites.marking, List.map_append, List.map_append, renumbered_ids, List.map_map]
      rfl
    rw [hids]
    exact (hsplit.map RecapPhoto.id).nodup_iff.mpr (photosFor_ids db recap.id)
  · intro photo hphoto
    have hversion : ∃ old ∈ gone ++ remaining, old.id = photo.id ∧
        photo.recapId = old.recapId := by
      rcases List.mem_append.mp hphoto with hgone | hkept
      · obtain ⟨old, hold, hsame⟩ := List.mem_map.mp hgone
        rw [← hsame]
        exact ⟨old, List.mem_append_left _ hold, rfl, rfl⟩
      · obtain ⟨old, hold, hsame⟩ := mem_renumbered hkept
        rw [hsame]
        exact ⟨old, List.mem_append_right _ hold, rfl, rfl⟩
    obtain ⟨old, hold, hid, howner⟩ := hversion
    have holdPhoto := hsplit.mem_iff.mp hold
    exact ⟨howner.trans (mem_photosFor_iff.mp holdPhoto).2.1, old, holdPhoto, hid⟩
  · simp [RecapWrites.marking]
  · simp [RecapWrites.marking]
  · simp [RecapWrites.marking]
  · rfl
  · rfl

theorem marking_covers (old : RecapPhoto) (hold : old ∈ db.photosFor recap.id) :
    ∃ photo ∈ (RecapWrites.marking row gone remaining now).photos, photo.id = old.id := by
  rcases List.mem_append.mp (hsplit.mem_iff.mpr hold) with hgone | hkept
  · exact ⟨_, List.mem_append_left _ (List.mem_map_of_mem hgone), rfl⟩
  · have hid : old.id ∈ remaining.map (·.id) := List.mem_map_of_mem hkept
    rw [← renumbered_ids] at hid
    obtain ⟨photo, hphoto, hsame⟩ := List.mem_map.mp hid
    exact ⟨photo, List.mem_append_right _ hphoto, hsame⟩

theorem mem_marked {after : RecapDatabase}
    (happlied : (RecapWrites.marking row gone remaining now).applyTo db = some after)
    (photo : RecapPhoto) :
    photo ∈ after.photosFor recap.id ↔ photo ∈ renumbered remaining := by
  rw [(marking_changes hsplit).mem_photosFor_of_cover happlied rfl (marking_covers hsplit)]
  constructor
  · rintro ⟨hphoto, hactive⟩
    rcases List.mem_append.mp hphoto with hgone | hkept
    · obtain ⟨old, -, hsame⟩ := List.mem_map.mp hgone
      rw [← hsame] at hactive
      cases hactive
    · exact hkept
  · intro hkept
    obtain ⟨old, hold, hsame⟩ := mem_renumbered hkept
    have hactive := (mem_photosFor_iff.mp
      (hsplit.mem_iff.mp (List.mem_append_right gone hold))).2.2
    rw [hsame]
    rw [hsame] at hkept
    exact ⟨List.mem_append_right _ hkept, hactive⟩

/-- The marked rows keep the contents in the database at hand. -/
theorem marking_kept (hdb : db.KeepsConstraints) (hkept : db.ContentKept recap)
    (hid : row.id = recap.id) (hthumbnail : ∀ id ∈ row.thumbnailId, id ∈ remaining.map (·.id))
    (hpublished : row.isPublished = true → recap.isPublished = true ∧
      row.toRecapContent = recap.toRecapContent ∧ remaining ≠ [])
    {after : RecapDatabase}
    (happlied : (RecapWrites.marking row gone remaining now).applyTo db = some after) :
    after.ContentKept row := by
  have hmem := mem_marked hsplit happlied
  have hids : ((renumbered remaining).map (·.id)).Nodup := by
    rw [renumbered_ids]
    exact ((List.sublist_append_right gone remaining).map RecapPhoto.id).nodup
      ((hsplit.map RecapPhoto.id).nodup_iff.mpr (photosFor_ids db recap.id))
  have hlength : (renumbered remaining).length = remaining.length := by
    simpa using congrArg List.length (renumbered_ids remaining)
  have hfewer : remaining.length ≤ (db.photosFor recap.id).length := by
    rw [← hsplit.length_eq, List.length_append]
    exact Nat.le_add_left _ _
  apply contentKept_of_photos hid hids hmem
  · rw [renumbered_numbers, hlength]
  · rw [hlength]
    exact hfewer.trans hkept.limit
  · rw [renumbered_ids]
    exact hthumbnail
  · exact (marking_changes hsplit).images_kept happlied hdb hkept.images
  · intro hrow
    obtain ⟨hbefore, hcontent, hsome⟩ := hpublished hrow
    have hpublishable := hkept.published hbefore
    constructor
    · rw [hcontent]
      exact hpublishable.titles
    · rw [hcontent]
      exact hpublishable.summaries
    · rw [hid, (photosFor_perm hids hmem).length_eq, hlength]
      exact List.length_pos_iff.mpr hsome
    · intro photo hphoto
      rw [hid] at hphoto
      obtain ⟨old, hold, hsame⟩ := mem_renumbered ((hmem photo).mp hphoto)
      rw [hsame]
      exact hpublishable.alternatives old
        (hsplit.mem_iff.mp (List.mem_append_right gone hold))

theorem marking_stages (hkept : db.ContentKept recap)
    (hid : row.id = recap.id) (hthumbnail : ∀ id ∈ row.thumbnailId, id ∈ remaining.map (·.id))
    (hpublished : row.isPublished = true → recap.isPublished = true ∧
      row.toRecapContent = recap.toRecapContent ∧ remaining ≠ []) :
    (RecapWrites.marking row gone remaining now).StagesContent db recap [] := by
  constructor
  · rfl
  · exact marking_changes hsplit
  · intro updated hupdated
    have hsame : row = updated := Option.some.inj hupdated
    subst hsame
    apply And.intro hid
    intro other after hagrees hother happlied
    rw [hid] at hagrees
    rw [hagrees.photosFor_eq] at hsplit
    exact marking_kept hsplit hother (hagrees.contentKept hkept) hid hthumbnail hpublished
      happlied
  · intro hnone
    cases hnone
  · simp [RecapWrites.marking]

end Marking

theorem markDeleted_stages (hkept : db.ContentKept recap) {actor : Nat}
    {photoId : Option Nat} {now : Int} {changed : Bool}
    (h : markDeleted db actor recap photoId now = .ok (changed, writes)) :
    writes.StagesContent db recap [] := by
  simp only [markDeleted, except_bind_eq_ok_iff, except_pure_eq_ok_iff, Prod.mk.injEq,
    ensure_eq_ok_iff] at h
  obtain ⟨-, -, -, hlast, -, hwrites⟩ := h
  rw [← hwrites]
  cases photoId with
  | none =>
      have hsplit : ((db.photosFor recap.id).filter (fun photo : RecapPhoto =>
          (none : Option Nat).isNone || (none : Option Nat) = some photo.id) ++ []).Perm
            (db.photosFor recap.id) := by
        simp
      apply marking_stages hsplit hkept ?_
      · intro id hid
        simp at hid
      · intro hpublished
        simp [Recap.isPublished, Recap.touch] at hpublished
      · rfl
  | some photoId =>
      have hsplit : ((db.photosFor recap.id).filter (fun photo =>
          (some photoId).isNone || some photoId = some photo.id) ++
            (db.photosFor recap.id).filter (fun photo => some photoId ≠ some photo.id)).Perm
              (db.photosFor recap.id) := by
        have hfilter := List.filter_append_perm
          (fun photo : RecapPhoto => decide (some photoId = some photo.id)) (db.photosFor recap.id)
        simpa using hfilter
      apply marking_stages hsplit hkept ?_
      · intro id hid
        exact of_decide_eq_true (Option.mem_filter_iff.mp hid).2
      · intro hpublished
        have hbefore : recap.isPublished = true := hpublished
        refine ⟨hbefore, rfl, ?_⟩
        intro hnone
        have hstatus : recap.status = .published := by
          rw [Recap.isPublished, Bool.and_eq_true] at hbefore
          exact of_decide_eq_true hbefore.1
        exact hlast ⟨rfl, hstatus, hnone⟩
      · rfl

theorem deletePhoto_stages (hkept : db.ContentKept recap) {actor version photoId : Nat} {now : Int}
    (h : deletePhoto db actor version photoId recap now = .ok writes) :
    writes.StagesContent db recap [] := by
  simp only [deletePhoto, except_bind_eq_ok_iff, except_pure_eq_ok_iff] at h
  obtain ⟨-, -, ⟨changed, staged⟩, hstaged, hsame⟩ := h
  rw [← hsame]
  exact markDeleted_stages hkept hstaged

theorem deleteRecap_stages (hkept : db.ContentKept recap) {actor version : Nat} {now : Int}
    (h : deleteRecap db actor version recap now = .ok writes) :
    writes.StagesContent db recap [] := by
  simp only [deleteRecap, except_bind_eq_ok_iff, except_pure_eq_ok_iff] at h
  obtain ⟨-, -, ⟨changed, staged⟩, hstaged, hsame⟩ := h
  rw [← hsame]
  exact markDeleted_stages hkept hstaged

end Services

end BuddyWeb
