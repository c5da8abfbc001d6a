/-
Replacing a stored image: the upload, the database reference and the deletions, each of
which can fail before or after it takes effect.
-/
import Mathlib.Data.List.Basic
import BuddyWeb.Storage.CallOutcome

namespace BuddyWeb

inductive ImageBucket
  | profileImages
  | eventMedia
  | eventSliderImages
  deriving DecidableEq, Repr

structure StorageObjectRef where
  bucket : ImageBucket
  objectKey : Nat
  deriving DecidableEq, Repr

/-- The references of the committed rows, and the objects of the store. -/
structure ImageHoldings where
  rows : List StorageObjectRef
  objects : List StorageObjectRef

namespace ImageHoldings

variable (store : ImageHoldings)

def uploadImage (reference : StorageObjectRef) (outcome : CallOutcome) : ImageHoldings :=
  if outcome.takesEffect then { store with objects := reference :: store.objects } else store

def deleteImage (reference : StorageObjectRef) (outcome : CallOutcome) : ImageHoldings :=
  if outcome.takesEffect then
    { store with objects := store.objects.filter (· ≠ reference) }
  else store

def commit (rows : List StorageObjectRef) (outcome : CallOutcome) : ImageHoldings :=
  if outcome.takesEffect then { store with rows := rows } else store

/-- The objects which the reconciliation finds without a row. -/
def orphans : List StorageObjectRef :=
  store.objects.filter (· ∉ store.rows)

end ImageHoldings

structure ImageReplacement where
  image : StorageObjectRef
  cleanupPending : Bool
  deriving DecidableEq, Repr

/-- The outcomes of the calls of one replacement, as far as they are made. -/
structure ReplacementOutcomes where
  upload : CallOutcome
  attach : CallOutcome
  commit : CallOutcome
  rollback : CallOutcome
  deleteNew : CallOutcome
  check : CallOutcome
  deletePrevious : CallOutcome

section Replacement

variable (attach : StorageObjectRef → List StorageObjectRef → List StorageObjectRef)
  (isReferenced : List StorageObjectRef → StorageObjectRef → Bool)
  (outcomes : ReplacementOutcomes)

/-- The rows which the transaction stages, committed or not, and the error of the two calls. -/
def attachAndCommit (image : StorageObjectRef) (store : ImageHoldings) :
    ImageHoldings × Option RaisedError :=
  match outcomes.attach.error? with
  | some error => (store, some error)
  | none =>
      (store.commit (attach image store.rows) outcomes.commit, outcomes.commit.error?)

/-- After an error: roll back, delete the new object in any case, and raise again. -/
def compensate (image : StorageObjectRef) (error : RaisedError) (store : ImageHoldings) :
    ImageHoldings × RaisedError :=
  let raised := outcomes.rollback.error?.getD error
  let after := store.deleteImage image outcomes.deleteNew
  match outcomes.deleteNew.error? with
  | none => (after, raised)
  | some .storageOperation => (after, raised)
  | some deletion => (after, deletion)

/-- After the commit: delete the previous object unless a row still references it. -/
def cleanUpPrevious (image : StorageObjectRef) (previous : Option StorageObjectRef)
    (store : ImageHoldings) : ImageHoldings × Except RaisedError ImageReplacement :=
  let caught (error : RaisedError) : Except RaisedError ImageReplacement :=
    if error.isException then .ok ⟨image, true⟩ else .error error
  match previous with
  | none => (store, .ok ⟨image, false⟩)
  | some previous =>
      match outcomes.check.error? with
      | some error => (store, caught error)
      | none =>
          if isReferenced store.rows previous then (store, .ok ⟨image, false⟩)
          else
            let after := store.deleteImage previous outcomes.deletePrevious
            match outcomes.deletePrevious.error? with
            | none => (after, .ok ⟨image, false⟩)
            | some error => (after, caught error)

/-- Upload the new image, commit its reference, then clean the unreferenced previous
object. -/
def replaceImageReference (image : StorageObjectRef) (previous : Option StorageObjectRef)
    (store : ImageHoldings) : ImageHoldings × Except RaisedError ImageReplacement :=
  let uploaded := store.uploadImage image outcomes.upload
  match outcomes.upload.error? with
  | some error => (uploaded, .error error)
  | none =>
      match attachAndCommit attach outcomes image uploaded with
      | (committed, none) => cleanUpPrevious isReferenced outcomes image previous committed
      | (committed, some error) =>
          if error.isException then
            let (after, raised) := compensate outcomes image error committed
            (after, .error raised)
          else (committed, .error error)

end Replacement

/-- `replace_own_avatar` deletes the photo it locked and adds the new one. -/
def attachAvatar (previous : Option StorageObjectRef) (image : StorageObjectRef)
    (rows : List StorageObjectRef) : List StorageObjectRef :=
  image :: previous.elim rows rows.erase

/-- The number of photo rows with a reference, as a truth value. -/
def isAvatarReferenced (rows : List StorageObjectRef) (reference : StorageObjectRef) : Bool :=
  decide (rows.count reference ≠ 0)

/-- No row references an object which is missing because of the replacement, the previous
object goes only where no row references it, the new one stays only where a row references
it or as an orphan, and no other object comes or goes. -/
structure ReferencesKept (store after : ImageHoldings) (image : StorageObjectRef)
    (previous : Option StorageObjectRef) : Prop where
  present : ∀ reference ∈ after.rows, reference ∉ after.objects →
    reference ∈ store.rows ∧ reference ∉ store.objects
  previousUnreferenced : ∀ reference, previous = some reference →
    reference ∈ store.objects → reference ∉ after.objects → reference ∉ after.rows
  newAccounted : image ∉ after.rows → image ∉ after.objects ∨ image ∈ after.orphans
  others : ∀ reference, reference ≠ image → previous ≠ some reference →
    (reference ∈ after.objects ↔ reference ∈ store.objects)

/-- The commit took effect although it raises, and so did the deletion of the new object. -/
structure ReplacementOutcomes.LostCommit (outcomes : ReplacementOutcomes) : Prop where
  uploaded : outcomes.upload = .returns
  attached : outcomes.attach = .returns
  committed : ∃ error, outcomes.commit = .failsAfter error ∧ error.isException = true
  deleted : outcomes.deleteNew.takesEffect = true

section Kept

@[simp]
theorem ImageHoldings.deleteImage_rows (store : ImageHoldings) (reference : StorageObjectRef)
    (outcome : CallOutcome) : (store.deleteImage reference outcome).rows = store.rows := by
  rw [deleteImage]
  split <;> rfl

theorem ImageHoldings.mem_deleteImage {store : ImageHoldings} {reference other : StorageObjectRef}
    {outcome : CallOutcome} : other ∈ (store.deleteImage reference outcome).objects ↔
      other ∈ store.objects ∧ (outcome.takesEffect = true → other ≠ reference) := by
  rw [deleteImage]
  split
  · rename_i heffect
    simp [heffect]
  · rename_i heffect
    simp [heffect]

@[simp]
theorem ImageHoldings.uploadImage_rows (store : ImageHoldings) (reference : StorageObjectRef)
    (outcome : CallOutcome) : (store.uploadImage reference outcome).rows = store.rows := by
  rw [uploadImage]
  split <;> rfl

theorem ImageHoldings.mem_uploadImage {store : ImageHoldings} {reference other : StorageObjectRef}
    {outcome : CallOutcome} : other ∈ (store.uploadImage reference outcome).objects ↔
      (outcome.takesEffect = true ∧ other = reference) ∨ other ∈ store.objects := by
  rw [uploadImage]
  split
  · rename_i heffect
    simp [heffect]
  · rename_i heffect
    simp [heffect]

@[simp]
theorem ImageHoldings.commit_objects (store : ImageHoldings) (rows : List StorageObjectRef)
    (outcome : CallOutcome) : (store.commit rows outcome).objects = store.objects := by
  rw [commit]
  split <;> rfl

/-- Objects without a row are orphans. -/
theorem ImageHoldings.accounted (store : ImageHoldings) (image : StorageObjectRef)
    (h : image ∉ store.rows) : image ∉ store.objects ∨ image ∈ store.orphans := by
  by_cases hobject : image ∈ store.objects
  · right
    rw [orphans, List.mem_filter]
    exact ⟨hobject, decide_eq_true h⟩
  · exact .inl hobject

variable {store after : ImageHoldings} {image : StorageObjectRef}
  {previous : Option StorageObjectRef}

/-- A replacement whose rows are not committed keeps the references. -/
theorem ReferencesKept.of_uncommitted (hfresh : image ∉ store.rows)
    (hrows : after.rows = store.rows)
    (hobjects : ∀ reference, reference ≠ image →
      (reference ∈ after.objects ↔ reference ∈ store.objects)) :
    ReferencesKept store after image previous := by
  have hne : ∀ reference ∈ store.rows, reference ≠ image := by
    rintro reference hreference rfl
    exact hfresh hreference
  constructor
  · intro reference hreference hmissing
    rw [hrows] at hreference
    exact ⟨hreference, fun hobject =>
      hmissing ((hobjects reference (hne reference hreference)).mpr hobject)⟩
  · intro reference _ hobject hmissing hreference
    rw [hrows] at hreference
    exact hmissing ((hobjects reference (hne reference hreference)).mpr hobject)
  · exact after.accounted image
  · intro reference himage _
    exact hobjects reference himage

/-- A committed replacement keeps the references while the new object is there and the
previous one is kept or unreferenced. -/
theorem ReferencesKept.of_committed (himage : image ∈ after.objects)
    (hrows : ∀ reference ∈ after.rows, reference = image ∨ reference ∈ store.rows)
    (hobjects : ∀ reference, reference ≠ image →
      (reference ∈ after.objects ↔ reference ∈ store.objects) ∨
        (previous = some reference ∧ reference ∉ after.rows)) :
    ReferencesKept store after image previous := by
  constructor
  · intro reference hreference hmissing
    have hne : reference ≠ image := by
      rintro rfl
      exact hmissing himage
    rcases hobjects reference hne with hsame | ⟨-, hunreferenced⟩
    · exact ⟨(hrows reference hreference).resolve_left hne,
        fun hobject => hmissing (hsame.mpr hobject)⟩
    · exact absurd hreference hunreferenced
  · intro reference _ hobject hmissing
    have hne : reference ≠ image := by
      rintro rfl
      exact hmissing himage
    rcases hobjects reference hne with hsame | ⟨-, hunreferenced⟩
    · exact absurd (hsame.mpr hobject) hmissing
    · exact hunreferenced
  · exact after.accounted image
  · intro reference hne hother
    rcases hobjects reference hne with hsame | ⟨hprevious, -⟩
    · exact hsame
    · exact absurd hprevious hother

end Kept

section Replaced

variable {attach : StorageObjectRef → List StorageObjectRef → List StorageObjectRef}
  {isReferenced : List StorageObjectRef → StorageObjectRef → Bool}
  {outcomes : ReplacementOutcomes} {store : ImageHoldings} {image : StorageObjectRef}
  {previous : Option StorageObjectRef}

theorem mem_uploaded {reference : StorageObjectRef} (hne : reference ≠ image) :
    reference ∈ (store.uploadImage image outcomes.upload).objects ↔
      reference ∈ store.objects := by
  rw [ImageHoldings.mem_uploadImage]
  simp [hne]

theorem compensate_fst (error : RaisedError) :
    (compensate outcomes image error store).1 = store.deleteImage image outcomes.deleteNew := by
  rw [compensate]
  split <;> rfl

/-- The cleanup leaves the rows, and at most takes the unreferenced previous object away. -/
theorem cleanUpPrevious_objects
    (hcheck : ∀ rows reference, isReferenced rows reference = false → reference ∉ rows)
    (reference : StorageObjectRef) :
    (reference ∈ (cleanUpPrevious isReferenced outcomes image previous store).1.objects ↔
        reference ∈ store.objects) ∨
      (previous = some reference ∧
        reference ∉ (cleanUpPrevious isReferenced outcomes image previous store).1.rows) := by
  cases previous with
  | none => exact .inl Iff.rfl
  | some old =>
      simp only [cleanUpPrevious]
      cases hasked : outcomes.check.error? with
      | some error => exact .inl Iff.rfl
      | none =>
          by_cases hreferenced : isReferenced store.rows old = true
          · simp [hreferenced]
          · have hunreferenced := hcheck store.rows old (by simpa using hreferenced)
            simp only [if_neg hreferenced]
            have hdeleted : (reference ∈
                  (store.deleteImage old outcomes.deletePrevious).objects ↔
                reference ∈ store.objects) ∨ (some old = some reference ∧
                  reference ∉ (store.deleteImage old outcomes.deletePrevious).rows) := by
              by_cases hsame : reference = old
              · subst hsame
                exact .inr ⟨rfl, by rwa [ImageHoldings.deleteImage_rows]⟩
              · left
                rw [ImageHoldings.mem_deleteImage]
                simp [hsame]
            cases outcomes.deletePrevious.error? with
            | none => exact hdeleted
            | some error => exact hdeleted

theorem cleanUpPrevious_rows :
    (cleanUpPrevious isReferenced outcomes image previous store).1.rows = store.rows := by
  cases previous with
  | none => rfl
  | some old =>
      simp only [cleanUpPrevious]
      cases outcomes.check.error? with
      | some error => rfl
      | none =>
          by_cases hreferenced : isReferenced store.rows old = true
          · simp [hreferenced]
          · simp only [if_neg hreferenced]
            cases outcomes.deletePrevious.error? with
            | none => exact store.deleteImage_rows old outcomes.deletePrevious
            | some error => exact store.deleteImage_rows old outcomes.deletePrevious

/-- An upload that is not followed by a commit keeps the references. -/
theorem uploaded_kept (hfresh : image ∉ store.rows) :
    ReferencesKept store (store.uploadImage image outcomes.upload) image previous :=
  .of_uncommitted hfresh (store.uploadImage_rows image outcomes.upload)
    fun _ hne => mem_uploaded hne

/-- So does an upload that is taken back. -/
theorem uploaded_deleted_kept (hfresh : image ∉ store.rows) :
    ReferencesKept store
      ((store.uploadImage image outcomes.upload).deleteImage image outcomes.deleteNew)
      image previous := by
  apply ReferencesKept.of_uncommitted hfresh
  · rw [ImageHoldings.deleteImage_rows, ImageHoldings.uploadImage_rows]
  · intro reference hne
    rw [ImageHoldings.mem_deleteImage, mem_uploaded hne]
    exact and_iff_left fun _ => hne

/-- After the upload and the commit the new object is there and the other rows are old
ones. -/
theorem committed_kept
    (hattach : ∀ image rows, image ∈ attach image rows ∧
      ∀ reference ∈ attach image rows, reference = image ∨ reference ∈ rows)
    (hupload : outcomes.upload = .returns) (after : ImageHoldings)
    (hrows : after.rows = attach image store.rows)
    (hobjects : ∀ reference,
      (reference ∈ after.objects ↔
          reference ∈ (store.uploadImage image outcomes.upload).objects) ∨
        (previous = some reference ∧ reference ∉ after.rows)) :
    ReferencesKept store after image previous := by
  have himage : image ∈ after.rows := by
    rw [hrows]
    exact (hattach image store.rows).1
  apply ReferencesKept.of_committed
  · rcases hobjects image with hsame | ⟨-, hunreferenced⟩
    · rw [hsame, ImageHoldings.mem_uploadImage, hupload]
      exact .inl ⟨rfl, rfl⟩
    · exact absurd himage hunreferenced
  · intro reference hreference
    rw [hrows] at hreference
    exact (hattach image store.rows).2 reference hreference
  · intro reference hne
    have hsame := hobjects reference
    rwa [mem_uploaded hne] at hsame

/-- A row of the new object without the object is a dangling reference of this call. -/
theorem not_kept_of_deleted
    (hattach : ∀ image rows, image ∈ attach image rows ∧
      ∀ reference ∈ attach image rows, reference = image ∨ reference ∈ rows)
    (hfresh : image ∉ store.rows) (hrows : after.rows = attach image store.rows)
    (hdeleted : image ∉ after.objects) : ¬ ReferencesKept store after image previous := by
  intro hkept
  have himage : image ∈ after.rows := by
    rw [hrows]
    exact (hattach image store.rows).1
  exact hfresh (hkept.present image himage hdeleted).1

/-- The staged rows are not committed, or committed, or committed by a commit which raises. -/
theorem attachAndCommit_cases (attach : StorageObjectRef → List StorageObjectRef →
      List StorageObjectRef) (outcomes : ReplacementOutcomes) (image : StorageObjectRef)
    (store : ImageHoldings) :
    (∃ error, attachAndCommit attach outcomes image store = (store, some error) ∧
      ¬ outcomes.LostCommit) ∨
    (attachAndCommit attach outcomes image store =
        ({ store with rows := attach image store.rows }, none) ∧ ¬ outcomes.LostCommit) ∨
    ∃ error, attachAndCommit attach outcomes image store =
        ({ store with rows := attach image store.rows }, some error) ∧
      outcomes.attach = .returns ∧ outcomes.commit = .failsAfter error := by
  rw [attachAndCommit]
  cases hattached : outcomes.attach.error? with
  | some error =>
      refine .inl ⟨error, rfl, fun hlost => ?_⟩
      rw [hlost.attached] at hattached
      cases hattached
  | none =>
      have hnot : (∀ error, outcomes.commit ≠ .failsAfter error) → ¬ outcomes.LostCommit := by
        intro hcommit hlost
        obtain ⟨error, herror, -⟩ := hlost.committed
        exact hcommit error herror
      cases hcommit : outcomes.commit with
      | returns => exact .inr (.inl ⟨rfl, hnot (by simp [hcommit])⟩)
      | failsBefore error => exact .inl ⟨error, rfl, hnot (by simp [hcommit])⟩
      | failsAfter error =>
          exact .inr (.inr ⟨error, rfl, CallOutcome.returns_of_error hattached, rfl⟩)

/-- An error after the upload is raised again, and an exception first deletes the new
object. -/
theorem replace_raised {committed : ImageHoldings} {error : RaisedError}
    (hupload : outcomes.upload.error? = none)
    (hraised : attachAndCommit attach outcomes image
      (store.uploadImage image outcomes.upload) = (committed, some error)) :
    (replaceImageReference attach isReferenced outcomes image previous store).1 =
      if error.isException then committed.deleteImage image outcomes.deleteNew
      else committed := by
  simp only [replaceImageReference, hupload, hraised]
  split
  · exact compensate_fst error
  · rfl

theorem replace_committed {committed : ImageHoldings} (hupload : outcomes.upload.error? = none)
    (hcommitted : attachAndCommit attach outcomes image
      (store.uploadImage image outcomes.upload) = (committed, none)) :
    replaceImageReference attach isReferenced outcomes image previous store =
      cleanUpPrevious isReferenced outcomes image previous committed := by
  simp only [replaceImageReference, hupload, hcommitted]

/-- After a commit which raises, the references are kept unless the new object is deleted. -/
theorem raised_kept_iff
    (hattach : ∀ image rows, image ∈ attach image rows ∧
      ∀ reference ∈ attach image rows, reference = image ∨ reference ∈ rows)
    (hfresh : image ∉ store.rows) (hupload : outcomes.upload = .returns) (error : RaisedError)
    {committed : ImageHoldings} (hrows : committed.rows = attach image store.rows)
    (hobjects : committed.objects = (store.uploadImage image outcomes.upload).objects) :
    ReferencesKept store (if error.isException then
        committed.deleteImage image outcomes.deleteNew else committed) image previous ↔
      ¬ (error.isException = true ∧ outcomes.deleteNew.takesEffect = true) := by
  have hcommitted : ReferencesKept store committed image previous := by
    refine committed_kept hattach hupload committed hrows fun reference => .inl ?_
    rw [hobjects]
  by_cases hexception : error.isException = true
  · rw [if_pos hexception]
    by_cases hdelete : outcomes.deleteNew.takesEffect = true
    · refine iff_of_false ?_ fun hnot => hnot ⟨hexception, hdelete⟩
      apply not_kept_of_deleted hattach hfresh
      · rw [ImageHoldings.deleteImage_rows, hrows]
      · intro hpresent
        rw [ImageHoldings.mem_deleteImage] at hpresent
        exact hpresent.2 hdelete rfl
    · refine iff_of_true ?_ fun hboth => hdelete hboth.2
      rw [ImageHoldings.deleteImage, if_neg hdelete]
      exact hcommitted
  · rw [if_neg hexception]
    exact iff_of_true hcommitted fun hboth => hexception hboth.1

/-- The replacement keeps the references exactly when no commit is lost whose new object is
then deleted. -/
theorem replace_keeps_references_iff
    (hattach : ∀ image rows, image ∈ attach image rows ∧
      ∀ reference ∈ attach image rows, reference = image ∨ reference ∈ rows)
    (hcheck : ∀ rows reference, isReferenced rows reference = false → reference ∉ rows)
    (hfresh : image ∉ store.rows) :
    ReferencesKept store (replaceImageReference attach isReferenced outcomes image previous
        store).1 image previous ↔ ¬ outcomes.LostCommit := by
  cases hupload : outcomes.upload.error? with
  | some error =>
      have hlost : ¬ outcomes.LostCommit := by
        intro hlost
        rw [hlost.uploaded] at hupload
        cases hupload
      simp only [replaceImageReference, hupload]
      exact iff_of_true (uploaded_kept hfresh) hlost
  | none =>
      have huploaded := CallOutcome.returns_of_error hupload
      rcases attachAndCommit_cases attach outcomes image
          (store.uploadImage image outcomes.upload) with
        ⟨error, hraised, hlost⟩ | ⟨hcommitted, hlost⟩ | ⟨error, hraised, hattached, hcommit⟩
      · rw [replace_raised hupload hraised]
        refine iff_of_true ?_ hlost
        split
        · exact uploaded_deleted_kept hfresh
        · exact uploaded_kept hfresh
      · rw [replace_committed hupload hcommitted]
        refine iff_of_true ?_ hlost
        apply committed_kept hattach huploaded
        · rw [cleanUpPrevious_rows]
          simp
        · exact cleanUpPrevious_objects hcheck
      · rw [replace_raised hupload hraised]
        refine (raised_kept_iff hattach hfresh huploaded error ?_ ?_).trans (not_congr ?_)
        · simp
        · rfl
        constructor
        · rintro ⟨hexception, hdeleted⟩
          exact ⟨huploaded, hattached, ⟨error, hcommit, hexception⟩, hdeleted⟩
        · intro hlost
          obtain ⟨lost, herror, hexception⟩ := hlost.committed
          rw [hcommit] at herror
          cases herror
          exact ⟨hexception, hlost.deleted⟩

end Replaced

section Avatar

/-- The attachment of an avatar keeps to the new image and the rows before. -/
theorem attachAvatar_spec (previous : Option StorageObjectRef) (image : StorageObjectRef)
    (rows : List StorageObjectRef) : image ∈ attachAvatar previous image rows ∧
      ∀ reference ∈ attachAvatar previous image rows, reference = image ∨ reference ∈ rows := by
  rw [attachAvatar]
  constructor
  · exact List.mem_cons_self
  · intro reference hreference
    rcases List.mem_cons.mp hreference with hnew | hold
    · exact .inl hnew
    · right
      cases previous with
      | none => exact hold
      | some old => exact List.mem_of_mem_erase hold

/-- A count of zero finds no row. -/
theorem isAvatarReferenced_eq_false (rows : List StorageObjectRef)
    (reference : StorageObjectRef) (h : isAvatarReferenced rows reference = false) :
    reference ∉ rows := by
  apply List.count_eq_zero.mp
  simpa [isAvatarReferenced] using h

/-- The acknowledgement of the commit is lost and the new object is deleted. -/
def lostAcknowledgement : ReplacementOutcomes :=
  ⟨.returns, .returns, .failsAfter .exception, .returns, .returns, .returns, .returns⟩

/-- The row of the new avatar then references no object. -/
theorem not_replace_keeps_references_lostAcknowledgement :
    ¬ ∀ (outcomes : ReplacementOutcomes) (store : ImageHoldings) (image : StorageObjectRef)
      (previous : Option StorageObjectRef), image ∉ store.rows →
      ReferencesKept store (replaceImageReference (attachAvatar previous) isAvatarReferenced
        outcomes image previous store).1 image previous := by
  intro hkept
  have hdangling := (hkept lostAcknowledgement ⟨[], []⟩ ⟨.profileImages, 1⟩ none
    (by decide)).present ⟨.profileImages, 1⟩ (by decide) (by decide)
  exact absurd hdangling.1 (by decide)

/-- With its acknowledgement the commit replaces one avatar by another. -/
theorem replace_keeps_references_avatar :
    ReferencesKept ⟨[⟨.profileImages, 1⟩], [⟨.profileImages, 1⟩]⟩
        (replaceImageReference (attachAvatar (some ⟨.profileImages, 1⟩)) isAvatarReferenced
          { lostAcknowledgement with commit := .returns } ⟨.profileImages, 2⟩
          (some ⟨.profileImages, 1⟩) ⟨[⟨.profileImages, 1⟩], [⟨.profileImages, 1⟩]⟩).1
        ⟨.profileImages, 2⟩ (some ⟨.profileImages, 1⟩) ↔
      ¬ ReplacementOutcomes.LostCommit { lostAcknowledgement with commit := .returns } :=
  replace_keeps_references_iff (attachAvatar_spec _) isAvatarReferenced_eq_false (by decide)

end Avatar

end BuddyWeb
