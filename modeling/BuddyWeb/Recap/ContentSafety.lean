/-
Interleaved recap requests keep the contents of every recap: the order of its photos, their
images, the thumbnail, and what a published recap must have.
-/
import BuddyWeb.Recap.PhotoContents
import BuddyWeb.Recap.Retention

namespace BuddyWeb

/-- The derivatives of an upload are those of `prepare_recap_images`, under identifiers which
the request has drawn itself. -/
def RecapRequest.Prepared (drawnBy : Nat → Nat) (id : Nat) : RecapRequest → Prop
  | .upload _ _ payload => payload.derivatives.map (·.variant) = [.display, .thumbnail] ∧
      ∀ derivative ∈ payload.derivatives, drawnBy derivative.id = id
  | _ => True

instance (drawnBy : Nat → Nat) (id : Nat) :
    (request : RecapRequest) → Decidable (request.Prepared drawnBy id)
  | .upload _ _ payload =>
      inferInstanceAs (Decidable (_ ∧ ∀ derivative ∈ payload.derivatives, _))
  | .create .. => .isTrue trivial
  | .update .. => .isTrue trivial
  | .status .. => .isTrue trivial
  | .orderPhotos .. => .isTrue trivial
  | .deletePhoto .. => .isTrue trivial
  | .delete .. => .isTrue trivial
  | .cleanupEvicted .. => .isTrue trivial
  | .cleanupPhotos .. => .isTrue trivial

/-- A repeated upload stages nothing, a first one a photo under its identifier. -/
def RecapRequest.Retries (writes : RecapWrites) : RecapRequest → Prop
  | .upload _ recapId payload => writes = {} ∨
      ∃ photo, writes.photo = some photo ∧ writes.photos = [] ∧ photo.recapId = recapId ∧
        photo.uploadId = payload.uploadId
  | _ => True

namespace RecapWorld

section Facts

variable (drawnBy : Nat → Nat) (w : RecapWorld) (id : Nat)

/-- Uploads bring prepared images, and no identifier of an image is drawn twice. -/
def UploadsPrepared (_ : RecapWorld) : RecapLabel → Prop
  | .start id request => request.Prepared drawnBy id
  | _ => True

instance : (label : RecapLabel) → Decidable (UploadsPrepared drawnBy w label)
  | .start id request => inferInstanceAs (Decidable (request.Prepared drawnBy id))
  | .advance _ => .isTrue trivial
  | .storage _ _ => .isTrue trivial
  | .commit _ => .isTrue trivial
  | .rollback _ => .isTrue trivial
  | .tick _ => .isTrue trivial
  | .events _ _ => .isTrue trivial

def Succeeded : Prop :=
  ∃ transaction, w.transactions id = some transaction ∧ transaction.phase = .succeeded

/-- The image has gone, or its photo is deleted. -/
structure Dead (imageId : Nat) : Prop where
  succeeded : w.Succeeded (drawnBy imageId)
  deleted : ∀ image ∈ w.db.images.rows, image.id = imageId →
    ∀ photo ∈ w.db.photos.rows, photo.id = image.photoId → photo.deletedAt.isSome = true

/-- What a transaction has flushed. -/
inductive StagedContent : RecapWrites → Prop
  | created (row : Recap) (hthumbnail : row.thumbnailId = none)
      (hdraft : row.isPublished = false) : StagedContent { created := some row }
  | service (recap : Recap) (writes : RecapWrites) (imageIds : List Nat)
      (hstages : writes.StagesContent w.db recap imageIds)
      (hlocked : w.recapLocks recap.id = some id)
      (hdrawn : ∀ imageId ∈ imageIds, drawnBy imageId = id) : StagedContent writes
  | publication (row : Recap) (jobs : List RecapMediaCleanup) (evicted : List Nat)
      (hkept : w.db.ContentKept row) (hlocked : w.recapLocks row.id = some id)
      (hevicted : ∀ recapId ∈ evicted, w.recapLocks recapId = some id) :
      StagedContent { updated := some row, jobs := jobs, evicted := evicted }
  | swept (deletedImages : List Nat) (hdead : ∀ imageId ∈ deletedImages, w.Dead drawnBy imageId) :
      StagedContent { deletedImages := deletedImages }

def PhaseContent (request : RecapRequest) : RecapPhase → Prop
  | .published row => w.db.ContentKept row ∧ w.recapLocks row.id = some id
  | .ranking row _ _ => w.db.ContentKept row ∧ w.recapLocks row.id = some id
  | .evicting row _ _ => w.db.ContentKept row ∧ w.recapLocks row.id = some id
  | .flushed writes => w.StagedContent drawnBy id writes ∧ request.Retries writes
  | .sweeping images deletedImages => (∃ recapId, request = .cleanupPhotos recapId) ∧
      (∀ image ∈ images, w.Dead drawnBy image.id) ∧
      ∀ imageId ∈ deletedImages, w.Dead drawnBy imageId
  | _ => True

structure ContentFacts : Prop where
  constraints : w.db.KeepsConstraints
  kept : ∀ recap ∈ w.db.recaps.rows, w.db.ContentKept recap
  stored : ∀ image ∈ w.db.images.rows, w.Succeeded (drawnBy image.id)
  prepared : ∀ id transaction, w.transactions id = some transaction →
    transaction.request.Prepared drawnBy id
  phases : ∀ id transaction, w.transactions id = some transaction →
    w.PhaseContent drawnBy id transaction.request transaction.phase

end Facts

section Frames

variable {drawnBy : Nat → Nat} {w after : RecapWorld} {id : Nat}

/-- What others may do beside a transaction: they leave the recaps which it has locked, and no
deleted photo comes back. -/
structure KeepsContent (drawnBy : Nat → Nat) (w after : RecapWorld) (id : Nat) : Prop where
  locks : ∀ recapId, w.recapLocks recapId = some id → after.recapLocks recapId = some id
  agrees : ∀ recapId, w.recapLocks recapId = some id → RecapAgrees recapId w.db after.db
  dead : ∀ imageId, w.Dead drawnBy imageId → after.Dead drawnBy imageId

theorem RecapWrites.Sound.congr {writes : RecapWrites} {db other : RecapDatabase} {row : Recap}
    (h : writes.Sound db row) (hagrees : RecapAgrees row.id db other) :
    writes.Sound other row := by
  intro later result hlater
  exact h later result (hagrees.trans hlater)

theorem KeepsContent.stagesContent {writes : RecapWrites} {recap : Recap}
    {imageIds : List Nat} (h : KeepsContent drawnBy w after id)
    (hlocked : w.recapLocks recap.id = some id)
    (hstages : writes.StagesContent w.db recap imageIds) :
    writes.StagesContent after.db recap imageIds where
  created := hstages.created
  changes := hstages.changes.congr (h.agrees recap.id hlocked).photosFor_eq
  updated row hrow := by
    obtain ⟨hid, hsound⟩ := hstages.updated row hrow
    have hagrees := h.agrees recap.id hlocked
    rw [← hid] at hagrees
    exact ⟨hid, RecapWrites.Sound.congr hsound hagrees⟩
  unchanged := hstages.unchanged
  drawn := hstages.drawn

theorem KeepsContent.stagedContent {writes : RecapWrites} (h : KeepsContent drawnBy w after id)
    (hstaged : w.StagedContent drawnBy id writes) : after.StagedContent drawnBy id writes := by
  cases hstaged with
  | created row hthumbnail hdraft => exact .created row hthumbnail hdraft
  | service recap writes imageIds hstages hlocked hdrawn =>
      exact .service recap writes imageIds (h.stagesContent hlocked hstages)
        (h.locks _ hlocked) hdrawn
  | publication row jobs evicted hkept hlocked hevicted =>
      exact .publication row jobs evicted ((h.agrees row.id hlocked).contentKept hkept)
        (h.locks _ hlocked) fun recapId hmem => h.locks recapId (hevicted recapId hmem)
  | swept deletedImages hdead =>
      exact .swept deletedImages fun imageId hmem => h.dead imageId (hdead imageId hmem)

theorem KeepsContent.phaseContent {request : RecapRequest} {phase : RecapPhase}
    (h : KeepsContent drawnBy w after id) (hphase : w.PhaseContent drawnBy id request phase) :
    after.PhaseContent drawnBy id request phase := by
  have hrow : ∀ row : Recap, w.db.ContentKept row ∧ w.recapLocks row.id = some id →
      after.db.ContentKept row ∧ after.recapLocks row.id = some id := by
    rintro row ⟨hkept, hlocked⟩
    exact ⟨(h.agrees row.id hlocked).contentKept hkept, h.locks row.id hlocked⟩
  cases phase with
  | published row => exact hrow row hphase
  | ranking row waiting kept => exact hrow row hphase
  | evicting row victims writes => exact hrow row hphase
  | flushed writes => exact ⟨h.stagedContent hphase.1, hphase.2⟩
  | sweeping images deletedImages =>
      exact ⟨hphase.1, fun image himage => h.dead image.id (hphase.2.1 image himage),
        fun imageId himage => h.dead imageId (hphase.2.2 imageId himage)⟩
  | _ => trivial

/-- A step before a commit leaves the rows. -/
theorem Moves.keepsContent {transaction : RecapTransaction} {phase : RecapPhase}
    (h : Moves w after id transaction phase) (htransaction : w.transactions id = some transaction)
    (hrunning : transaction.phase ≠ .succeeded) {other : Nat}
    (hlocks : ∀ recapId, w.recapLocks recapId = some other →
      after.recapLocks recapId = some other) : KeepsContent drawnBy w after other where
  locks := hlocks
  agrees recapId _ := by
    constructor
    · intro photo _
      rw [h.photos]
    · intro _ _ image _
      rw [h.images]
  dead imageId hdead := by
    constructor
    · obtain ⟨owner, howner, hsucceeded⟩ := hdead.succeeded
      have hother : drawnBy imageId ≠ id := by
        intro hsame
        rw [hsame, htransaction] at howner
        rw [Option.some.inj howner] at hrunning
        exact hrunning hsucceeded
      exact ⟨owner, (h.of_ne hother).trans howner, hsucceeded⟩
    · rw [h.images, h.photos]
      exact hdead.deleted

end Frames

section Advances

variable {drawnBy : Nat → Nat} {w after : RecapWorld} {id : Nat} {transaction : RecapTransaction}
  {phase : RecapPhase}

/-- A step of one transaction before its commit, with what its new phase holds. -/
def ContentAdvances (drawnBy : Nat → Nat) (w after : RecapWorld) (id : Nat)
    (transaction : RecapTransaction) : Prop :=
  ∃ phase, Moves w after id transaction phase ∧
    after.PhaseContent drawnBy id transaction.request phase

/-- A transaction in the middle of its work. -/
structure Running (w : RecapWorld) (id : Nat) (transaction : RecapTransaction) : Prop where
  registered : w.transactions id = some transaction
  unfinished : transaction.phase ≠ .succeeded

theorem Moves.contentAdvances (h : Moves w after id transaction phase)
    (hrunning : w.Running id transaction) (hunfinished : phase.finished = false)
    (hphase : w.PhaseContent drawnBy id transaction.request phase) :
    ContentAdvances drawnBy w after id transaction :=
  ⟨phase, h, (h.keepsContent hrunning.registered hrunning.unfinished
    (h.heldLocks hunfinished)).phaseContent hphase⟩

theorem setPhase_content (hrunning : w.Running id transaction)
    (hphase : w.PhaseContent drawnBy id transaction.request phase)
    (hunfinished : phase.finished = false) :
    ContentAdvances drawnBy w (w.setPhase id transaction phase) id transaction :=
  (setPhase_moves w id transaction phase).contentAdvances hrunning hunfinished hphase

theorem reject_content (w : RecapWorld) (id : Nat) (transaction : RecapTransaction) :
    ContentAdvances drawnBy w (w.finish id transaction .rejected) id transaction :=
  ⟨.rejected, finish_moves w id transaction rfl, trivial⟩

theorem load_content {recapId : Nat} (hstep : w.load id transaction recapId = some after) :
    ContentAdvances drawnBy w after id transaction := by
  simp only [load] at hstep
  split at hstep
  · rw [← Option.some.inj hstep]
    exact reject_content w id transaction
  · rename_i recap _
    split at hstep
    · rename_i hfree
      rw [← Option.some.inj hstep]
      exact ⟨.loaded recap, takeRow_moves hfree, trivial⟩
    · cases hstep

theorem stage_content (hrunning : w.Running id transaction)
    {outcome : Except RecapError RecapWrites}
    (hstaged : ∀ writes, outcome = .ok writes →
      w.StagedContent drawnBy id writes ∧ transaction.request.Retries writes) :
    ContentAdvances drawnBy w (w.stage id transaction outcome) id transaction := by
  cases outcome with
  | error error => exact reject_content w id transaction
  | ok writes =>
      have hphase : w.PhaseContent drawnBy id transaction.request (.flushed writes) :=
        hstaged writes rfl
      exact setPhase_content hrunning hphase rfl

theorem createContent_row {db : RecapDatabase} {actor newId : Nat} {content : RecapContent}
    {writes : RecapWrites} (h : createContent db actor newId content = .ok writes) :
    ∃ row : Recap, row.thumbnailId = none ∧ row.isPublished = false ∧
      writes = { created := some row } := by
  simp only [createContent, except_bind_eq_ok_iff] at h
  obtain ⟨-, -, hflush⟩ := h
  rw [flushRecap_eq_ok hflush]
  exact ⟨_, rfl, rfl, rfl⟩

theorem dead_of_deletedPhotoImages (hcontent : w.ContentFacts drawnBy) {recapId : Nat}
    {image : RecapImage} (himage : image ∈ w.deletedPhotoImages recapId) :
    w.Dead drawnBy image.id := by
  obtain ⟨hmem, howner⟩ := List.mem_filter.mp himage
  obtain ⟨photo, hphoto, hid⟩ := List.any_eq_true.mp howner
  obtain ⟨hphotos, hdeleted⟩ := List.mem_filter.mp hphoto
  rw [RecapDatabase.allPhotosFor, List.mem_insertionSort, List.mem_filter] at hphotos
  constructor
  · exact hcontent.stored image hmem
  · intro other hother hsame owner howner hof
    have himageSame : other = image := Table.eq_of_key hother hmem hsame
    rw [himageSame] at hof
    have hownerSame : owner = photo :=
      Table.eq_of_key howner hphotos.1 (hof.trans (of_decide_eq_true hid).symm)
    rw [hownerSame]
    exact hdeleted

theorem begin_content (hcontent : w.ContentFacts drawnBy) (hrunning : w.Running id transaction)
    (hstep : w.begin id transaction = some after) :
    ContentAdvances drawnBy w after id transaction := by
  simp only [begin] at hstep
  split at hstep
  case h_1 actor newId content hrequest =>
    rw [← Option.some.inj hstep]
    apply stage_content hrunning
    intro writes hwrites
    obtain ⟨row, hthumbnail, hdraft, hsame⟩ := createContent_row hwrites
    rw [hsame, hrequest]
    exact ⟨.created row hthumbnail hdraft, trivial⟩
  case h_2 =>
    split at hstep
    · rename_i hfree
      rw [← Option.some.inj hstep]
      exact ⟨.serialized, serialize_moves hfree, trivial⟩
    · cases hstep
  case h_8 =>
    rw [← Option.some.inj hstep]
    exact setPhase_content hrunning trivial rfl
  case h_9 recapId hrequest =>
    rw [← Option.some.inj hstep]
    have hphase : w.PhaseContent drawnBy id transaction.request
        (.sweeping (w.deletedPhotoImages recapId) []) :=
      ⟨⟨recapId, hrequest⟩, fun image himage => dead_of_deletedPhotoImages hcontent himage,
        by simp⟩
    exact setPhase_content hrunning hphase rfl
  all_goals exact load_content hstep

theorem uploadPhoto_retries {db : RecapDatabase} {actor : Nat} {payload : PhotoUpload}
    {recap : Recap} {writes : RecapWrites}
    (h : uploadPhoto db actor payload recap = .ok writes) : writes = {} ∨
      ∃ photo, writes.photo = some photo ∧ writes.photos = [] ∧ photo.recapId = recap.id ∧
        photo.uploadId = payload.uploadId := by
  simp only [uploadPhoto] at h
  split at h
  · simp only [except_bind_eq_ok_iff, except_pure_eq_ok_iff] at h
    obtain ⟨-, -, hnothing⟩ := h
    exact .inl hnothing.symm
  · simp only [except_bind_eq_ok_iff] at h
    obtain ⟨-, -, -, -, hflush⟩ := h
    rw [flushRecap_eq_ok hflush]
    exact .inr ⟨_, rfl, rfl, rfl, rfl⟩

section Changes

variable {recap : Recap}

/-- A transition to a published recap needs what `validate_publication` checks. -/
theorem statusRecap_publishable {db : RecapDatabase} {update : RecapStatusUpdate} {now : Int}
    {row : Recap} (h : statusRecap db update recap now = .ok row)
    (hpublished : update.status = .published) : db.Publishable recap := by
  simp only [statusRecap, except_bind_eq_ok_iff] at h
  obtain ⟨-, -, h⟩ := h
  rw [if_pos hpublished] at h
  obtain ⟨_, hvalid, _⟩ := except_bind_eq_ok_iff.mp h
  exact validatePublication_eq_ok hvalid

/-- A transition leaves the texts and the thumbnail. -/
theorem transition_contents (recap : Recap) (status : RecapStatus) (actor : Nat) (now : Int) :
    let row := recap.transition status actor now
    row.id = recap.id ∧ row.thumbnailId = recap.thumbnailId ∧
      row.toRecapContent = recap.toRecapContent := by
  simp only [Recap.transition]
  split
  · exact ⟨rfl, rfl, rfl⟩
  · exact ⟨rfl, rfl, rfl⟩

theorem statusRecap_kept {db : RecapDatabase} {update : RecapStatusUpdate} {now : Int}
    {row : Recap} (hkept : db.ContentKept recap)
    (h : statusRecap db update recap now = .ok row) : db.ContentKept row := by
  have hrow := statusRecap_eq_ok h
  obtain ⟨hid, hthumbnail, htexts⟩ :=
    transition_contents recap update.status update.actor now
  rw [← hrow] at hid hthumbnail htexts
  apply contentKept_of_row hkept hid hthumbnail
  intro hpublished
  have hbefore : db.Publishable recap := by
    by_cases hstatus : update.status = .published
    · exact statusRecap_publishable h hstatus
    · apply hkept.published
      rw [hrow] at hpublished
      simp only [Recap.transition] at hpublished
      split at hpublished
      · exact hpublished
      · simp [Recap.isPublished, hstatus] at hpublished
  constructor
  · rw [htexts]
    exact hbefore.titles
  · rw [htexts]
    exact hbefore.summaries
  · rw [hid]
    exact hbefore.photos
  · rw [hid]
    exact hbefore.alternatives

theorem changeStatus_content (hcontent : w.ContentFacts drawnBy)
    (hrunning : w.Running id transaction) (hloaded : w.Loaded id recap)
    {payload : RecapStatusUpdate} {jobId : String → Nat}
    (hrequest : transaction.request = .status payload jobId) :
    ContentAdvances drawnBy w (w.changeStatus id transaction payload recap) id transaction := by
  simp only [changeStatus]
  cases hstatus : statusRecap w.db payload recap w.now with
  | error error => exact reject_content w id transaction
  | ok row =>
      have hkept := statusRecap_kept (hcontent.kept recap hloaded.mem) hstatus
      have hid : row.id = recap.id := by
        rw [statusRecap_eq_ok hstatus]
        exact (transition_contents recap payload.status payload.actor w.now).1
      have hlocked : w.recapLocks row.id = some id := by
        rw [hid]
        exact hloaded.locked
      dsimp only
      by_cases hpublish : recap.status ≠ payload.status ∧ payload.status = .published
      · rw [if_pos hpublish]
        have hphase : w.PhaseContent drawnBy id transaction.request (.published row) :=
          ⟨hkept, hlocked⟩
        exact setPhase_content hrunning hphase rfl
      · rw [if_neg hpublish]
        have hphase : w.PhaseContent drawnBy id transaction.request
            (.flushed { updated := some row }) := by
          rw [hrequest]
          exact ⟨.service recap _ [] (stagesContent_of_row hid hkept) hloaded.locked (by simp),
            trivial⟩
        exact setPhase_content hrunning hphase rfl

theorem change_content (hcontent : w.ContentFacts drawnBy) (hrunning : w.Running id transaction)
    (hloaded : w.Loaded id recap) (htarget : transaction.request.target = some recap.id)
    (hstep : w.change id transaction recap = some after) :
    ContentAdvances drawnBy w after id transaction := by
  have hkept := hcontent.kept recap hloaded.mem
  have hdb := hcontent.constraints
  have hprepared := hcontent.prepared id transaction hrunning.registered
  have hservice : ∀ writes imageIds, writes.StagesContent w.db recap imageIds →
      (∀ imageId ∈ imageIds, drawnBy imageId = id) → w.StagedContent drawnBy id writes :=
    fun writes imageIds hstages hdrawn =>
      .service recap writes imageIds hstages hloaded.locked hdrawn
  simp only [change] at hstep
  split at hstep
  case h_1 payload jobId hrequest =>
    rw [← Option.some.inj hstep]
    exact changeStatus_content hcontent hrunning hloaded hrequest
  case h_2 hrequest =>
    rw [← Option.some.inj hstep]
    apply stage_content hrunning
    intro writes hwrites
    rw [hrequest]
    exact ⟨hservice writes [] (saveContent_stages hdb hkept hwrites) (by simp), trivial⟩
  case h_3 hrequest =>
    rw [← Option.some.inj hstep]
    apply stage_content hrunning
    intro writes hwrites
    rw [hrequest]
    exact ⟨hservice writes [] (savePhotos_stages hdb hkept hwrites) (by simp), trivial⟩
  case h_4 actor recapId payload hrequest =>
    rw [← Option.some.inj hstep]
    apply stage_content hrunning
    intro writes hwrites
    rw [hrequest] at hprepared htarget ⊢
    obtain ⟨hvariants, hdrawn⟩ := hprepared
    constructor
    · apply hservice writes _ (uploadPhoto_stages hdb hkept hvariants hwrites)
      intro imageId himage
      obtain ⟨derivative, hderivative, hsame⟩ := List.mem_map.mp himage
      rw [← hsame]
      exact hdrawn derivative hderivative
    · have hid : recapId = recap.id := Option.some.inj htarget
      have hretries := uploadPhoto_retries hwrites
      rw [← hid] at hretries
      exact hretries
  case h_5 hrequest =>
    rw [← Option.some.inj hstep]
    apply stage_content hrunning
    intro writes hwrites
    rw [hrequest]
    exact ⟨hservice writes [] (deletePhoto_stages hkept hwrites) (by simp), trivial⟩
  case h_6 hrequest =>
    rw [← Option.some.inj hstep]
    apply stage_content hrunning
    intro writes hwrites
    rw [hrequest]
    exact ⟨hservice writes [] (deleteRecap_stages hkept hwrites) (by simp), trivial⟩
  case h_7 => cases hstep

end Changes

theorem rankNext_content {row next : Recap} {waiting kept : List Recap}
    (hrunning : w.Running id transaction)
    (hphase : w.db.ContentKept row ∧ w.recapLocks row.id = some id)
    (hstep : w.rankNext id transaction row next waiting kept = some after) :
    ContentAdvances drawnBy w after id transaction := by
  simp only [rankNext] at hstep
  split at hstep
  · rename_i hfree
    rw [← Option.some.inj hstep]
    exact (takeRow_moves hfree).contentAdvances hrunning rfl hphase
  · cases hstep

theorem advance_content (hcontent : w.ContentFacts drawnBy) (hrunning : w.Running id transaction)
    (hretained : w.PhaseFacts id transaction.request transaction.phase)
    (hstep : w.advance id transaction = some after) :
    ContentAdvances drawnBy w after id transaction := by
  have hphase := hcontent.phases id transaction hrunning.registered
  simp only [advance] at hstep
  split at hstep <;> rename_i hat
  · exact begin_content hcontent hrunning hstep
  · obtain ⟨recapId, -, hload⟩ := Option.bind_eq_some_iff.mp hstep
    exact load_content hload
  · rw [hat] at hretained
    exact change_content hcontent hrunning hretained.1 hretained.2.1 hstep
  · rw [hat] at hphase
    rw [← Option.some.inj hstep]
    exact setPhase_content hrunning hphase rfl
  · rw [hat] at hphase
    exact rankNext_content hrunning hphase hstep
  · rw [hat] at hphase
    rw [← Option.some.inj hstep]
    exact setPhase_content hrunning hphase rfl
  · rw [hat] at hphase
    rw [← Option.some.inj hstep]
    exact setPhase_content hrunning hphase rfl
  · rename_i row writes
    rw [hat] at hphase hretained
    rw [← Option.some.inj hstep]
    obtain ⟨⟨payload, jobId, hrequest, -, -⟩, kept, hevicting⟩ := hretained
    have hstaged : w.PhaseContent drawnBy id transaction.request (.flushed writes) := by
      constructor
      · rw [hevicting.rows]
        exact .publication row writes.jobs writes.evicted hphase.1 hphase.2
          fun recapId hevicted => hevicting.locked hevicted
      · rw [hrequest]
        trivial
    exact setPhase_content hrunning hstaged rfl
  · rw [← Option.some.inj hstep]
    exact ⟨.succeeded, finish_moves w id transaction rfl, trivial⟩
  · rw [← Option.some.inj hstep]
    simp only [cleanNext]
    split
    · exact setPhase_content hrunning trivial rfl
    · exact setPhase_content hrunning trivial rfl
  · rename_i job jobs
    rw [hat] at hretained
    rw [← Option.some.inj hstep]
    have hmoves : Moves w _ id transaction (.cleaning jobs) :=
      forget_moves (hretained.1 job List.mem_cons_self) hretained.2
    exact ⟨_, hmoves, trivial⟩
  · rename_i deletedImages
    rw [← Option.some.inj hstep]
    have hstaged : w.PhaseContent drawnBy id transaction.request
        (.flushed { deletedImages := deletedImages }) := by
      rw [hat] at hphase
      obtain ⟨⟨recapId, hrequest⟩, -, hdead⟩ := hphase
      rw [hrequest]
      exact ⟨.swept deletedImages hdead, trivial⟩
    exact setPhase_content hrunning hstaged rfl
  · cases hstep

theorem answer_content {answer : StorageAnswer} (hcontent : w.ContentFacts drawnBy)
    (hrunning : w.Running id transaction)
    (hstep : w.answer id transaction answer = some after) :
    ContentAdvances drawnBy w after id transaction := by
  have hphase := hcontent.phases id transaction hrunning.registered
  simp only [RecapWorld.answer] at hstep
  split at hstep
  · rename_i job jobs _
    rw [← Option.some.inj hstep]
    split
    · exact setPhase_content hrunning trivial rfl
    · exact ⟨_, acknowledge_moves w id transaction (.deletedObject job jobs) job.objectKey,
        trivial⟩
  · rename_i image images deletedImages hat
    rw [hat] at hphase
    obtain ⟨hrequest, himages, hdeleted⟩ := hphase
    rw [List.forall_mem_cons] at himages
    rw [← Option.some.inj hstep]
    split
    · apply (acknowledge_moves w id transaction _ image.objectKey).contentAdvances hrunning rfl
      exact ⟨hrequest, himages.2, List.forall_mem_cons.mpr ⟨himages.1, hdeleted⟩⟩
    · exact setPhase_content hrunning ⟨hrequest, himages.2, hdeleted⟩ rfl
  · cases hstep

end Advances

section Applied

variable {db after : RecapDatabase} {writes : RecapWrites}

/-- Each recap after a flush is created, a new version, or an old row without a new version. -/
theorem mem_recaps_of_applyTo (h : writes.applyTo db = some after) {recap : Recap}
    (hrecap : recap ∈ after.recaps.rows) : recap.id ∉ writes.evicted ∧
      (recap ∈ writes.created ∨ recap ∈ writes.updated ∨
        (recap ∈ db.recaps.rows ∧ ∀ row ∈ writes.updated, recap.id ≠ row.id)) := by
  obtain ⟨recaps, hstored, hafter⟩ := (RecapWrites.applied_of_applyTo h).recaps
  rw [hafter, Table.mem_delete_iff, decide_eq_false_iff_not] at hrecap
  obtain ⟨hmem, hevicted⟩ := hrecap
  apply And.intro hevicted
  rcases (Table.mem_insertAll? hstored).mp hmem with hcreated | hput
  · exact .inl (Option.mem_toList.mp hcreated)
  · right
    cases hupdated : writes.updated with
    | none =>
        rw [hupdated] at hput
        exact .inr ⟨hput, by simp⟩
    | some row =>
        rw [hupdated] at hput
        rcases Table.mem_put_iff.mp hput with ⟨hsame, -⟩ | ⟨hold, hne⟩
        · exact .inl (congrArg some hsame.symm)
        · right
          apply And.intro hold
          intro other hother
          have hsame : row = other := Option.some.inj hother
          rw [← hsame]
          exact hne

theorem created_fresh (h : writes.applyTo db = some after) {row old : Recap}
    (hrow : row ∈ writes.created) (hold : old ∈ db.recaps.rows) : row.id ≠ old.id := by
  obtain ⟨recaps, hstored, -⟩ := (RecapWrites.applied_of_applyTo h).recaps
  obtain ⟨seen, hseen, hsame⟩ := Table.exists_key_of_putAll writes.updated.toList hold
  have hfresh := Table.insertAll?_key_ne hstored (Option.mem_toList.mpr hrow) hseen
  intro hid
  exact hfresh (hid.trans hsame.symm)

section Photoless

variable (h : writes.applyTo db = some after) (hphotos : writes.photos = [])
  (hphoto : writes.photo = none)

include h hphotos hphoto

theorem mem_photos_of_none {photo : RecapPhoto} : photo ∈ after.photos.rows ↔
    photo ∈ db.photos.rows ∧ photo.recapId ∉ writes.evicted := by
  obtain ⟨photos, hstored, hmem, -⟩ := applyTo_photos h
  have hsame : db.photos = photos := by
    rw [RecapWrites.storedPhotos, hphotos, hphoto] at hstored
    exact Option.some.inj hstored
  rw [hmem, hsame]

/-- Staged rows without photos leave a recap which they do not evict, when they delete no image
of its photos. -/
theorem agrees_of_photoless (himages : writes.images = []) {recapId : Nat}
    (hkept : recapId ∉ writes.evicted)
    (hdeleted : ∀ photo ∈ db.photosFor recapId, ∀ image ∈ db.images.rows,
      image.photoId = photo.id → image.id ∉ writes.deletedImages) :
    RecapAgrees recapId db after where
  photos photo howner := by
    rw [mem_photos_of_none h hphotos hphoto, howner, and_iff_left hkept]
  images photo hof image hid := by
    obtain ⟨photos, hstored, -, hmem⟩ := applyTo_photos h
    have hsame : db.photos = photos := by
      rw [RecapWrites.storedPhotos, hphotos, hphoto] at hstored
      exact Option.some.inj hstored
    rw [hmem, himages, or_iff_right List.not_mem_nil]
    constructor
    · intro himage
      refine ⟨himage, hdeleted photo hof image himage hid, ?_⟩
      intro owner howner hownerId
      rw [← hsame] at howner
      obtain ⟨hphotoMem, hphotoOwner, -⟩ := mem_photosFor_iff.mp hof
      have hownerSame : owner = photo :=
        Table.eq_of_key howner hphotoMem (hownerId.trans hid)
      rw [hownerSame, hphotoOwner]
      exact hkept
    · intro himage
      exact himage.1

end Photoless

end Applied

section Commits

variable {drawnBy : Nat → Nat} {w : RecapWorld} {id : Nat} {writes : RecapWrites}
  {db : RecapDatabase}

/-- What a commit makes of the rows. -/
structure CommitsContent (drawnBy : Nat → Nat) (w : RecapWorld) (id : Nat)
    (db : RecapDatabase) : Prop where
  agrees : ∀ recapId, w.recapLocks recapId ≠ some id → RecapAgrees recapId w.db db
  kept : ∀ recap ∈ db.recaps.rows, db.ContentKept recap
  images : ∀ image ∈ db.images.rows, image ∈ w.db.images.rows ∨ drawnBy image.id = id
  deleted : ∀ old ∈ w.db.photos.rows, old.deletedAt.isSome = true →
    ∀ photo ∈ db.photos.rows, photo.id = old.id → photo.deletedAt.isSome = true

/-- A new recap has no photos yet. -/
theorem contentKept_of_created (hdb : w.db.KeepsConstraints)
    (happlied : writes.applyTo w.db = some db) {row : Recap} (hrow : row ∈ writes.created)
    (hthumbnail : row.thumbnailId = none) (hdraft : row.isPublished = false) :
    w.db.ContentKept row := by
  have hnone : w.db.photosFor row.id = [] := by
    apply List.eq_nil_iff_forall_not_mem.mpr
    intro photo hphoto
    obtain ⟨hmem, howner, -⟩ := mem_photosFor_iff.mp hphoto
    obtain ⟨recap, hrecap, hid⟩ := hdb.photoOwners photo hmem
    exact created_fresh happlied hrow hrecap (howner.symm.trans hid.symm)
  constructor
  · rw [hnone]
    rfl
  · rw [hnone]
    exact Nat.zero_le _
  · rw [hthumbnail]
    simp
  · rw [hnone]
    simp
  · rw [hdraft]
    simp

theorem deleted_of_photoless (happlied : writes.applyTo w.db = some db)
    (hphotos : writes.photos = []) (hphoto : writes.photo = none) :
    ∀ old ∈ w.db.photos.rows, old.deletedAt.isSome = true →
      ∀ photo ∈ db.photos.rows, photo.id = old.id → photo.deletedAt.isSome = true := by
  intro old hold hdeleted photo hmem hid
  have hphotoOld := ((mem_photos_of_none happlied hphotos hphoto).mp hmem).1
  have hsame : photo = old := Table.eq_of_key hphotoOld hold hid
  rw [hsame]
  exact hdeleted

theorem images_of_applyTo (happlied : writes.applyTo w.db = some db)
    (hdrawn : ∀ image ∈ writes.images, drawnBy image.id = id) :
    ∀ image ∈ db.images.rows, image ∈ w.db.images.rows ∨ drawnBy image.id = id := by
  intro image himage
  obtain ⟨photos, -, -, hmem⟩ := applyTo_photos happlied
  rcases ((hmem image).mp himage).1 with hnew | hold
  · exact .inr (hdrawn image hnew)
  · exact .inl hold

theorem created_content (hcontent : w.ContentFacts drawnBy) {row : Recap}
    (hthumbnail : row.thumbnailId = none) (hdraft : row.isPublished = false)
    (happlied : RecapWrites.applyTo { created := some row } w.db = some db) :
    CommitsContent drawnBy w id db := by
  have hagrees : ∀ recapId, RecapAgrees recapId w.db db := fun recapId =>
    agrees_of_photoless happlied rfl rfl rfl (by simp) (by simp)
  constructor
  · intro recapId _
    exact hagrees recapId
  · intro recap hrecap
    apply (hagrees recap.id).contentKept
    rcases (mem_recaps_of_applyTo happlied hrecap).2 with hcreated | hupdated | ⟨hold, -⟩
    · have hsame : row = recap := Option.some.inj hcreated
      rw [← hsame]
      exact contentKept_of_created hcontent.constraints happlied rfl hthumbnail hdraft
    · cases hupdated
    · exact hcontent.kept recap hold
  · exact images_of_applyTo happlied (by simp)
  · exact deleted_of_photoless happlied rfl rfl

theorem service_content (hcontent : w.ContentFacts drawnBy) {recap : Recap}
    {imageIds : List Nat} (hstages : writes.StagesContent w.db recap imageIds)
    (hlocked : w.recapLocks recap.id = some id)
    (hdrawn : ∀ imageId ∈ imageIds, drawnBy imageId = id)
    (happlied : writes.applyTo w.db = some db) : CommitsContent drawnBy w id db := by
  have hchanges := hstages.changes
  constructor
  · intro recapId hfree
    apply hchanges.agrees_other happlied
    rintro rfl
    exact hfree hlocked
  · intro row hrow
    rcases (mem_recaps_of_applyTo happlied hrow).2 with hcreated | hupdated | ⟨hold, hothers⟩
    · rw [hstages.created] at hcreated
      cases hcreated
    · exact (hstages.updated row hupdated).2 w.db db (.refl row.id w.db) hcontent.constraints
        happlied
    · have hkept := hcontent.kept row hold
      by_cases hid : row.id = recap.id
      · cases hnone : writes.updated with
        | some updated =>
            have hupdatedId := (hstages.updated updated hnone).1
            exact absurd (hid.trans hupdatedId.symm) (hothers updated hnone)
        | none =>
            have hnothing := hstages.unchanged hnone
            subst hnothing
            have hagrees : RecapAgrees row.id w.db db :=
              agrees_of_photoless happlied rfl rfl rfl (by simp) (by simp)
            exact hagrees.contentKept hkept
      · exact (hchanges.agrees_other happlied hid).contentKept hkept
  · apply images_of_applyTo happlied
    intro image himage
    exact hdrawn image.id (hstages.drawn image himage)
  · intro old hold hdeleted photo hphoto hid
    rcases (hchanges.mem_photos happlied).mp hphoto with hnew | hversion | ⟨hmem, -⟩
    · exact absurd hid (new_photo_fresh happlied hnew hold)
    · obtain ⟨-, active, hactive, hactiveId⟩ := hchanges.versions photo hversion
      obtain ⟨hactiveMem, -, hactiveNone⟩ := mem_photosFor_iff.mp hactive
      have hsame : active = old := Table.eq_of_key hactiveMem hold (hactiveId.trans hid)
      rw [← hsame, hactiveNone] at hdeleted
      cases hdeleted
    · have hsame : photo = old := Table.eq_of_key hmem hold hid
      rw [hsame]
      exact hdeleted

theorem publication_content (hcontent : w.ContentFacts drawnBy) {row : Recap}
    {jobs : List RecapMediaCleanup} {evicted : List Nat} (hkept : w.db.ContentKept row)
    (hevicted : ∀ recapId ∈ evicted, w.recapLocks recapId = some id)
    (happlied : RecapWrites.applyTo
      { updated := some row, jobs := jobs, evicted := evicted } w.db = some db) :
    CommitsContent drawnBy w id db := by
  have hagrees : ∀ recapId ∉ evicted, RecapAgrees recapId w.db db := fun recapId hmem =>
    agrees_of_photoless happlied rfl rfl rfl hmem (by simp)
  constructor
  · intro recapId hfree
    exact hagrees recapId fun hmem => hfree (hevicted recapId hmem)
  · intro recap hrecap
    obtain ⟨hnotEvicted, hcases⟩ := mem_recaps_of_applyTo happlied hrecap
    apply (hagrees recap.id hnotEvicted).contentKept
    rcases hcases with hcreated | hupdated | ⟨hold, -⟩
    · cases hcreated
    · have hsame : row = recap := Option.some.inj hupdated
      rw [← hsame]
      exact hkept
    · exact hcontent.kept recap hold
  · exact images_of_applyTo happlied (by simp)
  · exact deleted_of_photoless happlied rfl rfl

theorem swept_content (hcontent : w.ContentFacts drawnBy) {deletedImages : List Nat}
    (hdead : ∀ imageId ∈ deletedImages, w.Dead drawnBy imageId)
    (happlied : RecapWrites.applyTo { deletedImages := deletedImages } w.db = some db) :
    CommitsContent drawnBy w id db := by
  have hagrees : ∀ recapId, RecapAgrees recapId w.db db := by
    intro recapId
    apply agrees_of_photoless happlied rfl rfl rfl (by simp)
    intro photo hphoto image himage hof hmem
    obtain ⟨hphotoMem, -, hactive⟩ := mem_photosFor_iff.mp hphoto
    have hdeleted := (hdead image.id hmem).deleted image himage rfl photo hphotoMem hof.symm
    rw [hactive] at hdeleted
    cases hdeleted
  constructor
  · intro recapId _
    exact hagrees recapId
  · intro recap hrecap
    apply (hagrees recap.id).contentKept
    rcases (mem_recaps_of_applyTo happlied hrecap).2 with hcreated | hupdated | ⟨hold, -⟩
    · cases hcreated
    · cases hupdated
    · exact hcontent.kept recap hold
  · exact images_of_applyTo happlied (by simp)
  · exact deleted_of_photoless happlied rfl rfl

theorem StagedContent.commits (hcontent : w.ContentFacts drawnBy)
    (hstaged : w.StagedContent drawnBy id writes) (happlied : writes.applyTo w.db = some db) :
    CommitsContent drawnBy w id db := by
  cases hstaged with
  | created row hthumbnail hdraft => exact created_content hcontent hthumbnail hdraft happlied
  | service recap writes imageIds hstages hlocked hdrawn =>
      exact service_content hcontent hstages hlocked hdrawn happlied
  | publication row jobs evicted hkept hlocked hevicted =>
      exact publication_content hcontent hkept hevicted happlied
  | swept deletedImages hdead => exact swept_content hcontent hdead happlied

theorem CommitsContent.dead (h : CommitsContent drawnBy w id db)
    (hdb : w.db.KeepsConstraints) {transaction : RecapTransaction}
    (hrunning : w.Running id transaction) {imageId : Nat} (hdead : w.Dead drawnBy imageId) :
    (w.committed id transaction writes db).Dead drawnBy imageId := by
  obtain ⟨owner, howner, hsucceeded⟩ := hdead.succeeded
  have hother : drawnBy imageId ≠ id := by
    intro hsame
    rw [hsame, hrunning.registered] at howner
    apply hrunning.unfinished
    rw [Option.some.inj howner]
    exact hsucceeded
  constructor
  · exact ⟨owner, (Function.update_of_ne hother ..).trans howner, hsucceeded⟩
  · intro image himage himageId photo hphoto hof
    rcases h.images image himage with hold | hdrawn
    · obtain ⟨old, holdMem, holdId⟩ := hdb.imageOwners image hold
      have hdeleted := hdead.deleted image hold himageId old holdMem holdId
      exact h.deleted old holdMem hdeleted photo hphoto (hof.trans holdId.symm)
    · rw [himageId] at hdrawn
      exact absurd hdrawn hother

theorem CommitsContent.keepsContent (h : CommitsContent drawnBy w id db)
    (hdb : w.db.KeepsConstraints) {transaction : RecapTransaction}
    (hrunning : w.Running id transaction) {other : Nat} (hother : other ≠ id) :
    KeepsContent drawnBy w (w.committed id transaction writes db) other where
  locks _ hlock := release_other hother hlock
  agrees recapId hlock := by
    apply h.agrees recapId
    rw [hlock]
    intro hsame
    exact hother (Option.some.inj hsame)
  dead _ hdead := h.dead hdb hrunning hdead

theorem ContentFacts.of_commit (hcontent : w.ContentFacts drawnBy)
    {transaction : RecapTransaction} (hrunning : w.Running id transaction)
    (hcommits : CommitsContent drawnBy w id db) (hconstraints : db.KeepsConstraints) :
    (w.committed id transaction writes db).ContentFacts drawnBy := by
  have hself : (w.committed id transaction writes db).transactions id =
      some { transaction with phase := .succeeded } := Function.update_self ..
  have hothers : ∀ other, other ≠ id →
      (w.committed id transaction writes db).transactions other = w.transactions other :=
    fun other hother => Function.update_of_ne hother ..
  constructor
  · exact hconstraints
  · exact hcommits.kept
  · intro image himage
    by_cases hown : drawnBy image.id = id
    · rw [hown]
      exact ⟨_, hself, rfl⟩
    · have hold := (hcommits.images image himage).resolve_right hown
      obtain ⟨owner, howner, hsucceeded⟩ := hcontent.stored image hold
      exact ⟨owner, (hothers _ hown).trans howner, hsucceeded⟩
  · intro other state hstate
    by_cases hother : other = id
    · rw [hother, hself] at hstate
      rw [hother, ← Option.some.inj hstate]
      exact hcontent.prepared id transaction hrunning.registered
    · rw [hothers other hother] at hstate
      exact hcontent.prepared other state hstate
  · intro other state hstate
    by_cases hother : other = id
    · rw [hother, hself] at hstate
      rw [hother, ← Option.some.inj hstate]
      trivial
    · rw [hothers other hother] at hstate
      exact (hcommits.keepsContent hcontent.constraints hrunning hother).phaseContent
        (hcontent.phases other state hstate)

end Commits

section Steps

variable {drawnBy : Nat → Nat} {w after : RecapWorld} {id : Nat}
  {transaction : RecapTransaction} {label : RecapLabel}

theorem ContentFacts.of_advances (hcontent : w.ContentFacts drawnBy)
    (hrunning : w.Running id transaction)
    (hstep : ContentAdvances drawnBy w after id transaction) : after.ContentFacts drawnBy := by
  obtain ⟨phase, hmoves, hphase⟩ := hstep
  have hkeeps : ∀ other, other ≠ id → KeepsContent drawnBy w after other := fun other hother =>
    hmoves.keepsContent hrunning.registered hrunning.unfinished (hmoves.locks other hother)
  have hagrees : ∀ recapId, RecapAgrees recapId w.db after.db := by
    intro recapId
    constructor
    · intro photo _
      rw [hmoves.photos]
    · intro _ _ image _
      rw [hmoves.images]
  constructor
  · have hbefore := hcontent.constraints
    constructor
    · rw [hmoves.images]
      exact hbefore.imageKeys
    · apply List.Nodup.map_on _ (List.Nodup.of_map _ after.db.cleanups.nodup)
      intro first hfirst second hsecond hkey
      exact List.inj_on_of_nodup_map hbefore.cleanupKeys (hmoves.cleanups first hfirst)
        (hmoves.cleanups second hsecond) hkey
    · rw [hmoves.images]
      exact hbefore.variants
    · rw [hmoves.photos]
      exact hbefore.uploads
    · rw [hmoves.photos, hmoves.recaps]
      exact hbefore.photoOwners
    · rw [hmoves.images, hmoves.photos]
      exact hbefore.imageOwners
    · rw [hmoves.recaps, hmoves.photos]
      exact hbefore.thumbnails
  · intro recap hrecap
    rw [hmoves.recaps] at hrecap
    exact (hagrees recap.id).contentKept (hcontent.kept recap hrecap)
  · intro image himage
    rw [hmoves.images] at himage
    obtain ⟨owner, howner, hsucceeded⟩ := hcontent.stored image himage
    have hother : drawnBy image.id ≠ id := by
      intro hsame
      rw [hsame, hrunning.registered] at howner
      apply hrunning.unfinished
      rw [Option.some.inj howner]
      exact hsucceeded
    exact ⟨owner, (hmoves.of_ne hother).trans howner, hsucceeded⟩
  · intro other state hstate
    by_cases hother : other = id
    · rw [hother, hmoves.self] at hstate
      rw [hother, ← Option.some.inj hstate]
      exact hcontent.prepared id transaction hrunning.registered
    · rw [hmoves.of_ne hother] at hstate
      exact hcontent.prepared other state hstate
  · intro other state hstate
    by_cases hother : other = id
    · rw [hother, hmoves.self] at hstate
      rw [hother, ← Option.some.inj hstate]
      exact hphase
    · rw [hmoves.of_ne hother] at hstate
      exact (hkeeps other hother).phaseContent (hcontent.phases other state hstate)

/-- The start of a request, the clock and the events are no matter to the contents. -/
theorem ContentFacts.of_outside (hcontent : w.ContentFacts drawnBy) (now : Int)
    (events : Table Event) (eventMediaKeys : List String)
    (transactions : Nat → Option RecapTransaction)
    (hkept : ∀ id transaction, w.transactions id = some transaction →
      transactions id = some transaction)
    (hnew : ∀ id transaction, transactions id = some transaction →
      w.transactions id = some transaction ∨
        (transaction.phase = .started ∧ transaction.request.Prepared drawnBy id)) :
    ContentFacts drawnBy { w with
      db := { w.db with events := events, eventMediaKeys := eventMediaKeys }
      now := now
      transactions := transactions } := by
  have hsucceeded : ∀ id, w.Succeeded id → Succeeded { w with
      db := { w.db with events := events, eventMediaKeys := eventMediaKeys }
      now := now
      transactions := transactions } id := by
    rintro id ⟨owner, howner, hphase⟩
    exact ⟨owner, hkept id owner howner, hphase⟩
  have hagrees : ∀ recapId, RecapAgrees recapId w.db
      { w.db with events := events, eventMediaKeys := eventMediaKeys } := fun recapId =>
    ⟨fun _ _ => Iff.rfl, fun _ _ _ _ => Iff.rfl⟩
  constructor
  · have hbefore := hcontent.constraints
    exact ⟨hbefore.imageKeys, hbefore.cleanupKeys, hbefore.variants, hbefore.uploads,
      hbefore.photoOwners, hbefore.imageOwners, hbefore.thumbnails⟩
  · intro recap hrecap
    exact (hagrees recap.id).contentKept (hcontent.kept recap hrecap)
  · intro image himage
    exact hsucceeded _ (hcontent.stored image himage)
  · intro id transaction htransaction
    rcases hnew id transaction htransaction with hold | ⟨-, hprepared⟩
    · exact hcontent.prepared id transaction hold
    · exact hprepared
  · intro id transaction htransaction
    rcases hnew id transaction htransaction with hold | ⟨hstarted, -⟩
    · have hkeeps : KeepsContent drawnBy w { w with
          db := { w.db with events := events, eventMediaKeys := eventMediaKeys }
          now := now
          transactions := transactions } id :=
        ⟨fun _ hlock => hlock, fun recapId _ => hagrees recapId,
          fun imageId hdead => ⟨hsucceeded _ hdead.succeeded, hdead.deleted⟩⟩
      exact hkeeps.phaseContent (hcontent.phases id transaction hold)
    · rw [hstarted]
      trivial

theorem advance_running (hstep : w.advance id transaction = some after) :
    transaction.phase ≠ .succeeded := by
  intro hphase
  simp [advance, hphase] at hstep

theorem answer_running {answer : StorageAnswer}
    (hstep : w.answer id transaction answer = some after) :
    transaction.phase ≠ .succeeded := by
  intro hphase
  simp [RecapWorld.answer, hphase] at hstep

/-- What one step keeps. -/
theorem ContentFacts.step (hcontent : w.ContentFacts drawnBy) (hretained : w.RetentionFacts)
    (hallowed : UploadsPrepared drawnBy w label) (hstep : w.Step label after) :
    after.ContentFacts drawnBy := by
  simp only [Step] at hstep
  cases label with
  | start id request =>
      simp only [next] at hstep
      split at hstep
      · rename_i hfree
        rw [← Option.some.inj hstep]
        apply hcontent.of_outside w.now w.db.events w.db.eventMediaKeys
        · intro other transaction htransaction
          have hother : other ≠ id := by
            rintro rfl
            rw [htransaction] at hfree
            cases hfree
          rw [Function.update_of_ne hother]
          exact htransaction
        · intro other transaction htransaction
          by_cases hother : other = id
          · rw [hother, Function.update_self] at htransaction
            right
            rw [← Option.some.inj htransaction, hother]
            exact ⟨rfl, hallowed⟩
          · rw [Function.update_of_ne hother] at htransaction
            exact .inl htransaction
      · cases hstep
  | advance id =>
      obtain ⟨transaction, htransaction, hadvance⟩ := Option.bind_eq_some_iff.mp hstep
      have hrunning : w.Running id transaction := ⟨htransaction, advance_running hadvance⟩
      exact hcontent.of_advances hrunning (advance_content hcontent hrunning
        (hretained.phases id transaction htransaction) hadvance)
  | storage id answer =>
      obtain ⟨transaction, htransaction, hanswer⟩ := Option.bind_eq_some_iff.mp hstep
      have hrunning : w.Running id transaction := ⟨htransaction, answer_running hanswer⟩
      exact hcontent.of_advances hrunning (answer_content hcontent hrunning hanswer)
  | commit id =>
      obtain ⟨transaction, htransaction, hcommit⟩ := Option.bind_eq_some_iff.mp hstep
      obtain ⟨writes, db, hphase, -, hdb, hafter⟩ := commit_cases hcommit
      have hrunning : w.Running id transaction := by
        apply Running.mk htransaction
        rw [hphase]
        intro hsame
        cases hsame
      have hstaged := hcontent.phases id transaction htransaction
      rw [hphase] at hstaged
      rw [hafter]
      exact hcontent.of_commit hrunning (hstaged.1.commits hcontent hdb) (applyTo_constraints hdb)
  | rollback id =>
      obtain ⟨transaction, htransaction, hrollback⟩ := Option.bind_eq_some_iff.mp hstep
      split at hrollback
      · cases hrollback
      · rename_i hunfinished
        rw [← Option.some.inj hrollback]
        have hrunning : w.Running id transaction := by
          apply Running.mk htransaction
          intro hphase
          rw [hphase] at hunfinished
          exact hunfinished rfl
        exact hcontent.of_advances hrunning (reject_content w id transaction)
  | tick instant =>
      rw [← Option.some.inj hstep]
      exact hcontent.of_outside instant w.db.events w.db.eventMediaKeys w.transactions
        (fun _ _ h => h) fun _ _ h => .inl h
  | events events eventMediaKeys =>
      rw [← Option.some.inj hstep]
      exact hcontent.of_outside w.now events eventMediaKeys w.transactions
        (fun _ _ h => h) fun _ _ h => .inl h

theorem Initial.contentFacts (h : w.Initial) : w.ContentFacts drawnBy := by
  constructor
  · constructor
    · rw [h.images]
      exact List.nodup_nil
    · rw [h.cleanups]
      exact List.nodup_nil
    · rw [h.images]
      exact List.nodup_nil
    · rw [h.photos]
      exact List.nodup_nil
    · rw [h.photos]
      simp
    · rw [h.images]
      simp
    · rw [h.recaps]
      simp
  · rw [h.recaps]
    simp
  · rw [h.images]
    simp
  · intro id transaction htransaction
    rw [h.transactions id] at htransaction
    cases htransaction
  · intro id transaction htransaction
    rw [h.transactions id] at htransaction
    cases htransaction

theorem contentFacts_of_reaches
    (hreached : Reaches Initial Step (UploadsPrepared drawnBy) w) :
    w.RetentionFacts ∧ w.ContentFacts drawnBy := by
  apply Reaches.invariant _ _ hreached
  · intro start hinit
    exact ⟨hinit.atRest.retentionFacts, hinit.contentFacts⟩
  · rintro before label next ⟨hretained, hcontent⟩ hallowed hstep
    exact ⟨(hretained.step hstep).1, hcontent.step hretained hallowed hstep⟩

/-- The commit of an upload whose identifier a photo of the recap already has. -/
theorem ContentFacts.retried (hcontent : w.ContentFacts drawnBy) {actor recapId : Nat}
    {upload : PhotoUpload} {phase : RecapPhase}
    (htransaction : w.transactions id = some ⟨.upload actor recapId upload, phase⟩)
    (hstep : w.Step (.commit id) after) {old : RecapPhoto} (hold : old ∈ w.db.photos.rows)
    (howner : old.recapId = recapId) (hupload : old.uploadId = upload.uploadId)
    (photo : RecapPhoto) : photo ∈ after.db.photos.rows ↔ photo ∈ w.db.photos.rows := by
  obtain ⟨transaction, hsome, hcommit⟩ := Option.bind_eq_some_iff.mp hstep
  obtain ⟨writes, db, hphase, -, hdb, hafter⟩ := commit_cases hcommit
  have hsame := Option.some.inj (htransaction.symm.trans hsome)
  have hstaged := hcontent.phases id transaction hsome
  rw [hphase, ← hsame] at hstaged
  obtain ⟨hstaged, hretries⟩ := hstaged
  rw [hafter]
  change photo ∈ db.photos.rows ↔ _
  rcases hretries with hnothing | ⟨added, hadded, hphotos, haddedOwner, haddedUpload⟩
  · rw [hnothing] at hdb
    rw [mem_photos_of_none hdb rfl rfl]
    exact and_iff_left List.not_mem_nil
  · -- the constraint of the upload identifiers refuses a second photo
    exfalso
    cases hstaged with
    | service recap writes imageIds hstages hlocked hdrawn =>
        have haddedMem : added ∈ db.photos.rows :=
          (hstages.changes.mem_photos hdb).mpr (.inl hadded)
        have holdMem : old ∈ db.photos.rows := by
          apply (hstages.changes.mem_photos hdb).mpr
          rw [hphotos]
          exact .inr (.inr ⟨hold, by simp⟩)
        have hkeys : (old.recapId, old.uploadId) = (added.recapId, added.uploadId) := by
          rw [howner, hupload, haddedOwner, haddedUpload]
        have heq := List.inj_on_of_nodup_map (applyTo_constraints hdb).uploads holdMem haddedMem
          hkeys
        exact new_photo_fresh hdb hadded hold (congrArg RecapPhoto.id heq.symm)
    | created row hthumbnail hdraft => cases hadded
    | publication row jobs evicted hkept hlocked hevicted => cases hadded
    | swept deletedImages hdead => cases hadded

/-- Whatever the order of requests and failures, the photos of a recap are numbered one by one,
at most twelve, each with its two images, the thumbnail is one of them, a published recap has
its texts and photos, and a repeated upload adds no photo. -/
theorem recap_content_kept (hreached : Reaches Initial Step (UploadsPrepared drawnBy) w) :
    (∀ recap ∈ w.db.recaps.rows, w.db.ContentKept recap) ∧
      (w.db.photos.rows.map fun photo => (photo.recapId, photo.uploadId)).Nodup ∧
      ∀ id actor recapId upload phase after,
        w.transactions id = some ⟨.upload actor recapId upload, phase⟩ →
        w.Step (.commit id) after → (∃ photo ∈ w.db.photos.rows, photo.recapId = recapId ∧
          photo.uploadId = upload.uploadId) →
        ∀ photo, photo ∈ after.db.photos.rows ↔ photo ∈ w.db.photos.rows := by
  have hcontent := (contentFacts_of_reaches hreached).2
  refine ⟨hcontent.kept, hcontent.constraints.uploads, ?_⟩
  rintro id actor recapId upload phase after htransaction hstep ⟨old, hold, howner, hupload⟩
  exact hcontent.retried htransaction hstep hold howner hupload

end Steps

end RecapWorld

namespace ContentWitness

open RecapWorld RetentionWitness

/-- The first derivative of a request has ten times the number of the request. -/
def drawnBy (imageId : Nat) : Nat :=
  imageId / 10

/-- An upload under the one identifier which the client repeats. -/
def repeated (id : Nat) : PhotoUpload where
  photoId := id
  uploadId := 5
  version := 1
  fingerprint := "fingerprint"
  altEn := "People"
  altDe := "Menschen"
  derivatives := [⟨10 * id, objectKey (10 * id), .display⟩,
    ⟨10 * id + 1, objectKey (10 * id + 1), .thumbnail⟩]

/-- A recap gets a photo, is published, and the upload is repeated up to its commit. -/
def repetition : List RecapLabel :=
  [.start 0 (.create 1 7 content), .advance 0, .commit 0, .start 1 (.upload 1 7 (repeated 1)),
    .advance 1, .advance 1, .commit 1, .start 2 (.status ⟨1, 7, 2, .published⟩ String.length)] ++
  List.replicate 7 (.advance 2) ++
  [.commit 2, .start 3 (.upload 1 7 (repeated 3)), .advance 3, .advance 3]

/-- The repeated upload of a published recap changes nothing. -/
theorem recap_content_kept_repetition :
    ∃ w after : RecapWorld, (publishedRecaps w.db.recaps).length = 1 ∧
      w.db.photos.rows.length = 1 ∧ w.Step (.commit 3) after ∧
      (∀ recap ∈ w.db.recaps.rows, w.db.ContentKept recap) ∧
      ∀ photo, photo ∈ after.db.photos.rows ↔ photo ∈ w.db.photos.rows := by
  have hrun : (Reaches.run RecapWorld.next (UploadsPrepared drawnBy) quiet repetition).any
      (fun w => ((publishedRecaps w.db.recaps).length = 1 ∧ w.db.photos.rows.length = 1 ∧
        ∃ photo ∈ w.db.photos.rows, photo.recapId = 7 ∧ photo.uploadId = 5) &&
          ((w.transactions 3).any fun transaction => match transaction.request with
            | .upload actor recapId payload => actor = 1 ∧ recapId = 7 ∧ payload = repeated 3
            | _ => false) && (w.next (.commit 3)).isSome) = true := by decide +kernel
  obtain ⟨w, hw, hproperty⟩ := (Option.any_eq_true _ _).mp hrun
  rw [Bool.and_eq_true, Bool.and_eq_true] at hproperty
  obtain ⟨⟨hrows, hrequest⟩, hcommit⟩ := hproperty
  obtain ⟨hpublished, hphotos, hold⟩ := of_decide_eq_true hrows
  obtain ⟨⟨request, phase⟩, htransaction, hupload⟩ := (Option.any_eq_true _ _).mp hrequest
  obtain ⟨after, hstep⟩ := Option.isSome_iff_exists.mp hcommit
  have hreached : Reaches Initial RecapWorld.Step (UploadsPrepared drawnBy) w :=
    Reaches.of_run (fun hnext => hnext) (.start quiet_initial) hw
  have hkept := recap_content_kept hreached
  cases request with
  | upload actor recapId payload =>
      obtain ⟨rfl, rfl, rfl⟩ := of_decide_eq_true hupload
      exact ⟨w, after, hpublished, hphotos, hstep, hkept.1,
        hkept.2.2 3 1 7 (repeated 3) phase after htransaction hstep hold⟩
  | _ => cases hupload

end ContentWitness

end BuddyWeb
