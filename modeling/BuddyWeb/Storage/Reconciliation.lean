/-
The reconciliation of stored images: each bucket is listed page by page, and what is
managed, unreferenced and old is removed.
-/
import Mathlib.Algebra.GroupWithZero.Nat
import Mathlib.Data.List.Basic
import Mathlib.Data.List.Nodup
import BuddyWeb.Profile.ImageReplacement

namespace BuddyWeb

section Keys

def isLowerHex (char : Char) : Bool :=
  ('0' ≤ char && char ≤ '9') || ('a' ≤ char && char ≤ 'f')

/-- The characters of a version 4 UUID, one test each. -/
def managedStem : List (Char → Bool) :=
  List.replicate 8 isLowerHex ++ (· == '-') :: List.replicate 4 isLowerHex ++
    (· == '-') :: (· == '4') :: List.replicate 3 isLowerHex ++
    (· == '-') :: (fun char => char == '8' || char == '9' || char == 'a' || char == 'b') ::
      List.replicate 3 isLowerHex ++
    (· == '-') :: List.replicate 12 isLowerHex

def matchesShape : List (Char → Bool) → List Char → Bool
  | [], [] => true
  | test :: tests, char :: chars => test char && matchesShape tests chars
  | _, _ => false

def imageExtensions : List String :=
  [".jpg", ".png", ".webp"]

/-- The key of an image which the server generated. -/
def isManagedObjectKey (objectKey : String) : Bool :=
  imageExtensions.any fun extension =>
    matchesShape (managedStem ++ extension.toList.map fun char => (· == char))
      objectKey.toList

end Keys

/-- A reference to a stored object; only managed keys make one. -/
structure ManagedObjectRef where
  bucket : ImageBucket
  objectKey : String
  managed : isManagedObjectKey objectKey = true
  deriving DecidableEq, Repr

structure ListedStorageObject where
  objectKey : String
  createdAt : Option Int
  deriving DecidableEq, Repr

/-- The objects of each bucket in the order of their names, which differ. -/
structure StorageListing where
  objects : ImageBucket → List ListedStorageObject
  names_nodup : ∀ bucket, ((objects bucket).map ListedStorageObject.objectKey).Nodup

def storagePageSize : Nat := 100

def StorageListing.listObjects (storage : StorageListing) (bucket : ImageBucket)
    (limit offset : Nat) : List ListedStorageObject :=
  ((storage.objects bucket).drop offset).take limit

structure ReconciliationReport where
  scanned : Nat := 0
  protectedObjects : Nat := 0
  tooNew : Nat := 0
  unmanaged : Nat := 0
  candidates : Nat := 0
  deleted : Nat := 0
  failed : Nat := 0
  deriving DecidableEq, Repr

/-- The counters, and as a history the deletions that were attempted. -/
structure Reconciliation where
  report : ReconciliationReport := {}
  attempts : List ManagedObjectRef := []
  deriving DecidableEq, Repr

/-- The reference of a listed object, if its key is managed. -/
def storageObjectRef (bucket : ImageBucket) (objectKey : String) : Option ManagedObjectRef :=
  if h : isManagedObjectKey objectKey = true then some ⟨bucket, objectKey, h⟩ else none

theorem page_lt {storage : StorageListing} {bucket : ImageBucket} {offset : Nat}
    (h : ¬ (storage.listObjects bucket storagePageSize offset).length < storagePageSize) :
    offset + storagePageSize ≤ (storage.objects bucket).length := by
  rw [StorageListing.listObjects, List.length_take, List.length_drop, storagePageSize] at h
  rw [storagePageSize]
  omega

/-- The pages of a bucket from an offset on, with the number of objects read. -/
def listPages (storage : StorageListing) (bucket : ImageBucket) (offset scanned : Nat)
    (listedObjects : List ListedStorageObject) : Nat × List ListedStorageObject :=
  if _hlast : (storage.listObjects bucket storagePageSize offset).length < storagePageSize then
    (scanned + (storage.listObjects bucket storagePageSize offset).length,
      listedObjects ++ storage.listObjects bucket storagePageSize offset)
  else
    listPages storage bucket
      (offset + (storage.listObjects bucket storagePageSize offset).length)
      (scanned + (storage.listObjects bucket storagePageSize offset).length)
      (listedObjects ++ storage.listObjects bucket storagePageSize offset)
  termination_by (storage.objects bucket).length - offset
  decreasing_by
    have hpage := page_lt _hlast
    have hsize : 0 < storagePageSize := by decide
    omega

section Loop

variable (referenced : List ManagedObjectRef) (olderThan : Int) (apply : Bool)
  (deleteImage : ManagedObjectRef → Bool)

/-- The body of the loop over the objects of a bucket.  A deletion succeeds or raises a
storage error. -/
def reconcileObject (bucket : ImageBucket) (state : Reconciliation)
    (item : ListedStorageObject) : Reconciliation :=
  match storageObjectRef bucket item.objectKey with
  | none => { state with report.unmanaged := state.report.unmanaged + 1 }
  | some reference =>
      if reference ∈ referenced then
        { state with report.protectedObjects := state.report.protectedObjects + 1 }
      else if item.createdAt.all fun createdAt => olderThan ≤ createdAt then
        { state with report.tooNew := state.report.tooNew + 1 }
      else
        let counted : Reconciliation :=
          { state with report.candidates := state.report.candidates + 1 }
        if apply then
          let attempted : Reconciliation :=
            { counted with attempts := counted.attempts ++ [reference] }
          if deleteImage reference then
            { attempted with report.deleted := attempted.report.deleted + 1 }
          else { attempted with report.failed := attempted.report.failed + 1 }
        else counted

def reconcileBucket (storage : StorageListing) (state : Reconciliation)
    (bucket : ImageBucket) : Reconciliation :=
  let pages := listPages storage bucket 0 state.report.scanned []
  pages.2.foldl (reconcileObject referenced olderThan apply deleteImage bucket)
    { state with report.scanned := pages.1 }

def imageBuckets : List ImageBucket :=
  [.profileImages, .eventMedia, .eventSliderImages]

/-- A cutoff without a time zone. -/
inductive StorageReconciliationError
  | naiveCutoff
  deriving DecidableEq, Repr

/-- The reconciliation; a cutoff is an instant, or it has no time zone. -/
def reconcileOrphanedImages (storage : StorageListing) (cutoff : Option Int) :
    Except StorageReconciliationError Reconciliation :=
  match cutoff with
  | none => .error .naiveCutoff
  | some olderThan =>
      .ok (imageBuckets.foldl (reconcileBucket referenced olderThan apply deleteImage storage) {})

/-- The reference of an object which may be deleted. -/
def candidate? (bucket : ImageBucket) (item : ListedStorageObject) : Option ManagedObjectRef :=
  match storageObjectRef bucket item.objectKey with
  | none => none
  | some reference =>
      if reference ∈ referenced then none
      else if item.createdAt.all fun createdAt => olderThan ≤ createdAt then none
      else some reference

/-- What a part of the loops adds: it reads `read` objects and classifies `count`, of which
the references `found` may be deleted. -/
structure Adds (state after : Reconciliation) (read count : Nat)
    (found : List ManagedObjectRef) : Prop where
  scanned : after.report.scanned = state.report.scanned + read
  candidates : after.report.candidates = state.report.candidates + found.length
  classified : after.report.protectedObjects + after.report.tooNew + after.report.unmanaged +
      after.report.candidates =
    state.report.protectedObjects + state.report.tooNew + state.report.unmanaged +
      state.report.candidates + count
  attempts : after.attempts = state.attempts ++ if apply then found else []
  settled : after.report.deleted + after.report.failed =
    state.report.deleted + state.report.failed + if apply then found.length else 0

variable {referenced olderThan apply deleteImage}

theorem Adds.refl (state : Reconciliation) : Adds apply state state 0 0 [] := by
  constructor <;> simp

theorem Adds.trans {first second third : Reconciliation} {read again count more : Nat}
    {found others : List ManagedObjectRef} (hfirst : Adds apply first second read count found)
    (hsecond : Adds apply second third again more others) :
    Adds apply first third (read + again) (count + more) (found ++ others) := by
  constructor
  · rw [hsecond.scanned, hfirst.scanned, Nat.add_assoc]
  · rw [hsecond.candidates, hfirst.candidates, List.length_append, Nat.add_assoc]
  · rw [hsecond.classified, hfirst.classified, Nat.add_assoc]
  · rw [hsecond.attempts, hfirst.attempts]
    cases apply
    · simp
    · simp
  · rw [hsecond.settled, hfirst.settled]
    cases apply
    · simp
    · simp
      omega

theorem storageObjectRef_eq_some {bucket : ImageBucket} {objectKey : String}
    {reference : ManagedObjectRef} :
    storageObjectRef bucket objectKey = some reference ↔
      reference.bucket = bucket ∧ reference.objectKey = objectKey := by
  unfold storageObjectRef
  constructor
  · intro h
    split at h
    · cases h
      exact ⟨rfl, rfl⟩
    · cases h
  · rintro ⟨rfl, rfl⟩
    exact dif_pos reference.managed

/-- One object of a bucket. -/
theorem adds_reconcileObject (deleteImage : ManagedObjectRef → Bool) (bucket : ImageBucket)
    (state : Reconciliation) (item : ListedStorageObject) :
    Adds apply state
      (reconcileObject referenced olderThan apply deleteImage bucket state item) 0 1
      (candidate? referenced olderThan bucket item).toList := by
  unfold reconcileObject candidate?
  cases storageObjectRef bucket item.objectKey with
  | none =>
    constructor <;> simp
    omega
  | some reference =>
    by_cases hreferenced : reference ∈ referenced
    · simp only [if_pos hreferenced]
      constructor <;> simp
      omega
    · by_cases hnew : (item.createdAt.all fun createdAt => olderThan ≤ createdAt) = true
      · simp only [if_neg hreferenced, if_pos hnew]
        constructor <;> simp
        omega
      · simp only [if_neg hreferenced, if_neg hnew]
        cases apply with
        | false =>
          constructor <;> simp
          omega
        | true =>
          by_cases hdeleted : deleteImage reference = true
          · simp only [↓reduceIte, if_pos hdeleted]
            constructor <;> simp
            · omega
            · omega
          · simp only [↓reduceIte, if_neg hdeleted]
            constructor <;> simp
            · omega
            · omega

theorem adds_foldl_reconcileObject (deleteImage : ManagedObjectRef → Bool)
    (bucket : ImageBucket) (state : Reconciliation) (items : List ListedStorageObject) :
    Adds apply state
      (items.foldl (reconcileObject referenced olderThan apply deleteImage bucket) state) 0
      items.length (items.filterMap (candidate? referenced olderThan bucket)) := by
  induction items generalizing state with
  | nil => exact Adds.refl state
  | cons item rest ih =>
    have hcons : (item :: rest).filterMap (candidate? referenced olderThan bucket) =
        (candidate? referenced olderThan bucket item).toList ++
          rest.filterMap (candidate? referenced olderThan bucket) := by
      rw [List.filterMap_cons]
      cases candidate? referenced olderThan bucket item with
      | none => rfl
      | some reference => rfl
    rw [hcons, List.length_cons, Nat.add_comm]
    exact (adds_reconcileObject deleteImage bucket state item).trans (ih _)

/-- The pages of a bucket hold every object from the offset on, once and in order. -/
theorem listPages_eq (storage : StorageListing) (bucket : ImageBucket) (offset scanned : Nat)
    (listedObjects : List ListedStorageObject) :
    listPages storage bucket offset scanned listedObjects =
      (scanned + ((storage.objects bucket).drop offset).length,
        listedObjects ++ (storage.objects bucket).drop offset) := by
  fun_induction listPages storage bucket offset scanned listedObjects with
  | case1 offset scanned listedObjects hlast =>
    have hall : storage.listObjects bucket storagePageSize offset =
        (storage.objects bucket).drop offset := by
      rw [StorageListing.listObjects, List.length_take] at hlast
      rw [StorageListing.listObjects]
      exact List.take_of_length_le (by omega)
    rw [hall]
  | case2 offset scanned listedObjects hmore ih =>
    have hsplit := List.take_append_drop storagePageSize ((storage.objects bucket).drop offset)
    have hpage := page_lt hmore
    have hlength : (storage.listObjects bucket storagePageSize offset).length =
        storagePageSize := by
      rw [StorageListing.listObjects, List.length_take, List.length_drop]
      omega
    rw [ih, hlength, List.append_assoc, StorageListing.listObjects]
    rw [List.drop_drop] at hsplit
    rw [hsplit, List.length_drop, List.length_drop]
    congr 1
    omega

theorem adds_reconcileBucket (deleteImage : ManagedObjectRef → Bool) (storage : StorageListing)
    (state : Reconciliation) (bucket : ImageBucket) :
    Adds apply state (reconcileBucket referenced olderThan apply deleteImage storage state bucket)
      (storage.objects bucket).length (storage.objects bucket).length
      ((storage.objects bucket).filterMap (candidate? referenced olderThan bucket)) := by
  unfold reconcileBucket
  rw [listPages_eq, List.drop_zero, List.nil_append]
  have hobjects := @adds_foldl_reconcileObject referenced olderThan apply deleteImage bucket
    { state with report.scanned := state.report.scanned + (storage.objects bucket).length }
    (storage.objects bucket)
  constructor
  · exact hobjects.scanned
  · exact hobjects.candidates
  · exact hobjects.classified
  · exact hobjects.attempts
  · exact hobjects.settled

theorem adds_foldl_reconcileBucket (deleteImage : ManagedObjectRef → Bool)
    (storage : StorageListing) (state : Reconciliation) (buckets : List ImageBucket) :
    Adds apply state
      (buckets.foldl (reconcileBucket referenced olderThan apply deleteImage storage) state)
      (buckets.map fun bucket => (storage.objects bucket).length).sum
      (buckets.map fun bucket => (storage.objects bucket).length).sum
      (buckets.flatMap fun bucket =>
        (storage.objects bucket).filterMap (candidate? referenced olderThan bucket)) := by
  induction buckets generalizing state with
  | nil => exact Adds.refl state
  | cons bucket rest ih =>
    rw [List.flatMap_cons, List.map_cons, List.sum_cons]
    exact (adds_reconcileBucket deleteImage storage state bucket).trans (ih _)

/-- What may be deleted: managed, not referenced and strictly older than the cutoff. -/
theorem candidate?_eq_some {bucket : ImageBucket} {item : ListedStorageObject}
    {reference : ManagedObjectRef} :
    candidate? referenced olderThan bucket item = some reference ↔
      reference.bucket = bucket ∧ reference.objectKey = item.objectKey ∧
        reference ∉ referenced ∧
        ∃ createdAt, item.createdAt = some createdAt ∧ createdAt < olderThan := by
  unfold candidate?
  constructor
  · intro h
    split at h
    · cases h
    · rename_i found hfound
      split at h
      · cases h
      · rename_i hunreferenced
        split at h
        · cases h
        · rename_i hold
          cases h
          obtain ⟨hbucket, hkey⟩ := storageObjectRef_eq_some.mp hfound
          refine ⟨hbucket, hkey, hunreferenced, ?_⟩
          cases hcreated : item.createdAt with
          | none =>
            rw [hcreated] at hold
            exact absurd rfl hold
          | some createdAt =>
            rw [hcreated] at hold
            exact ⟨createdAt, rfl, by simpa using hold⟩
  · rintro ⟨hbucket, hkey, hunreferenced, createdAt, hcreated, hless⟩
    rw [storageObjectRef_eq_some.mpr ⟨hbucket, hkey⟩]
    have hold : ¬ (item.createdAt.all fun createdAt => olderThan ≤ createdAt) = true := by
      rw [hcreated]
      simpa using hless
    simp only [if_neg hunreferenced, if_neg hold]

theorem candidates_sublist (bucket : ImageBucket) (items : List ListedStorageObject) :
    ((items.filterMap (candidate? referenced olderThan bucket)).map
      ManagedObjectRef.objectKey).Sublist (items.map ListedStorageObject.objectKey) := by
  induction items with
  | nil => exact List.Sublist.refl _
  | cons item rest ih =>
    rw [List.filterMap_cons, List.map_cons]
    split
    · exact ih.cons _
    · rename_i reference hreference
      rw [List.map_cons, (candidate?_eq_some.mp hreference).2.1]
      exact ih.cons_cons _

theorem mem_imageBuckets (bucket : ImageBucket) : bucket ∈ imageBuckets := by
  cases bucket <;> decide

/-- Every candidate of every bucket, each once. -/
theorem candidates_nodup (storage : StorageListing) :
    (imageBuckets.flatMap fun bucket =>
      (storage.objects bucket).filterMap (candidate? referenced olderThan bucket)).Nodup := by
  rw [List.nodup_flatMap]
  constructor
  · intro bucket _
    exact ((candidates_sublist bucket (storage.objects bucket)).nodup
      (storage.names_nodup bucket)).of_map
  · have hdistinct : imageBuckets.Nodup := by decide
    apply hdistinct.imp
    intro first second hne reference hfirst hsecond
    obtain ⟨item, -, hitem⟩ := List.mem_filterMap.mp hfirst
    obtain ⟨other, -, hother⟩ := List.mem_filterMap.mp hsecond
    apply hne
    rw [← (candidate?_eq_some.mp hitem).1, ← (candidate?_eq_some.mp hother).1]

/-- With `apply` the reconciliation attempts to delete exactly the managed objects that are
unreferenced and strictly older than the cutoff, each once; without it nothing; and every
object it scanned is counted in one place. -/
theorem reconcileOrphanedImages_exact (storage : StorageListing)
    (referenced : List ManagedObjectRef) (olderThan : Int) (apply : Bool)
    (deleteImage : ManagedObjectRef → Bool) :
    ∃ run, reconcileOrphanedImages referenced apply deleteImage storage (some olderThan) =
        .ok run ∧
      (∀ reference, reference ∈ run.attempts ↔ apply = true ∧ reference ∉ referenced ∧
        ∃ item ∈ storage.objects reference.bucket, item.objectKey = reference.objectKey ∧
          ∃ createdAt, item.createdAt = some createdAt ∧ createdAt < olderThan) ∧
      run.attempts.Nodup ∧
      run.report.scanned = (imageBuckets.map fun bucket => (storage.objects bucket).length).sum ∧
      run.report.scanned = run.report.protectedObjects + run.report.tooNew +
        run.report.unmanaged + run.report.candidates ∧
      run.report.deleted + run.report.failed = if apply then run.report.candidates else 0 := by
  have hadds := @adds_foldl_reconcileBucket referenced olderThan apply deleteImage storage {}
    imageBuckets
  have hscanned := hadds.scanned
  have hcandidates := hadds.candidates
  have hclassified := hadds.classified
  have hattempts := hadds.attempts
  have hsettled := hadds.settled
  refine ⟨_, rfl, ?_, ?_, ?_, ?_, ?_⟩
  · intro reference
    rw [hattempts]
    cases apply with
    | false => simp
    | true =>
      simp only [List.nil_append, ↓reduceIte, List.mem_flatMap, List.mem_filterMap, true_and]
      constructor
      · rintro ⟨bucket, -, item, hitem, hfound⟩
        obtain ⟨hbucket, hkey, hunreferenced, hold⟩ := candidate?_eq_some.mp hfound
        rw [← hbucket] at hitem
        exact ⟨hunreferenced, item, hitem, hkey.symm, hold⟩
      · rintro ⟨hunreferenced, item, hitem, hkey, hold⟩
        exact ⟨reference.bucket, mem_imageBuckets _, item, hitem,
          candidate?_eq_some.mpr ⟨rfl, hkey.symm, hunreferenced, hold⟩⟩
  · rw [hattempts]
    cases apply with
    | false => simp
    | true => simpa using candidates_nodup storage
  · simpa using hscanned
  · simp at hscanned hclassified
    omega
  · rw [hsettled, hcandidates]
    simp

end Loop

namespace ReconciliationWitness

def kept : ManagedObjectRef :=
  ⟨.profileImages, "0a1b2c3d-0000-4000-8000-00000000000a.jpg", by decide +kernel⟩

def orphan : ManagedObjectRef :=
  ⟨.profileImages, "0a1b2c3d-0000-4000-8000-00000000000b.png", by decide +kernel⟩

/-- A first page of files which the server did not generate, and two images after it. -/
def profileObjects : List ListedStorageObject :=
  (List.range storagePageSize).map (fun number => ⟨toString number, some 0⟩) ++
    [⟨kept.objectKey, some 0⟩, ⟨orphan.objectKey, some 0⟩]

def listedObjects : ImageBucket → List ListedStorageObject
  | .profileImages => profileObjects
  | .eventMedia => []
  | .eventSliderImages => []

theorem listedObjects_nodup (bucket : ImageBucket) :
    ((listedObjects bucket).map ListedStorageObject.objectKey).Nodup := by
  cases bucket with
  | profileImages => decide +kernel
  | eventMedia => exact List.nodup_nil
  | eventSliderImages => exact List.nodup_nil

def twoPages : StorageListing := ⟨listedObjects, listedObjects_nodup⟩

/-- The unreferenced image on the second page is deleted, and the referenced one kept. -/
theorem reconcileOrphanedImages_exact_twoPages :
    ∃ run, reconcileOrphanedImages [kept] true (fun _ => true) twoPages (some 1) = .ok run ∧
      orphan ∈ run.attempts ∧ kept ∉ run.attempts ∧ run.report.scanned = 102 := by
  obtain ⟨run, hrun, hattempts, _, hscanned, _⟩ :=
    reconcileOrphanedImages_exact twoPages [kept] 1 true (fun _ => true)
  have hlisted : (⟨orphan.objectKey, some 0⟩ : ListedStorageObject) ∈ profileObjects :=
    List.mem_append_right _ (by simp)
  refine ⟨run, hrun, (hattempts orphan).mpr ⟨rfl, by decide, _, hlisted, rfl, 0, rfl, by decide⟩,
    fun hkept => ?_, ?_⟩
  · exact ((hattempts kept).mp hkept).2.1 (List.mem_singleton_self _)
  · rw [hscanned]
    decide +kernel

end ReconciliationWitness

end BuddyWeb
