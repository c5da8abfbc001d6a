/-
Runs of own-profile writes by any owners, and the profiles which they leave
stored.
-/
import BuddyWeb.Profile.Projectable

namespace BuddyWeb

/-- A request which may write the owner's profile.  Reading it stages a draft. -/
inductive ProfileWrite (zoneInfo : String → Bool)
  | read
  | interests (version : Nat) (group : InterestGroup)
  | languages (version : Nat) (group : LanguageGroup)
  | activities (version : Nat) (group : ActivityGroup)
  | preferences (update : ProfilePreferenceUpdate)
  | fields (update : ProfileUpdate zoneInfo)

/-- A request with its owner and what the services read when it runs. -/
structure ProfileRequest where
  context : ProfileContext
  owner : User
  write : ProfileWrite context.zoneInfo

/-- The record which a request commits, or the error with which it is rolled back. -/
def ProfileRequest.run (request : ProfileRequest) (stored : Option ProfileRecord) :
    Except ProfileError ProfileRecord :=
  match request.write with
  | .read => getOrCreateOwnProfileForUpdate request.context request.owner stored
  | .interests version group =>
      replaceOwnInterests request.context request.owner stored version group
  | .languages version group =>
      replaceOwnLanguages request.context request.owner stored version group
  | .activities version group =>
      replaceOwnActivities request.context request.owner stored version group
  | .preferences update =>
      replaceOwnPreferences request.context request.owner stored update
  | .fields update => replaceOwnProfileFields request.context request.owner stored update

/-- The stored profiles by their owner. -/
abbrev ProfileStore : Type := Nat → Option ProfileRecord

/-- The store after a request: a refused request leaves it unchanged. -/
def ProfileStore.after (store : ProfileStore) (request : ProfileRequest) : ProfileStore :=
  match request.run (store request.owner.id) with
  | .ok record => Function.update store request.owner.id (some record)
  | .error _ => store

/-- Requests run one after another, with one timezone database throughout. -/
def ProfileStore.Step (zoneInfo : String → Bool) (store : ProfileStore)
    (request : ProfileRequest) (after : ProfileStore) : Prop :=
  request.context.zoneInfo = zoneInfo ∧ after = store.after request

/-- A field update which carries preferred activities leaves room for the custom
activities which the profile already has. -/
def ActivitiesFit (store : ProfileStore) (request : ProfileRequest) : Prop :=
  match request.write with
  | .fields update => ∀ old ∈ store request.owner.id, update.ActivitiesFit old
  | _ => True

def ProfileStore.empty : ProfileStore :=
  fun _ => none

/-- The stores which runs of requests meeting a condition reach. -/
abbrev ProfileStore.Reached (zoneInfo : String → Bool)
    (allowed : ProfileStore → ProfileRequest → Prop) : ProfileStore → Prop :=
  Reaches (· = ProfileStore.empty) (ProfileStore.Step zoneInfo) allowed

theorem run_withinLimits {request : ProfileRequest} {store : ProfileStore}
    {record : ProfileRecord}
    (h : request.run (store request.owner.id) = .ok record)
    (hstored : ∀ old ∈ store request.owner.id,
      WithinLimits request.context.zoneInfo old)
    (hfit : ActivitiesFit store request) :
    WithinLimits request.context.zoneInfo record := by
  rcases request with ⟨context, owner, write⟩
  cases write with
  | read => exact getOrCreate_withinLimits h hstored
  | interests version group => exact replaceOwnInterests_withinLimits h hstored
  | languages version group => exact replaceOwnLanguages_withinLimits h hstored
  | activities version group => exact replaceOwnActivities_withinLimits h hstored
  | preferences update => exact replaceOwnPreferences_withinLimits h hstored
  | fields update => exact replaceOwnProfileFields_withinLimits h hstored hfit

/-- Every stored profile is within its limits. -/
def ProfileStore.WithinLimits (zoneInfo : String → Bool) (store : ProfileStore) : Prop :=
  ∀ owner, ∀ record ∈ store owner, BuddyWeb.WithinLimits zoneInfo record

/-- A request which meets the condition keeps every stored profile within limits. -/
theorem step_withinLimits {zoneInfo : String → Bool} {store after : ProfileStore}
    {request : ProfileRequest} (hstored : store.WithinLimits zoneInfo)
    (hfit : ActivitiesFit store request)
    (hstep : ProfileStore.Step zoneInfo store request after) :
    after.WithinLimits zoneInfo := by
  obtain ⟨rfl, rfl⟩ := hstep
  intro owner record hrecord
  cases hrun : request.run (store request.owner.id) with
  | error error =>
      rw [ProfileStore.after, hrun] at hrecord
      exact hstored owner record hrecord
  | ok written =>
      simp only [ProfileStore.after, hrun] at hrecord
      by_cases howner : owner = request.owner.id
      · subst owner
        rw [Function.update_self, Option.mem_some_iff] at hrecord
        subst record
        exact run_withinLimits hrun (hstored _) hfit
      · rw [Function.update_of_ne howner] at hrecord
        exact hstored owner record hrecord

/-- When every field update leaves room for the stored custom activities, every
stored profile can be projected. -/
theorem reached_projectable {zoneInfo : String → Bool} {store : ProfileStore}
    (hreached : ProfileStore.Reached zoneInfo ActivitiesFit store)
    (owner : Nat) (record : ProfileRecord) (hrecord : record ∈ store owner) :
    Projectable zoneInfo record := by
  have hstored : store.WithinLimits zoneInfo := by
    refine Reaches.invariant ?_ ?_ hreached
    · rintro state rfl owner record hrecord
      simp [ProfileStore.empty] at hrecord
    · intro state request after hstored hfit hstep
      exact step_withinLimits hstored hfit hstep
  exact projectable_of_withinLimits (hstored owner record hrecord)

/-- The room asked for is exact: a field update stores as many predefined
activities as it requests. -/
theorem replaceOwnProfileFields_activityIds_length {context : ProfileContext}
    {owner : User} {stored : Option ProfileRecord}
    {update : ProfileUpdate context.zoneInfo} {result : ProfileRecord}
    {requested : List Nat}
    (h : replaceOwnProfileFields context owner stored update = .ok result)
    (hstored : ∀ old ∈ stored, WithinLimits context.zoneInfo old)
    (hrequested : requested ∈ update.requestedActivityIds) :
    result.activityIds.length = requested.length := by
  obtain ⟨record, activityIds, hrecord, hactivityIds, _, rfl⟩ :=
    replaceOwnProfileFields_spec h
  have hlimits := getOrCreate_withinLimits hrecord hstored
  have hnodup := readActivityIds_nodup hlimits.selections.activities_nodup
  have hdistinct := (requestedActivityIds_spec hrequested).1
  rw [Option.mem_def] at hrequested
  simp only [hrequested, requestedActivities, except_bind_eq_ok_iff,
    except_pure_eq_ok_iff] at hactivityIds
  obtain ⟨_, _, rfl⟩ := hactivityIds
  simp only [ProfileRecord.bumpVersion, replaceProfileActivityIds]
  split
  · rename_i hsame
    exact le_antisymm (List.subperm_of_subset hnodup hsame.2).length_le
      (List.subperm_of_subset hdistinct hsame.1).length_le
  · rw [List.length_insertionSort, hdistinct.dedup]

namespace WriteRunsWitness

def plainUnicode : UnicodeData where
  nfkc := id
  casefold := id
  unsafeCategory := fun _ => false

def activity (id : Nat) : CatalogItem where
  id := id
  code := "activity"
  labelEn := ⟨"Go", by decide, by decide⟩
  labelDe := ⟨"Go", by decide, by decide⟩
  isActive := true
  deletedAt := none

/-- A catalog of twenty activities. -/
def twentyActivities : Catalog where
  interests := []
  languages := []
  activities := (List.range 20).map activity
  interests_nodup := by decide
  languages_nodup := by decide
  activities_nodup := by decide

def context : ProfileContext where
  unicode := plainUnicode
  zoneInfo := AvailabilityWitness.bangkokOnly
  catalog := twentyActivities
  hasActiveBuddyMatch := fun _ => false
  freshProfileId := 1

def student : User where
  id := 7
  role := .user
  isActive := true
  deletedAt := none
  emailVerifiedAt := some 0
  semesterId := some 1

/-- Replace the activities by the custom activity "Chess". -/
def customChess : ProfileRequest where
  context := context
  owner := student
  write := .activities 1 {
    selected := []
    customs := [⟨"Chess"⟩]
    selected_nodup := by decide
    combined_le := by decide }

/-- Ask for the first `count` predefined activities by a field update. -/
def preferFirst (count : Nat) (hcount : count ≤ 20) : ProfileRequest where
  context := context
  owner := student
  write := .fields {
    version := 2
    preferences := some (some ⟨List.range count,
      List.nodup_range, by simpa using hcount⟩) }

def afterChess : ProfileStore :=
  ProfileStore.empty.after customChess

/-- A run of two requests which leaves room for the custom activity. -/
theorem reached_projectable_nineteen :
    ∃ record ∈ (afterChess.after (preferFirst 19 (by decide))) 7,
      record.activityIds.length = 19 ∧
        Projectable AvailabilityWitness.bangkokOnly record := by
  have hfit : ActivitiesFit afterChess (preferFirst 19 (by decide)) := by
    intro old hold requested hrequested
    have hcustom : ∀ old ∈ afterChess 7,
        (customRows old.customs .activity).length = 1 := by decide +kernel
    have hlength := hcustom old hold
    simp only [ProfileUpdate.requestedActivityIds, Option.join_some, Option.map_some,
      Option.mem_some_iff] at hrequested
    rw [← hrequested, hlength]
    simp [maxProfileActivitySelections]
  have hchess : ActivitiesFit ProfileStore.empty customChess := trivial
  have hreached : ProfileStore.Reached AvailabilityWitness.bangkokOnly ActivitiesFit
      (afterChess.after (preferFirst 19 (by decide))) :=
    .next (.next (.start rfl) hchess ⟨rfl, rfl⟩) hfit ⟨rfl, rfl⟩
  have hsome : ∃ record ∈ (afterChess.after (preferFirst 19 (by decide))) 7,
      record.activityIds.length = 19 := by decide +kernel
  obtain ⟨record, hrecord, hlength⟩ := hsome
  exact ⟨record, hrecord, hlength, reached_projectable hreached 7 record hrecord⟩

/-- Twenty predefined activities beside a custom one: the stored profile cannot be
projected any more. -/
theorem not_reached_projectable_twenty :
    ¬ ∀ (zoneInfo : String → Bool) (store : ProfileStore),
      ProfileStore.Reached zoneInfo (fun _ _ => True) store →
        ∀ owner, ∀ record ∈ store owner, Projectable zoneInfo record := by
  intro hclaim
  have hreached : ProfileStore.Reached AvailabilityWitness.bangkokOnly (fun _ _ => True)
      (afterChess.after (preferFirst 20 (by decide))) :=
    .next (.next (.start rfl) trivial ⟨rfl, rfl⟩) trivial ⟨rfl, rfl⟩
  have hsome : ∃ record ∈ (afterChess.after (preferFirst 20 (by decide))) 7,
      (loadSafeParticipantProfile AvailabilityWitness.bangkokOnly twentyActivities .en
        record none).toBool = false := by decide +kernel
  obtain ⟨record, hrecord, hrefused⟩ := hsome
  obtain ⟨projected, hprojected⟩ :=
    (hclaim _ _ hreached 7 record hrecord).invitation twentyActivities .en none
  rw [hprojected] at hrefused
  simp [Except.toBool] at hrefused

end WriteRunsWitness

end BuddyWeb
