/-
The candidate query and the check of a loaded principal state one policy on every stored
profile.
-/
import BuddyWeb.Matching.CustomIdentity
import BuddyWeb.Matching.Eligibility

namespace BuddyWeb

section Principal

variable {context : CompletionContext} {user : User} {record : ProfileRecord}
  {principal : EligibleMatchingPrincipal}

/-- A complete, opted-in profile of a verified student. -/
structure MatchingReady (context : CompletionContext) (user : User)
    (record : ProfileRecord) : Prop where
  semester : user.semesterId.isSome = true
  owned : record.profile.userId = user.id
  live : record.profile.deletedAt = none
  complete : ∃ interests languages,
    countValidInterests context.unicode context.catalog record = .ok interests ∧
      countValidLanguages context.unicode context.catalog record = .ok languages ∧
      missingFields record.profile (countReadyAvatars context.photos record.profile.id)
        interests languages = []
  verified : user.isVerified = true
  optIn : record.profile.matchingOptIn = true

theorem preferenceCount_eq_ok_iff {count : Except String Nat} {value : Nat} :
    preferenceCount count = .ok value ↔ count = .ok value := by
  cases count <;> simp [preferenceCount, Except.mapError]

/-- The check accepts exactly the ready profiles with a student type. -/
theorem getEligibleMatchingPrincipal_eq_ok_iff :
    getEligibleMatchingPrincipal context user record = .ok principal ↔
      MatchingReady context user record ∧ principal.userId = user.id ∧
        principal.profileId = record.profile.id ∧
        record.profile.studentType = some principal.studentType ∧
        principal.semesterId = user.semesterId := by
  simp only [getEligibleMatchingPrincipal, getProfileCompletion, except_bind_eq_ok_iff,
    ensure_eq_ok_iff, require_eq_ok_iff, except_pure_eq_ok_iff, preferenceCount_eq_ok_iff]
  constructor
  · rintro ⟨_, hsemester, completion, ⟨_, hprofile, interests, hinterests, languages,
      hlanguages, rfl⟩, _, heligible, studentType, htype, rfl⟩
    simp only [deriveProfileCompletion, Bool.and_eq_true, decide_eq_true_eq] at heligible
    exact ⟨⟨hsemester, hprofile.1, hprofile.2, ⟨interests, languages, hinterests, hlanguages,
      heligible.1.1⟩, heligible.1.2, heligible.2⟩, rfl, rfl, htype, rfl⟩
  · rintro ⟨hready, huser, hprofile, htype, hsemester⟩
    obtain ⟨interests, languages, hinterests, hlanguages, hmissing⟩ := hready.complete
    refine ⟨(), hready.semester, _, ⟨(), ⟨hready.owned, hready.live⟩, interests, hinterests,
      languages, hlanguages, rfl⟩, (), ?_, principal.studentType, htype, ?_⟩
    · simp [deriveProfileCompletion, hmissing, hready.verified, hready.optIn]
    · rcases principal with ⟨userId, profileId, studentType, semesterId⟩
      simp_all

end Principal

section Names

theorem isBetween_fullName_iff {profile : StudentProfile}
    (hname : ∀ text ∈ profile.fullName,
      pyStrip text = text ∧ text ≠ "" ∧ text.length ≤ 120) :
    isBetween 1 120 (profile.fullName.map fun name => (btrim name).length) = true ↔
      1 ≤ (strippedFullName profile).length ∧ (strippedFullName profile).length ≤ 120 := by
  cases hfull : profile.fullName with
  | none => simp [isBetween, strippedFullName, hfull]
  | some name =>
      obtain ⟨hstrip, _, _⟩ := hname name hfull
      simp [isBetween, strippedFullName, hfull, hstrip, btrim_eq_self hstrip]

end Names

section Agreement

variable {unicode : UnicodeData} {catalog : Catalog} {record : ProfileRecord}

/-- On a profile which agrees with the catalog, readiness is a matter of the counts of the
candidate query. -/
theorem matchingReady_iff (hagrees : IdentityAgrees unicode catalog record)
    (photos : Table ProfilePhoto) {owner : User}
    (howner : owner.id = record.profile.userId) :
    MatchingReady ⟨unicode, catalog, photos⟩ owner record ∧
        record.profile.studentType.isSome = true ↔
      owner.semesterId.isSome = true ∧ owner.isVerified = true ∧
        record.profile.deletedAt = none ∧ record.profile.matchingOptIn = true ∧
        record.profile.studentType.isSome = true ∧
        isBetween 1 120 (record.profile.fullName.map fun name => (btrim name).length) =
          true ∧
        countReadyAvatars photos record.profile.id = 1 ∧
        isBetween 1 20 (some (interestCount catalog record)) = true ∧
        isBetween 1 10 (some (languageCount catalog record)) = true := by
  have hcounts : ∀ low high value : Nat,
      isBetween low high (some value) = true ↔ low ≤ value ∧ value ≤ high := by
    intro low high value
    simp [isBetween]
  rw [isBetween_fullName_iff hagrees.fullName, hcounts, hcounts]
  constructor
  · rintro ⟨hready, htype⟩
    obtain ⟨interests, languages, hinterests, hlanguages, hmissing⟩ := hready.complete
    rw [countValidInterests_eq hagrees, Except.ok.injEq] at hinterests
    rw [countValidLanguages_eq hagrees, Except.ok.injEq] at hlanguages
    subst hinterests hlanguages
    obtain ⟨hname, _, havatar, hinterests, hlanguages⟩ := missingFields_eq_nil_iff.mp hmissing
    exact ⟨hready.semester, hready.verified, hready.live, hready.optIn, htype, hname, havatar,
      hinterests, hlanguages⟩
  · rintro ⟨hsemester, hverified, hlive, hoptIn, htype, hname, havatar, hinterests,
      hlanguages⟩
    refine ⟨⟨hsemester, howner.symm, hlive, ⟨_, _, countValidInterests_eq hagrees,
      countValidLanguages_eq hagrees, ?_⟩, hverified, hoptIn⟩, htype⟩
    exact missingFields_eq_nil_iff.mpr ⟨hname, htype, havatar, hinterests, hlanguages⟩

end Agreement

theorem matchingPairIsEligible_iff {current candidate : EligibleMatchingPrincipal} :
    matchingPairIsEligible current candidate = true ↔
      current.userId ≠ candidate.userId ∧ current.profileId ≠ candidate.profileId ∧
        current.studentType ≠ candidate.studentType := by
  simp [matchingPairIsEligible, and_assoc]

theorem eligibleCandidateConditions_iff {catalog : Catalog} {photos : Table ProfilePhoto}
    {buddyMatches : Table BuddyMatch} {current : EligibleMatchingPrincipal} {owner : User}
    {record : ProfileRecord} :
    eligibleCandidateConditions catalog photos buddyMatches current owner record = true ↔
      owner.isVerified = true ∧ owner.semesterId = current.semesterId ∧
        record.profile.deletedAt = none ∧ record.profile.userId ≠ current.userId ∧
        record.profile.id ≠ current.profileId ∧ record.profile.studentType.isSome = true ∧
        record.profile.studentType ≠ some current.studentType ∧
        record.profile.matchingOptIn = true ∧
        activeMatchExists buddyMatches current.userId record.profile.userId = false ∧
        isBetween 1 120 (record.profile.fullName.map fun name => (btrim name).length) =
          true ∧
        countReadyAvatars photos record.profile.id = 1 ∧
        isBetween 1 20 (some (interestCount catalog record)) = true ∧
        isBetween 1 10 (some (languageCount catalog record)) = true := by
  simp only [eligibleCandidateConditions, User.isVerified, User.isAvailable,
    Bool.and_eq_true, decide_eq_true_eq, bne_iff_ne, Bool.not_eq_true', Option.isNone_iff_eq_none]
  tauto

/-- On every profile which the profile and preference services store, the candidate query
selects exactly those whose owner is verified, in the semester of the current student and
not in an active match with them, and who pass the check and the pair rule.  All requests of a
run share one catalog, since no service writes the catalogs. -/
theorem candidate_conditions_iff_eligible {zoneInfo : String → Bool} {unicode : UnicodeData}
    {catalog : Catalog} {store : ProfileStore}
    (hreached : ProfileStore.Reached zoneInfo (SharesCatalog unicode catalog) store)
    {ownerId : Nat} {record : ProfileRecord} (hrecord : record ∈ store ownerId)
    {owner : User} (howner : owner.id = record.profile.userId)
    (photos : Table ProfilePhoto) (buddyMatches : Table BuddyMatch)
    {current : EligibleMatchingPrincipal}
    (hcurrent : ∃ context user record,
      getEligibleMatchingPrincipal context user record = .ok current) :
    eligibleCandidateConditions catalog photos buddyMatches current owner record = true ↔
      (owner.isVerified = true ∧ owner.semesterId = current.semesterId ∧
          activeMatchExists buddyMatches current.userId owner.id = false) ∧
        ∃ candidate, getEligibleMatchingPrincipal ⟨unicode, catalog, photos⟩ owner record =
            .ok candidate ∧ matchingPairIsEligible current candidate = true := by
  have hagrees := reached_identityAgrees hreached ownerId record hrecord
  have hready := matchingReady_iff hagrees photos howner
  have hsemester : current.semesterId.isSome = true := by
    obtain ⟨context, user, other, hok⟩ := hcurrent
    obtain ⟨hother, _, _, _, hsame⟩ := getEligibleMatchingPrincipal_eq_ok_iff.mp hok
    rw [hsame]
    exact hother.semester
  rw [eligibleCandidateConditions_iff]
  constructor
  · rintro ⟨hverified, hsame, hlive, huser, hprofile, htype, hother, hoptIn, hfree, hname,
      havatar, hinterests, hlanguages⟩
    obtain ⟨hprincipal, _⟩ := hready.mpr ⟨hsame ▸ hsemester, hverified, hlive, hoptIn, htype,
      hname, havatar, hinterests, hlanguages⟩
    obtain ⟨studentType, hstudentType⟩ := Option.isSome_iff_exists.mp htype
    refine ⟨⟨hverified, hsame, howner ▸ hfree⟩,
      ⟨owner.id, record.profile.id, studentType, owner.semesterId⟩,
      getEligibleMatchingPrincipal_eq_ok_iff.mpr
        ⟨hprincipal, rfl, rfl, hstudentType, rfl⟩, ?_⟩
    rw [hstudentType] at hother
    exact matchingPairIsEligible_iff.mpr ⟨howner ▸ huser.symm, hprofile.symm,
      fun htypes => hother (congrArg some htypes.symm)⟩
  · rintro ⟨⟨hverified, hsame, hfree⟩, candidate, hcandidate, hpair⟩
    obtain ⟨hprincipal, huser, hprofile, htype, _⟩ :=
      getEligibleMatchingPrincipal_eq_ok_iff.mp hcandidate
    obtain ⟨hotherUser, hotherProfile, hotherType⟩ := matchingPairIsEligible_iff.mp hpair
    obtain ⟨_, _, hlive, hoptIn, hsome, hname, havatar, hinterests, hlanguages⟩ :=
      hready.mp ⟨hprincipal, by simp [htype]⟩
    refine ⟨hverified, hsame, hlive, ?_, ?_, hsome, ?_, hoptIn, howner ▸ hfree, hname, havatar,
      hinterests, hlanguages⟩
    · rw [← howner, ← huser]
      exact hotherUser.symm
    · rw [← hprofile]
      exact hotherProfile.symm
    · rw [htype, ne_eq, Option.some_inj]
      exact hotherType.symm

namespace EligibilityWitness

open WriteRunsWitness (plainUnicode activity student)

/-- A catalog of one interest and one language. -/
def catalog : Catalog where
  interests := [activity 1]
  languages := [{
    code := "de"
    labelEn := ⟨"German", by decide, by decide⟩
    labelDe := ⟨"Deutsch", by decide, by decide⟩
    isActive := true }]
  activities := []
  interests_nodup := by decide
  languages_nodup := by decide
  activities_nodup := List.nodup_nil

def context (profileId : Nat) : ProfileContext where
  unicode := plainUnicode
  zoneInfo := AvailabilityWitness.bangkokOnly
  catalog := catalog
  hasActiveBuddyMatch := fun _ => false
  freshProfileId := profileId

def buddy : User :=
  { student with id := 8 }

def introduce (user : User) (studentType : StudentType) : ProfileRequest where
  context := context (user.id + 10)
  owner := user
  write := .fields {
    version := 1
    fullName := some ⟨"An", by decide, by decide, by decide⟩
    studentType := some studentType
    matchingOptIn := some true }

def chooseInterest (user : User) : ProfileRequest where
  context := context (user.id + 10)
  owner := user
  write := .interests 2 {
    selected := [1]
    customs := []
    selected_nodup := by decide
    combined_le := by decide }

def chooseLanguage (user : User) : ProfileRequest where
  context := context (user.id + 10)
  owner := user
  write := .languages 3 {
    selected := [⟨"de", .fluent⟩]
    customs := []
    selected_nodup := by decide
    combined_le := by decide }

/-- The store after the three requests of a user. -/
def completed (user : User) (studentType : StudentType) : ProfileStore :=
  ((ProfileStore.empty.after (introduce user studentType)).after (chooseInterest user)).after
    (chooseLanguage user)

theorem completed_reached (user : User) (studentType : StudentType) :
    ProfileStore.Reached AvailabilityWitness.bangkokOnly (SharesCatalog plainUnicode catalog)
      (completed user studentType) :=
  .next (.next (.next (.start rfl) ⟨rfl, rfl⟩ ⟨rfl, rfl⟩) ⟨rfl, rfl⟩ ⟨rfl, rfl⟩) ⟨rfl, rfl⟩
    ⟨rfl, rfl⟩

def avatar (profileId : Nat) : ProfilePhoto :=
  ⟨profileId, profileId, true, .ready, 10, 10, none⟩

def photos : Table ProfilePhoto :=
  ⟨[avatar 17, avatar 18], by decide⟩

def current : EligibleMatchingPrincipal :=
  ⟨8, 18, .international, some 1⟩

/-- A complete profile is selected by the query and accepted by the check. -/
theorem candidate_conditions_iff_eligible_complete :
    ∃ record ∈ completed student .vietnamese 7,
      ∃ candidate, getEligibleMatchingPrincipal ⟨plainUnicode, catalog, photos⟩ student record =
        .ok candidate ∧ matchingPairIsEligible current candidate = true := by
  have hcurrent : ∃ record ∈ completed buddy .international 8,
      getEligibleMatchingPrincipal ⟨plainUnicode, catalog, photos⟩ buddy record =
        .ok current := by decide +kernel
  have hselected : ∃ record ∈ completed student .vietnamese 7,
      student.id = record.profile.userId ∧
        eligibleCandidateConditions catalog photos .empty current student record = true := by
    decide +kernel
  obtain ⟨own, _, hown⟩ := hcurrent
  obtain ⟨record, hrecord, howner, hconditions⟩ := hselected
  have hagreement := candidate_conditions_iff_eligible
    (completed_reached student .vietnamese) hrecord howner photos .empty ⟨_, _, _, hown⟩
  exact ⟨record, hrecord, (hagreement.mp hconditions).2⟩

end EligibilityWitness

end BuddyWeb
