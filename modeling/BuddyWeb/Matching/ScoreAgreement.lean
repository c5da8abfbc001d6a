/-
Every place which shows or stores the compatibility of an eligible pair in a reference week
shows or stores the same one.
-/
import Mathlib.Control.Traversable.Instances
import BuddyWeb.Matching.ScoredProfiles

namespace BuddyWeb

section Rows

variable {context : ScoringContext} {tables : StudentTables} {locale : CatalogLocale}

theorem mem_joinedRows {filter : ProfileRecord → Bool} {row : ProfileRecord × ProfilePhoto}
    (h : row ∈ joinedRows tables filter) :
    row.1 ∈ tables.profiles.rows ∧ filter row.1 = true := by
  simp only [joinedRows, avatarRows, List.mem_flatMap, List.mem_insertionSort, List.mem_filter,
    List.mem_map] at h
  obtain ⟨record, hrecord, photo, _, rfl⟩ := h
  exact hrecord

/-- Each projected profile has the signals of a selected row. -/
theorem mem_projectSafeRows {rows : List (ProfileRecord × ProfilePhoto)}
    {profiles : List (SafeMatchingProfile context.zoneInfo)}
    (h : projectSafeRows context tables locale rows = .ok profiles)
    {profile : SafeMatchingProfile context.zoneInfo} (hprofile : profile ∈ profiles) :
    ∃ row ∈ rows, ScoredFrom context tables.catalog row.1 profile := by
  simp only [projectSafeRows, projectSafeProfiles, except_bind_eq_ok_iff,
    except_map_eq_ok_iff] at h
  obtain ⟨ordered, hordered, values, hvalues, rfl⟩ := h
  obtain ⟨value, hvalue, hsome⟩ := List.mem_filterMap.mp hprofile
  obtain rfl : value = some profile := hsome
  obtain ⟨entry, hentry, hprojected⟩ := exists_of_mem_mapM hvalues hvalue
  obtain ⟨row, hrow, hrowOk⟩ := exists_of_mem_mapM hordered hentry
  simp only [except_bind_eq_ok_iff, except_pure_eq_ok_iff] at hrowOk
  obtain ⟨avatar, _, rfl⟩ := hrowOk
  exact ⟨row, hrow, scoredFrom_of_projectSafeProfile hprojected⟩

/-- The public profile of a user comes from the user's row and a row of its avatar join. -/
theorem participantProfile_spec {userIds : List Nat}
    {profiles : List (Nat × SafeInvitationProfile context.zoneInfo)}
    (h : loadSafeParticipantProfiles context tables userIds locale = .ok profiles)
    {userId : Nat} {shown : SafeInvitationProfile context.zoneInfo}
    (hshown : participantProfile profiles userId = some shown) :
    ∃ record photo, tables.profileOf userId = some record ∧
      (record, photo) ∈ outerAvatarRows tables record ∧
      projectParticipantRow context tables locale (record, photo) = .ok (userId, shown) := by
  simp only [participantProfile, Option.map_eq_some_iff] at hshown
  obtain ⟨entry, hentry, rfl⟩ := hshown
  have hmem := List.mem_of_getLast? hentry
  rw [List.mem_filter, decide_eq_true_eq] at hmem
  obtain ⟨hmem, rfl⟩ := hmem
  obtain ⟨row, hrow, hproject⟩ := exists_of_mem_mapM h hmem
  simp only [List.mem_flatMap, List.mem_insertionSort, List.mem_filter] at hrow
  obtain ⟨record, ⟨hrecord, _⟩, hjoin⟩ := hrow
  have hsame : row.1 = record := by
    unfold outerAvatarRows at hjoin
    split at hjoin
    · simp only [List.mem_singleton] at hjoin
      rw [hjoin]
    · obtain ⟨photo, _, rfl⟩ := List.mem_map.mp hjoin
      rfl
  rcases row with ⟨rowRecord, photo⟩
  obtain rfl : rowRecord = record := hsame
  have huser := hproject
  simp only [projectParticipantRow, except_bind_eq_ok_iff, except_pure_eq_ok_iff] at huser
  obtain ⟨_, _, _, _, rfl⟩ := huser
  exact ⟨rowRecord, photo, StudentTables.profileOf_eq_some_iff.mpr ⟨hrecord, rfl⟩, hjoin,
    hproject⟩

end Rows

section Eligibility

/-- The principal of an eligible user, from the rows of a snapshot. -/
def eligiblePrincipalOf (unicode : UnicodeData) (db : MatchingDatabase) (userId : Nat) :
    Option EligibleMatchingPrincipal := do
  let user ← db.users.get? userId
  let record ← db.profileOf userId
  (getEligibleMatchingPrincipal (db.completionContext unicode) user record).toOption

/-- Two eligible users who pass the pair rule. -/
def EligiblePair (unicode : UnicodeData) (db : MatchingDatabase) (first second : Nat) :
    Prop :=
  ∃ firstPrincipal secondPrincipal,
    eligiblePrincipalOf unicode db first = some firstPrincipal ∧
      eligiblePrincipalOf unicode db second = some secondPrincipal ∧
      matchingPairIsEligible firstPrincipal secondPrincipal = true

theorem matchingPairIsEligible_comm (current candidate : EligibleMatchingPrincipal) :
    matchingPairIsEligible current candidate = matchingPairIsEligible candidate current := by
  rw [Bool.eq_iff_iff, matchingPairIsEligible_iff, matchingPairIsEligible_iff, ne_comm,
    ne_comm (a := current.profileId), ne_comm (a := current.studentType)]

variable {unicode : UnicodeData} {db : MatchingDatabase}

theorem EligiblePair.symm {first second : Nat} (h : EligiblePair unicode db first second) :
    EligiblePair unicode db second first := by
  obtain ⟨firstPrincipal, secondPrincipal, hfirst, hsecond, hpair⟩ := h
  exact ⟨secondPrincipal, firstPrincipal, hsecond, hfirst,
    matchingPairIsEligible_comm firstPrincipal secondPrincipal ▸ hpair⟩

/-- The row behind an eligible user. -/
structure EligibleRow (unicode : UnicodeData) (db : MatchingDatabase) (userId : Nat)
    (principal : EligibleMatchingPrincipal) (record : ProfileRecord) : Prop where
  row : db.profileOf userId = some record
  ready : ∃ user, MatchingReady (db.completionContext unicode) user record
  user : principal.userId = userId
  profile : principal.profileId = record.profile.id
  studentType : record.profile.studentType = some principal.studentType

theorem eligibleRow_of_principal {userId : Nat} {principal : EligibleMatchingPrincipal}
    (h : eligiblePrincipalOf unicode db userId = some principal) :
    ∃ record, EligibleRow unicode db userId principal record := by
  simp only [eligiblePrincipalOf, Option.bind_eq_bind, Option.bind_eq_some_iff] at h
  obtain ⟨user, huser, record, hrecord, hprincipal⟩ := h
  obtain ⟨hready, hid, hprofile, htype, _⟩ :=
    getEligibleMatchingPrincipal_eq_ok_iff.mp (ok_of_toOption hprincipal)
  exact ⟨record, hrecord, ⟨user, hready⟩, hid.trans (Table.get?_key huser), hprofile, htype⟩

theorem EligibleRow.mem {userId : Nat} {principal : EligibleMatchingPrincipal}
    {record : ProfileRecord} (h : EligibleRow unicode db userId principal record) :
    record ∈ db.profiles.rows :=
  (StudentTables.profileOf_eq_some_iff.mp h.row).1

end Eligibility

section Scorable

variable {context : ScoringContext} {db : MatchingDatabase} {userId : Nat}
  {principal : EligibleMatchingPrincipal} {record : ProfileRecord}

theorem countValidSelections_nil (unicode : UnicodeData) :
    countValidSelections unicode [] [] = .ok 0 := rfl

theorem projectedInterests_ne_nil (catalog : Catalog) (locale : CatalogLocale)
    {count : Nat} (hcount : countValidInterests context.unicode catalog record = .ok count)
    (hpos : 1 ≤ count) : projectedInterests catalog locale record ≠ [] := by
  intro hempty
  simp only [projectedInterests, catalogPreferences, customPreferences,
    List.append_eq_nil_iff, List.map_eq_nil_iff] at hempty
  have hselected : selectedInterests catalog record = [] := by
    rw [← hempty.1, selectedInterests, listActiveInterests, List.filter_filter]
    simp only [Bool.and_comm]
  rw [countValidInterests, hselected, hempty.2, List.map_nil, countValidSelections_nil,
    Except.ok.injEq] at hcount
  omega

theorem projectedLanguages_ne_nil (catalog : Catalog) (locale : CatalogLocale)
    (hproficiency : ∀ custom ∈ record.customs,
      custom.kind = .language ↔ custom.proficiency.isSome = true) {count : Nat}
    (hcount : countValidLanguages context.unicode catalog record = .ok count)
    (hpos : 1 ≤ count) : projectedLanguages catalog locale record ≠ [] := by
  intro hempty
  simp only [projectedLanguages, List.append_eq_nil_iff] at hempty
  obtain ⟨hcatalog, hcustom⟩ := hempty
  have hselected : selectedLanguages catalog record = [] := by
    refine List.filter_eq_nil_iff.mpr fun item hitem hany => ?_
    obtain ⟨selection, hselection, hcode⟩ := List.any_eq_true.mp hany
    have hfind := List.filterMap_eq_nil_iff.mp hcatalog item hitem
    rw [Option.map_eq_none_iff, List.find?_eq_none] at hfind
    exact hfind selection hselection hcode
  have hcustoms : customRows record.customs .language = [] := by
    refine List.eq_nil_iff_forall_not_mem.mpr fun custom hmem => ?_
    have hnone := List.filterMap_eq_nil_iff.mp hcustom custom hmem
    rw [customRows, List.mem_filter, Bool.and_eq_true, decide_eq_true_eq] at hmem
    have hsome := (hproficiency custom hmem.1).mp hmem.2.1
    rw [Option.map_eq_none_iff] at hnone
    simp [hnone] at hsome
  rw [countValidLanguages, hselected, hcustoms, List.map_nil, countValidSelections_nil,
    Except.ok.injEq] at hcount
  omega

/-- The projected lists have their lengths in every order of the custom rows. -/
theorem projected_orderCustoms_length (record : ProfileRecord) (catalog : Catalog)
    (locale : CatalogLocale) (column : ProfileCustomPreference → String) :
    (projectedInterests catalog locale (record.orderCustoms column)).length =
        (projectedInterests catalog locale record).length ∧
      (projectedLanguages catalog locale (record.orderCustoms column)).length =
        (projectedLanguages catalog locale record).length := by
  have hcustoms := customRows_orderCustoms record column
  constructor
  · simp only [projectedInterests, customPreferences, List.length_append, List.length_map,
      (hcustoms .interest).length_eq]
    rfl
  · simp only [projectedLanguages, List.length_append,
      ((hcustoms .language).filterMap _).length_eq]
    rfl

/-- The public profile of an eligible user can be scored. -/
theorem asScoringFields_of_eligible
    (heligible : EligibleRow context.unicode db userId principal record)
    {locale : CatalogLocale} {photo : Option ProfilePhoto}
    (hjoin : (record, photo) ∈ outerAvatarRows db.toStudentTables record)
    {shown : SafeInvitationProfile context.zoneInfo}
    (hshown : projectParticipantRow context db.toStudentTables locale (record, photo) =
      .ok (userId, shown)) :
    ∃ profile, asScoringFields shown = some profile := by
  obtain ⟨user, hready⟩ := heligible.ready
  obtain ⟨interests, languages, hinterests, hlanguages, hmissing⟩ := hready.complete
  obtain ⟨_, _, havatars, ⟨hinterestsPos, _⟩, hlanguagesPos, _⟩ :=
    missingFields_eq_nil_iff.mp hmissing
  have hphoto : ∃ ready, photo = some ready := by
    unfold outerAvatarRows at hjoin
    split at hjoin
    · rename_i hnone
      rw [countReadyAvatars] at havatars
      rw [StudentTables.readyAvatars] at hnone
      simp [StudentTables.completionContext, hnone] at havatars
    · simp only [List.mem_map, Prod.mk.injEq, true_and] at hjoin
      obtain ⟨ready, _, rfl⟩ := hjoin
      exact ⟨ready, rfl⟩
  obtain ⟨ready, rfl⟩ := hphoto
  simp only [projectParticipantRow, loadSafeParticipantProfile, except_bind_eq_ok_iff,
    except_pure_eq_ok_iff, acceptWithout_eq_ok_iff] at hshown
  obtain ⟨avatar, havatar, profile, ⟨preferences, hpreferences, _, rfl⟩, hpair⟩ := hshown
  obtain rfl : participantFields (record.orderCustoms (·.displayLabel)).profile avatar
      preferences = shown := (Prod.mk.inj hpair).2
  obtain ⟨found, rfl⟩ : ∃ found, avatar = some found := by
    cases hsafe : safeMatchingAvatar ready with
    | error errors => simp [Option.mapM, hsafe] at havatar
    | ok found =>
        refine ⟨found, ?_⟩
        simpa [Option.mapM, hsafe, eq_comm] using havatar
  obtain ⟨hshownInterests, hshownLanguages, _, _⟩ := projectPreferences_spec hpreferences
  have hlengths := projected_orderCustoms_length record db.catalog locale (·.displayLabel)
  have hsomeInterests := projectedInterests_ne_nil db.catalog locale hinterests hinterestsPos
  have hsomeLanguages := projectedLanguages_ne_nil db.catalog locale
    (db.customs_proficiency record heligible.mem) hlanguages hlanguagesPos
  rw [← List.length_pos_iff] at hsomeInterests hsomeLanguages
  have hguard : preferences.interests ≠ [] ∧ preferences.languages ≠ [] := by
    rw [← List.length_pos_iff, ← List.length_pos_iff, hshownInterests, hshownLanguages]
    omega
  apply Option.isSome_iff_exists.mp
  simp [asScoringFields, participantFields, ProfileRecord.orderCustoms, heligible.studentType,
    hguard, guard]

end Scorable

section Agreement

variable {context : ScoringContext} {db : MatchingDatabase} {referenceWeekStart : Int}

/-- The public compatibility of two users, computed from signals of their stored profiles. -/
def ScoresPair (context : ScoringContext) (db : MatchingDatabase) (referenceWeekStart : Int)
    (first second : Nat) (shown : Int × CompatibilityExplanation) : Prop :=
  ∃ firstRecord secondRecord firstProfile secondProfile hmonday,
    (db.profileOf first = some firstRecord ∧ db.profileOf second = some secondRecord) ∧
    (ScoredFrom context db.catalog firstRecord firstProfile ∧
      ScoredFrom context db.catalog secondRecord secondProfile) ∧
    let score := compatibilityScore (pairSimilarities firstProfile secondProfile
      referenceWeekStart) referenceWeekStart hmonday
    projectCompatibilityExplanation context score = .ok shown.2 ∧ shown.1 = score.score

theorem ScoresPair.symm {first second : Nat} {shown : Int × CompatibilityExplanation}
    (h : ScoresPair context db referenceWeekStart first second shown) :
    ScoresPair context db referenceWeekStart second first shown := by
  obtain ⟨firstRecord, secondRecord, firstProfile, secondProfile, hmonday, hrows, hscored,
    hshown⟩ := h
  refine ⟨secondRecord, firstRecord, secondProfile, firstProfile, hmonday, hrows.symm,
    hscored.symm, ?_⟩
  rw [pairSimilarities_comm secondProfile]
  exact hshown

/-- Stored profiles determine the public compatibility. -/
theorem ScoresPair.unique {first second : Nat} {shown other : Int × CompatibilityExplanation}
    (hshown : ScoresPair context db referenceWeekStart first second shown)
    (hother : ScoresPair context db referenceWeekStart first second other) :
    shown = other := by
  obtain ⟨firstRecord, secondRecord, firstProfile, secondProfile, hmonday, ⟨hfirst, hsecond⟩,
    ⟨hfirstScored, hsecondScored⟩, hexplanation, hscore⟩ := hshown
  obtain ⟨firstRecord', secondRecord', firstProfile', secondProfile', _, ⟨hfirst', hsecond'⟩,
    ⟨hfirstScored', hsecondScored'⟩, hexplanation', hscore'⟩ := hother
  obtain rfl : firstRecord = firstRecord' := Option.some.inj (hfirst.symm.trans hfirst')
  obtain rfl : secondRecord = secondRecord' := Option.some.inj (hsecond.symm.trans hsecond')
  rw [← pairSimilarities_congr (hfirstScored.alike hfirstScored')
    (hsecondScored.alike hsecondScored')] at hexplanation' hscore'
  exact Prod.ext (hscore.trans hscore'.symm)
    (Except.ok.inj (hexplanation.symm.trans hexplanation'))

/-- A score of two projected profiles is the compatibility of their owners. -/
theorem scoresPair_of_score {first second : Nat} {firstRecord secondRecord : ProfileRecord}
    {firstProfile secondProfile : SafeMatchingProfile context.zoneInfo}
    (hrows : db.profileOf first = some firstRecord ∧ db.profileOf second = some secondRecord)
    (hscored : ScoredFrom context db.catalog firstRecord firstProfile ∧
      ScoredFrom context db.catalog secondRecord secondProfile)
    {current candidate : EligibleMatchingPrincipal} {score : CompatibilityScore}
    (hscore : scoreEligiblePair current candidate firstProfile secondProfile
      referenceWeekStart = .ok score)
    {explanation : CompatibilityExplanation}
    (hexplanation : projectCompatibilityExplanation context score = .ok explanation) :
    ScoresPair context db referenceWeekStart first second (score.score, explanation) := by
  obtain ⟨hmonday, _, rfl⟩ := scoreEligiblePair_eq_ok_iff.mp hscore
  exact ⟨firstRecord, secondRecord, firstProfile, secondProfile, hmonday, hrows, hscored,
    hexplanation, rfl⟩

end Agreement

section Places

variable {context : ScoringContext} {db : MatchingDatabase} {referenceWeekStart : Int}

/-- The profiles which the recommendations score are those of stored rows. -/
theorem loadMatchingScoringProfiles_spec {current : EligibleMatchingPrincipal}
    {locale : CatalogLocale} {candidateLimit : Nat}
    {currentProfile : SafeMatchingProfile context.zoneInfo}
    {candidates : List (EligibleMatchingCandidate context)}
    (h : loadMatchingScoringProfiles context db.toStudentTables db.buddyMatches current locale
      candidateLimit = .ok (some (currentProfile, candidates))) :
    (∃ record ∈ db.profiles.rows, ScoredFrom context db.catalog record currentProfile) ∧
      ∀ candidate ∈ candidates, ∃ record ∈ db.profiles.rows,
        ScoredFrom context db.catalog record candidate.profile := by
  unfold loadMatchingScoringProfiles at h
  simp only at h
  split at h
  · simp at h
  · simp only [except_map_eq_ok_iff] at h
    obtain ⟨projected, hprojected, hresult⟩ := h
    have hrow : ∀ profile ∈ projected, ∃ record ∈ db.profiles.rows,
        ScoredFrom context db.catalog record profile := by
      intro profile hprofile
      obtain ⟨row, hrow, hscored⟩ := mem_projectSafeRows hprojected hprofile
      refine ⟨row.1, ?_, hscored⟩
      rcases List.mem_append.mp hrow with hcurrent | hcandidate
      · exact (mem_joinedRows hcurrent).1
      · exact (mem_joinedRows (List.mem_of_mem_take hcandidate)).1
    cases projected with
    | nil => simp at hresult
    | cons first rest =>
        simp only at hresult
        split at hresult
        · simp at hresult
        · obtain ⟨rfl, rfl⟩ := Prod.mk.inj (Option.some.inj hresult)
          refine ⟨hrow first List.mem_cons_self, fun candidate hcandidate => ?_⟩
          rw [← List.map_uncurry_zip_eq_zipWith, List.mem_map] at hcandidate
          obtain ⟨⟨row, profile⟩, hpair, rfl⟩ := hcandidate
          exact hrow profile (List.mem_cons_of_mem first (List.of_mem_zip hpair).2)

theorem scoresPair_of_recommendation {viewer other : Nat}
    {current : EligibleMatchingPrincipal}
    (hcurrent : eligiblePrincipalOf context.unicode db viewer = some current)
    {record : ProfileRecord} (hrecord : db.profileOf other = some record)
    {locale : CatalogLocale} {page pageSize : Nat}
    {response : ListResponse (MatchingRecommendation context)}
    (hresponse : listRankedMatchingRecommendations context db current locale page pageSize
      referenceWeekStart = .ok response)
    {item : MatchingRecommendation context} (hitem : item ∈ response.items)
    (hother : item.profile.id = record.profile.id) :
    ScoresPair context db referenceWeekStart viewer other (item.score, item.explanation) := by
  obtain ⟨currentRecord, hcurrentRow⟩ := eligibleRow_of_principal hcurrent
  simp only [listRankedMatchingRecommendations, except_bind_eq_ok_iff, mapError_eq_ok_iff,
    require_eq_ok_iff, except_pure_eq_ok_iff] at hresponse
  obtain ⟨_, _, _, hloaded, ⟨currentProfile, candidates⟩, rfl, _, _, scored, hscored, items,
    hitems, rfl⟩ := hresponse
  obtain ⟨⟨firstRecord, hfirstMem, hfirst⟩, hcandidates⟩ :=
    loadMatchingScoringProfiles_spec hloaded
  obtain ⟨entry, hentry, hentryItem⟩ := exists_of_mem_mapM hitems hitem
  have hentryMem : entry ∈ scored := by
    have hranked := List.mem_of_mem_drop (List.mem_of_mem_take hentry)
    rwa [List.mem_insertionSort] at hranked
  obtain ⟨candidate, hcandidate, hscore⟩ := exists_of_mem_mapM hscored hentryMem
  obtain ⟨secondRecord, hsecondMem, hsecond⟩ := hcandidates candidate hcandidate
  simp only [scoreCandidate, except_bind_eq_ok_iff, mapError_eq_ok_iff,
    except_pure_eq_ok_iff] at hscore
  obtain ⟨score, hscore, rfl⟩ := hscore
  simp only [matchingRecommendation, except_bind_eq_ok_iff, mapError_eq_ok_iff,
    except_pure_eq_ok_iff] at hentryItem
  obtain ⟨explanation, hexplanation, rfl⟩ := hentryItem
  obtain ⟨_, hprofiles, _⟩ := scoreEligiblePair_eq_ok_iff.mp hscore
  -- The scored profiles carry the identifiers of the two users' rows.
  obtain rfl : firstRecord = currentRecord :=
    Table.eq_of_key hfirstMem hcurrentRow.mem
      (hfirst.id.symm.trans (hprofiles.1.symm.trans hcurrentRow.profile))
  obtain rfl : secondRecord = record :=
    Table.eq_of_key hsecondMem (StudentTables.profileOf_eq_some_iff.mp hrecord).1
      (hsecond.id.symm.trans hother)
  exact scoresPair_of_score ⟨hcurrentRow.row, hrecord⟩ ⟨hfirst, hsecond⟩ hscore hexplanation

/-- The public profile of an eligible user is scored from the user's row. -/
theorem asScoringProfile_of_eligible {userId : Nat} {principal : EligibleMatchingPrincipal}
    {record : ProfileRecord}
    (heligible : EligibleRow context.unicode db userId principal record)
    {userIds : List Nat} {locale : CatalogLocale}
    {profiles : List (Nat × SafeInvitationProfile context.zoneInfo)}
    (hprofiles : loadSafeParticipantProfiles context db.toStudentTables userIds locale =
      .ok profiles)
    {shown : SafeInvitationProfile context.zoneInfo}
    (hshown : participantProfile profiles userId = some shown)
    {scoring : Option (SafeMatchingProfile context.zoneInfo)}
    (hscoring : asScoringProfile shown = .ok scoring) :
    ∃ profile, scoring = some profile ∧ ScoredFrom context db.catalog record profile := by
  obtain ⟨found, photo, hfound, hjoin, hproject⟩ := participantProfile_spec hprofiles hshown
  obtain rfl : found = record := Option.some.inj (hfound.symm.trans heligible.row)
  obtain ⟨profile, hfields⟩ := asScoringFields_of_eligible heligible hjoin hproject
  simp only [asScoringProfile, hfields, except_map_eq_ok_iff, acceptWithout_eq_ok_iff] at hscoring
  obtain ⟨_, ⟨_, rfl⟩, rfl⟩ := hscoring
  simp only [projectParticipantRow, except_bind_eq_ok_iff, except_pure_eq_ok_iff] at hproject
  obtain ⟨avatar, _, value, hvalue, hpair⟩ := hproject
  obtain rfl : value = shown := (Prod.mk.inj hpair).2
  exact ⟨profile, rfl, scoredFrom_of_asScoringFields hvalue hfields⟩

theorem scoresPair_of_currentCompatibility {viewer other : Nat}
    (hpair : EligiblePair context.unicode db viewer other)
    {userIds : List Nat} {locale : CatalogLocale}
    {profiles : List (Nat × SafeInvitationProfile context.zoneInfo)}
    (hprofiles : loadSafeParticipantProfiles context db.toStudentTables userIds locale =
      .ok profiles)
    {currentProfile participant : SafeInvitationProfile context.zoneInfo}
    (hcurrent : participantProfile profiles viewer = some currentProfile)
    (hparticipant : participantProfile profiles other = some participant)
    {compatibility : Option (Int × CompatibilityExplanation)}
    (h : currentCompatibility viewer currentProfile other participant referenceWeekStart =
      .ok compatibility) :
    ∃ shown, compatibility = some shown ∧
      ScoresPair context db referenceWeekStart viewer other shown := by
  obtain ⟨viewerPrincipal, otherPrincipal, hviewer, hother, hrule⟩ := hpair
  obtain ⟨viewerRecord, hviewerRow⟩ := eligibleRow_of_principal hviewer
  obtain ⟨otherRecord, hotherRow⟩ := eligibleRow_of_principal hother
  simp only [currentCompatibility, except_bind_eq_ok_iff, mapError_eq_ok_iff] at h
  obtain ⟨_, hscoringCurrent, _, hscoringParticipant, h⟩ := h
  obtain ⟨viewerProfile, rfl, hviewerScored⟩ :=
    asScoringProfile_of_eligible hviewerRow hprofiles hcurrent hscoringCurrent
  obtain ⟨otherProfile, rfl, hotherScored⟩ :=
    asScoringProfile_of_eligible hotherRow hprofiles hparticipant hscoringParticipant
  obtain ⟨husers, hids, htypes⟩ := matchingPairIsEligible_iff.mp hrule
  have heligible : matchingPairIsEligible (participantPrincipal viewer viewerProfile)
      (participantPrincipal other otherProfile) = true := by
    refine matchingPairIsEligible_iff.mpr ⟨?_, ?_, ?_⟩
    · rw [← hviewerRow.user, ← hotherRow.user] at *
      exact husers
    · rw [participantPrincipal, participantPrincipal, hviewerScored.id, hotherScored.id,
        ← hviewerRow.profile, ← hotherRow.profile]
      exact hids
    · have hviewerType := hviewerScored.studentType.symm.trans hviewerRow.studentType
      have hotherType := hotherScored.studentType.symm.trans hotherRow.studentType
      rw [Option.some_inj] at hviewerType hotherType
      rw [participantPrincipal, participantPrincipal, hviewerType, hotherType]
      exact htypes
  simp only [heligible, if_true, except_bind_eq_ok_iff, mapError_eq_ok_iff,
    except_pure_eq_ok_iff] at h
  obtain ⟨score, hscore, explanation, hexplanation, rfl⟩ := h
  exact ⟨_, rfl, scoresPair_of_score ⟨hviewerRow.row, hotherRow.row⟩
    ⟨hviewerScored, hotherScored⟩ hscore hexplanation⟩

/-- An invitation of an eligible pair shows the compatibility of the pair. -/
theorem scoresPair_of_listInvitations {viewer other : Nat}
    (hpair : EligiblePair context.unicode db viewer other) {view : InvitationView}
    {current : VerifiedBuddyPrincipal} (hcurrent : current.user.id = viewer)
    {record : ProfileRecord} (hrecord : db.profileOf other = some record)
    {locale : CatalogLocale} {page pageSize : Nat} {instant : Int}
    {response : ListResponse (InvitationReadItem context)}
    (hresponse : listInvitations context db view current locale page pageSize
      referenceWeekStart instant = .ok response)
    {item : InvitationReadItem context} (hitem : item ∈ response.items)
    (hother : item.participant.id = record.profile.id) :
    ∃ shown, item.compatibility = some shown ∧
      ScoresPair context db referenceWeekStart viewer other shown := by
  simp only [listInvitations, except_bind_eq_ok_iff] at hresponse
  obtain ⟨_, _, hresponse⟩ := hresponse
  split at hresponse
  · rw [except_pure_eq_ok_iff] at hresponse
    rw [← hresponse] at hitem
    cases hitem
  · simp only [except_bind_eq_ok_iff, mapError_eq_ok_iff, require_eq_ok_iff,
      except_pure_eq_ok_iff] at hresponse
    obtain ⟨profiles, hprofiles, currentProfile, hcurrentProfile, items, hitems, rfl⟩ :=
      hresponse
    obtain ⟨invitation, _, hread⟩ := exists_of_mem_mapM hitems hitem
    simp only [invitationReadItem, except_bind_eq_ok_iff, require_eq_ok_iff,
      except_pure_eq_ok_iff] at hread
    obtain ⟨participant, hparticipant, compatibility, hcompatibility, rfl⟩ := hread
    obtain ⟨found, photo, hfound, _, hproject⟩ :=
      participantProfile_spec hprofiles hparticipant
    simp only [projectParticipantRow, loadSafeParticipantProfile, except_bind_eq_ok_iff,
      except_pure_eq_ok_iff, acceptWithout_eq_ok_iff, Prod.mk.injEq] at hproject
    obtain ⟨_, _, _, ⟨_, _, _, rfl⟩, _, rfl⟩ := hproject
    -- The shown identifier is that of the other user's row.
    obtain rfl : found = record :=
      Table.eq_of_key (StudentTables.profileOf_eq_some_iff.mp hfound).1
        (StudentTables.profileOf_eq_some_iff.mp hrecord).1 hother
    have huser : view.participant invitation = other :=
      (StudentTables.profileOf_eq_some_iff.mp hfound).2.symm.trans
        (StudentTables.profileOf_eq_some_iff.mp hrecord).2
    rw [huser] at hparticipant hcompatibility
    rw [hcurrent] at hcurrentProfile hcompatibility
    exact scoresPair_of_currentCompatibility hpair hprofiles hcurrentProfile hparticipant
      hcompatibility

end Places

section Acceptance

variable {context : ScoringContext} {db : MatchingDatabase} {current : VerifiedBuddyPrincipal}

/-- The rows which the session loaded for the request are the committed ones. -/
structure SessionFresh (db : MatchingDatabase) (current : VerifiedBuddyPrincipal) : Prop where
  user : ∀ user ∈ db.users.rows, user.id = current.user.id → user = current.user
  profile : ∀ record ∈ db.profiles.rows, record.profile.id = current.profile.id →
    record.profile = current.profile

theorem verifiedPrincipalOf_spec {userId : Nat}
    (h : db.verifiedPrincipalOf userId = some current) :
    current.user.id = userId ∧ SessionFresh db current := by
  simp only [MatchingDatabase.verifiedPrincipalOf, Option.bind_eq_bind,
    Option.bind_eq_some_iff] at h
  obtain ⟨user, huser, hverified⟩ := h
  have hok := ok_of_toOption hverified
  simp only [getVerifiedBuddyPrincipal, except_bind_eq_ok_iff, require_eq_ok_iff,
    except_pure_eq_ok_iff, Option.filter_eq_some_iff] at hok
  obtain ⟨_, _, _, _, record, ⟨hrecord, _⟩, rfl⟩ := hok
  refine ⟨Table.get?_key huser, fun other hother hid => ?_, fun other hother hid => ?_⟩
  · exact Table.eq_of_key hother (Table.get?_mem huser) hid
  · rw [Table.eq_of_key hother (StudentTables.profileOf_eq_some_iff.mp hrecord).1 hid]

theorem SessionFresh.inSession (h : SessionFresh db current) {record : ProfileRecord}
    (hrecord : record ∈ db.profiles.rows) : record.inSession current.profile = record := by
  unfold ProfileRecord.inSession
  split
  · rename_i hid
    rw [← h.profile record hrecord hid]
  · rfl

/-- A selected projection of committed rows has the signals of the principal's row. -/
theorem selectPairProfile_spec {rows : List (ProfileRecord × ProfilePhoto)}
    (hrows : ∀ row ∈ rows, row.1 ∈ db.profiles.rows) {locale : CatalogLocale}
    {projected : List (SafeMatchingProfile context.zoneInfo)}
    (hprojected : projectSafeRows context db.toStudentTables locale rows = .ok projected)
    {principal : EligibleMatchingPrincipal}
    {safeProfile : SafeMatchingProfile context.zoneInfo}
    (h : selectPairProfile rows projected principal = some safeProfile) :
    ∃ record, db.profileOf principal.userId = some record ∧
      ScoredFrom context db.catalog record safeProfile := by
  simp only [selectPairProfile, Option.bind_eq_bind, Option.bind_eq_some_iff,
    Option.ite_none_right_eq_some, Option.some_inj] at h
  obtain ⟨persisted, hpersisted, found, hfound, ⟨huser, _⟩, rfl⟩ := h
  obtain ⟨row, hrow, hscored⟩ :=
    mem_projectSafeRows hprojected (List.mem_of_find?_eq_some hfound)
  have hpersistedMem := hrows persisted (List.mem_of_find?_eq_some hpersisted)
  have hpersistedId : persisted.1.profile.id = principal.profileId := by
    simpa using List.find?_some hpersisted
  have hfoundId : found.id = principal.profileId := by
    simpa using List.find?_some hfound
  have hsame : row.1 = persisted.1 :=
    Table.eq_of_key (hrows row hrow) hpersistedMem
      (hscored.id.symm.trans (hfoundId.trans hpersistedId.symm))
  rw [hsame] at hscored
  exact ⟨persisted.1, StudentTables.profileOf_eq_some_iff.mpr ⟨hpersistedMem, huser⟩, hscored⟩

/-- The profiles of a locked pair are those of the rows of the two principals. -/
theorem loadMatchingPairScoringProfiles_spec (hfresh : SessionFresh db current)
    {first second : EligibleMatchingPrincipal} {locale : CatalogLocale}
    {profiles : SafeMatchingProfile context.zoneInfo × SafeMatchingProfile context.zoneInfo}
    (h : loadMatchingPairScoringProfiles context db.toStudentTables current.profile first
      second locale = .ok (some profiles)) :
    ∃ firstRecord secondRecord,
      (db.profileOf first.userId = some firstRecord ∧
        db.profileOf second.userId = some secondRecord) ∧
      ScoredFrom context db.catalog firstRecord profiles.1 ∧
        ScoredFrom context db.catalog secondRecord profiles.2 := by
  unfold loadMatchingPairScoringProfiles at h
  split at h
  · simp at h
  · simp only at h
    split at h
    · simp at h
    · simp only [except_map_eq_ok_iff] at h
      obtain ⟨projected, hprojected, hselected⟩ := h
      split at hselected
      · simp at hselected
      · simp only [Option.bind_eq_bind, Option.bind_eq_some_iff, Option.pure_def,
          Option.some_inj] at hselected
        obtain ⟨firstProfile, hfirst, secondProfile, hsecond, rfl⟩ := hselected
        have hrows : ∀ row ∈ (joinedRows db.toStudentTables fun record =>
            (record.profile.id = first.profileId || record.profile.id = second.profileId) &&
              record.profile.deletedAt.isNone).map
                (fun row => (row.1.inSession current.profile, row.2)),
            row.1 ∈ db.profiles.rows := by
          intro row hrow
          obtain ⟨source, hsource, rfl⟩ := List.mem_map.mp hrow
          have hmem := (mem_joinedRows hsource).1
          rwa [hfresh.inSession hmem]
        obtain ⟨firstRecord, hfirstRow, hfirstScored⟩ :=
          selectPairProfile_spec hrows hprojected hfirst
        obtain ⟨secondRecord, hsecondRow, hsecondScored⟩ :=
          selectPairProfile_spec hrows hprojected hsecond
        exact ⟨firstRecord, secondRecord, ⟨hfirstRow, hsecondRow⟩, hfirstScored,
          hsecondScored⟩

theorem requireEligibility_eq_ok_iff {ρ : Type} {unicode : UnicodeData} {user : User}
    {record : ProfileRecord} {reason : ρ} {principal : EligibleMatchingPrincipal} :
    requireEligibility unicode db user record reason = .ok principal ↔
      getEligibleMatchingPrincipal (db.completionContext unicode) user record =
        .ok principal :=
  mapError_eq_ok_iff

/-- The principals of locked participants are those of the sender and the recipient. -/
theorem acceptParticipants_spec {unicode : UnicodeData} {users : User × User}
    {invitation : MatchingInvitation} {participants : LockedBuddyParticipants}
    {sender recipient : EligibleMatchingPrincipal}
    (h : acceptParticipants unicode db current users invitation =
      .ok (participants, sender, recipient)) :
    lockBuddyMatchParticipants db current users invitation = .ok participants ∧
      getEligibleMatchingPrincipal (db.completionContext unicode) participants.senderUser
        participants.senderProfile = .ok sender ∧
      getEligibleMatchingPrincipal (db.completionContext unicode) participants.recipientUser
        participants.recipientProfile = .ok recipient ∧
      recipient.userId = current.user.id ∧ matchingPairIsEligible sender recipient = true := by
  simp only [acceptParticipants, except_bind_eq_ok_iff, requireEligibility_eq_ok_iff,
    ensure_eq_ok_iff, except_pure_eq_ok_iff, Prod.mk.injEq] at h
  obtain ⟨_, hlocked, _, hsender, _, hrecipient, _, huser, _, hrule, rfl, rfl, rfl⟩ := h
  exact ⟨hlocked, hsender, hrecipient, huser, hrule⟩

/-- A staged match carries the identities of its invitation and the snapshot of the score. -/
theorem activateBuddyMatch_spec {id : Nat} {invitation : MatchingInvitation}
    {participants : LockedBuddyParticipants} {compatibility : CompatibilityScore}
    {instant : Int} {buddyMatch : BuddyMatch}
    (h : activateBuddyMatch context db id invitation participants compatibility instant =
      .ok buddyMatch) :
    (participants.senderUser.id = invitation.senderId ∧
        participants.recipientUser.id = invitation.recipientId) ∧
      (buddyMatch.participantOneUserId = invitation.senderId ∧
        buddyMatch.participantTwoUserId = invitation.recipientId) ∧
      (buddyMatch.score : Int) = compatibility.score ∧
      buddyMatch.scoreBreakdown.referenceWeekStart = compatibility.referenceWeekStart ∧
      projectCompatibilityExplanation context compatibility =
        .ok buddyMatch.scoreBreakdown.explanation := by
  simp only [activateBuddyMatch, compatibilityScoreSnapshot, except_bind_eq_ok_iff,
    ensure_eq_ok_iff, mapError_eq_ok_iff, except_pure_eq_ok_iff] at h
  obtain ⟨_, _, _, hids, _, _, semesterId, _, snapshot, ⟨explanation, hexplanation, rfl⟩, _, _,
    rfl⟩ := h
  exact ⟨⟨hids.1, hids.2.1⟩, ⟨rfl, rfl⟩, Int.toNat_of_nonneg compatibility.score_mem.1, rfl,
    hexplanation⟩

/-- The match which an acceptance adds stores the compatibility of its participants. -/
theorem scoresPair_of_acceptance (hfresh : SessionFresh db current) {invitationId : Nat}
    {instant : Int} {ids : AcceptIds} {result : InvitationAcceptanceResult}
    {after : MatchingDatabase}
    (haccept : acceptMatchingInvitation context db current invitationId instant ids =
      .ok (result, after))
    {buddyMatch : BuddyMatch} (hmatch : buddyMatch ∈ after.buddyMatches.rows)
    (hnew : buddyMatch ∉ db.buddyMatches.rows) :
    ScoresPair context db (currentReferenceWeekStart instant)
        buddyMatch.participantOneUserId buddyMatch.participantTwoUserId
        (buddyMatch.score, buddyMatch.scoreBreakdown.explanation) ∧
      buddyMatch.scoreBreakdown.referenceWeekStart = currentReferenceWeekStart instant := by
  simp only [acceptMatchingInvitation, except_bind_eq_ok_iff] at haccept
  obtain ⟨observed, _, haccept⟩ := haccept
  cases observed with
  | inl replayed =>
      obtain ⟨_, rfl⟩ := Prod.mk.inj (except_pure_eq_ok_iff.mp haccept)
      exact absurd hmatch hnew
  | inr invitation =>
      simp only [except_bind_eq_ok_iff, require_eq_ok_iff, except_pure_eq_ok_iff,
        Prod.mk.injEq] at haccept
      obtain ⟨users, _, ⟨participants, sender, recipient⟩, hparticipants, ⟨_, writes⟩, hstaged,
        _, hwrite, _, rfl⟩ := haccept
      obtain ⟨_, hmatches, _, _⟩ := MatchingDatabase.write_eq_some_iff.mp hwrite
      obtain ⟨hlocked, hsender, hrecipient, _, _⟩ := acceptParticipants_spec hparticipants
      obtain ⟨found, _, _, hreplay | hrows⟩ := stageAcceptance_cases hstaged
      · obtain ⟨_, _, rfl⟩ := hreplay
        rw [← Option.some.inj hmatches] at hmatch
        exact absurd hmatch hnew
      · obtain ⟨profiles, compatibility, staged, conversation, event, hrows, _, rfl⟩ := hrows
        have hsame : buddyMatch = staged := by
          rcases (Table.mem_insertOptional hmatches).mp hmatch with hstagedMatch | hold
          · exact (Option.mem_some_iff.mp hstagedMatch).symm
          · exact absurd hold hnew
        subst hsame
        obtain ⟨husers, hparticipantIds, hscore, hweek, hexplanation⟩ :=
          activateBuddyMatch_spec hrows.activated
        obtain ⟨_, hsenderId, _⟩ := getEligibleMatchingPrincipal_eq_ok_iff.mp hsender
        obtain ⟨_, hrecipientId, _⟩ := getEligibleMatchingPrincipal_eq_ok_iff.mp hrecipient
        obtain ⟨senderRecord, recipientRecord, hprofileRows, hscored⟩ :=
          loadMatchingPairScoringProfiles_spec hfresh hrows.loaded
        obtain ⟨hmonday, _, rfl⟩ := scoreEligiblePair_eq_ok_iff.mp hrows.scored
        rw [hsenderId, hrecipientId, husers.1, husers.2, ← hparticipantIds.1,
          ← hparticipantIds.2] at hprofileRows
        exact ⟨⟨senderRecord, recipientRecord, profiles.1, profiles.2, hmonday, hprofileRows,
          hscored, hexplanation, hscore⟩, hweek⟩

end Acceptance

section Shown

variable (context : ScoringContext) (db : MatchingDatabase) (referenceWeekStart : Int)

/-- The places which show or store the compatibility of two users in a reference week, from
one snapshot of the tables. -/
inductive ShownCompatibility : Nat → Nat → Option (Int × CompatibilityExplanation) → Prop
  | recommended {viewer other : Nat} {current : EligibleMatchingPrincipal}
      {record : ProfileRecord} {locale : CatalogLocale} {page pageSize : Nat}
      {response : ListResponse (MatchingRecommendation context)}
      {item : MatchingRecommendation context}
      (hcurrent : eligiblePrincipalOf context.unicode db viewer = some current)
      (hrecord : db.profileOf other = some record)
      (hresponse : listRankedMatchingRecommendations context db current locale page pageSize
        referenceWeekStart = .ok response)
      (hitem : item ∈ response.items) (hother : item.profile.id = record.profile.id) :
      ShownCompatibility viewer other (some (item.score, item.explanation))
  | incoming {viewer other : Nat} {current : VerifiedBuddyPrincipal} {record : ProfileRecord}
      {locale : CatalogLocale} {page pageSize : Nat} {instant : Int}
      {response : ListResponse (InvitationReadItem context)}
      {item : InvitationReadItem context}
      (hcurrent : db.verifiedPrincipalOf viewer = some current)
      (hrecord : db.profileOf other = some record)
      (hresponse : listIncomingInvitations context db current locale page pageSize
        referenceWeekStart instant = .ok response)
      (hitem : item ∈ response.items) (hother : item.participant.id = record.profile.id) :
      ShownCompatibility viewer other item.compatibility
  | sent {viewer other : Nat} {current : VerifiedBuddyPrincipal} {record : ProfileRecord}
      {locale : CatalogLocale} {page pageSize : Nat} {instant : Int}
      {response : ListResponse (InvitationReadItem context)}
      {item : InvitationReadItem context}
      (hcurrent : db.verifiedPrincipalOf viewer = some current)
      (hrecord : db.profileOf other = some record)
      (hresponse : listSentInvitations context db current locale page pageSize
        referenceWeekStart instant = .ok response)
      (hitem : item ∈ response.items) (hother : item.participant.id = record.profile.id) :
      ShownCompatibility viewer other item.compatibility
  | accepted {recipient : Nat} {current : VerifiedBuddyPrincipal} {invitationId : Nat}
      {instant : Int} {ids : AcceptIds} {result : InvitationAcceptanceResult}
      {after : MatchingDatabase} {buddyMatch : BuddyMatch}
      (hcurrent : db.verifiedPrincipalOf recipient = some current)
      (haccept : acceptMatchingInvitation context db current invitationId instant ids =
        .ok (result, after))
      (hmatch : buddyMatch ∈ after.buddyMatches.rows)
      (hnew : buddyMatch ∉ db.buddyMatches.rows)
      (hweek : currentReferenceWeekStart instant = referenceWeekStart) :
      ShownCompatibility buddyMatch.participantOneUserId buddyMatch.participantTwoUserId
        (some (buddyMatch.score, buddyMatch.scoreBreakdown.explanation))
  | otherSide {viewer other : Nat} {shown : Option (Int × CompatibilityExplanation)}
      (hshown : ShownCompatibility viewer other shown) :
      ShownCompatibility other viewer shown

variable {context db referenceWeekStart}

theorem scoresPair_of_shown {viewer other : Nat}
    {shown : Option (Int × CompatibilityExplanation)}
    (hshown : ShownCompatibility context db referenceWeekStart viewer other shown)
    (hpair : EligiblePair context.unicode db viewer other) :
    ∃ compatibility, shown = some compatibility ∧
      ScoresPair context db referenceWeekStart viewer other compatibility := by
  induction hshown with
  | recommended hcurrent hrecord hresponse hitem hother =>
      exact ⟨_, rfl, scoresPair_of_recommendation hcurrent hrecord hresponse hitem hother⟩
  | incoming hcurrent hrecord hresponse hitem hother =>
      exact scoresPair_of_listInvitations hpair (verifiedPrincipalOf_spec hcurrent).1 hrecord
        hresponse hitem hother
  | sent hcurrent hrecord hresponse hitem hother =>
      exact scoresPair_of_listInvitations hpair (verifiedPrincipalOf_spec hcurrent).1 hrecord
        hresponse hitem hother
  | accepted hcurrent haccept hmatch hnew hweek =>
      have hscored := scoresPair_of_acceptance (verifiedPrincipalOf_spec hcurrent).2 haccept
        hmatch hnew
      rw [hweek] at hscored
      exact ⟨_, rfl, hscored.1⟩
  | otherSide _ ih =>
      obtain ⟨compatibility, hsome, hscored⟩ := ih hpair.symm
      exact ⟨compatibility, hsome, hscored.symm⟩

/-- Whatever place shows or stores the compatibility of an eligible pair in a reference
week, in whatever locale and from whichever side, it is there and it is the same. -/
theorem shown_compatibility_agrees {first second : Nat}
    (hpair : EligiblePair context.unicode db first second)
    {shown other : Option (Int × CompatibilityExplanation)}
    (hshown : ShownCompatibility context db referenceWeekStart first second shown)
    (hother : ShownCompatibility context db referenceWeekStart first second other) :
    shown.isSome = true ∧ shown = other := by
  obtain ⟨compatibility, rfl, hscored⟩ := scoresPair_of_shown hshown hpair
  obtain ⟨compatibility', rfl, hscored'⟩ := scoresPair_of_shown hother hpair
  exact ⟨rfl, congrArg some (hscored.unique hscored')⟩

end Shown

namespace ScoreWitness

open WriteRunsWitness (plainUnicode student)
open EligibilityWitness (buddy catalog photos)

/-- Seven hours ahead of UTC, with numbers shown as they are. -/
def context : ScoringContext where
  unicode := plainUnicode
  zoneInfo := AvailabilityWitness.bangkokOnly
  toUtc := fun _ minute => (minute - 420) * 60000000
  publicNumber := id

def customInterest (label : String) (hnonempty : label ≠ "")
    (hlength : label.length ≤ maxDisplayLabelLength) : ProfileCustomPreference where
  kind := .interest
  displayLabel := label
  normalizedKey := label
  proficiency := none
  deletedAt := none
  displayLabel_nonempty := hnonempty
  displayLabel_le := hlength

/-- A complete profile with two custom interests and one free morning. -/
def profileRow (owner : User) (studentType : StudentType)
    (customs : List ProfileCustomPreference) : ProfileRecord where
  profile := { StudentProfile.draft (owner.id + 10) owner.id with
    fullName := some "An"
    studentType := some studentType
    major := some "Law"
    availability := some ⟨"Asia/Bangkok", [⟨1, 480, 480 + 10 * owner.id⟩]⟩
    matchingOptIn := true }
  interestIds := [1]
  languages := [⟨"de", .fluent⟩]
  activityIds := []
  customs := customs

def chess : ProfileCustomPreference := customInterest "Chess" (by decide) (by decide)

def tennis : ProfileCustomPreference := customInterest "Tennis" (by decide) (by decide)

def art : ProfileCustomPreference := customInterest "Art" (by decide) (by decide)

def rows : List ProfileRecord :=
  [profileRow student .vietnamese [tennis, chess], profileRow buddy .international [chess, art]]

/-- Monday 5 January 1970. -/
def monday : Int := 4

def instant : Int := monday * 86400000000

def invitation : MatchingInvitation where
  id := 1
  senderId := 7
  recipientId := 8
  message := "Hello"
  status := .pending
  createdAt := instant
  expiresAt := invitationExpiresAt instant
  respondedAt := none
  cancelledAt := none
  expiredAt := none
  senderHiddenAt := none
  deletedAt := none

def database : MatchingDatabase where
  catalog := catalog
  users := ⟨[student, buddy], by decide⟩
  profiles := ⟨rows, by decide⟩
  photos := photos
  profiles_user := by decide
  customs_proficiency := by decide
  invitations := ⟨[invitation], by decide⟩
  buddyMatches := .empty
  conversations := .empty
  outbox := .empty

theorem eligiblePair : EligiblePair context.unicode database 7 8 := by
  have hprincipals : ∃ first ∈ eligiblePrincipalOf context.unicode database 7,
      ∃ second ∈ eligiblePrincipalOf context.unicode database 8,
        matchingPairIsEligible first second = true := by decide +kernel
  obtain ⟨first, hfirst, second, hsecond, hrule⟩ := hprincipals
  exact ⟨first, second, hfirst, hsecond, hrule⟩

/-- What the German recommendations show to the sender is what the recipient's acceptance
stores. -/
theorem shown_compatibility_agrees_law_students :
    ∃ sender ∈ eligiblePrincipalOf context.unicode database 7,
      ∃ response ∈ (listRankedMatchingRecommendations context database sender .de 1 20
        monday).toOption, ∃ item ∈ response.items,
      ∃ recipient ∈ database.verifiedPrincipalOf 8,
        ∃ accepted ∈ (acceptMatchingInvitation context database recipient 1 instant
          ⟨3, 4, 5⟩).toOption, ∃ buddyMatch ∈ accepted.2.buddyMatches.rows,
          some (item.score, item.explanation) =
            some ((buddyMatch.score : Int), buddyMatch.scoreBreakdown.explanation) := by
  have hrecommended : ∃ sender ∈ eligiblePrincipalOf context.unicode database 7,
      ∃ record ∈ database.profileOf 8,
        ∃ response ∈ (listRankedMatchingRecommendations context database sender .de 1 20
          monday).toOption,
          ∃ item ∈ response.items, item.profile.id = record.profile.id := by decide +kernel
  have haccepted : ∃ recipient ∈ database.verifiedPrincipalOf 8,
      ∃ accepted ∈ (acceptMatchingInvitation context database recipient 1 instant
        ⟨3, 4, 5⟩).toOption,
        ∃ buddyMatch ∈ accepted.2.buddyMatches.rows,
          buddyMatch.participantOneUserId = 7 ∧ buddyMatch.participantTwoUserId = 8 := by
    decide +kernel
  obtain ⟨sender, hsender, record, hrecord, response, hresponse, item, hitem, hid⟩ :=
    hrecommended
  obtain ⟨recipient, hrecipient, ⟨result, after⟩, haccept, buddyMatch, hmatch, hone, htwo⟩ :=
    haccepted
  have hstored := ShownCompatibility.accepted hrecipient (ok_of_toOption haccept) hmatch
    List.not_mem_nil (by decide : currentReferenceWeekStart instant = monday)
  rw [hone, htwo] at hstored
  exact ⟨sender, hsender, response, hresponse, item, hitem, recipient, hrecipient, _, haccept,
    buddyMatch, hmatch,
    (shown_compatibility_agrees eligiblePair
      (.recommended hsender hrecord (ok_of_toOption hresponse) hitem hid) hstored).2⟩

end ScoreWitness

end BuddyWeb
