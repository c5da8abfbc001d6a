/-
The limits which a stored profile keeps under every write, and what each write
does to them.
-/
import BuddyWeb.Profile.Projection
import BuddyWeb.Profile.AvailabilityRoundTrip

namespace BuddyWeb

/-- The texts, the study year and the availability of a row can be projected. -/
structure RowWithinLimits (zoneInfo : String → Bool) (profile : StudentProfile) : Prop where
  displayName : ∀ text ∈ profile.displayName, text.length ≤ 80
  fullName : ∀ text ∈ profile.fullName, text.length ≤ 120
  bio : ∀ text ∈ profile.bio, text.length ≤ 500
  studyYear : ∀ year ∈ profile.studyYear, 1 ≤ year ∧ year ≤ 10
  availability : ∀ value ∈ profile.availability,
    ∃ availability : WeeklyAvailability zoneInfo,
      validateAvailability zoneInfo value = .ok availability

/-- Predefined and custom selections together stay within the group limits. -/
structure SelectionsWithinLimits (record : ProfileRecord) : Prop where
  interests : record.interestIds.length + (customRows record.customs .interest).length ≤
    maxProfileInterestSelections
  languages : record.languages.length + (customRows record.customs .language).length ≤
    maxProfileLanguageSelections
  activities : record.activityIds.length + (customRows record.customs .activity).length ≤
    maxProfileActivitySelections
  activities_nodup : record.activityIds.Nodup
  proficiency : ∀ custom ∈ customRows record.customs .language, custom.proficiency.isSome

structure WithinLimits (zoneInfo : String → Bool) (record : ProfileRecord) : Prop where
  row : RowWithinLimits zoneInfo record.profile
  selections : SelectionsWithinLimits record

theorem withinLimits_draft (zoneInfo : String → Bool) (id userId : Nat) :
    WithinLimits zoneInfo (.draft id userId) where
  row := {
    displayName := by simp [ProfileRecord.draft, StudentProfile.draft]
    fullName := by simp [ProfileRecord.draft, StudentProfile.draft]
    bio := by simp [ProfileRecord.draft, StudentProfile.draft]
    studyYear := by simp [ProfileRecord.draft, StudentProfile.draft]
    availability := by simp [ProfileRecord.draft, StudentProfile.draft] }
  selections := {
    interests := by simp [ProfileRecord.draft, customRows]
    languages := by simp [ProfileRecord.draft, customRows]
    activities := by simp [ProfileRecord.draft, customRows]
    activities_nodup := by simp [ProfileRecord.draft]
    proficiency := by simp [ProfileRecord.draft, customRows] }

section CustomRows

variable {customs : List ProfileCustomPreference} {kind other : PreferenceKind}
  {values : List PreparedCustomPreference}

@[simp]
theorem customModels_length : (customModels kind values).length = values.length := by
  simp [customModels]

/-- The rows made for one kind are its custom rows and no other kind's. -/
@[simp]
theorem customRows_customModels :
    customRows (customModels kind values) other =
      if kind = other then customModels kind values else [] := by
  by_cases hkind : kind = other
  · simp [customRows, customModels, hkind, List.filter_map, Function.comp_def]
  · simp [customRows, customModels, hkind, List.filter_map, Function.comp_def]

@[simp]
theorem customRows_append (first second : List ProfileCustomPreference) :
    customRows (first ++ second) kind = customRows first kind ++ customRows second kind :=
  List.filter_append _ _

/-- Replacing the custom rows of one kind leaves those of the others alone. -/
@[simp]
theorem customRows_replaceCustomKind :
    customRows (replaceCustomKind customs kind values) other =
      if kind = other then customModels kind values else customRows customs other := by
  rw [replaceCustomKind, customRows_append, customRows_customModels]
  have hkept : customRows (customs.filter fun custom => custom.kind ≠ kind) other =
      if kind = other then [] else customRows customs other := by
    unfold customRows
    rw [List.filter_filter]
    split
    · rename_i hself
      subst hself
      rw [List.filter_eq_nil_iff]
      intro custom _
      simp
      tauto
    · rename_i hother
      apply List.filter_congr
      intro custom _
      by_cases hcustom : custom.kind = other
      · simp [hcustom, Ne.symm hother]
      · simp [hcustom]
  rw [hkept]
  split <;> simp

end CustomRows

section Prepared

variable {unicode : UnicodeData}

theorem normalizeCustomLoop_spec {catalogKeys seen : List String}
    {values : List (String × Option LanguageProficiency)}
    {prepared : List PreparedCustomPreference}
    (h : normalizeCustomLoop unicode catalogKeys seen values = .ok prepared) :
    prepared.map (·.proficiency) = values.map (·.2) := by
  induction values generalizing seen prepared with
  | nil =>
      simp only [normalizeCustomLoop, Except.ok.injEq] at h
      simp [← h]
  | cons head rest ih =>
      rcases head with ⟨label, proficiency⟩
      simp only [normalizeCustomLoop] at h
      split at h
      · simp at h
      · split at h
        · simp at h
        · obtain ⟨tail, htail, hprepared⟩ := except_map_eq_ok_iff.mp h
          subst prepared
          simp [ih htail]

/-- Every submitted custom value is prepared, with its own proficiency. -/
theorem normalizeCustom_spec {values : List (String × Option LanguageProficiency)}
    {catalogKeys : List String} {prepared : List PreparedCustomPreference}
    (h : normalizeCustom unicode values catalogKeys = .ok prepared) :
    prepared.length = values.length ∧
      ∀ value ∈ prepared, value.proficiency ∈ values.map (·.2) := by
  obtain ⟨unsorted, hunsorted, rfl⟩ := except_map_eq_ok_iff.mp h
  have hspec := normalizeCustomLoop_spec hunsorted
  constructor
  · have hlength := congrArg List.length hspec
    simpa using hlength
  · intro value hvalue
    rw [List.mem_insertionSort] at hvalue
    rw [← hspec]
    exact List.mem_map_of_mem hvalue

theorem prepareItems_spec {catalog : List CatalogItem} {message : String}
    {ids : List Nat} {customs : List CustomPreferenceInput}
    {result : List Nat × List PreparedCustomPreference}
    (h : prepareItems unicode catalog message ids customs = .ok result) :
    result.1.length ≤ ids.length ∧ result.2.length = customs.length := by
  simp only [prepareItems, except_bind_eq_ok_iff, except_pure_eq_ok_iff] at h
  obtain ⟨_, _, keys, _, prepared, hprepared, rfl⟩ := h
  constructor
  · rw [List.length_insertionSort]
    exact (List.dedup_sublist ids).length_le
  · simpa using (normalizeCustom_spec hprepared).1

theorem prepareLanguages_spec {context : ProfileContext} {group : LanguageGroup}
    {result : List ProfileLanguageSelection × List PreparedCustomPreference}
    (h : prepareLanguages context group = .ok result) :
    result.1.length = group.selected.length ∧
      result.2.length = group.customs.length ∧
        ∀ value ∈ result.2, value.proficiency.isSome := by
  simp only [prepareLanguages, except_bind_eq_ok_iff, except_pure_eq_ok_iff] at h
  obtain ⟨_, _, keys, _, prepared, hprepared, rfl⟩ := h
  have hspec := normalizeCustom_spec hprepared
  refine ⟨List.length_insertionSort _ _, by simpa using hspec.1, ?_⟩
  intro value hvalue
  have hmem := hspec.2 value hvalue
  simp only [List.map_map, List.mem_map, Function.comp_apply] at hmem
  obtain ⟨item, _, heq⟩ := hmem
  simp [← heq]

end Prepared

section Writes

variable {context : ProfileContext} {owner : User} {stored : Option ProfileRecord}
  {result : ProfileRecord}

/-- A write starts from the stored record or from a draft. -/
theorem getOrCreate_withinLimits {record : ProfileRecord}
    (h : getOrCreateOwnProfileForUpdate context owner stored = .ok record)
    (hstored : ∀ old ∈ stored, WithinLimits context.zoneInfo old) :
    WithinLimits context.zoneInfo record := by
  simp only [getOrCreateOwnProfileForUpdate, except_bind_eq_ok_iff,
    except_pure_eq_ok_iff] at h
  obtain ⟨_, _, rfl⟩ := h
  cases stored with
  | none => exact withinLimits_draft _ _ _
  | some old => exact hstored old rfl

theorem rowWithinLimits_bumpVersion {zoneInfo : String → Bool} {record : ProfileRecord}
    (h : RowWithinLimits zoneInfo record.profile) :
    RowWithinLimits zoneInfo record.bumpVersion.profile where
  displayName := h.displayName
  fullName := h.fullName
  bio := h.bio
  studyYear := h.studyYear
  availability := h.availability

/-- Replacing activities leaves no more of them than were requested, since the
stored identifiers are distinct. -/
theorem replaceProfileActivityIds_length_le {existing : List Nat}
    (requested : List Nat) (hnodup : existing.Nodup) :
    (replaceProfileActivityIds existing requested).length ≤ requested.length := by
  unfold replaceProfileActivityIds
  split
  · rename_i hsame
    exact (List.subperm_of_subset hnodup hsame.2).length_le
  · rw [List.length_insertionSort]
    exact (List.dedup_sublist requested).length_le

theorem replaceProfileActivityIds_nodup {existing requested : List Nat}
    (hnodup : existing.Nodup) :
    (replaceProfileActivityIds existing requested).Nodup := by
  unfold replaceProfileActivityIds
  split
  · exact hnodup
  · exact (List.perm_insertionSort _ _).nodup_iff.mpr (List.nodup_dedup requested)

theorem readActivityIds_nodup {record : ProfileRecord}
    (h : record.activityIds.Nodup) : record.readActivityIds.Nodup :=
  (List.perm_insertionSort _ _).nodup_iff.mpr h

theorem replaceOwnInterests_withinLimits {version : Nat} {group : InterestGroup}
    (h : replaceOwnInterests context owner stored version group = .ok result)
    (hstored : ∀ old ∈ stored, WithinLimits context.zoneInfo old) :
    WithinLimits context.zoneInfo result := by
  simp only [replaceOwnInterests, except_bind_eq_ok_iff] at h
  obtain ⟨record, hrecord, _, _, prepared, hprepared, hresult⟩ := h
  have hlimits := getOrCreate_withinLimits hrecord hstored
  have hspec := prepareItems_spec hprepared
  have hcombined := group.combined_le
  split at hresult
  · rw [except_pure_eq_ok_iff] at hresult
    exact hresult ▸ hlimits
  · rw [except_pure_eq_ok_iff] at hresult
    subst result
    refine ⟨rowWithinLimits_bumpVersion hlimits.row, ?_⟩
    exact {
      interests := by
        simp only [ProfileRecord.bumpVersion, customRows_replaceCustomKind, if_true,
          customModels_length]
        omega
      languages := by simpa [ProfileRecord.bumpVersion] using hlimits.selections.languages
      activities := by
        simpa [ProfileRecord.bumpVersion] using hlimits.selections.activities
      activities_nodup := hlimits.selections.activities_nodup
      proficiency := by
        simpa [ProfileRecord.bumpVersion] using hlimits.selections.proficiency }

theorem customModels_proficiency {kind : PreferenceKind}
    {values : List PreparedCustomPreference}
    (hvalues : ∀ value ∈ values, value.proficiency.isSome) :
    ∀ custom ∈ customModels kind values, custom.proficiency.isSome := by
  intro custom hcustom
  simp only [customModels, List.mem_map] at hcustom
  obtain ⟨value, hvalue, rfl⟩ := hcustom
  exact hvalues value hvalue

theorem replaceOwnLanguages_withinLimits {version : Nat} {group : LanguageGroup}
    (h : replaceOwnLanguages context owner stored version group = .ok result)
    (hstored : ∀ old ∈ stored, WithinLimits context.zoneInfo old) :
    WithinLimits context.zoneInfo result := by
  simp only [replaceOwnLanguages, except_bind_eq_ok_iff] at h
  obtain ⟨record, hrecord, _, _, prepared, hprepared, hresult⟩ := h
  have hlimits := getOrCreate_withinLimits hrecord hstored
  obtain ⟨hselected, hcustoms, hproficiency⟩ := prepareLanguages_spec hprepared
  have hcombined := group.combined_le
  split at hresult
  · rw [except_pure_eq_ok_iff] at hresult
    exact hresult ▸ hlimits
  · rw [except_pure_eq_ok_iff] at hresult
    subst result
    refine ⟨rowWithinLimits_bumpVersion hlimits.row, ?_⟩
    exact {
      interests := by
        simpa [ProfileRecord.bumpVersion] using hlimits.selections.interests
      languages := by
        simp only [ProfileRecord.bumpVersion, customRows_replaceCustomKind, if_true,
          customModels_length]
        omega
      activities := by
        simpa [ProfileRecord.bumpVersion] using hlimits.selections.activities
      activities_nodup := hlimits.selections.activities_nodup
      proficiency := by
        simpa [ProfileRecord.bumpVersion] using
          customModels_proficiency hproficiency }

theorem replaceOwnActivities_withinLimits {version : Nat} {group : ActivityGroup}
    (h : replaceOwnActivities context owner stored version group = .ok result)
    (hstored : ∀ old ∈ stored, WithinLimits context.zoneInfo old) :
    WithinLimits context.zoneInfo result := by
  simp only [replaceOwnActivities, except_bind_eq_ok_iff] at h
  obtain ⟨record, hrecord, _, _, prepared, hprepared, hresult⟩ := h
  have hlimits := getOrCreate_withinLimits hrecord hstored
  have hspec := prepareItems_spec hprepared
  have hcombined := group.combined_le
  have hnodup := readActivityIds_nodup hlimits.selections.activities_nodup
  split at hresult
  · rw [except_pure_eq_ok_iff] at hresult
    exact hresult ▸ hlimits
  · rw [except_pure_eq_ok_iff] at hresult
    subst result
    refine ⟨rowWithinLimits_bumpVersion hlimits.row, ?_⟩
    exact {
      interests := by
        simpa [ProfileRecord.bumpVersion] using hlimits.selections.interests
      languages := by
        simpa [ProfileRecord.bumpVersion] using hlimits.selections.languages
      activities := by
        have hlength := replaceProfileActivityIds_length_le prepared.1 hnodup
        simp only [ProfileRecord.bumpVersion, customRows_replaceCustomKind, if_true,
          customModels_length]
        omega
      activities_nodup := replaceProfileActivityIds_nodup hnodup
      proficiency := by
        simpa [ProfileRecord.bumpVersion] using hlimits.selections.proficiency }

theorem replaceOwnPreferences_withinLimits {update : ProfilePreferenceUpdate}
    (h : replaceOwnPreferences context owner stored update = .ok result)
    (hstored : ∀ old ∈ stored, WithinLimits context.zoneInfo old) :
    WithinLimits context.zoneInfo result := by
  simp only [replaceOwnPreferences, except_bind_eq_ok_iff] at h
  obtain ⟨record, hrecord, _, _, interests, hinterests, languages, hlanguages,
    activities, hactivities, hresult⟩ := h
  have hlimits := getOrCreate_withinLimits hrecord hstored
  have hinterestSpec := prepareItems_spec hinterests
  obtain ⟨hlanguageIds, hlanguageCustoms, hproficiency⟩ :=
    prepareLanguages_spec hlanguages
  have hactivitySpec := prepareItems_spec hactivities
  have hinterestLimit := update.interests.combined_le
  have hlanguageLimit := update.languages.combined_le
  have hactivityLimit := update.activities.combined_le
  have hnodup := readActivityIds_nodup hlimits.selections.activities_nodup
  split at hresult
  · rw [except_pure_eq_ok_iff] at hresult
    exact hresult ▸ hlimits
  · rw [except_pure_eq_ok_iff] at hresult
    subst result
    refine ⟨rowWithinLimits_bumpVersion hlimits.row, ?_⟩
    exact {
      interests := by
        simp [ProfileRecord.bumpVersion]
        omega
      languages := by
        simp [ProfileRecord.bumpVersion]
        omega
      activities := by
        have hlength := replaceProfileActivityIds_length_le activities.1 hnodup
        simp [ProfileRecord.bumpVersion]
        omega
      activities_nodup := replaceProfileActivityIds_nodup hnodup
      proficiency := by
        simpa [ProfileRecord.bumpVersion] using
          customModels_proficiency hproficiency }

/-- The schema of an update bounds every text which it sets. -/
theorem apply_rowWithinLimits {zoneInfo : String → Bool} {update : ProfileUpdate zoneInfo}
    {profile : StudentProfile} (hrow : RowWithinLimits zoneInfo profile)
    (havailability : ∀ value ∈ (update.apply profile).availability,
      ∃ availability : WeeklyAvailability zoneInfo,
        validateAvailability zoneInfo value = .ok availability) :
    RowWithinLimits zoneInfo (update.apply profile) where
  displayName := by
    simp only [ProfileUpdate.apply]
    rcases update.displayName with _ | _ | value
    · exact hrow.displayName
    · simp
    · simpa using value.length_le 80 rfl
  fullName := by
    simp only [ProfileUpdate.apply]
    rcases update.fullName with _ | value
    · exact hrow.fullName
    · simpa using value.length_le 120 rfl
  bio := by
    simp only [ProfileUpdate.apply]
    rcases update.bio with _ | _ | value
    · exact hrow.bio
    · simp
    · simpa using value.length_le 500 rfl
  studyYear := by
    simp only [ProfileUpdate.apply]
    rcases update.studyYear with _ | _ | value
    · exact hrow.studyYear
    · simp
    · simpa using value.property
  availability := havailability

/-- The predefined activities which an update asks for fit beside the stored
custom ones. -/
def ProfileUpdate.ActivitiesFit {zoneInfo : String → Bool}
    (update : ProfileUpdate zoneInfo) (record : ProfileRecord) : Prop :=
  ∀ requested ∈ update.requestedActivityIds,
    requested.length + (customRows record.customs .activity).length ≤
      maxProfileActivitySelections

theorem requestedActivityIds_spec {zoneInfo : String → Bool}
    {update : ProfileUpdate zoneInfo} {requested : List Nat}
    (h : requested ∈ update.requestedActivityIds) :
    requested.Nodup ∧ requested.length ≤ 20 := by
  unfold ProfileUpdate.requestedActivityIds at h
  simp only [Option.mem_def, Option.map_eq_some_iff] at h
  obtain ⟨ids, _, rfl⟩ := h
  exact ids.property

/-- What a successful update does to the record it starts from. -/
theorem replaceOwnProfileFields_spec {update : ProfileUpdate context.zoneInfo}
    (h : replaceOwnProfileFields context owner stored update = .ok result) :
    ∃ record activityIds,
      getOrCreateOwnProfileForUpdate context owner stored = .ok record ∧
        requestedActivities context record update.requestedActivityIds =
          .ok activityIds ∧
        (∀ value ∈ (update.apply record.profile).availability,
          ∃ availability : WeeklyAvailability context.zoneInfo,
            validateAvailability context.zoneInfo value = .ok availability) ∧
        result = ProfileRecord.bumpVersion
          { record with profile := update.apply record.profile,
                        activityIds := activityIds } := by
  simp only [replaceOwnProfileFields, updateOwnProfile, except_bind_eq_ok_iff,
    except_pure_eq_ok_iff] at h
  obtain ⟨updated, ⟨_, _, record, hrecord, _, _, _, _, _, _, activityIds,
    hactivityIds, rfl⟩, hresponse⟩ := h
  refine ⟨record, activityIds, hrecord, hactivityIds, ?_, ?_⟩
  · intro value hvalue
    simp only [responseAvailability, ProfileRecord.bumpVersion] at hresponse
    rw [Option.mem_def] at hvalue
    rw [hvalue] at hresponse
    simp only at hresponse
    cases hvalid : validateAvailability context.zoneInfo value with
    | ok availability => exact ⟨availability, rfl⟩
    | error errors => simp [hvalid, Except.map] at hresponse
  · split at hresponse
    · simpa using hresponse.symm
    · simp at hresponse

theorem replaceOwnProfileFields_withinLimits
    {update : ProfileUpdate context.zoneInfo}
    (h : replaceOwnProfileFields context owner stored update = .ok result)
    (hstored : ∀ old ∈ stored, WithinLimits context.zoneInfo old)
    (hfit : ∀ old ∈ stored, update.ActivitiesFit old) :
    WithinLimits context.zoneInfo result := by
  obtain ⟨record, activityIds, hrecord, hactivityIds, havailability, rfl⟩ :=
    replaceOwnProfileFields_spec h
  have hlimits := getOrCreate_withinLimits hrecord hstored
  have hnodup := readActivityIds_nodup hlimits.selections.activities_nodup
  have hrecordFit : update.ActivitiesFit record := by
    simp only [getOrCreateOwnProfileForUpdate, except_bind_eq_ok_iff,
      except_pure_eq_ok_iff] at hrecord
    obtain ⟨_, _, rfl⟩ := hrecord
    cases stored with
    | none =>
        intro requested hrequested
        have hbound := (requestedActivityIds_spec hrequested).2
        simpa [ProfileRecord.draft, customRows, maxProfileActivitySelections] using hbound
    | some old => exact hfit old rfl
  refine ⟨rowWithinLimits_bumpVersion (apply_rowWithinLimits hlimits.row havailability),
    ?_⟩
  have hactivities :
      activityIds.length + (customRows record.customs .activity).length ≤
          maxProfileActivitySelections ∧ activityIds.Nodup := by
    cases hrequest : update.requestedActivityIds with
    | none =>
        simp only [hrequest, requestedActivities, Except.ok.injEq] at hactivityIds
        subst hactivityIds
        exact ⟨hlimits.selections.activities, hlimits.selections.activities_nodup⟩
    | some requested =>
        simp only [hrequest, requestedActivities, except_bind_eq_ok_iff,
          except_pure_eq_ok_iff] at hactivityIds
        obtain ⟨_, _, rfl⟩ := hactivityIds
        have hbound := hrecordFit requested hrequest
        have hlength := replaceProfileActivityIds_length_le requested hnodup
        exact ⟨by omega, replaceProfileActivityIds_nodup hnodup⟩
  exact {
    interests := hlimits.selections.interests
    languages := hlimits.selections.languages
    activities := hactivities.1
    activities_nodup := hactivities.2
    proficiency := hlimits.selections.proficiency }

end Writes

end BuddyWeb
