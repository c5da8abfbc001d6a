/-
Which stored profiles can be projected, and the runs of own-profile writes after
which every stored profile can.
-/
import Mathlib.Logic.Function.Basic
import BuddyWeb.Lib.Run
import BuddyWeb.Profile.Limits

namespace BuddyWeb

/-- Rebuilding the availability and building both projections of a stored profile
never fails, and its selections keep their joint limits.  The matching projection
is only built for rows which the candidate query selects. -/
structure Projectable (zoneInfo : String → Bool) (record : ProfileRecord) : Prop where
  availability : ∀ value ∈ record.profile.availability,
    ∃ availability : WeeklyAvailability zoneInfo,
      validateAvailability zoneInfo value = .ok availability
  matching : ∀ (catalog : Catalog) (locale : CatalogLocale) (avatar : SafeMatchingAvatar),
    1 ≤ interestCount catalog record → 1 ≤ languageCount catalog record →
      ∃ projected, projectSafeProfile zoneInfo catalog locale record avatar = .ok projected
  invitation : ∀ (catalog : Catalog) (locale : CatalogLocale)
      (avatar : Option SafeMatchingAvatar),
    ∃ projected,
      loadSafeParticipantProfile zoneInfo catalog locale record avatar = .ok projected
  interests : record.interestIds.length + (customRows record.customs .interest).length ≤ 20
  languages : record.languages.length + (customRows record.customs .language).length ≤ 10
  activities : record.activityIds.length + (customRows record.customs .activity).length ≤ 20

section Labels

theorem checkLabel_eq_nil {label : String} (hnonempty : label ≠ "")
    (hlength : label.length ≤ 120) : checkLabel label = [] := by
  have hpos : ¬ label.length < 1 := by
    intro hlt
    exact hnonempty (String.length_eq_zero_iff.mp (by omega))
  have hle : ¬ 120 < label.length := by omega
  simp [checkLabel, hpos, hle]

theorem safeMatchingPreference_catalog (locale : CatalogLocale) (item : CatalogItem) :
    safeMatchingPreference
        { id := some item.id
          code := some item.code
          label := (localizedLabel item.labelEn item.labelDe locale).text
          isCustom := false } =
      .ok
        { id := some item.id
          code := some item.code
          label := (localizedLabel item.labelEn item.labelDe locale).text
          isCustom := false } := by
  simp [safeMatchingPreference, checkLabel_eq_nil
    (localizedLabel item.labelEn item.labelDe locale).nonempty
    (localizedLabel item.labelEn item.labelDe locale).length_le]

theorem safeMatchingPreference_custom (custom : ProfileCustomPreference) :
    safeMatchingPreference
        { id := none, code := none, label := custom.displayLabel, isCustom := true } =
      .ok { id := none, code := none, label := custom.displayLabel, isCustom := true } := by
  simp [safeMatchingPreference,
    checkLabel_eq_nil custom.displayLabel_nonempty custom.displayLabel_le]

end Labels

section Counts

/-- Distinct keys which all occur in a list are at most as many as its entries. -/
theorem length_le_of_keys {α β : Type} {items : List α} {key : α → β} {stored : List β}
    (hnodup : (items.map key).Nodup) (hstored : ∀ item ∈ items, key item ∈ stored) :
    items.length ≤ stored.length := by
  have hsubset : items.map key ⊆ stored := by
    intro value hvalue
    obtain ⟨item, hitem, rfl⟩ := List.mem_map.mp hvalue
    exact hstored item hitem
  simpa using (List.subperm_of_subset hnodup hsubset).length_le

variable (catalog : Catalog) (locale : CatalogLocale) (record : ProfileRecord)

theorem catalogPreferences_length_le {items : List CatalogItem} {ids : List Nat}
    (hnodup : (items.map (·.id)).Nodup) :
    (catalogPreferences locale items ids).length ≤ ids.length := by
  rw [catalogPreferences, List.length_map]
  apply length_le_of_keys (hnodup.sublist ((List.filter_sublist).map _))
  intro item hitem
  have hcontains := (List.mem_filter.mp hitem).2
  simp only [Bool.and_eq_true, List.contains_iff_mem] at hcontains
  exact hcontains.2

theorem projectedInterests_length :
    (projectedInterests catalog locale record).length = interestCount catalog record := by
  simp [projectedInterests, interestCount, catalogPreferences, customPreferences]

theorem interestCount_le :
    interestCount catalog record ≤
      record.interestIds.length + (customRows record.customs .interest).length := by
  have hle : (catalogPreferences .en catalog.interests record.interestIds).length ≤ _ :=
    catalogPreferences_length_le .en catalog.interests_nodup
  rw [catalogPreferences, List.length_map] at hle
  unfold interestCount
  omega

theorem projectedActivities_length_le :
    (projectedActivities catalog locale record).length ≤
      record.activityIds.length + (customRows record.customs .activity).length := by
  have hle : (catalogPreferences locale catalog.activities record.activityIds).length ≤ _ :=
    catalogPreferences_length_le locale catalog.activities_nodup
  simp only [projectedActivities, List.length_append, customPreferences, List.length_map]
  omega

/-- A stored language is shown when the catalog has it, a custom one always. -/
theorem projectedLanguages_length
    (hproficiency : ∀ custom ∈ customRows record.customs .language,
      custom.proficiency.isSome) :
    (projectedLanguages catalog locale record).length = languageCount catalog record := by
  have hcustom : (customRows record.customs .language).countP
      (fun custom => custom.proficiency.isSome) =
        (customRows record.customs .language).length :=
    List.countP_eq_length.mpr hproficiency
  simp only [projectedLanguages, languageCount, List.length_append,
    List.length_filterMap_eq_countP, Option.isSome_map, hcustom, List.countP_filter]
  congr 1
  rw [List.countP_eq_length_filter]
  congr 1
  apply List.filter_congr
  intro item _
  rw [Bool.eq_iff_iff]
  simp [List.find?_isSome, and_comm]

theorem languageCount_le :
    languageCount catalog record ≤
      record.languages.length + (customRows record.customs .language).length := by
  have hle : (catalog.languages.filter fun item =>
      item.isActive && record.languages.any fun selection =>
        selection.languageCode = item.code).length ≤
      (record.languages.map (·.languageCode)).length := by
    apply length_le_of_keys
      (catalog.languages_nodup.sublist ((List.filter_sublist).map _))
    intro item hitem
    have hany := (List.mem_filter.mp hitem).2
    simp only [Bool.and_eq_true, List.any_eq_true, decide_eq_true_eq] at hany
    obtain ⟨_, selection, hselection, hcode⟩ := hany
    exact List.mem_map.mpr ⟨selection, hselection, hcode⟩
  rw [List.length_map] at hle
  unfold languageCount
  omega

end Counts

section Projections

variable {zoneInfo : String → Bool} {record : ProfileRecord}

theorem mem_projectedPreferences_ok {locale : CatalogLocale} {items : List CatalogItem}
    {ids : List Nat} {kind : PreferenceKind} {value : SafeMatchingPreference}
    (hvalue : value ∈ catalogPreferences locale items ids ++
      customPreferences record kind) :
    ∃ accepted, safeMatchingPreference value = .ok accepted := by
  rcases List.mem_append.mp hvalue with hcatalog | hcustom
  · obtain ⟨item, _, rfl⟩ := List.mem_map.mp hcatalog
    exact ⟨_, safeMatchingPreference_catalog locale item⟩
  · obtain ⟨custom, _, rfl⟩ := List.mem_map.mp hcustom
    exact ⟨_, safeMatchingPreference_custom custom⟩

theorem mem_projectedLanguages_ok {catalog : Catalog} {locale : CatalogLocale}
    {value : SafeMatchingLanguage}
    (hvalue : value ∈ projectedLanguages catalog locale record) :
    ∃ accepted, safeMatchingLanguage value = .ok accepted := by
  rcases List.mem_append.mp hvalue with hcatalog | hcustom
  · obtain ⟨item, _, hitem⟩ := List.mem_filterMap.mp hcatalog
    obtain ⟨selection, _, rfl⟩ := Option.map_eq_some_iff.mp hitem
    refine ⟨{
      code := some item.code
      label := (localizedLabel item.labelEn item.labelDe locale).text
      proficiency := selection.proficiency
      isCustom := false }, ?_⟩
    simp [safeMatchingLanguage, checkLabel_eq_nil
      (localizedLabel item.labelEn item.labelDe locale).nonempty
      (localizedLabel item.labelEn item.labelDe locale).length_le]
  · obtain ⟨custom, _, hcustom⟩ := List.mem_filterMap.mp hcustom
    obtain ⟨proficiency, _, rfl⟩ := Option.map_eq_some_iff.mp hcustom
    refine ⟨{
      code := none
      label := custom.displayLabel
      proficiency := proficiency
      isCustom := true }, ?_⟩
    simp [safeMatchingLanguage,
      checkLabel_eq_nil custom.displayLabel_nonempty custom.displayLabel_le]

/-- The shown preferences of a row within its limits are built, one for each row
which the projection queries return. -/
theorem projectPreferences_ok (hlimits : WithinLimits zoneInfo record)
    (catalog : Catalog) (locale : CatalogLocale) :
    ∃ shown, projectPreferences zoneInfo catalog locale record = .ok shown ∧
      shown.interests.length = interestCount catalog record ∧
      shown.languages.length = languageCount catalog record ∧
      shown.activities.length ≤ maxProfileActivitySelections := by
  obtain ⟨interests, hinterests, hinterestLength⟩ := exists_mapM_ok fun value
    (hvalue : value ∈ projectedInterests catalog locale record) =>
      mem_projectedPreferences_ok hvalue
  obtain ⟨languages, hlanguages, hlanguageLength⟩ := exists_mapM_ok fun value
    (hvalue : value ∈ projectedLanguages catalog locale record) =>
      mem_projectedLanguages_ok hvalue
  obtain ⟨activities, hactivities, hactivityLength⟩ := exists_mapM_ok fun value
    (hvalue : value ∈ projectedActivities catalog locale record) =>
      mem_projectedPreferences_ok hvalue
  have havailability : ∃ availability,
      responseAvailability zoneInfo record.profile = .ok availability := by
    unfold responseAvailability
    cases hvalue : record.profile.availability with
    | none => exact ⟨none, rfl⟩
    | some value =>
        obtain ⟨availability, hvalid⟩ := hlimits.row.availability value hvalue
        exact ⟨some availability, by simp [hvalid, Except.map]⟩
  obtain ⟨availability, havailability⟩ := havailability
  refine ⟨⟨interests, languages, activities, availability⟩, ?_, ?_, ?_, ?_⟩
  · simp [projectPreferences, hinterests, hlanguages, hactivities, havailability,
      bind, Except.bind, pure, Except.pure]
  · rw [hinterestLength, projectedInterests_length]
  · rw [hlanguageLength,
      projectedLanguages_length catalog locale record hlimits.selections.proficiency]
  · have hstored := hlimits.selections.activities
    have hshown := projectedActivities_length_le catalog locale record
    simp only
    omega

theorem checkMaxText_eq_nil {name : String} {maximum : Nat} {value : Option String}
    (h : ∀ text ∈ value, text.length ≤ maximum) : checkMaxText name maximum value = [] := by
  cases value with
  | none => rfl
  | some text =>
      have hle := h text rfl
      simp [checkMaxText]
      omega

theorem checkListLength_eq_nil {α : Type} {name : String} {minimum maximum : Nat}
    {entries : List α} (hmin : minimum ≤ entries.length)
    (hmax : entries.length ≤ maximum) :
    checkListLength name minimum maximum entries = [] := by
  have hlow : ¬ entries.length < minimum := by omega
  have hhigh : ¬ maximum < entries.length := by omega
  simp [checkListLength, hlow, hhigh]

/-- A profile within its limits can be projected. -/
theorem projectable_of_withinLimits (hlimits : WithinLimits zoneInfo record) :
    Projectable zoneInfo record where
  availability := hlimits.row.availability
  interests := hlimits.selections.interests
  languages := hlimits.selections.languages
  activities := hlimits.selections.activities
  matching := by
    intro catalog locale avatar hinterests hlanguages
    obtain ⟨shown, hshown, hinterestLength, hlanguageLength, hactivityLength⟩ :=
      projectPreferences_ok hlimits catalog locale
    have hinterestMax := (interestCount_le catalog record).trans
      hlimits.selections.interests
    have hlanguageMax := (languageCount_le catalog record).trans
      hlimits.selections.languages
    cases htype : record.profile.studentType with
    | none => exact ⟨none, by simp [projectSafeProfile, htype]⟩
    | some studentType =>
        refine ⟨some (candidateFields record.profile studentType avatar shown), ?_⟩
        simp only [projectSafeProfile, htype, hshown, except_bind_eq_ok_iff,
          except_functor_map_eq_ok_iff, acceptWithout_eq_ok_iff, Except.ok.injEq,
          exists_eq_left']
        refine ⟨_, ⟨?_, rfl⟩, rfl⟩
        rw [← hinterestLength] at hinterests hinterestMax
        rw [← hlanguageLength] at hlanguages hlanguageMax
        simp only [safeMatchingProfileErrors, List.append_eq_nil_iff]
        refine ⟨⟨⟨⟨⟨⟨checkMaxText_eq_nil hlimits.row.displayName,
          checkMaxText_eq_nil hlimits.row.fullName⟩,
          checkMaxText_eq_nil hlimits.row.bio⟩, ?_⟩,
          checkListLength_eq_nil hinterests hinterestMax⟩,
          checkListLength_eq_nil hlanguages hlanguageMax⟩,
          checkListLength_eq_nil (Nat.zero_le _) hactivityLength⟩
        cases hvalue : record.profile.studyYear with
        | none => simp only [candidateFields, hvalue]
        | some year =>
            simp only [candidateFields, hvalue]
            exact checkBounds_eq_nil_iff.mpr (hlimits.row.studyYear year hvalue)
  invitation := by
    intro catalog locale avatar
    obtain ⟨shown, hshown, hinterestLength, hlanguageLength, hactivityLength⟩ :=
      projectPreferences_ok hlimits catalog locale
    have hinterestMax := (interestCount_le catalog record).trans
      hlimits.selections.interests
    have hlanguageMax := (languageCount_le catalog record).trans
      hlimits.selections.languages
    refine ⟨participantFields record.profile avatar shown, ?_⟩
    simp only [loadSafeParticipantProfile, hshown, except_bind_eq_ok_iff,
      acceptWithout_eq_ok_iff, Except.ok.injEq, exists_eq_left', and_true]
    rw [← hinterestLength] at hinterestMax
    rw [← hlanguageLength] at hlanguageMax
    simp only [safeInvitationProfileErrors, List.append_eq_nil_iff]
    exact ⟨⟨⟨checkMaxText_eq_nil hlimits.row.displayName,
      checkListLength_eq_nil (Nat.zero_le _) hinterestMax⟩,
      checkListLength_eq_nil (Nat.zero_le _) hlanguageMax⟩,
      checkListLength_eq_nil (Nat.zero_le _) hactivityLength⟩

end Projections

end BuddyWeb
