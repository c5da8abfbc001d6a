/-
Whatever loader, locale and row order a projected profile comes from, the scorer reads the
same signals from it.
-/
import BuddyWeb.Matching.CompatibilityReads
import BuddyWeb.Matching.EligibilityAgreement
import BuddyWeb.Matching.InvitationAcceptance

namespace BuddyWeb

section Identities

variable {context : ScoringContext} {catalog : Catalog} {record : ProfileRecord}

theorem customRows_orderCustoms (record : ProfileRecord)
    (column : ProfileCustomPreference → String) (kind : PreferenceKind) :
    (customRows (record.orderCustoms column).customs kind).Perm
      (customRows record.customs kind) :=
  (List.perm_insertionSort _ record.customs).filter _

/-- A catalog entry counts by its identifier in every locale. -/
theorem catalogPreferences_identities (locale : CatalogLocale) (items : List CatalogItem)
    (ids : List Nat) :
    (catalogPreferences locale items ids).filterMap (preferenceIdentity context) =
      (items.filter fun item => item.isSelectable && ids.contains item.id).map
        fun item => .catalog item.id := by
  rw [catalogPreferences, List.filterMap_map, ← List.filterMap_eq_map]
  rfl

theorem preferenceIdentities_append (catalogValues customValues : List SafeMatchingPreference) :
    preferenceIdentities context (catalogValues ++ customValues) =
      (catalogValues.filterMap (preferenceIdentity context)).toFinset ∪
        (customValues.filterMap (preferenceIdentity context)).toFinset := by
  rw [preferenceIdentities, List.filterMap_append, List.toFinset_append]

/-- Neither the locale nor the order of the custom rows changes what a selection counts
by. -/
theorem preferenceIdentities_eq (locale : CatalogLocale)
    (column : ProfileCustomPreference → String) (kind : PreferenceKind)
    (items : List CatalogItem) (ids : List Nat) :
    preferenceIdentities context (catalogPreferences locale items ids ++
        customPreferences (record.orderCustoms column) kind) =
      preferenceIdentities context (catalogPreferences .en items ids ++
        customPreferences record kind) := by
  have hcustoms : (customPreferences (record.orderCustoms column) kind).Perm
      (customPreferences record kind) :=
    (customRows_orderCustoms record column kind).map _
  rw [preferenceIdentities_append, preferenceIdentities_append,
    catalogPreferences_identities, catalogPreferences_identities,
    List.toFinset_eq_of_perm _ _ (hcustoms.filterMap _)]

theorem languageIdentities_append (catalogValues customValues : List SafeMatchingLanguage) :
    languageIdentities context (catalogValues ++ customValues) =
      (catalogValues.filterMap (languageIdentity context)).toFinset ∪
        (customValues.filterMap (languageIdentity context)).toFinset := by
  rw [languageIdentities, List.filterMap_append, List.toFinset_append]

theorem languageIdentities_eq (locale : CatalogLocale)
    (column : ProfileCustomPreference → String) :
    languageIdentities context (projectedLanguages catalog locale
        (record.orderCustoms column)) =
      languageIdentities context (projectedLanguages catalog .en record) := by
  have hcustoms := (customRows_orderCustoms record column .language).filterMap
    fun custom => custom.proficiency.map fun proficiency =>
      ({ code := none
         label := custom.displayLabel
         proficiency := proficiency
         isCustom := true } : SafeMatchingLanguage)
  unfold projectedLanguages
  rw [languageIdentities_append, languageIdentities_append,
    List.toFinset_eq_of_perm _ _ (hcustoms.filterMap (languageIdentity context))]
  congr 2
  rw [List.filterMap_filterMap, List.filterMap_filterMap]
  congr 1
  funext item
  simp only [Option.bind_map]
  rfl

end Identities

section Projections

theorem safeMatchingPreference_self {value accepted : SafeMatchingPreference}
    (h : safeMatchingPreference value = .ok accepted) : accepted = value := by
  unfold safeMatchingPreference at h
  split at h
  · cases h
  · split at h
    · exact (Except.ok.inj h).symm
    · cases h

theorem safeMatchingLanguage_self {value accepted : SafeMatchingLanguage}
    (h : safeMatchingLanguage value = .ok accepted) : accepted = value := by
  unfold safeMatchingLanguage at h
  split at h
  · cases h
  · split at h
    · exact (Except.ok.inj h).symm
    · cases h

variable {zoneInfo : String → Bool} {catalog : Catalog} {locale : CatalogLocale}
  {record : ProfileRecord}

/-- The shown preferences are the projected ones. -/
theorem projectPreferences_spec {shown : SafePreferences zoneInfo}
    (h : projectPreferences zoneInfo catalog locale record = .ok shown) :
    shown.interests = projectedInterests catalog locale record ∧
      shown.languages = projectedLanguages catalog locale record ∧
      shown.activities = projectedActivities catalog locale record ∧
      responseAvailability zoneInfo record.profile = .ok shown.availability := by
  simp only [projectPreferences, except_bind_eq_ok_iff, except_pure_eq_ok_iff] at h
  obtain ⟨interests, hinterests, languages, hlanguages, activities, hactivities, availability,
    havailability, rfl⟩ := h
  exact ⟨mapM_eq_self (fun _ _ => safeMatchingPreference_self) hinterests,
    mapM_eq_self (fun _ _ => safeMatchingLanguage_self) hlanguages,
    mapM_eq_self (fun _ _ => safeMatchingPreference_self) hactivities, havailability⟩

end Projections

/-- A projected profile carries the signals of a stored one. -/
structure ScoredFrom (context : ScoringContext) (catalog : Catalog) (record : ProfileRecord)
    (profile : SafeMatchingProfile context.zoneInfo) : Prop where
  id : profile.id = record.profile.id
  studentType : record.profile.studentType = some profile.studentType
  major : profile.major = record.profile.major
  interests : preferenceIdentities context profile.preferences.interests =
    preferenceIdentities context (projectedInterests catalog .en record)
  activities : preferenceIdentities context profile.preferences.activities =
    preferenceIdentities context (projectedActivities catalog .en record)
  languages : languageIdentities context profile.preferences.languages =
    languageIdentities context (projectedLanguages catalog .en record)
  availability : responseAvailability context.zoneInfo record.profile =
    .ok profile.preferences.availability

section Loaders

variable {context : ScoringContext} {catalog : Catalog} {record : ProfileRecord}

/-- Two projections of one stored profile score alike. -/
theorem ScoredFrom.alike {first second : SafeMatchingProfile context.zoneInfo}
    (hfirst : ScoredFrom context catalog record first)
    (hsecond : ScoredFrom context catalog record second) : ScoresAlike first second where
  interests := hfirst.interests.trans hsecond.interests.symm
  activities := hfirst.activities.trans hsecond.activities.symm
  languages := hfirst.languages.trans hsecond.languages.symm
  availability := Except.ok.inj (hfirst.availability.symm.trans hsecond.availability)
  major := hfirst.major.trans hsecond.major.symm

/-- The signals of a profile with the preferences which a projection shows. -/
theorem scoredFrom_of_preferences {locale : CatalogLocale}
    {column : ProfileCustomPreference → String} {shown : SafePreferences context.zoneInfo}
    (hshown : projectPreferences context.zoneInfo catalog locale
      (record.orderCustoms column) = .ok shown)
    {profile : SafeMatchingProfile context.zoneInfo} (hid : profile.id = record.profile.id)
    (htype : record.profile.studentType = some profile.studentType)
    (hmajor : profile.major = record.profile.major) (hpreferences : profile.preferences = shown) :
    ScoredFrom context catalog record profile := by
  obtain ⟨hinterests, hlanguages, hactivities, havailability⟩ := projectPreferences_spec hshown
  subst hpreferences
  refine ⟨hid, htype, hmajor, ?_, ?_, ?_, havailability⟩
  · rw [hinterests]
    exact preferenceIdentities_eq _ _ _ _ _
  · rw [hactivities]
    exact preferenceIdentities_eq _ _ _ _ _
  · rw [hlanguages]
    exact languageIdentities_eq _ _

theorem scoredFrom_of_projectSafeProfile {locale : CatalogLocale}
    {column : ProfileCustomPreference → String} {avatar : SafeMatchingAvatar}
    {profile : SafeMatchingProfile context.zoneInfo}
    (h : projectSafeProfile context.zoneInfo catalog locale (record.orderCustoms column)
      avatar = .ok (some profile)) : ScoredFrom context catalog record profile := by
  unfold projectSafeProfile at h
  split at h
  · simp at h
  · rename_i studentType htype
    simp only [except_bind_eq_ok_iff, except_functor_map_eq_ok_iff, acceptWithout_eq_ok_iff,
      Option.some_inj] at h
    obtain ⟨shown, hshown, _, ⟨_, rfl⟩, rfl⟩ := h
    exact scoredFrom_of_preferences hshown rfl htype rfl rfl

/-- A participant's profile has the signals of the stored one once it can be scored. -/
theorem scoredFrom_of_asScoringFields {locale : CatalogLocale}
    {column : ProfileCustomPreference → String} {avatar : Option SafeMatchingAvatar}
    {shown : SafeInvitationProfile context.zoneInfo}
    (hshown : loadSafeParticipantProfile context.zoneInfo catalog locale
      (record.orderCustoms column) avatar = .ok shown)
    {profile : SafeMatchingProfile context.zoneInfo}
    (hprofile : asScoringFields shown = some profile) :
    ScoredFrom context catalog record profile := by
  simp only [loadSafeParticipantProfile, except_bind_eq_ok_iff, acceptWithout_eq_ok_iff] at hshown
  obtain ⟨preferences, hpreferences, _, rfl⟩ := hshown
  simp only [asScoringFields, Option.bind_eq_bind, Option.bind_eq_some_iff, guard,
    Option.pure_def, Option.some_inj] at hprofile
  obtain ⟨studentType, htype, _, _, _, _, rfl⟩ := hprofile
  exact scoredFrom_of_preferences hpreferences rfl htype rfl rfl

end Loaders

end BuddyWeb
