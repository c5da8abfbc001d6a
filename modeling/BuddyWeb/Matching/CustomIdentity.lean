/-
The identity of stored profiles under every write: trimmed names, and custom preferences
whose keys are distinct and not those of the catalog.
-/
import BuddyWeb.Matching.Completion
import BuddyWeb.Profile.WriteRuns

namespace BuddyWeb

/-- The custom keys are distinct, and none of them is a key of a catalog entry. -/
def KeysApart (unicode : UnicodeData) (labels : List (CatalogLabel × CatalogLabel))
    (customs : List ProfileCustomPreference) : Prop :=
  ∃ keys, labelKeys unicode labels = .ok keys ∧ (customs.map (·.normalizedKey)).Nodup ∧
    ∀ custom ∈ customs, custom.normalizedKey ∉ keys

def interestLabels (catalog : Catalog) : List (CatalogLabel × CatalogLabel) :=
  (listActiveInterests catalog).map fun item => (item.labelEn, item.labelDe)

def languageLabels (catalog : Catalog) : List (CatalogLabel × CatalogLabel) :=
  (listActiveLanguages catalog).map fun item => (item.labelEn, item.labelDe)

/-- What the writes of one deployment, with one catalog, leave in a record. -/
structure IdentityAgrees (unicode : UnicodeData) (catalog : Catalog)
    (record : ProfileRecord) : Prop where
  fullName : ∀ text ∈ record.profile.fullName,
    pyStrip text = text ∧ text ≠ "" ∧ text.length ≤ 120
  interests : (record.interestIds = [] ∧ customRows record.customs .interest = []) ∨
    KeysApart unicode (interestLabels catalog) (customRows record.customs .interest)
  languages : (record.languages = [] ∧ customRows record.customs .language = []) ∨
    KeysApart unicode (languageLabels catalog) (customRows record.customs .language)

theorem identityAgrees_draft (unicode : UnicodeData) (catalog : Catalog) (id userId : Nat) :
    IdentityAgrees unicode catalog (.draft id userId) where
  fullName := by simp [ProfileRecord.draft, StudentProfile.draft]
  interests := .inl ⟨rfl, rfl⟩
  languages := .inl ⟨rfl, rfl⟩

section Keys

variable {unicode : UnicodeData} {labels : List (CatalogLabel × CatalogLabel)}
  {keys : List String}

/-- The keys which a replacement compares with are those of all labels. -/
theorem labelKeys_of_catalogIdentityKeys
    (h : catalogIdentityKeys unicode labels = .ok keys) :
    labelKeys unicode labels = .ok keys := by
  induction labels generalizing keys with
  | nil => simpa [catalogIdentityKeys, labelKeys] using h
  | cons head rest ih =>
      rcases head with ⟨labelEn, labelDe⟩
      simp only [catalogIdentityKeys] at h
      split at h
      · rename_i keyEn keyDe restKeys hkeyEn hkeyDe hrest
        simp only [labelKeys, hkeyEn, hkeyDe, ih hrest, except_bind_eq_ok_iff,
          Except.ok.injEq, exists_eq_left']
        simpa using h
      · exact absurd h (by simp)
      · exact absurd h (by simp)

/-- Each label of a catalog with keys has its keys among them. -/
theorem exists_keys_of_mem (h : labelKeys unicode labels = .ok keys)
    {label : CatalogLabel × CatalogLabel} (hlabel : label ∈ labels) :
    ∃ keyEn ∈ keys, ∃ keyDe ∈ keys,
      normalizePreferenceKey unicode label.1.text = .ok keyEn ∧
        normalizePreferenceKey unicode label.2.text = .ok keyDe := by
  induction labels generalizing keys with
  | nil => exact absurd hlabel List.not_mem_nil
  | cons head rest ih =>
      simp only [labelKeys, except_bind_eq_ok_iff, except_pure_eq_ok_iff] at h
      obtain ⟨keyEn, hkeyEn, keyDe, hkeyDe, restKeys, hrest, rfl⟩ := h
      rcases List.mem_cons.mp hlabel with rfl | hlabel
      · exact ⟨keyEn, by simp, keyDe, by simp, hkeyEn, hkeyDe⟩
      · obtain ⟨foundEn, hfoundEn, foundDe, hfoundDe, hboth⟩ := ih hrest hlabel
        exact ⟨foundEn, by simp [hfoundEn], foundDe, by simp [hfoundDe], hboth⟩

/-- Some of the labels have some of the keys. -/
theorem labelKeys_of_subset {selected : List (CatalogLabel × CatalogLabel)}
    (h : labelKeys unicode labels = .ok keys) (hselected : selected ⊆ labels) :
    ∃ selectedKeys, labelKeys unicode selected = .ok selectedKeys ∧
      selectedKeys ⊆ keys := by
  induction selected with
  | nil => exact ⟨[], rfl, List.nil_subset _⟩
  | cons head rest ih =>
      obtain ⟨hhead, hrest⟩ := List.cons_subset.mp hselected
      obtain ⟨restKeys, hrestKeys, hsubset⟩ := ih hrest
      obtain ⟨keyEn, hkeyEn, keyDe, hkeyDe, hen, hde⟩ := exists_keys_of_mem h hhead
      refine ⟨keyEn :: keyDe :: restKeys, ?_, ?_⟩
      · simp only [labelKeys, hen, hde, hrestKeys]
        rfl
      · exact List.cons_subset.mpr ⟨hkeyEn, List.cons_subset.mpr ⟨hkeyDe, hsubset⟩⟩

/-- With keys apart from the catalog every custom preference counts, once. -/
theorem countValidSelections_of_keysApart {selected : List (CatalogLabel × CatalogLabel)}
    {customs : List ProfileCustomPreference} (hselected : selected ⊆ labels)
    (hapart : KeysApart unicode labels customs) :
    countValidSelections unicode selected customs =
      .ok (selected.length + customs.length) := by
  obtain ⟨keys, hkeys, hnodup, hfresh⟩ := hapart
  obtain ⟨selectedKeys, hselectedKeys, hsubset⟩ := labelKeys_of_subset hkeys hselected
  have hall : (customs.map (·.normalizedKey)).filter (· ∉ selectedKeys) =
      customs.map (·.normalizedKey) := by
    rw [List.filter_eq_self]
    intro key hkey
    obtain ⟨custom, hcustom, rfl⟩ := List.mem_map.mp hkey
    simpa using fun hmem => hfresh custom hcustom (hsubset hmem)
  rw [countValidSelections, hselectedKeys, hnodup.dedup]
  simp only [bind, Except.bind, hall, List.length_map]
  rfl

end Keys

section Prepared

variable {unicode : UnicodeData}

/-- Prepared custom values have distinct keys outside the catalog and outside those seen. -/
theorem normalizeCustomLoop_keys {catalogKeys seen : List String}
    {values : List (String × Option LanguageProficiency)}
    {prepared : List PreparedCustomPreference}
    (h : normalizeCustomLoop unicode catalogKeys seen values = .ok prepared) :
    (prepared.map (·.normalizedKey)).Nodup ∧
      ∀ value ∈ prepared, value.normalizedKey ∉ catalogKeys ∧ value.normalizedKey ∉ seen := by
  induction values generalizing seen prepared with
  | nil =>
      simp only [normalizeCustomLoop, Except.ok.injEq] at h
      simp [← h]
  | cons head rest ih =>
      rcases head with ⟨label, proficiency⟩
      simp only [normalizeCustomLoop] at h
      split at h
      · exact absurd h (by simp)
      · rename_i identity _
        split at h
        · exact absurd h (by simp)
        · rename_i hnew
          rw [not_or] at hnew
          obtain ⟨tail, htail, rfl⟩ := except_map_eq_ok_iff.mp h
          obtain ⟨hnodup, hkeys⟩ := ih htail
          constructor
          · refine List.nodup_cons.mpr ⟨fun hmem => ?_, hnodup⟩
            obtain ⟨value, hvalue, hkey⟩ := List.mem_map.mp hmem
            exact (hkeys value hvalue).2 (by simp [hkey])
          · intro value hvalue
            rcases List.mem_cons.mp hvalue with rfl | hvalue
            · exact hnew
            · exact ⟨(hkeys value hvalue).1,
                fun hseen => (hkeys value hvalue).2 (List.mem_cons_of_mem _ hseen)⟩

theorem normalizeCustom_keys {values : List (String × Option LanguageProficiency)}
    {catalogKeys : List String} {prepared : List PreparedCustomPreference}
    (h : normalizeCustom unicode values catalogKeys = .ok prepared) :
    (prepared.map (·.normalizedKey)).Nodup ∧
      ∀ value ∈ prepared, value.normalizedKey ∉ catalogKeys := by
  obtain ⟨unsorted, hunsorted, rfl⟩ := except_map_eq_ok_iff.mp h
  obtain ⟨hnodup, hkeys⟩ := normalizeCustomLoop_keys hunsorted
  constructor
  · have hperm := List.perm_insertionSort
      (fun first second : PreparedCustomPreference =>
        first.normalizedKey ≤ second.normalizedKey) unsorted
    exact (hperm.map (·.normalizedKey)).nodup_iff.mpr hnodup
  · intro value hvalue
    rw [List.mem_insertionSort] at hvalue
    exact (hkeys value hvalue).1

/-- The rows of prepared values have their keys apart from the catalog. -/
theorem keysApart_customModels {labels : List (CatalogLabel × CatalogLabel)}
    {keys : List String} {values : List (String × Option LanguageProficiency)}
    {prepared : List PreparedCustomPreference} (kind : PreferenceKind)
    (hkeys : catalogIdentityKeys unicode labels = .ok keys)
    (hprepared : normalizeCustom unicode values keys = .ok prepared) :
    KeysApart unicode labels (customModels kind prepared) := by
  obtain ⟨hnodup, hfresh⟩ := normalizeCustom_keys hprepared
  refine ⟨keys, labelKeys_of_catalogIdentityKeys hkeys, ?_, ?_⟩
  · have hmodels : (customModels kind prepared).map (·.normalizedKey) =
        prepared.map (·.normalizedKey) := by
      rw [customModels, List.map_map]
      rfl
    rw [hmodels]
    exact hnodup
  · intro custom hcustom
    obtain ⟨value, hvalue, rfl⟩ := List.mem_map.mp hcustom
    exact hfresh value hvalue

variable {context : ProfileContext}

theorem prepareInterests_keysApart {group : InterestGroup}
    {result : List Nat × List PreparedCustomPreference}
    (h : prepareInterests context group = .ok result) (kind : PreferenceKind) :
    KeysApart context.unicode (interestLabels context.catalog)
      (customModels kind result.2) := by
  simp only [prepareInterests, prepareItems, except_bind_eq_ok_iff,
    except_pure_eq_ok_iff] at h
  obtain ⟨_, _, keys, hkeys, prepared, hprepared, rfl⟩ := h
  exact keysApart_customModels kind hkeys hprepared

theorem prepareLanguages_keysApart {group : LanguageGroup}
    {result : List ProfileLanguageSelection × List PreparedCustomPreference}
    (h : prepareLanguages context group = .ok result) (kind : PreferenceKind) :
    KeysApart context.unicode (languageLabels context.catalog)
      (customModels kind result.2) := by
  simp only [prepareLanguages, except_bind_eq_ok_iff, except_pure_eq_ok_iff] at h
  obtain ⟨_, _, keys, hkeys, prepared, hprepared, rfl⟩ := h
  exact keysApart_customModels kind hkeys hprepared

end Prepared

section Writes

variable {context : ProfileContext} {owner : User} {stored : Option ProfileRecord}
  {result : ProfileRecord}

theorem getOrCreate_identityAgrees {record : ProfileRecord}
    (h : getOrCreateOwnProfileForUpdate context owner stored = .ok record)
    (hstored : ∀ old ∈ stored, IdentityAgrees context.unicode context.catalog old) :
    IdentityAgrees context.unicode context.catalog record := by
  simp only [getOrCreateOwnProfileForUpdate, except_bind_eq_ok_iff,
    except_pure_eq_ok_iff] at h
  obtain ⟨_, _, rfl⟩ := h
  cases stored with
  | none => exact identityAgrees_draft _ _ _ _
  | some old => exact hstored old rfl

theorem replaceOwnInterests_identityAgrees {version : Nat} {group : InterestGroup}
    (h : replaceOwnInterests context owner stored version group = .ok result)
    (hstored : ∀ old ∈ stored, IdentityAgrees context.unicode context.catalog old) :
    IdentityAgrees context.unicode context.catalog result := by
  simp only [replaceOwnInterests, except_bind_eq_ok_iff] at h
  obtain ⟨record, hrecord, _, _, prepared, hprepared, hresult⟩ := h
  have hagrees := getOrCreate_identityAgrees hrecord hstored
  have hapart := prepareInterests_keysApart hprepared .interest
  split at hresult
  · rw [except_pure_eq_ok_iff] at hresult
    exact hresult ▸ hagrees
  · rw [except_pure_eq_ok_iff] at hresult
    subst result
    exact {
      fullName := hagrees.fullName
      interests := .inr (by simpa [ProfileRecord.bumpVersion] using hapart)
      languages := by simpa [ProfileRecord.bumpVersion] using hagrees.languages }

theorem replaceOwnLanguages_identityAgrees {version : Nat} {group : LanguageGroup}
    (h : replaceOwnLanguages context owner stored version group = .ok result)
    (hstored : ∀ old ∈ stored, IdentityAgrees context.unicode context.catalog old) :
    IdentityAgrees context.unicode context.catalog result := by
  simp only [replaceOwnLanguages, except_bind_eq_ok_iff] at h
  obtain ⟨record, hrecord, _, _, prepared, hprepared, hresult⟩ := h
  have hagrees := getOrCreate_identityAgrees hrecord hstored
  have hapart := prepareLanguages_keysApart hprepared .language
  split at hresult
  · rw [except_pure_eq_ok_iff] at hresult
    exact hresult ▸ hagrees
  · rw [except_pure_eq_ok_iff] at hresult
    subst result
    exact {
      fullName := hagrees.fullName
      interests := by simpa [ProfileRecord.bumpVersion] using hagrees.interests
      languages := .inr (by simpa [ProfileRecord.bumpVersion] using hapart) }

theorem replaceOwnActivities_identityAgrees {version : Nat} {group : ActivityGroup}
    (h : replaceOwnActivities context owner stored version group = .ok result)
    (hstored : ∀ old ∈ stored, IdentityAgrees context.unicode context.catalog old) :
    IdentityAgrees context.unicode context.catalog result := by
  simp only [replaceOwnActivities, except_bind_eq_ok_iff] at h
  obtain ⟨record, hrecord, _, _, prepared, _, hresult⟩ := h
  have hagrees := getOrCreate_identityAgrees hrecord hstored
  split at hresult
  · rw [except_pure_eq_ok_iff] at hresult
    exact hresult ▸ hagrees
  · rw [except_pure_eq_ok_iff] at hresult
    subst result
    exact {
      fullName := hagrees.fullName
      interests := by simpa [ProfileRecord.bumpVersion] using hagrees.interests
      languages := by simpa [ProfileRecord.bumpVersion] using hagrees.languages }

theorem replaceOwnPreferences_identityAgrees {update : ProfilePreferenceUpdate}
    (h : replaceOwnPreferences context owner stored update = .ok result)
    (hstored : ∀ old ∈ stored, IdentityAgrees context.unicode context.catalog old) :
    IdentityAgrees context.unicode context.catalog result := by
  simp only [replaceOwnPreferences, except_bind_eq_ok_iff] at h
  obtain ⟨record, hrecord, _, _, interests, hinterests, languages, hlanguages, _, _,
    hresult⟩ := h
  have hagrees := getOrCreate_identityAgrees hrecord hstored
  have hinterestsApart := prepareInterests_keysApart hinterests .interest
  have hlanguagesApart := prepareLanguages_keysApart hlanguages .language
  split at hresult
  · rw [except_pure_eq_ok_iff] at hresult
    exact hresult ▸ hagrees
  · rw [except_pure_eq_ok_iff] at hresult
    subst result
    exact {
      fullName := hagrees.fullName
      interests := .inr (by simpa [ProfileRecord.bumpVersion] using hinterestsApart)
      languages := .inr (by simpa [ProfileRecord.bumpVersion] using hlanguagesApart) }

/-- A field update sets trimmed names only. -/
theorem apply_fullName {zoneInfo : String → Bool} {update : ProfileUpdate zoneInfo}
    {profile : StudentProfile}
    (hprofile : ∀ text ∈ profile.fullName,
      pyStrip text = text ∧ text ≠ "" ∧ text.length ≤ 120) :
    ∀ text ∈ (update.apply profile).fullName,
      pyStrip text = text ∧ text ≠ "" ∧ text.length ≤ 120 := by
  simp only [ProfileUpdate.apply]
  rcases update.fullName with _ | value
  · exact hprofile
  · simpa using ⟨value.trimmed, value.nonempty, value.length_le 120 rfl⟩

theorem replaceOwnProfileFields_identityAgrees {update : ProfileUpdate context.zoneInfo}
    (h : replaceOwnProfileFields context owner stored update = .ok result)
    (hstored : ∀ old ∈ stored, IdentityAgrees context.unicode context.catalog old) :
    IdentityAgrees context.unicode context.catalog result := by
  obtain ⟨record, activityIds, hrecord, _, _, rfl⟩ := replaceOwnProfileFields_spec h
  have hagrees := getOrCreate_identityAgrees hrecord hstored
  exact {
    fullName := apply_fullName hagrees.fullName
    interests := hagrees.interests
    languages := hagrees.languages }

theorem run_identityAgrees {request : ProfileRequest}
    (h : request.run stored = .ok result)
    (hstored : ∀ old ∈ stored,
      IdentityAgrees request.context.unicode request.context.catalog old) :
    IdentityAgrees request.context.unicode request.context.catalog result := by
  rcases request with ⟨context, owner, write⟩
  cases write with
  | read => exact getOrCreate_identityAgrees h hstored
  | interests version group => exact replaceOwnInterests_identityAgrees h hstored
  | languages version group => exact replaceOwnLanguages_identityAgrees h hstored
  | activities version group => exact replaceOwnActivities_identityAgrees h hstored
  | preferences update => exact replaceOwnPreferences_identityAgrees h hstored
  | fields update => exact replaceOwnProfileFields_identityAgrees h hstored

end Writes

/-- The requests of one deployment read the same catalog and the same Unicode tables. -/
def SharesCatalog (unicode : UnicodeData) (catalog : Catalog) (_ : ProfileStore)
    (request : ProfileRequest) : Prop :=
  request.context.unicode = unicode ∧ request.context.catalog = catalog

/-- Every stored profile agrees with the catalog of the deployment. -/
def ProfileStore.IdentityAgrees (unicode : UnicodeData) (catalog : Catalog)
    (store : ProfileStore) : Prop :=
  ∀ owner, ∀ record ∈ store owner, BuddyWeb.IdentityAgrees unicode catalog record

section Runs

variable {zoneInfo : String → Bool} {unicode : UnicodeData} {catalog : Catalog}
  {store after : ProfileStore}

theorem step_identityAgrees {request : ProfileRequest}
    (hstored : store.IdentityAgrees unicode catalog)
    (hshared : SharesCatalog unicode catalog store request)
    (hstep : ProfileStore.Step zoneInfo store request after) :
    after.IdentityAgrees unicode catalog := by
  obtain ⟨_, rfl⟩ := hstep
  obtain ⟨rfl, rfl⟩ := hshared
  intro owner record hrecord
  cases hrun : request.run (store request.owner.id) with
  | error error =>
      rw [ProfileStore.after, hrun] at hrecord
      exact hstored owner record hrecord
  | ok written =>
      simp only [ProfileStore.after, hrun] at hrecord
      by_cases howner : owner = request.owner.id
      · subst owner
        rw [Function.update_self, Option.mem_some_iff] at hrecord
        subst record
        exact run_identityAgrees hrun (hstored _)
      · rw [Function.update_of_ne howner] at hrecord
        exact hstored owner record hrecord

theorem reached_identityAgrees
    (hreached : ProfileStore.Reached zoneInfo (SharesCatalog unicode catalog) store) :
    store.IdentityAgrees unicode catalog := by
  refine Reaches.invariant ?_ ?_ hreached
  · rintro state rfl owner record hrecord
    simp [ProfileStore.empty] at hrecord
  · intro state request later hstored hshared hstep
    exact step_identityAgrees hstored hshared hstep

end Runs

section Counts

variable {unicode : UnicodeData} {catalog : Catalog} {record : ProfileRecord}

theorem interestCount_eq : interestCount catalog record =
    (selectedInterests catalog record).length +
      (customRows record.customs .interest).length := by
  simp only [interestCount, selectedInterests, listActiveInterests, List.filter_filter]
  congr 3
  funext item
  exact Bool.and_comm _ _

theorem languageCount_eq : languageCount catalog record =
    (selectedLanguages catalog record).length +
      (customRows record.customs .language).length := by
  simp only [languageCount, selectedLanguages, listActiveLanguages, List.filter_filter]
  congr 3
  funext item
  exact Bool.and_comm _ _

/-- The loaded count of interests is the count of the candidate query. -/
theorem countValidInterests_eq (hagrees : IdentityAgrees unicode catalog record) :
    countValidInterests unicode catalog record = .ok (interestCount catalog record) := by
  rw [interestCount_eq, countValidInterests]
  rcases hagrees.interests with ⟨hids, hcustoms⟩ | hapart
  · have hselected : selectedInterests catalog record = [] := by
      simp [selectedInterests, hids]
    rw [hselected, hcustoms]
    rfl
  · have hsubset : ((selectedInterests catalog record).map fun item =>
        (item.labelEn, item.labelDe)) ⊆ interestLabels catalog :=
      List.map_subset _ (List.filter_subset_self _)
    rw [countValidSelections_of_keysApart hsubset hapart, List.length_map]

theorem countValidLanguages_eq (hagrees : IdentityAgrees unicode catalog record) :
    countValidLanguages unicode catalog record = .ok (languageCount catalog record) := by
  rw [languageCount_eq, countValidLanguages]
  rcases hagrees.languages with ⟨hlanguages, hcustoms⟩ | hapart
  · have hselected : selectedLanguages catalog record = [] := by
      simp [selectedLanguages, hlanguages]
    rw [hselected, hcustoms]
    rfl
  · have hsubset : ((selectedLanguages catalog record).map fun item =>
        (item.labelEn, item.labelDe)) ⊆ languageLabels catalog :=
      List.map_subset _ (List.filter_subset_self _)
    rw [countValidSelections_of_keysApart hsubset hapart, List.length_map]

end Counts

end BuddyWeb
