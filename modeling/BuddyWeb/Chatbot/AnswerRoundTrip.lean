/-
From an answer to the value which the web client reads of it: the server makes every answer
public, and the client's schema gives back what the server wrote.
-/
import BuddyWeb.Chatbot.AnswerAgreement
import BuddyWeb.Chatbot.QuotedSections

namespace BuddyWeb

section Units

/-- No character beyond the Basic Multilingual Plane. -/
def isBmpText (text : List Char) : Bool := text.all fun char => decide (char.toNat < 0x10000)

theorem utf16Length_ofList {text : List Char} (h : isBmpText text = true) :
    utf16Length (String.ofList text) = text.length := by
  rw [utf16Length, String.toList_ofList]
  induction text with
  | nil => rfl
  | cons char rest ih =>
    rw [isBmpText, List.all_cons, Bool.and_eq_true, decide_eq_true_iff] at h
    rw [List.map_cons, List.sum_cons, if_pos h.1, ih h.2, List.length_cons, Nat.add_comm]

theorem length_le_utf16Length (text : List Char) :
    text.length ≤ utf16Length (String.ofList text) := by
  rw [utf16Length, String.toList_ofList]
  induction text with
  | nil => exact Nat.le_refl _
  | cons char rest ih =>
    rw [List.map_cons, List.sum_cons, List.length_cons]
    split <;> omega

theorem hasUtf16Bounds_ofList {least most : Nat} {text : List Char}
    (hbmp : isBmpText text = true) (hbounds : least ≤ text.length ∧ text.length ≤ most) :
    hasUtf16Bounds least most (String.ofList text) = true := by
  simp [hasUtf16Bounds, utf16Length_ofList hbmp, hbounds]

end Units

section Reading

variable {web : WebLibraries} {tables : WordTables}

/-- What the client asks of the URL of a source. -/
def isSourceUrl (web : WebLibraries) (url : String) : Bool :=
  hasUtf16Bounds 1 300 url && publicSourceUrl web url

def PublicReference.read (reference : PublicReference tables) : SourceReference :=
  ⟨String.ofList reference.title, String.ofList reference.url⟩

def SourceProvenance.read (provenance : SourceProvenance) : SourceOrigin :=
  ⟨String.ofList provenance.sha256, provenance.startLine, provenance.endLine,
    String.ofList provenance.sectionName⟩

def PublicCitation.read (citation : PublicCitation tables) : ChatbotSource where
  entryId := String.ofList citation.entryId
  title := citation.title
  verificationStatus := citation.verificationStatus
  verifiedOn := citation.verifiedOn.map CalendarDate.isoformat
  provenance := citation.provenance.map SourceProvenance.read
  references := citation.references.map PublicReference.read

def ChatbotResponse.read (response : ChatbotResponse tables) : ChatbotAnswer where
  answer := String.ofList response.answer
  language := response.language
  supported := response.supported
  status := response.status
  sources := response.sources.map PublicCitation.read

theorem strictMembers_object {keys : List String} {members : List (String × JsonValue)}
    (h : (members.all fun member => keys.contains member.1) = true) :
    strictMembers keys (.object members) = some members := by
  simp only [strictMembers, JsonValue.object?, h, Option.bind_eq_bind, Option.bind_some, guard,
    if_true]
  rfl

theorem guard_true {p : Prop} [Decidable p] (h : p) : (guard p : Option Unit) = some () := by
  rw [guard, if_pos h]
  rfl

theorem parseReference_toJson {reference : PublicReference tables}
    (htitle : isBmpText reference.title = true)
    (hurl : isSourceUrl web (String.ofList reference.url) = true) :
    parseReference web reference.toJson = some reference.read := by
  have hbounds := hasUtf16Bounds_ofList htitle reference.title_length
  rw [isSourceUrl, Bool.and_eq_true] at hurl
  simp [parseReference, PublicReference.toJson, strictMembers, List.lookup_cons,
    JsonValue.object?, textMember, jsonText, JsonValue.string?, hbounds, hurl.1, hurl.2,
    PublicReference.read]

theorem parseProvenance_toJson {provenance : SourceProvenance}
    (hsection : isBmpText provenance.sectionName = true)
    (hlines : provenance.endLine < 1000000) :
    parseProvenance provenance.toJson = some provenance.read := by
  have hbounds := hasUtf16Bounds_ofList hsection provenance.section_length
  have hdigest := provenance.sha256_pattern
  have hstart := provenance.start_bound
  have hend := provenance.end_bound
  have hordered := provenance.ordered
  have hsafe : (provenance.startLine : Int) ≤ maxSafeInteger ∧
      (provenance.endLine : Int) ≤ maxSafeInteger := by
    rw [maxSafeInteger]
    omega
  have hpositive : 0 < provenance.startLine ∧ 0 < provenance.endLine := ⟨hstart, hend⟩
  simp [parseProvenance, SourceProvenance.toJson, strictMembers, List.lookup_cons,
    JsonValue.object?, textMember, jsonText, JsonValue.string?, positiveMember, JsonValue.int?,
    hbounds, hdigest, hsafe, hpositive, hordered, SourceProvenance.read]

theorem nullableDate_isoformat (hdates : ∀ date, web.isIsoDate (CalendarDate.isoformat date) = true)
    (date : Option CalendarDate) :
    nullableDate web (date.elim .null fun date => .string date.isoformat) =
      some (date.map CalendarDate.isoformat) := by
  cases date with
  | none => rfl
  | some date => simp [nullableDate, hdates]

theorem find_text_title (title : CitationTitle) :
    citationTitles.find? (fun value => value.text == title.text) = some title := by
  cases title <;> decide

theorem find_text_status (status : CitationStatus) :
    citationStatuses.find? (fun value => value.text == status.text) = some status := by
  cases status <;> decide

theorem find_text_outcome {outcome : AnswerOutcome} (h : outcome ≠ .unavailable) :
    answerOutcomes.find? (fun value => value.text == outcome.text) = some outcome := by
  cases outcome <;> first | decide | exact absurd rfl h

theorem find_text_language (language : AnswerLanguage) :
    [AnswerLanguage.en, .de, .und].find? (fun value => value.text == language.text) =
      some language := by
  cases language <;> decide

/-- What a list writes entry by entry is read entry by entry. -/
theorem mapM_eq_some_map {α β γ : Type} {write : α → β} {read : β → Option γ} {result : α → γ}
    {entries : List α} (h : ∀ entry ∈ entries, read (write entry) = some (result entry)) :
    (entries.map write).mapM read = some (entries.map result) := by
  induction entries with
  | nil => rfl
  | cons head tail ih =>
    obtain ⟨hhead, htail⟩ := List.forall_mem_cons.mp h
    simp [List.map_cons, List.mapM_cons, hhead, ih htail]

/-- A public citation which the client reads. -/
structure PublicCitation.Readable (web : WebLibraries) (citation : PublicCitation tables) :
    Prop where
  references : ∀ reference ∈ citation.references, isBmpText reference.title = true ∧
    isSourceUrl web (String.ofList reference.url) = true
  provenance : ∀ provenance, citation.provenance = some provenance →
    isBmpText provenance.sectionName = true ∧ provenance.endLine < 1000000

theorem parseSource?_toJson
    (hdates : ∀ date, web.isIsoDate (CalendarDate.isoformat date) = true)
    {citation : PublicCitation tables} (h : citation.Readable web) :
    parseSource? web citation.toJson = some citation.read := by
  have hreferences := @mapM_eq_some_map _ _ _ PublicReference.toJson (parseReference web)
    PublicReference.read citation.references fun reference hreference =>
      parseReference_toJson (h.references reference hreference).1
        (h.references reference hreference).2
  have hid := citation.entryId_pattern
  have hcount := citation.references_length
  have hdate := nullableDate_isoformat hdates citation.verifiedOn
  have horigin : (citation.provenance.map fun provenance =>
      ("provenance", provenance.toJson)).toList.lookup "provenance" =
        citation.provenance.map SourceProvenance.toJson := by
    cases citation.provenance <;> rfl
  have hread : optionalProvenance ((citation.provenance.map fun provenance =>
      ("provenance", provenance.toJson)).toList) =
        some (citation.provenance.map SourceProvenance.read) := by
    rw [optionalProvenance, horigin]
    cases hprovenance : citation.provenance with
    | none => rfl
    | some provenance =>
      have hparsed := parseProvenance_toJson (h.provenance provenance hprovenance).1
        (h.provenance provenance hprovenance).2
      simp [hparsed]
  have hstrict : ((citation.provenance.map fun provenance =>
      ("provenance", provenance.toJson)).toList.all fun member =>
        ["entry_id", "title", "verification_status", "verified_on", "provenance",
          "references"].contains member.1) = true := by
    cases citation.provenance <;> rfl
  unfold PublicCitation.toJson
  generalize (citation.provenance.map fun provenance =>
    ("provenance", provenance.toJson)).toList = origin at hread hstrict ⊢
  obtain ⟨members, hmembers, hstrict, hentry, htitle, hstatus, hverified, hlist, horigin⟩ :
      ∃ members, [("entry_id", jsonText citation.entryId), ("title", .string citation.title.text),
        ("verification_status", .string citation.verificationStatus.text),
        ("verified_on", citation.verifiedOn.elim .null fun date => .string date.isoformat),
        ("references", .array (citation.references.map PublicReference.toJson))] ++ origin =
          members ∧
      strictMembers ["entry_id", "title", "verification_status", "verified_on", "provenance",
        "references"] (.object members) = some members ∧
      members.lookup "entry_id" = some (jsonText citation.entryId) ∧
      members.lookup "title" = some (.string citation.title.text) ∧
      members.lookup "verification_status" =
        some (.string citation.verificationStatus.text) ∧
      members.lookup "verified_on" =
        some (citation.verifiedOn.elim .null fun date => .string date.isoformat) ∧
      members.lookup "references" =
        some (.array (citation.references.map PublicReference.toJson)) ∧
      optionalProvenance members = some (citation.provenance.map SourceProvenance.read) := by
    refine ⟨_, rfl, strictMembers_object ?_, rfl, rfl, rfl, rfl, rfl, ?_⟩
    · rw [List.all_append, hstrict]
      rfl
    · rw [← hread]
      rfl
  rw [hmembers]
  simp only [parseSource?, hstrict, textMember, hentry, htitle, hstatus, hverified, hlist,
    horigin, enumMember, arrayMember, jsonText, JsonValue.string?, JsonValue.array?, hdate,
    find_text_title, find_text_status, hreferences, Option.bind_eq_bind, Option.bind_some,
    String.toList_ofList, hid, List.length_map, hcount, guard_true, Option.pure_def]
  rfl

theorem responseSchema_toJson
    (hdates : ∀ date, web.isIsoDate (CalendarDate.isoformat date) = true)
    {response : ChatbotResponse tables}
    (hsources : ∀ citation ∈ response.sources, citation.Readable web)
    (hstatus : response.status ≠ .unavailable)
    (hconsistent : response.read.isConsistent = true) :
    responseSchema web response.toJson = some response.read := by
  have hread := @mapM_eq_some_map _ _ _ PublicCitation.toJson (parseSource? web)
    PublicCitation.read response.sources fun citation hcitation =>
      parseSource?_toJson hdates (hsources citation hcitation)
  have hlength := response.answer_length
  have hunits := length_le_utf16Length response.answer
  have hanswer : 1 ≤ utf16Length (String.ofList response.answer) ∧
      (String.ofList response.answer).length ≤ 1800 := by
    rw [String.length_ofList]
    exact ⟨Nat.le_trans hlength.1 hunits, hlength.2⟩
  have hcount := response.sources_length
  have hfound := find_text_outcome hstatus
  unfold ChatbotResponse.toJson
  rw [responseSchema, strictMembers_object rfl]
  simp only [textMember, enumMember, arrayMember, List.lookup_cons, String.reduceBEq, jsonText,
    JsonValue.string?, JsonValue.bool?, JsonValue.array?, Option.bind_eq_bind, Option.bind_some,
    guard_true hanswer, find_text_language, hfound, List.length_map, guard_true hcount, hread,
    Option.pure_def]
  rw [guard_true trivial, Option.bind_some]
  change (guard (response.read.isConsistent = true) : Option Unit).bind
    (fun _ => some response.read) = _
  rw [guard_true hconsistent, Option.bind_some]

end Reading

section Publishing

variable {web : WebLibraries} {tables : WordTables} {entries : List (Entry tables)}

/-- Knowledge which may be published: official entries have a public reference, and public
references are URLs which both sides accept. -/
structure Publishable (web : WebLibraries) (entries : List (Entry tables)) : Prop where
  official : ∀ entry ∈ entries, entry.status = .verifiedOfficial →
    ∃ source ∈ entry.sources, startsWith "https://" source.reference = true
  urls : ∀ entry ∈ entries, ∀ source ∈ entry.sources,
    startsWith "https://" source.reference = true →
      isOfficialPublicUrl tables.nfkc source.reference = true ∧
        isSourceUrl web (String.ofList source.reference) = true
  titles : ∀ entry ∈ entries, ∀ source ∈ entry.sources, isBmpText source.title = true

/-- A section name which the client accepts. -/
def isReadableName (name : List Char) : Prop :=
  (1 ≤ name.length ∧ name.length ≤ maxSection) ∧ isBmpText name = true

theorem namesSections_readable (tables : WordTables) {lines : List (List Char)}
    (h : ∀ line ∈ lines, ∀ label, heading tables line = some label → isBmpText label = true) :
    NamesSections tables isReadableName lines := by
  have hlength := namesSections_length tables lines
  refine ⟨⟨hlength.introduction, by decide +kernel⟩, fun line hline label hlabel =>
    ⟨hlength.label line hline label hlabel, h line hline label hlabel⟩, ?_⟩
  intro parent label hparent hlabel
  refine ⟨hlength.nested parent label hparent.1 hlabel.1, ?_⟩
  have hbmp : isBmpText (parent ++ " / ".toList ++ label) = true := by
    simp only [isBmpText, List.all_append, Bool.and_eq_true]
    exact ⟨⟨hparent.2, by decide +kernel⟩, hlabel.2⟩
  rw [isBmpText, List.all_eq_true] at hbmp ⊢
  exact fun char hchar => hbmp char (List.mem_of_mem_take hchar)

theorem isEntryId_of_isOwnerId {text : List Char} (h : isOwnerId text = true) :
    isEntryId text = true := by
  rw [isOwnerId, Bool.and_eq_true, Bool.and_eq_true, decide_eq_true_iff, List.all_eq_true] at h
  obtain ⟨⟨hstart, hlength⟩, hdigits⟩ := h
  obtain ⟨digits, rfl⟩ := List.isPrefixOf_iff_prefix.mp hstart
  have hopening : "owner-".toList = ['o', 'w', 'n', 'e', 'r', '-'] := rfl
  rw [hopening] at hlength hdigits ⊢
  simp only [List.cons_append, List.nil_append, List.length_cons] at hlength
  simp only [List.cons_append, List.nil_append, List.drop_succ_cons, List.drop_zero] at hdigits
  simp only [List.cons_append, List.nil_append, isEntryId, List.length_cons, Bool.and_eq_true,
    decide_eq_true_iff]
  refine ⟨⟨⟨by decide, by omega⟩, by omega⟩, ?_⟩
  simp only [List.all_cons, Bool.and_eq_true]
  refine ⟨by decide, by decide, by decide, by decide, by decide, ?_⟩
  rw [List.all_eq_true]
  intro char hchar
  have hdigit := hdigits char hchar
  simp only [Bool.or_eq_true, Bool.and_eq_true, decide_eq_true_iff] at hdigit
  simp only [isAsciiLower, Bool.or_eq_true, Bool.and_eq_true, decide_eq_true_iff]
  rcases hdigit with hletter | hnumber
  · exact Or.inl (Or.inl ⟨hletter.1, Char.le_trans hletter.2 (by decide)⟩)
  · exact Or.inl (Or.inr hnumber)

variable {named : List Char → Prop}

/-- The public form of a citation of the service. -/
structure PublicCitation.Shows (web : WebLibraries) (citation : Citation tables)
    (shown : PublicCitation tables) : Prop where
  entryId : shown.entryId = citation.entryId
  title : shown.title = citation.status.title
  status : shown.verificationStatus = citation.status
  verifiedOn : shown.verifiedOn = citation.verifiedOn
  provenance : shown.provenance = citation.provenance
  readable : shown.Readable web
  references : shown.references = [] ↔ publicSources citation = []
  official : citation.status = .verifiedOfficial → shown.references ≠ []

theorem PublicReference.exists_validate {source : Source tables}
    (h : isOfficialPublicUrl tables.nfkc source.reference = true) :
    ∃ reference : PublicReference tables,
      PublicReference.validate source.title source.reference = .ok reference ∧
        reference.title = source.title ∧ reference.url = source.reference := by
  rw [PublicReference.validate, dif_pos ⟨source.title_length, source.reference_length, h⟩]
  exact ⟨_, rfl, rfl, rfl⟩

theorem exists_publicReferences (hentries : Publishable web entries)
    {citation : Citation tables} (h : citation.Known entries isReadableName) :
    ∃ references : List (PublicReference tables),
      (publicSources citation).mapM (fun source =>
        PublicReference.validate source.title source.reference) = .ok references ∧
      references.length = (publicSources citation).length ∧
      ∀ reference ∈ references, isBmpText reference.title = true ∧
        isSourceUrl web (String.ofList reference.url) = true := by
  have hsources : ∀ source ∈ publicSources citation,
      isOfficialPublicUrl tables.nfkc source.reference = true ∧
        isSourceUrl web (String.ofList source.reference) = true ∧
        isBmpText source.title = true := by
    intro source hsource
    obtain ⟨hmem, hpublic⟩ := List.mem_filter.mp hsource
    rcases h with ⟨⟨entry, hentry, _, _, hcited⟩, _⟩ | hpassage
    · rw [hcited] at hmem
      have hurl := hentries.urls entry hentry source hmem hpublic
      exact ⟨hurl.1, hurl.2, hentries.titles entry hentry source hmem⟩
    · rw [hpassage.sources source hmem] at hpublic
      cases hpublic
  obtain ⟨references, hmapped, hlength⟩ := @exists_mapM_ok _ _ _ (fun source =>
    (PublicReference.validate source.title source.reference :
      Except AskError (PublicReference tables))) (publicSources citation)
    fun source hsource => by
      obtain ⟨reference, hreference, _⟩ :=
        PublicReference.exists_validate (hsources source hsource).1
      exact ⟨reference, hreference⟩
  refine ⟨references, hmapped, hlength, ?_⟩
  intro reference hreference
  obtain ⟨source, hsource, hvalid⟩ := exists_of_mem_mapM hmapped hreference
  have hfacts := hsources source hsource
  obtain ⟨other, hother, htitle, hurl⟩ := PublicReference.exists_validate hfacts.1
  rw [hother] at hvalid
  rw [← Except.ok.inj hvalid, htitle, hurl]
  exact ⟨hfacts.2.2, hfacts.2.1⟩

/-- Every citation of the service is made public, in a form which the client reads. -/
theorem exists_publicCitation (hentries : Publishable web entries) {citation : Citation tables}
    (h : citation.Known entries isReadableName) :
    ∃ shown, publicCitation citation = .ok shown ∧ shown.Shows web citation := by
  obtain ⟨references, hmapped, hlength, hreadable⟩ := exists_publicReferences hentries h
  have hempty : references = [] ↔ publicSources citation = [] := by
    rw [← List.length_eq_zero_iff, ← List.length_eq_zero_iff, hlength]
  have hid : isEntryId citation.entryId = true := by
    rcases h with ⟨⟨entry, _, _, hid, _⟩, _⟩ | hpassage
    · rw [hid]
      exact entry.id_pattern
    · exact isEntryId_of_isOwnerId hpassage.ownerId
  have hcount : references.length ≤ 5 := by
    rw [hlength]
    rcases h with ⟨⟨entry, _, _, _, hcited⟩, _⟩ | hpassage
    · have hfilter := List.length_filter_le
        (fun source : Source tables => startsWith "https://" source.reference) citation.sources
      have hsources := entry.sources_length
      rw [publicSources]
      rw [hcited] at hfilter ⊢
      omega
    · have hnone : publicSources citation = [] := by
        rw [publicSources, List.filter_eq_nil_iff]
        intro source hsource
        rw [hpassage.sources source hsource]
        simp
      rw [hnone]
      exact Nat.zero_le _
  have hofficial : ¬ (citation.status = .verifiedOfficial ∧ references.isEmpty = true) := by
    rintro ⟨hstatus, hnone⟩
    rw [List.isEmpty_iff, hempty, publicSources, List.filter_eq_nil_iff] at hnone
    rcases h with ⟨⟨entry, hentry, hverified, _, hcited⟩, _⟩ | hpassage
    · rw [hstatus] at hverified
      have hentryStatus : entry.status = .verifiedOfficial := by
        cases hcase : entry.status <;> rw [hcase] at hverified <;> simp_all [citationStatus]
      obtain ⟨source, hsource, hpublic⟩ := hentries.official entry hentry hentryStatus
      exact hnone source (hcited ▸ hsource) hpublic
    · have howner := hpassage.owner
      rw [hstatus] at howner
      cases howner
  refine ⟨⟨citation.entryId, citation.status.title, citation.status, citation.verifiedOn,
    references, citation.provenance, hid, hcount⟩, ?_, rfl, rfl, rfl, rfl, rfl,
    ⟨hreadable, ?_⟩, hempty, fun hstatus hnone =>
      hofficial ⟨hstatus, List.isEmpty_iff.mpr hnone⟩⟩
  · simp only [publicCitation, hmapped, except_bind_eq_ok_iff, Except.ok.injEq, exists_eq_left',
      ensure_eq_ok_iff]
    exact ⟨(), hofficial, by rw [PublicCitation.validate, dif_pos ⟨hid, hcount⟩]⟩
  · intro provenance hprovenance
    rcases h with ⟨_, hnone⟩ | hpassage
    · simp only at hprovenance
      rw [hnone] at hprovenance
      cases hprovenance
    · obtain ⟨other, hother, hnamed, hline⟩ := hpassage.provenance
      simp only at hprovenance
      rw [hother] at hprovenance
      rw [← Option.some.inj hprovenance]
      exact ⟨hnamed.2, hline⟩

theorem PublicCitation.Shows.isConsistent {citation : Citation tables}
    {shown : PublicCitation tables} (h : shown.Shows web citation)
    (hknown : citation.Known entries isReadableName) : shown.read.isConsistent = true := by
  rcases hknown with ⟨⟨entry, _, hstatus, _, _⟩, hprovenance⟩ | hpassage
  · obtain ⟨hdated, hofficial⟩ := citationStatus_isUndated hstatus
    have hdate : shown.verifiedOn.isSome = true := by
      rw [h.verifiedOn, ← Option.not_isNone, ← citation.undated, hdated]
      rfl
    have hnone : shown.provenance = none := h.provenance.trans hprovenance
    have hreferences := h.official
    cases hcase : citation.status with
    | verifiedOfficial =>
      have hsome := hreferences hcase
      simp [ChatbotSource.isConsistent, PublicCitation.read, h.status, h.title, hcase,
        CitationStatus.isOwner, CitationStatus.title, hnone, hdate, hsome]
    | verifiedCode =>
      simp [ChatbotSource.isConsistent, PublicCitation.read, h.status, h.title, hcase,
        CitationStatus.isOwner, CitationStatus.title, hnone, hdate]
    | historicalReference | ownerProvided | conflicted =>
      rw [hcase] at hdated
      cases hdated
  · have howner := hpassage.owner
    obtain ⟨provenance, hprovenance, _⟩ := hpassage.provenance
    have hdate : shown.verifiedOn = none := by
      rw [h.verifiedOn, ← Option.isNone_iff_eq_none, ← citation.undated]
      cases hcase : citation.status <;> rw [hcase] at howner <;> first | rfl | cases howner
    have hnone : shown.references = [] := by
      rw [h.references, publicSources, List.filter_eq_nil_iff]
      intro source hsource
      simp [hpassage.sources source hsource]
    have hsome : shown.provenance = some provenance := h.provenance.trans hprovenance
    have hid : isOwnerId shown.entryId = true := by
      rw [h.entryId]
      exact hpassage.ownerId
    cases hcase : citation.status with
    | ownerProvided | conflicted =>
      simp [ChatbotSource.isConsistent, PublicCitation.read, h.status, h.title, hcase,
        CitationStatus.isOwner, CitationStatus.title, hdate, hnone, hsome, hid]
    | verifiedOfficial | verifiedCode | historicalReference =>
      rw [hcase] at howner
      cases howner

/-- Citations are shown one by one. -/
theorem exists_publicCitations (hentries : Publishable web entries)
    {citations : List (Citation tables)}
    (h : ∀ citation ∈ citations, citation.Known entries isReadableName) :
    ∃ shown, citations.mapM publicCitation = .ok shown ∧ shown.length = citations.length ∧
      List.Forall₂ (fun citation shown => PublicCitation.Shows web citation shown)
        citations shown := by
  obtain ⟨shown, hmapped, hlength⟩ := exists_mapM_ok fun citation hcitation => by
    obtain ⟨value, hvalue, _⟩ := exists_publicCitation hentries (h citation hcitation)
    exact ⟨value, hvalue⟩
  have hpairs := forall₂_of_mapM hmapped
  refine ⟨shown, hmapped, hlength, ?_⟩
  clear hmapped hlength
  induction hpairs with
  | nil => exact .nil
  | cons hhead _ ih =>
    obtain ⟨hfirst, hrest⟩ := List.forall_mem_cons.mp h
    obtain ⟨value, hvalue, hshows⟩ := exists_publicCitation hentries hfirst
    rw [hvalue] at hhead
    exact .cons (Except.ok.inj hhead ▸ hshows) (ih hrest)

section Pairs

variable {citations : List (Citation tables)} {shown : List (PublicCitation tables)}

theorem hasSource_iff (hpairs : List.Forall₂ (fun citation shown =>
      PublicCitation.Shows web citation shown) citations shown) (status : CitationStatus) :
    ((shown.map PublicCitation.read).any fun source => source.verificationStatus == status) =
        true ↔ ∃ citation ∈ citations, citation.status = status := by
  induction hpairs with
  | nil => simp
  | cons hhead _ ih =>
    rw [List.map_cons, List.any_cons, Bool.or_eq_true, ih]
    simp [PublicCitation.read, hhead.status]

theorem forall_isConsistent (hpairs : List.Forall₂ (fun citation shown =>
      PublicCitation.Shows web citation shown) citations shown)
    (h : ∀ citation ∈ citations, citation.Known entries isReadableName) :
    (∀ value ∈ shown, value.Readable web) ∧
      ∀ value ∈ shown, value.read.isConsistent = true := by
  induction hpairs with
  | nil => simp
  | cons hhead _ ih =>
    obtain ⟨hfirst, hrest⟩ := List.forall_mem_cons.mp h
    obtain ⟨hreadable, hconsistent⟩ := ih hrest
    exact ⟨List.forall_mem_cons.mpr ⟨hhead.readable, hreadable⟩,
      List.forall_mem_cons.mpr ⟨hhead.isConsistent hfirst, hconsistent⟩⟩

end Pairs

/-- What agrees with its citations is consistent for the client. -/
theorem Answer.Agrees.isConsistent {answer : Answer tables}
    (h : answer.Agrees entries isReadableName) {response : ChatbotResponse tables}
    (hstatus : response.status = answer.outcome)
    (hsupported : response.supported = !response.sources.isEmpty)
    (hpairs : List.Forall₂ (fun citation shown => PublicCitation.Shows web citation shown)
      answer.citations response.sources) : response.read.isConsistent = true := by
  have hlength := hpairs.length_eq
  have hempty : response.sources = [] ↔ answer.outcome.isBare = true := by
    rw [← List.length_eq_zero_iff, ← hlength, List.length_eq_zero_iff]
    exact h.supported
  have hconflicted : response.read.hasSource .conflicted =
      decide (answer.outcome = .conflicted) := by
    rw [Bool.eq_iff_iff, decide_eq_true_iff, h.conflicted]
    exact hasSource_iff hpairs .conflicted
  have howned : response.read.hasSource .ownerProvided = true ↔
      ∃ citation ∈ answer.citations, citation.status = .ownerProvided :=
    hasSource_iff hpairs .ownerProvided
  have hhistorical : response.read.hasSource .historicalReference = false := by
    rw [← Bool.not_eq_true]
    intro hsome
    obtain ⟨citation, hcitation, hold⟩ := (hasSource_iff hpairs .historicalReference).mp hsome
    exact (h.known citation hcitation).status_ne hold
  have hsources := (forall_isConsistent hpairs h.known).2
  have hread : response.read.supported = !response.read.sources.isEmpty := by
    rw [ChatbotResponse.read, hsupported, List.isEmpty_map]
  have hbare : response.read.sources.isEmpty = response.read.status.isBare := by
    rw [ChatbotResponse.read, List.isEmpty_map, hstatus, Bool.eq_iff_iff, List.isEmpty_iff]
    exact hempty
  have hlisted : (if [AnswerOutcome.answer, .historicalReference, .ownerProvided,
      .conflicted].contains response.read.status then response.read.supported
      else !response.read.supported) = true := by
    rw [hread, hbare]
    cases response.read.status <;> rfl
  have honly : decide (response.read.status = .ownerProvided) =
      (!response.read.hasSource .conflicted && response.read.hasSource .ownerProvided) := by
    rw [Bool.eq_iff_iff, decide_eq_true_iff, Bool.and_eq_true, Bool.not_eq_true', hconflicted,
      decide_eq_false_iff_not, howned, h.conflicted]
    change response.status = _ ↔ _
    rw [hstatus, h.owned]
    simp
  have hcurrent : decide (response.read.status = .historicalReference) = false := by
    change decide (response.status = _) = false
    rw [hstatus, decide_eq_false_iff_not]
    exact h.current
  have hchecked : response.read.sources.all ChatbotSource.isConsistent = true := by
    rw [ChatbotResponse.read, List.all_map, List.all_eq_true]
    exact hsources
  have hstated : decide (response.read.status = .conflicted) =
      response.read.hasSource .conflicted := by
    rw [hconflicted, ← hstatus]
    rfl
  rw [ChatbotAnswer.isConsistent, hlisted, hstated, honly, hcurrent, hchecked, hhistorical, hread]
  simp

/-- What agrees with its citations is made public, and read as it was written. -/
theorem Answer.Agrees.exists_read
    (hdates : ∀ date, web.isIsoDate (CalendarDate.isoformat date) = true)
    (hentries : Publishable web entries) {answer : Answer tables}
    (h : answer.Agrees entries isReadableName) (houtcome : answer.outcome ≠ .unavailable) :
    ∃ response, publicAnswer answer = .ok response ∧ response.answer = answer.text ∧
      response.status = answer.outcome ∧
      responseSchema web response.toJson = some response.read := by
  obtain ⟨shown, hmapped, hlength, hpairs⟩ := exists_publicCitations hentries h.known
  have hcount : shown.length ≤ 3 := by
    rw [hlength]
    exact answer.citations_length
  have hvalid : publicAnswer answer = .ok ⟨answer.text, answer.language, !shown.isEmpty,
      answer.outcome, shown, answer.text_length, hcount⟩ := by
    simp only [publicAnswer, hmapped, except_bind_eq_ok_iff, Except.ok.injEq, exists_eq_left']
    rw [ChatbotResponse.validate, dif_pos ⟨answer.text_length, hcount⟩]
  refine ⟨_, hvalid, rfl, rfl, responseSchema_toJson hdates ?_ houtcome ?_⟩
  · exact (forall_isConsistent hpairs h.known).1
  · exact h.isConsistent rfl rfl hpairs

end Publishing

section Service

variable {φ : Type} {libraries : SourceLibraries}

/-- The labels of the headings of a source have no characters beyond the Basic Multilingual
Plane. -/
def HasBmpHeadings (libraries : SourceLibraries) (raw : List Byte) : Prop :=
  ∀ text, decodeUtf8Sig raw = some text → ∀ line ∈ splitLines [] text, ∀ label,
    heading libraries.tables line = some label → isBmpText label = true

/-- Every answer of a service with an index, unless knowledge is unavailable, is made public,
and the client reads of its JSON what the server wrote. -/
theorem ofEntries_answer_isRead {web : WebLibraries}
    (hdates : ∀ date, web.isIsoDate (CalendarDate.isoformat date) = true)
    {entries : List (Entry libraries.tables)} (hentries : Publishable web entries)
    {parsed : Option Snapshot} (hparsed : ∀ snapshot, parsed = some snapshot →
      ∃ raw, parseSource libraries raw = .ok snapshot ∧ HasBmpHeadings libraries raw)
    {ops : ScoreOps φ} {text : List Char} {reply : Reply libraries.tables}
    (h : (ChatbotService.ofEntries entries (some parsed)).ask ops text = .ok reply)
    (houtcome : reply.answer.outcome ≠ .unavailable) :
    ∃ response, publicAnswer reply.answer = .ok response ∧
      response.answer = reply.answer.text ∧ response.status = reply.answer.outcome ∧
      responseSchema web response.toJson = some response.read := by
  have hanswer := (ChatbotService.ask_eq_ok h).2
  have hagrees : reply.answer.Agrees entries isReadableName := by
    refine @ChatbotService.answerTo_agrees _ _ _ _ _ _ _ _ libraries rfl _ rfl ?_ ?_ _ hanswer
    · intro entry hentry
      rcases hentry with hverified | hhistorical
      · exact List.mem_of_mem_filter (List.mem_of_mem_filter hverified)
      · exact List.mem_of_mem_filter (List.mem_of_mem_filter hhistorical)
    · intro snapshot hsnapshot
      obtain ⟨raw, hraw, hheadings⟩ := hparsed snapshot hsnapshot
      exact parseSource_accepted hraw fun source hsource =>
        namesSections_readable libraries.tables (hheadings source hsource)
  exact hagrees.exists_read hdates hentries houtcome

def campusUrl : List Char := "https://vgu.edu.vn/campus".toList

/-- An official entry with a public reference. -/
def officialEntry : Entry latinTables where
  __ := campusEntry
  status := .verifiedOfficial
  sources := [{
    __ := campusSource
    reference := campusUrl
    reference_length := by decide +kernel
    reference_stable := by decide +kernel }]
  en := briefKnowledge
  de := briefKnowledge
  sources_length := by decide
  verified_date := by decide
  verified_sources := by decide +kernel

def servicesQuestion : List Char := "Which services exist?".toList

/-- A browser which knows the URL of the campus, with dates of ten characters. -/
def campusWeb : WebLibraries where
  newUrl := fun value =>
    if value.toList = campusUrl then some ⟨"https:", "vgu.edu.vn", "", "", "", "", ""⟩ else none
  isIsoDate := fun text => decide (10 ≤ text.toList.length)

theorem isIsoDate_campusWeb (date : CalendarDate) :
    campusWeb.isIsoDate date.isoformat = true := by
  simp only [campusWeb, CalendarDate.isoformat, paddedDigits, String.toList_ofList,
    List.length_append, List.length_cons, List.length_leftpad, decide_eq_true_iff]
  omega

theorem publishable_officialEntry : Publishable campusWeb [officialEntry] := by
  have hmem : ∀ entry ∈ [officialEntry], ∀ source ∈ entry.sources,
      source.reference = campusUrl ∧ isBmpText source.title = true := by
    rw [List.forall_mem_singleton]
    intro source hsource
    rw [List.mem_singleton.mp hsource]
    exact ⟨rfl, by decide +kernel⟩
  have hpublic : startsWith "https://" campusUrl = true := by decide +kernel
  refine ⟨?_, ?_, fun entry hentry source hsource => (hmem entry hentry source hsource).2⟩
  · intro entry hentry _
    rw [List.mem_singleton.mp hentry]
    exact ⟨_, List.mem_singleton_self _, hpublic⟩
  · intro entry hentry source hsource _
    rw [(hmem entry hentry source hsource).1]
    exact ⟨by decide +kernel, by decide +kernel⟩

theorem directEntry_servicesQuestion (index : Option Snapshot) :
    (ChatbotService.ofEntries [officialEntry] (some index)).directEntry fractionOps
      servicesQuestion = some (officialEntry, .en) := by
  have hlanguage : detectLanguage latinTables servicesQuestion = some .en := by decide +kernel
  have hsingle : splitQuestions servicesQuestion = [servicesQuestion] := by decide +kernel
  have hconfident : confidence latinTables servicesQuestion = .high := by decide +kernel
  have hopen : isRestricted latinTables servicesQuestion = false := by decide +kernel
  have hkept : ([officialEntry].filter fun entry =>
      !((some index).isSome && entry.historicalReference)) = [officialEntry] := by
    have hcurrent : officialEntry.historicalReference = false := by decide +kernel
    simp [hcurrent]
  have hentries : (Retriever.ofEntries [officialEntry]).entries = [officialEntry] := by
    have hauthoritative : officialEntry.authoritative = true := rfl
    rw [Retriever.ofEntries, List.filter_cons_of_pos hauthoritative, List.filter_nil]
  have hquestions : (officialEntry.localized .en).questions = [servicesQuestion] := rfl
  have hsame : (words latinTables servicesQuestion).same (words latinTables servicesQuestion) =
      true := by
    decide +kernel
  have hretrieve : (Retriever.ofEntries [officialEntry]).retrieve fractionOps servicesQuestion
      .en = [⟨officialEntry, 2⟩] := by
    simp [Retriever.retrieve, hsingle, Retriever.retrieveSingle, Retriever.retrieveVerified,
      hentries, hquestions, hsame, fractionOps]
  rw [ChatbotService.ofEntries, hkept]
  simp [ChatbotService.directEntry, hlanguage, hsingle, hconfident, hopen, hretrieve]

/-- A question which the official entry answers. -/
theorem ofEntries_answer_isRead_servicesQuestion :
    ∃ snapshot reply response, parseSource dormLibraries dormGuide = .ok snapshot ∧
      (@ChatbotService.ofEntries latinTables [officialEntry] (some (some snapshot))).ask
        fractionOps servicesQuestion = .ok reply ∧ reply.answer.outcome = .answer ∧
      publicAnswer reply.answer = .ok response ∧
      responseSchema campusWeb response.toJson = some response.read := by
  have hparses : (parseSource dormLibraries dormGuide).toBool = true := by decide +kernel
  obtain ⟨snapshot, hsnapshot⟩ := exists_ok_of_toBool _ hparses
  have hheadings : HasBmpHeadings dormLibraries dormGuide := by
    intro text htext line hline label hlabel
    have hchecked : ((decodeUtf8Sig dormGuide).elim true fun text =>
        (splitLines [] text).all fun line =>
          (heading latinTables line).all isBmpText) = true := by
      decide +kernel
    rw [htext, Option.elim_some, List.all_eq_true] at hchecked
    have hread := hchecked line hline
    have hsame : heading latinTables line = some label := hlabel
    rwa [hsame] at hread
  obtain ⟨reply, hreply⟩ := (exists_verifiedReply_iff
    (show officialEntry.authoritative = true from rfl) .en false).mpr (by decide +kernel)
  have houtcome := (verifiedReply_eq_ok hreply).1
  have hask : (@ChatbotService.ofEntries latinTables [officialEntry]
      (some (some snapshot))).ask fractionOps servicesQuestion = .ok reply := by
    rw [ChatbotService.ask_of_question (by decide +kernel), ChatbotService.answerTo,
      directEntry_servicesQuestion]
    exact hreply
  obtain ⟨response, hpublic, _, _, hread⟩ := @ofEntries_answer_isRead _ dormLibraries campusWeb
    isIsoDate_campusWeb [officialEntry] publishable_officialEntry (some snapshot)
    (fun other hother => ⟨dormGuide, Option.some.inj hother ▸ hsnapshot, hheadings⟩)
    fractionOps servicesQuestion reply hask (by rw [houtcome]; decide)
  exact ⟨snapshot, reply, response, hsnapshot, hask, houtcome, hpublic, hread⟩

end Service

end BuddyWeb
