/-
The client reads every answer which the service gives with an index: outcome and citations of an
answer always agree, over all branches and merges.
-/
import BuddyWeb.Chatbot.AnswerSchema
import BuddyWeb.Chatbot.ServiceTotality

namespace BuddyWeb

variable {tables : WordTables} {φ : Type} {ops : ScoreOps φ} {retriever : Retriever tables}
  {language : Language}

section Citations

/-- A citation of a verified entry. -/
structure Citation.OfEntry (entries : List (Entry tables)) (citation : Citation tables) :
    Prop where
  known : ∃ entry ∈ entries, citationStatus entry.status = some citation.status ∧
    citation.entryId = entry.id ∧ citation.sources = entry.sources
  provenance : citation.provenance = none

/-- A citation of a passage of the guide. -/
structure Citation.OfPassage (named : List Char → Prop) (citation : Citation tables) :
    Prop where
  owner : citation.status.isOwner = true
  ownerId : isOwnerId citation.entryId = true
  sources : ∀ source ∈ citation.sources, startsWith "https://" source.reference = false
  provenance : ∃ provenance, citation.provenance = some provenance ∧
    named provenance.sectionName ∧ provenance.endLine < 1000000

/-- What the answers of the service cite. -/
def Citation.Known (entries : List (Entry tables)) (named : List Char → Prop)
    (citation : Citation tables) : Prop :=
  citation.OfEntry entries ∨ citation.OfPassage named

theorem Citation.Known.status_ne {entries : List (Entry tables)} {named : List Char → Prop}
    {citation : Citation tables} (h : citation.Known entries named) :
    citation.status ≠ .historicalReference := by
  intro hstatus
  rcases h with ⟨⟨entry, _, hentry, _⟩, _⟩ | ⟨howner, _⟩
  · rw [hstatus] at hentry
    cases hverification : entry.status <;> rw [hverification] at hentry <;> cases hentry
  · rw [hstatus] at howner
    cases howner

theorem Citation.validate_eq_ok {entryId : List Char} {sources : List (Source tables)}
    {verifiedOn : Option CalendarDate} {status : CitationStatus}
    {provenance : Option SourceProvenance} {citation : Citation tables}
    (h : Citation.validate entryId sources verifiedOn status provenance = .ok citation) :
    citation.entryId = entryId ∧ citation.sources = sources ∧ citation.status = status ∧
      citation.provenance = provenance := by
  unfold Citation.validate at h
  split at h
  · simp only [Except.ok.injEq] at h
    rw [← h]
    exact ⟨rfl, rfl, rfl, rfl⟩
  · cases h

theorem Source.validate_eq_ok {title reference : List Char} {source : Source tables}
    (h : Source.validate title reference = .ok source) : source.reference = reference := by
  unfold Source.validate at h
  split at h
  · simp only [Except.ok.injEq] at h
    rw [← h]
  · cases h

theorem SourceProvenance.validate_eq_ok {sha256 sectionName : List Char} {first last : Nat}
    {provenance : SourceProvenance}
    (h : SourceProvenance.validate sha256 first last sectionName = .ok provenance) :
    provenance.sectionName = sectionName ∧ provenance.endLine = last := by
  unfold SourceProvenance.validate at h
  split at h
  · simp only [Except.ok.injEq] at h
    rw [← h]
    exact ⟨rfl, rfl⟩
  · cases h

theorem isOwnerId_of_digest {digest : List Char} (h : isSha256Hex digest = true) :
    isOwnerId ("owner-".toList ++ digest.take 20) = true := by
  rw [isSha256Hex, Bool.and_eq_true, decide_eq_true_iff, List.all_eq_true] at h
  have hopening : "owner-".toList = ['o', 'w', 'n', 'e', 'r', '-'] := rfl
  have hlength : (digest.take 20).length = 20 := by
    rw [List.length_take, h.1]
    rfl
  rw [isOwnerId, Bool.and_eq_true, Bool.and_eq_true]
  refine ⟨⟨?_, ?_⟩, ?_⟩
  · exact List.isPrefixOf_iff_prefix.mpr (List.prefix_append _ _)
  · rw [decide_eq_true_iff, List.length_append, hlength, hopening]
    rfl
  · rw [List.all_eq_true, hopening]
    intro char hchar
    exact h.2 char (List.mem_of_mem_take hchar)

variable {libraries : SourceLibraries}

/-- The status of the citation of a passage tells whether the passage is in conflict. -/
theorem passageCitation_known {named : List Char → Prop} {snapshot : Snapshot}
    (haccepted : snapshot.Accepted libraries named) {passage : Passage}
    (hpassage : passage ∈ snapshot.passages) {citation : Citation tables}
    (h : passageCitation snapshot passage = .ok citation) :
    citation.OfPassage named ∧
      (citation.status = .conflicted ↔ passage.policy = .conflicted) := by
  simp only [passageCitation, except_bind_eq_ok_iff] at h
  obtain ⟨source, hsource, provenance, hprovenance, h⟩ := h
  obtain ⟨hid, hsources, hstatus, hsome⟩ := Citation.validate_eq_ok h
  have hparsed := haccepted.passages passage hpassage
  have horigin := SourceProvenance.validate_eq_ok hprovenance
  have howner : citation.status.isOwner = true ∧
      (citation.status = .conflicted ↔ passage.policy = .conflicted) := by
    rw [hstatus]
    split
    · rename_i hconflict
      exact ⟨rfl, by simp [hconflict]⟩
    · rename_i hconflict
      exact ⟨rfl, by simp [hconflict]⟩
  refine ⟨⟨howner.1, ?_, ?_, provenance, hsome, ?_, ?_⟩, howner.2⟩
  · obtain ⟨bytes, hbytes⟩ := hparsed.id_eq
    rw [hid, hbytes]
    exact isOwnerId_of_digest (@isSha256Hex_hexdigest libraries bytes)
  · rw [hsources]
    intro other hother
    rw [List.mem_singleton.mp hother, Source.validate_eq_ok hsource]
    exact (startsWith_guideReference passage).2.1
  · rw [horigin.1]
    exact hparsed.sectionNamed
  · rw [horigin.2]
    exact (haccepted.lines passage hpassage).2.2

end Citations

section Parts

variable {entries : List (Entry tables)} {named : List Char → Prop}

/-- The statuses of answers without citations. -/
def AnswerOutcome.isBare : AnswerOutcome → Bool
  | answer | historicalReference | ownerProvided | conflicted => false
  | clarification | insufficient | chooseLanguage | restricted | unavailable => true

/-- The forms of an answer to one part of a question. -/
inductive Answer.IsPart (entries : List (Entry tables)) (named : List Char → Prop)
    (answer : Answer tables) : Prop
  | bare (citations : answer.citations = []) (outcome : answer.outcome.isBare = true)
  | single (citation : Citation tables) (citations : answer.citations = [citation])
      (known : citation.Known entries named) (status : citation.status ≠ .conflicted)
      (outcome : answer.outcome =
        if citation.status = .ownerProvided then .ownerProvided else .answer)
  | conflicted (citations : answer.citations ≠ [])
      (known : ∀ citation ∈ answer.citations,
        citation.Known entries named ∧ citation.status = .conflicted)
      (outcome : answer.outcome = .conflicted)

/-- Outcome and citations of an answer agree. -/
structure Answer.Agrees (entries : List (Entry tables)) (named : List Char → Prop)
    (answer : Answer tables) : Prop where
  known : ∀ citation ∈ answer.citations, citation.Known entries named
  supported : answer.citations = [] ↔ answer.outcome.isBare = true
  conflicted : answer.outcome = .conflicted ↔
    ∃ citation ∈ answer.citations, citation.status = .conflicted
  owned : answer.outcome = .ownerProvided ↔
    (∀ citation ∈ answer.citations, citation.status ≠ .conflicted) ∧
      ∃ citation ∈ answer.citations, citation.status = .ownerProvided
  current : answer.outcome ≠ .historicalReference

theorem Answer.IsPart.agrees {answer : Answer tables} (h : answer.IsPart entries named) :
    answer.Agrees entries named := by
  cases h with
  | bare citations outcome =>
    refine ⟨by simp [citations], by simp [citations, outcome], ?_, ?_, ?_⟩
    · simp only [citations, List.not_mem_nil, false_and, exists_false, iff_false]
      intro hconflict
      rw [hconflict] at outcome
      cases outcome
    · simp only [citations, List.not_mem_nil, false_and, exists_false, and_false, iff_false]
      intro howned
      rw [howned] at outcome
      cases outcome
    · intro hold
      rw [hold] at outcome
      cases outcome
  | single citation citations known status outcome =>
    refine ⟨by simpa [citations] using known, ?_, ?_, ?_, ?_⟩
    · simp only [citations, List.cons_ne_nil, false_iff, outcome]
      split <;> simp [AnswerOutcome.isBare]
    · simp only [citations, List.mem_singleton, exists_eq_left, outcome, status, iff_false]
      split <;> simp
    · simp only [citations, List.mem_singleton, exists_eq_left, forall_eq, outcome, ne_eq,
        status, not_false_eq_true, true_and]
      split <;> simp_all
    · rw [outcome]
      split <;> simp
  | conflicted citations known outcome =>
    obtain ⟨citation, hcitation⟩ := List.exists_mem_of_ne_nil _ citations
    refine ⟨fun other hother => (known other hother).1, ?_, ?_, ?_, ?_⟩
    · simp [citations, outcome, AnswerOutcome.isBare]
    · simp only [outcome, true_iff]
      exact ⟨citation, hcitation, (known citation hcitation).2⟩
    · simp only [outcome, reduceCtorEq, false_iff, not_and]
      intro hnone
      exact absurd (known citation hcitation).2 (hnone citation hcitation)
    · simp [outcome]

theorem plainReply_isPart {language : AnswerLanguage} {outcome : AnswerOutcome}
    {text : List Char} {reply : Reply tables}
    (h : plainReply language outcome text = .ok reply) (houtcome : outcome.isBare = true) :
    reply.answer.IsPart entries named := by
  have hfields := plainReply_eq_ok h
  exact .bare hfields.2.1 (by rw [hfields.1]; exact houtcome)

theorem verifiedReply_isPart {entry : Entry tables} {guessed : Bool} {reply : Reply tables}
    (hentry : entry ∈ entries) (h : verifiedReply entry language guessed = .ok reply) :
    reply.answer.IsPart entries named := by
  obtain ⟨houtcome, _, status, citation, hstatus, hcitation, hcitations⟩ :=
    verifiedReply_eq_ok h
  obtain ⟨hid, hsources, hcited, hprovenance⟩ := Citation.validate_eq_ok hcitation
  have hplain := (citationStatus_isUndated hstatus).2
  refine .single citation hcitations
    (Or.inl ⟨⟨entry, hentry, by rw [hcited]; exact hstatus, hid, hsources⟩, hprovenance⟩) ?_ ?_
  · rw [hcited]
    intro hconflict
    rw [hconflict] at hplain
    cases hplain
  · rw [houtcome, hcited, if_neg]
    intro howned
    rw [howned] at hplain
    cases hplain

variable {libraries : SourceLibraries}

theorem passagesReply_isPart {snapshot : Snapshot} (haccepted : snapshot.Accepted libraries named)
    {text : List Char} {passages : List Passage} (hsome : passages ≠ [])
    (hsound : SoundSelection snapshot passages) {reply : Reply tables}
    (h : passagesReply text language snapshot passages = .ok reply) :
    reply.answer.IsPart entries named := by
  have hreply := passagesReply_eq_ok h
  split at hreply
  · exact .bare hreply.2.1 (by rw [hreply.1]; rfl)
  · obtain ⟨houtcome, hcitations, _⟩ := hreply
    have hknown : ∀ citation ∈ reply.answer.citations, ∃ passage ∈ passages,
        citation.OfPassage named ∧
          (citation.status = .conflicted ↔ passage.policy = .conflicted) := by
      intro citation hcitation
      obtain ⟨passage, hpassage, hcited⟩ := exists_of_mem_mapM hcitations hcitation
      exact ⟨passage, hpassage, passageCitation_known haccepted (hsound.known passage hpassage)
        hcited⟩
    obtain ⟨values, hvalues, hlength⟩ := exists_mapM_ok (exists_ok_of_mapM hcitations)
    rw [hcitations] at hvalues
    rw [← Except.ok.inj hvalues] at hlength
    rcases hsound.uniform with hconflict | ⟨hone, hplain⟩
    · obtain ⟨passage, hpassage⟩ := List.exists_mem_of_ne_nil _ hsome
      refine .conflicted ?_ ?_ ?_
      · intro hnil
        rw [hnil] at hlength
        exact hsome (List.length_eq_zero_iff.mp hlength.symm)
      · intro citation hcitation
        obtain ⟨cited, hcited, hof, hstatus⟩ := hknown citation hcitation
        exact ⟨Or.inr hof, hstatus.mpr (hconflict cited hcited)⟩
      · rw [houtcome, if_pos]
        exact List.any_eq_true.mpr ⟨passage, hpassage, by simp [hconflict passage hpassage]⟩
    · have hpositive := List.length_pos_iff.mpr hsome
      obtain ⟨citation, hcitation⟩ : ∃ citation, reply.answer.citations = [citation] :=
        List.length_eq_one_iff.mp (by omega)
      obtain ⟨passage, hpassage, hof, hstatus⟩ := hknown citation (by simp [hcitation])
      have hne : citation.status ≠ .conflicted :=
        fun hconflict => hplain passage hpassage (hstatus.mp hconflict)
      have howned : citation.status = .ownerProvided := by
        have howner := hof.owner
        cases hcase : citation.status with
        | ownerProvided => rfl
        | conflicted => exact absurd hcase hne
        | verifiedOfficial | verifiedCode | historicalReference =>
          rw [hcase] at howner
          cases howner
      refine .single citation hcitation (Or.inr hof) hne ?_
      rw [houtcome, howned, if_neg, if_pos rfl]
      intro hany
      obtain ⟨cited, hcited, hpolicy⟩ := List.any_eq_true.mp hany
      exact hplain cited hcited (by simpa using hpolicy)

theorem sourceAnswer_isPart (hentries : ∀ entry, entry ∈ retriever.entries ∨
      entry ∈ retriever.historicalEntries → entry ∈ entries) {snapshot : Option Snapshot}
    (haccepted : ∀ parsed, snapshot = some parsed → parsed.Accepted libraries named)
    {text : List Char} {reply : Reply tables}
    (h : sourceAnswer ops retriever text language snapshot = .ok reply) :
    reply.answer.IsPart entries named := by
  have hsound := @sourceRoute_sound tables φ ops retriever snapshot text language
  unfold sourceAnswer at h
  cases hroute : sourceRoute ops retriever text language snapshot with
  | verified entry guessed =>
    rw [hroute] at h hsound
    exact verifiedReply_isPart (hentries entry hsound) h
  | clarification =>
    rw [hroute] at h
    exact plainReply_isPart h rfl
  | unavailable =>
    rw [hroute] at h
    exact plainReply_isPart h rfl
  | insufficient =>
    rw [hroute] at h
    exact plainReply_isPart h rfl
  | passages parsed chosen =>
    rw [hroute] at h hsound
    obtain ⟨hparsed, hsome, hselection⟩ := hsound
    exact passagesReply_isPart (haccepted parsed hparsed) hsome hselection h

namespace MergedParts

/-- Outcomes and citations of the merged parts agree. -/
structure Agrees (entries : List (Entry tables)) (named : List Char → Prop)
    (merged : MergedParts tables) : Prop where
  known : ∀ citation ∈ merged.citations, citation.Known entries named
  supported : merged.texts ≠ [] → merged.citations ≠ []
  conflicted : .conflicted ∈ merged.outcomes ↔
    ∃ citation ∈ merged.citations, citation.status = .conflicted
  owned : .conflicted ∉ merged.outcomes → .ownerProvided ∈ merged.outcomes →
    ∃ citation ∈ merged.citations, citation.status = .ownerProvided
  ownedOnly : ∀ citation ∈ merged.citations, citation.status = .ownerProvided →
    .ownerProvided ∈ merged.outcomes

theorem agrees_start : ({} : MergedParts tables).Agrees entries named :=
  ⟨by simp, fun h => absurd rfl h, by simp, by simp, by simp⟩

theorem mem_cite {citations : List (Citation tables)} {citation other : Citation tables}
    (h : other ∈ cite citations citation) : other ∈ citations ∨ other = citation := by
  unfold cite at h
  split at h
  · split at h
    · obtain ⟨old, hold, hother⟩ := List.mem_map.mp h
      split at hother
      · exact Or.inr hother.symm
      · exact Or.inl (hother ▸ hold)
    · rcases List.mem_append.mp h with hold | hnew
      · exact Or.inl hold
      · exact Or.inr (List.mem_singleton.mp hnew)
  · exact Or.inl h

theorem mem_foldl_cite {added citations : List (Citation tables)} {other : Citation tables}
    (h : other ∈ added.foldl cite citations) : other ∈ citations ∨ other ∈ added := by
  induction added generalizing citations with
  | nil => exact Or.inl h
  | cons citation rest ih =>
    rcases ih h with hcited | hrest
    · rcases mem_cite hcited with hold | hnew
      · exact Or.inl hold
      · exact Or.inr (hnew ▸ List.mem_cons_self)
    · exact Or.inr (List.mem_cons_of_mem _ hrest)

/-- Citing keeps what holds of some citation, when it holds of the new one. -/
theorem exists_mem_cite {p : Citation tables → Prop} {citations : List (Citation tables)}
    {citation : Citation tables} (hnew : p citation)
    (h : citations.length < 3 ∨ ∃ other ∈ citations, p other) :
    ∃ other ∈ cite citations citation, p other := by
  unfold cite
  split
  · split
    · rename_i hany
      obtain ⟨old, hold, hid⟩ := List.any_eq_true.mp hany
      exact ⟨citation, List.mem_map.mpr ⟨old, hold, if_pos (by simpa using hid)⟩, hnew⟩
    · exact ⟨citation, List.mem_append_right _ (List.mem_singleton_self _), hnew⟩
  · rename_i hfull
    exact h.resolve_left hfull

theorem exists_mem_foldl_cite {p : Citation tables → Prop}
    {added citations : List (Citation tables)} (hadded : ∀ citation ∈ added, p citation)
    (h : ∃ other ∈ citations, p other) : ∃ other ∈ added.foldl cite citations, p other := by
  induction added generalizing citations with
  | nil => exact h
  | cons citation rest ih =>
    obtain ⟨hcitation, hrest⟩ := List.forall_mem_cons.mp hadded
    exact ih hrest (exists_mem_cite hcitation (Or.inr h))

theorem cite_of_fresh {citations : List (Citation tables)} {citation : Citation tables}
    (hlength : citations.length < 3)
    (hfresh : (citations.any fun other => other.entryId == citation.entryId) = false) :
    cite citations citation = citations ++ [citation] := by
  simp [cite, hlength, hfresh]

theorem hasCitation_of_newIds {merged : MergedParts tables} {answer : Answer tables}
    {citation : Citation tables} (hcitations : answer.citations = [citation])
    (hnew : merged.newIds answer ≠ []) : merged.hasCitation citation.entryId = false := by
  by_contra hknown
  rw [Bool.not_eq_false] at hknown
  apply hnew
  rw [newIds, hcitations, List.filter_eq_nil_iff]
  intro entryId hid
  rw [List.mem_dedup, List.map_singleton, List.mem_singleton] at hid
  simp [hid, hknown]

/-- A single citation is new and comes last. -/
theorem Agrees.addSingle {merged : MergedParts tables} (h : merged.Agrees entries named)
    {citation : Citation tables} (known : citation.Known entries named)
    (status : citation.status ≠ .conflicted) {outcome : AnswerOutcome}
    (houtcome : outcome = if citation.status = .ownerProvided then .ownerProvided else .answer)
    (text : List Char) (cited : List Passage) :
    ({ merged with
      texts := merged.texts ++ [text]
      outcomes := merged.outcomes ++ [outcome]
      citations := merged.citations ++ [citation]
      cited := merged.cited ++ cited } : MergedParts tables).Agrees entries named := by
  have hplain : outcome ≠ .conflicted := by
    rw [houtcome]
    split <;> simp
  have howned : outcome = .ownerProvided ↔ citation.status = .ownerProvided := by
    rw [houtcome]
    split <;> simp_all
  refine ⟨?_, fun _ => by simp, ?_, ?_, ?_⟩
  · rw [List.forall_mem_append]
    exact ⟨h.known, by simpa using known⟩
  · simp only [List.mem_append, List.mem_singleton, Ne.symm hplain, or_false, h.conflicted]
    constructor
    · rintro ⟨other, hother, hconflict⟩
      exact ⟨other, Or.inl hother, hconflict⟩
    · rintro ⟨other, hother | hother, hconflict⟩
      · exact ⟨other, hother, hconflict⟩
      · exact absurd (hother ▸ hconflict) status
  · intro hnone howner
    simp only [List.mem_append, List.mem_singleton, not_or] at hnone howner ⊢
    rcases howner with hold | hnew
    · obtain ⟨other, hother, hstatus⟩ := h.owned hnone.1 hold
      exact ⟨other, Or.inl hother, hstatus⟩
    · exact ⟨citation, Or.inr rfl, howned.mp hnew.symm⟩
  · intro other hother hstatus
    simp only [List.mem_append, List.mem_singleton] at hother ⊢
    rcases hother with hold | hnew
    · exact Or.inl (h.ownedOnly other hold hstatus)
    · exact Or.inr (howned.mpr (hnew ▸ hstatus)).symm

/-- Citations in conflict may replace others, and stay. -/
theorem Agrees.addConflicted {merged : MergedParts tables} (h : merged.Agrees entries named)
    (hroom : merged.citations.length < 3) {added : List (Citation tables)} (hadded : added ≠ [])
    (known : ∀ citation ∈ added, citation.Known entries named ∧ citation.status = .conflicted)
    (text : List Char) (cited : List Passage) :
    ({ merged with
      texts := merged.texts ++ [text]
      outcomes := merged.outcomes ++ [.conflicted]
      citations := added.foldl cite merged.citations
      cited := merged.cited ++ cited } : MergedParts tables).Agrees entries named := by
  have hconflict : ∃ other ∈ added.foldl cite merged.citations, other.status = .conflicted := by
    cases added with
    | nil => exact absurd rfl hadded
    | cons citation rest =>
      obtain ⟨hcitation, hrest⟩ := List.forall_mem_cons.mp known
      have hfirst := @exists_mem_cite _ (fun other => other.status = .conflicted) _ _
        hcitation.2 (Or.inl hroom)
      rw [List.foldl_cons]
      exact exists_mem_foldl_cite (fun other hother => (hrest other hother).2) hfirst
  refine ⟨?_, fun _ => ?_, ?_, ?_, ?_⟩
  · intro other hother
    rcases mem_foldl_cite hother with hold | hnew
    · exact h.known other hold
    · exact (known other hnew).1
  · obtain ⟨other, hother, _⟩ := hconflict
    exact List.ne_nil_of_mem hother
  · simpa using hconflict
  · intro hnone
    simp at hnone
  · intro other hother hstatus
    rcases mem_foldl_cite hother with hold | hnew
    · exact List.mem_append_left _ (h.ownedOnly other hold hstatus)
    · rw [(known other hnew).2] at hstatus
      cases hstatus

/-- One answer with room, with a single citation or with citations in conflict. -/
theorem Agrees.add {merged : MergedParts tables} (h : merged.Agrees entries named)
    {reply : Reply tables} (hreply : reply.answer.IsPart entries named) :
    (merged.add language reply).Agrees entries named := by
  have hmissing : ({ merged with missing := true } : MergedParts tables).Agrees entries named :=
    ⟨h.known, h.supported, h.conflicted, h.owned, h.ownedOnly⟩
  unfold MergedParts.add
  split
  · exact hmissing
  · rename_i hcitations
    split
    · exact h
    · rename_i hnew
      split
      · exact hmissing
      · rename_i hcount
        split
        · exact hmissing
        · have hpositive := List.length_pos_iff.mpr hnew
          have hroom : merged.citations.length < 3 := by omega
          cases hreply with
          | bare citations _ => exact absurd citations hcitations
          | single citation citations known status outcome =>
            have hfresh := hasCitation_of_newIds citations hnew
            rw [citations, List.foldl_cons, List.foldl_nil, cite_of_fresh hroom hfresh]
            exact h.addSingle known status outcome _ _
          | conflicted citations known outcome =>
            rw [outcome]
            exact h.addConflicted hroom citations known _ _

theorem agrees_foldl (replies : List (Reply tables))
    (hreplies : ∀ reply ∈ replies, reply.answer.IsPart entries named)
    {merged : MergedParts tables} (h : merged.Agrees entries named) :
    (replies.foldl (MergedParts.add · language) merged).Agrees entries named := by
  induction replies generalizing merged with
  | nil => exact h
  | cons reply rest ih =>
    obtain ⟨hreply, hrest⟩ := List.forall_mem_cons.mp hreplies
    exact ih hrest (h.add hreply)

/-- The outcome of the merge agrees with its citations. -/
theorem Agrees.answer {merged : MergedParts tables} (h : merged.Agrees entries named)
    (htexts : merged.texts ≠ []) {answer : Answer tables}
    (hcitations : answer.citations = merged.citations)
    (houtcome : answer.outcome = merged.outcome) : answer.Agrees entries named := by
  have hsome := h.supported htexts
  have hbare : answer.outcome.isBare = false := by
    rw [houtcome, outcome]
    split
    · rfl
    · split <;> rfl
  refine ⟨?_, ?_, ?_, ?_, ?_⟩
  · rw [hcitations]
    exact h.known
  · rw [hcitations, hbare]
    simp [hsome]
  · rw [hcitations, ← h.conflicted, houtcome, outcome]
    split
    · rename_i hconflict
      simp [hconflict]
    · rename_i hconflict
      split <;> simp [hconflict]
  · rw [hcitations, houtcome, outcome]
    split
    · rename_i hconflict
      obtain ⟨citation, hcitation, hstatus⟩ := h.conflicted.mp hconflict
      simp only [reduceCtorEq, false_iff, not_and]
      intro hnone
      exact absurd hstatus (hnone citation hcitation)
    · rename_i hplain
      have hnone : ∀ citation ∈ merged.citations, citation.status ≠ .conflicted :=
        fun citation hcitation hstatus =>
          hplain (h.conflicted.mpr ⟨citation, hcitation, hstatus⟩)
      split
      · rename_i howned
        exact iff_of_true rfl ⟨hnone, h.owned hplain howned⟩
      · rename_i hunowned
        simp only [reduceCtorEq, false_iff, not_and]
        rintro _ ⟨citation, hcitation, hstatus⟩
        exact hunowned (h.ownedOnly citation hcitation hstatus)
  · rw [houtcome, outcome]
    split
    · simp
    · split <;> simp

end MergedParts

theorem sourceParts_agrees (hentries : ∀ entry, entry ∈ retriever.entries ∨
      entry ∈ retriever.historicalEntries → entry ∈ entries) {snapshot : Option Snapshot}
    (haccepted : ∀ parsed, snapshot = some parsed → parsed.Accepted libraries named)
    {parts : List (List Char)} {reply : Reply tables}
    (h : sourceParts ops retriever parts language snapshot = .ok reply) :
    reply.answer.Agrees entries named := by
  unfold sourceParts at h
  split at h
  · exact (plainReply_isPart h rfl).agrees
  · simp only [except_bind_eq_ok_iff] at h
    obtain ⟨replies, hreplies, h⟩ := h
    have hmerged := @MergedParts.agrees_foldl tables language entries named replies
      (fun reply hreply => by
        obtain ⟨part, _, hpart⟩ := exists_of_mem_mapM hreplies hreply
        exact sourceAnswer_isPart hentries haccepted hpart) {} MergedParts.agrees_start
    split at h
    · exact (plainReply_isPart h rfl).agrees
    · rename_i htexts
      simp only [except_bind_eq_ok_iff, except_pure_eq_ok_iff] at h
      obtain ⟨answer, hanswer, hreply⟩ := h
      have hfields := Answer.validate_eq_ok hanswer
      rw [← hreply]
      exact hmerged.answer htexts hfields.2.2 hfields.1

end Parts

section Service

variable {service : ChatbotService tables} {text : List Char} {entries : List (Entry tables)}
  {named : List Char → Prop} {libraries : SourceLibraries}

/-- With an index every answer agrees with its citations. -/
theorem ChatbotService.answerTo_agrees (hretriever : service.retriever = some retriever)
    {parsed : Option Snapshot} (hindex : service.sourceIndex = some parsed)
    (hentries : ∀ entry, entry ∈ retriever.entries ∨
      entry ∈ retriever.historicalEntries → entry ∈ entries)
    (haccepted : ∀ snapshot, parsed = some snapshot → snapshot.Accepted libraries named)
    {reply : Reply tables} (h : service.answerTo ops text = .ok reply) :
    reply.answer.Agrees entries named := by
  unfold ChatbotService.answerTo at h
  split at h
  · rename_i entry language hdirect
    have hentry := (ChatbotService.mem_of_directEntry hretriever hdirect).2
    exact (verifiedReply_isPart (hentries entry hentry) h).agrees
  · split at h
    · exact (plainReply_isPart h rfl).agrees
    · rename_i language _
      unfold ChatbotService.answerIn at h
      simp only [hretriever, hindex] at h
      split at h
      · exact (plainReply_isPart h rfl).agrees
      · split at h
        · exact sourceParts_agrees hentries haccepted h
        · exact (sourceAnswer_isPart hentries haccepted h).agrees

end Service

end BuddyWeb
