/-
Where the citations of an answer come from: over all branches and merges the provenances are
those of the cited passages, and under headings without an instruction none names one.
-/
import BuddyWeb.Chatbot.AnswerAgreement
import BuddyWeb.Chatbot.QuotedSections
import BuddyWeb.Lib.TableHistory

namespace BuddyWeb

variable {tables : WordTables} {φ : Type} {ops : ScoreOps φ} {retriever : Retriever tables}
  {language : Language} {snapshot : Option Snapshot}

/-- The provenances among citations are those of cited passages: each is that of one of them,
and each of them is named. -/
structure TracesPassages (snapshot : Option Snapshot) (citations : List (Citation tables))
    (cited : List Passage) : Prop where
  traced : ∀ citation ∈ citations, citation.provenance ≠ none → ∃ parsed passage,
    snapshot = some parsed ∧ passage ∈ cited ∧ passageCitation parsed passage = .ok citation
  named : ∀ passage ∈ cited, passage.id ∈ citations.map Citation.entryId

section Branches

theorem passageCitation_eq_ok {parsed : Snapshot} {passage : Passage}
    {citation : Citation tables} (h : passageCitation parsed passage = .ok citation) :
    citation.entryId = passage.id ∧ ∃ provenance, citation.provenance = some provenance ∧
      provenance.sectionName = passage.sectionName := by
  simp only [passageCitation, except_bind_eq_ok_iff] at h
  obtain ⟨_, _, provenance, hprovenance, h⟩ := h
  obtain ⟨hid, _, _, hsome⟩ := Citation.validate_eq_ok h
  exact ⟨hid, provenance, hsome, (SourceProvenance.validate_eq_ok hprovenance).1⟩

theorem tracesPassages_nil :
    TracesPassages snapshot ([] : List (Citation tables)) [] :=
  ⟨by simp, by simp⟩

theorem plainReply_traces {language : AnswerLanguage} {outcome : AnswerOutcome}
    {text : List Char} {reply : Reply tables}
    (h : plainReply language outcome text = .ok reply) :
    TracesPassages snapshot reply.answer.citations reply.cited := by
  obtain ⟨_, hcitations, hcited⟩ := plainReply_eq_ok h
  rw [hcitations, hcited]
  exact tracesPassages_nil

theorem verifiedReply_traces {entry : Entry tables} {guessed : Bool} {reply : Reply tables}
    (h : verifiedReply entry language guessed = .ok reply) :
    TracesPassages snapshot reply.answer.citations reply.cited := by
  obtain ⟨_, hcited, _, citation, _, hcitation, hcitations⟩ := verifiedReply_eq_ok h
  rw [hcitations, hcited]
  refine ⟨?_, by simp⟩
  rw [List.forall_mem_singleton]
  intro hprovenance
  exact absurd (Citation.validate_eq_ok hcitation).2.2.2 hprovenance

theorem passagesReply_traces {parsed : Snapshot} {text : List Char} {passages : List Passage}
    {reply : Reply tables} (h : passagesReply text language parsed passages = .ok reply) :
    TracesPassages (some parsed) reply.answer.citations reply.cited := by
  have hreply := passagesReply_eq_ok h
  split at hreply
  · rw [hreply.2.1, hreply.2.2]
    exact tracesPassages_nil
  · obtain ⟨_, hcitations, hcited⟩ := hreply
    rw [hcited]
    constructor
    · intro citation hcitation _
      obtain ⟨passage, hpassage, hcites⟩ := exists_of_mem_mapM hcitations hcitation
      exact ⟨parsed, passage, rfl, hpassage, hcites⟩
    · intro passage hpassage
      obtain ⟨citation, hcitation, hcites⟩ :=
        exists_right_of_forall₂ (forall₂_of_mapM hcitations) hpassage
      exact List.mem_map.mpr ⟨citation, hcitation, (passageCitation_eq_ok hcites).1⟩

theorem sourceAnswer_traces {text : List Char} {reply : Reply tables}
    (h : sourceAnswer ops retriever text language snapshot = .ok reply) :
    TracesPassages snapshot reply.answer.citations reply.cited := by
  have hsound := @sourceRoute_sound tables φ ops retriever snapshot text language
  unfold sourceAnswer at h
  cases hroute : sourceRoute ops retriever text language snapshot with
  | verified entry guessed =>
    rw [hroute] at h
    exact verifiedReply_traces h
  | clarification =>
    rw [hroute] at h
    exact plainReply_traces h
  | unavailable =>
    rw [hroute] at h
    exact plainReply_traces h
  | insufficient =>
    rw [hroute] at h
    exact plainReply_traces h
  | passages parsed chosen =>
    rw [hroute] at h hsound
    rw [hsound.1]
    exact passagesReply_traces h

end Branches

section Merges

namespace MergedParts

variable {citations added : List (Citation tables)} {citation : Citation tables}

/-- Citing adds an id which is not there yet while the dictionary has room. -/
theorem map_entryId_cite :
    (cite citations citation).map Citation.entryId =
      if citations.length < 3 ∧ citation.entryId ∉ citations.map Citation.entryId then
        citations.map Citation.entryId ++ [citation.entryId]
      else citations.map Citation.entryId := by
  have hany : (citations.any fun other => other.entryId == citation.entryId) = true ↔
      citation.entryId ∈ citations.map Citation.entryId := by
    simp only [List.any_eq_true, beq_iff_eq, List.mem_map]
  unfold cite
  by_cases hroom : citations.length < 3
  · by_cases hknown : citation.entryId ∈ citations.map Citation.entryId
    · rw [if_pos hroom, if_pos (hany.mpr hknown), if_neg (fun h => h.2 hknown), List.map_map]
      apply List.map_congr_left
      intro other _
      by_cases hsame : other.entryId = citation.entryId
      · simp [hsame]
      · simp [hsame]
    · rw [if_pos hroom, if_neg (fun h => hknown (hany.mp h)), if_pos ⟨hroom, hknown⟩,
        List.map_append, List.map_singleton]
  · rw [if_neg hroom, if_neg fun h => hroom h.1]

/-- As long as the new ids have room beside the old ones, all of them are in the dictionary. -/
theorem entryId_mem_foldl_cite
    (hroom : ∀ ids : List (List Char), ids.Nodup →
      (∀ id ∈ ids, id ∈ added.map Citation.entryId ∧ id ∉ citations.map Citation.entryId) →
        citations.length + ids.length ≤ 3) {id : List Char}
    (h : id ∈ citations.map Citation.entryId ∨ id ∈ added.map Citation.entryId) :
    id ∈ (added.foldl cite citations).map Citation.entryId := by
  induction added generalizing citations with
  | nil =>
    rcases h with hold | hnew
    · exact hold
    · exact absurd hnew (by simp)
  | cons citation rest ih =>
    by_cases hknown : citation.entryId ∈ citations.map Citation.entryId
    · have hids : (cite citations citation).map Citation.entryId =
          citations.map Citation.entryId := by
        rw [map_entryId_cite, if_neg fun hfresh => hfresh.2 hknown]
      have hlength : (cite citations citation).length = citations.length := by
        simpa using congrArg List.length hids
      refine ih (fun ids hnodup hfresh => ?_) ?_
      · rw [hlength]
        refine hroom ids hnodup fun other hother => ?_
        rw [hids] at hfresh
        exact ⟨List.mem_cons_of_mem _ (hfresh other hother).1, (hfresh other hother).2⟩
      · rw [hids]
        rcases h with hold | hnew
        · exact Or.inl hold
        · rcases List.mem_cons.mp hnew with hsame | hrest
          · exact Or.inl (hsame ▸ hknown)
          · exact Or.inr hrest
    · have hplace : citations.length < 3 :=
        hroom [citation.entryId] (List.nodup_singleton _) (by simpa using hknown)
      have hids : (cite citations citation).map Citation.entryId =
          citations.map Citation.entryId ++ [citation.entryId] := by
        rw [map_entryId_cite, if_pos ⟨hplace, hknown⟩]
      have hlength : (cite citations citation).length = citations.length + 1 := by
        simpa using congrArg List.length hids
      refine ih (fun ids hnodup hfresh => ?_) ?_
      · rw [hids] at hfresh
        have hmore := hroom (citation.entryId :: ids)
          (List.nodup_cons.mpr ⟨fun hmem => (hfresh _ hmem).2 (by simp), hnodup⟩) ?_
        · rw [List.length_cons] at hmore
          omega
        · rw [List.forall_mem_cons]
          refine ⟨⟨by simp, hknown⟩, fun other hother => ?_⟩
          obtain ⟨hrest, hnew⟩ := hfresh other hother
          exact ⟨List.mem_cons_of_mem _ hrest, fun hold => hnew (List.mem_append_left _ hold)⟩
      · rw [hids, List.mem_append, List.mem_singleton]
        rcases h with hold | hnew
        · exact Or.inl (Or.inl hold)
        · rcases List.mem_cons.mp hnew with hsame | hrest
          · exact Or.inl (Or.inr hsame)
          · exact Or.inr hrest

variable {merged : MergedParts tables}

/-- The room of an answer is counted in its new ids. -/
theorem HasRoom.counts {answer : Answer tables} (h : merged.HasRoom language answer)
    {ids : List (List Char)} (hnodup : ids.Nodup)
    (hfresh : ∀ id ∈ ids, id ∈ answer.citations.map Citation.entryId ∧
      id ∉ merged.citations.map Citation.entryId) :
    merged.citations.length + ids.length ≤ 3 := by
  have hsubset : ids ⊆ merged.newIds answer := by
    intro id hid
    obtain ⟨hadded, hnew⟩ := hfresh id hid
    rw [newIds, List.mem_filter, List.mem_dedup]
    refine ⟨hadded, ?_⟩
    simpa [hasCitation, List.mem_map] using hnew
  have hlength := (hnodup.subperm hsubset).length_le
  have hcount := h.2.2.1
  omega

theorem traces_add {reply : Reply tables}
    (h : TracesPassages snapshot merged.citations merged.cited)
    (hreply : TracesPassages snapshot reply.answer.citations reply.cited) :
    TracesPassages snapshot (merged.add language reply).citations
      (merged.add language reply).cited := by
  by_cases hroom : merged.HasRoom language reply.answer
  · have hadded := add_of_hasRoom hroom
    rw [hadded.1, hadded.2.2]
    constructor
    · intro citation hcitation hprovenance
      rcases mem_foldl_cite hcitation with hold | hnew
      · obtain ⟨parsed, passage, hparsed, hpassage, hcites⟩ := h.traced citation hold hprovenance
        exact ⟨parsed, passage, hparsed, List.mem_append_left _ hpassage, hcites⟩
      · obtain ⟨parsed, passage, hparsed, hpassage, hcites⟩ :=
          hreply.traced citation hnew hprovenance
        exact ⟨parsed, passage, hparsed, List.mem_append_right _ hpassage, hcites⟩
    · intro passage hpassage
      refine entryId_mem_foldl_cite (fun ids hnodup hfresh => hroom.counts hnodup hfresh) ?_
      exact (List.mem_append.mp hpassage).imp (h.named passage) (hreply.named passage)
  · have hkept := add_of_not_hasRoom hroom
    rw [hkept.1, hkept.2.2]
    exact h

theorem traces_foldl {replies : List (Reply tables)}
    (h : TracesPassages snapshot merged.citations merged.cited)
    (hreplies : ∀ reply ∈ replies,
      TracesPassages snapshot reply.answer.citations reply.cited) :
    TracesPassages snapshot (replies.foldl (MergedParts.add · language) merged).citations
      (replies.foldl (MergedParts.add · language) merged).cited := by
  induction replies generalizing merged with
  | nil => exact h
  | cons reply rest ih =>
    obtain ⟨hreply, hrest⟩ := List.forall_mem_cons.mp hreplies
    exact ih (traces_add h hreply) hrest

end MergedParts

theorem sourceParts_traces {parts : List (List Char)} {reply : Reply tables}
    (h : sourceParts ops retriever parts language snapshot = .ok reply) :
    TracesPassages snapshot reply.answer.citations reply.cited := by
  unfold sourceParts at h
  split at h
  · exact plainReply_traces h
  · simp only [except_bind_eq_ok_iff] at h
    obtain ⟨replies, hreplies, h⟩ := h
    have hmerged : TracesPassages snapshot (mergedParts language replies).citations
        (mergedParts language replies).cited := by
      refine MergedParts.traces_foldl tracesPassages_nil fun part hpart => ?_
      obtain ⟨text, _, hanswer⟩ := exists_of_mem_mapM hreplies hpart
      exact sourceAnswer_traces hanswer
    split at h
    · exact plainReply_traces h
    · simp only [except_bind_eq_ok_iff, except_pure_eq_ok_iff] at h
      obtain ⟨answer, hanswer, hreply⟩ := h
      rw [← hreply, (Answer.validate_eq_ok hanswer).2.2]
      exact hmerged

end Merges

namespace ChatbotService

variable {service : ChatbotService tables} {text : List Char} {reply : Reply tables}

/-- The provenances of an answer with an index are those of the passages which it cites. -/
theorem ask_traces (hindex : service.sourceIndex = some snapshot)
    (h : service.ask ops text = .ok reply) :
    TracesPassages snapshot reply.answer.citations reply.cited := by
  have hanswer := (ask_eq_ok h).2
  unfold answerTo at hanswer
  split at hanswer
  · exact verifiedReply_traces hanswer
  · split at hanswer
    · exact plainReply_traces hanswer
    · unfold answerIn at hanswer
      split at hanswer
      · exact plainReply_traces hanswer
      · split at hanswer
        · exact plainReply_traces hanswer
        · split at hanswer
          · rename_i parsed hparsed
            rw [hindex, Option.some.injEq] at hparsed
            rw [hparsed]
            split at hanswer
            · exact sourceParts_traces hanswer
            · exact sourceAnswer_traces hanswer
          · rename_i hnone
            rw [hindex] at hnone
            cases hnone

variable {libraries : SourceLibraries}

/-- Where no heading of a quotable passage names an instruction, no answer to any question
repeats one, and none is named by a provenance. -/
theorem ask_of_headings {parsed : Snapshot} (hindex : service.sourceIndex = some (some parsed))
    (hparsed : ∃ raw, parseSource libraries raw = .ok parsed)
    (hheadings : ∀ passage ∈ parsed.passages, passage.policy ≠ .instruction →
      instructionPattern.search passage.sectionName = false)
    (h : service.ask ops text = .ok reply) :
    ¬ reply.RepeatsInstruction ∧ ∀ citation ∈ reply.answer.citations,
      ∀ provenance ∈ citation.provenance,
        instructionPattern.search provenance.sectionName = false := by
  have hsource : ∀ snapshot, service.sourceIndex = some (some snapshot) → snapshot = parsed := by
    intro snapshot hsnapshot
    exact Option.some.inj (Option.some.inj (hsnapshot.symm.trans hindex))
  have hclean : ∀ passage, service.Cites ops text passage →
      instructionPattern.search passage.sectionName = false := by
    intro passage hcites
    obtain ⟨snapshot, hsnapshot, hmem, hpolicy⟩ := hcites.known
    rw [hsource snapshot hsnapshot] at hmem
    exact hheadings passage hmem hpolicy
  constructor
  · intro hrepeats
    obtain ⟨passage, hcites, hsection⟩ := (repeatsInstruction_iff h
      fun snapshot hsnapshot => hsource snapshot hsnapshot ▸ hparsed).mp hrepeats
    rw [hclean passage hcites] at hsection
    cases hsection
  · intro citation hcitation provenance hprovenance
    obtain ⟨_, passage, _, hpassage, hcites⟩ := (ask_traces hindex h).traced citation hcitation
      (Option.ne_none_iff_exists'.mpr ⟨provenance, hprovenance⟩)
    obtain ⟨_, other, hother, hsection⟩ := passageCitation_eq_ok hcites
    rw [hprovenance, Option.some.injEq] at hother
    rw [hother, hsection]
    exact hclean passage ((answerTo_mem_cited_iff (ask_eq_ok h).2).mp hpassage)

end ChatbotService

end BuddyWeb
