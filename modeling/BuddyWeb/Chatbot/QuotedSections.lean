/-
Which texts of the guide an answer repeats: no sentence with an instruction, and the label of
a heading with one exactly when a passage under it is shown.
-/
import BuddyWeb.Chatbot.ServiceTotality

namespace BuddyWeb

variable {tables : WordTables} {φ : Type} {ops : ScoreOps φ} {retriever : Retriever tables}
  {language : Language}

/-- The filter finds an instruction in the body of a cited passage, or in the label of the
section it is shown under. -/
def Reply.RepeatsInstruction (reply : Reply tables) : Prop :=
  ∃ passage ∈ reply.cited, instructionPattern.search passage.text = true ∨
    instructionPattern.search passage.sectionName = true

section Routes

/-- The passages which answer a question and are not kept back. -/
def shownPassages (ops : ScoreOps φ) (retriever : Retriever tables) (text : List Char)
    (language : Language) (snapshot : Option Snapshot) : List Passage :=
  match sourceRoute ops retriever text language snapshot with
  | .passages _ chosen => if isWithheld tables text chosen then [] else chosen
  | .verified _ _ | .clarification | .unavailable | .insufficient => []

variable {snapshot : Option Snapshot}

theorem sourceAnswer_cited {text : List Char} {reply : Reply tables}
    (h : sourceAnswer ops retriever text language snapshot = .ok reply) :
    reply.cited = shownPassages ops retriever text language snapshot := by
  unfold sourceAnswer at h
  unfold shownPassages
  cases hroute : sourceRoute ops retriever text language snapshot with
  | verified entry guessed =>
    rw [hroute] at h
    exact (verifiedReply_eq_ok h).2.1
  | clarification =>
    rw [hroute] at h
    exact (plainReply_eq_ok h).2.2
  | unavailable =>
    rw [hroute] at h
    exact (plainReply_eq_ok h).2.2
  | insufficient =>
    rw [hroute] at h
    exact (plainReply_eq_ok h).2.2
  | passages parsed chosen =>
    rw [hroute] at h
    have hreply := passagesReply_eq_ok h
    dsimp only
    split at hreply
    · rename_i hwithheld
      rw [if_pos hwithheld]
      exact hreply.2.2
    · rename_i hwithheld
      rw [if_neg hwithheld]
      exact hreply.2.2

/-- Shown passages are passages of the guide without an instruction in them. -/
theorem mem_shownPassages {text : List Char} {passage : Passage}
    (h : passage ∈ shownPassages ops retriever text language snapshot) :
    ∃ parsed, snapshot = some parsed ∧ passage ∈ parsed.passages ∧
      passage.policy ≠ .instruction := by
  have hsound := @sourceRoute_sound tables φ ops retriever snapshot text language
  unfold shownPassages at h
  cases hroute : sourceRoute ops retriever text language snapshot with
  | passages parsed chosen =>
    rw [hroute] at h hsound
    obtain ⟨hparsed, _, hselection⟩ := hsound
    dsimp only at h
    split at h
    · simp at h
    · exact ⟨parsed, hparsed, hselection.known passage h, hselection.quotable passage h⟩
  | verified entry guessed => simp [hroute] at h
  | clarification => simp [hroute] at h
  | unavailable => simp [hroute] at h
  | insufficient => simp [hroute] at h

end Routes

section Parts

namespace MergedParts

/-- The merge keeps an answer: it has citations, a new one among them, and both the citations
and the texts leave room. -/
def HasRoom (language : Language) (merged : MergedParts tables) (answer : Answer tables) :
    Prop :=
  answer.citations ≠ [] ∧ merged.newIds answer ≠ [] ∧
    merged.citations.length + (merged.newIds answer).length ≤ 3 ∧
    (merged.joined language answer.text).length ≤ maxAnswer

variable {merged : MergedParts tables}

theorem add_of_hasRoom {reply : Reply tables} (h : merged.HasRoom language reply.answer) :
    (merged.add language reply).cited = merged.cited ++ reply.cited ∧
      (merged.add language reply).texts = merged.texts ++ [reply.answer.text] ∧
      (merged.add language reply).citations =
        reply.answer.citations.foldl cite merged.citations := by
  obtain ⟨hcitations, hnew, hcount, hlength⟩ := h
  unfold MergedParts.add
  rw [if_neg hcitations, if_neg hnew, if_neg (Nat.not_lt_of_le hcount),
    if_neg (Nat.not_lt_of_le hlength)]
  exact ⟨rfl, rfl, rfl⟩

theorem add_of_not_hasRoom {reply : Reply tables}
    (h : ¬ merged.HasRoom language reply.answer) :
    (merged.add language reply).cited = merged.cited ∧
      (merged.add language reply).texts = merged.texts ∧
      (merged.add language reply).citations = merged.citations := by
  unfold MergedParts.add
  split
  · exact ⟨rfl, rfl, rfl⟩
  · rename_i hcitations
    split
    · exact ⟨rfl, rfl, rfl⟩
    · rename_i hnew
      split
      · exact ⟨rfl, rfl, rfl⟩
      · rename_i hcount
        split
        · exact ⟨rfl, rfl, rfl⟩
        · rename_i hlength
          exact absurd ⟨hcitations, hnew, Nat.le_of_not_lt hcount, Nat.le_of_not_lt hlength⟩ h

/-- What is cited in the end was cited by an answer with room after the ones before it. -/
theorem mem_foldl_cited_iff {replies : List (Reply tables)} {passage : Passage} :
    passage ∈ (replies.foldl (MergedParts.add · language) merged).cited ↔
      passage ∈ merged.cited ∨ ∃ before reply after, replies = before ++ reply :: after ∧
        (before.foldl (MergedParts.add · language) merged).HasRoom language reply.answer ∧
        passage ∈ reply.cited := by
  induction replies generalizing merged with
  | nil => simp
  | cons head rest ih =>
    rw [List.foldl_cons, ih]
    constructor
    · rintro (hfirst | ⟨before, reply, after, hrest, hroom, hcited⟩)
      · by_cases hroom : merged.HasRoom language head.answer
        · rw [(add_of_hasRoom hroom).1, List.mem_append] at hfirst
          rcases hfirst with hold | hnew
          · exact Or.inl hold
          · exact Or.inr ⟨[], head, rest, rfl, hroom, hnew⟩
        · rw [(add_of_not_hasRoom hroom).1] at hfirst
          exact Or.inl hfirst
      · exact Or.inr ⟨head :: before, reply, after, by rw [hrest, List.cons_append], hroom, hcited⟩
    · rintro (hold | ⟨before, reply, after, hsplit, hroom, hcited⟩)
      · left
        by_cases hroom : merged.HasRoom language head.answer
        · rw [(add_of_hasRoom hroom).1]
          exact List.mem_append_left _ hold
        · rw [(add_of_not_hasRoom hroom).1]
          exact hold
      · cases before with
        | nil =>
          rw [List.nil_append, List.cons.injEq] at hsplit
          rw [List.foldl_nil] at hroom
          left
          rw [hsplit.1, (add_of_hasRoom hroom).1]
          exact List.mem_append_right _ hcited
        | cons first before =>
          rw [List.cons_append, List.cons.injEq] at hsplit
          rw [hsplit.1]
          exact Or.inr ⟨before, reply, after, hsplit.2, hroom, hcited⟩

theorem texts_ne_nil_of_cited {replies : List (Reply tables)}
    (h : merged.cited ≠ [] → merged.texts ≠ []) :
    (replies.foldl (MergedParts.add · language) merged).cited ≠ [] →
      (replies.foldl (MergedParts.add · language) merged).texts ≠ [] := by
  induction replies generalizing merged with
  | nil => exact h
  | cons head rest ih =>
    refine ih ?_
    by_cases hroom : merged.HasRoom language head.answer
    · rw [(add_of_hasRoom hroom).2.1]
      simp
    · rw [(add_of_not_hasRoom hroom).1, (add_of_not_hasRoom hroom).2.1]
      exact h

end MergedParts

variable {parts : List (List Char)} {snapshot : Option Snapshot}

/-- The merge of the answers to the parts before one of them. -/
def mergedParts (language : Language) (replies : List (Reply tables)) : MergedParts tables :=
  replies.foldl (MergedParts.add · language) {}

/-- The parts before one of them are answered, and leave room for its answer. -/
def LeavesRoom (ops : ScoreOps φ) (retriever : Retriever tables) (language : Language)
    (snapshot : Option Snapshot) (before : List (List Char)) (part : List Char) : Prop :=
  ∃ replies reply,
    before.mapM (fun earlier => sourceAnswer ops retriever earlier language snapshot) =
      .ok replies ∧
    sourceAnswer ops retriever part language snapshot = .ok reply ∧
    (mergedParts language replies).HasRoom language reply.answer

theorem sourceParts_mem_cited_iff {reply : Reply tables} {passage : Passage}
    (h : sourceParts ops retriever parts language snapshot = .ok reply) :
    passage ∈ reply.cited ↔ parts.length ≤ 3 ∧ ∃ before part after,
      parts = before ++ part :: after ∧
      LeavesRoom ops retriever language snapshot before part ∧
      passage ∈ shownPassages ops retriever part language snapshot := by
  unfold sourceParts at h
  split at h
  · rename_i hmany
    rw [(plainReply_eq_ok h).2.2]
    simp [Nat.not_le_of_lt hmany]
  · rename_i hfew
    simp only [except_bind_eq_ok_iff] at h
    obtain ⟨replies, hreplies, h⟩ := h
    have hcited : reply.cited = (mergedParts language replies).cited := by
      have htexts := @MergedParts.texts_ne_nil_of_cited tables language {} replies
        (fun hnone => absurd rfl hnone)
      change (mergedParts language replies).cited ≠ [] →
        (mergedParts language replies).texts ≠ [] at htexts
      split at h
      · rename_i hnone
        rw [(plainReply_eq_ok h).2.2]
        by_contra hsome
        exact htexts (fun hnil => hsome hnil.symm) hnone
      · simp only [except_bind_eq_ok_iff, except_pure_eq_ok_iff] at h
        obtain ⟨answer, _, hreply⟩ := h
        rw [← hreply]
        rfl
    rw [hcited, mergedParts, MergedParts.mem_foldl_cited_iff]
    constructor
    · rintro (hstart | ⟨before, found, after, rfl, hroom, hpassage⟩)
      · simp at hstart
      · obtain ⟨first, part, last, hparts, hfirst, hpart⟩ := exists_append_of_mapM hreplies
        refine ⟨Nat.le_of_not_lt hfew, first, part, last, hparts,
          ⟨before, found, hfirst, hpart, hroom⟩, ?_⟩
        rw [← sourceAnswer_cited hpart]
        exact hpassage
    · rintro ⟨_, first, part, last, hparts, ⟨before, found, hfirst, hpart, hroom⟩, hpassage⟩
      rw [hparts] at hreplies
      obtain ⟨others, value, after, hsplit, hothers, hvalue⟩ := mapM_append_eq_ok hreplies
      rw [hfirst] at hothers
      rw [hpart] at hvalue
      refine Or.inr ⟨before, found, after, ?_, hroom, ?_⟩
      · rw [hsplit, Except.ok.inj hothers, Except.ok.inj hvalue]
      · rw [sourceAnswer_cited hpart]
        exact hpassage

end Parts

theorem entriesReply_cited {text : List Char} {reply : Reply tables}
    (h : entriesReply ops retriever text language = .ok reply) : reply.cited = [] := by
  unfold entriesReply at h
  dsimp only at h
  split at h
  · exact (plainReply_eq_ok h).2.2
  · simp only [except_bind_eq_ok_iff] at h
    obtain ⟨gathered, _, h⟩ := h
    split at h
    · exact (plainReply_eq_ok h).2.2
    · simp only [except_bind_eq_ok_iff, except_pure_eq_ok_iff] at h
      obtain ⟨answer, _, hreply⟩ := h
      rw [← hreply]

section Service

namespace ChatbotService

variable (service : ChatbotService tables) (ops : ScoreOps φ) (text : List Char)

/-- The answer to a question gets as far as a passage of the guide: no verified entry answers
directly, the question is not restricted, and the passage is shown for a part of the question
which finds room in the merge. -/
def Cites (passage : Passage) : Prop :=
  service.directEntry ops text = none ∧ isRestricted tables text = false ∧
    (splitQuestions text).length ≤ 3 ∧
    ∃ language retriever parsed, service.languageOf text = some language ∧
      service.retriever = some retriever ∧ service.sourceIndex = some parsed ∧
      ∃ before part after, splitQuestions text = before ++ part :: after ∧
        (1 < (splitQuestions text).length →
          LeavesRoom ops retriever language parsed before part) ∧
        passage ∈ shownPassages ops retriever part language parsed

/-- A passage is shown whose section is named by a heading with an instruction. -/
def ShowsInstructionHeading : Prop :=
  ∃ passage, service.Cites ops text passage ∧
    instructionPattern.search passage.sectionName = true

/-- No answer repeats an instruction of the guide. -/
def RepeatsNoInstruction : Prop :=
  ∀ reply, service.ask ops text = .ok reply → ¬ reply.RepeatsInstruction

variable {service ops text}

theorem answerIn_mem_cited_iff (hdirect : service.directEntry ops text = none)
    (hlanguage : service.languageOf text = some language) {reply : Reply tables}
    (h : service.answerIn ops text language = .ok reply) {passage : Passage} :
    passage ∈ reply.cited ↔ service.Cites ops text passage := by
  unfold Cites
  unfold answerIn at h
  split at h
  · rename_i hrestricted
    rw [(plainReply_eq_ok h).2.2]
    simp [hrestricted]
  · rename_i hopen
    split at h
    · rename_i hnone
      rw [(plainReply_eq_ok h).2.2]
      simp [hnone]
    · rename_i retriever hretriever
      split at h
      · rename_i parsed hindex
        have hopen : isRestricted tables text = false := by simpa using hopen
        simp only [hdirect, hopen, hlanguage, hretriever, hindex, true_and, Option.some.injEq,
          exists_eq_left', exists_and_left]
        split at h
        · rename_i hmany
          simp only [sourceParts_mem_cited_iff h, hmany, true_imp_iff]
        · rename_i hsingle
          rw [splitQuestions_of_single hsingle, sourceAnswer_cited h]
          constructor
          · intro hpassage
            exact ⟨by simp, [], text, [], rfl, by simp, hpassage⟩
          · rintro ⟨_, before, part, after, hsplit, _, hpassage⟩
            obtain ⟨rfl, hparts⟩ : before = [] ∧ text :: [] = part :: after := by
              cases before with
              | nil => exact ⟨rfl, hsplit⟩
              | cons head rest => simp at hsplit
            rw [List.cons.injEq] at hparts
            rw [hparts.1]
            exact hpassage
      · rename_i hindex
        rw [entriesReply_cited h]
        simp [hindex]

theorem answerTo_mem_cited_iff {reply : Reply tables}
    (h : service.answerTo ops text = .ok reply) {passage : Passage} :
    passage ∈ reply.cited ↔ service.Cites ops text passage := by
  unfold answerTo at h
  split at h
  · rename_i entry language hdirect
    rw [(verifiedReply_eq_ok h).2.1]
    simp [Cites, hdirect]
  · rename_i hdirect
    split at h
    · rename_i hnone
      rw [(plainReply_eq_ok h).2.2]
      simp [Cites, hnone]
    · rename_i language hlanguage
      exact answerIn_mem_cited_iff hdirect hlanguage h

theorem ask_eq_ok {reply : Reply tables} (h : service.ask ops text = .ok reply) :
    isQuestionText text = true ∧ service.answerTo ops text = .ok reply := by
  cases hquestion : isQuestionText text with
  | false =>
    rw [ask_of_not_question hquestion] at h
    cases h
  | true =>
    rw [ask_of_question hquestion] at h
    exact ⟨rfl, h⟩

variable {libraries : SourceLibraries}

/-- A cited passage is one of the guide, and none with an instruction. -/
theorem Cites.known {passage : Passage} (h : service.Cites ops text passage) :
    ∃ snapshot, service.sourceIndex = some (some snapshot) ∧ passage ∈ snapshot.passages ∧
      passage.policy ≠ .instruction := by
  obtain ⟨_, _, _, language, retriever, parsed, _, _, hparsed, _, part, _, _, _, hshown⟩ := h
  obtain ⟨snapshot, hsnapshot, hmem, hpolicy⟩ := mem_shownPassages hshown
  rw [hsnapshot] at hparsed
  exact ⟨snapshot, hparsed, hmem, hpolicy⟩

/-- A cited passage has no instruction in its body. -/
theorem Cites.body_search {passage : Passage} (h : service.Cites ops text passage)
    (hindex : ∀ snapshot, service.sourceIndex = some (some snapshot) →
      ∃ raw, parseSource libraries raw = .ok snapshot) :
    instructionPattern.search passage.text = false := by
  obtain ⟨snapshot, hparsed, hmem, hpolicy⟩ := h.known
  obtain ⟨raw, hraw⟩ := hindex snapshot hparsed
  have haccepted := parseSource_accepted hraw fun text _ =>
    namesSections_length libraries.tables (splitLines [] text)
  exact (haccepted.passages passage hmem).quotable hpolicy

/-- What an answer repeats of an instruction is the label of a heading. -/
theorem repeatsInstruction_iff {reply : Reply tables} (h : service.ask ops text = .ok reply)
    (hindex : ∀ snapshot, service.sourceIndex = some (some snapshot) →
      ∃ raw, parseSource libraries raw = .ok snapshot) :
    reply.RepeatsInstruction ↔ service.ShowsInstructionHeading ops text := by
  have hcited := fun passage => @answerTo_mem_cited_iff _ _ service ops text reply
    (ask_eq_ok h).2 passage
  constructor
  · rintro ⟨passage, hpassage, hbody | hsection⟩
    · have hclean := ((hcited passage).mp hpassage).body_search hindex
      rw [hclean] at hbody
      cases hbody
    · exact ⟨passage, (hcited passage).mp hpassage, hsection⟩
  · rintro ⟨passage, hpassage, hsection⟩
    exact ⟨passage, (hcited passage).mpr hpassage, Or.inr hsection⟩

end ChatbotService

end Service

section Campus

def treesText : List Char := "The campus has many pretty trees.".toList

/-- A guide whose only heading names an instruction. -/
def keyGuide : List Byte :=
  encodeUtf8 "# API key\nAsk before you come. The campus has many pretty trees.".toList

def keyLibraries : SourceLibraries :=
  latinLibraries
    [("# API key\nAsk before you come. The campus has many pretty trees.",
      0x49e704402647eddd3be48050a4e9cfbce6e46805dca9bc3cd31cb763aed82fa4),
     ("1\nAPI key\n# API key\nAsk before you come.",
      0x599a180ca2ff38c942be40c1470f7390ee9268a5e0b4a85dbc1aed3f025d5866),
     ("2\nAPI key\nThe campus has many pretty trees.",
      0x3d83d8615a5e19a24eca125f8892b6d695983fdd80f6e9ea9c07b18c1b26e4df)]

def keySection : List Char := "API key".toList

/-- A guide with the instruction in a sentence, under a heading without one. -/
def treesGuide : List Byte :=
  encodeUtf8
    "# Pretty trees\nThe API key has many trees. The campus has many pretty trees.".toList

def treesLibraries : SourceLibraries :=
  latinLibraries
    [("# Pretty trees\nThe API key has many trees. The campus has many pretty trees.",
      0x7fa13c58c3760fbec4ff5aacc0b41540594d80bf1af7538a75916b4fbed73f9f),
     ("1\nPretty trees\n# Pretty trees\nThe API key has many trees.",
      0xc5e3d5042d0fa8d9af2b9e9c8d3dc8b823402220aa16ae324a08e2045177705d),
     ("2\nPretty trees\nThe campus has many pretty trees.",
      0x960701aeef7e9e87f9ed4867038106841c941d82f535b29c40995948056c89b2)]

def treesSection : List Char := "Pretty trees".toList

/-- The sentence with the heading is an instruction, the next one is not. -/
structure ReadsTrees (label : List Char) (first second : Passage) : Prop where
  instruction : first.policy = .instruction
  policy : second.policy = .ownerProvided
  text : second.text = treesText
  sectionName : second.sectionName = label

def readsTrees (label : List Char) (passages : List Passage) : Bool :=
  match passages with
  | [first, second] =>
      first.policy == .instruction && second.policy == .ownerProvided &&
        second.text == treesText && second.sectionName == label
  | _ => false

/-- A guide with such a reading. -/
structure TreesGuide (label : List Char) where
  libraries : SourceLibraries
  guide : List Byte
  reads : (match parseSource libraries guide with
    | .ok snapshot => readsTrees label snapshot.passages
    | .error _ => false) = true

def keyReading : TreesGuide keySection where
  libraries := keyLibraries
  guide := keyGuide
  reads := by decide +kernel

def treesReading : TreesGuide treesSection where
  libraries := treesLibraries
  guide := treesGuide
  reads := by decide +kernel

theorem TreesGuide.exists_snapshot {label : List Char} (reading : TreesGuide label) :
    ∃ snapshot first second, parseSource reading.libraries reading.guide = .ok snapshot ∧
      snapshot.passages = [first, second] ∧ ReadsTrees label first second := by
  have h := reading.reads
  cases hparse : parseSource reading.libraries reading.guide with
  | error error =>
    rw [hparse] at h
    cases h
  | ok snapshot =>
    rw [hparse] at h
    simp only [readsTrees] at h
    split at h
    · rename_i first second hpassages
      simp only [Bool.and_eq_true, beq_iff_eq] at h
      exact ⟨snapshot, first, second, rfl, hpassages, h.1.1.1, h.1.1.2, h.1.2, h.2⟩
    · cases h

theorem scored_of_topic {ops : ScoreOps φ} {snapshot : Snapshot} {question : PassageQuery}
    {passage : Passage} (h : isEvidence tables question passage = true)
    (htopic : question.topic ≠ "") :
    scored tables ops snapshot question passage =
      some (passageScore tables ops snapshot question passage, passage) := by
  simp [scored, h, htopic]

theorem scored_of_not_evidence {ops : ScoreOps φ} {snapshot : Snapshot}
    {question : PassageQuery} {passage : Passage}
    (h : isEvidence tables question passage = false) :
    scored tables ops snapshot question passage = none := by
  simp [scored, h]

/-- No intent knows the heading of a guide, and one knows its second sentence. -/
theorem topics_trees {label : List Char} (h : label ∈ [keySection, treesSection]) :
    topics latinTables label = [] ∧
      topics latinTables (label ++ '\n' :: treesText) = ["campus"] := by
  have htokens : ∀ label ∈ [keySection, treesSection],
      ((∀ word ∈ tokens latinTables label, word ∈ campusWords.words) ∧
        "campus".toList ∉ tokens latinTables label) ∧
      (∀ word ∈ tokens latinTables (label ++ '\n' :: treesText), word ∈ campusWords.words) ∧
        "campus".toList ∈ tokens latinTables (label ++ '\n' :: treesText) := by
    decide +kernel
  obtain ⟨⟨hlabel, hunknown⟩, hwhole, hknown⟩ := htokens label h
  rw [topics_campusWords hlabel, if_neg hunknown, topics_campusWords hwhole, if_pos hknown]
  exact ⟨rfl, rfl⟩

/-- The sentence about the campus is evidence for the question. -/
theorem isEvidence_trees {label : List Char} (hlabel : label ∈ [keySection, treesSection])
    {first second : Passage} (hreads : ReadsTrees label first second)
    (htopics : second.topics = ["campus"]) (reference : Bool) :
    isEvidence latinTables
      ⟨["campus".toList], "campus", vocabulary latinTables "campus", reference⟩ second =
        true := by
  have hbody : tokens latinTables treesText =
      ["the", "campus", "has", "many", "pretty", "trees"].map String.toList := by
    decide +kernel
  have hcovered : (Words.without ["campus".toList] (vocabulary latinTables "campus")).isWithin
      second.terms = true := by
    rw [vocabularies_campus.2.2]
    rfl
  unfold isEvidence
  simp only [hreads.policy, hreads.text, hreads.sectionName, htopics, hbody,
    (topics_trees hlabel).1, hcovered]
  rcases List.mem_pair.mp hlabel with rfl | rfl
  · cases reference <;> decide +kernel
  · cases reference <;> decide +kernel

theorem shownPassages_campusQuestion {snapshot : Snapshot} {label : List Char}
    (hlabel : label ∈ [keySection, treesSection]) {first second : Passage}
    (hpassages : snapshot.passages = [first, second]) (hreads : ReadsTrees label first second)
    (htopics : second.topics = ["campus"]) :
    @shownPassages latinTables _ fractionOps (Retriever.ofEntries []) campusQuestion .en
      (some snapshot) = [second] := by
  have hnil := @Retriever.retrieveVerified_eq_nil latinTables Rat fractionOps
    (Retriever.ofEntries []) .en campusQuestion (by simp [Retriever.ofEntries])
    (by simp [Retriever.ofEntries])
  have hretrieve := Retriever.retrieve_eq_nil hnil rfl asks_campusQuestion.single
  have hcandidates : intentCandidates (Retriever.ofEntries ([] : List (Entry latinTables)))
      campusQuestion .en "campus" = [] := by
    rw [List.eq_nil_iff_forall_not_mem]
    intro entry hentry
    exact absurd (mem_intentCandidates hentry) (by simp [Retriever.ofEntries])
  have hscored : ∀ reference, snapshot.passages.filterMap (scored latinTables fractionOps snapshot
      ⟨["campus".toList], "campus", vocabulary latinTables "campus", reference⟩) =
        [(passageScore latinTables fractionOps snapshot
          ⟨["campus".toList], "campus", vocabulary latinTables "campus", reference⟩ second,
            second)] := by
    intro reference
    have htopic : "campus" ≠ "" := by decide
    have hnone : isEvidence latinTables ⟨["campus".toList], "campus",
        vocabulary latinTables "campus", reference⟩ first = false := by
      simp [isEvidence, hreads.instruction]
    rw [hpassages]
    simp only [List.filterMap_cons, List.filterMap_nil, scored_of_not_evidence hnone,
      scored_of_topic (isEvidence_trees hlabel hreads htopics reference) htopic]
  have hselected : ∀ reference, selectPassages latinTables fractionOps snapshot campusQuestion
      reference = { passages := [second] } := by
    intro reference
    have hconflict : second.policy ≠ .conflicted := by
      rw [hreads.policy]
      decide
    simp only [selectPassages, contentTokens_campusQuestion, topics_campusQuestion,
      List.headD_cons, hscored, List.length_singleton, Nat.lt_irrefl, if_false,
      List.cons_ne_nil, List.mergeSort_singleton, chooseBest, hconflict]
  have hroute : @sourceRoute latinTables _ fractionOps (Retriever.ofEntries []) campusQuestion
      .en (some snapshot) = .passages snapshot [second] := by
    unfold sourceRoute
    simp only [hretrieve.1, hretrieve.2, List.head?_nil, ite_self, Bool.false_eq_true, if_false,
      contentTokens_campusQuestion, topics_campusQuestion, List.cons_ne_nil,
      List.length_singleton, Nat.lt_irrefl, List.headD_cons, hcandidates, hselected]
  have hshown : isWithheld latinTables campusQuestion [second] = false := by
    rw [isWithheld, asks_campusQuestion.plain, Bool.and_false, Bool.false_and]
  rw [shownPassages, hroute]
  simp only [hshown, Bool.false_eq_true, if_false]

end Campus

section Service

/-- No answer repeats an instruction exactly when none shows a passage under a heading with
one: a question which is answered at all, with such a passage selected for a part with room. -/
theorem ofEntries_repeatsNoInstruction_iff {libraries : SourceLibraries}
    (entries : List (Entry libraries.tables)) (index : Option (Option Snapshot))
    (hindex : ∀ snapshot, index = some (some snapshot) →
      ∃ raw, parseSource libraries raw = .ok snapshot) (ops : ScoreOps φ) (text : List Char) :
    (ChatbotService.ofEntries entries index).RepeatsNoInstruction ops text ↔
      ¬ (isQuestionText text = true ∧
        (ChatbotService.ofEntries entries index).ShowsInstructionHeading ops text ∧
        ¬ (ChatbotService.ofEntries entries index).GuessesOverlong ops text) := by
  have hretriever : (ChatbotService.ofEntries entries index).retriever = some _ := rfl
  have hsource : (ChatbotService.ofEntries entries index).sourceIndex = index := rfl
  have hknows := ofEntries_knows entries index
  constructor
  · rintro h ⟨hquestion, hshows, hfits⟩
    obtain ⟨passage, ⟨_, _, _, _, _, parsed, _, _, hparsed, _⟩, _⟩ := id hshows
    rw [hsource] at hparsed
    have hkeeps := (ChatbotService.keepsContract_iff_of_index hretriever
      (hsource.trans hparsed) (by simpa [hparsed] using hknows)
      fun snapshot hsome => hindex snapshot (by rw [hparsed, hsome])).mpr hfits
    obtain ⟨reply, hreply, _⟩ := hkeeps.2 hquestion
    exact h reply hreply ((ChatbotService.repeatsInstruction_iff hreply hindex).mpr hshows)
  · intro h reply hreply hrepeats
    have hshows := (ChatbotService.repeatsInstruction_iff hreply hindex).mp hrepeats
    obtain ⟨passage, ⟨_, _, _, _, _, parsed, _, _, hparsed, _⟩, _⟩ := id hshows
    rw [hsource] at hparsed
    refine h ⟨(ChatbotService.ask_eq_ok hreply).1, hshows, ?_⟩
    refine (ChatbotService.keepsContract_iff_of_index hretriever (hsource.trans hparsed)
      (by simpa [hparsed] using hknows)
      fun snapshot hsome => hindex snapshot (by rw [hparsed, hsome])).mp ?_
    rw [ChatbotService.keepsContract_iff]
    exact fun _ => ⟨reply, (ChatbotService.ask_eq_ok hreply).2⟩

/-- The service with one of the guides and no entries cites the sentence about the campus. -/
theorem cites_campusQuestion {digests : List (String × Nat)} {guide : List Byte}
    {snapshot : Snapshot} (hsnapshot : parseSource (latinLibraries digests) guide = .ok snapshot)
    {label : List Char} (hlabel : label ∈ [keySection, treesSection]) {first second : Passage}
    (hpassages : snapshot.passages = [first, second]) (hreads : ReadsTrees label first second) :
    (@ChatbotService.ofEntries latinTables [] (some (some snapshot))).Cites fractionOps
      campusQuestion second := by
  have haccepted := parseSource_accepted hsnapshot fun text _ =>
    namesSections_length latinTables (splitLines [] text)
  have htopics : second.topics = ["campus"] := by
    rw [(haccepted.passages second (by simp [hpassages])).topics_eq, hreads.text,
      hreads.sectionName]
    exact (topics_trees hlabel).2
  have hshown := shownPassages_campusQuestion hlabel hpassages hreads htopics
  have hasks := asks_campusQuestion
  generalize hservice : @ChatbotService.ofEntries latinTables [] (some (some snapshot)) = service
  have hretriever : service.retriever = some (Retriever.ofEntries []) := by rw [← hservice]; rfl
  have hindex : service.sourceIndex = some (some snapshot) := by rw [← hservice]; rfl
  refine ⟨?_, hasks.unrestricted, ?_, .en, _, some snapshot, ?_, hretriever, hindex, [],
    campusQuestion, [], hasks.single, ?_, ?_⟩
  · simp [ChatbotService.directEntry, hindex, hretriever, hasks.language, hasks.confidence]
  · rw [hasks.single]
    decide
  · simp [ChatbotService.languageOf, hindex, languageFor, hasks.language]
  · rw [hasks.single]
    simp
  · rw [hshown]
    exact List.mem_singleton_self _

/-- The service with one of the guides answers the question. -/
theorem exists_ask_campusQuestion {digests : List (String × Nat)} {guide : List Byte}
    {snapshot : Snapshot} (hsnapshot : parseSource (latinLibraries digests) guide = .ok snapshot) :
    ∃ reply, (@ChatbotService.ofEntries latinTables [] (some (some snapshot))).ask fractionOps
      campusQuestion = .ok reply := by
  have hparsed : ∀ other, some snapshot = some other →
      ∃ raw, parseSource (latinLibraries digests) raw = .ok other := by
    intro other hother
    exact ⟨guide, Option.some.inj hother ▸ hsnapshot⟩
  have hkeeps := (ChatbotService.keepsContract_iff_of_index rfl rfl
    (@ofEntries_knows latinTables [] (some (some snapshot))) hparsed).mpr
      (not_guessesOverlong_of_short (by simp) : ¬ ChatbotService.GuessesOverlong _ fractionOps
        campusQuestion)
  obtain ⟨reply, hreply, _⟩ := hkeeps.2 asks_campusQuestion.isQuestionText
  exact ⟨reply, hreply⟩

/-- The sentence about the campus is quoted from under a heading without an instruction. -/
theorem ofEntries_repeatsNoInstruction_iff_treesGuide :
    ∃ snapshot reply, parseSource treesLibraries treesGuide = .ok snapshot ∧
      (@ChatbotService.ofEntries latinTables [] (some (some snapshot))).ask fractionOps
        campusQuestion = .ok reply ∧
      (∃ passage ∈ reply.cited, passage.text = treesText) ∧
      (@ChatbotService.ofEntries latinTables [] (some (some snapshot))).RepeatsNoInstruction
        fractionOps campusQuestion := by
  obtain ⟨snapshot, first, second, hsnapshot, hpassages, hreads⟩ := treesReading.exists_snapshot
  obtain ⟨reply, hreply⟩ := exists_ask_campusQuestion hsnapshot
  have hcites := cites_campusQuestion hsnapshot (by simp) hpassages hreads
  have hcited := (ChatbotService.answerTo_mem_cited_iff
    (ChatbotService.ask_eq_ok hreply).2).mpr hcites
  have hindex : ∀ other, some (some snapshot) = some (some other) →
      ∃ raw, parseSource treesLibraries raw = .ok other := by
    intro other hother
    exact ⟨treesGuide, Option.some.inj (Option.some.inj hother) ▸ hsnapshot⟩
  refine ⟨snapshot, reply, hsnapshot, hreply, ⟨second, hcited, hreads.text⟩, ?_⟩
  refine (@ofEntries_repeatsNoInstruction_iff _ treesLibraries [] (some (some snapshot)) hindex
    fractionOps campusQuestion).mpr ?_
  rintro ⟨_, ⟨passage, hpassage, hsection⟩, _⟩
  obtain ⟨other, hother, hmem, hpolicy⟩ := hpassage.known
  have hsame : snapshot = other := Option.some.inj (Option.some.inj hother)
  rw [← hsame, hpassages, List.mem_cons, List.mem_singleton] at hmem
  rcases hmem with rfl | rfl
  · exact hpolicy hreads.instruction
  · rw [hreads.sectionName] at hsection
    exact absurd hsection (by decide +kernel)

/-- The sentence about the campus is quoted under the heading with the instruction. -/
theorem not_repeatsNoInstruction_keyGuide :
    ∃ snapshot, parseSource keyLibraries keyGuide = .ok snapshot ∧
      ¬ (@ChatbotService.ofEntries latinTables [] (some (some snapshot))).RepeatsNoInstruction
        fractionOps campusQuestion := by
  obtain ⟨snapshot, first, second, hsnapshot, hpassages, hreads⟩ := keyReading.exists_snapshot
  obtain ⟨reply, hreply⟩ := exists_ask_campusQuestion hsnapshot
  have hcites := cites_campusQuestion hsnapshot (by simp) hpassages hreads
  have hindex : ∀ other, some (some snapshot) = some (some other) →
      ∃ raw, parseSource keyLibraries raw = .ok other := by
    intro other hother
    exact ⟨keyGuide, Option.some.inj (Option.some.inj hother) ▸ hsnapshot⟩
  refine ⟨snapshot, hsnapshot, fun hnever => hnever reply hreply ?_⟩
  refine (ChatbotService.repeatsInstruction_iff hreply hindex).mpr ⟨second, hcites, ?_⟩
  rw [hreads.sectionName]
  decide +kernel

end Service

end BuddyWeb
