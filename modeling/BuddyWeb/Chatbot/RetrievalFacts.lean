/-
What retrieval and selection return: hits are entries of the retriever, at most three of them,
and selected passages are quotable passages of the snapshot.
-/
import BuddyWeb.Chatbot.Service

namespace BuddyWeb

section Hits

variable {tables : WordTables} {φ : Type} {ops : ScoreOps φ} {retriever : Retriever tables}
  {language : Language}

namespace Retriever

theorem mem_of_mem_retrieveVerified {question : List Char} {includeAmbiguous : Bool}
    {hit : Hit tables φ}
    (h : hit ∈ retriever.retrieveVerified ops question language includeAmbiguous) :
    hit.entry ∈ retriever.entries := by
  simp only [retrieveVerified] at h
  split at h
  · split at h
    · obtain ⟨entry, hentry, rfl⟩ := List.mem_map.mp h
      exact List.mem_of_mem_filter hentry
    · simp at h
  · split at h
    · simp at h
    · split at h
      · simp at h
      · have hsorted := List.mem_mergeSort.mp (List.mem_of_mem_take h)
        obtain ⟨entry, hentry, hscored⟩ := List.mem_filterMap.mp hsorted
        split at hscored
        · simp at hscored
        · rw [← Option.some.inj hscored]
          exact hentry

theorem retrieveVerified_length (question : List Char) :
    (retriever.retrieveVerified ops question language false).length ≤ 3 := by
  simp only [retrieveVerified]
  split
  · split
    · rename_i hone
      rcases hone with hone | hfalse
      · omega
      · simp at hfalse
    · exact Nat.zero_le _
  · split
    · exact Nat.zero_le _
    · split
      · exact Nat.zero_le _
      · exact List.length_take_le _ _

theorem mem_of_mem_retrieveSingle {question : List Char} {hit : Hit tables φ}
    (h : hit ∈ retriever.retrieveSingle ops question language) :
    hit.entry ∈ retriever.entries ∨ hit.entry ∈ retriever.historicalEntries := by
  simp only [retrieveSingle] at h
  split at h
  · exact Or.inl (mem_of_mem_retrieveVerified h)
  · split at h
    · simp at h
    · split at h
      · obtain ⟨entry, hentry, rfl⟩ := List.mem_map.mp h
        exact Or.inr (List.mem_of_mem_filter hentry)
      · simp at h

theorem retrieveSingle_length (question : List Char) :
    (retriever.retrieveSingle ops question language).length ≤ 3 := by
  simp only [retrieveSingle]
  split
  · exact retrieveVerified_length question
  · split
    · exact Nat.zero_le _
    · split
      · omega
      · exact Nat.zero_le _

theorem forall_setDefault {known : Hit tables φ → Prop} {selected : List (Hit tables φ)}
    (hselected : ∀ hit ∈ selected, known hit) {hit : Hit tables φ} (hhit : known hit) :
    ∀ other ∈ setDefault selected hit, known other := by
  unfold setDefault
  split
  · exact hselected
  · rw [List.forall_mem_append]
    exact ⟨hselected, by simpa using hhit⟩

/-- What is gathered part by part satisfies what the hits of each part satisfy. -/
theorem forall_foldl_setDefault {known : Hit tables φ → Prop} (parts : List (List Char))
    (hparts : ∀ part ∈ parts, ∀ hit ∈ retriever.retrieveSingle ops part language, known hit)
    (selected : List (Hit tables φ)) (hselected : ∀ hit ∈ selected, known hit) :
    ∀ hit ∈ parts.foldl (fun selected part =>
      match retriever.retrieveSingle ops part language with
      | hit :: _ => setDefault selected hit
      | [] => selected) selected, known hit := by
  induction parts generalizing selected with
  | nil => exact hselected
  | cons part rest ih =>
    obtain ⟨hpart, hrest⟩ := List.forall_mem_cons.mp hparts
    refine ih hrest _ ?_
    cases hhits : retriever.retrieveSingle ops part language with
    | nil => simpa [hhits] using hselected
    | cons first others =>
      have hfirst := hpart first (by rw [hhits]; exact List.mem_cons_self)
      simpa [hhits] using forall_setDefault hselected hfirst

theorem mem_of_mem_retrieve {question : List Char} {hit : Hit tables φ}
    (h : hit ∈ retriever.retrieve ops question language) :
    hit.entry ∈ retriever.entries ∨ hit.entry ∈ retriever.historicalEntries := by
  simp only [retrieve] at h
  split at h
  · split at h
    · simp at h
    · exact forall_foldl_setDefault _ (fun _ _ _ => mem_of_mem_retrieveSingle) []
        (by simp) hit (List.mem_of_mem_take h)
  · exact mem_of_mem_retrieveSingle h

theorem retrieve_length (question : List Char) :
    (retriever.retrieve ops question language).length ≤ 3 := by
  simp only [retrieve]
  split
  · split
    · exact Nat.zero_le _
    · exact List.length_take_le _ _
  · exact retrieveSingle_length question

/-- A question which is close to no alias retrieves nothing. -/
theorem retrieveVerified_eq_nil {question : List Char}
    (hexact : ∀ entry ∈ retriever.entries, ∀ alias_ ∈ (entry.localized language).questions,
      (words tables question).same (words tables alias_) = false)
    (hscore : ∀ entry ∈ retriever.entries, ops.isZero (aliasScore ops (terms tables question)
      ((entry.localized language).questions.map (terms tables))) = true)
    (includeAmbiguous : Bool) :
    retriever.retrieveVerified ops question language includeAmbiguous = [] := by
  have hnone : (retriever.entries.filter fun entry =>
      (entry.localized language).questions.any fun alias_ =>
        (words tables question).same (words tables alias_)) = [] := by
    rw [List.filter_eq_nil_iff]
    intro entry hentry hany
    obtain ⟨alias_, halias, hsame⟩ := List.any_eq_true.mp hany
    rw [hexact entry hentry alias_ halias] at hsame
    cases hsame
  have hhits : (retriever.entries.filterMap fun entry =>
      if ops.isZero (aliasScore ops (terms tables question)
        ((entry.localized language).questions.map (terms tables))) then none
      else some (⟨entry, aliasScore ops (terms tables question)
        ((entry.localized language).questions.map (terms tables))⟩ : Hit tables φ)) = [] := by
    rw [List.filterMap_eq_nil_iff]
    intro entry hentry
    rw [if_pos (hscore entry hentry)]
  simp [retrieveVerified, hnone, hhits]

theorem retrieve_eq_nil {question : List Char}
    (h : ∀ includeAmbiguous,
      retriever.retrieveVerified ops question language includeAmbiguous = [])
    (hhistorical : retriever.historicalEntries = [])
    (hsingle : splitQuestions question = [question]) :
    retriever.retrieve ops question language = [] ∧
      retriever.ambiguous ops question language = false := by
  have hambiguous : retriever.ambiguous ops question language = false := by
    rw [ambiguous, h]
    rfl
  refine ⟨?_, hambiguous⟩
  simp [retrieve, hsingle, retrieveSingle, h, hambiguous, hhistorical]

end Retriever

end Hits

section Selected

variable {tables : WordTables} {φ : Type} {ops : ScoreOps φ} {snapshot : Snapshot}

/-- What the selection promises of the passages it returns. -/
structure SoundSelection (snapshot : Snapshot) (passages : List Passage) : Prop where
  known : ∀ passage ∈ passages, passage ∈ snapshot.passages
  length_le : passages.length ≤ 2
  quotable : ∀ passage ∈ passages, passage.policy ≠ .instruction
  uniform : (∀ passage ∈ passages, passage.policy = .conflicted) ∨
    passages.length ≤ 1 ∧ ∀ passage ∈ passages, passage.policy ≠ .conflicted

theorem soundSelection_nil (snapshot : Snapshot) : SoundSelection snapshot [] :=
  ⟨by simp, Nat.zero_le _, by simp, Or.inl (by simp)⟩

theorem soundSelection_single {passage : Passage} (hknown : passage ∈ snapshot.passages)
    (hpolicy : passage.policy ≠ .instruction) (hconflict : passage.policy ≠ .conflicted) :
    SoundSelection snapshot [passage] :=
  ⟨by simpa using hknown, Nat.le_succ _, by simpa using hpolicy,
    Or.inr ⟨Nat.le_refl _, by simpa using hconflict⟩⟩

theorem scored_eq_some {question : PassageQuery} {passage : Passage} {result : φ × Passage}
    (h : scored tables ops snapshot question passage = some result) :
    result.2 = passage ∧ passage.policy ≠ .instruction := by
  simp only [scored] at h
  split at h
  · simp at h
  · rename_i hevidence
    split at h
    · simp at h
    · split at h
      · simp at h
      · have hresult := Option.some.inj h
        refine ⟨by rw [← hresult], fun hpolicy => hevidence ?_⟩
        simp [isEvidence, hpolicy]

theorem chooseBest_sound {topic : String} {candidates : List (φ × Passage)}
    (h : ∀ candidate ∈ candidates, candidate.2 ∈ snapshot.passages ∧
      candidate.2.policy ≠ .instruction) :
    SoundSelection snapshot (chooseBest ops snapshot topic candidates).passages := by
  match candidates with
  | [] => exact soundSelection_nil snapshot
  | best :: rest =>
    have hbest := h best List.mem_cons_self
    simp only [chooseBest]
    split
    · have hgroup : ∀ passage ∈ (snapshot.passages.filter fun passage =>
          passage.policy == .conflicted && passage.conflictGroup == best.2.conflictGroup).take 2,
          passage ∈ snapshot.passages ∧ passage.policy = .conflicted := by
        intro passage hpassage
        have hmem := List.mem_filter.mp (List.mem_of_mem_take hpassage)
        rw [Bool.and_eq_true, beq_iff_eq] at hmem
        exact ⟨hmem.1, hmem.2.1⟩
      refine ⟨fun passage hpassage => (hgroup passage hpassage).1, List.length_take_le _ _, ?_,
        Or.inl fun passage hpassage => (hgroup passage hpassage).2⟩
      intro passage hpassage
      rw [(hgroup passage hpassage).2]
      simp
    · rename_i hconflict
      split
      · split
        · exact soundSelection_nil snapshot
        · exact soundSelection_single hbest.1 hbest.2 hconflict
      · exact soundSelection_single hbest.1 hbest.2 hconflict

theorem selectPassages_sound (question : List Char) (reference : Bool) :
    SoundSelection snapshot
      (selectPassages tables ops snapshot question reference).passages := by
  simp only [selectPassages]
  split
  · exact soundSelection_nil snapshot
  · split
    · exact soundSelection_nil snapshot
    · refine chooseBest_sound fun candidate hcandidate => ?_
      obtain ⟨passage, hpassage, hscored⟩ :=
        List.mem_filterMap.mp (List.mem_mergeSort.mp hcandidate)
      have hsome := scored_eq_some hscored
      rw [hsome.1]
      exact ⟨hpassage, hsome.2⟩

end Selected

section Routes

variable {tables : WordTables} {φ : Type} {ops : ScoreOps φ} {retriever : Retriever tables}
  {text : List Char} {language : Language} {snapshot : Option Snapshot}

/-- What is known of the branch which is taken. -/
def SourceRoute.Sound (retriever : Retriever tables) (snapshot : Option Snapshot) :
    SourceRoute tables → Prop
  | .verified entry _ => entry ∈ retriever.entries ∨ entry ∈ retriever.historicalEntries
  | .passages parsed chosen => snapshot = some parsed ∧ chosen ≠ [] ∧ SoundSelection parsed chosen
  | .clarification | .unavailable | .insufficient => True

theorem mem_intentCandidates {topic : String} {entry : Entry tables}
    (h : entry ∈ intentCandidates retriever text language topic) :
    entry ∈ retriever.entries := by
  unfold intentCandidates at h
  split at h
  · simp at h
  · split at h
    · simp at h
    · exact List.mem_of_mem_filter h

theorem sourceRoute_sound (text : List Char) (language : Language) :
    (sourceRoute ops retriever text language snapshot).Sound retriever snapshot := by
  unfold sourceRoute
  dsimp only
  split
  · rename_i hit hhead
    split at hhead
    · exact Retriever.mem_of_mem_retrieve (List.mem_of_mem_head? hhead)
    · simp at hhead
  · split
    · exact trivial
    · split
      · exact trivial
      · split
        · exact trivial
        · split
          · rename_i entry hcandidates
            exact Or.inl (mem_intentCandidates (hcandidates ▸ List.mem_cons_self))
          · exact trivial
          · split
            · exact trivial
            · split
              · exact trivial
              · split
                · exact trivial
                · rename_i hsome
                  exact ⟨rfl, hsome, selectPassages_sound _ _⟩

end Routes

end BuddyWeb
