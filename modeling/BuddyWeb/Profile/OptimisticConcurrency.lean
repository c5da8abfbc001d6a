/-
What interleaved own-profile requests do to the committed rows and their versions.
-/
import BuddyWeb.Profile.Transactions

namespace BuddyWeb

/-- A record which is kept, or replaced by one with the next version. -/
def ProfileRecord.Advances (held record : ProfileRecord) : Prop :=
  record = held ∨ record.profile.version = held.profile.version + 1

theorem ProfileRecord.Advances.version_le {held record : ProfileRecord}
    (h : held.Advances record) : held.profile.version ≤ record.profile.version := by
  rcases h with rfl | h
  · exact Nat.le_refl _
  · rw [h]
    exact Nat.le_succ _

section Writes

variable {context : ProfileContext} {owner : User} {held record : ProfileRecord}

theorem getOrCreate_some {found : ProfileRecord}
    (h : getOrCreateOwnProfileForUpdate context owner (some held) = .ok found) :
    found = held := by
  simp only [getOrCreateOwnProfileForUpdate, except_bind_eq_ok_iff,
    except_pure_eq_ok_iff] at h
  obtain ⟨_, _, rfl⟩ := h
  rfl

/-- A replacement keeps the record when nothing changes and else takes the next version. -/
theorem advances_of_replacement {unchanged : Prop} [Decidable unchanged]
    {changed : ProfileRecord}
    (h : (if unchanged then pure held else pure changed.bumpVersion :
      Except ProfileError ProfileRecord) = .ok record)
    (hprofile : changed.profile = held.profile) : held.Advances record := by
  split at h
  · rw [except_pure_eq_ok_iff] at h
    exact .inl h.symm
  · rw [except_pure_eq_ok_iff] at h
    refine .inr ?_
    rw [← h, ← hprofile]
    rfl

/-- A successful write of a held record was made with the record's own version. -/
theorem run_held {request : ProfileRequest}
    (h : request.run (some held) = .ok record) :
    (∀ version ∈ request.write.version?, held.profile.version = version) ∧
      held.Advances record := by
  rcases request with ⟨context, owner, write⟩
  cases write with
  | read =>
      refine ⟨by simp [ProfileWrite.version?], .inl ?_⟩
      exact getOrCreate_some h
  | interests version group =>
      simp only [ProfileRequest.run, replaceOwnInterests, requireVersion,
        except_bind_eq_ok_iff, ensure_eq_ok_iff] at h
      obtain ⟨found, hfound, _, hversion, prepared, _, hresult⟩ := h
      obtain rfl := getOrCreate_some hfound
      exact ⟨by simpa [ProfileWrite.version?] using hversion,
        advances_of_replacement hresult rfl⟩
  | languages version group =>
      simp only [ProfileRequest.run, replaceOwnLanguages, requireVersion,
        except_bind_eq_ok_iff, ensure_eq_ok_iff] at h
      obtain ⟨found, hfound, _, hversion, prepared, _, hresult⟩ := h
      obtain rfl := getOrCreate_some hfound
      exact ⟨by simpa [ProfileWrite.version?] using hversion,
        advances_of_replacement hresult rfl⟩
  | activities version group =>
      simp only [ProfileRequest.run, replaceOwnActivities, requireVersion,
        except_bind_eq_ok_iff, ensure_eq_ok_iff] at h
      obtain ⟨found, hfound, _, hversion, prepared, _, hresult⟩ := h
      obtain rfl := getOrCreate_some hfound
      exact ⟨by simpa [ProfileWrite.version?] using hversion,
        advances_of_replacement hresult rfl⟩
  | preferences update =>
      simp only [ProfileRequest.run, replaceOwnPreferences, requireVersion,
        except_bind_eq_ok_iff, ensure_eq_ok_iff] at h
      obtain ⟨found, hfound, _, hversion, _, _, _, _, _, _, hresult⟩ := h
      obtain rfl := getOrCreate_some hfound
      exact ⟨by simpa [ProfileWrite.version?] using hversion,
        advances_of_replacement hresult rfl⟩
  | fields update =>
      simp only [ProfileRequest.run, replaceOwnProfileFields, updateOwnProfile,
        requireVersion, except_bind_eq_ok_iff, ensure_eq_ok_iff,
        except_pure_eq_ok_iff] at h
      obtain ⟨updated, ⟨_, _, found, hfound, _, hversion, _, _, _, _, _, _, rfl⟩,
        hresponse⟩ := h
      obtain rfl := getOrCreate_some hfound
      refine ⟨by simpa [ProfileWrite.version?] using hversion, .inr ?_⟩
      split at hresponse
      · rw [Except.ok.injEq] at hresponse
        rw [← hresponse]
        rfl
      · simp at hresponse

end Writes

namespace ProfileWorld

/-- The committed record of a request's owner, or the draft which it would stage. -/
def committedOrDraft (w : ProfileWorld) (request : ProfileRequest) : ProfileRecord :=
  (w.store request.owner.id).getD
    (.draft request.context.freshProfileId request.owner.id)

/-- What a step can do. -/
inductive Change (w : ProfileWorld) : TransactionLabel → ProfileWorld → Prop
  | started {id : Nat} {request : ProfileRequest} (hnew : w.transactions id = none) :
      Change w (.start id request) (w.start id request)
  | moved {label : TransactionLabel} {id : Nat} {transaction : ProfileTransaction}
      {phase : TransactionPhase}
      (hget : w.transactions id = some transaction)
      (hopen : transaction.phase.finished = false)
      (hunlocked : transaction.phase.locks = false)
      (hphase : phase = .absent ∨ phase = .reselecting ∨ phase = .rejected) :
      Change w label (w.setPhase id transaction phase)
  | read {label : TransactionLabel} {id : Nat} {transaction : ProfileTransaction}
      {record : ProfileRecord}
      (hget : w.transactions id = some transaction)
      (hopen : transaction.phase.finished = false)
      (hunlocked : transaction.phase.locks = false)
      (hstored : w.store transaction.request.owner.id = some record)
      (hread : transaction.request.write.version? = none) :
      Change w label (w.setPhase id transaction (.succeeded record record))
  | acquired {label : TransactionLabel} {id : Nat} {transaction : ProfileTransaction}
      (hget : w.transactions id = some transaction)
      (hopen : transaction.phase.finished = false)
      (hfree : w.locks transaction.request.owner.id = none) :
      Change w label (w.acquire id transaction
        (w.committedOrDraft transaction.request).profile)
  | executed {id : Nat} {transaction : ProfileTransaction} {profile : StudentProfile}
      {record : ProfileRecord}
      (hget : w.transactions id = some transaction)
      (hphase : transaction.phase = .holding profile)
      (hrun : transaction.request.run (some (w.heldRecord transaction profile)) =
        .ok record) :
      Change w (.execute id)
        (w.setPhase id transaction (.flushed (w.heldRecord transaction profile) record))
  | committed {id : Nat} {transaction : ProfileTransaction} {held record : ProfileRecord}
      (hget : w.transactions id = some transaction)
      (hphase : transaction.phase = .flushed held record) :
      Change w (.commit id) (w.commit id transaction held record)
  | ended {label : TransactionLabel} {id : Nat} {transaction : ProfileTransaction}
      (hget : w.transactions id = some transaction)
      (hopen : transaction.phase.finished = false) :
      Change w label (w.finish id transaction .rejected)

theorem select_change {w after : ProfileWorld} {label : TransactionLabel} {id : Nat}
    {transaction : ProfileTransaction} {missing : TransactionPhase}
    (hget : w.transactions id = some transaction)
    (hopen : transaction.phase.finished = false)
    (hunlocked : transaction.phase.locks = false)
    (hmissing : missing = .absent ∨ missing = .rejected)
    (h : w.select id transaction missing = some after) : Change w label after := by
  unfold select at h
  split at h
  · cases h
    exact .moved hget hopen hunlocked (by tauto)
  · rename_i record hstored
    split at h
    · rename_i hread
      cases h
      exact .read hget hopen hunlocked hstored hread
    · split at h
      · rename_i hfree
        have hprofile : record.profile =
            (w.committedOrDraft transaction.request).profile := by
          simp [committedOrDraft, hstored]
        rw [hprofile] at h
        cases h
        exact .acquired hget hopen hfree
      · simp at h

theorem insertDraft_change {w after : ProfileWorld} {label : TransactionLabel} {id : Nat}
    {transaction : ProfileTransaction}
    (hget : w.transactions id = some transaction)
    (hopen : transaction.phase.finished = false)
    (hunlocked : transaction.phase.locks = false)
    (h : w.insertDraft id transaction = some after) : Change w label after := by
  unfold insertDraft at h
  split at h
  · cases h
    exact .moved hget hopen hunlocked (by tauto)
  · rename_i hstored
    split at h
    · rename_i hfree
      have hprofile : StudentProfile.draft transaction.request.context.freshProfileId
          transaction.request.owner.id =
            (w.committedOrDraft transaction.request).profile := by
        simp [committedOrDraft, hstored, ProfileRecord.draft]
      rw [hprofile] at h
      cases h
      exact .acquired hget hopen hfree
    · simp at h

theorem Step.change {w after : ProfileWorld} {label : TransactionLabel}
    (h : Step w label after) : Change w label after := by
  unfold Step at h
  cases label with
  | start id request =>
      simp only [next] at h
      split at h
      · rename_i hnew
        cases h
        exact .started hnew
      · simp at h
  | select id =>
      simp only [next] at h
      split at h
      · rename_i request hget
        exact select_change hget rfl rfl (.inl rfl) h
      · rename_i request hget
        exact select_change hget rfl rfl (.inr rfl) h
      · simp at h
  | insertDraft id =>
      simp only [next] at h
      split at h
      · rename_i request hget
        exact insertDraft_change hget rfl rfl h
      · simp at h
  | execute id =>
      simp only [next] at h
      split at h
      · rename_i request profile hget
        cases h
        unfold execute
        split
        · rename_i record hrun
          exact .executed hget rfl hrun
        · exact .ended hget rfl
      · simp at h
  | commit id =>
      simp only [next] at h
      split at h
      · rename_i request held record hget
        cases h
        exact .committed hget rfl
      · simp at h
  | rollback id =>
      simp only [next] at h
      split at h
      · rename_i transaction hget
        split at h
        · simp at h
        · rename_i hopen
          cases h
          exact .ended hget (by simpa using hopen)
      · simp at h

/-- A finished request which replaced the record it held. -/
def Changed (w : ProfileWorld) (id : Nat) (transaction : ProfileTransaction)
    (held : ProfileRecord) : Prop :=
  ∃ record, w.transactions id = some transaction ∧
    transaction.phase = .succeeded held record ∧ record ≠ held

/-- What the committed rows have to do with each phase of a transaction. -/
def PhaseAgrees (w : ProfileWorld) (id : Nat) (request : ProfileRequest) :
    TransactionPhase → Prop
  | .holding profile =>
      w.locks request.owner.id = some id ∧ profile = (w.committedOrDraft request).profile
  | .flushed held record =>
      w.locks request.owner.id = some id ∧ held = w.committedOrDraft request ∧
        request.run (some held) = .ok record
  | .succeeded held record =>
      (∀ version ∈ request.write.version?, held.profile.version = version) ∧
        held.Advances record ∧
        ∃ stored, w.store request.owner.id = some stored ∧
          record.profile.version ≤ stored.profile.version
  | _ => True

structure TransactionInvariant (w : ProfileWorld) : Prop where
  phases : ∀ id transaction, w.transactions id = some transaction →
    w.PhaseAgrees id transaction.request transaction.phase
  distinct : ∀ first second firstTransaction secondTransaction firstHeld secondHeld,
    w.Changed first firstTransaction firstHeld →
      w.Changed second secondTransaction secondHeld →
      firstTransaction.request.owner.id = secondTransaction.request.owner.id →
      firstHeld.profile.version = secondHeld.profile.version → first = second

section Frames

variable {w after : ProfileWorld} {id other : Nat} {request : ProfileRequest}
  {transaction : ProfileTransaction} {phase : TransactionPhase}

theorem PhaseAgrees.lock (h : w.PhaseAgrees id request phase)
    (hlocks : phase.locks = true) : w.locks request.owner.id = some id := by
  cases phase with
  | holding profile => exact h.1
  | flushed held record => exact h.1
  | _ => simp [TransactionPhase.locks] at hlocks

/-- A phase stays right while its lock is kept and the stored version does not fall. -/
theorem PhaseAgrees.frame (h : w.PhaseAgrees id request phase)
    (hlocked : phase.locks = true → after.locks request.owner.id = some id ∧
      after.store request.owner.id = w.store request.owner.id)
    (hversion : ∀ stored, w.store request.owner.id = some stored →
      ∃ newer, after.store request.owner.id = some newer ∧
        stored.profile.version ≤ newer.profile.version) :
    after.PhaseAgrees id request phase := by
  cases phase with
  | holding profile =>
      obtain ⟨hlock, hstore⟩ := hlocked rfl
      refine ⟨hlock, ?_⟩
      rw [h.2, committedOrDraft, committedOrDraft, hstore]
  | flushed held record =>
      obtain ⟨hlock, hstore⟩ := hlocked rfl
      refine ⟨hlock, ?_, h.2.2⟩
      rw [h.2.1, committedOrDraft, committedOrDraft, hstore]
  | succeeded held record =>
      obtain ⟨hversions, hadvances, stored, hstored, hle⟩ := h
      obtain ⟨newer, hnewer, hnewerLe⟩ := hversion stored hstored
      exact ⟨hversions, hadvances, newer, hnewer, hle.trans hnewerLe⟩
  | _ => trivial

@[simp]
theorem setPhase_locks : (w.setPhase id transaction phase).locks = w.locks := rfl

@[simp]
theorem setPhase_store : (w.setPhase id transaction phase).store = w.store := rfl

@[simp]
theorem setPhase_self : (w.setPhase id transaction phase).transactions id =
    some ⟨transaction.request, phase⟩ := by
  simp [setPhase]

theorem setPhase_of_ne (hne : other ≠ id) :
    (w.setPhase id transaction phase).transactions other = w.transactions other := by
  simp [setPhase, hne]

@[simp]
theorem acquire_store {profile : StudentProfile} :
    (w.acquire id transaction profile).store = w.store := rfl

@[simp]
theorem acquire_transactions {profile : StudentProfile} :
    (w.acquire id transaction profile).transactions =
      (w.setPhase id transaction (.holding profile)).transactions := rfl

@[simp]
theorem finish_store : (w.finish id transaction phase).store = w.store := rfl

@[simp]
theorem finish_transactions : (w.finish id transaction phase).transactions =
    (w.setPhase id transaction phase).transactions := rfl

@[simp]
theorem commit_transactions {held record : ProfileRecord} :
    (w.commit id transaction held record).transactions =
      (w.setPhase id transaction (.succeeded held record)).transactions := rfl

@[simp]
theorem commit_locks {held record : ProfileRecord} :
    (w.commit id transaction held record).locks =
      (w.finish id transaction (.succeeded held record)).locks := rfl

/-- The rows which a session works on under the lock are the committed ones, or those of
its own draft. -/
theorem heldRecord_of_locked {profile : StudentProfile}
    (hprofile : profile = (w.committedOrDraft transaction.request).profile) :
    w.heldRecord transaction profile = w.committedOrDraft transaction.request := by
  subst hprofile
  unfold heldRecord committedOrDraft
  cases w.store transaction.request.owner.id <;> rfl

/-- A lock of another transaction survives the end of this one. -/
theorem finish_locks_of_other {owner : Nat} (hne : other ≠ id)
    (hlock : w.locks owner = some other) :
    (w.finish id transaction phase).locks owner = some other := by
  simp only [finish]
  split
  · rename_i hheld
    have howner : owner ≠ transaction.request.owner.id := by
      rintro rfl
      rw [hlock, Option.some_inj] at hheld
      exact hne hheld
    simp [howner, hlock]
  · exact hlock

end Frames

section Preservation

variable {w after : ProfileWorld} {id : Nat} {transaction : ProfileTransaction}
  {phase : TransactionPhase}

/-- One transaction moves: its new phase has to be right, and the others stay right. -/
theorem TransactionInvariant.of_update {request : ProfileRequest}
    (hinv : TransactionInvariant w)
    (htransactions : after.transactions =
      Function.update w.transactions id (some ⟨request, phase⟩))
    (hself : after.PhaseAgrees id request phase)
    (hothers : ∀ other transaction, other ≠ id →
      w.transactions other = some transaction →
      after.PhaseAgrees other transaction.request transaction.phase)
    (hdistinct : ∀ held record, phase = .succeeded held record → record ≠ held →
      ∀ other transaction otherHeld, w.Changed other transaction otherHeld →
        transaction.request.owner.id = request.owner.id →
        otherHeld.profile.version < held.profile.version) :
    TransactionInvariant after := by
  have hself_get : after.transactions id = some ⟨request, phase⟩ := by
    rw [htransactions, Function.update_self]
  have hother_get : ∀ other, other ≠ id →
      after.transactions other = w.transactions other := by
    intro other hne
    rw [htransactions, Function.update_of_ne hne]
  refine ⟨?_, ?_⟩
  · intro other found hfound
    by_cases hother : other = id
    · subst hother
      rw [hself_get, Option.some_inj] at hfound
      subst hfound
      exact hself
    · rw [hother_get other hother] at hfound
      exact hothers other found hother hfound
  · have hnew : ∀ other firstTransaction secondTransaction firstHeld secondHeld,
        other ≠ id → after.Changed id firstTransaction firstHeld →
        after.Changed other secondTransaction secondHeld →
        firstTransaction.request.owner.id = secondTransaction.request.owner.id →
        secondHeld.profile.version < firstHeld.profile.version := by
      rintro other firstTransaction secondTransaction firstHeld secondHeld hne
        ⟨record, hget, hphase, hchanged⟩ ⟨otherRecord, hotherGet, hother⟩ howner
      rw [hself_get, Option.some_inj] at hget
      subst hget
      rw [hother_get other hne] at hotherGet
      exact hdistinct firstHeld record hphase hchanged other secondTransaction secondHeld
        ⟨otherRecord, hotherGet, hother⟩ howner.symm
    intro first second firstTransaction secondTransaction firstHeld secondHeld hfirst
      hsecond howner hversion
    by_cases hfirstId : first = id
    · by_cases hsecondId : second = id
      · rw [hfirstId, hsecondId]
      · subst hfirstId
        have hlt := hnew second _ _ _ _ hsecondId hfirst hsecond howner
        rw [hversion] at hlt
        exact absurd hlt (Nat.lt_irrefl _)
    · by_cases hsecondId : second = id
      · subst hsecondId
        have hlt := hnew first _ _ _ _ hfirstId hsecond hfirst howner.symm
        rw [hversion] at hlt
        exact absurd hlt (Nat.lt_irrefl _)
      · obtain ⟨firstRecord, hfirstGet, hfirstChanged⟩ := hfirst
        obtain ⟨secondRecord, hsecondGet, hsecondChanged⟩ := hsecond
        rw [hother_get first hfirstId] at hfirstGet
        rw [hother_get second hsecondId] at hsecondGet
        exact hinv.distinct first second _ _ _ _ ⟨firstRecord, hfirstGet, hfirstChanged⟩
          ⟨secondRecord, hsecondGet, hsecondChanged⟩ howner hversion

theorem invariant_setPhase (hinv : TransactionInvariant w)
    (hself : w.PhaseAgrees id transaction.request phase)
    (hunchanged : ∀ held record, phase = .succeeded held record → record = held) :
    TransactionInvariant (w.setPhase id transaction phase) := by
  refine hinv.of_update rfl ?_ ?_ ?_
  · exact hself.frame (fun hlocks => ⟨hself.lock hlocks, rfl⟩)
      fun stored hstored => ⟨stored, hstored, Nat.le_refl _⟩
  · intro other found _ hfound
    have hagrees := hinv.phases other found hfound
    exact hagrees.frame (fun hlocks => ⟨hagrees.lock hlocks, rfl⟩)
      fun stored hstored => ⟨stored, hstored, Nat.le_refl _⟩
  · intro held record hphase hchanged
    exact absurd (hunchanged held record hphase) hchanged

theorem invariant_acquire (hinv : TransactionInvariant w)
    (hfree : w.locks transaction.request.owner.id = none) :
    TransactionInvariant (w.acquire id transaction
      (w.committedOrDraft transaction.request).profile) := by
  refine hinv.of_update rfl ?_ ?_ ?_
  · exact ⟨by simp [acquire], rfl⟩
  · intro other found _ hfound
    have hagrees := hinv.phases other found hfound
    refine hagrees.frame (fun hlocks => ⟨?_, rfl⟩)
      fun stored hstored => ⟨stored, hstored, Nat.le_refl _⟩
    have hlock := hagrees.lock hlocks
    have howner : found.request.owner.id ≠ transaction.request.owner.id := by
      intro hsame
      rw [hsame, hfree] at hlock
      simp at hlock
    simp [acquire, howner, hlock]
  · simp

theorem invariant_finish (hinv : TransactionInvariant w) :
    TransactionInvariant (w.finish id transaction .rejected) := by
  refine hinv.of_update rfl trivial ?_ ?_
  · intro other found hne hfound
    have hagrees := hinv.phases other found hfound
    exact hagrees.frame
      (fun hlocks => ⟨finish_locks_of_other hne (hagrees.lock hlocks), rfl⟩)
      fun stored hstored => ⟨stored, hstored, Nat.le_refl _⟩
  · simp

theorem invariant_start {request : ProfileRequest} (hinv : TransactionInvariant w) :
    TransactionInvariant (w.start id request) := by
  refine hinv.of_update rfl ?_ ?_ ?_
  · split <;> trivial
  · intro other found _ hfound
    have hagrees := hinv.phases other found hfound
    exact hagrees.frame (fun hlocks => ⟨hagrees.lock hlocks, rfl⟩)
      fun stored hstored => ⟨stored, hstored, Nat.le_refl _⟩
  · intro held record hphase
    split at hphase <;> simp at hphase

/-- Under the lock the committed version is the one which the write carried, so a commit
raises it past every version which an earlier change was made with. -/
theorem invariant_commit {held record : ProfileRecord} (hinv : TransactionInvariant w)
    (hget : w.transactions id = some transaction)
    (hphase : transaction.phase = .flushed held record) :
    TransactionInvariant (w.commit id transaction held record) := by
  have hflushed := hinv.phases id transaction hget
  rw [hphase] at hflushed
  obtain ⟨hlock, hheld, hrun⟩ := hflushed
  obtain ⟨hversion, hadvances⟩ := run_held hrun
  have hstored : ∀ stored, w.store transaction.request.owner.id = some stored →
      held = stored := by
    intro stored hstored
    rw [hheld, committedOrDraft, hstored, Option.getD_some]
  refine hinv.of_update rfl ?_ ?_ ?_
  · exact ⟨hversion, hadvances, record, by simp [commit], Nat.le_refl _⟩
  · intro other found hne hfound
    have hagrees := hinv.phases other found hfound
    refine hagrees.frame ?_ ?_
    · intro hlocks
      have hother := hagrees.lock hlocks
      have howner : found.request.owner.id ≠ transaction.request.owner.id := by
        intro hsame
        rw [hsame, hlock, Option.some_inj] at hother
        exact hne hother.symm
      refine ⟨?_, by simp [commit, howner]⟩
      rw [commit_locks]
      exact finish_locks_of_other hne hother
    · intro stored hfoundStored
      by_cases howner : found.request.owner.id = transaction.request.owner.id
      · rw [howner] at hfoundStored
        refine ⟨record, by simp [commit, howner], ?_⟩
        rw [← hstored stored hfoundStored]
        exact hadvances.version_le
      · exact ⟨stored, by simp [commit, howner, hfoundStored], Nat.le_refl _⟩
  · rintro _ _ hsucceeded _ other found otherHeld ⟨otherRecord, hotherGet, hotherPhase,
      hotherChanged⟩ howner
    cases hsucceeded
    have hagrees := hinv.phases other found hotherGet
    rw [hotherPhase] at hagrees
    obtain ⟨_, hotherAdvances, stored, hotherStored, hle⟩ := hagrees
    rw [howner] at hotherStored
    rw [hstored stored hotherStored]
    rcases hotherAdvances with hsame | hnext
    · exact absurd hsame hotherChanged
    · omega

theorem TransactionInvariant.step {label : TransactionLabel}
    (hinv : TransactionInvariant w) (hstep : Step w label after) :
    TransactionInvariant after := by
  cases hstep.change with
  | started => exact invariant_start hinv
  | moved hget hopen hunlocked hphase =>
      refine invariant_setPhase hinv ?_ ?_
      · rcases hphase with rfl | rfl | rfl <;> trivial
      · rcases hphase with rfl | rfl | rfl <;> simp
  | @read _ _ transaction record hget hopen hunlocked hstored hread =>
      refine invariant_setPhase hinv ?_ ?_
      · exact ⟨by simp [hread], .inl rfl, record, hstored, Nat.le_refl _⟩
      · rintro held found hphase
        cases hphase
        rfl
  | acquired hget hopen hfree => exact invariant_acquire hinv hfree
  | @executed id transaction profile record hget hphase hrun =>
      have hholding := hinv.phases id transaction hget
      rw [hphase] at hholding
      obtain ⟨hlock, hprofile⟩ := hholding
      refine invariant_setPhase hinv ⟨hlock, ?_, hrun⟩ (by simp)
      exact heldRecord_of_locked hprofile
  | committed hget hphase => exact invariant_commit hinv hget hphase
  | ended => exact invariant_finish hinv

end Preservation

theorem Reached.invariant {w : ProfileWorld} (hreached : Reached w) :
    TransactionInvariant w := by
  refine Reaches.invariant ?_ ?_ hreached
  · rintro state ⟨_, hnone⟩
    refine ⟨?_, ?_⟩
    · intro id transaction hget
      simp [hnone] at hget
    · rintro first _ _ _ _ _ ⟨record, hget, _⟩
      simp [hnone] at hget
  · intro state label after hinv _ hstep
    exact hinv.step hstep

/-- A request about to commit: it holds the row lock, worked on the committed record or
on its own draft in the record's own version, and keeps it or takes the next version. -/
structure CommitsUnderLock (w : ProfileWorld) (id : Nat) (request : ProfileRequest)
    (held record : ProfileRecord) : Prop where
  flushed : w.transactions id = some ⟨request, .flushed held record⟩
  locked : w.locks request.owner.id = some id
  held_eq : held = w.committedOrDraft request
  version : ∀ version ∈ request.write.version?, held.profile.version = version
  advances : held.Advances record

theorem TransactionInvariant.commitsUnderLock {w : ProfileWorld} {id : Nat}
    {request : ProfileRequest} {held record : ProfileRecord}
    (hinv : TransactionInvariant w)
    (hget : w.transactions id = some ⟨request, .flushed held record⟩) :
    w.CommitsUnderLock id request held record := by
  obtain ⟨hlock, hheld, hrun⟩ := hinv.phases id _ hget
  obtain ⟨hversion, hadvances⟩ := run_held hrun
  exact ⟨hget, hlock, hheld, hversion, hadvances⟩

/-- A write which has succeeded. -/
def Wrote (w : ProfileWorld) (id : Nat) (request : ProfileRequest)
    (held record : ProfileRecord) : Prop :=
  w.transactions id = some ⟨request, .succeeded held record⟩ ∧
    request.write.version?.isSome

/-- A step which leaves the committed rows alone and makes no further write succeed. -/
def KeepsRows (w after : ProfileWorld) : Prop :=
  after.store = w.store ∧ ∀ id request held record,
    after.Wrote id request held record → w.Wrote id request held record

/-- A write which its lock protects commits its record as the only changed one. -/
def CommitsWrite (w : ProfileWorld) (label : TransactionLabel) (after : ProfileWorld) :
    Prop :=
  ∃ id request held record, label = .commit id ∧
    w.CommitsUnderLock id request held record ∧
    after.transactions id = some ⟨request, .succeeded held record⟩ ∧
    after.store = Function.update w.store request.owner.id (some record)

section Steps

variable {w after : ProfileWorld} {id : Nat}

theorem keepsRows_of_phase {request : ProfileRequest} {phase : TransactionPhase}
    (hstore : after.store = w.store)
    (htransactions : after.transactions =
      Function.update w.transactions id (some ⟨request, phase⟩))
    (hphase : ∀ held record, phase = .succeeded held record →
      request.write.version? = none) : KeepsRows w after := by
  refine ⟨hstore, ?_⟩
  rintro other found held record ⟨hget, hwrite⟩
  rw [htransactions] at hget
  by_cases hother : other = id
  · subst hother
    rw [Function.update_self, Option.some_inj] at hget
    cases hget
    simp [hphase held record rfl] at hwrite
  · rw [Function.update_of_ne hother] at hget
    exact ⟨hget, hwrite⟩

theorem TransactionInvariant.keeps_or_commits {label : TransactionLabel}
    (hinv : TransactionInvariant w) (hstep : Step w label after) :
    KeepsRows w after ∨ CommitsWrite w label after := by
  cases hstep.change with
  | started =>
      refine .inl (keepsRows_of_phase rfl rfl ?_)
      intro held record hphase
      split at hphase <;> simp at hphase
  | moved hget hopen hunlocked hphase =>
      refine .inl (keepsRows_of_phase rfl rfl ?_)
      rcases hphase with rfl | rfl | rfl <;> simp
  | read hget hopen hunlocked hstored hread =>
      exact .inl (keepsRows_of_phase rfl rfl fun _ _ _ => hread)
  | acquired => exact .inl (keepsRows_of_phase rfl rfl (by simp))
  | executed => exact .inl (keepsRows_of_phase rfl rfl (by simp))
  | @committed id transaction held record hget hphase =>
      rcases transaction with ⟨request, phase⟩
      obtain rfl : phase = .flushed held record := hphase
      exact .inr ⟨id, request, held, record, rfl, hinv.commitsUnderLock hget,
        by simp, rfl⟩
  | ended => exact .inl (keepsRows_of_phase rfl rfl (by simp))

/-- A finished transaction takes no further step. -/
theorem finished_stays {label : TransactionLabel} {transaction : ProfileTransaction}
    (hget : w.transactions id = some transaction)
    (hfinished : transaction.phase.finished = true) (hstep : Step w label after) :
    after.transactions id = some transaction := by
  have hkept : ∀ other found phase, w.transactions other = some found →
      found.phase.finished = false →
      (w.setPhase other found phase).transactions id = some transaction := by
    intro other found phase hfound hopen
    have hne : id ≠ other := by
      rintro rfl
      rw [hget, Option.some_inj] at hfound
      rw [hfound, hopen] at hfinished
      simp at hfinished
    rw [setPhase_of_ne hne, hget]
  cases hstep.change with
  | @started other _ hnew =>
      have hne : id ≠ other := by
        rintro rfl
        simp [hget] at hnew
      simp [start, hne, hget]
  | moved hfound hopen => exact hkept _ _ _ hfound hopen
  | read hfound hopen => exact hkept _ _ _ hfound hopen
  | acquired hfound hopen => exact hkept _ _ _ hfound hopen
  | executed hfound hphase => exact hkept _ _ _ hfound (by rw [hphase]; rfl)
  | committed hfound hphase => exact hkept _ _ _ hfound (by rw [hphase]; rfl)
  | ended hfound hopen => exact hkept _ _ _ hfound hopen

end Steps

/-- Whenever a request of a run is refused, every change of the rows in the run, before and
after, is the commit of another request. -/
def RefusedNeverWrites (w : ProfileWorld) : Prop :=
  ∀ trace : Nat → ProfileWorld, trace 0 = w → IsTrace Step trace →
    ∀ refused id request, (trace refused).transactions id = some ⟨request, .rejected⟩ →
      ∀ time, KeepsRows (trace time) (trace (time + 1)) ∨
        ∃ other, other ≠ id ∧ CommitsWrite (trace time) (.commit other) (trace (time + 1))

section Traces

variable {trace : Nat → ProfileWorld} {id : Nat} {transaction : ProfileTransaction}

theorem finished_stays_along (htrace : IsTrace Step trace) {first second : Nat}
    (hle : first ≤ second) (hget : (trace first).transactions id = some transaction)
    (hfinished : transaction.phase.finished = true) :
    (trace second).transactions id = some transaction := by
  induction hle with
  | refl => exact hget
  | @step time _ ih =>
      rcases htrace time with hsame | ⟨label, hstep⟩
      · rw [hsame]
        exact ih
      · exact finished_stays ih hfinished hstep

/-- A request finishes in one way. -/
theorem finished_unique (htrace : IsTrace Step trace) {first second : Nat}
    {other : ProfileTransaction} (hget : (trace first).transactions id = some transaction)
    (hfinished : transaction.phase.finished = true)
    (hother : (trace second).transactions id = some other)
    (hotherFinished : other.phase.finished = true) : transaction = other := by
  rcases Nat.le_total first second with hle | hle
  · have hkept := finished_stays_along htrace hle hget hfinished
    rwa [hother, Option.some_inj, eq_comm] at hkept
  · have hkept := finished_stays_along htrace hle hother hotherFinished
    rwa [hget, Option.some_inj] at hkept

theorem TransactionInvariant.along (hinv : TransactionInvariant (trace 0))
    (htrace : IsTrace Step trace) (time : Nat) : TransactionInvariant (trace time) := by
  refine (Reaches.of_trace htrace (Nat.zero_le time)).invariant ?_ ?_
  · rintro state rfl
    exact hinv
  · intro state label after hstate _ hstep
    exact hstate.step hstep

end Traces

/-- The commit of a request is its end, and a refused one has ended otherwise. -/
theorem TransactionInvariant.refusedNeverWrites {w : ProfileWorld}
    (hinv : TransactionInvariant w) : w.RefusedNeverWrites := by
  rintro trace rfl htrace refused id request hrefused time
  rcases htrace time with hsame | ⟨label, hstep⟩
  · rw [hsame]
    exact .inl ⟨rfl, fun _ _ _ _ hwrote => hwrote⟩
  · rcases (hinv.along htrace time).keeps_or_commits hstep with hkeeps | hcommits
    · exact .inl hkeeps
    · obtain ⟨other, committed, held, record, rfl, hlocked, hsucceeded, hstore⟩ := hcommits
      refine .inr ⟨other, ?_, other, committed, held, record, rfl, hlocked, hsucceeded,
        hstore⟩
      rintro rfl
      have hends := finished_unique htrace hrefused rfl hsucceeded rfl
      cases hends

/-- Rows change only by the commit of a write which holds the row lock in the committed
version; a refused request stays refused and never writes; and two writes which changed a
profile carried different versions. -/
theorem profile_writes_optimistic {w : ProfileWorld} (hreached : Reached w) :
    (∀ label after, Step w label after →
      (KeepsRows w after ∨ CommitsWrite w label after) ∧
        ∀ id request, w.transactions id = some ⟨request, .rejected⟩ →
          after.transactions id = some ⟨request, .rejected⟩) ∧
      w.RefusedNeverWrites ∧
      ∀ first second firstRequest secondRequest firstHeld secondHeld firstRecord
        secondRecord,
        w.Wrote first firstRequest firstHeld firstRecord →
        w.Wrote second secondRequest secondHeld secondRecord →
        firstRecord ≠ firstHeld → secondRecord ≠ secondHeld →
        firstRequest.owner.id = secondRequest.owner.id →
        firstRequest.write.version? = secondRequest.write.version? → first = second := by
  have hinv := hreached.invariant
  refine ⟨?_, hinv.refusedNeverWrites, ?_⟩
  · intro label after hstep
    exact ⟨hinv.keeps_or_commits hstep, fun id request hget =>
      finished_stays hget rfl hstep⟩
  · intro first second firstRequest secondRequest firstHeld secondHeld firstRecord
      secondRecord hfirst hsecond hfirstChanged hsecondChanged howner hversions
    obtain ⟨version, hversion⟩ := Option.isSome_iff_exists.mp hfirst.2
    have hfirstVersion := (hinv.phases first _ hfirst.1).1 version hversion
    have hsecondVersion := (hinv.phases second _ hsecond.1).1 version
      (hversions ▸ hversion)
    exact hinv.distinct first second _ _ firstHeld secondHeld
      ⟨firstRecord, hfirst.1, rfl, hfirstChanged⟩
      ⟨secondRecord, hsecond.1, rfl, hsecondChanged⟩ howner
      (hfirstVersion.trans hsecondVersion.symm)

theorem exists_of_run {w : ProfileWorld} (hreached : Reached w)
    (labels : List TransactionLabel) (property : ProfileWorld → Bool)
    (hrun : (Reaches.run next (fun _ _ => True) w labels).any property = true) :
    ∃ after, Reached after ∧ property after = true := by
  obtain ⟨after, _, hafter, hproperty⟩ :=
    Reaches.exists_of_run (fun h => h) hreached labels property hrun
  exact ⟨after, hafter, hproperty⟩

namespace Witness

open WriteRunsWitness (customChess)

/-- No profile is stored and no transaction has started. -/
def start : ProfileWorld where
  store := .empty
  locks := fun _ => none
  transactions := fun _ => none

/-- Two first writes in one version race to create the draft. -/
def raceLabels : List TransactionLabel :=
  [.start 0 customChess, .start 1 customChess, .select 0, .select 1, .insertDraft 0,
    .execute 0, .commit 0, .insertDraft 1, .select 1, .execute 1]

/-- The first write has succeeded and the second one is refused. -/
def raced (w : ProfileWorld) : Bool :=
  ((w.store 7).any fun record => record.profile.version = 2) &&
    (w.transactions 1).any fun transaction =>
      match transaction.phase with
      | .rejected => true
      | _ => false

theorem profile_writes_optimistic_race :
    ∃ w, raced w = true ∧ w.RefusedNeverWrites ∧ ∀ label after, Step w label after →
      KeepsRows w after ∨ CommitsWrite w label after := by
  have hstart : Reached start := .start ⟨rfl, rfl⟩
  obtain ⟨w, hreached, hraced⟩ := exists_of_run hstart raceLabels raced (by decide +kernel)
  obtain ⟨hsteps, hrefused, _⟩ := profile_writes_optimistic hreached
  exact ⟨w, hraced, hrefused, fun label after hstep => (hsteps label after hstep).1⟩

end Witness

end ProfileWorld

end BuddyWeb
