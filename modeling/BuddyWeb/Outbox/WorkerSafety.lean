/-
The safety of the outbox under any number of workers: a lease is the only token between
the transactions of a delivery, and it is enough exactly when no worker carries the
stripped id of another one.
-/
import BuddyWeb.Outbox.WorkerAgreement
import BuddyWeb.Outbox.WorkerWorld

namespace BuddyWeb

variable {ω π : Type} [DecidableEq ω] {workerId : ω → String}

/-- The accepted id of a worker is nobody else's. -/
def OwnLeases (workerId : ω → String) : Prop :=
  ∀ first second, validateIdentifier (workerId second) 100 () = .ok (workerId first) →
    first = second

/-- Neither sent nor failed. -/
def TransactionalEmail.isSettled (row : TransactionalEmail π) : Bool :=
  row.sentAt.isSome || row.failedAt.isSome

/-- What holds of a world and of its next steps. -/
structure OutboxSafe (workerId : ω → String) (world : OutboxWorld ω π) : Prop where
  one_terminal : ∀ row ∈ world.table.rows, row.sentAt = none ∨ row.failedAt = none
  attempts_recorded : ∀ row ∈ world.table.rows, row.attempts = world.outcomes.count row.id
  attempts_le : ∀ row ∈ world.table.rows, row.attempts ≤ maxDeliveryAttempts
  one_key : ∀ first ∈ world.sends, ∀ second ∈ world.sends, first.1 = second.1 →
    first.2 = second.2
  /-- The rows which a claim is about to lease carry no lease which still runs. -/
  claimed_unleased : ∀ worker owner now rows, world.phase worker = .selected owner now rows →
    ∀ row ∈ rows, row ∈ world.table.rows ∧ ∀ expires ∈ row.leaseExpiresAt, expires ≤ world.now
  /-- Only such a claim, and the worker which claimed it last, change a row. -/
  changes : ∀ label after, OutboxStep workerId world label after →
    ∀ row ∈ world.table.rows, row ∉ after.table.rows →
      (∃ worker owner now rows, label = .commitClaim worker ∧
        world.phase worker = .selected owner now rows ∧ row ∈ rows) ∨
      ∃ worker, label = .record worker ∧ world.holder row.id = some worker
  settled_final : ∀ later, Reaches (· = world) (OutboxStep workerId) (fun _ _ => True) later →
    ∀ row ∈ world.table.rows, row.isSettled = true → row ∈ later.table.rows

/-- Some row carries this id and this idempotency key. -/
def OutboxWorld.HasKey (world : OutboxWorld ω π) (outboxId : Nat) (key : String) : Prop :=
  ∃ row ∈ world.table.rows, row.id = outboxId ∧ row.idempotencyKey = key

/-- What holds of each stored row. -/
structure RowFacts (workerId : ω → String) (world : OutboxWorld ω π)
    (row : TransactionalEmail π) : Prop where
  attempts_recorded : row.attempts = world.outcomes.count row.id
  attempts_lt : row.isOpen = true → row.attempts < maxDeliveryAttempts
  attempts_le : row.attempts ≤ maxDeliveryAttempts
  one_terminal : row.sentAt = none ∨ row.failedAt = none
  owner_claimed : ∀ owner ∈ row.leaseOwner, ∃ worker, world.holder row.id = some worker ∧
    validateIdentifier (workerId worker) 100 () = .ok owner

/-- What holds of a worker in each phase. -/
def PhaseFacts (workerId : ω → String) (world : OutboxWorld ω π) (worker : ω) :
    WorkerPhase π → Prop
  | .claiming owner _ now =>
      validateIdentifier (workerId worker) 100 () = .ok owner ∧ now ≤ world.now
  | .selected owner now rows =>
      (validateIdentifier (workerId worker) 100 () = .ok owner ∧ now ≤ world.now) ∧
        ∀ row ∈ rows, row ∈ world.table.rows ∧ world.locks row.id = some worker ∧
          row.isReady now = true
  | .reading _ row _ => ∀ found ∈ row, world.HasKey found.id found.idempotencyKey
  | .loaded item _ => world.HasKey item.outboxId item.idempotencyKey
  | .sending item _ => world.HasKey item.outboxId item.idempotencyKey
  | .finalizing row _ _ _ =>
      row ∈ world.table.rows ∧ world.locks row.id = some worker ∧
        row.isOwned (workerId worker) = true
  | _ => True

structure WorldFacts (workerId : ω → String) (world : OutboxWorld ω π) : Prop where
  rows : ∀ row ∈ world.table.rows, RowFacts workerId world row
  phases : ∀ worker, PhaseFacts workerId world worker (world.phase worker)
  sends : ∀ sent ∈ world.sends, world.HasKey sent.1 sent.2
  outcomes : ∀ outboxId ∈ world.outcomes, ∃ row ∈ world.table.rows, row.id = outboxId

section Frame

variable {world after : OutboxWorld ω π} {worker : ω} {phase : WorkerPhase π}

omit [DecidableEq ω] in
/-- A worker keeps what it knows while its locked rows and all keys stay. -/
theorem PhaseFacts.frame (hfacts : PhaseFacts workerId world worker phase)
    (hnow : world.now ≤ after.now)
    (hkeys : ∀ outboxId key, world.HasKey outboxId key → after.HasKey outboxId key)
    (hlocked : ∀ row ∈ world.table.rows, world.locks row.id = some worker →
      row ∈ after.table.rows ∧ after.locks row.id = some worker) :
    PhaseFacts workerId after worker phase := by
  cases phase with
  | idle => trivial
  | delivering queue => trivial
  | answered outboxId providerMessageId failure queue => trivial
  | claiming owner batchSize now => exact ⟨hfacts.1, hfacts.2.trans hnow⟩
  | selected owner now rows =>
      refine ⟨⟨hfacts.1.1, hfacts.1.2.trans hnow⟩, fun row hrow => ?_⟩
      have hold := hfacts.2 row hrow
      have hnew := hlocked row hold.1 hold.2.1
      exact ⟨hnew.1, hnew.2, hold.2.2⟩
  | reading outboxId row queue => exact fun found hfound => hkeys _ _ (hfacts found hfound)
  | loaded item queue => exact hkeys _ _ hfacts
  | sending item queue => exact hkeys _ _ hfacts
  | finalizing row providerMessageId failure queue =>
      have hnew := hlocked row hfacts.1 hfacts.2.1
      exact ⟨hnew.1, hnew.2, hfacts.2.2⟩

omit [DecidableEq ω] in
/-- The same table, claims and outcomes. -/
theorem RowFacts.congr {row : TransactionalEmail π} (hfacts : RowFacts workerId world row)
    (hclaims : after.claims = world.claims) (houtcomes : after.outcomes = world.outcomes) :
    RowFacts workerId after row where
  attempts_recorded := houtcomes ▸ hfacts.attempts_recorded
  attempts_lt := hfacts.attempts_lt
  attempts_le := hfacts.attempts_le
  one_terminal := hfacts.one_terminal
  owner_claimed := by
    intro owner howner
    have hholder : after.holder row.id = world.holder row.id := by
      rw [OutboxWorld.holder, hclaims, OutboxWorld.holder]
    rw [hholder]
    exact hfacts.owner_claimed owner howner

end Frame

section Steps

variable {world after : OutboxWorld ω π} {worker : ω}

/-- A step of one worker which leaves the table, the claims and the outcomes. -/
theorem WorldFacts.of_same_table (worker : ω) (h : WorldFacts workerId world)
    (htable : after.table = world.table) (hclaims : after.claims = world.claims)
    (houtcomes : after.outcomes = world.outcomes) (hnow : after.now = world.now)
    (hsends : ∀ sent ∈ after.sends, sent ∈ world.sends ∨ world.HasKey sent.1 sent.2)
    (hlocks : ∀ other outboxId, other ≠ worker → world.locks outboxId = some other →
      after.locks outboxId = some other)
    (hphases : ∀ other, other ≠ worker → after.phase other = world.phase other)
    (hphase : PhaseFacts workerId after worker (after.phase worker)) :
    WorldFacts workerId after where
  rows := by
    intro row hrow
    rw [htable] at hrow
    exact (h.rows row hrow).congr hclaims houtcomes
  phases := by
    intro other
    by_cases hother : other = worker
    · rw [hother]
      exact hphase
    · rw [hphases other hother]
      apply (h.phases other).frame hnow.symm.le
      · rintro outboxId key ⟨row, hrow, hid⟩
        exact ⟨row, htable ▸ hrow, hid⟩
      · intro row hrow hlock
        exact ⟨htable ▸ hrow, hlocks other row.id hother hlock⟩
  sends := by
    have hkeys : ∀ outboxId key, world.HasKey outboxId key → after.HasKey outboxId key := by
      rintro outboxId key ⟨row, hrow, hid⟩
      exact ⟨row, htable ▸ hrow, hid⟩
    intro sent hsent
    rcases hsends sent hsent with hold | hkey
    · exact hkeys _ _ (h.sends sent hold)
    · exact hkeys _ _ hkey
  outcomes := by
    intro outboxId hmem
    rw [houtcomes] at hmem
    obtain ⟨row, hrow, hid⟩ := h.outcomes outboxId hmem
    exact ⟨row, htable ▸ hrow, hid⟩

/-- A step which only moves a worker to another phase. -/
theorem WorldFacts.setPhase (h : WorldFacts workerId world) {phase : WorkerPhase π}
    (hphase : PhaseFacts workerId (world.setPhase worker phase) worker phase) :
    WorldFacts workerId (world.setPhase worker phase) := by
  apply WorldFacts.of_same_table worker h
  · rfl
  · rfl
  · rfl
  · rfl
  · intro sent hsent
    exact Or.inl hsent
  · intro other outboxId _ hlock
    exact hlock
  · intro other hother
    exact OutboxWorld.setPhase_phase_of_ne _ _ hother
  · rw [OutboxWorld.setPhase_phase_self]
    exact hphase

/-- The end of a worker's transaction keeps the locks of the others. -/
theorem OutboxWorld.unlocked_of_ne {other : ω} {outboxId : Nat} (hne : other ≠ worker)
    (hlock : world.locks outboxId = some other) :
    world.unlocked worker outboxId = some other := by
  rw [OutboxWorld.unlocked, if_neg, hlock]
  rw [hlock, Option.some.injEq]
  exact hne

omit [DecidableEq ω] in
/-- A worker which locks free rows keeps the locks of the others. -/
theorem OutboxWorld.locked_of_ne {other : ω} {outboxId : Nat} {ids : List Nat}
    (hfree : ∀ id ∈ ids, world.locks id = none)
    (hlock : world.locks outboxId = some other) :
    world.locked worker ids outboxId = some other := by
  rw [OutboxWorld.locked, if_neg, hlock]
  intro hmem
  rw [hfree outboxId hmem] at hlock
  exact absurd hlock (by simp)

theorem mem_readyBatch {rows : List (TransactionalEmail π)} {locked : Nat → Bool} {now : Int}
    {batchSize : Nat} {row : TransactionalEmail π}
    (h : row ∈ readyBatch rows locked now batchSize) :
    row ∈ rows ∧ row.isReady now = true ∧ locked row.id = false := by
  have hmem := List.mem_of_mem_take h
  rw [List.mem_insertionSort, List.mem_filter] at hmem
  simpa using hmem

theorem mem_leaseRows_iff {table : Table (TransactionalEmail π)} {ids : List Nat}
    {owner : String} {now : Int} {row : TransactionalEmail π} :
    row ∈ (leaseRows table ids owner now).rows ↔
      ∃ old ∈ table.rows, (if old.id ∈ ids then old.leased owner now else old) = row := by
  simp [leaseRows, Table.modify]

omit [DecidableEq ω] in
theorem find?_claimed (rows : List (TransactionalEmail π)) (worker : ω) (outboxId : Nat) :
    (rows.map fun row => (row.id, worker)).find? (fun claim => claim.1 == outboxId) =
      if outboxId ∈ rows.map TransactionalEmail.id then some (outboxId, worker) else none := by
  induction rows with
  | nil => simp
  | cons head tail ih =>
      rw [List.map_cons, List.find?_cons]
      by_cases hhead : head.id = outboxId
      · simp [hhead]
      · have hbeq : (head.id == outboxId) = false := beq_eq_false_iff_ne.mpr hhead
        simp [hbeq, Ne.symm hhead, ih]

omit [DecidableEq ω] in
/-- The newest claim after a worker has claimed some rows. -/
theorem OutboxWorld.holder_claimed {rows : List (TransactionalEmail π)} {outboxId : Nat}
    (hclaims : after.claims = rows.map (fun row => (row.id, worker)) ++ world.claims) :
    after.holder outboxId =
      if outboxId ∈ rows.map TransactionalEmail.id then some worker
        else world.holder outboxId := by
  rw [OutboxWorld.holder, hclaims, List.find?_append, find?_claimed]
  split
  · rfl
  · rfl

/-- What an outcome changes of an open row. -/
theorem TransactionalEmail.finalized_spec {row settled : TransactionalEmail π}
    {providerMessageId : Option String} {failure : Option DeliveryFailure} {now : Int}
    {outcome : DeliveryOutcome} (hopen : row.isOpen = true)
    (h : row.finalized providerMessageId failure now = .ok (settled, outcome)) :
    settled.id = row.id ∧ settled.idempotencyKey = row.idempotencyKey ∧
      settled.attempts = row.attempts + 1 ∧ settled.leaseOwner = none ∧
      (settled.sentAt = none ∨ settled.failedAt = none) ∧
      (settled.isOpen = true → settled.attempts < maxDeliveryAttempts) := by
  simp only [TransactionalEmail.isOpen, Bool.and_eq_true, Option.isNone_iff_eq_none] at hopen
  unfold TransactionalEmail.finalized at h
  cases failure with
  | none =>
      simp only [except_bind_eq_ok_iff, require_eq_ok_iff, except_pure_eq_ok_iff,
        Prod.mk.injEq] at h
      obtain ⟨_, _, rfl, _⟩ := h
      exact ⟨rfl, rfl, rfl, rfl, Or.inr hopen.2, by simp [TransactionalEmail.isOpen]⟩
  | some failure =>
      dsimp only at h
      split at h
      · rename_i hretry
        simp only [except_pure_eq_ok_iff, Prod.mk.injEq] at h
        obtain ⟨rfl, _⟩ := h
        simp only [Bool.and_eq_true, decide_eq_true_eq] at hretry
        exact ⟨rfl, rfl, rfl, rfl, Or.inr hopen.2, fun _ => hretry.2⟩
      · simp only [except_pure_eq_ok_iff, Prod.mk.injEq] at h
        obtain ⟨rfl, _⟩ := h
        exact ⟨rfl, rfl, rfl, rfl, Or.inl hopen.1.2, by simp [TransactionalEmail.isOpen]⟩

/-- What a commit of a claim or of an outcome has to keep: each new row is an old one, or a
version which only its locker writes. -/
theorem WorldFacts.of_versions (worker : ω) (h : WorldFacts workerId world)
    (hnow : after.now = world.now) (hsends : after.sends = world.sends)
    (hkept : ∀ row ∈ world.table.rows, world.locks row.id ≠ some worker →
      row ∈ after.table.rows)
    (hversions : ∀ row ∈ world.table.rows, ∃ new ∈ after.table.rows,
      new.id = row.id ∧ new.idempotencyKey = row.idempotencyKey)
    (hrows : ∀ row ∈ after.table.rows, RowFacts workerId after row)
    (houtcomes : ∀ outboxId ∈ after.outcomes,
      outboxId ∈ world.outcomes ∨ ∃ row ∈ world.table.rows, row.id = outboxId)
    (hlocks : ∀ other outboxId, other ≠ worker → world.locks outboxId = some other →
      after.locks outboxId = some other)
    (hphases : ∀ other, other ≠ worker → after.phase other = world.phase other)
    (hphase : PhaseFacts workerId after worker (after.phase worker)) :
    WorldFacts workerId after := by
  have hkeys : ∀ outboxId key, world.HasKey outboxId key → after.HasKey outboxId key := by
    rintro outboxId key ⟨row, hrow, hid, hkey⟩
    obtain ⟨new, hnew, hsame, hsameKey⟩ := hversions row hrow
    exact ⟨new, hnew, hsame.trans hid, hsameKey.trans hkey⟩
  refine ⟨hrows, fun other => ?_, fun sent hsent => ?_, fun outboxId hmem => ?_⟩
  · by_cases hother : other = worker
    · rw [hother]
      exact hphase
    · rw [hphases other hother]
      apply (h.phases other).frame hnow.symm.le hkeys
      intro row hrow hlock
      refine ⟨hkept row hrow ?_, hlocks other row.id hother hlock⟩
      rw [hlock, ne_eq, Option.some.injEq]
      exact hother
  · rw [hsends] at hsent
    exact hkeys _ _ (h.sends sent hsent)
  · have hold : ∃ row ∈ world.table.rows, row.id = outboxId := by
      rcases houtcomes outboxId hmem with hpast | hnew
      · exact h.outcomes outboxId hpast
      · exact hnew
    obtain ⟨row, hrow, hid⟩ := hold
    obtain ⟨new, hnew, hsame, _⟩ := hversions row hrow
    exact ⟨new, hnew, hsame.trans hid⟩

/-- A claim leases rows which it has locked, and is their newest claim. -/
theorem WorldFacts.commitClaim (h : WorldFacts workerId world) {owner : String} {now : Int}
    {rows : List (TransactionalEmail π)}
    (hphase : world.phase worker = .selected owner now rows) :
    WorldFacts workerId ({ world with
      table := leaseRows world.table (rows.map TransactionalEmail.id) owner now
      locks := world.unlocked worker
      claims := rows.map (fun row : TransactionalEmail π => (row.id, worker)) ++
        world.claims }.setPhase worker (.delivering (rows.map TransactionalEmail.id))) := by
  have hfacts := h.phases worker
  rw [hphase] at hfacts
  have hselected : ∀ row ∈ world.table.rows, row.id ∈ rows.map TransactionalEmail.id →
      world.locks row.id = some worker ∧ row.isReady now = true := by
    intro row hrow hmem
    obtain ⟨found, hfound, hid⟩ := List.mem_map.mp hmem
    have hold := hfacts.2 found hfound
    rw [Table.eq_of_key hrow hold.1 hid.symm]
    exact hold.2
  apply WorldFacts.of_versions worker h
  · rfl
  · rfl
  · intro row hrow hlock
    apply mem_leaseRows_iff.mpr
    refine ⟨row, hrow, if_neg fun hmem => hlock (hselected row hrow hmem).1⟩
  · intro row hrow
    refine ⟨_, mem_leaseRows_iff.mpr ⟨row, hrow, rfl⟩, ?_⟩
    split
    · exact ⟨rfl, rfl⟩
    · exact ⟨rfl, rfl⟩
  · intro row hrow
    obtain ⟨old, hold, rfl⟩ := mem_leaseRows_iff.mp hrow
    have hrowFacts := h.rows old hold
    split
    · rename_i hmem
      refine ⟨hrowFacts.attempts_recorded, hrowFacts.attempts_lt, hrowFacts.attempts_le,
        hrowFacts.one_terminal, fun taken htaken => ⟨worker, ?_, ?_⟩⟩
      · rw [OutboxWorld.holder_claimed rfl]
        exact if_pos hmem
      · have htakenOwner : owner = taken := Option.some.inj htaken
        rw [← htakenOwner]
        exact hfacts.1.1
    · rename_i hmem
      refine ⟨hrowFacts.attempts_recorded, hrowFacts.attempts_lt, hrowFacts.attempts_le,
        hrowFacts.one_terminal, fun taken htaken => ?_⟩
      rw [OutboxWorld.holder_claimed rfl, if_neg hmem]
      exact hrowFacts.owner_claimed taken htaken
  · intro outboxId hmem
    exact Or.inl hmem
  · intro other outboxId hother hlock
    exact OutboxWorld.unlocked_of_ne hother hlock
  · intro other hother
    exact OutboxWorld.setPhase_phase_of_ne _ _ hother
  · rw [OutboxWorld.setPhase_phase_self]
    trivial

/-- An outcome is recorded in the row which the worker has locked. -/
theorem WorldFacts.record (h : WorldFacts workerId world) {row settled : TransactionalEmail π}
    {providerMessageId : Option String} {failure : Option DeliveryFailure} {queue : List Nat}
    {outcome : DeliveryOutcome}
    (hphase : world.phase worker = .finalizing row providerMessageId failure queue)
    (hfinalized : row.finalized providerMessageId failure world.now =
      .ok (settled, outcome)) :
    WorldFacts workerId ({ world with
      table := world.table.put settled
      locks := world.unlocked worker
      outcomes := row.id :: world.outcomes }.setPhase worker (.delivering queue)) := by
  have hfacts := h.phases worker
  rw [hphase] at hfacts
  obtain ⟨hrow, hlock, howned⟩ := hfacts
  have hopen : row.isOpen = true := (Bool.and_eq_true_iff.mp howned).1
  obtain ⟨hid, hkey, hattempts, howner, hterminal, hlimit⟩ :=
    TransactionalEmail.finalized_spec hopen hfinalized
  have hrowFacts := h.rows row hrow
  apply WorldFacts.of_versions worker h
  · rfl
  · rfl
  · intro other hother hfree
    apply Table.mem_put_of_ne hother
    intro hsame
    apply hfree
    rw [TransactionalEmail.key_eq, TransactionalEmail.key_eq, hid] at hsame
    rw [hsame, hlock]
  · intro other hother
    rcases Table.mem_put_or_eq hrow hid hother with rfl | hkept
    · exact ⟨settled, Table.mem_put_self hrow hid, hid, hkey⟩
    · exact ⟨other, hkept, rfl, rfl⟩
  · intro new hnew
    rcases Table.mem_put_cases hid hnew with rfl | ⟨hold, hne⟩
    · refine ⟨?_, hlimit, ?_, hterminal, fun owner howns => ?_⟩
      · have hcount : (row.id :: world.outcomes).count new.id =
            world.outcomes.count row.id + 1 := by
          rw [hid, List.count_cons_self]
        rw [hattempts, hrowFacts.attempts_recorded]
        exact hcount.symm
      · have hlt := hrowFacts.attempts_lt hopen
        omega
      · rw [howner] at howns
        exact absurd howns (by simp)
    · have hnewFacts := h.rows new hold
      have hids : row.id ≠ new.id := by
        intro hsame
        exact hne (Table.eq_of_key hold hrow hsame.symm)
      refine ⟨?_, hnewFacts.attempts_lt, hnewFacts.attempts_le, hnewFacts.one_terminal,
        hnewFacts.owner_claimed⟩
      have hcount : (row.id :: world.outcomes).count new.id = world.outcomes.count new.id :=
        List.count_cons_of_ne hids
      rw [hnewFacts.attempts_recorded]
      exact hcount.symm
  · intro outboxId hmem
    rcases List.mem_cons.mp hmem with rfl | hpast
    · exact Or.inr ⟨row, hrow, rfl⟩
    · exact Or.inl hpast
  · intro other outboxId hother hheld
    exact OutboxWorld.unlocked_of_ne hother hheld
  · intro other hother
    exact OutboxWorld.setPhase_phase_of_ne _ _ hother
  · rw [OutboxWorld.setPhase_phase_self]
    trivial

omit [DecidableEq ω] in
/-- A new e-mail has no outcome and no lease. -/
theorem WorldFacts.enqueue (h : WorldFacts workerId world) {draft : EmailDraft π}
    {table : Table (TransactionalEmail π)}
    (hinsert : world.table.insert? (draft.row world.now) = some table) :
    WorldFacts workerId { world with table := table } := by
  obtain ⟨hfresh, hrows⟩ := Table.insert?_eq_some_iff.mp hinsert
  have hkept : ∀ row ∈ world.table.rows, row ∈ table.rows := by
    intro row hrow
    rw [hrows]
    exact List.mem_cons_of_mem _ hrow
  have hkeys : ∀ outboxId key, world.HasKey outboxId key →
      OutboxWorld.HasKey { world with table := table } outboxId key := by
    rintro outboxId key ⟨row, hrow, hid⟩
    exact ⟨row, hkept row hrow, hid⟩
  refine ⟨fun row hrow => ?_, fun worker => ?_, fun sent hsent => ?_, fun outboxId hmem => ?_⟩
  · have hcases : row ∈ draft.row world.now :: world.table.rows := hrows ▸ hrow
    rcases List.mem_cons.mp hcases with rfl | hold
    · have hnone : (draft.row world.now).attempts = 0 := rfl
      refine ⟨?_, fun _ => ?_, ?_, Or.inl rfl, fun owner howner => ?_⟩
      · symm
        apply List.count_eq_zero_of_not_mem
        intro hmem
        obtain ⟨other, hother, hid⟩ := h.outcomes _ hmem
        exact hfresh other hother hid
      · rw [hnone]
        decide
      · rw [hnone]
        decide
      · exact absurd howner (by simp [EmailDraft.row])
    · exact (h.rows row hold).congr rfl rfl
  · exact (h.phases worker).frame le_rfl hkeys fun row hrow hlock => ⟨hkept row hrow, hlock⟩
  · exact hkeys _ _ (h.sends sent hsent)
  · obtain ⟨row, hrow, hid⟩ := h.outcomes outboxId hmem
    exact ⟨row, hkept row hrow, hid⟩

/-- A select locks free ready rows. -/
theorem WorldFacts.select (h : WorldFacts workerId world) {skipped : Nat → Bool}
    {owner : String} {batchSize : Nat} {now : Int} {rows : List (TransactionalEmail π)}
    (hphase : world.phase worker = .claiming owner batchSize now)
    (hrows : rows = readyBatch world.table.rows
      (fun outboxId => (world.locks outboxId).isSome || skipped outboxId) now batchSize) :
    WorldFacts workerId
      ({ world with locks := world.locked worker (rows.map TransactionalEmail.id) }.setPhase
        worker (.selected owner now rows)) := by
  have hfacts := h.phases worker
  rw [hphase] at hfacts
  have hready : ∀ row ∈ rows, row ∈ world.table.rows ∧ row.isReady now = true ∧
      world.locks row.id = none := by
    intro row hrow
    rw [hrows] at hrow
    obtain ⟨hmem, hready, hfree⟩ := mem_readyBatch hrow
    simp only [Bool.or_eq_false_iff, Option.isSome_eq_false_iff, Option.isNone_iff_eq_none]
      at hfree
    exact ⟨hmem, hready, hfree.1⟩
  apply WorldFacts.of_same_table worker h
  · rfl
  · rfl
  · rfl
  · rfl
  · intro sent hsent
    exact Or.inl hsent
  · intro other outboxId _ hlock
    apply OutboxWorld.locked_of_ne _ hlock
    intro id hid
    obtain ⟨row, hrow, rfl⟩ := List.mem_map.mp hid
    exact (hready row hrow).2.2
  · intro other hother
    exact OutboxWorld.setPhase_phase_of_ne _ _ hother
  · rw [OutboxWorld.setPhase_phase_self]
    refine ⟨hfacts, fun row hrow => ⟨(hready row hrow).1, ?_, (hready row hrow).2.1⟩⟩
    exact if_pos (List.mem_map_of_mem hrow)

/-- The lock of an owned row, for its outcome. -/
theorem WorldFacts.lockOwned (h : WorldFacts workerId world) {outboxId : Nat}
    {row : TransactionalEmail π} {providerMessageId : Option String}
    {failure : Option DeliveryFailure} {queue : List Nat}
    (hfree : world.locks outboxId = none)
    (hrow : (world.table.get? outboxId).filter (·.isOwned (workerId worker)) = some row) :
    WorldFacts workerId
      ({ world with locks := world.locked worker [outboxId] }.setPhase worker
        (.finalizing row providerMessageId failure queue)) := by
  obtain ⟨hget, howned⟩ := Option.filter_eq_some_iff.mp hrow
  apply WorldFacts.of_same_table worker h
  · rfl
  · rfl
  · rfl
  · rfl
  · intro sent hsent
    exact Or.inl hsent
  · intro other otherId _ hlock
    apply OutboxWorld.locked_of_ne _ hlock
    intro id hid
    rw [List.mem_singleton.mp hid]
    exact hfree
  · intro other hother
    exact OutboxWorld.setPhase_phase_of_ne _ _ hother
  · rw [OutboxWorld.setPhase_phase_self]
    have hid : row.id = outboxId := Table.get?_key hget
    exact ⟨Table.get?_mem hget, if_pos (by simp [hid]), howned⟩

/-- Every step keeps what holds of a world. -/
theorem WorldFacts.step (h : WorldFacts workerId world) {label : OutboxLabel ω π}
    (hstep : OutboxStep workerId world label after) : WorldFacts workerId after := by
  cases hstep with
  | tick hnow =>
      refine ⟨fun row hrow => (h.rows row hrow).congr rfl rfl, fun worker => ?_, h.sends,
        h.outcomes⟩
      exact (h.phases worker).frame hnow (fun _ _ hkey => hkey) fun row hrow hlock =>
        ⟨hrow, hlock⟩
  | enqueue _ hinsert => exact h.enqueue hinsert
  | begin _ harguments =>
      apply h.setPhase
      simp only [claimArguments, except_bind_eq_ok_iff, except_pure_eq_ok_iff] at harguments
      obtain ⟨_, hvalid, _, _, rfl⟩ := harguments
      exact ⟨validateIdentifier_eq_ok_iff.mpr (validateIdentifier_eq_ok_iff.mp hvalid), le_rfl⟩
  | select hphase hrows => exact h.select hphase hrows
  | commitClaim hphase => exact h.commitClaim hphase
  | @read worker outboxId queue hphase =>
      apply h.setPhase
      intro found hfound
      exact ⟨found, Table.get?_mem hfound, rfl, rfl⟩
  | @checkLoaded worker _ _ _ row _ hphase _ =>
      have hfacts := h.phases worker
      rw [hphase] at hfacts
      apply h.setPhase
      exact hfacts row rfl
  | checkSkipped => exact h.setPhase trivial
  | @send worker item queue hphase =>
      have hfacts := h.phases worker
      rw [hphase] at hfacts
      apply WorldFacts.of_same_table worker h
      · rfl
      · rfl
      · rfl
      · rfl
      · intro sent hsent
        rcases List.mem_cons.mp hsent with rfl | hold
        · exact Or.inr hfacts
        · exact Or.inl hold
      · intro other outboxId _ hlock
        exact hlock
      · intro other hother
        exact OutboxWorld.setPhase_phase_of_ne _ _ hother
      · rw [OutboxWorld.setPhase_phase_self]
        exact hfacts
  | answer => exact h.setPhase trivial
  | raise => exact h.setPhase trivial
  | lockOwned _ hfree hrow => exact h.lockOwned hfree hrow
  | lockSkipped => exact h.setPhase trivial
  | record hphase hfinalized => exact h.record hphase hfinalized
  | finish => exact h.setPhase trivial
  | @stop worker =>
      apply WorldFacts.of_same_table worker h
      · rfl
      · rfl
      · rfl
      · rfl
      · intro sent hsent
        exact Or.inl hsent
      · intro other outboxId hother hlock
        exact OutboxWorld.unlocked_of_ne hother hlock
      · intro other hother
        exact OutboxWorld.setPhase_phase_of_ne _ _ hother
      · rw [OutboxWorld.setPhase_phase_self]
        trivial

omit [DecidableEq ω] in
theorem WorldFacts.initial (h : world.Initial) : WorldFacts workerId world := by
  obtain ⟨hrows, _, hphase, _, hsends, houtcomes⟩ := h
  refine ⟨?_, fun worker => ?_, ?_, ?_⟩
  · simp [hrows]
  · rw [hphase]
    trivial
  · simp [hsends]
  · simp [houtcomes]

theorem WorldFacts.reached (h : world.Reached workerId) : WorldFacts workerId world := by
  refine Reaches.invariant ?_ ?_ h
  · intro state hinit
    exact WorldFacts.initial hinit
  · intro state label after hfacts _ hstep
    exact hfacts.step hstep

/-- The rows which a step changes are open, and only a claim or an outcome changes them. -/
theorem WorldFacts.changes (h : WorldFacts workerId world) (hown : OwnLeases workerId)
    {label : OutboxLabel ω π} (hstep : OutboxStep workerId world label after)
    {row : TransactionalEmail π} (hrow : row ∈ world.table.rows)
    (hchanged : row ∉ after.table.rows) :
    row.isOpen = true ∧
      ((∃ worker owner now rows, label = .commitClaim worker ∧
        world.phase worker = .selected owner now rows ∧ row ∈ rows) ∨
      ∃ worker, label = .record worker ∧ world.holder row.id = some worker) := by
  cases hstep with
  | enqueue _ hinsert =>
      have hrows := (Table.insert?_eq_some_iff.mp hinsert).2
      exact absurd (hrows ▸ List.mem_cons_of_mem _ hrow) hchanged
  | @commitClaim worker owner now rows hphase =>
      have hfacts := h.phases worker
      rw [hphase] at hfacts
      have hmem : row.id ∈ rows.map TransactionalEmail.id := by
        by_contra hnot
        exact hchanged (mem_leaseRows_iff.mpr ⟨row, hrow, if_neg hnot⟩)
      obtain ⟨found, hfound, hid⟩ := List.mem_map.mp hmem
      have hselected := hfacts.2 found hfound
      rw [Table.eq_of_key hrow hselected.1 hid.symm]
      have hready := hselected.2.2
      simp only [TransactionalEmail.isReady, Bool.and_eq_true] at hready
      exact ⟨hready.1.1, Or.inl ⟨worker, owner, now, rows, rfl, hphase, hfound⟩⟩
  | @record worker locked _ _ _ settled _ hphase hfinalized =>
      have hfacts := h.phases worker
      rw [hphase] at hfacts
      obtain ⟨hlocked, _, howned⟩ := hfacts
      obtain ⟨hopen, hleased⟩ := Bool.and_eq_true_iff.mp howned
      have hid := (TransactionalEmail.finalized_spec hopen hfinalized).1
      have hsame : row = locked := by
        rcases Table.mem_put_or_eq hlocked hid hrow with hsame | hkept
        · exact hsame
        · exact absurd hkept hchanged
      rw [hsame]
      refine ⟨hopen, Or.inr ⟨worker, rfl, ?_⟩⟩
      obtain ⟨claimant, hholder, hvalid⟩ := (h.rows locked hlocked).owner_claimed
        (workerId worker) (beq_iff_eq.mp hleased)
      rw [hholder, hown worker claimant hvalid]
  | tick => exact absurd hrow hchanged
  | begin => exact absurd hrow hchanged
  | select => exact absurd hrow hchanged
  | read => exact absurd hrow hchanged
  | checkLoaded => exact absurd hrow hchanged
  | checkSkipped => exact absurd hrow hchanged
  | send => exact absurd hrow hchanged
  | answer => exact absurd hrow hchanged
  | raise => exact absurd hrow hchanged
  | lockOwned => exact absurd hrow hchanged
  | lockSkipped => exact absurd hrow hchanged
  | finish => exact absurd hrow hchanged
  | stop => exact absurd hrow hchanged

/-- A row which is sent or failed is not open. -/
theorem TransactionalEmail.not_isOpen {row : TransactionalEmail π}
    (hsettled : row.isSettled = true) : row.isOpen = false := by
  simp only [TransactionalEmail.isSettled, Bool.or_eq_true, Option.isSome_iff_ne_none]
    at hsettled
  simp only [TransactionalEmail.isOpen, Bool.and_eq_false_iff, Option.isNone_eq_false_iff,
    Option.isSome_iff_ne_none]
  rcases hsettled with hsent | hfailed
  · exact Or.inl (Or.inr hsent)
  · exact Or.inr hfailed

/-- Settled rows stay as they are in every later world. -/
theorem WorldFacts.settled_final (h : WorldFacts workerId world) (hown : OwnLeases workerId)
    {row : TransactionalEmail π} (hrow : row ∈ world.table.rows)
    (hsettled : row.isSettled = true) {later : OutboxWorld ω π}
    (hlater : Reaches (· = world) (OutboxStep workerId) (fun _ _ => True) later) :
    row ∈ later.table.rows := by
  have hboth : WorldFacts workerId later ∧ row ∈ later.table.rows := by
    induction hlater with
    | start hinit =>
        rw [hinit]
        exact ⟨h, hrow⟩
    | next _ _ hstep ih =>
        refine ⟨ih.1.step hstep, ?_⟩
        by_contra hchanged
        have hopen := (ih.1.changes hown hstep ih.2 hchanged).1
        rw [TransactionalEmail.not_isOpen hsettled] at hopen
        exact absurd hopen (by simp)
  exact hboth.2

/-- Workers with leases of their own keep the outbox safe. -/
theorem WorldFacts.safe (h : WorldFacts workerId world) (hown : OwnLeases workerId) :
    OutboxSafe workerId world where
  one_terminal row hrow := (h.rows row hrow).one_terminal
  attempts_recorded row hrow := (h.rows row hrow).attempts_recorded
  attempts_le row hrow := (h.rows row hrow).attempts_le
  one_key := by
    intro first hfirst second hsecond hsame
    obtain ⟨row, hrow, hid, hkey⟩ := h.sends first hfirst
    obtain ⟨other, hother, hotherId, hotherKey⟩ := h.sends second hsecond
    have hrows : row = other :=
      Table.eq_of_key hrow hother (hid.trans (hsame.trans hotherId.symm))
    rw [← hkey, hrows, hotherKey]
  claimed_unleased := by
    intro worker owner now rows hphase row hrow
    have hfacts := h.phases worker
    rw [hphase] at hfacts
    obtain ⟨hmem, _, hready⟩ := hfacts.2 row hrow
    refine ⟨hmem, fun expires hexpires => ?_⟩
    simp only [TransactionalEmail.isReady, Bool.and_eq_true, Option.all_eq_true,
      decide_eq_true_eq] at hready
    exact (hready.2 expires hexpires).trans hfacts.1.2
  changes label after hstep row hrow hchanged := (h.changes hown hstep hrow hchanged).2
  settled_final later hlater row hrow hsettled := h.settled_final hown hrow hsettled hlater

end Steps

section Takeover

variable {world : OutboxWorld ω π} {worker : ω}

/-- An idle worker claims the one ready row. -/
theorem OutboxWorld.Reached.claim_single (hreach : world.Reached workerId) {owner : String}
    (hvalid : validateIdentifier (workerId worker) 100 () = .ok owner)
    (hphase : world.phase worker = .idle) (hfree : ∀ outboxId, world.locks outboxId = none)
    {row : TransactionalEmail π} (hrows : world.table.rows = [row])
    (hready : row.isReady world.now = true) :
    ∃ after : OutboxWorld ω π, after.Reached workerId ∧
      after.table.rows = [row.leased owner world.now] ∧ after.now = world.now ∧
      (∀ outboxId, after.locks outboxId = none) ∧ after.phase worker = .delivering [row.id] ∧
      (∀ other, other ≠ worker → after.phase other = world.phase other) ∧
      after.holder row.id = some worker := by
  have harguments : claimArguments (workerId worker) 1 = .ok owner := by
    simp only [claimArguments, except_bind_eq_ok_iff, except_pure_eq_ok_iff]
    exact ⟨owner, validateIdentifier_eq_ok_iff.mpr (validateIdentifier_eq_ok_iff.mp hvalid),
      (), rfl, rfl⟩
  have hbegin := hreach.next trivial (OutboxStep.begin hphase harguments)
  have hbatch : [row] = readyBatch world.table.rows
      (fun outboxId => (world.locks outboxId).isSome || false) world.now 1 := by
    simp [readyBatch, hrows, hready, hfree]
  have hselect := hbegin.next trivial
    (OutboxStep.select (OutboxWorld.setPhase_phase_self _ _ _) hbatch :
      OutboxStep workerId _ (.select worker fun _ => false) _)
  have hcommit := hselect.next trivial
    (OutboxStep.commitClaim (OutboxWorld.setPhase_phase_self _ _ _))
  refine ⟨_, hcommit, ?_, rfl, fun outboxId => ?_, OutboxWorld.setPhase_phase_self _ _ _,
    fun other hother => ?_, ?_⟩
  · simp [OutboxWorld.setPhase, leaseRows, Table.modify, hrows]
  · simp [OutboxWorld.setPhase, OutboxWorld.unlocked, OutboxWorld.locked, hfree]
  · rw [OutboxWorld.setPhase_phase_of_ne _ _ hother]
    change (OutboxWorld.setPhase _ _ _).phase other = _
    rw [OutboxWorld.setPhase_phase_of_ne _ _ hother]
    exact OutboxWorld.setPhase_phase_of_ne _ _ hother
  · rw [OutboxWorld.holder_claimed rfl]
    exact if_pos (List.mem_singleton.mpr rfl)

/-- An e-mail which a business transaction enqueues. -/
def exampleDraft (payload : π) : EmailDraft π where
  id := 1
  eventType := "EMAIL_VERIFICATION_REQUESTED"
  aggregateId := 1
  recipientUserId := some 1
  recipientEmail := "student@student.vgu.edu.vn"
  idempotencyKey := "EMAIL_VERIFICATION_REQUESTED/1"
  payload := payload

/-- One queued e-mail and idle workers. -/
def queuedWorld (ω : Type) (payload : π) : OutboxWorld ω π where
  table := singleEmail ((exampleDraft payload).row 0)
  now := 0
  locks := fun _ => none
  phase := fun _ => .idle
  claims := []
  sends := []
  outcomes := []

theorem queuedWorld_reached (payload : π) :
    (queuedWorld ω payload).Reached workerId := by
  have hinit : OutboxWorld.Initial
      ({ queuedWorld ω payload with table := Table.empty } : OutboxWorld ω π) :=
    ⟨rfl, fun _ => rfl, fun _ => rfl, rfl, rfl, rfl⟩
  have hstep : OutboxStep workerId { queuedWorld ω payload with table := Table.empty }
      (.enqueue (exampleDraft payload)) (queuedWorld ω payload) :=
    OutboxStep.enqueue (fun row hrow => absurd hrow List.not_mem_nil) rfl
  exact (Reaches.start hinit).next trivial hstep

/-- A failure is recorded in any case. -/
theorem TransactionalEmail.exists_finalized (row : TransactionalEmail π)
    (failure : DeliveryFailure) (now : Int) :
    ∃ settled outcome, row.finalized none (some failure) now = .ok (settled, outcome) := by
  unfold TransactionalEmail.finalized
  dsimp only
  split
  · exact ⟨_, _, rfl⟩
  · exact ⟨_, _, rfl⟩

/-- A worker which may settle the row of another worker's newest claim makes the outbox
unsafe. -/
theorem not_outboxSafe_of_owned (hreach : world.Reached workerId) {row : TransactionalEmail π}
    {holder : ω} (hrows : world.table.rows = [row])
    (hfree : ∀ outboxId, world.locks outboxId = none)
    (hphase : world.phase worker = .delivering [row.id])
    (howned : row.isOwned (workerId worker) = true)
    (hholder : world.holder row.id = some holder) (hne : worker ≠ holder) :
    ∃ world : OutboxWorld ω π, world.Reached workerId ∧ ¬ OutboxSafe workerId world := by
  have hraise := hreach.next trivial
    (OutboxStep.raise (by rw [hphase]; rfl) :
      OutboxStep workerId world (.raise worker .other) _)
  have hget : (world.table.get? row.id).filter (·.isOwned (workerId worker)) = some row := by
    simp [Table.get?, hrows, howned]
  have hlock := hraise.next trivial
    (OutboxStep.lockOwned (OutboxWorld.setPhase_phase_self _ _ _) (hfree row.id) hget)
  refine ⟨_, hlock, fun hsafe => ?_⟩
  obtain ⟨settled, outcome, hfinalized⟩ :=
    row.exists_finalized DeliveryException.other.failure world.now
  have hchange := hsafe.changes _ _
    (OutboxStep.record (OutboxWorld.setPhase_phase_self _ _ _) hfinalized) row
    (by simp [OutboxWorld.setPhase, hrows]) ?_
  · rcases hchange with ⟨_, _, _, _, hlabel, _⟩ | ⟨other, hlabel, hlast⟩
    · exact absurd hlabel (by simp)
    · cases hlabel
      have hsame : some holder = some worker := hholder.symm.trans hlast
      exact hne (Option.some.inj hsame).symm
  · intro hkept
    have hopen : row.isOpen = true := (Bool.and_eq_true_iff.mp howned).1
    obtain ⟨hid, _, hattempts, _⟩ := TransactionalEmail.finalized_spec hopen hfinalized
    rcases Table.mem_put_iff.mp hkept with ⟨hsame, _⟩ | ⟨_, hother⟩
    · rw [← hsame] at hattempts
      omega
    · exact hother hid.symm

/-- A worker whose id another worker strips to settles a row which the other has taken
over. -/
theorem unsafe_of_shared_lease [Inhabited π] {first second : ω} (hne : first ≠ second)
    (hvalid : validateIdentifier (workerId second) 100 () = .ok (workerId first)) :
    ∃ world : OutboxWorld ω π, world.Reached workerId ∧ ¬ OutboxSafe workerId world := by
  have hfirst : validateIdentifier (workerId first) 100 () = .ok (workerId first) := by
    obtain ⟨hstrip, hbounds⟩ := validateIdentifier_eq_ok_iff.mp hvalid
    rw [validateIdentifier_eq_ok_iff]
    refine ⟨?_, hbounds⟩
    rw [← hstrip, pyStrip_pyStrip]
  obtain ⟨leased, hleased, hrows, hnow, hfree, hphase, hothers, _⟩ :=
    (queuedWorld_reached (default : π)).claim_single hfirst rfl (fun _ => rfl) rfl rfl
  have hlater : leased.now ≤ outboxLeaseTtl := by
    rw [hnow]
    exact (by decide : (0 : Int) ≤ outboxLeaseTtl)
  have hexpired := hleased.next trivial
    (OutboxStep.tick hlater : OutboxStep workerId leased (.tick outboxLeaseTtl) _)
  have hready : (((exampleDraft (default : π)).row 0).leased (workerId first) 0).isReady
      outboxLeaseTtl = true := by
    rfl
  obtain ⟨taken, htaken, htakenRows, _, htakenFree, _, htakenPhase, hholder⟩ :=
    OutboxWorld.Reached.claim_single hexpired hvalid (hothers second hne.symm) hfree hrows hready
  apply not_outboxSafe_of_owned htaken htakenRows htakenFree _ _ hholder hne
  · rw [htakenPhase first hne]
    exact hphase
  · simp [TransactionalEmail.isOwned, TransactionalEmail.isOpen, TransactionalEmail.leased,
      EmailDraft.row]

end Takeover

/-- The outbox is safe in every run of the workers exactly when no worker carries the
accepted id of another one. -/
theorem outbox_safe_iff [Inhabited π] (workerId : ω → String) :
    (∀ world : OutboxWorld ω π, world.Reached workerId → OutboxSafe workerId world) ↔
      OwnLeases workerId := by
  constructor
  · intro hsafe first second hvalid
    by_contra hne
    obtain ⟨world, hreach, hunsafe⟩ : ∃ world : OutboxWorld ω π, world.Reached workerId ∧
        ¬ OutboxSafe workerId world := unsafe_of_shared_lease hne hvalid
    exact hunsafe (hsafe world hreach)
  · intro hown world hreach
    exact (WorldFacts.reached hreach).safe hown

/-- The ids of two workers, one of them with a space in front. -/
def spacedWorkerId : Bool → String
  | true => "email-worker"
  | false => " email-worker"

/-- Of two workers with distinct ids, one settles a row which the other has taken over. -/
theorem takeover_is_overruled :
    Function.Injective spacedWorkerId ∧
      ¬ ∀ world : OutboxWorld Bool Unit, world.Reached spacedWorkerId →
        OutboxSafe spacedWorkerId world := by
  constructor
  · decide
  · intro hsafe
    have hshared : validateIdentifier (spacedWorkerId false) 100 () =
        .ok (spacedWorkerId true) := by
      rw [validateIdentifier_eq_ok_iff]
      decide
    obtain ⟨world, hreach, hunsafe⟩ : ∃ world : OutboxWorld Bool Unit,
        world.Reached spacedWorkerId ∧ ¬ OutboxSafe spacedWorkerId world :=
      unsafe_of_shared_lease (by decide) hshared
    exact hunsafe (hsafe world hreach)

end BuddyWeb
