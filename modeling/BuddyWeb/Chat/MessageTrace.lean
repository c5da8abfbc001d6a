/-
The identity of a message along a run: its id names one message, wherever it is read.
-/
import BuddyWeb.Chat.IdempotentSend

namespace BuddyWeb

/-- The worlds at the times of one run, whose clock starts after the epoch. -/
structure MessageTrace (env : ChatEnvironment) where
  world : Nat → MessageWorld
  initial : (world 0).Initial
  trace : IsTrace (MessageStep env) world
  epoch : 0 ≤ (world 0).now.val

/-- What holds later of a message which was stored once: a row with its id is its later
version, and no call inserts its id again. -/
structure IdentityFacts (env : ChatEnvironment) (message : BuddyMessage)
    (world : MessageWorld) : Prop where
  facts : MessageFacts env world
  drawn : message.id ∈ world.drawn
  rows : ∀ row ∈ world.db.messages.rows, row.id = message.id →
    row.SameMessage message ∧ row.createdAt = message.createdAt
  pending : ∀ call request inserted, world.phase call = .inserted request inserted →
    inserted.id ≠ message.id

section Identity

variable {env : ChatEnvironment} {world after : MessageWorld} {label : MessageLabel}
  {message : BuddyMessage}

/-- Where a row after a step comes from. -/
theorem MessageStep.origin (hstep : MessageStep env world label after) {row : BuddyMessage}
    (hrow : row ∈ after.db.messages.rows) :
    (∃ call request, world.phase call = .inserted request row) ∨
      ∃ old ∈ world.db.messages.rows, row.SameMessage old ∧ row.createdAt = old.createdAt := by
  have hsame : row ∈ world.db.messages.rows → ∃ old ∈ world.db.messages.rows,
      row.SameMessage old ∧ row.createdAt = old.createdAt := by
    intro hmem
    exact ⟨row, hmem, ⟨rfl, rfl, ⟨rfl, rfl⟩, rfl⟩, rfl⟩
  cases hstep with
  | @commitSend call request inserted messages hphase hmessages =>
      have hrows := (Table.insert?_eq_some_iff.mp hmessages).2
      rcases List.mem_cons.mp (hrows ▸ hrow) with rfl | hmem
      · exact Or.inl ⟨call, request, hphase⟩
      · exact Or.inr (hsame hmem)
  | @commitAcknowledgement call ack snapshot ids hphase =>
      obtain ⟨old, hold, rfl⟩ := mem_readRows hrow
      refine Or.inr ⟨old, hold, readRow_sameMessage, ?_⟩
      unfold Acknowledgement.readRow
      split <;> rfl
  | cleanup _ _ hrows =>
      change row ∈ Table.rows _ at hrow
      rw [hrows] at hrow
      exact Or.inr (hsame (List.mem_of_mem_filter hrow))
  | _ => exact Or.inr (hsame hrow)

/-- An uncommitted row after a step was there before, or its id was just drawn. -/
theorem MessageStep.pending_origin (hstep : MessageStep env world label after) {call : Nat}
    {request : SendRequest} {inserted : BuddyMessage}
    (hphase : after.phase call = .inserted request inserted) :
    world.phase call = .inserted request inserted ∨ inserted.id ∉ world.drawn := by
  have hmoved : ∀ {moved : Nat} {phase : MessagePhase} {base : MessageWorld},
      base.phase = world.phase → (base.setPhase moved phase).phase call =
        .inserted request inserted → (∀ request inserted, phase ≠ .inserted request inserted) →
          world.phase call = .inserted request inserted ∨ inserted.id ∉ world.drawn := by
    intro moved phase base hbase hset hquiet
    by_cases hcall : call = moved
    · rw [hcall, MessageWorld.setPhase_phase_self] at hset
      exact absurd hset (hquiet request inserted)
    · rw [MessageWorld.setPhase_phase_of_ne _ _ hcall, hbase] at hset
      exact Or.inl hset
  cases hstep with
  | tick => exact Or.inl hphase
  | refuse => exact Or.inl hphase
  | cleanup => exact Or.inl hphase
  | @insert moved freshId sent createdAt message _ hfresh _ hinsert =>
      by_cases hcall : call = moved
      · rw [hcall, MessageWorld.setPhase_phase_self] at hphase
        obtain ⟨_, rfl⟩ := MessagePhase.inserted.inj hphase
        obtain ⟨expiresAt, _, rfl, _⟩ := insertBuddyMessage_eq_some hinsert
        exact Or.inr hfresh
      · rw [MessageWorld.setPhase_phase_of_ne _ _ hcall] at hphase
        exact Or.inl hphase
  | commitSend => exact hmoved rfl hphase (by simp)
  | commitAcknowledgement => exact hmoved rfl hphase (by simp)
  | _ => exact hmoved rfl hphase (by simp)

theorem MessageStep.drawn_mono (hstep : MessageStep env world label after) {id : Uuid}
    (hid : id ∈ world.drawn) : id ∈ after.drawn := by
  cases hstep with
  | insert => exact List.mem_cons_of_mem _ hid
  | _ => exact hid

theorem IdentityFacts.start (h : MessageFacts env world)
    (hmessage : message ∈ world.db.messages.rows) : IdentityFacts env message world := by
  refine ⟨h, (h.rows message hmessage).drawn, fun row hrow hid => ?_,
    fun call request inserted hphase hid => ?_⟩
  · rw [Table.eq_of_key hrow hmessage (congrArg Fin.val hid)]
    exact ⟨⟨rfl, rfl, ⟨rfl, rfl⟩, rfl⟩, rfl⟩
  · have hfacts := h.phases call
    rw [hphase] at hfacts
    exact (hfacts.2.2 message hmessage).1 hid.symm

theorem IdentityFacts.step (h : IdentityFacts env message world)
    (hstep : MessageStep env world label after) : IdentityFacts env message after := by
  refine ⟨h.facts.step hstep, hstep.drawn_mono h.drawn, fun row hrow hid => ?_,
    fun call request inserted hphase => ?_⟩
  · rcases hstep.origin hrow with ⟨call, request, hphase⟩ | ⟨old, hold, hsame, hcreated⟩
    · exact absurd hid (h.pending call request row hphase)
    · obtain ⟨holdSame, holdCreated⟩ := h.rows old hold (hsame.1.symm.trans hid)
      exact ⟨hsame.trans holdSame, hcreated.trans holdCreated⟩
  · rcases hstep.pending_origin hphase with hbefore | hnew
    · exact h.pending call request inserted hbefore
    · intro hid
      exact hnew (hid ▸ h.drawn)

/-- The instants which a call has read are after the epoch. -/
def MessagePhase.AfterEpoch : MessagePhase → Prop
  | .sending _ createdAt => 0 ≤ createdAt.val
  | .inserted _ message => 0 ≤ message.createdAt.val
  | _ => True

structure EpochFacts (world : MessageWorld) : Prop where
  now : 0 ≤ world.now.val
  rows : ∀ message ∈ world.db.messages.rows, 0 ≤ message.createdAt.val
  phases : ∀ call, (world.phase call).AfterEpoch

/-- A phase without an instant before the epoch. -/
theorem EpochFacts.phases_setPhase (h : EpochFacts world) {base : MessageWorld} {call : Nat}
    {phase : MessagePhase} (hbase : base.phase = world.phase) (hphase : phase.AfterEpoch)
    (other : Nat) : ((base.setPhase call phase).phase other).AfterEpoch := by
  by_cases hother : other = call
  · rw [hother, MessageWorld.setPhase_phase_self]
    exact hphase
  · rw [MessageWorld.setPhase_phase_of_ne _ _ hother, hbase]
    exact h.phases other

theorem EpochFacts.step (h : EpochFacts world) (hstep : MessageStep env world label after) :
    EpochFacts after := by
  have hrows : ∀ row ∈ after.db.messages.rows, 0 ≤ row.createdAt.val := by
    intro row hrow
    rcases hstep.origin hrow with ⟨call, request, hphase⟩ | ⟨old, hold, _, hcreated⟩
    · have hfacts := h.phases call
      rw [hphase] at hfacts
      exact hfacts
    · rw [hcreated]
      exact h.rows old hold
  cases hstep with
  | tick hnow => exact ⟨le_trans h.now hnow, h.rows, h.phases⟩
  | refuse => exact h
  | cleanup => exact ⟨h.now, hrows, h.phases⟩
  | readClock => exact ⟨h.now, hrows, h.phases_setPhase rfl h.now⟩
  | @insert call freshId request createdAt message hphase _ _ hinsert =>
      obtain ⟨expiresAt, _, rfl, _⟩ := insertBuddyMessage_eq_some hinsert
      have hfacts := h.phases call
      rw [hphase] at hfacts
      have hinserted : (MessagePhase.inserted request
          ((request.attempt freshId createdAt).message expiresAt)).AfterEpoch := hfacts
      exact ⟨h.now, hrows, h.phases_setPhase rfl hinserted⟩
  | commitSend => exact ⟨h.now, hrows, h.phases_setPhase rfl trivial⟩
  | commitAcknowledgement => exact ⟨h.now, hrows, h.phases_setPhase rfl trivial⟩
  | _ => exact ⟨h.now, hrows, h.phases_setPhase rfl trivial⟩

end Identity

namespace MessageTrace

variable {env : ChatEnvironment} (run : MessageTrace env)

theorem facts (time : Nat) : MessageFacts env (run.world time) := by
  refine Reaches.invariant ?_ ?_ (Reaches.of_trace run.trace (Nat.zero_le time))
  · intro world hworld
    rw [hworld]
    exact .initial run.initial
  · intro world label after hfacts _ hstep
    exact hfacts.step hstep

/-- No message is older than the epoch. -/
theorem createdAt_nonneg (time : Nat) :
    ∀ message ∈ (run.world time).db.messages.rows, 0 ≤ message.createdAt.val := by
  have hepoch : EpochFacts (run.world time) := by
    refine Reaches.invariant ?_ ?_ (Reaches.of_trace run.trace (Nat.zero_le time))
    · intro world hworld
      rw [hworld]
      obtain ⟨hrows, _, hidle⟩ := run.initial
      refine ⟨run.epoch, ?_, fun call => ?_⟩
      · rw [hrows]
        intro message hmessage
        exact absurd hmessage (by simp)
      · rw [hidle call]
        trivial
    · intro world label after hfacts _ hstep
      exact hfacts.step hstep
  exact hepoch.rows

/-- Rows with one id at two times are versions of one message. -/
theorem same_message_of_le {first second : Nat} (hle : first ≤ second)
    {message row : BuddyMessage} (hmessage : message ∈ (run.world first).db.messages.rows)
    (hrow : row ∈ (run.world second).db.messages.rows) (hid : row.id = message.id) :
    row.SameMessage message ∧ row.createdAt = message.createdAt := by
  have hidentity : IdentityFacts env message (run.world second) := by
    refine Reaches.invariant ?_ ?_ (Reaches.of_trace run.trace hle)
    · intro world hworld
      rw [hworld]
      exact .start (run.facts first) hmessage
    · intro world label after hfacts _ hstep
      exact hfacts.step hstep
  exact hidentity.rows row hrow hid

/-- The id of a message determines its sender and its place in the history. -/
theorem place_of_id {first second : Nat} {message row : BuddyMessage}
    (hmessage : message ∈ (run.world first).db.messages.rows)
    (hrow : row ∈ (run.world second).db.messages.rows) (hid : row.id = message.id) :
    row.senderId = message.senderId ∧ row.position = message.position := by
  have hplace : ∀ {newer older : BuddyMessage}, newer.SameMessage older →
      newer.createdAt = older.createdAt →
        newer.senderId = older.senderId ∧ newer.position = older.position := by
    intro newer older hsame hcreated
    exact ⟨hsame.2.2.1.1, by rw [BuddyMessage.position, BuddyMessage.position, hcreated, hsame.1]⟩
  rcases Nat.le_total first second with hle | hle
  · obtain ⟨hsame, hcreated⟩ := run.same_message_of_le hle hmessage hrow hid
    exact hplace hsame hcreated
  · obtain ⟨hsame, hcreated⟩ := run.same_message_of_le hle hrow hmessage hid.symm
    obtain ⟨hsender, hposition⟩ := hplace hsame hcreated
    exact ⟨hsender.symm, hposition.symm⟩

end MessageTrace

end BuddyWeb
