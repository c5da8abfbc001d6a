/-
The requests on refresh families as interleaved transactions: rotations, replays, logouts,
logins and recovery reads, with the row lock which orders them.
-/
import BuddyWeb.Auth.RefreshSessions
import BuddyWeb.Lib.Run
import Mathlib.Logic.Function.Basic

namespace BuddyWeb

/-- Where a rotation or a logout is. -/
inductive RefreshPhase
  | idle
  /-- The token and the CSRF evidence are verified and the clock is read. -/
  | rotating (claims : RefreshTokenClaims) (now : Int)
  /-- The family is locked and the outcome staged. -/
  | rotated (claims : RefreshTokenClaims) (outcome : RotationOutcome)
  | loggingOut (sessionId userId : Nat) (now : Int)
  | loggedOut (sessionId : Nat) (staged : Option RefreshSession)
  deriving DecidableEq

structure RefreshWorld where
  users : Nat → Option User
  sessions : Table RefreshSession
  now : Int
  locks : Nat → Option Nat
  phase : Nat → RefreshPhase
  /-- The identifiers of families and of refresh tokens drawn so far. -/
  drawn : List Nat
  /-- The identifiers which successful rotations consumed, with their families. -/
  consumed : List (Nat × Nat)

namespace RefreshWorld

variable (world : RefreshWorld)

def setPhase (request : Nat) (phase : RefreshPhase) : RefreshWorld :=
  { world with phase := Function.update world.phase request phase }

@[simp]
theorem setPhase_phase_self (request : Nat) (phase : RefreshPhase) :
    (world.setPhase request phase).phase request = phase :=
  Function.update_self _ _ _

theorem setPhase_phase_of_ne {request other : Nat} (phase : RefreshPhase)
    (hother : other ≠ request) : (world.setPhase request phase).phase other = world.phase other :=
  Function.update_of_ne hother _ _

/-- The locks after the end of a request's transaction. -/
def unlocked (request : Nat) : Nat → Option Nat :=
  fun sessionId => if world.locks sessionId = some request then none else world.locks sessionId

/-- The end of a transaction: its write is stored, its locks are gone. -/
def finished (request : Nat) (sessions : Table RefreshSession) : RefreshWorld :=
  { world with sessions := sessions, locks := world.unlocked request }.setPhase request .idle

/-- The lock of a family, for a request in its next phase. -/
def lockedFor (request sessionId : Nat) (phase : RefreshPhase) : RefreshWorld :=
  { world with locks := Function.update world.locks sessionId (some request) }.setPhase request
    phase

/-- The table without the families of a user. -/
def withoutUser (userId : Nat) : Table RefreshSession where
  rows := world.sessions.rows.filter fun row => row.userId ≠ userId
  nodup := world.sessions.nodup.sublist (List.filter_sublist.map _)

end RefreshWorld

inductive RefreshLabel
  | tick (now : Int)
  | setUser (userId : Nat) (user : Option User)
  | eraseUser (userId : Nat)
  | login (userId sessionId refreshTokenId : Nat)
  | refuse (claims : RefreshTokenClaims)
  | present (request : Nat) (claims : RefreshTokenClaims)
  | lockRotation (request replacementId : Nat)
  | logout (request : Nat) (claims : SessionClaims)
  | lockLogout (request : Nat)
  | commit (request : Nat)
  | stop (request : Nat)
  | recover (claims : SessionClaims)

/-- One step of a request, of an account or of the clock. -/
inductive RefreshStep : RefreshWorld → RefreshLabel → RefreshWorld → Prop
  | tick {world} {now} (hnow : world.now ≤ now) :
      RefreshStep world (.tick now) { world with now := now }
  | setUser {world} {userId} {user} :
      RefreshStep world (.setUser userId user)
        { world with users := Function.update world.users userId user }
  /-- The deletion of an account waits for the locks of its families. -/
  | eraseUser {world} {userId}
      (hfree : ∀ row ∈ world.sessions.rows, row.userId = userId → world.locks row.id = none) :
      RefreshStep world (.eraseUser userId)
        { world with
          users := Function.update world.users userId none
          sessions := world.withoutUser userId }
  | login {world} {userId sessionId refreshTokenId} {sessions} (hne : sessionId ≠ refreshTokenId)
      (hsession : sessionId ∉ world.drawn) (htoken : refreshTokenId ∉ world.drawn)
      (hinsert : world.sessions.insert?
        (createRefreshSession userId sessionId refreshTokenId world.now) = some sessions) :
      RefreshStep world (.login userId sessionId refreshTokenId)
        { world with
          sessions := sessions
          drawn := sessionId :: refreshTokenId :: world.drawn }
  /-- A token which is not verified is refused before the database is opened. -/
  | refuse {world} {claims} (hverifies : claims.verifies world.now = false) :
      RefreshStep world (.refuse claims) world
  /-- A token with a valid signature names a family which was issued. -/
  | present {world} {request} {claims} (hphase : world.phase request = .idle)
      (hissued : claims.sessionId ∈ world.drawn)
      (hverifies : claims.verifies world.now = true) :
      RefreshStep world (.present request claims)
        (world.setPhase request (.rotating claims (wholeSeconds world.now)))
  | lockRotation {world} {request replacementId} {claims} {now}
      (hphase : world.phase request = .rotating claims now)
      (hfree : world.locks claims.sessionId = none) (hfresh : replacementId ∉ world.drawn) :
      RefreshStep world (.lockRotation request replacementId)
        ({ world with drawn := replacementId :: world.drawn }.lockedFor request claims.sessionId
          (.rotated claims (rotateRefreshSession (world.sessions.get? claims.sessionId)
            (world.users claims.userId) claims now world.now replacementId)))
  | logout {world} {request} {claims} (hphase : world.phase request = .idle)
      (hissued : claims.sessionId ∈ world.drawn) :
      RefreshStep world (.logout request claims)
        (world.setPhase request
          (.loggingOut claims.sessionId claims.userId (wholeSeconds world.now)))
  | lockLogout {world} {request} {sessionId userId} {now}
      (hphase : world.phase request = .loggingOut sessionId userId now)
      (hfree : world.locks sessionId = none) :
      RefreshStep world (.lockLogout request)
        (world.lockedFor request sessionId
          (.loggedOut sessionId (revokeRefreshSession world.sessions sessionId userId now)))
  | commitInvalid {world} {request} {claims}
      (hphase : world.phase request = .rotated claims .invalid) :
      RefreshStep world (.commit request) (world.finished request world.sessions)
  | commitRevoked {world} {request} {claims} {row}
      (hphase : world.phase request = .rotated claims (.revoked row)) :
      RefreshStep world (.commit request) (world.finished request (world.sessions.put row))
  | commitRotated {world} {request} {claims} {row}
      (hphase : world.phase request = .rotated claims (.rotated row)) :
      RefreshStep world (.commit request)
        { world.finished request (world.sessions.put row) with
          consumed := (claims.sessionId, claims.tokenId) :: world.consumed }
  | commitLogout {world} {request} {sessionId} {staged}
      (hphase : world.phase request = .loggedOut sessionId staged) :
      RefreshStep world (.commit request)
        (world.finished request (staged.elim world.sessions world.sessions.put))
  /-- A request which raises or crashes rolls back. -/
  | stop {world} {request} :
      RefreshStep world (.stop request) (world.finished request world.sessions)
  | recover {world} {claims} : RefreshStep world (.recover claims) world

namespace RefreshWorld

/-- No family and no request yet. -/
def Initial (world : RefreshWorld) : Prop :=
  world.sessions.rows = [] ∧ (∀ sessionId, world.locks sessionId = none) ∧
    (∀ request, world.phase request = .idle) ∧ world.drawn = [] ∧ world.consumed = []

def Reached (world : RefreshWorld) : Prop :=
  Reaches Initial RefreshStep (fun _ _ => True) world

/-- A rotation with these claims would succeed for some user row, time and replacement. -/
def Accepts (world : RefreshWorld) (claims : RefreshTokenClaims) : Prop :=
  ∃ user now clock replacementId row,
    rotateRefreshSession (world.sessions.get? claims.sessionId) user claims now clock
      replacementId = .rotated row

/-- Every stored row of the family is revoked. -/
def Revoked (world : RefreshWorld) (sessionId : Nat) : Prop :=
  ∀ row ∈ world.sessions.rows, row.id = sessionId → row.revokedAt.isSome = true

/-- The worlds after a world. -/
def Later (world later : RefreshWorld) : Prop :=
  Reaches (· = world) RefreshStep (fun _ _ => True) later

end RefreshWorld

/-- What holds of every reached world. -/
structure RefreshFamilySafe (world : RefreshWorld) : Prop where
  one_accepted : ∀ first second, world.Accepts first → world.Accepts second →
    first.sessionId = second.sessionId → first.tokenId = second.tokenId
  consumed_once : world.consumed.Nodup
  /-- A rotation request which presents a consumed identifier ends with its family revoked. -/
  replay_revokes : ∀ request claims outcome after,
    world.phase request = .rotated claims outcome →
      (claims.sessionId, claims.tokenId) ∈ world.consumed →
        RefreshStep world (.commit request) after → after.Revoked claims.sessionId
  /-- A revoked family is never accepted again. -/
  revoked_forever : ∀ sessionId ∈ world.drawn, world.Revoked sessionId →
    ∀ later, world.Later later → later.Revoked sessionId ∧
      (∀ claims, claims.sessionId = sessionId → ¬ later.Accepts claims) ∧
        ∀ claims now, claims.sessionId = sessionId →
          validateCsrfRecoverySession later.sessions claims now = false

/-- What a request knows about the family which it has locked. -/
def RefreshWorld.PhaseFacts (world : RefreshWorld) (request : Nat) : RefreshPhase → Prop
  | .rotating claims _ => claims.sessionId ∈ world.drawn
  | .loggingOut sessionId _ _ => sessionId ∈ world.drawn
  | .rotated claims outcome =>
      world.locks claims.sessionId = some request ∧
        ∃ user now clock replacementId,
          outcome = rotateRefreshSession (world.sessions.get? claims.sessionId) user claims now
            clock replacementId ∧
          replacementId ∈ world.drawn ∧ (claims.sessionId, replacementId) ∉ world.consumed ∧
          ∀ row ∈ world.sessions.get? claims.sessionId, row.refreshTokenId ≠ replacementId
  | .loggedOut sessionId staged =>
      world.locks sessionId = some request ∧
        ∀ row ∈ staged, ∃ old now, world.sessions.get? sessionId = some old ∧
          row = { old with revokedAt := some now }
  | .idle => True

structure RefreshFacts (world : RefreshWorld) : Prop where
  rows : ∀ row ∈ world.sessions.rows, row.deletedAt = none ∧ row.id ∈ world.drawn ∧
    row.refreshTokenId ∈ world.drawn ∧ (row.id, row.refreshTokenId) ∉ world.consumed
  consumed_drawn : ∀ pair ∈ world.consumed, pair.2 ∈ world.drawn
  consumed_nodup : world.consumed.Nodup
  locks_drawn : ∀ sessionId request, world.locks sessionId = some request →
    sessionId ∈ world.drawn
  phases : ∀ request, world.PhaseFacts request (world.phase request)

section Frame

variable {world after : RefreshWorld} {request : Nat}

/-- A request keeps what it knows while its locked families stay. -/
theorem RefreshWorld.PhaseFacts.frame {phase : RefreshPhase}
    (h : world.PhaseFacts request phase)
    (hdrawn : ∀ id ∈ world.drawn, id ∈ after.drawn)
    (hlocked : ∀ sessionId, world.locks sessionId = some request →
      after.locks sessionId = some request ∧
        after.sessions.get? sessionId = world.sessions.get? sessionId ∧
          ∀ tokenId, (sessionId, tokenId) ∈ after.consumed →
            (sessionId, tokenId) ∈ world.consumed) :
    after.PhaseFacts request phase := by
  cases phase with
  | idle => trivial
  | rotating claims now => exact hdrawn _ h
  | loggingOut sessionId userId now => exact hdrawn _ h
  | rotated claims outcome =>
      obtain ⟨hlock, user, now, clock, replacementId, houtcome, hdraw, hfresh, hnew⟩ := h
      obtain ⟨hkept, hget, hconsumed⟩ := hlocked claims.sessionId hlock
      refine ⟨hkept, user, now, clock, replacementId, ?_, hdrawn _ hdraw, ?_, ?_⟩
      · rw [hget]
        exact houtcome
      · intro hmem
        exact hfresh (hconsumed _ hmem)
      · rw [hget]
        exact hnew
  | loggedOut sessionId staged =>
      obtain ⟨hlock, hstaged⟩ := h
      obtain ⟨hkept, hget, _⟩ := hlocked sessionId hlock
      refine ⟨hkept, fun row hrow => ?_⟩
      rw [hget]
      exact hstaged row hrow

/-- A step of one request keeps what the others know. -/
theorem RefreshFacts.phases_of (request : Nat) (h : RefreshFacts world)
    (hphases : ∀ other, other ≠ request → after.phase other = world.phase other)
    (hdrawn : ∀ id ∈ world.drawn, id ∈ after.drawn)
    (hlocked : ∀ other sessionId, other ≠ request → world.locks sessionId = some other →
      after.locks sessionId = some other ∧
        after.sessions.get? sessionId = world.sessions.get? sessionId ∧
          ∀ tokenId, (sessionId, tokenId) ∈ after.consumed →
            (sessionId, tokenId) ∈ world.consumed)
    (hself : after.PhaseFacts request (after.phase request)) (other : Nat) :
    after.PhaseFacts other (after.phase other) := by
  by_cases hother : other = request
  · rw [hother]
    exact hself
  · rw [hphases other hother]
    exact (h.phases other).frame hdrawn fun sessionId hlock =>
      hlocked other sessionId hother hlock

/-- The end of a transaction keeps the locks of the others. -/
theorem RefreshWorld.unlocked_of_ne {other sessionId : Nat} (hne : other ≠ request)
    (hlock : world.locks sessionId = some other) :
    world.unlocked request sessionId = some other := by
  rw [RefreshWorld.unlocked, if_neg, hlock]
  rw [hlock, Option.some.injEq]
  exact hne

end Frame

section Steps

variable {world after : RefreshWorld} {request : Nat}

/-- A step which only moves a request to another phase. -/
theorem RefreshFacts.setPhase (h : RefreshFacts world) {phase : RefreshPhase}
    (hphase : world.PhaseFacts request phase) : RefreshFacts (world.setPhase request phase) := by
  refine ⟨h.rows, h.consumed_drawn, h.consumed_nodup, h.locks_drawn,
    h.phases_of request ?_ ?_ ?_ ?_⟩
  · intro other hother
    exact world.setPhase_phase_of_ne phase hother
  · intro id hid
    exact hid
  · intro other sessionId _ hlock
    exact ⟨hlock, rfl, fun _ hmem => hmem⟩
  · rw [RefreshWorld.setPhase_phase_self]
    apply hphase.frame
    · intro id hid
      exact hid
    · intro sessionId hlock
      exact ⟨hlock, rfl, fun _ hmem => hmem⟩

/-- The lock of a free family. -/
theorem RefreshFacts.lockedFor (h : RefreshFacts world) {sessionId : Nat}
    {phase : RefreshPhase} (hfree : world.locks sessionId = none)
    (hissued : sessionId ∈ world.drawn)
    (hphase : (world.lockedFor request sessionId phase).PhaseFacts request phase) :
    RefreshFacts (world.lockedFor request sessionId phase) := by
  refine ⟨h.rows, h.consumed_drawn, h.consumed_nodup, fun otherId other hlock => ?_,
    h.phases_of request ?_ ?_ ?_ ?_⟩
  · by_cases hsame : otherId = sessionId
    · rw [hsame]
      exact hissued
    · have hheld : world.locks otherId = some other := by
        rw [← hlock]
        exact (Function.update_of_ne hsame _ _).symm
      exact h.locks_drawn otherId other hheld
  · intro other hother
    exact RefreshWorld.setPhase_phase_of_ne _ phase hother
  · intro id hid
    exact hid
  · intro other otherId _ hlock
    refine ⟨?_, rfl, fun _ hmem => hmem⟩
    have hne : otherId ≠ sessionId := by
      intro hsame
      rw [hsame, hfree] at hlock
      exact absurd hlock (by simp)
    change Function.update world.locks sessionId (some request) otherId = some other
    rw [Function.update_of_ne hne]
    exact hlock
  · have hself : (world.lockedFor request sessionId phase).phase request = phase :=
      RefreshWorld.setPhase_phase_self _ _ _
    rw [hself]
    exact hphase

/-- The end of a transaction which kept the families locked by others. -/
theorem RefreshFacts.finished_of_kept (h : RefreshFacts world)
    {sessions : Table RefreshSession} {consumed : List (Nat × Nat)}
    (hrows : ∀ row ∈ sessions.rows, row.deletedAt = none ∧ row.id ∈ world.drawn ∧
      row.refreshTokenId ∈ world.drawn ∧ (row.id, row.refreshTokenId) ∉ consumed)
    (hdrawn : ∀ pair ∈ consumed, pair.2 ∈ world.drawn) (hnodup : consumed.Nodup)
    (hkept : ∀ other sessionId, other ≠ request → world.locks sessionId = some other →
      sessions.get? sessionId = world.sessions.get? sessionId ∧
        ∀ tokenId, (sessionId, tokenId) ∈ consumed → (sessionId, tokenId) ∈ world.consumed) :
    RefreshFacts { world.finished request sessions with consumed := consumed } := by
  refine ⟨hrows, hdrawn, hnodup, fun sessionId other hheld => ?_,
    h.phases_of request ?_ ?_ ?_ ?_⟩
  · cases hbefore : world.locks sessionId with
    | none =>
        have hfree : world.unlocked request sessionId = none := by
          rw [RefreshWorld.unlocked, hbefore]
          rfl
        have hlocked : world.unlocked request sessionId = some other := hheld
        rw [hfree] at hlocked
        exact absurd hlocked (by simp)
    | some holder => exact h.locks_drawn sessionId holder hbefore
  · intro other hother
    exact RefreshWorld.setPhase_phase_of_ne _ _ hother
  · intro id hid
    exact hid
  · intro other sessionId hother hheld
    exact ⟨RefreshWorld.unlocked_of_ne hother hheld, hkept other sessionId hother hheld⟩
  · have hself : ({ world.finished request sessions with
        consumed := consumed } : RefreshWorld).phase request = .idle :=
      RefreshWorld.setPhase_phase_self _ _ _
    rw [hself]
    trivial

/-- The end of a transaction which wrote at most the family it had locked. -/
theorem RefreshFacts.finished (h : RefreshFacts world) {sessionId : Nat}
    {sessions : Table RefreshSession} {consumed : List (Nat × Nat)}
    (hlock : world.locks sessionId = some request)
    (hget : ∀ id, id ≠ sessionId → sessions.get? id = world.sessions.get? id)
    (hrows : ∀ row ∈ sessions.rows, row.deletedAt = none ∧ row.id ∈ world.drawn ∧
      row.refreshTokenId ∈ world.drawn ∧ (row.id, row.refreshTokenId) ∉ consumed)
    (hdrawn : ∀ pair ∈ consumed, pair.2 ∈ world.drawn) (hnodup : consumed.Nodup)
    (hconsumed : ∀ pair ∈ consumed, pair ∈ world.consumed ∨ pair.1 = sessionId) :
    RefreshFacts { world.finished request sessions with consumed := consumed } := by
  apply h.finished_of_kept hrows hdrawn hnodup
  intro other otherId hother hheld
  have hne : otherId ≠ sessionId := by
    intro hsame
    rw [hsame, hlock, Option.some.injEq] at hheld
    exact hother hheld.symm
  refine ⟨hget otherId hne, fun tokenId hmem => ?_⟩
  rcases hconsumed _ hmem with hold | hsame
  · exact hold
  · exact absurd hsame hne

/-- The rows of a table in which one family has a new version. -/
theorem RefreshFacts.rows_put (h : RefreshFacts world) {old : RefreshSession}
    (row : RefreshSession)
    {consumed : List (Nat × Nat)} (hold : old ∈ world.sessions.rows) (hid : row.id = old.id)
    (hdeleted : row.deletedAt = none) (htoken : row.refreshTokenId ∈ world.drawn)
    (hfresh : (row.id, row.refreshTokenId) ∉ consumed)
    (hothers : ∀ pair ∈ consumed, pair ∈ world.consumed ∨ pair.1 = old.id) :
    ∀ other ∈ (world.sessions.put row).rows, other.deletedAt = none ∧ other.id ∈ world.drawn ∧
      other.refreshTokenId ∈ world.drawn ∧ (other.id, other.refreshTokenId) ∉ consumed := by
  intro other hother
  rcases Table.mem_put_cases hid hother with rfl | ⟨hmem, hne⟩
  · refine ⟨hdeleted, ?_, htoken, hfresh⟩
    rw [hid]
    exact (h.rows old hold).2.1
  · obtain ⟨hlive, hdrawn, hdrawnToken, hunconsumed⟩ := h.rows other hmem
    refine ⟨hlive, hdrawn, hdrawnToken, fun hconsumed => ?_⟩
    rcases hothers _ hconsumed with hpast | hsame
    · exact hunconsumed hpast
    · exact hne (Table.eq_of_key hmem hold hsame)

/-- A staged revocation keeps the identifier of its row. -/
theorem RefreshFacts.revoke (h : RefreshFacts world) {sessionId : Nat} {now : Int}
    {old : RefreshSession} (hlock : world.locks sessionId = some request)
    (hget : world.sessions.get? sessionId = some old) :
    RefreshFacts (world.finished request
      (world.sessions.put { old with revokedAt := some now })) := by
  have hold := Table.get?_mem hget
  have hid : old.id = sessionId := Table.get?_key hget
  obtain ⟨hdeleted, _, htoken, hfresh⟩ := h.rows old hold
  have hrows := h.rows_put { old with revokedAt := some now } hold rfl hdeleted htoken hfresh
    fun pair hpair => Or.inl hpair
  exact h.finished hlock
    (fun id hne => Table.get?_put_of_ne fun hsame => hne (hsame.trans hid)) hrows
    h.consumed_drawn h.consumed_nodup fun pair hpair => Or.inl hpair

theorem RefreshWorld.get?_withoutUser (userId sessionId : Nat) :
    (world.withoutUser userId).get? sessionId =
      (world.sessions.get? sessionId).filter fun row => row.userId ≠ userId := by
  rw [Option.ext_iff]
  intro row
  simp only [Table.get?_eq_some_iff, Option.filter_eq_some_iff, RefreshWorld.withoutUser,
    List.mem_filter]
  constructor
  · rintro ⟨⟨hmem, howner⟩, hid⟩
    exact ⟨⟨hmem, hid⟩, howner⟩
  · rintro ⟨⟨hmem, hid⟩, howner⟩
    exact ⟨⟨hmem, howner⟩, hid⟩

/-- The deletion of an account leaves the locked families. -/
theorem RefreshFacts.eraseUser (h : RefreshFacts world) {userId : Nat}
    (hfree : ∀ row ∈ world.sessions.rows, row.userId = userId → world.locks row.id = none) :
    RefreshFacts { world with
      users := Function.update world.users userId none
      sessions := world.withoutUser userId } := by
  refine ⟨fun row hrow => h.rows row (List.mem_of_mem_filter hrow), h.consumed_drawn,
    h.consumed_nodup, h.locks_drawn,
    fun request => (h.phases request).frame (fun id hid => hid) ?_⟩
  intro sessionId hlock
  refine ⟨hlock, ?_, fun _ hmem => hmem⟩
  rw [RefreshWorld.get?_withoutUser]
  cases hget : world.sessions.get? sessionId with
  | none => rfl
  | some row =>
      have howner : row.userId ≠ userId := by
        intro hsame
        have hunlocked := hfree row (Table.get?_mem hget) hsame
        have hid : row.id = sessionId := Table.get?_key hget
        rw [hid, hlock] at hunlocked
        exact absurd hunlocked (by simp)
      simp [howner]

/-- A login adds a family with identifiers which were never drawn. -/
theorem RefreshFacts.login (h : RefreshFacts world) {userId sessionId refreshTokenId : Nat}
    {sessions : Table RefreshSession} (htoken : refreshTokenId ∉ world.drawn)
    (hsession : sessionId ∉ world.drawn)
    (hinsert : world.sessions.insert?
      (createRefreshSession userId sessionId refreshTokenId world.now) = some sessions) :
    RefreshFacts { world with
      sessions := sessions
      drawn := sessionId :: refreshTokenId :: world.drawn } := by
  have hrows := (Table.insert?_eq_some_iff.mp hinsert).2
  have hwider : ∀ id ∈ world.drawn, id ∈ sessionId :: refreshTokenId :: world.drawn := by
    intro id hid
    exact List.mem_cons_of_mem _ (List.mem_cons_of_mem _ hid)
  refine ⟨fun row hrow => ?_, fun pair hpair => hwider _ (h.consumed_drawn pair hpair),
    h.consumed_nodup, fun otherId request hlock => hwider _ (h.locks_drawn otherId request hlock),
    fun request => (h.phases request).frame hwider ?_⟩
  · rcases List.mem_cons.mp (hrows ▸ hrow) with rfl | hold
    · refine ⟨rfl, List.mem_cons_self, List.mem_cons_of_mem _ List.mem_cons_self, ?_⟩
      intro hconsumed
      exact htoken (h.consumed_drawn _ hconsumed)
    · obtain ⟨hdeleted, hid, hdraw, hfresh⟩ := h.rows row hold
      exact ⟨hdeleted, hwider _ hid, hwider _ hdraw, hfresh⟩
  · intro otherId hlock
    refine ⟨hlock, ?_, fun _ hmem => hmem⟩
    rw [Table.get?_insert? hinsert]
    split
    · rename_i hsame
      have hid : otherId = sessionId := hsame
      exact absurd (hid ▸ h.locks_drawn otherId _ hlock) hsession
    · rfl

/-- A rotation replaces the identifier which it consumes. -/
theorem RefreshFacts.rotate (h : RefreshFacts world) {claims : RefreshTokenClaims}
    {row : RefreshSession} (hphase : world.PhaseFacts request (.rotated claims (.rotated row))) :
    RefreshFacts { world.finished request (world.sessions.put row) with
      consumed := (claims.sessionId, claims.tokenId) :: world.consumed } := by
  obtain ⟨hlock, user, now, clock, replacementId, houtcome, hdraw, hunused, hnew⟩ := hphase
  obtain ⟨old, hget, hdeleted, _, htoken, rfl⟩ := rotateRefreshSession_eq_rotated houtcome.symm
  have hold := Table.get?_mem hget
  have hid : old.id = claims.sessionId := Table.get?_key hget
  obtain ⟨_, _, holdDrawn, holdFresh⟩ := h.rows old hold
  rw [hid, htoken] at holdFresh
  have hreplaced : replacementId ≠ claims.tokenId := by
    intro hsame
    exact hnew old hget (htoken.trans hsame.symm)
  apply h.finished hlock
  · intro id hne
    exact Table.get?_put_of_ne fun hsame => hne (hsame.trans hid)
  · apply h.rows_put _ hold (by rfl) (by exact hdeleted) (by exact hdraw)
    · intro hmem
      rcases List.mem_cons.mp hmem with hsame | hpast
      · exact hreplaced (Prod.mk.inj hsame).2
      · rw [hid] at hpast
        exact hunused hpast
    · intro pair hpair
      rcases List.mem_cons.mp hpair with rfl | hpast
      · exact Or.inr hid.symm
      · exact Or.inl hpast
  · intro pair hpair
    rcases List.mem_cons.mp hpair with rfl | hpast
    · rw [htoken] at holdDrawn
      exact holdDrawn
    · exact h.consumed_drawn pair hpast
  · exact List.nodup_cons.mpr ⟨holdFresh, h.consumed_nodup⟩
  · intro pair hpair
    rcases List.mem_cons.mp hpair with rfl | hpast
    · exact Or.inr rfl
    · exact Or.inl hpast

/-- Every step keeps what holds of a world. -/
theorem RefreshFacts.step (h : RefreshFacts world) {label : RefreshLabel}
    (hstep : RefreshStep world label after) : RefreshFacts after := by
  cases hstep with
  | tick => exact ⟨h.rows, h.consumed_drawn, h.consumed_nodup, h.locks_drawn, h.phases⟩
  | setUser => exact ⟨h.rows, h.consumed_drawn, h.consumed_nodup, h.locks_drawn, h.phases⟩
  | eraseUser hfree => exact h.eraseUser hfree
  | login _ hsession htoken hinsert => exact h.login htoken hsession hinsert
  | refuse => exact h
  | present _ hissued => exact h.setPhase hissued
  | @lockRotation request replacementId claims now hphase hfree hfresh =>
      have hwaiting := h.phases request
      rw [hphase] at hwaiting
      have hdrawn : RefreshFacts { world with drawn := replacementId :: world.drawn } := by
        refine ⟨fun row hrow => ?_, fun pair hpair => ?_, h.consumed_nodup,
          fun sessionId holder hlock => ?_, fun other => ?_⟩
        · obtain ⟨hdeleted, hid, htoken, hunused⟩ := h.rows row hrow
          exact ⟨hdeleted, List.mem_cons_of_mem _ hid, List.mem_cons_of_mem _ htoken, hunused⟩
        · exact List.mem_cons_of_mem _ (h.consumed_drawn pair hpair)
        · exact List.mem_cons_of_mem _ (h.locks_drawn sessionId holder hlock)
        · exact (h.phases other).frame (fun id hid => List.mem_cons_of_mem _ hid)
            fun sessionId hlock => ⟨hlock, rfl, fun _ hmem => hmem⟩
      apply hdrawn.lockedFor hfree (List.mem_cons_of_mem _ hwaiting)
      refine ⟨Function.update_self _ _ _, world.users claims.userId, now, world.now,
        replacementId, rfl, List.mem_cons_self, ?_, ?_⟩
      · intro hconsumed
        exact hfresh (h.consumed_drawn _ hconsumed)
      · intro row hrow hsame
        exact hfresh (hsame ▸ (h.rows row (Table.get?_mem hrow)).2.2.1)
  | logout _ hissued => exact h.setPhase hissued
  | @lockLogout request sessionId userId now hphase hfree =>
      have hwaiting := h.phases request
      rw [hphase] at hwaiting
      apply h.lockedFor hfree hwaiting
      refine ⟨Function.update_self _ _ _, fun row hrow => ?_⟩
      obtain ⟨old, hget, hnew⟩ := revokeRefreshSession_eq_some hrow
      exact ⟨old, now, hget, hnew⟩
  | @commitInvalid request claims hphase =>
      have hfacts := h.phases request
      rw [hphase] at hfacts
      exact h.finished hfacts.1 (fun _ _ => rfl) h.rows h.consumed_drawn h.consumed_nodup
        fun pair hpair => Or.inl hpair
  | @commitRevoked request claims row hphase =>
      have hfacts := h.phases request
      rw [hphase] at hfacts
      obtain ⟨hlock, user, now, clock, replacementId, houtcome, _⟩ := hfacts
      obtain ⟨old, hget, rfl⟩ := rotateRefreshSession_eq_revoked houtcome.symm
      exact h.revoke hlock hget
  | @commitRotated request claims row hphase =>
      have hfacts := h.phases request
      rw [hphase] at hfacts
      exact h.rotate hfacts
  | @commitLogout request sessionId staged hphase =>
      have hfacts := h.phases request
      rw [hphase] at hfacts
      obtain ⟨hlock, hstaged⟩ := hfacts
      cases staged with
      | none =>
          exact h.finished hlock (fun _ _ => rfl) h.rows h.consumed_drawn h.consumed_nodup
            fun pair hpair => Or.inl hpair
      | some row =>
          obtain ⟨old, now, hget, rfl⟩ := hstaged row rfl
          exact h.revoke hlock hget
  | stop =>
      exact h.finished_of_kept h.rows h.consumed_drawn h.consumed_nodup
        fun _ _ _ _ => ⟨rfl, fun _ hmem => hmem⟩
  | recover => exact h

theorem RefreshFacts.initial (h : world.Initial) : RefreshFacts world := by
  obtain ⟨hrows, hlocks, hphase, _, hconsumed⟩ := h
  refine ⟨?_, ?_, ?_, fun sessionId request hlock => ?_, fun request => ?_⟩
  · simp [hrows]
  · simp [hconsumed]
  · simp [hconsumed]
  · rw [hlocks] at hlock
    exact absurd hlock (by simp)
  · rw [hphase]
    trivial

theorem RefreshFacts.reached (h : world.Reached) : RefreshFacts world := by
  refine Reaches.invariant ?_ ?_ h
  · intro state hinit
    exact RefreshFacts.initial hinit
  · intro state label after hfacts _ hstep
    exact hfacts.step hstep

/-- A version which is revoked, in the place of a row. -/
theorem RefreshWorld.Revoked.put {sessionId : Nat} {row : RefreshSession}
    (h : world.Revoked sessionId) (hrow : row.id = sessionId → row.revokedAt.isSome = true) :
    ∀ other ∈ (world.sessions.put row).rows, other.id = sessionId →
      other.revokedAt.isSome = true := by
  intro other hother hid
  rcases Table.mem_put_iff.mp hother with ⟨rfl, _⟩ | ⟨hmem, _⟩
  · exact hrow hid
  · exact h other hmem hid

/-- No step restores a revoked family. -/
theorem RefreshFacts.revoked_step (h : RefreshFacts world) {sessionId : Nat}
    (hdrawn : sessionId ∈ world.drawn) (hrevoked : world.Revoked sessionId)
    {label : RefreshLabel} (hstep : RefreshStep world label after) :
    sessionId ∈ after.drawn ∧ after.Revoked sessionId := by
  cases hstep with
  | tick => exact ⟨hdrawn, hrevoked⟩
  | setUser => exact ⟨hdrawn, hrevoked⟩
  | eraseUser =>
      exact ⟨hdrawn, fun row hrow hid => hrevoked row (List.mem_of_mem_filter hrow) hid⟩
  | @login userId newSessionId tokenId sessions _ hsession _ hinsert =>
      refine ⟨List.mem_cons_of_mem _ (List.mem_cons_of_mem _ hdrawn), fun row hrow hid => ?_⟩
      have hrows := (Table.insert?_eq_some_iff.mp hinsert).2
      rcases List.mem_cons.mp (hrows ▸ hrow) with rfl | hold
      · have hsame : newSessionId = sessionId := hid
        exact absurd (hsame ▸ hdrawn) hsession
      · exact hrevoked row hold hid
  | refuse => exact ⟨hdrawn, hrevoked⟩
  | present => exact ⟨hdrawn, hrevoked⟩
  | lockRotation => exact ⟨List.mem_cons_of_mem _ hdrawn, hrevoked⟩
  | logout => exact ⟨hdrawn, hrevoked⟩
  | lockLogout => exact ⟨hdrawn, hrevoked⟩
  | commitInvalid => exact ⟨hdrawn, hrevoked⟩
  | @commitRevoked request claims row hphase =>
      have hfacts := h.phases request
      rw [hphase] at hfacts
      obtain ⟨_, _, _, _, _, houtcome, _⟩ := hfacts
      obtain ⟨old, _, rfl⟩ := rotateRefreshSession_eq_revoked houtcome.symm
      exact ⟨hdrawn, hrevoked.put fun _ => rfl⟩
  | @commitRotated request claims row hphase =>
      have hfacts := h.phases request
      rw [hphase] at hfacts
      obtain ⟨_, _, _, _, _, houtcome, _⟩ := hfacts
      obtain ⟨old, hget, _, hlive, _, rfl⟩ := rotateRefreshSession_eq_rotated houtcome.symm
      refine ⟨hdrawn, hrevoked.put fun hid => ?_⟩
      have hold := hrevoked old (Table.get?_mem hget) hid
      rw [hlive] at hold
      exact absurd hold (by simp)
  | @commitLogout request lockedId staged hphase =>
      have hfacts := h.phases request
      rw [hphase] at hfacts
      cases staged with
      | none => exact ⟨hdrawn, hrevoked⟩
      | some row =>
          obtain ⟨old, now, _, rfl⟩ := hfacts.2 row rfl
          exact ⟨hdrawn, hrevoked.put fun _ => rfl⟩
  | stop => exact ⟨hdrawn, hrevoked⟩
  | recover => exact ⟨hdrawn, hrevoked⟩

/-- A revoked family stays revoked. -/
theorem RefreshFacts.revoked_later (h : RefreshFacts world) {sessionId : Nat}
    (hdrawn : sessionId ∈ world.drawn) (hrevoked : world.Revoked sessionId)
    {later : RefreshWorld} (hlater : world.Later later) : later.Revoked sessionId := by
  have hall : RefreshFacts later ∧ sessionId ∈ later.drawn ∧ later.Revoked sessionId := by
    induction hlater with
    | start hinit =>
        rw [hinit]
        exact ⟨h, hdrawn, hrevoked⟩
    | next _ _ hstep ih => exact ⟨ih.1.step hstep, ih.1.revoked_step ih.2.1 ih.2.2 hstep⟩
  exact hall.2.2

/-- Only the current identifier of a live family is accepted. -/
theorem RefreshWorld.Accepts.current {claims : RefreshTokenClaims} (h : world.Accepts claims) :
    ∃ row, world.sessions.get? claims.sessionId = some row ∧ row.revokedAt = none ∧
      row.refreshTokenId = claims.tokenId := by
  obtain ⟨_, _, _, _, _, hrotated⟩ := h
  obtain ⟨row, hget, _, hlive, htoken, _⟩ := rotateRefreshSession_eq_rotated hrotated
  exact ⟨row, hget, hlive, htoken⟩

/-- A revoked family is accepted neither for rotation nor for recovery. -/
theorem RefreshWorld.Revoked.not_accepted {claims : RefreshTokenClaims}
    (h : world.Revoked claims.sessionId) : ¬ world.Accepts claims := by
  intro haccepts
  obtain ⟨row, hget, hlive, _⟩ := haccepts.current
  have hrevoked := h row (Table.get?_mem hget) (Table.get?_key hget)
  rw [hlive] at hrevoked
  exact absurd hrevoked (by simp)

theorem RefreshWorld.Revoked.not_recovered {claims : SessionClaims}
    (h : world.Revoked claims.sessionId) (now : Int) :
    validateCsrfRecoverySession world.sessions claims now = false := by
  unfold validateCsrfRecoverySession
  cases hget : world.sessions.get? claims.sessionId with
  | none => rfl
  | some row =>
      have hrevoked := h row (Table.get?_mem hget) (Table.get?_key hget)
      have hnone : row.revokedAt.isNone = false := by
        rw [Option.isNone_eq_false_iff]
        exact hrevoked
      simp [hnone]

/-- A rotation request which presents a consumed identifier ends with its family revoked. -/
theorem RefreshFacts.replay_revokes (h : RefreshFacts world) {claims : RefreshTokenClaims}
    {outcome : RotationOutcome} (hphase : world.phase request = .rotated claims outcome)
    (hconsumed : (claims.sessionId, claims.tokenId) ∈ world.consumed)
    (hstep : RefreshStep world (.commit request) after) : after.Revoked claims.sessionId := by
  have hfacts := h.phases request
  rw [hphase] at hfacts
  obtain ⟨_, user, now, clock, replacementId, houtcome, _⟩ := hfacts
  cases hstep with
  | commitInvalid hsame =>
      obtain ⟨rfl, rfl⟩ := RefreshPhase.rotated.inj (hphase.symm.trans hsame)
      intro row hrow hid
      by_contra hlive
      have hget : world.sessions.get? claims.sessionId = some row :=
        Table.get?_eq_some_iff.mpr ⟨hrow, hid⟩
      obtain ⟨hdeleted, _, _, hunused⟩ := h.rows row hrow
      have hstale : row.refreshTokenId ≠ claims.tokenId := by
        intro hcurrent
        rw [hid, hcurrent] at hunused
        exact hunused hconsumed
      have hnone : row.revokedAt = none := by simpa using hlive
      rw [hget, rotateRefreshSession_of_stale hdeleted hnone hstale] at houtcome
      exact absurd houtcome (by simp)
  | commitRevoked hsame =>
      obtain ⟨rfl, rfl⟩ := RefreshPhase.rotated.inj (hphase.symm.trans hsame)
      obtain ⟨old, hget, rfl⟩ := rotateRefreshSession_eq_revoked houtcome.symm
      intro row hrow hid
      rcases Table.mem_put_iff.mp hrow with ⟨rfl, _⟩ | ⟨_, hother⟩
      · rfl
      · have hkey : old.id = claims.sessionId := Table.get?_key hget
        exact absurd (hid.trans hkey.symm) hother
  | commitRotated hsame =>
      obtain ⟨rfl, rfl⟩ := RefreshPhase.rotated.inj (hphase.symm.trans hsame)
      obtain ⟨old, hget, _, _, htoken, _⟩ := rotateRefreshSession_eq_rotated houtcome.symm
      have hunused := (h.rows old (Table.get?_mem hget)).2.2.2
      have hkey : old.id = claims.sessionId := Table.get?_key hget
      rw [hkey, htoken] at hunused
      exact absurd hconsumed hunused
  | commitLogout hsame =>
      rw [hphase] at hsame
      exact absurd hsame (by simp)

theorem RefreshFacts.safe (h : RefreshFacts world) : RefreshFamilySafe world where
  one_accepted := by
    intro first second hfirst hsecond hfamily
    obtain ⟨row, hget, _, htoken⟩ := hfirst.current
    obtain ⟨other, hgetOther, _, hotherToken⟩ := hsecond.current
    rw [hfamily, hgetOther] at hget
    rw [← htoken, ← hotherToken, Option.some.inj hget]
  consumed_once := h.consumed_nodup
  replay_revokes := by
    intro request claims outcome after hphase hconsumed hstep
    exact h.replay_revokes hphase hconsumed hstep
  revoked_forever := by
    intro sessionId hdrawn hrevoked later hlater
    have hlaterRevoked := h.revoked_later hdrawn hrevoked hlater
    refine ⟨hlaterRevoked, fun claims hid => ?_, fun claims now hid => ?_⟩
    · exact (hid.symm ▸ hlaterRevoked : later.Revoked claims.sessionId).not_accepted
    · exact (hid.symm ▸ hlaterRevoked : later.Revoked claims.sessionId).not_recovered now

end Steps

/-- Every reached world keeps its refresh families safe. -/
theorem refresh_families_safe :
    ∀ world : RefreshWorld, world.Reached → RefreshFamilySafe world :=
  fun _ hreach => (RefreshFacts.reached hreach).safe

section ExpiredReplay

/-- The first token of a family, issued at the start. -/
def firstClaims : RefreshTokenClaims := issuedClaims 1 1 2 0

/-- A day, and the end of the first token with its leeway. -/
def firstDay : Int := 24 * 3600 * authSecond

def afterFirstToken : Int := refreshTokenTtl + 31 * authSecond

def signedInWorld : RefreshWorld where
  users := fun _ => some ⟨1, .user, true, none, none, none⟩
  sessions := ⟨[createRefreshSession 1 1 2 0], by decide⟩
  now := 0
  locks := fun _ => none
  phase := fun _ => .idle
  drawn := [1, 2]
  consumed := []

theorem signedInWorld_reached : signedInWorld.Reached := by
  have hinit : RefreshWorld.Initial { signedInWorld with sessions := Table.empty, drawn := [] } :=
    ⟨rfl, fun _ => rfl, fun _ => rfl, rfl, rfl⟩
  have hlogin : RefreshStep { signedInWorld with sessions := Table.empty, drawn := [] }
      (.login 1 1 2) signedInWorld :=
    RefreshStep.login (by decide) (by decide) (by decide) rfl
  exact (Reaches.start hinit).next trivial hlogin

/-- The family after the rotation of its first token on the first day. -/
theorem rotated_reached : ∃ world : RefreshWorld, world.Reached ∧
    world.consumed = [(1, 2)] ∧ world.sessions.rows.map (·.revokedAt) = [none] ∧
      world.sessions.rows.map (·.id) = [1] ∧ world.now = firstDay := by
  have htick := signedInWorld_reached.next trivial
    (RefreshStep.tick (by decide) : RefreshStep signedInWorld (.tick firstDay) _)
  have hpresent := htick.next trivial
    (RefreshStep.present rfl (by decide) (by decide) : RefreshStep _ (.present 0 firstClaims) _)
  have hlock := hpresent.next trivial
    (RefreshStep.lockRotation (RefreshWorld.setPhase_phase_self _ _ _) rfl (by decide) :
      RefreshStep _ (.lockRotation 0 3) _)
  have hcommit := hlock.next trivial
    (RefreshStep.commitRotated (RefreshWorld.setPhase_phase_self _ _ _))
  exact ⟨_, hcommit, rfl, rfl, rfl, rfl⟩

/-- A family whose first token is consumed is safe. -/
theorem rotated_family_safe : ∃ world : RefreshWorld, world.consumed = [(1, 2)] ∧
    world.sessions.rows.map (·.revokedAt) = [none] ∧ RefreshFamilySafe world := by
  obtain ⟨world, hreach, hconsumed, hlive, _⟩ := rotated_reached
  exact ⟨world, hconsumed, hlive, refresh_families_safe world hreach⟩

/-- A request which presents a token and is answered with this step. -/
def RefreshWorld.AnswersToken (world : RefreshWorld) (label : RefreshLabel)
    (claims : RefreshTokenClaims) : Prop :=
  label = .refuse claims ∨
    ∃ request outcome, label = .commit request ∧ world.phase request = .rotated claims outcome

/-- A consumed token which has expired is refused, and its family lives on. -/
theorem expired_replay_keeps_family :
    ¬ ∀ world : RefreshWorld, world.Reached → ∀ claims label after,
      (claims.sessionId, claims.tokenId) ∈ world.consumed → RefreshStep world label after →
        world.AnswersToken label claims → after.Revoked claims.sessionId := by
  intro hclaim
  obtain ⟨world, hreach, hconsumed, hlive, hids, hnow⟩ := rotated_reached
  have hexpiry : world.now ≤ afterFirstToken := by
    rw [hnow]
    decide
  have hlater := hreach.next trivial
    (RefreshStep.tick hexpiry : RefreshStep world (.tick afterFirstToken) _)
  have hrevoked := hclaim _ hlater firstClaims (.refuse firstClaims) _
    (by rw [hconsumed]; exact List.mem_singleton.mpr rfl) (RefreshStep.refuse rfl) (Or.inl rfl)
  obtain ⟨row, hrow, hid⟩ : ∃ row ∈ world.sessions.rows, row.id = 1 := by
    rw [← List.mem_map, hids]
    exact List.mem_singleton.mpr rfl
  have hstamp : row.revokedAt ∈ world.sessions.rows.map (·.revokedAt) := List.mem_map_of_mem hrow
  rw [hlive, List.mem_singleton] at hstamp
  have hstamped := hrevoked row hrow hid
  rw [hstamp] at hstamped
  exact absurd hstamped (by simp)

end ExpiredReplay

end BuddyWeb
