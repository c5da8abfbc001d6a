/-
The soundness of e-mail verification: what a transaction has staged under the lock of an
account stays true until it commits, so a stamp is set only with the consumption of a live
token for the account's current address.
-/
import BuddyWeb.Auth.VerificationWorld

namespace BuddyWeb

variable {env : VerificationEnvironment}

/-- What one step does to stamps, addresses and tokens. -/
structure VerificationStepSafe (world : VerificationWorld) (label : VerificationLabel)
    (after : VerificationWorld) : Prop where
  /-- A stamp was there before for the same address, or the account's own request sets it and
  consumes a live token of the account for its address in the same transaction. -/
  stamps : ∀ user ∈ after.users.rows, ∀ stamp ∈ user.emailVerifiedAt,
    (∃ old ∈ world.users.rows, old.id = user.id ∧ old.email = user.email ∧
      old.emailVerifiedAt = some stamp) ∨
    ∃ request cached writes old token, label = .commit request ∧
      world.phase request = .staged cached user.id writes ∧ cached.id = user.id ∧
      old ∈ world.users.rows ∧ old.id = user.id ∧ old.email = user.email ∧
      token ∈ world.tokens.rows ∧ token.userId = user.id ∧ token.isLive = true ∧
      stamp < token.expiresAt ∧ token.emailSnapshot = user.email ∧
      { token with consumedAt := some stamp } ∈ after.tokens.rows
  clears : ∀ old ∈ world.users.rows, ∀ user ∈ after.users.rows, user.id = old.id →
    user.email ≠ old.email → user.emailVerifiedAt = none
  consumed_final : ∀ token ∈ world.tokens.rows, token.consumedAt.isSome = true →
    token ∈ after.tokens.rows

/-- What holds of a world and of its next steps. -/
structure EmailVerificationSafe (env : VerificationEnvironment) (world : VerificationWorld) :
    Prop where
  stamped : ∀ user ∈ world.users.rows, ∀ stamp ∈ user.emailVerifiedAt,
    ∃ token ∈ world.tokens.rows, token.userId = user.id ∧ token.emailSnapshot = user.email ∧
      token.consumedAt = some stamp ∧ token.supersededAt = none ∧ token.deletedAt = none ∧
        stamp < token.expiresAt
  steps : ∀ label after, VerificationStep env world label after →
    VerificationStepSafe world label after

/-- The writes which issue a token and an e-mail for an address. -/
structure IssuesFor (world : VerificationWorld) (ownerId : Nat) (target : String)
    (writes : VerificationWrites) : Prop where
  issued : ∃ token email, writes.created = some token ∧ writes.email = some email ∧
    email.aggregateId = token.id ∧ token.userId = ownerId ∧ token.isLive = true ∧
      token.emailSnapshot = target ∧ email.recipientUserId = ownerId ∧
        email.recipientEmail = target
  superseded : ∀ token ∈ writes.changed, ∃ live ∈ world.tokens.rows, live.userId = ownerId ∧
    live.isLive = true ∧ ∃ stamp, token = { live with supersededAt := some stamp }
  none_live : writes.changed = none → ∀ token ∈ world.tokens.rows, token.userId = ownerId →
    token.isLive = false

/-- What a request has staged under the lock of an account. -/
inductive StagedWrites (world : VerificationWorld) (cached : EmailAccount) (ownerId : Nat) :
    VerificationWrites → Prop
  | verified : StagedWrites world cached ownerId {}
  | requested {writes} (hid : cached.id = ownerId) (haccount : writes.account = none)
      (hissues : IssuesFor world ownerId cached.email writes) :
      StagedWrites world cached ownerId writes
  | changed {writes} {old user : EmailAccount} (hget : world.users.get? ownerId = some old)
      (hid : user.id = ownerId) (hstamp : user.emailVerifiedAt = none)
      (haccount : writes.account = some user)
      (hissues : IssuesFor world ownerId user.email writes) :
      StagedWrites world cached ownerId writes
  | confirmed {old : EmailAccount} {token : EmailVerificationToken} {stamp : Int}
      (hid : cached.id = ownerId) (hget : world.users.get? ownerId = some old)
      (htoken : token ∈ world.tokens.rows) (howner : token.userId = ownerId)
      (hlive : token.isLive = true) (hexpiry : stamp < token.expiresAt)
      (hsnapshot : token.emailSnapshot = old.email) :
      StagedWrites world cached ownerId {
        account := some { old with emailVerifiedAt := some stamp }
        changed := some { token with consumedAt := some stamp } }

def VerificationWorld.PhaseFacts (world : VerificationWorld) (request : Nat) :
    VerificationPhase → Prop
  | .staged cached ownerId writes =>
      world.locks ownerId = some request ∧ StagedWrites world cached ownerId writes
  | _ => True

structure VerificationFacts (world : VerificationWorld) : Prop where
  stamped : ∀ user ∈ world.users.rows, ∀ stamp ∈ user.emailVerifiedAt,
    ∃ token ∈ world.tokens.rows, token.userId = user.id ∧ token.emailSnapshot = user.email ∧
      token.consumedAt = some stamp ∧ token.supersededAt = none ∧ token.deletedAt = none ∧
        stamp < token.expiresAt
  phases : ∀ request, world.PhaseFacts request (world.phase request)

section Functions

variable {tokens : Table EmailVerificationToken} {draw : VerificationDraw}
  {writes : VerificationWrites}

theorem lockCurrentUser_eq_ok_iff {row : Option EmailAccount} {user : EmailAccount} :
    lockCurrentUser row = .ok user ↔ row = some user ∧ user.isEnabled = true := by
  simp only [lockCurrentUser, except_bind_eq_ok_iff, require_eq_ok_iff, ensure_eq_ok_iff,
    except_pure_eq_ok_iff]
  constructor
  · rintro ⟨found, hrow, _, henabled, rfl⟩
    exact ⟨hrow, henabled⟩
  · rintro ⟨hrow, henabled⟩
    exact ⟨user, hrow, (), henabled, rfl⟩

/-- A request stages nothing for a verified account, else a token and an e-mail for the
address of the account it was given. -/
theorem requestEmailVerification_cases {world : VerificationWorld} {row : Option EmailAccount}
    (h : requestEmailVerification env row world.tokens draw = .ok writes) :
    ∃ user, row = some user ∧ ((writes = {} ∧ user.emailVerifiedAt.isSome = true) ∨
      user.isCurrentEmailVerified = false ∧ writes.account = none ∧
        IssuesFor world user.id user.email writes) := by
  unfold requestEmailVerification at h
  simp only [except_bind_eq_ok_iff, require_eq_ok_iff, ensure_eq_ok_iff] at h
  obtain ⟨user, hrow, _, hstudent, h⟩ := h
  refine ⟨user, hrow, ?_⟩
  split at h
  · rename_i hverified
    have hrole : user.role = .user := by
      simp only [EmailAccount.isStudent, Bool.and_eq_true, beq_iff_eq] at hstudent
      exact hstudent.1
    simp only [EmailAccount.isCurrentEmailVerified, hrole] at hverified
    simp only [except_pure_eq_ok_iff] at h
    exact Or.inl ⟨h.symm, hverified⟩
  · rename_i hunverified
    simp only [issueEmailVerificationToken, except_bind_eq_ok_iff, lockCurrentUser_eq_ok_iff,
      except_pure_eq_ok_iff] at h
    obtain ⟨issued, ⟨owner, ⟨hsame, _⟩, rfl⟩, rfl⟩ := h
    obtain rfl := Option.some.inj hsame
    refine Or.inr ⟨by simpa using hunverified, rfl,
      ⟨_, _, rfl, rfl, rfl, rfl, rfl, rfl, rfl, rfl⟩, ?_, ?_⟩
    · intro token htoken
      simp only [Option.mem_def, Option.map_eq_some_iff] at htoken
      obtain ⟨live, hlive, rfl⟩ := htoken
      have hfilter := Table.select?_filter hlive
      simp only [Bool.and_eq_true, decide_eq_true_eq] at hfilter
      exact ⟨live, Table.select?_mem hlive, hfilter.1, hfilter.2, draw.now, rfl⟩
    · intro hnone token htoken howner
      have hselect : liveToken world.tokens user.id = none := by
        simpa using hnone
      have hfilter := Table.select?_eq_none hselect token htoken
      simpa [howner] using hfilter

/-- A change stages the new address without a stamp, and a token and an e-mail for it. -/
theorem changeCurrentUserEmail_cases {world : VerificationWorld} {row : Option EmailAccount}
    {newEmail currentPassword : String}
    (h : changeCurrentUserEmail env row world.tokens newEmail currentPassword draw =
      .ok writes) :
    ∃ old user, row = some old ∧ user.id = old.id ∧ user.emailVerifiedAt = none ∧
      writes.account = some user ∧ IssuesFor world user.id user.email writes := by
  simp only [changeCurrentUserEmail, except_bind_eq_ok_iff, require_eq_ok_iff,
    ensure_eq_ok_iff, except_pure_eq_ok_iff] at h
  obtain ⟨canonical, _, old, hrow, _, _, _, _, _, _, requested, hrequested, rfl⟩ := h
  obtain ⟨user, huser, hcases⟩ := requestEmailVerification_cases hrequested
  obtain rfl := Option.some.inj huser
  rcases hcases with ⟨_, hverified⟩ | ⟨_, _, hissues⟩
  · simp at hverified
  · refine ⟨old, { old with email := canonical, emailVerifiedAt := none }, hrow, rfl, rfl, rfl,
      ?_⟩
    exact ⟨hissues.issued, hissues.superseded, hissues.none_live⟩

/-- A confirmation stages the consumption of a live token of its own account and the stamp
for the address of the token. -/
theorem confirmEmailVerificationToken_cases {digest : List Byte} {cached : EmailAccount}
    {instanceRow row : Option EmailAccount} {stored : Option EmailVerificationToken}
    {consumed : EmailVerificationToken} {now : Int}
    (hconsumed : consumeEmailVerificationToken digest instanceRow stored now = .ok consumed)
    (h : confirmEmailVerificationToken consumed cached.id row now = .ok writes) :
    ∃ user old token, instanceRow = some user ∧ row = some old ∧ stored = some token ∧
      token.userId = user.id ∧ cached.id = user.id ∧ token.isLive = true ∧
      now < token.expiresAt ∧ token.emailSnapshot = old.email ∧
      writes = {
        account := some { old with emailVerifiedAt := some now }
        changed := some { token with consumedAt := some now } } := by
  simp only [consumeEmailVerificationToken, except_bind_eq_ok_iff, lockCurrentUser_eq_ok_iff,
    require_eq_ok_iff, ensure_eq_ok_iff, except_pure_eq_ok_iff] at hconsumed
  obtain ⟨user, ⟨huser, _⟩, token, hstored, _, ⟨_, howner, hlive, hexpiry, _⟩, rfl⟩ := hconsumed
  simp only [confirmEmailVerificationToken, except_bind_eq_ok_iff, require_eq_ok_iff,
    ensure_eq_ok_iff, except_pure_eq_ok_iff] at h
  obtain ⟨_, hexpected, old, hrow, _, ⟨_, hemail, _⟩, rfl⟩ := h
  exact ⟨user, old, token, huser, hrow, hstored, howner, hexpected.symm.trans howner, hlive,
    hexpiry, hemail.symm, rfl⟩

theorem sessionAccount_id {cached user : EmailAccount} {row : Option EmailAccount}
    (h : sessionAccount cached row = some user) : ∃ found, row = some found ∧
      user.id = found.id := by
  simp only [sessionAccount, Option.map_eq_some_iff] at h
  obtain ⟨found, hrow, rfl⟩ := h
  refine ⟨found, hrow, ?_⟩
  split
  · rename_i hsame
    exact hsame.symm
  · rfl

end Functions

section Staged

variable {world after : VerificationWorld} {cached : EmailAccount} {ownerId : Nat}
  {writes : VerificationWrites} {tokens : Table EmailVerificationToken}

/-- A new version of a token replaces a live token of the owner. -/
theorem StagedWrites.changed_live (h : StagedWrites world cached ownerId writes) :
    ∀ token ∈ writes.changed, ∃ live ∈ world.tokens.rows, live.userId = ownerId ∧
      live.isLive = true ∧ token.id = live.id ∧ token.userId = ownerId := by
  intro token htoken
  cases h with
  | verified => exact absurd htoken (by simp)
  | requested _ _ hissues =>
      obtain ⟨live, hmem, howner, hlive, stamp, rfl⟩ := hissues.superseded token htoken
      exact ⟨live, hmem, howner, hlive, rfl, howner⟩
  | changed _ _ _ _ hissues =>
      obtain ⟨live, hmem, howner, hlive, stamp, rfl⟩ := hissues.superseded token htoken
      exact ⟨live, hmem, howner, hlive, rfl, howner⟩
  | @confirmed old live stamp _ _ hmem howner hlive _ _ =>
      obtain rfl := Option.some.inj htoken
      exact ⟨live, hmem, howner, hlive, rfl, howner⟩

theorem StagedWrites.created_owner (h : StagedWrites world cached ownerId writes) :
    ∀ token ∈ writes.created, token.userId = ownerId := by
  intro token htoken
  cases h with
  | verified => exact absurd htoken (by simp)
  | requested _ _ hissues =>
      obtain ⟨created, _, hcreated, _, _, howner, _⟩ := hissues.issued
      rw [hcreated] at htoken
      rw [← Option.some.inj htoken, howner]
  | changed _ _ _ _ hissues =>
      obtain ⟨created, _, hcreated, _, _, howner, _⟩ := hissues.issued
      rw [hcreated] at htoken
      rw [← Option.some.inj htoken, howner]
  | confirmed => exact absurd htoken (by simp)

/-- A new version of an account is one of the owner. -/
theorem StagedWrites.account_owner (h : StagedWrites world cached ownerId writes) :
    ∀ user ∈ writes.account, ∃ old, world.users.get? ownerId = some old ∧ user.id = old.id := by
  intro user huser
  cases h with
  | verified => exact absurd huser (by simp)
  | requested _ haccount _ =>
      rw [haccount] at huser
      exact absurd huser (by simp)
  | @changed _ old staged hget hid _ haccount _ =>
      rw [haccount] at huser
      have holdId : old.id = ownerId := Table.get?_key hget
      refine ⟨old, hget, ?_⟩
      rw [← Option.some.inj huser, hid, holdId]
  | @confirmed old _ _ _ hget _ _ _ _ _ =>
      obtain rfl := Option.some.inj huser
      exact ⟨old, hget, rfl⟩

/-- The tokens after a transaction. -/
theorem mem_writeTokens_iff (htokens : world.writeTokens writes = some tokens)
    {token : EmailVerificationToken} :
    token ∈ tokens.rows ↔ writes.created = some token ∨
      token ∈ (writes.changed.elim world.tokens world.tokens.put).rows := by
  unfold VerificationWorld.writeTokens at htokens
  cases hcreated : writes.created with
  | none =>
      simp only [hcreated, Option.some.injEq] at htokens
      simp [← htokens]
  | some created =>
      simp only [hcreated] at htokens
      rw [(Table.insert?_eq_some_iff.mp htokens).2, List.mem_cons, Option.some.injEq,
        eq_comm]

/-- A transaction keeps the tokens of the other accounts. -/
theorem StagedWrites.mem_tokens_iff (h : StagedWrites world cached ownerId writes)
    (htokens : world.writeTokens writes = some tokens) {token : EmailVerificationToken}
    (hother : token.userId ≠ ownerId) : token ∈ tokens.rows ↔ token ∈ world.tokens.rows := by
  rw [mem_writeTokens_iff htokens]
  have hcreated : writes.created ≠ some token := by
    intro hsame
    exact hother (h.created_owner token hsame)
  cases hchanged : writes.changed with
  | none => simp [hcreated]
  | some changed =>
      obtain ⟨live, hlive, howner, _, hid, hchangedOwner⟩ := h.changed_live changed hchanged
      simp only [hcreated, false_or, Option.elim_some, Table.mem_put_iff]
      constructor
      · rintro (⟨rfl, _⟩ | ⟨hmem, _⟩)
        · exact absurd hchangedOwner hother
        · exact hmem
      · intro hmem
        refine Or.inr ⟨hmem, fun hsame => hother ?_⟩
        rw [Table.eq_of_key hmem hlive (hsame.trans hid), howner]

/-- A token which is not live stays as it is. -/
theorem StagedWrites.keeps_token (h : StagedWrites world cached ownerId writes)
    (htokens : world.writeTokens writes = some tokens) {token : EmailVerificationToken}
    (htoken : token ∈ world.tokens.rows) (hdone : token.isLive = false) :
    token ∈ tokens.rows := by
  rw [mem_writeTokens_iff htokens]
  apply Or.inr
  cases hchanged : writes.changed with
  | none => exact htoken
  | some changed =>
      obtain ⟨live, hlive, _, hisLive, hid, _⟩ := h.changed_live changed hchanged
      apply Table.mem_put_of_ne htoken
      intro hsame
      rw [Table.eq_of_key htoken hlive (hsame.trans hid), hisLive] at hdone
      exact absurd hdone (by simp)

/-- Staged writes stay valid while the account and its tokens stay. -/
theorem StagedWrites.frame (h : StagedWrites world cached ownerId writes)
    (hget : ∀ old, world.users.get? ownerId = some old → after.users.get? ownerId = some old)
    (htokens : ∀ token, token.userId = ownerId →
      (token ∈ after.tokens.rows ↔ token ∈ world.tokens.rows)) :
    StagedWrites after cached ownerId writes := by
  have hissue : ∀ target, IssuesFor world ownerId target writes →
      IssuesFor after ownerId target writes := by
    intro target hissues
    refine ⟨hissues.issued, fun token htoken => ?_, fun hnone token hmem howner => ?_⟩
    · obtain ⟨live, hmem, howner, hrest⟩ := hissues.superseded token htoken
      exact ⟨live, (htokens live howner).mpr hmem, howner, hrest⟩
    · exact hissues.none_live hnone token ((htokens token howner).mp hmem) howner
  cases h with
  | verified => exact .verified
  | requested hid haccount hissues => exact .requested hid haccount (hissue _ hissues)
  | changed hfound hid hstamp haccount hissues =>
      exact .changed (hget _ hfound) hid hstamp haccount (hissue _ hissues)
  | confirmed hid hfound htoken howner hlive hexpiry hsnapshot =>
      exact .confirmed hid (hget _ hfound) ((htokens _ howner).mpr htoken) howner hlive
        hexpiry hsnapshot

end Staged

section Steps

variable {world after : VerificationWorld} {request : Nat}

theorem EmailVerificationToken.not_isLive {token : EmailVerificationToken}
    (h : token.consumedAt.isSome = true) : token.isLive = false := by
  unfold EmailVerificationToken.isLive
  cases hconsumed : token.consumedAt with
  | none => simp [hconsumed] at h
  | some stamp => rfl

/-- The end of a transaction keeps the locks of the others. -/
theorem VerificationWorld.unlocked_of_ne {other userId : Nat} (hne : other ≠ request)
    (hlock : world.locks userId = some other) : world.unlocked request userId = some other := by
  rw [VerificationWorld.unlocked, if_neg, hlock]
  rw [hlock, Option.some.injEq]
  exact hne

/-- A step of one request keeps what the others have staged. -/
theorem VerificationFacts.phases_of (request : Nat) (h : VerificationFacts world)
    (hphases : ∀ other, other ≠ request → after.phase other = world.phase other)
    (hlocked : ∀ other userId, other ≠ request → world.locks userId = some other →
      after.locks userId = some other ∧
        (∀ old, world.users.get? userId = some old → after.users.get? userId = some old) ∧
          ∀ token, token.userId = userId →
            (token ∈ after.tokens.rows ↔ token ∈ world.tokens.rows))
    (hself : after.PhaseFacts request (after.phase request)) (other : Nat) :
    after.PhaseFacts other (after.phase other) := by
  by_cases hother : other = request
  · rw [hother]
    exact hself
  · rw [hphases other hother]
    have hfacts := h.phases other
    cases hphase : world.phase other with
    | idle => trivial
    | authenticated cached => trivial
    | found cached digest candidate => trivial
    | staged cached ownerId writes =>
        rw [hphase] at hfacts
        obtain ⟨hlock, hget, htokens⟩ := hlocked other ownerId hother hfacts.1
        exact ⟨hlock, hfacts.2.frame hget htokens⟩

/-- A step which only moves a request to another phase. -/
theorem VerificationFacts.setPhase (h : VerificationFacts world) {phase : VerificationPhase}
    (hphase : (world.setPhase request phase).PhaseFacts request phase) :
    VerificationFacts (world.setPhase request phase) := by
  refine ⟨h.stamped, h.phases_of request ?_ ?_ ?_⟩
  · intro other hother
    exact world.setPhase_phase_of_ne phase hother
  · intro other userId _ hlock
    exact ⟨hlock, fun _ hget => hget, fun _ _ => Iff.rfl⟩
  · rw [VerificationWorld.setPhase_phase_self]
    exact hphase

/-- The lock of a free account and the writes staged under it. -/
theorem VerificationFacts.stagedFor (h : VerificationFacts world) {cached : EmailAccount}
    {ownerId : Nat} {writes : VerificationWrites} (hfree : world.locks ownerId = none)
    (hwrites : StagedWrites world cached ownerId writes) :
    VerificationFacts (world.stagedFor request ownerId cached writes) := by
  refine ⟨h.stamped, h.phases_of request ?_ ?_ ?_⟩
  · intro other hother
    exact VerificationWorld.setPhase_phase_of_ne _ _ hother
  · intro other userId _ hlock
    refine ⟨?_, fun _ hget => hget, fun _ _ => Iff.rfl⟩
    have hne : userId ≠ ownerId := by
      intro hsame
      rw [hsame, hfree] at hlock
      exact absurd hlock (by simp)
    exact (Function.update_of_ne hne _ _).trans hlock
  · have hself : (world.stagedFor request ownerId cached writes).phase request =
        .staged cached ownerId writes := VerificationWorld.setPhase_phase_self _ _ _
    rw [hself]
    exact ⟨Function.update_self _ _ _, hwrites.frame (fun _ hget => hget) fun _ _ => Iff.rfl⟩

/-- The accounts after a transaction: an old one, or the staged version of the owner. -/
theorem StagedWrites.mem_users_cases {cached : EmailAccount} {ownerId : Nat}
    {writes : VerificationWrites} (h : StagedWrites world cached ownerId writes)
    {user : EmailAccount} (huser : user ∈ (writes.account.elim world.users world.users.put).rows) :
    writes.account = some user ∨ user ∈ world.users.rows := by
  cases haccount : writes.account with
  | none =>
      rw [haccount] at huser
      exact Or.inr huser
  | some staged =>
      rw [haccount] at huser
      obtain ⟨old, hget, hid⟩ := h.account_owner staged haccount
      rcases Table.mem_put_cases hid huser with rfl | ⟨hmem, _⟩
      · exact Or.inl rfl
      · exact Or.inr hmem

/-- A commit keeps what holds of a world. -/
theorem VerificationFacts.commit (h : VerificationFacts world) {cached : EmailAccount}
    {ownerId : Nat} {writes : VerificationWrites} {tokens : Table EmailVerificationToken}
    (hphase : world.phase request = .staged cached ownerId writes)
    (htokens : world.writeTokens writes = some tokens) :
    VerificationFacts (world.finished request
      (writes.account.elim world.users world.users.put) tokens writes.email) := by
  have hfacts := h.phases request
  rw [hphase] at hfacts
  obtain ⟨hlock, hstaged⟩ := hfacts
  refine ⟨fun user huser stamp hstamp => ?_, h.phases_of request ?_ ?_ ?_⟩
  · have hold : user ∈ world.users.rows → ∃ token ∈ tokens.rows, token.userId = user.id ∧
        token.emailSnapshot = user.email ∧ token.consumedAt = some stamp ∧
        token.supersededAt = none ∧ token.deletedAt = none ∧ stamp < token.expiresAt := by
      intro hmem
      obtain ⟨token, htoken, howner, hsnapshot, hconsumed, hrest⟩ :=
        h.stamped user hmem stamp hstamp
      have hdone : token.isLive = false := EmailVerificationToken.not_isLive (by simp [hconsumed])
      exact ⟨token, hstaged.keeps_token htokens htoken hdone, howner, hsnapshot, hconsumed, hrest⟩
    rcases hstaged.mem_users_cases huser with haccount | hmem
    · cases hstaged with
      | verified => exact absurd haccount (by simp)
      | requested _ hnone _ =>
          rw [hnone] at haccount
          exact absurd haccount (by simp)
      | changed _ _ hnone hsame _ =>
          rw [hsame] at haccount
          rw [← Option.some.inj haccount, hnone] at hstamp
          exact absurd hstamp (by simp)
      | @confirmed old token newStamp hid hget htoken howner hlive hexpiry hsnapshot =>
          obtain rfl := Option.some.inj haccount
          obtain rfl := Option.some.inj hstamp
          refine ⟨{ token with consumedAt := some newStamp }, ?_, ?_, hsnapshot, rfl, ?_, ?_,
            hexpiry⟩
          · exact (mem_writeTokens_iff htokens).mpr (Or.inr (Table.mem_put_self htoken rfl))
          · have holdId : old.id = ownerId := Table.get?_key hget
            exact howner.trans holdId.symm
          · simp only [EmailVerificationToken.isLive, Bool.and_eq_true,
              Option.isNone_iff_eq_none] at hlive
            exact hlive.1.2
          · simp only [EmailVerificationToken.isLive, Bool.and_eq_true,
              Option.isNone_iff_eq_none] at hlive
            exact hlive.2
    · exact hold hmem
  · intro other hother
    exact VerificationWorld.setPhase_phase_of_ne _ _ hother
  · intro other userId hother hheld
    have hne : userId ≠ ownerId := by
      intro hsame
      rw [hsame, hlock, Option.some.injEq] at hheld
      exact hother hheld.symm
    refine ⟨VerificationWorld.unlocked_of_ne hother hheld, ?_, fun token howner => ?_⟩
    · intro found hfound
      change (writes.account.elim world.users world.users.put).get? userId = _
      rw [← hfound]
      cases haccount : writes.account with
      | none => rfl
      | some staged =>
          obtain ⟨old, hget, hid⟩ := hstaged.account_owner staged haccount
          have holdId : old.id = ownerId := Table.get?_key hget
          exact Table.get?_put_of_ne fun hsame => hne (hsame.trans (hid.trans holdId))
    · exact hstaged.mem_tokens_iff htokens fun hsame => hne (howner.symm.trans hsame)
  · have hself : (world.finished request (writes.account.elim world.users world.users.put) tokens
        writes.email).phase request = .idle := VerificationWorld.setPhase_phase_self _ _ _
    rw [hself]
    trivial

/-- A step of the clock or of an account keeps what the requests have staged. -/
theorem VerificationFacts.phases_same (h : VerificationFacts world)
    (hphases : after.phase = world.phase) (hlocks : after.locks = world.locks)
    (htokens : after.tokens = world.tokens)
    (hget : ∀ userId other, world.locks userId = some other → ∀ old,
      world.users.get? userId = some old → after.users.get? userId = some old)
    (other : Nat) : after.PhaseFacts other (after.phase other) := by
  have hfacts := h.phases other
  rw [hphases]
  cases hphase : world.phase other with
  | idle => trivial
  | authenticated cached => trivial
  | found cached digest candidate => trivial
  | staged cached ownerId writes =>
      rw [hphase] at hfacts
      refine ⟨hlocks ▸ hfacts.1, hfacts.2.frame (hget ownerId other hfacts.1) ?_⟩
      intro token _
      rw [htokens]

/-- A change of an account by another transaction keeps its address and its stamp. -/
theorem VerificationFacts.alter (h : VerificationFacts world) {user old : EmailAccount}
    (hget : world.users.get? user.id = some old) (hemail : user.email = old.email)
    (hstamp : user.emailVerifiedAt = old.emailVerifiedAt)
    (hfree : world.locks user.id = none) :
    VerificationFacts { world with users := world.users.put user } := by
  have hid : user.id = old.id := (Table.get?_key hget).symm
  refine ⟨fun other hother stamp hother_stamp => ?_, h.phases_same rfl rfl rfl ?_⟩
  · rcases Table.mem_put_cases hid hother with rfl | ⟨hmem, _⟩
    · rw [hstamp] at hother_stamp
      rw [hid, hemail]
      exact h.stamped old (Table.get?_mem hget) stamp hother_stamp
    · exact h.stamped other hmem stamp hother_stamp
  · intro userId other hlock found hfound
    rw [← hfound]
    apply Table.get?_put_of_ne
    intro hsame
    rw [show userId = user.id from hsame, hfree] at hlock
    exact absurd hlock (by simp)

/-- A registration adds an account without a stamp. -/
theorem VerificationFacts.register (h : VerificationFacts world) {user : EmailAccount}
    {users : Table EmailAccount} (hunverified : user.emailVerifiedAt = none)
    (hinsert : world.users.insert? user = some users) :
    VerificationFacts { world with users := users } := by
  obtain ⟨hfresh, hrows⟩ := Table.insert?_eq_some_iff.mp hinsert
  refine ⟨fun other hother stamp hstamp => ?_, h.phases_same rfl rfl rfl ?_⟩
  · rcases List.mem_cons.mp (hrows ▸ hother) with rfl | hmem
    · rw [hunverified] at hstamp
      exact absurd hstamp (by simp)
    · exact h.stamped other hmem stamp hstamp
  · intro userId _ _ found hfound
    rw [← hfound, Table.get?_insert? hinsert, if_neg]
    intro hsame
    exact hfresh found (Table.get?_mem hfound) ((Table.get?_key hfound).trans hsame)

/-- The owner of a session's own row is the account which the session has loaded. -/
theorem sessionAccount_self {cached user : EmailAccount} {users : Table EmailAccount}
    (h : sessionAccount cached (users.get? cached.id) = some user) : user = cached := by
  simp only [sessionAccount, Option.map_eq_some_iff] at h
  obtain ⟨row, hrow, rfl⟩ := h
  have hid : row.id = cached.id := Table.get?_key hrow
  rw [if_pos hid]

/-- What a confirmation stages under the lock of the owner of its token. -/
theorem StagedWrites.of_confirm {cached : EmailAccount} {digest : List Byte}
    {candidate consumed : EmailVerificationToken} {writes : VerificationWrites}
    (hconsumed : consumeEmailVerificationToken digest
      (sessionAccount cached (world.users.get? candidate.userId))
      (world.tokens.get? candidate.id) world.now = .ok consumed)
    (hwrites : confirmEmailVerificationToken consumed cached.id
      (world.users.get? consumed.userId) world.now = .ok writes) :
    StagedWrites world cached candidate.userId writes := by
  obtain ⟨user, old, token, huser, hrow, hstored, howner, hcached, hlive, hexpiry, hsnapshot,
    rfl⟩ := confirmEmailVerificationToken_cases hconsumed hwrites
  obtain ⟨found, hfound, hid⟩ := sessionAccount_id huser
  have hfoundId : found.id = candidate.userId := Table.get?_key hfound
  have huserId : user.id = candidate.userId := hid.trans hfoundId
  have hconsumedId : consumed.userId = candidate.userId := by
    simp only [confirmEmailVerificationToken, except_bind_eq_ok_iff, ensure_eq_ok_iff] at hwrites
    obtain ⟨_, hexpected, _⟩ := hwrites
    rw [hexpected, hcached, huserId]
  rw [hconsumedId] at hrow
  exact .confirmed (hcached.trans huserId) hrow (Table.get?_mem hstored)
    (howner.trans huserId) hlive hexpiry hsnapshot

/-- A request which stops keeps what holds of a world. -/
theorem VerificationFacts.stop (h : VerificationFacts world) (request : Nat) :
    VerificationFacts (world.finished request world.users world.tokens none) := by
  refine ⟨h.stamped, h.phases_of request ?_ ?_ ?_⟩
  · intro other hother
    exact VerificationWorld.setPhase_phase_of_ne _ _ hother
  · intro other userId hother hheld
    exact ⟨VerificationWorld.unlocked_of_ne hother hheld, fun _ hget => hget,
      fun _ _ => Iff.rfl⟩
  · have hself : (world.finished request world.users world.tokens none).phase request = .idle :=
      VerificationWorld.setPhase_phase_self _ _ _
    rw [hself]
    trivial

/-- Every step keeps what holds of a world. -/
theorem VerificationFacts.step (h : VerificationFacts world) {label : VerificationLabel}
    (hstep : VerificationStep env world label after) : VerificationFacts after := by
  cases hstep with
  | tick => exact ⟨h.stamped, h.phases_same rfl rfl rfl fun _ _ _ _ hget => hget⟩
  | register hunverified _ hinsert => exact h.register hunverified hinsert
  | alter hget hemail hstamp hfree => exact h.alter hget hemail hstamp hfree
  | authenticate => exact h.setPhase trivial
  | find => exact h.setPhase trivial
  | @request _ _ cached writes hphase hfree _ hwrites =>
      apply h.stagedFor hfree
      obtain ⟨user, huser, hcases⟩ := requestEmailVerification_cases hwrites
      have hsame : user = cached := sessionAccount_self huser
      rcases hcases with ⟨rfl, _⟩ | ⟨_, haccount, hissues⟩
      · exact .verified
      · rw [hsame] at hissues
        exact .requested rfl haccount hissues
  | @change _ _ _ _ cached writes hphase hfree _ hwrites =>
      apply h.stagedFor hfree
      obtain ⟨old, user, hget, hid, hstamp, haccount, hissues⟩ :=
        changeCurrentUserEmail_cases hwrites
      have holdId : old.id = cached.id := Table.get?_key hget
      rw [hid, holdId] at hissues
      exact .changed hget (hid.trans holdId) hstamp haccount hissues
  | confirm _ hfree hconsumed hwrites =>
      exact h.stagedFor hfree (.of_confirm hconsumed hwrites)
  | commit hphase _ _ htokens => exact h.commit hphase htokens
  | stop => exact h.stop _

theorem VerificationFacts.initial (h : world.Initial) : VerificationFacts world := by
  obtain ⟨hstamps, _, _, _, hidle⟩ := h
  constructor
  · intro user huser stamp hstamp
    rw [hstamps user huser] at hstamp
    exact absurd hstamp (by simp)
  · intro request
    rw [hidle request]
    trivial

theorem VerificationFacts.reached (h : world.Reached env) : VerificationFacts world := by
  refine Reaches.invariant ?_ ?_ h
  · intro world hinitial
    exact .initial hinitial
  · intro world label after hfacts _ hstep
    exact hfacts.step hstep

/-- A step which keeps the accounts' addresses and stamps and every token. -/
theorem VerificationStepSafe.of_keeps {label : VerificationLabel}
    (husers : ∀ user ∈ after.users.rows, (user.emailVerifiedAt = none ∧
        ∀ old ∈ world.users.rows, old.id ≠ user.id) ∨
      ∃ old ∈ world.users.rows, old.id = user.id ∧ old.email = user.email ∧
        old.emailVerifiedAt = user.emailVerifiedAt)
    (htokens : ∀ token ∈ world.tokens.rows, token ∈ after.tokens.rows) :
    VerificationStepSafe world label after := by
  constructor
  · intro user huser stamp hstamp
    rcases husers user huser with ⟨hnone, _⟩ | ⟨old, hold, hid, hemail, hsame⟩
    · rw [hnone] at hstamp
      exact absurd hstamp (by simp)
    · exact Or.inl ⟨old, hold, hid, hemail, hsame.trans hstamp⟩
  · intro old hold user huser hid hemail
    rcases husers user huser with ⟨hnone, _⟩ | ⟨found, hfound, hfoundId, hsame, _⟩
    · exact hnone
    · rw [Table.eq_of_key hold hfound (hid.symm.trans hfoundId.symm)] at hemail
      exact absurd hsame.symm hemail
  · intro token htoken _
    exact htokens token htoken

/-- A commit sets a stamp with the consumption of its token only. -/
theorem VerificationFacts.commit_safe (h : VerificationFacts world) {cached : EmailAccount}
    {ownerId : Nat} {writes : VerificationWrites} {tokens : Table EmailVerificationToken}
    (hphase : world.phase request = .staged cached ownerId writes)
    (htokens : world.writeTokens writes = some tokens) :
    VerificationStepSafe world (.commit request) (world.finished request
      (writes.account.elim world.users world.users.put) tokens writes.email) := by
  have hfacts := h.phases request
  rw [hphase] at hfacts
  have hstaged := hfacts.2
  constructor
  · intro user huser stamp hstamp
    rcases hstaged.mem_users_cases huser with haccount | hmem
    · cases hstaged with
      | verified => exact absurd haccount (by simp)
      | requested _ hnone _ =>
          rw [hnone] at haccount
          exact absurd haccount (by simp)
      | changed _ _ hnone hsame _ =>
          rw [hsame] at haccount
          rw [← Option.some.inj haccount, hnone] at hstamp
          exact absurd hstamp (by simp)
      | @confirmed old token newStamp hid hget htoken howner hlive hexpiry hsnapshot =>
          obtain rfl := Option.some.inj haccount
          obtain rfl := Option.some.inj hstamp
          have holdId : old.id = ownerId := Table.get?_key hget
          have hconsumed : { token with consumedAt := some newStamp } ∈ tokens.rows :=
            (mem_writeTokens_iff htokens).mpr (Or.inr (Table.mem_put_self htoken rfl))
          rw [← holdId] at hphase
          exact Or.inr ⟨request, cached, _, old, token, rfl, hphase, hid.trans holdId.symm,
            Table.get?_mem hget, rfl, rfl, htoken, howner.trans holdId.symm, hlive, hexpiry,
            hsnapshot, hconsumed⟩
    · exact Or.inl ⟨user, hmem, rfl, rfl, hstamp⟩
  · intro old hold user huser hid hemail
    rcases hstaged.mem_users_cases huser with haccount | hmem
    · cases hstaged with
      | verified => exact absurd haccount (by simp)
      | requested _ hnone _ =>
          rw [hnone] at haccount
          exact absurd haccount (by simp)
      | changed _ _ hnone hsame _ =>
          rw [hsame] at haccount
          rw [← Option.some.inj haccount, hnone]
      | @confirmed found token newStamp _ hget _ _ _ _ _ =>
          obtain rfl := Option.some.inj haccount
          have hsame : found = old := Table.eq_of_key (Table.get?_mem hget) hold hid
          rw [← hsame] at hemail
          exact absurd rfl hemail
    · rw [Table.eq_of_key hmem hold hid] at hemail
      exact absurd rfl hemail
  · intro token htoken hconsumed
    exact hstaged.keeps_token htokens htoken (EmailVerificationToken.not_isLive hconsumed)

/-- Every step from a reached world is safe. -/
theorem VerificationFacts.step_safe (h : VerificationFacts world) {label : VerificationLabel}
    (hstep : VerificationStep env world label after) :
    VerificationStepSafe world label after := by
  have hsame : after.users = world.users → after.tokens = world.tokens →
      VerificationStepSafe world label after := by
    intro husers htokens
    apply VerificationStepSafe.of_keeps
    · intro user huser
      exact Or.inr ⟨user, husers ▸ huser, rfl, rfl, rfl⟩
    · intro token htoken
      rw [htokens]
      exact htoken
  cases hstep with
  | tick => exact hsame rfl rfl
  | @register user users hunverified _ hinsert =>
      obtain ⟨hfresh, hrows⟩ := Table.insert?_eq_some_iff.mp hinsert
      apply VerificationStepSafe.of_keeps
      · intro other hother
        rcases List.mem_cons.mp (hrows ▸ hother) with rfl | hmem
        · exact Or.inl ⟨hunverified, hfresh⟩
        · exact Or.inr ⟨other, hmem, rfl, rfl, rfl⟩
      · intro token htoken
        exact htoken
  | @alter user old hget hemail hstamp _ =>
      have hid : user.id = old.id := (Table.get?_key hget).symm
      apply VerificationStepSafe.of_keeps
      · intro other hother
        rcases Table.mem_put_cases hid hother with rfl | ⟨hmem, _⟩
        · exact Or.inr ⟨old, Table.get?_mem hget, hid.symm, hemail.symm, hstamp.symm⟩
        · exact Or.inr ⟨other, hmem, rfl, rfl, rfl⟩
      · intro token htoken
        exact htoken
  | authenticate => exact hsame rfl rfl
  | request => exact hsame rfl rfl
  | change => exact hsame rfl rfl
  | find => exact hsame rfl rfl
  | confirm => exact hsame rfl rfl
  | commit hphase _ _ htokens => exact h.commit_safe hphase htokens
  | stop => exact hsame rfl rfl

end Steps

/-- Whatever requests, changes and confirmations interleave: a stamp stands for a consumed
token of the account's address, a step sets it only with that consumption, a change of the
address clears it, and a consumed token stays as it is. -/
theorem email_verification_sound (env : VerificationEnvironment) :
    ∀ world, world.Reached env → EmailVerificationSafe env world := by
  intro world hreached
  have hfacts := VerificationFacts.reached hreached
  refine ⟨hfacts.stamped, fun label after hstep => ?_⟩
  exact hfacts.step_safe hstep

section ConfirmedRun

/-- Passwords and tokens which are kept as they are. -/
def plainEnvironment : VerificationEnvironment where
  digest := id
  verifyPassword := fun password passwordHash => password == passwordHash

def newStudent : EmailAccount :=
  ⟨1, "student@vgu.edu.vn", "secret", .user, true, none, false, none⟩

def unverifiedWorld : VerificationWorld where
  users := ⟨[newStudent], by decide⟩
  tokens := Table.empty
  emails := []
  now := 0
  locks := fun _ => none
  phase := fun _ => .idle

theorem unverifiedWorld_reached : unverifiedWorld.Reached plainEnvironment :=
  Reaches.start ⟨by decide, rfl, rfl, fun _ => rfl, fun _ => rfl⟩

def firstDraw : VerificationDraw := ⟨1, List.replicate 32 0, 0⟩

def firstTokenText : String := String.ofList (List.replicate 43 'A')

def stampedStudent : EmailAccount := { newStudent with emailVerifiedAt := some 0 }

/-- A student requests a token, comes back with it and confirms the address. -/
theorem stamped_reached : ∃ world : VerificationWorld, world.Reached plainEnvironment ∧
    world.users.rows = [stampedStudent] := by
  have hauthenticate := unverifiedWorld_reached.next trivial
    (VerificationStep.authenticate rfl rfl (by decide) :
      VerificationStep plainEnvironment unverifiedWorld (.authenticate 0 1) _)
  have hrequest := hauthenticate.next trivial
    (VerificationStep.request (VerificationWorld.setPhase_phase_self _ _ _) rfl rfl rfl :
      VerificationStep plainEnvironment _ (.request 0 firstDraw) _)
  have hissued := hrequest.next trivial
    (VerificationStep.commit (VerificationWorld.setPhase_phase_self _ _ _) (by simp) (by decide)
      rfl : VerificationStep plainEnvironment _ (.commit 0) _)
  have hreturned := hissued.next trivial
    (VerificationStep.authenticate (VerificationWorld.setPhase_phase_self _ _ _) rfl
      (by decide) : VerificationStep plainEnvironment _ (.authenticate 0 1) _)
  have hdigest : digestEmailVerificationToken plainEnvironment firstTokenText =
      some (List.replicate 32 0) := by decide +kernel
  have hfind := hreturned.next trivial
    (VerificationStep.find (VerificationWorld.setPhase_phase_self _ _ _) hdigest
      (by simp only [findEmailVerificationToken, hdigest]; rfl) :
      VerificationStep plainEnvironment _ (.find 0 firstTokenText) _)
  have hconfirm := hfind.next trivial
    (VerificationStep.confirm (VerificationWorld.setPhase_phase_self _ _ _) rfl rfl rfl :
      VerificationStep plainEnvironment _ (.confirm 0) _)
  have hstamped := hconfirm.next trivial
    (VerificationStep.commit (VerificationWorld.setPhase_phase_self _ _ _) (by decide)
      (by simp) rfl : VerificationStep plainEnvironment _ (.commit 0) _)
  exact ⟨_, hstamped, rfl⟩

/-- A run with a stamped account is safe. -/
theorem confirmed_student_safe : ∃ world : VerificationWorld,
    world.users.rows = [stampedStudent] ∧ EmailVerificationSafe plainEnvironment world := by
  obtain ⟨world, hreached, husers⟩ := stamped_reached
  exact ⟨world, husers, email_verification_sound plainEnvironment world hreached⟩

end ConfirmedRun

end BuddyWeb
