/-
The address which a verification reaches: while no request for an e-mail holds an address
older than the one of its account, the live token and the newest e-mail of an account carry
its current address.
-/
import BuddyWeb.Auth.VerificationSafety

namespace BuddyWeb

variable {env : VerificationEnvironment} {world after : VerificationWorld} {request : Nat}

/-- The newest queued e-mail of an account. -/
def VerificationWorld.newestEmail (world : VerificationWorld) (userId : Nat) :
    Option VerificationEmail :=
  world.emails.find? fun email => email.recipientUserId = userId

/-- One live token and the newest e-mail, both for the current address of the account. -/
structure CurrentTarget (world : VerificationWorld) (user : EmailAccount) : Prop where
  single : ∀ first ∈ world.tokens.rows, ∀ second ∈ world.tokens.rows,
    first.userId = user.id → second.userId = user.id → first.isLive = true →
      second.isLive = true → first = second
  active : ∀ token ∈ world.tokens.rows, token.userId = user.id → token.isLive = true →
    token.emailSnapshot = user.email
  newest : ∀ email ∈ world.newestEmail user.id, email.recipientEmail = user.email ∧
    ∃ token ∈ world.tokens.rows, token.id = email.aggregateId ∧ token.userId = user.id ∧
      token.supersededAt = none ∧ token.deletedAt = none ∧ token.emailSnapshot = user.email

/-- A request for an e-mail for an unverified account locks the account row while the row
still has the address which the authentication of the request loaded. -/
def RequestsCurrentAddress (world : VerificationWorld) : VerificationLabel → Prop
  | .request request _ => ∀ cached row, world.phase request = .authenticated cached →
      cached.isCurrentEmailVerified = false → world.users.get? cached.id = some row →
        row.email = cached.email
  | _ => True

/-- What a request has staged fits the account row which it has locked. -/
def VerificationWorld.StagedTarget (world : VerificationWorld) : VerificationPhase → Prop
  | .staged cached ownerId writes => ∃ row, world.users.get? ownerId = some row ∧
      (writes.account = none → writes.created.isSome = true → row.email = cached.email)
  | _ => True

structure TargetFacts (world : VerificationWorld) : Prop where
  base : VerificationFacts world
  owned : ∀ token ∈ world.tokens.rows, ∃ user, world.users.get? token.userId = some user
  addressed : ∀ email ∈ world.emails, ∃ user, world.users.get? email.recipientUserId = some user
  targets : ∀ user ∈ world.users.rows, CurrentTarget world user
  staged : ∀ request, world.StagedTarget (world.phase request)

section Targets

variable {cached user : EmailAccount} {ownerId : Nat} {writes : VerificationWrites}
  {tokens : Table EmailVerificationToken}

/-- The target of an account depends on its tokens and its newest e-mail only. -/
theorem CurrentTarget.frame (h : CurrentTarget world user)
    (htokens : ∀ token, token.userId = user.id →
      (token ∈ after.tokens.rows ↔ token ∈ world.tokens.rows))
    (hemails : after.newestEmail user.id = world.newestEmail user.id) :
    CurrentTarget after user := by
  constructor
  · intro first hfirst second hsecond hfirstOwner hsecondOwner
    exact h.single first ((htokens first hfirstOwner).mp hfirst) second
      ((htokens second hsecondOwner).mp hsecond) hfirstOwner hsecondOwner
  · intro token htoken howner
    exact h.active token ((htokens token howner).mp htoken) howner
  · intro email hemail
    rw [hemails] at hemail
    obtain ⟨haddress, token, htoken, hid, howner, hrest⟩ := h.newest email hemail
    exact ⟨haddress, token, (htokens token howner).mpr htoken, hid, howner, hrest⟩

/-- The same target for another version of the account with the same address. -/
theorem CurrentTarget.of_same_address {old : EmailAccount} (h : CurrentTarget world old)
    (hid : user.id = old.id) (hemail : user.email = old.email) : CurrentTarget world user := by
  constructor
  · rw [hid]
    exact h.single
  · rw [hid, hemail]
    exact h.active
  · rw [hid, hemail]
    exact h.newest

/-- Without a token and an e-mail there is nothing to reach. -/
theorem CurrentTarget.of_none (htokens : ∀ token ∈ world.tokens.rows, token.userId ≠ user.id)
    (hemails : ∀ email ∈ world.emails, email.recipientUserId ≠ user.id) :
    CurrentTarget world user := by
  constructor
  · intro first hfirst _ _ howner
    exact absurd howner (htokens first hfirst)
  · intro token htoken howner
    exact absurd howner (htokens token htoken)
  · intro email hemail
    have howner := List.find?_some hemail
    simp only [decide_eq_true_eq] at howner
    exact absurd howner (hemails email (List.mem_of_find?_eq_some hemail))

/-- After an issue the only live token of the owner is the new one. -/
theorem IssuesFor.live_eq {target : String} (h : IssuesFor world ownerId target writes)
    (hsingle : ∀ first ∈ world.tokens.rows, ∀ second ∈ world.tokens.rows,
      first.userId = ownerId → second.userId = ownerId → first.isLive = true →
        second.isLive = true → first = second)
    (htokens : world.writeTokens writes = some tokens) {token : EmailVerificationToken}
    (htoken : token ∈ tokens.rows) (howner : token.userId = ownerId)
    (hlive : token.isLive = true) : writes.created = some token := by
  rcases (mem_writeTokens_iff htokens).mp htoken with hcreated | hmem
  · exact hcreated
  · cases hchanged : writes.changed with
    | none =>
        rw [hchanged] at hmem
        have hdone := h.none_live hchanged token hmem howner
        rw [hlive] at hdone
        exact absurd hdone (by simp)
    | some changed =>
        rw [hchanged] at hmem
        obtain ⟨live, hold, holdOwner, holdLive, stamp, rfl⟩ := h.superseded changed hchanged
        rcases Table.mem_put_iff.mp hmem with ⟨rfl, _⟩ | ⟨hkept, hne⟩
        · exact absurd hlive (by simp [EmailVerificationToken.isLive])
        · have hsame := hsingle token hkept live hold howner holdOwner hlive holdLive
          exact absurd (congrArg EmailVerificationToken.id hsame) hne

/-- An issue for the current address reaches it. -/
theorem IssuesFor.currentTarget {row : EmailAccount}
    (h : IssuesFor world user.id user.email writes) (hrow : CurrentTarget world row)
    (hid : row.id = user.id) (htokens : world.writeTokens writes = some tokens)
    (hafter : after.tokens = tokens)
    (hemails : after.emails = writes.email.toList ++ world.emails) :
    CurrentTarget after user := by
  have hlive : ∀ token ∈ after.tokens.rows, token.userId = user.id → token.isLive = true →
      writes.created = some token := by
    intro token htoken howner hisLive
    rw [hafter] at htoken
    have hsingle := hrow.single
    rw [hid] at hsingle
    exact h.live_eq hsingle htokens htoken howner hisLive
  obtain ⟨created, email, hcreated, hemail, hnames, howner, hisLive, hsnapshot, hrecipient,
    haddress⟩ := h.issued
  constructor
  · intro first hfirst second hsecond hfirstOwner hsecondOwner hfirstLive hsecondLive
    have hboth := (hlive first hfirst hfirstOwner hfirstLive).symm.trans
      (hlive second hsecond hsecondOwner hsecondLive)
    exact Option.some.inj hboth
  · intro token htoken htokenOwner htokenLive
    have hsame := hlive token htoken htokenOwner htokenLive
    rw [hcreated, Option.some.injEq] at hsame
    rw [← hsame, hsnapshot]
  · intro newest hnewest
    have hhead : after.newestEmail user.id = some email := by
      simp [VerificationWorld.newestEmail, hemails, hemail, hrecipient]
    rw [hhead] at hnewest
    obtain rfl := Option.some.inj hnewest
    simp only [EmailVerificationToken.isLive, Bool.and_eq_true,
      Option.isNone_iff_eq_none] at hisLive
    refine ⟨haddress, created, ?_, hnames.symm, howner, hisLive.1.2, hisLive.2, hsnapshot⟩
    rw [hafter]
    exact (mem_writeTokens_iff htokens).mpr (Or.inl hcreated)

/-- The consumption of its live token leaves an account with its address. -/
theorem CurrentTarget.consumed {token : EmailVerificationToken} {stamp : Int}
    (h : CurrentTarget world user) (htoken : token ∈ world.tokens.rows)
    (howner : token.userId = user.id)
    (htokens : after.tokens = world.tokens.put { token with consumedAt := some stamp })
    (hemails : after.newestEmail user.id = world.newestEmail user.id) :
    CurrentTarget after user := by
  have hdone : EmailVerificationToken.isLive { token with consumedAt := some stamp } = false :=
    EmailVerificationToken.not_isLive rfl
  have hold : ∀ other ∈ after.tokens.rows, other.isLive = true → other ∈ world.tokens.rows := by
    intro other hother hotherLive
    rw [htokens] at hother
    rcases Table.mem_put_iff.mp hother with ⟨rfl, _⟩ | ⟨hmem, _⟩
    · rw [hdone] at hotherLive
      exact absurd hotherLive (by simp)
    · exact hmem
  constructor
  · intro first hfirst second hsecond hfirstOwner hsecondOwner hfirstLive hsecondLive
    exact h.single first (hold first hfirst hfirstLive) second (hold second hsecond hsecondLive)
      hfirstOwner hsecondOwner hfirstLive hsecondLive
  · intro other hother hotherOwner hotherLive
    exact h.active other (hold other hother hotherLive) hotherOwner hotherLive
  · intro email hemail
    rw [hemails] at hemail
    obtain ⟨haddress, named, hnamed, hid, hnamedOwner, hsuperseded, hdeleted, hsnapshot⟩ :=
      h.newest email hemail
    refine ⟨haddress, ?_⟩
    by_cases hsame : named.id = token.id
    · have heq : named = token := Table.eq_of_key hnamed htoken hsame
      rw [heq] at hid hsuperseded hdeleted hsnapshot
      refine ⟨{ token with consumedAt := some stamp }, ?_, hid, howner, hsuperseded, hdeleted,
        hsnapshot⟩
      rw [htokens]
      exact Table.mem_put_self htoken rfl
    · refine ⟨named, ?_, hid, hnamedOwner, hsuperseded, hdeleted, hsnapshot⟩
      rw [htokens]
      exact Table.mem_put_of_ne hnamed hsame

end Targets

section Steps

variable {cached : EmailAccount} {ownerId : Nat} {writes : VerificationWrites}
  {tokens : Table EmailVerificationToken}

theorem CurrentTarget.of_same_tables {user : EmailAccount} (h : CurrentTarget world user)
    (htokens : after.tokens = world.tokens) (hemails : after.emails = world.emails) :
    CurrentTarget after user := by
  apply h.frame
  · intro token _
    rw [htokens]
  · rw [VerificationWorld.newestEmail, VerificationWorld.newestEmail, hemails]

/-- What is staged fits its account row as long as the row stays. -/
theorem VerificationWorld.StagedTarget.frame {phase : VerificationPhase}
    (h : world.StagedTarget phase)
    (hget : ∀ cached ownerId writes, phase = .staged cached ownerId writes → ∀ row,
      world.users.get? ownerId = some row → after.users.get? ownerId = some row) :
    after.StagedTarget phase := by
  cases phase with
  | idle => trivial
  | authenticated cached => trivial
  | found cached digest candidate => trivial
  | staged cached ownerId writes =>
      obtain ⟨row, hrow, haddress⟩ := h
      exact ⟨row, hget cached ownerId writes rfl row hrow, haddress⟩

/-- A step which keeps the rows and moves one request to another phase. -/
theorem TargetFacts.of_same_rows (h : TargetFacts world) (hbase : VerificationFacts after)
    (husers : after.users = world.users) (htokens : after.tokens = world.tokens)
    (hemails : after.emails = world.emails) (request : Nat)
    (hphases : ∀ other, other ≠ request → after.phase other = world.phase other)
    (hself : world.StagedTarget (after.phase request)) : TargetFacts after := by
  refine ⟨hbase, ?_, ?_, ?_, ?_⟩
  · rw [husers, htokens]
    exact h.owned
  · rw [husers, hemails]
    exact h.addressed
  · intro user huser
    rw [husers] at huser
    exact (h.targets user huser).of_same_tables htokens hemails
  · intro other
    have hget : ∀ cached ownerId writes, after.phase other = .staged cached ownerId writes →
        ∀ row, world.users.get? ownerId = some row → after.users.get? ownerId = some row := by
      intro _ _ _ _ row hrow
      rw [husers]
      exact hrow
    by_cases hother : other = request
    · rw [hother] at hget ⊢
      exact VerificationWorld.StagedTarget.frame hself hget
    · rw [hphases other hother] at hget ⊢
      exact VerificationWorld.StagedTarget.frame (h.staged other) hget

theorem TargetFacts.setPhase (h : TargetFacts world) {phase : VerificationPhase}
    (hbase : VerificationFacts (world.setPhase request phase))
    (hself : world.StagedTarget phase) : TargetFacts (world.setPhase request phase) := by
  apply h.of_same_rows hbase rfl rfl rfl request
  · intro other hother
    exact world.setPhase_phase_of_ne phase hother
  · rw [VerificationWorld.setPhase_phase_self]
    exact hself

theorem TargetFacts.stagedFor (h : TargetFacts world)
    (hbase : VerificationFacts (world.stagedFor request ownerId cached writes))
    (hself : world.StagedTarget (.staged cached ownerId writes)) :
    TargetFacts (world.stagedFor request ownerId cached writes) := by
  apply h.of_same_rows hbase rfl rfl rfl request
  · intro other hother
    exact VerificationWorld.setPhase_phase_of_ne _ _ hother
  · have hphase : (world.stagedFor request ownerId cached writes).phase request =
        .staged cached ownerId writes := VerificationWorld.setPhase_phase_self _ _ _
    rw [hphase]
    exact hself

theorem TargetFacts.stop (h : TargetFacts world) (request : Nat) :
    TargetFacts (world.finished request world.users world.tokens none) := by
  apply h.of_same_rows (h.base.stop request) rfl rfl rfl request
  · intro other hother
    exact VerificationWorld.setPhase_phase_of_ne _ _ hother
  · have hphase : (world.finished request world.users world.tokens none).phase request = .idle :=
      VerificationWorld.setPhase_phase_self _ _ _
    rw [hphase]
    trivial

/-- A new account has no token and no e-mail. -/
theorem TargetFacts.register (h : TargetFacts world) {user : EmailAccount}
    {users : Table EmailAccount} (hbase : VerificationFacts { world with users := users })
    (hinsert : world.users.insert? user = some users) :
    TargetFacts { world with users := users } := by
  obtain ⟨hfresh, hrows⟩ := Table.insert?_eq_some_iff.mp hinsert
  have hnone : world.users.get? user.id = none := Table.get?_of_insert? hinsert
  have hkeep : ∀ userId row, world.users.get? userId = some row →
      users.get? userId = some row := by
    intro userId row hrow
    rw [Table.get?_insert? hinsert, if_neg, hrow]
    intro hsame
    exact hfresh row (Table.get?_mem hrow) ((Table.get?_key hrow).trans hsame)
  refine ⟨hbase, ?_, ?_, ?_, ?_⟩
  · intro token htoken
    obtain ⟨owner, howner⟩ := h.owned token htoken
    exact ⟨owner, hkeep _ _ howner⟩
  · intro email hemail
    obtain ⟨owner, howner⟩ := h.addressed email hemail
    exact ⟨owner, hkeep _ _ howner⟩
  · intro other hother
    rcases List.mem_cons.mp (hrows ▸ hother) with rfl | hmem
    · apply CurrentTarget.of_none
      · intro token htoken howner
        obtain ⟨owner, hget⟩ := h.owned token htoken
        rw [howner, hnone] at hget
        exact absurd hget (by simp)
      · intro email hemail howner
        obtain ⟨owner, hget⟩ := h.addressed email hemail
        rw [howner, hnone] at hget
        exact absurd hget (by simp)
    · exact (h.targets other hmem).of_same_tables rfl rfl
  · intro other
    apply VerificationWorld.StagedTarget.frame (h.staged other)
    intro _ userId _ _ row hrow
    exact hkeep userId row hrow

/-- A new version of an account keeps the accounts which exist. -/
theorem exists_get?_put {user old : EmailAccount} (hget : world.users.get? user.id = some old)
    {userId : Nat} (hexists : ∃ row, world.users.get? userId = some row) :
    ∃ row, (world.users.put user).get? userId = some row := by
  by_cases hsame : userId = user.id
  · rw [hsame]
    exact ⟨user, Table.put_get?_self (Table.get?_mem hget) (Table.get?_key hget).symm⟩
  · obtain ⟨row, hrow⟩ := hexists
    exact ⟨row, (Table.get?_put_of_ne hsame).trans hrow⟩

theorem TargetFacts.alter (h : TargetFacts world) {user old : EmailAccount}
    (hbase : VerificationFacts { world with users := world.users.put user })
    (hget : world.users.get? user.id = some old) (hemail : user.email = old.email)
    (hfree : world.locks user.id = none) :
    TargetFacts { world with users := world.users.put user } := by
  have hid : user.id = old.id := (Table.get?_key hget).symm
  refine ⟨hbase, ?_, ?_, ?_, ?_⟩
  · intro token htoken
    exact exists_get?_put hget (h.owned token htoken)
  · intro email hemailMem
    exact exists_get?_put hget (h.addressed email hemailMem)
  · intro other hother
    rcases Table.mem_put_cases hid hother with rfl | ⟨hmem, _⟩
    · have hold := (h.targets old (Table.get?_mem hget)).of_same_address hid hemail
      exact hold.of_same_tables rfl rfl
    · exact (h.targets other hmem).of_same_tables rfl rfl
  · intro other
    apply VerificationWorld.StagedTarget.frame (h.staged other)
    intro cached ownerId writes hphase row hrow
    have hlock := h.base.phases other
    rw [hphase] at hlock
    rw [← hrow]
    apply Table.get?_put_of_ne
    intro hsame
    rw [show ownerId = user.id from hsame] at hlock
    rw [hlock.1] at hfree
    exact absurd hfree (by simp)

/-- A transaction which issues nothing queues no e-mail. -/
theorem StagedWrites.email_owner (h : StagedWrites world cached ownerId writes) :
    ∀ email ∈ writes.email, email.recipientUserId = ownerId := by
  intro email hemail
  cases h with
  | verified => exact absurd hemail (by simp)
  | requested _ _ hissues =>
      obtain ⟨_, queued, _, hqueued, _, _, _, _, howner, _⟩ := hissues.issued
      rw [hqueued] at hemail
      rw [← Option.some.inj hemail, howner]
  | changed _ _ _ _ hissues =>
      obtain ⟨_, queued, _, hqueued, _, _, _, _, howner, _⟩ := hissues.issued
      rw [hqueued] at hemail
      rw [← Option.some.inj hemail, howner]
  | confirmed => exact absurd hemail (by simp)

/-- A transaction keeps the newest e-mail of the other accounts. -/
theorem StagedWrites.newestEmail_of_ne (h : StagedWrites world cached ownerId writes)
    (hafter : after.emails = writes.email.toList ++ world.emails) {userId : Nat}
    (hother : userId ≠ ownerId) : after.newestEmail userId = world.newestEmail userId := by
  rw [VerificationWorld.newestEmail, VerificationWorld.newestEmail, hafter]
  cases hemail : writes.email with
  | none => rfl
  | some email =>
      have howner := h.email_owner email hemail
      simp [howner, Ne.symm hother]

/-- A commit reaches the current address of its account. -/
theorem TargetFacts.commit_owner (h : TargetFacts world)
    (hstaged : StagedWrites world cached ownerId writes)
    (htarget : world.StagedTarget (.staged cached ownerId writes))
    (htokens : world.writeTokens writes = some tokens) {user : EmailAccount}
    (huser : user ∈ (writes.account.elim world.users world.users.put).rows)
    (hid : user.id = ownerId) (hafterTokens : after.tokens = tokens)
    (hafterEmails : after.emails = writes.email.toList ++ world.emails) :
    CurrentTarget after user := by
  obtain ⟨row, hrow, haddress⟩ := htarget
  have hrowId : row.id = ownerId := Table.get?_key hrow
  have hrowTarget := h.targets row (Table.get?_mem hrow)
  cases hstaged with
  | verified =>
      have hsame : tokens = world.tokens := (Option.some.inj htokens).symm
      have hmem : user ∈ world.users.rows := huser
      exact (h.targets user hmem).of_same_tables (hafterTokens.trans hsame) hafterEmails
  | requested hcached haccount hissues =>
      rw [haccount] at huser
      have heq : user = row :=
        Table.eq_of_key huser (Table.get?_mem hrow) (hid.trans hrowId.symm)
      obtain ⟨created, _, hcreated, _⟩ := hissues.issued
      have hemail : row.email = cached.email := haddress haccount (by simp [hcreated])
      rw [← hrowId, ← hemail] at hissues
      rw [heq]
      exact hissues.currentTarget hrowTarget rfl htokens hafterTokens hafterEmails
  | @changed _ _ staged _ hstagedId _ haccount hissues =>
      rw [haccount] at huser
      have heq : user = staged := by
        rcases Table.mem_put_iff.mp huser with ⟨hsame, _⟩ | ⟨_, hne⟩
        · exact hsame
        · exact absurd (hid.trans hstagedId.symm) hne
      rw [← heq, ← hid] at hissues
      exact hissues.currentTarget hrowTarget (hrowId.trans hid.symm) htokens hafterTokens
        hafterEmails
  | @confirmed old token stamp _ hget htoken howner _ _ _ =>
      have holdId : old.id = ownerId := Table.get?_key hget
      have heq : user = { old with emailVerifiedAt := some stamp } := by
        rcases Table.mem_put_iff.mp huser with ⟨hsame, _⟩ | ⟨_, hne⟩
        · exact hsame
        · exact absurd (hid.trans holdId.symm) hne
      have hold := h.targets old (Table.get?_mem hget)
      have hconsumed := hold.consumed htoken (howner.trans holdId.symm)
        (hafterTokens.trans (Option.some.inj htokens).symm)
        (by rw [VerificationWorld.newestEmail, hafterEmails]; rfl)
      rw [heq]
      exact hconsumed.of_same_address rfl rfl

/-- The accounts which exist after a transaction. -/
theorem StagedWrites.exists_get? (h : StagedWrites world cached ownerId writes) {userId : Nat}
    (hexists : ∃ row, world.users.get? userId = some row) :
    ∃ row, (writes.account.elim world.users world.users.put).get? userId = some row := by
  cases haccount : writes.account with
  | none => exact hexists
  | some staged =>
      obtain ⟨old, hget, hid⟩ := h.account_owner staged haccount
      have holdId : old.id = ownerId := Table.get?_key hget
      rw [← holdId, ← hid] at hget
      exact exists_get?_put hget hexists

theorem TargetFacts.commit (h : TargetFacts world)
    (hphase : world.phase request = .staged cached ownerId writes)
    (htokens : world.writeTokens writes = some tokens) :
    TargetFacts (world.finished request (writes.account.elim world.users world.users.put)
      tokens writes.email) := by
  have hfacts := h.base.phases request
  have htarget := h.staged request
  rw [hphase] at hfacts htarget
  obtain ⟨hlock, hstaged⟩ := hfacts
  have hrow : ∃ row, world.users.get? ownerId = some row := by
    obtain ⟨row, hget, _⟩ := htarget
    exact ⟨row, hget⟩
  refine ⟨h.base.commit hphase htokens, ?_, ?_, ?_, ?_⟩
  · intro token htoken
    apply hstaged.exists_get?
    rcases (mem_writeTokens_iff htokens).mp htoken with hcreated | hmem
    · rw [hstaged.created_owner token hcreated]
      exact hrow
    · cases hchanged : writes.changed with
      | none =>
          rw [hchanged] at hmem
          exact h.owned token hmem
      | some changed =>
          rw [hchanged] at hmem
          rcases Table.mem_put_iff.mp hmem with ⟨rfl, _⟩ | ⟨hkept, _⟩
          · obtain ⟨_, _, _, _, _, howner⟩ := hstaged.changed_live token hchanged
            rw [howner]
            exact hrow
          · exact h.owned token hkept
  · intro email hemail
    apply hstaged.exists_get?
    rcases List.mem_append.mp hemail with hqueued | hmem
    · rw [hstaged.email_owner email (Option.mem_toList.mp hqueued)]
      exact hrow
    · exact h.addressed email hmem
  · intro user huser
    by_cases hid : user.id = ownerId
    · exact h.commit_owner hstaged htarget htokens huser hid rfl rfl
    · have hmem : user ∈ world.users.rows := by
        rcases hstaged.mem_users_cases huser with haccount | hmem
        · obtain ⟨old, hget, hsame⟩ := hstaged.account_owner user haccount
          exact absurd (hsame.trans (Table.get?_key hget)) hid
        · exact hmem
      apply (h.targets user hmem).frame
      · intro token howner
        exact hstaged.mem_tokens_iff htokens fun hsame => hid (howner.symm.trans hsame)
      · exact hstaged.newestEmail_of_ne rfl hid
  · intro other
    by_cases hother : other = request
    · have hidle : (world.finished request (writes.account.elim world.users world.users.put)
          tokens writes.email).phase other = .idle := by
        rw [hother]
        exact VerificationWorld.setPhase_phase_self _ _ _
      rw [hidle]
      trivial
    · have hsame : (world.finished request (writes.account.elim world.users world.users.put)
          tokens writes.email).phase other = world.phase other :=
        VerificationWorld.setPhase_phase_of_ne _ _ hother
      rw [hsame]
      apply VerificationWorld.StagedTarget.frame (h.staged other)
      intro otherCached otherOwner otherWrites hotherPhase row hget
      have hotherFacts := h.base.phases other
      rw [hotherPhase] at hotherFacts
      have hne : otherOwner ≠ ownerId := by
        intro howner
        have hheld := hotherFacts.1
        rw [howner, hlock] at hheld
        exact hother (Option.some.inj hheld).symm
      change (writes.account.elim world.users world.users.put).get? otherOwner = some row
      rw [← hget]
      cases haccount : writes.account with
      | none => rfl
      | some staged =>
          obtain ⟨old, hold, hid⟩ := hstaged.account_owner staged haccount
          have holdId : old.id = ownerId := Table.get?_key hold
          exact Table.get?_put_of_ne fun hkey => hne (hkey.trans (hid.trans holdId))

/-- Every step keeps the targets when a request has the current address. -/
theorem TargetFacts.step (h : TargetFacts world) {label : VerificationLabel}
    (hcurrent : RequestsCurrentAddress world label)
    (hstep : VerificationStep env world label after) : TargetFacts after := by
  have hbase := h.base.step hstep
  cases hstep with
  | tick => exact ⟨hbase, h.owned, h.addressed,
      fun user huser => (h.targets user huser).of_same_tables rfl rfl, h.staged⟩
  | register _ _ hinsert => exact h.register hbase hinsert
  | alter hget hemail _ hfree => exact h.alter hbase hget hemail hfree
  | authenticate => exact h.setPhase hbase trivial
  | find => exact h.setPhase hbase trivial
  | @request _ _ cached writes hphase hfree _ hwrites =>
      apply h.stagedFor hbase
      obtain ⟨user, huser, hcases⟩ := requestEmailVerification_cases hwrites
      obtain ⟨row, hrow, _⟩ := sessionAccount_id huser
      refine ⟨row, hrow, fun _ hcreated => ?_⟩
      rcases hcases with ⟨rfl, _⟩ | ⟨hunverified, _⟩
      · exact absurd hcreated (by simp)
      · rw [sessionAccount_self huser] at hunverified
        exact hcurrent cached row hphase hunverified hrow
  | @change _ _ _ _ cached writes hphase hfree _ hwrites =>
      apply h.stagedFor hbase
      obtain ⟨old, user, hget, _, _, haccount, _⟩ := changeCurrentUserEmail_cases hwrites
      refine ⟨old, hget, fun hnone => ?_⟩
      rw [haccount] at hnone
      exact absurd hnone (by simp)
  | @confirm _ cached digest candidate consumed writes _ hfree hconsumed hwrites =>
      apply h.stagedFor hbase
      obtain ⟨user, old, token, huser, _, _, _, _, _, _, _, rfl⟩ :=
        confirmEmailVerificationToken_cases hconsumed hwrites
      obtain ⟨row, hrow, _⟩ := sessionAccount_id huser
      refine ⟨row, hrow, fun hnone => ?_⟩
      exact absurd hnone (by simp)
  | commit hphase _ _ htokens => exact h.commit hphase htokens
  | stop => exact h.stop _

end Steps

theorem TargetFacts.initial (h : world.Initial) : TargetFacts world := by
  have hbase := VerificationFacts.initial h
  obtain ⟨_, htokens, hemails, _, hidle⟩ := h
  refine ⟨hbase, ?_, ?_, ?_, ?_⟩
  · rw [htokens]
    intro token htoken
    exact absurd htoken (by simp)
  · rw [hemails]
    intro email hemail
    exact absurd hemail (by simp)
  · intro user _
    apply CurrentTarget.of_none
    · rw [htokens]
      intro token htoken
      exact absurd htoken (by simp)
    · rw [hemails]
      intro email hemail
      exact absurd hemail (by simp)
  · intro request
    rw [hidle request]
    trivial

/-- A request which holds an older address supersedes the target of its account. -/
theorem stale_request_misses {cached row : EmailAccount} {ownerId : Nat}
    {writes : VerificationWrites} {tokens : Table EmailVerificationToken}
    (hissues : IssuesFor world ownerId cached.email writes)
    (htokens : world.writeTokens writes = some tokens) (hrow : row.id = ownerId)
    (hstale : row.email ≠ cached.email) (users : Table EmailAccount) :
    ¬ CurrentTarget (world.finished request users tokens writes.email) row := by
  intro htarget
  obtain ⟨created, _, hcreated, _, _, howner, hlive, hsnapshot, _⟩ := hissues.issued
  have hmem : created ∈ tokens.rows := (mem_writeTokens_iff htokens).mpr (Or.inl hcreated)
  have haddress := htarget.active created hmem (howner.trans hrow.symm) hlive
  exact hstale (haddress.symm.trans hsnapshot)

/-- In every run whose requests for an e-mail hold the current address of their account, the
live token and the newest e-mail of every account carry its current address. -/
theorem verification_targets_current (env : VerificationEnvironment) :
    ∀ world, Reaches VerificationWorld.Initial (VerificationStep env) RequestsCurrentAddress
      world → ∀ user ∈ world.users.rows, CurrentTarget world user := by
  intro world hreached
  have hfacts : TargetFacts world := by
    refine Reaches.invariant ?_ ?_ hreached
    · intro world hinitial
      exact .initial hinitial
    · intro world label after hfacts hcurrent hstep
      exact hfacts.step hcurrent hstep
  exact hfacts.targets

section StaleRequest

def firstToken : EmailVerificationToken :=
  ⟨1, 1, List.replicate 32 0, "student@vgu.edu.vn", emailVerificationTokenTtl, none, none, none,
    0⟩

/-- After one request the token and the e-mail are for the address of the student. -/
theorem requested_target_current : ∃ world : VerificationWorld,
    world.tokens.rows = [firstToken] ∧ ∀ user ∈ world.users.rows, CurrentTarget world user := by
  have hstart : Reaches VerificationWorld.Initial (VerificationStep plainEnvironment)
      RequestsCurrentAddress unverifiedWorld :=
    Reaches.start ⟨by decide, rfl, rfl, fun _ => rfl, fun _ => rfl⟩
  have hauthenticate := hstart.next
    (show RequestsCurrentAddress _ (.authenticate 0 1) from trivial)
    (VerificationStep.authenticate rfl rfl (by decide) :
      VerificationStep plainEnvironment unverifiedWorld (.authenticate 0 1) _)
  have hrequest := hauthenticate.next
    (by
      intro cached row hphase _ hget
      rw [VerificationWorld.setPhase_phase_self] at hphase
      obtain rfl := (VerificationPhase.authenticated.inj hphase).symm
      exact congrArg EmailAccount.email (Option.some.inj hget).symm)
    (VerificationStep.request (VerificationWorld.setPhase_phase_self _ _ _) rfl rfl rfl :
      VerificationStep plainEnvironment _ (.request 0 firstDraw) _)
  have hcommit := hrequest.next (show RequestsCurrentAddress _ (.commit 0) from trivial)
    (VerificationStep.commit (VerificationWorld.setPhase_phase_self _ _ _) (by simp) (by decide)
      rfl : VerificationStep plainEnvironment _ (.commit 0) _)
  exact ⟨_, rfl, verification_targets_current plainEnvironment _ hcommit⟩

def newAddress : String := "new@vgu.edu.vn"

def secondDraw : VerificationDraw := ⟨2, List.replicate 32 1, 0⟩

/-- Two sessions load the account; the one changes the address, then the other requests an
e-mail, which goes to the old address. -/
theorem stale_request_supersedes :
    ¬ ∀ world : VerificationWorld, world.Reached plainEnvironment →
      ∀ user ∈ world.users.rows, CurrentTarget world user := by
  intro hclaim
  have hfirst := unverifiedWorld_reached.next trivial
    (VerificationStep.authenticate rfl rfl (by decide) :
      VerificationStep plainEnvironment unverifiedWorld (.authenticate 0 1) _)
  have hsecond := hfirst.next trivial
    (VerificationStep.authenticate rfl rfl (by decide) :
      VerificationStep plainEnvironment _ (.authenticate 1 1) _)
  have hchange := hsecond.next trivial
    (VerificationStep.change rfl rfl rfl rfl :
      VerificationStep plainEnvironment _ (.change 0 newAddress "secret" firstDraw) _)
  have hchanged := hchange.next trivial
    (VerificationStep.commit (VerificationWorld.setPhase_phase_self _ _ _) (by decide)
      (by decide) rfl : VerificationStep plainEnvironment _ (.commit 0) _)
  have hrequest := hchanged.next trivial
    (VerificationStep.request rfl rfl rfl rfl :
      VerificationStep plainEnvironment _ (.request 1 secondDraw) _)
  have hrequested := hrequest.next trivial
    (VerificationStep.commit (VerificationWorld.setPhase_phase_self _ _ _) (by simp)
      (by decide) rfl : VerificationStep plainEnvironment _ (.commit 1) _)
  have htarget := hclaim _ hrequested { newStudent with email := newAddress }
    (List.mem_singleton.mpr rfl)
  have hactive := htarget.active
    { firstToken with id := 2, tokenDigest := List.replicate 32 1 } List.mem_cons_self rfl rfl
  exact absurd hactive (by decide)

end StaleRequest

end BuddyWeb
