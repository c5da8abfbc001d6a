/-
The requests on e-mail addresses as interleaved transactions: each has loaded its account
for the authentication, locks an account row, stages its writes and commits them.
-/
import BuddyWeb.Auth.EmailVerification
import BuddyWeb.Lib.Run
import Mathlib.Logic.Function.Basic

namespace BuddyWeb

/-- Where a request is. -/
inductive VerificationPhase
  | idle
  /-- The session holds the account which the authentication loaded. -/
  | authenticated (cached : EmailAccount)
  /-- A confirmation has looked up its token. -/
  | found (cached : EmailAccount) (digest : List Byte) (candidate : EmailVerificationToken)
  /-- The account row with this id is locked and the writes are staged. -/
  | staged (cached : EmailAccount) (ownerId : Nat) (writes : VerificationWrites)
  deriving DecidableEq

structure VerificationWorld where
  users : Table EmailAccount
  tokens : Table EmailVerificationToken
  /-- The queued verification e-mails, the newest first. -/
  emails : List VerificationEmail
  now : Int
  locks : Nat → Option Nat
  phase : Nat → VerificationPhase

namespace VerificationWorld

variable (world : VerificationWorld)

def setPhase (request : Nat) (phase : VerificationPhase) : VerificationWorld :=
  { world with phase := Function.update world.phase request phase }

@[simp]
theorem setPhase_phase_self (request : Nat) (phase : VerificationPhase) :
    (world.setPhase request phase).phase request = phase :=
  Function.update_self _ _ _

theorem setPhase_phase_of_ne {request other : Nat} (phase : VerificationPhase)
    (hother : other ≠ request) : (world.setPhase request phase).phase other = world.phase other :=
  Function.update_of_ne hother _ _

/-- The locks after the end of a request's transaction. -/
def unlocked (request : Nat) : Nat → Option Nat :=
  fun userId => if world.locks userId = some request then none else world.locks userId

/-- The lock of an account row with the writes staged under it. -/
def stagedFor (request ownerId : Nat) (cached : EmailAccount) (writes : VerificationWrites) :
    VerificationWorld :=
  { world with locks := Function.update world.locks ownerId (some request) }.setPhase request
    (.staged cached ownerId writes)

/-- The tokens after a transaction. -/
def writeTokens (writes : VerificationWrites) : Option (Table EmailVerificationToken) :=
  let changed := writes.changed.elim world.tokens world.tokens.put
  match writes.created with
  | none => some changed
  | some token => changed.insert? token

/-- The end of a transaction. -/
def finished (request : Nat) (users : Table EmailAccount)
    (tokens : Table EmailVerificationToken) (email : Option VerificationEmail) :
    VerificationWorld :=
  { world with
    users := users
    tokens := tokens
    emails := email.toList ++ world.emails
    locks := world.unlocked request }.setPhase request .idle

end VerificationWorld

inductive VerificationLabel
  | tick (now : Int)
  | register (user : EmailAccount)
  | alter (user : EmailAccount)
  | authenticate (request userId : Nat)
  | request (request : Nat) (draw : VerificationDraw)
  | change (request : Nat) (newEmail currentPassword : String) (draw : VerificationDraw)
  | find (request : Nat) (token : String)
  | confirm (request : Nat)
  | commit (request : Nat)
  | stop (request : Nat)

/-- One step of a request, of an account or of the clock. -/
inductive VerificationStep (env : VerificationEnvironment) :
    VerificationWorld → VerificationLabel → VerificationWorld → Prop
  | tick {world} {now} (hnow : world.now ≤ now) :
      VerificationStep env world (.tick now) { world with now := now }
  | register {world} {user} {users} (hunverified : user.emailVerifiedAt = none)
      (hemail : ∀ other ∈ world.users.rows, other.email ≠ user.email)
      (hinsert : world.users.insert? user = some users) :
      VerificationStep env world (.register user) { world with users := users }
  /-- Another transaction changes the role or the state of an account. -/
  | alter {world} {user old} (hget : world.users.get? user.id = some old)
      (hemail : user.email = old.email) (hstamp : user.emailVerifiedAt = old.emailVerifiedAt)
      (hfree : world.locks user.id = none) :
      VerificationStep env world (.alter user) { world with users := world.users.put user }
  | authenticate {world} {request userId} {user} (hphase : world.phase request = .idle)
      (hget : world.users.get? userId = some user) (hstudent : user.isStudent = true) :
      VerificationStep env world (.authenticate request userId)
        (world.setPhase request (.authenticated user))
  | request {world} {request} {draw} {cached} {writes}
      (hphase : world.phase request = .authenticated cached)
      (hfree : world.locks cached.id = none) (hnow : draw.now = world.now)
      (hwrites : requestEmailVerification env
        (sessionAccount cached (world.users.get? cached.id)) world.tokens draw = .ok writes) :
      VerificationStep env world (.request request draw)
        (world.stagedFor request cached.id cached writes)
  | change {world} {request} {newEmail currentPassword} {draw} {cached} {writes}
      (hphase : world.phase request = .authenticated cached)
      (hfree : world.locks cached.id = none) (hnow : draw.now = world.now)
      (hwrites : changeCurrentUserEmail env (world.users.get? cached.id) world.tokens newEmail
        currentPassword draw = .ok writes) :
      VerificationStep env world (.change request newEmail currentPassword draw)
        (world.stagedFor request cached.id cached writes)
  | find {world} {request} {token} {cached} {digest} {candidate}
      (hphase : world.phase request = .authenticated cached)
      (hdigest : digestEmailVerificationToken env token = some digest)
      (hfind : findEmailVerificationToken env world.tokens token = .ok candidate) :
      VerificationStep env world (.find request token)
        (world.setPhase request (.found cached digest candidate))
  | confirm {world} {request} {cached} {digest} {candidate} {consumed} {writes}
      (hphase : world.phase request = .found cached digest candidate)
      (hfree : world.locks candidate.userId = none)
      (hconsumed : consumeEmailVerificationToken digest
        (sessionAccount cached (world.users.get? candidate.userId))
        (world.tokens.get? candidate.id) world.now = .ok consumed)
      (hwrites : confirmEmailVerificationToken consumed cached.id
        (world.users.get? consumed.userId) world.now = .ok writes) :
      VerificationStep env world (.confirm request)
        (world.stagedFor request candidate.userId cached writes)
  /-- The flush keeps the addresses and the digests unique. -/
  | commit {world} {request} {cached} {ownerId} {writes} {tokens}
      (hphase : world.phase request = .staged cached ownerId writes)
      (hemail : ∀ user ∈ writes.account, ∀ other ∈ world.users.rows, other.id ≠ user.id →
        other.email ≠ user.email)
      (hdigest : ∀ token ∈ writes.created, ∀ other ∈ world.tokens.rows,
        other.tokenDigest ≠ token.tokenDigest)
      (htokens : world.writeTokens writes = some tokens) :
      VerificationStep env world (.commit request)
        (world.finished request (writes.account.elim world.users world.users.put) tokens
          writes.email)
  /-- A request which is refused, raises or crashes rolls back. -/
  | stop {world} {request} :
      VerificationStep env world (.stop request)
        (world.finished request world.users world.tokens none)

namespace VerificationWorld

/-- Accounts which are not verified yet, and no token and no request. -/
def Initial (world : VerificationWorld) : Prop :=
  (∀ user ∈ world.users.rows, user.emailVerifiedAt = none) ∧ world.tokens.rows = [] ∧
    world.emails = [] ∧ (∀ userId, world.locks userId = none) ∧
      ∀ request, world.phase request = .idle

def Reached (env : VerificationEnvironment) (world : VerificationWorld) : Prop :=
  Reaches Initial (VerificationStep env) (fun _ _ => True) world

end VerificationWorld

end BuddyWeb
