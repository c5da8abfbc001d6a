/-
Refresh-token families: one row for each browser session holds the one identifier which
may be rotated, until the family is revoked.
-/
import BuddyWeb.Accounts
import BuddyWeb.Lib.Table

namespace BuddyWeb

/-- A second in microseconds. -/
def authSecond : Int := 1000000

def jwtClockSkew : Int := 30 * authSecond

def refreshTokenTtl : Int := 7 * 24 * 3600 * authSecond

/-- An instant without its microseconds. -/
def wholeSeconds (now : Int) : Int := now / authSecond * authSecond

structure RefreshTokenClaims where
  userId : Nat
  sessionId : Nat
  tokenId : Nat
  issuedAt : Int
  expiresAt : Int
  deriving DecidableEq, Repr

/-- The time checks of a signed refresh token, with the leeway of the decoder. -/
def RefreshTokenClaims.verifies (claims : RefreshTokenClaims) (clock : Int) : Bool :=
  decide (claims.expiresAt - claims.issuedAt = refreshTokenTtl) &&
    decide (clock - jwtClockSkew < claims.expiresAt) &&
      decide (claims.issuedAt ≤ clock + jwtClockSkew)

structure RefreshSession where
  id : Nat
  userId : Nat
  refreshTokenId : Nat
  expiresAt : Int
  revokedAt : Option Int
  deletedAt : Option Int
  deriving DecidableEq, Repr

instance : Keyed RefreshSession := ⟨RefreshSession.id⟩

/-- The row of a newly issued family. -/
def createRefreshSession (userId sessionId refreshTokenId : Nat) (now : Int) :
    RefreshSession where
  id := sessionId
  userId := userId
  refreshTokenId := refreshTokenId
  expiresAt := wholeSeconds now + refreshTokenTtl
  revokedAt := none
  deletedAt := none

/-- The claims of the token which is issued with an identifier of a family. -/
def issuedClaims (userId sessionId refreshTokenId : Nat) (now : Int) : RefreshTokenClaims where
  userId := userId
  sessionId := sessionId
  tokenId := refreshTokenId
  issuedAt := wholeSeconds now
  expiresAt := wholeSeconds now + refreshTokenTtl

/-- What names the family in a logout or recovery request. -/
inductive SessionClaims
  | access (userId sessionId : Nat)
  | refresh (claims : RefreshTokenClaims)
  deriving DecidableEq, Repr

namespace SessionClaims

def userId : SessionClaims → Nat
  | access userId _ => userId
  | refresh claims => claims.userId

def sessionId : SessionClaims → Nat
  | access _ sessionId => sessionId
  | refresh claims => claims.sessionId

end SessionClaims

/-- The read of a live family, which needs the current identifier when a refresh token names
it. -/
def validateCsrfRecoverySession (sessions : Table RefreshSession) (claims : SessionClaims)
    (now : Int) : Bool :=
  (sessions.get? claims.sessionId).any fun stored =>
    stored.userId == claims.userId && stored.deletedAt.isNone && stored.revokedAt.isNone &&
      decide (now < stored.expiresAt) &&
        match claims with
        | .refresh refreshClaims => stored.refreshTokenId == refreshClaims.tokenId
        | .access _ _ => true

/-- The revocation which a logout stages, if there is one. -/
def revokeRefreshSession (sessions : Table RefreshSession) (sessionId userId : Nat)
    (now : Int) : Option RefreshSession :=
  match (sessions.get? sessionId).filter fun row => row.userId == userId with
  | none => none
  | some row =>
      if row.deletedAt.isSome || row.revokedAt.isSome then none
      else some { row with revokedAt := some now }

/-- What a rotation stages before it returns or raises. -/
inductive RotationOutcome
  | invalid
  | revoked (row : RefreshSession)
  | rotated (row : RefreshSession)
  deriving DecidableEq, Repr

/-- Validate, consume and replace the current identifier of a family, from its locked row
and the row of its user. -/
def rotateRefreshSession (stored : Option RefreshSession) (user : Option User)
    (claims : RefreshTokenClaims) (now clock : Int) (replacementId : Nat) : RotationOutcome :=
  match stored with
  | none => .invalid
  | some row =>
      let revocation := { row with revokedAt := some now }
      if row.deletedAt.isSome then .invalid
      else if row.revokedAt.isSome then .invalid
      else if row.userId ≠ claims.userId then .revoked revocation
      else if row.expiresAt ≤ now then .revoked revocation
      else if row.refreshTokenId ≠ claims.tokenId then .revoked revocation
      else if !user.any fun user => user.isActive && user.deletedAt.isNone then
        .revoked revocation
      else if !claims.verifies clock then .invalid
      else .rotated { row with
        refreshTokenId := replacementId
        expiresAt := now + refreshTokenTtl }

/-- A rotation succeeds on a live row with the presented identifier. -/
theorem rotateRefreshSession_eq_rotated {stored : Option RefreshSession} {user : Option User}
    {claims : RefreshTokenClaims} {now clock : Int} {replacementId : Nat}
    {after : RefreshSession}
    (h : rotateRefreshSession stored user claims now clock replacementId = .rotated after) :
    ∃ row, stored = some row ∧ row.deletedAt = none ∧ row.revokedAt = none ∧
      row.refreshTokenId = claims.tokenId ∧
        after = { row with
          refreshTokenId := replacementId
          expiresAt := now + refreshTokenTtl } := by
  unfold rotateRefreshSession at h
  cases stored with
  | none => simp at h
  | some row =>
      dsimp only at h
      split at h
      · simp at h
      · rename_i hdeleted
        split at h
        · simp at h
        · rename_i hrevoked
          split at h
          · simp at h
          · split at h
            · simp at h
            · split at h
              · simp at h
              · rename_i htoken
                split at h
                · simp at h
                · split at h
                  · simp at h
                  · refine ⟨row, rfl, by simpa using hdeleted, by simpa using hrevoked,
                      not_not.mp htoken, ?_⟩
                    exact (RotationOutcome.rotated.inj h).symm

/-- A revocation stamps the stored row. -/
theorem rotateRefreshSession_eq_revoked {stored : Option RefreshSession} {user : Option User}
    {claims : RefreshTokenClaims} {now clock : Int} {replacementId : Nat}
    {after : RefreshSession}
    (h : rotateRefreshSession stored user claims now clock replacementId = .revoked after) :
    ∃ row, stored = some row ∧ after = { row with revokedAt := some now } := by
  unfold rotateRefreshSession at h
  cases stored with
  | none => simp at h
  | some row =>
      dsimp only at h
      refine ⟨row, rfl, ?_⟩
      split at h
      · simp at h
      · split at h
        · simp at h
        · split at h
          · exact (RotationOutcome.revoked.inj h).symm
          · split at h
            · exact (RotationOutcome.revoked.inj h).symm
            · split at h
              · exact (RotationOutcome.revoked.inj h).symm
              · split at h
                · exact (RotationOutcome.revoked.inj h).symm
                · split at h
                  · simp at h
                  · simp at h

/-- An identifier other than the current one revokes a live family. -/
theorem rotateRefreshSession_of_stale {row : RefreshSession} {user : Option User}
    {claims : RefreshTokenClaims} {now clock : Int} {replacementId : Nat}
    (hdeleted : row.deletedAt = none) (hrevoked : row.revokedAt = none)
    (hstale : row.refreshTokenId ≠ claims.tokenId) :
    rotateRefreshSession (some row) user claims now clock replacementId =
      .revoked { row with revokedAt := some now } := by
  unfold rotateRefreshSession
  simp only [hdeleted, hrevoked, Option.isSome_none, Bool.false_eq_true, if_false]
  by_cases howner : row.userId ≠ claims.userId
  · rw [if_pos howner]
  · rw [if_neg howner]
    by_cases hexpired : row.expiresAt ≤ now
    · rw [if_pos hexpired]
    · rw [if_neg hexpired, if_pos hstale]

/-- A logout stamps a live row of its user. -/
theorem revokeRefreshSession_eq_some {sessions : Table RefreshSession}
    {sessionId userId : Nat} {now : Int} {after : RefreshSession}
    (h : revokeRefreshSession sessions sessionId userId now = some after) :
    ∃ row, sessions.get? sessionId = some row ∧ after = { row with revokedAt := some now } := by
  unfold revokeRefreshSession at h
  split at h
  · simp at h
  · rename_i row hrow
    split at h
    · simp at h
    · exact ⟨row, (Option.filter_eq_some_iff.mp hrow).1, (Option.some.inj h).symm⟩

end BuddyWeb
