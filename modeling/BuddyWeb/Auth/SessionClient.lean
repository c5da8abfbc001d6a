/-
The session client of the browser: calls which run alone until they wait, a queue of the
calls that change cookies, and an epoch which each new identity begins.
-/
import BuddyWeb.Chat.WireContract
import BuddyWeb.Lib.Async

namespace BuddyWeb

inductive ApiErrorCode
  | unauthorized
  | forbidden
  | notFound
  | conflict
  | validation
  | rateLimited
  | server
  | network
  | invalidResponse
  | configuration
  | cancelled
  | csrf
  | timeout
  deriving DecidableEq, Repr

structure ApiError where
  status : Nat
  code : ApiErrorCode
  deriving DecidableEq, Repr

/-- What a call rejects with. -/
inductive ClientError
  | api (error : ApiError)
  | adminLoginDenied (cleanupError : Option ApiError)
  | sessionUserValidation
  deriving DecidableEq, Repr

/-- The status of an API error. -/
def ClientError.status? : ClientError → Option Nat
  | .api error => some error.status
  | _ => none

def normalizeApiError : ClientError → ApiError
  | .api error => error
  | _ => ⟨0, .invalidResponse⟩

/-- A parsed body, of whatever shape the server sends. -/
inductive Payload
  | undefined
  | null
  | boolean (value : Bool)
  | number (literal : String)
  | string (text : String)
  | array (items : List Payload)
  | object (entries : List (String × Payload))

namespace Payload

def entries? : Payload → Option (List (String × Payload))
  | object entries => some entries
  | _ => none

def field (entries : List (String × Payload)) (name : String) : Payload :=
  (entries.lookup name).getD undefined

def string? : Payload → Option String
  | string text => some text
  | _ => none

def boolean? : Payload → Option Bool
  | boolean value => some value
  | _ => none

end Payload

inductive SessionRole
  | user
  | admin
  deriving DecidableEq, Repr

structure SessionUser where
  id : String
  email : String
  role : SessionRole
  emailVerified : Bool
  emailVerifiedAt : Option String
  deriving DecidableEq, Repr

def SessionRole.parse? : String → Option SessionRole
  | "USER" => some .user
  | "ADMIN" => some .admin
  | _ => none

def SessionRole.text : SessionRole → String
  | .user => "USER"
  | .admin => "ADMIN"

/-- The value of a nullable and optional instant: nothing where it is no such value. -/
def nullableDatetime (isDateTime : String → Bool) : Payload → Option (Option String)
  | .undefined | .null => some none
  | .string text => if isDateTime text then some (some text) else none
  | _ => none

def parseSessionUser (wire : WireFormat) (payload : Payload) : Option SessionUser := do
  let entries ← payload.entries?
  let id ← (Payload.field entries "id").string?
  guard (wire.isUuid id)
  let email ← (Payload.field entries "email").string?
  guard (1 ≤ utf16Length email)
  let role ← (Payload.field entries "role").string?.bind SessionRole.parse?
  let emailVerified ← (Payload.field entries "email_verified").boolean?
  let emailVerifiedAt ← nullableDatetime wire.isDateTime
    (Payload.field entries "email_verified_at")
  guard (role = .user → emailVerified = emailVerifiedAt.any (· ≠ ""))
  return { id, email, role, emailVerified, emailVerifiedAt }

/-- A parsed user as the value which it was parsed into. -/
def SessionUser.toPayload (user : SessionUser) : Payload :=
  .object [("id", .string user.id), ("email", .string user.email),
    ("role", .string user.role.text), ("email_verified", .boolean user.emailVerified),
    ("email_verified_at", user.emailVerifiedAt.elim .null .string)]

theorem SessionRole.parse?_text (role : SessionRole) :
    SessionRole.parse? role.text = some role := by
  cases role <;> rfl

theorem nullableDatetime_elim {isDateTime : String → Bool} {payload : Payload}
    {value : Option String} (h : nullableDatetime isDateTime payload = some value) :
    nullableDatetime isDateTime (value.elim .null .string) = some value := by
  cases value with
  | none => rfl
  | some text =>
      have htext : isDateTime text = true := by
        unfold nullableDatetime at h
        split at h
        · cases h
        · cases h
        · split at h
          · rename_i hchecked
            cases h
            exact hchecked
          · cases h
        · cases h
      simp [nullableDatetime, htext]

/-- A parsed user is parsed again into itself. -/
theorem parseSessionUser_toPayload {wire : WireFormat} {payload : Payload} {user : SessionUser}
    (h : parseSessionUser wire payload = some user) :
    parseSessionUser wire user.toPayload = some user := by
  simp only [parseSessionUser, Option.bind_eq_bind, Option.bind_eq_some_iff, Option.guard_eq_some',
    Option.pure_def, Option.some.injEq, exists_and_left, exists_const] at h
  obtain ⟨entries, -, id, hid, huuid, email, -, hemail, role, -, verified, -, verifiedAt, hat,
    hrule, rfl⟩ := h
  have htime := nullableDatetime_elim hat
  simp only [ne_eq, decide_not] at hrule
  simp [parseSessionUser, SessionUser.toPayload, Payload.entries?, Payload.field,
    Payload.string?, Payload.boolean?, List.lookup_cons, SessionRole.parse?_text, htime, huuid,
    hemail]
  rw [guard, if_pos hrule]
  rfl

def csrfToken? (payload : Payload) : Option String := do
  let entries ← payload.entries?
  let token ← (Payload.field entries "csrf_token").string?
  guard (1 ≤ utf16Length token ∧ utf16Length token ≤ 1024)
  return token

def session? (payload : Payload) : Option (String × Payload) := do
  let entries ← payload.entries?
  let token ← csrfToken? payload
  return (token, Payload.field entries "user")

/-- A body whose `status` is the literal. -/
def hasStatus (status : String) (payload : Payload) : Bool :=
  payload.entries?.any fun entries => (Payload.field entries "status").string? = some status

/-- The user of a changed address. -/
def emailChange? (payload : Payload) : Option Payload := do
  let entries ← payload.entries?
  guard (hasStatus "email_changed" payload)
  return Payload.field entries "user"

def isVerificationConfirm (payload : Payload) : Bool :=
  hasStatus "email_verified" payload &&
    payload.entries?.any fun entries =>
      (Payload.field entries "redirect_to").string? = some "/user"

inductive HttpMethod
  | get
  | post
  | put
  | patch
  | delete
  deriving DecidableEq, Repr

structure JsonRequestOptions where
  method : HttpMethod := .get
  body : Option Payload := none

structure SessionRequest where
  path : String
  options : JsonRequestOptions
  csrfToken : Option String

/-- What a call waits for. -/
inductive SessionSignal
  /-- a promise of the client's own, or of the query cache -/
  | resolved
  | reply (request : SessionRequest)
  /-- all tasks before this one on the queue have settled -/
  | turn (ticket : Nat)
  /-- the promise of a shared bootstrap or refresh -/
  | flight (promise : Nat)
  /-- the first answer of a confirmation which was called in the epoch -/
  | confirmed (calledIn : Nat)

def SessionSignal.Answer : SessionSignal → Type
  | .resolved | .turn _ | .confirmed _ => Unit
  | .reply _ => Except ApiError Payload
  | .flight _ => Except ClientError Unit

inductive SessionAction
  | bootstrap
  | login
  | refresh
  | logout
  deriving DecidableEq, Repr

structure SessionFeedback where
  pending : Bool
  action : Option SessionAction
  error : Option ApiError
  deriving DecidableEq, Repr

inductive AuthStore
  | unknown
  | loading
  | authenticated (user : SessionUser)
  | unauthenticated
  deriving DecidableEq, Repr

def AuthStore.user? : AuthStore → Option SessionUser
  | .authenticated user => some user
  | _ => none

/-- The calls which change the identity. -/
inductive IdentityCall
  | bootstrap
  | login
  | logout
  deriving DecidableEq, Repr

/-- What the history of a client records. `calledIn` counts the identity-changing calls when
the operation was called, `sentIn` those when the request was sent. -/
inductive SessionEvent
  | started (call : IdentityCall)
  | installed (user : SessionUser) (calledIn sentIn : Nat)
  | delivered (calledIn : Nat)
  deriving DecidableEq, Repr

/-- The variables of the client, with a history which it does not read. -/
structure SessionClient where
  csrfToken : Option String := none
  epoch : Nat := 0
  feedbackTicket : Nat := 0
  feedback : SessionFeedback := ⟨false, none, none⟩
  refreshVersion : Nat := 0
  /-- tasks put on the queue, and those of them that have settled -/
  queued : Nat := 0
  served : Nat := 0
  bootstrapFlight : Option Nat := none
  refreshFlight : Option Nat := none
  /-- shared promises, and the results of those that have settled -/
  promises : Nat := 0
  settled : List (Nat × Except ClientError Unit) := []
  store : AuthStore := .unknown
  history : List SessionEvent := []

def SessionSignal.ready : (signal : SessionSignal) → SessionClient → signal.Answer → Prop
  | .turn ticket, client, _ => ticket ≤ client.served
  | .flight promise, client, answer => client.settled.lookup promise = some answer
  | .resolved, _, _ | .reply _, _, _ | .confirmed _, _, _ => True

instance : (signal : SessionSignal) → (client : SessionClient) → (answer : signal.Answer) →
    Decidable (signal.ready client answer)
  | .turn ticket, client, _ => inferInstanceAs (Decidable (ticket ≤ client.served))
  | .flight promise, client, answer =>
      inferInstanceAs (Decidable (@Eq (Option (Except ClientError Unit))
        (client.settled.lookup promise) (some answer)))
  | .resolved, _, _ | .reply _, _, _ | .confirmed _, _, _ => instDecidableTrue

abbrev SessionProgram (α : Type) : Type :=
  Async SessionClient SessionSignal.Answer ClientError α

/-- A body with the epoch in which it was asked for. -/
structure SessionReply where
  payload : Payload
  sentIn : Nat

namespace SessionClient

open Async

/-- A promise of the client's own, or of the query cache, settles. -/
def settle : SessionProgram Unit :=
  Async.await SessionSignal.resolved

def response (request : SessionRequest) : SessionProgram (Except ApiError Payload) :=
  Async.await (SessionSignal.reply request)

/-- All tasks which were put on the queue before the ticket have settled. -/
def turn (ticket : Nat) : SessionProgram Unit :=
  Async.await (SessionSignal.turn ticket)

def flightResult (promise : Nat) : SessionProgram (Except ClientError Unit) :=
  Async.await (SessionSignal.flight promise)

/-- The value of an asynchronous function which the caller awaits. -/
def awaited {α : Type} (program : SessionProgram α) : SessionProgram α := do
  let result ← program.attempt
  settle
  finish result

/-- The first answer of a confirmation, which goes on in a step of its own. -/
def confirmationAnswer (calledIn : Nat) (program : SessionProgram SessionReply) :
    SessionProgram SessionReply := do
  match ← program.attempt with
  | .ok reply => do
      let _ ← Async.await (SessionSignal.confirmed calledIn)
      return reply
  | .error error => do
      settle
      throw error

def checkEpoch (generation : Nat) : SessionProgram Unit := do
  let client ← read
  throwIf (generation ≠ client.epoch) (.api ⟨0, .cancelled⟩)

/-- The queue's promise waits for the action; the caller for its result. -/
def enqueue {α : Type} (action : SessionProgram α) : SessionProgram α := do
  let client ← read
  modify fun client => { client with queued := client.queued + 1 }
  turn client.queued
  let result ← action.attempt
  modify fun client => { client with served := client.served + 1 }
  settle
  finish result

def clearSession : SessionProgram Unit :=
  modify fun client => { client with store := .unauthenticated }

/-- The queries are cancelled, then removed. -/
def clearPrivateQueries : SessionProgram Unit :=
  settle

def clearIdentity : SessionProgram Unit := do
  clearSession
  clearPrivateQueries

def requestJson (path : String) (options : JsonRequestOptions := {})
    (csrfToken : Option String := none) : SessionProgram SessionReply := do
  let publicChatbot := decide (path = "/chatbot/query") && decide (options.method = .post)
  onlyIf (options.method ≠ .get ∧ publicChatbot = false ∧ csrfToken = none) do
    settle
    throw (.api ⟨0, .csrf⟩)
  let client ← read
  match ← response ⟨path, options, csrfToken⟩ with
  | .ok payload => return ⟨payload, client.epoch⟩
  | .error error => throw (.api error)

/-- The token of a response, kept for the next mutation. -/
def fetchCsrf (path : String) : SessionProgram String := do
  let reply ← requestJson path
  match csrfToken? reply.payload with
  | none => throw (.api ⟨200, .invalidResponse⟩)
  | some token => do
      modify fun client => { client with csrfToken := some token }
      return token

def recoverCsrf : SessionProgram String :=
  fetchCsrf "/auth/csrf/session"

def preauthCsrf : SessionProgram String :=
  fetchCsrf "/auth/csrf"

/-- The token at hand, or a recovered one. -/
def sessionToken : SessionProgram String := do
  let client ← read
  match client.csrfToken with
  | some token => return token
  | none => awaited recoverCsrf

def sessionMutation (path : String) : SessionProgram SessionReply := do
  let token ← sessionToken
  try
    awaited (requestJson path { method := .post } (some token))
  catch error => do
    throwIf (error.status? ≠ some 403) error
    let recovered ← awaited recoverCsrf
    requestJson path { method := .post } (some recovered)

/-- `setAuthenticated` of the store, which parses the user again. -/
def setAuthenticated (wire : WireFormat) (payload : Payload) (calledIn sentIn : Nat) :
    SessionProgram Unit :=
  match parseSessionUser wire payload with
  | none => do
      clearSession
      throw .sessionUserValidation
  | some user =>
      modify fun client => { client with
        store := .authenticated user
        history := client.history ++ [.installed user calledIn sentIn] }

/-- The parsed user, or the client's validation error. -/
def requireSessionUser (wire : WireFormat) (payload : Payload) : SessionProgram SessionUser :=
  match parseSessionUser wire payload with
  | none => throw .sessionUserValidation
  | some user => return user

/-- The queries which a change of the account clears: the private ones of another user or
role, the chat's of another address. -/
def clearsQueries (previous : AuthStore) (user : SessionUser) : Bool :=
  match previous.user? with
  | none => true
  | some old =>
      decide (old.id ≠ user.id) || decide (old.role ≠ user.role) ||
        decide (old.email ≠ user.email) || decide (old.emailVerifiedAt ≠ user.emailVerifiedAt)

def installUser (wire : WireFormat) (reply : SessionReply) (generation calledIn : Nat) :
    SessionProgram SessionUser := do
  checkEpoch generation
  let user ← requireSessionUser wire reply.payload
  let previous ← read
  onlyIf (clearsQueries previous.store user = true) settle
  checkEpoch generation
  setAuthenticated wire user.toPayload calledIn reply.sentIn
  return user

def refreshInternal (wire : WireFormat) (generation : Nat) (deferIdentity : Bool := false) :
    SessionProgram Unit := do
  let reply ← awaited (sessionMutation "/auth/refresh")
  match session? reply.payload with
  | none => throw (.api ⟨200, .invalidResponse⟩)
  | some (token, user) => do
      modify fun client => { client with csrfToken := some token }
      if deferIdentity then do
        checkEpoch generation
        let _ ← requireSessionUser wire user
        modify fun client => { client with refreshVersion := client.refreshVersion + 1 }
      else do
        let _ ← awaited (installUser wire ⟨user, reply.sentIn⟩ generation generation)
        modify fun client => { client with refreshVersion := client.refreshVersion + 1 }

/-- What the feedback and the caller of a failed action are told. -/
def safeError : ClientError → Option ApiError
  | .adminLoginDenied cleanupError => cleanupError
  | error => some (normalizeApiError error)

def isDenied : ClientError → Bool
  | .adminLoginDenied _ => true
  | _ => false

def setFeedback (ticket : Nat) (feedback : SessionFeedback) : SessionProgram Unit :=
  modify fun client =>
    if ticket = client.feedbackTicket then { client with feedback := feedback } else client

/-- The task of an action which shows its progress. -/
def feedbackTask {α : Type} (action : SessionAction) (generation ticket : Nat)
    (work : SessionProgram α) : SessionProgram α := do
  try
    checkEpoch generation
    let value ← awaited work
    modify fun client =>
      if ticket = client.feedbackTicket then
        { client with feedback := { client.feedback with pending := false, error := none } }
      else client
    pure value
  catch error => do
    let client ← read
    onlyIf (generation = client.epoch) (awaited clearIdentity)
    setFeedback ticket
      { pending := false
        action := if isDenied error && (safeError error).isSome then some .logout else some action
        error := safeError error }
    throw (if isDenied error then error else .api (normalizeApiError error))

def withFeedback {α : Type} (action : SessionAction) (generation : Nat)
    (work : SessionProgram α) : SessionProgram α := do
  modify fun client => { client with feedbackTicket := client.feedbackTicket + 1 }
  let client ← read
  setFeedback client.feedbackTicket ⟨true, some action, none⟩
  enqueue (feedbackTask action generation client.feedbackTicket work)

/-- `++epoch` with the change of the store right after it. -/
def changeIdentity (call : IdentityCall) (store : AuthStore) : SessionProgram Nat := do
  modify fun client => { client with
    epoch := client.epoch + 1
    store := store
    history := client.history ++ [.started call] }
  let client ← read
  return client.epoch

/-- A new shared promise. -/
def newPromise : SessionProgram Nat := do
  modify fun client => { client with promises := client.promises + 1 }
  let client ← read
  return client.promises

def bootstrapUser (wire : WireFormat) (generation : Nat) : SessionProgram SessionReply := do
  try
    awaited (requestJson "/auth/me")
  catch error => do
    throwIf (error.status? ≠ some 401) error
    awaited (refreshInternal wire generation true)
    awaited (requestJson "/auth/me")

def bootstrapWork (wire : WireFormat) (generation : Nat) : SessionProgram Unit := do
  settle
  try
    let _ ← awaited recoverCsrf
    checkEpoch generation
    let reply ← bootstrapUser wire generation
    let _ ← awaited (installUser wire reply generation generation)
  catch error => do
    checkEpoch generation
    throwIf (error.status? ≠ some 401) error
    clearSession

def bootstrap (wire : WireFormat) : SessionProgram Unit := do
  let client ← read
  match client.bootstrapFlight with
  | some promise => do
      let result ← flightResult promise
      finish result
  | none => do
      let generation ← changeIdentity .bootstrap .loading
      let promise ← newPromise
      modify fun client => { client with bootstrapFlight := some promise }
      let result ← (withFeedback .bootstrap generation (bootstrapWork wire generation)).attempt
      modify fun client => { client with
        bootstrapFlight := none
        settled := (promise, result) :: client.settled }
      settle
      finish result

def refresh (wire : WireFormat) : SessionProgram Unit := do
  let client ← read
  match client.refreshFlight with
  | some promise => do
      let result ← flightResult promise
      finish result
  | none => do
      let promise ← newPromise
      modify fun client => { client with refreshFlight := some promise }
      let result ←
        (withFeedback .refresh client.epoch (refreshInternal wire client.epoch)).attempt
      modify fun client => { client with
        refreshFlight := none
        settled := (promise, result) :: client.settled }
      settle
      finish result

def trim (text : String) : String :=
  String.ofList (trimEnds isJsSpace text.toList)

structure Credentials where
  email : String
  password : String

/-- The token at hand belongs to no session after a 401. -/
def recoverLoginCsrf : SessionProgram Unit := do
  try
    let _ ← awaited recoverCsrf
  catch error => do
    throwIf (error.status? ≠ some 401) error
    modify fun client => { client with csrfToken := none }

/-- `csrfToken = undefined` after the session has ended. -/
def revokeSession : SessionProgram Unit := do
  let _ ← awaited (sessionMutation "/auth/logout")
  modify fun client => { client with csrfToken := none }

/-- The refusal of a user without the role, whose cookie is revoked first. -/
def denyLogin (generation : Nat) : SessionProgram SessionUser := do
  awaited clearIdentity
  checkEpoch generation
  let cleanup ← revokeSession.attempt
  checkEpoch generation
  throw (.adminLoginDenied (match cleanup with
    | .ok _ => none
    | .error error => some (normalizeApiError error)))

def loginWork (wire : WireFormat) (credentials : Credentials) (requireAdmin : Bool)
    (generation : Nat) : SessionProgram SessionUser := do
  settle
  recoverLoginCsrf
  let client ← read
  onlyIf (client.csrfToken ≠ none) revokeSession
  checkEpoch generation
  let token ← awaited preauthCsrf
  let body := Payload.object [("email", .string (trim credentials.email)),
    ("password", .string credentials.password)]
  let reply ← requestJson "/auth/login" { method := .post, body := some body } (some token)
  match session? reply.payload with
  | none => throw (.api ⟨200, .invalidResponse⟩)
  | some (sessionToken, payload) => do
      modify fun client => { client with csrfToken := some sessionToken }
      checkEpoch generation
      let user ← requireSessionUser wire payload
      if requireAdmin = true ∧ user.role ≠ .admin then denyLogin generation
      else awaited (installUser wire ⟨user.toPayload, reply.sentIn⟩ generation generation)

def login (wire : WireFormat) (credentials : Credentials) (requireAdmin : Bool) :
    SessionProgram SessionUser := do
  let generation ← changeIdentity .login .loading
  withFeedback .login generation (loginWork wire credentials requireAdmin generation)

structure Registration extends Credentials where
  consent : Bool

def registerRequest (registration : Registration) (token : String) : SessionProgram Unit := do
  let body := Payload.object [("email", .string (trim registration.email)),
    ("password", .string registration.password), ("consent", .boolean registration.consent)]
  let reply ← requestJson "/auth/register" { method := .post, body := some body } (some token)
  throwIf (hasStatus "registered" reply.payload = false) (.api ⟨201, .invalidResponse⟩)

def register (registration : Registration) : SessionProgram Unit :=
  enqueue do
    let token ← awaited preauthCsrf
    let result ← (registerRequest registration token).attempt
    modify fun client => { client with csrfToken := none }
    finish result

/-- The token for a logout: the session's, or one from before a session. -/
def logoutCsrf : SessionProgram Unit := do
  try
    let _ ← awaited recoverCsrf
  catch error => do
    throwIf (error.status? ≠ some 401) error
    let _ ← awaited preauthCsrf

def logoutWork (generation : Nat) : SessionProgram Unit := do
  settle
  let client ← read
  onlyIf (client.csrfToken = none) logoutCsrf
  revokeSession
  checkEpoch generation
  awaited clearIdentity

def logout : SessionProgram Unit := do
  let generation ← changeIdentity .logout .unauthenticated
  withFeedback .logout generation (logoutWork generation)

/-- `requestJson` with the token of the moment. -/
def send (path : String) (options : JsonRequestOptions) : SessionProgram SessionReply := do
  let client ← read
  requestJson path options client.csrfToken

/-- The reply of a request whose epoch is still the caller's. -/
def deliver (generation : Nat) (reply : SessionReply) : SessionProgram SessionReply := do
  checkEpoch generation
  modify fun client => { client with history := client.history ++ [.delivered generation] }
  return reply

def sendOnce (path : String) (options : JsonRequestOptions) (generation : Nat) :
    SessionProgram SessionReply := do
  let reply ← send path options
  deliver generation reply

/-- The second try after a refresh; a second 401 ends the session. -/
def sendAgain (path : String) (options : JsonRequestOptions) (generation : Nat) :
    SessionProgram SessionReply := do
  try
    sendOnce path options generation
  catch retryError => do
    let client ← read
    onlyIf (generation = client.epoch ∧ retryError.status? = some 401) (awaited clearIdentity)
    throw retryError

/-- What a rejected request is answered with: one recovery of the token, or one refresh. -/
def recoverRequest (wire : WireFormat) (path : String) (options : JsonRequestOptions)
    (generation version : Nat) (error : ClientError) : SessionProgram SessionReply := do
  checkEpoch generation
  if error.status? = some 403 ∧ options.method ≠ .get then do
    let _ ← enqueue recoverCsrf
    checkEpoch generation
    sendOnce path options generation
  else do
    throwIf (error.status? ≠ some 401) error
    let client ← read
    onlyIf (version = client.refreshVersion) (awaited (refresh wire))
    checkEpoch generation
    sendAgain path options generation

def authenticatedJson (wire : WireFormat) (path : String) (options : JsonRequestOptions) :
    SessionProgram SessionReply := do
  let called ← read
  let generation := called.epoch
  turn called.queued
  checkEpoch generation
  let client ← read
  throwIf (client.store.user? = none) (.api ⟨401, .unauthorized⟩)
  onlyIf (options.method ≠ .get ∧ client.csrfToken = none) do
    let _ ← enqueue recoverCsrf
  try
    sendOnce path options generation
  catch error =>
    recoverRequest wire path options generation client.refreshVersion error

def requestEmailVerification (wire : WireFormat) : SessionProgram Unit := do
  let reply ← awaited (authenticatedJson wire "/auth/email-verification/request"
    { method := .post })
  throwIf (hasStatus "verification_requested" reply.payload = false)
    (.api ⟨200, .invalidResponse⟩)

def confirmEmailVerification (wire : WireFormat) (token : String) : SessionProgram Unit := do
  let called ← read
  let reply ← confirmationAnswer called.epoch (authenticatedJson wire
    "/auth/email-verification/confirm"
    { method := .post, body := some (.object [("token", .string token)]) })
  throwIf (isVerificationConfirm reply.payload = false) (.api ⟨200, .invalidResponse⟩)
  let client ← read
  let me ← awaited (authenticatedJson wire "/auth/me" {})
  let _ ← awaited (installUser wire me client.epoch called.epoch)
  settle

structure EmailChangeInput where
  newEmail : String
  currentPassword : String

def changeEmail (wire : WireFormat) (input : EmailChangeInput) : SessionProgram SessionUser := do
  let called ← read
  let reply ← awaited (authenticatedJson wire "/auth/email/change"
    { method := .post
      body := some (.object [("new_email", .string (trim input.newEmail)),
        ("current_password", .string input.currentPassword)]) })
  match emailChange? reply.payload with
  | none => throw (.api ⟨200, .invalidResponse⟩)
  | some payload => do
      let user ← awaited (installUser wire ⟨payload, reply.sentIn⟩ called.epoch called.epoch)
      settle
      return user

/-- A call whose value is left to its caller. -/
def ignored {α : Type} (program : SessionProgram α) : SessionProgram Unit := do
  let _ ← program
  return ()

end SessionClient

/-- The public functions of the client. -/
inductive ClientCall
  | bootstrap
  | refresh
  | login (credentials : SessionClient.Credentials) (requireAdmin : Bool)
  | register (registration : SessionClient.Registration)
  | logout
  | authenticatedJson (path : String) (options : JsonRequestOptions)
  | requestEmailVerification
  | confirmEmailVerification (token : String)
  | changeEmail (input : SessionClient.EmailChangeInput)

def ClientCall.program (wire : WireFormat) : ClientCall → SessionProgram Unit
  | .bootstrap => SessionClient.bootstrap wire
  | .refresh => SessionClient.refresh wire
  | .login credentials requireAdmin =>
      SessionClient.ignored (SessionClient.login wire credentials requireAdmin)
  | .register registration => SessionClient.register registration
  | .logout => SessionClient.logout
  | .authenticatedJson path options =>
      SessionClient.ignored (SessionClient.authenticatedJson wire path options)
  | .requestEmailVerification => SessionClient.requestEmailVerification wire
  | .confirmEmailVerification token => SessionClient.confirmEmailVerification wire token
  | .changeEmail input =>
      SessionClient.ignored (SessionClient.changeEmail wire input)

end BuddyWeb
