/-
Which strings are accepted as CSRF tokens, for which requests and when.
-/
import BuddyWeb.Auth.CsrfTokens

namespace BuddyWeb

namespace Csrf

section Text

theorem base64urlEncode_toList (bytes : List Byte) :
    (base64urlEncode bytes).toList = (sextetsOfBytes bytes).map urlsafeChar := by
  rw [base64urlEncode, String.toList_ofList, rdropWhile_urlsafeB64encode]

theorem base64urlEncode_length (bytes : List Byte) :
    (base64urlEncode bytes).length = (bytes.length * 4 + 2) / 3 := by
  rw [← String.length_toList, base64urlEncode_toList, List.length_map, sextetsOfBytes_length]

theorem urlsafeChar_mem (sextet : Sextet) : urlsafeChar sextet ∈ base64urlCharacters := by
  revert sextet
  decide +kernel

theorem base64urlEncode_mem {bytes : List Byte} {char : Char}
    (h : char ∈ (base64urlEncode bytes).toList) : char ∈ base64urlCharacters := by
  rw [base64urlEncode_toList] at h
  obtain ⟨sextet, -, rfl⟩ := List.mem_map.mp h
  exact urlsafeChar_mem sextet

/-- No character of the alphabet separates segments, and each is plain text of a JSON
string. -/
theorem base64urlCharacters_plain :
    ∀ char ∈ base64urlCharacters, char ≠ '.' ∧ isPlainChar char = true := by
  have hdot : '.' ∉ base64urlCharacters := by decide +kernel
  have hplain : base64urlCharacters.all isPlainChar = true := by decide +kernel
  intro char hchar
  constructor
  · rintro rfl
    exact hdot hchar
  · exact List.all_eq_true.mp hplain char hchar

theorem dot_not_mem_encode (bytes : List Byte) : '.' ∉ (base64urlEncode bytes).toList :=
  fun hdot => (base64urlCharacters_plain _ (base64urlEncode_mem hdot)).1 rfl

theorem isPlain_encode (bytes : List Byte) : IsPlain (base64urlEncode bytes) :=
  fun _ hchar => (base64urlCharacters_plain _ (base64urlEncode_mem hchar)).2

theorem base64urlEncode_eq_empty_iff {bytes : List Byte} :
    base64urlEncode bytes = "" ↔ bytes = [] := by
  rw [← String.toList_inj, base64urlEncode_toList]
  constructor
  · intro h
    have hlength := sextetsOfBytes_length bytes
    rw [List.map_eq_nil_iff.mp h, List.length_nil] at hlength
    exact List.length_eq_zero_iff.mp (by omega)
  · rintro rfl
    rfl

/-- A text decodes to the bytes which it encodes, and to nothing else. -/
theorem base64urlDecode_eq_some_iff {value : String} {bytes : List Byte} :
    base64urlDecode value = some bytes ↔ value = base64urlEncode bytes ∧ bytes ≠ [] := by
  simp only [base64urlDecode, Option.bind_eq_bind, Option.bind_eq_some_iff,
    Option.guard_eq_some', Option.pure_def, Option.some.injEq]
  constructor
  · rintro ⟨_, ⟨hne, -⟩, decoded, -, _, hvalue, rfl⟩
    refine ⟨hvalue.symm, fun hnil => hne ?_⟩
    rw [← hvalue, base64urlEncode_eq_empty_iff.mpr hnil]
  · rintro ⟨rfl, hne⟩
    have hlength := base64urlEncode_length bytes
    have hsextets := sextetsOfBytes_length bytes
    refine ⟨(), ⟨base64urlEncode_eq_empty_iff.not.mpr hne,
      fun char hchar => base64urlEncode_mem hchar⟩, bytes, ?_, (), rfl, rfl⟩
    rw [base64urlEncode_toList, hlength]
    exact b64decode_of_sextets bytes (by omega) (by omega)

theorem base64urlDecode_encode {bytes : List Byte} (hne : bytes ≠ []) :
    base64urlDecode (base64urlEncode bytes) = some bytes :=
  base64urlDecode_eq_some_iff.mpr ⟨rfl, hne⟩

/-- The segments of a token are joined by dots. -/
theorem splitToken_eq_some {token version payloadSegment signatureSegment : String}
    (h : splitToken token = some (version, payloadSegment, signatureSegment)) :
    token = version ++ "." ++ payloadSegment ++ "." ++ signatureSegment := by
  rw [splitToken] at h
  split at h
  · rename_i first second third hsplit
    have hjoin : ['.'].intercalate (token.toList.splitOn '.') = token.toList :=
      List.intercalate_splitOn '.'
    rw [hsplit] at hjoin
    simp only [Option.some.injEq, Prod.mk.injEq] at h
    obtain ⟨rfl, rfl, rfl⟩ := h
    rw [← String.toList_inj, ← hjoin]
    simp [List.intercalate, String.toList_append]
  · cases h

theorem splitToken_join {version payloadSegment signatureSegment : String}
    (hversion : '.' ∉ version.toList) (hpayload : '.' ∉ payloadSegment.toList)
    (hsignature : '.' ∉ signatureSegment.toList) :
    splitToken (version ++ "." ++ payloadSegment ++ "." ++ signatureSegment) =
      some (version, payloadSegment, signatureSegment) := by
  have htext : (version ++ "." ++ payloadSegment ++ "." ++ signatureSegment).toList =
      version.toList ++ '.' :: (payloadSegment.toList ++ '.' :: signatureSegment.toList) := by
    simp [String.toList_append]
  have hsplit : (version ++ "." ++ payloadSegment ++ "." ++
      signatureSegment).toList.splitOn '.' =
      [version.toList, payloadSegment.toList, signatureSegment.toList] := by
    rw [htext, List.splitOn_append_cons_self_of_not_mem hversion,
      List.splitOn_append_cons_self_of_not_mem hpayload,
      List.splitOn_eq_singleton hsignature]
  rw [splitToken, hsplit]
  simp only [String.ofList_toList]

end Text

section Times

theorem ofMicroseconds?_eq_some_iff {microseconds : Int} {instant : Instant} :
    Instant.ofMicroseconds? microseconds = some instant ↔ instant.val = microseconds := by
  constructor
  · intro h
    rw [Instant.ofMicroseconds?] at h
    split at h
    · exact (congrArg Subtype.val (Option.some.inj h)).symm
    · cases h
  · rintro rfl
    exact Instant.ofMicroseconds?_val instant

theorem utcNow_bounds (now : Instant) :
    (utcNow now).val ≤ now.val ∧ now.val < (utcNow now).val + microsecondsPerSecond ∧
      (utcNow now).val % microsecondsPerSecond = 0 := by
  simp only [utcNow, microsecondsPerSecond]
  omega

/-- A whole second is read back from its timestamp. -/
theorem fromTimestamp_timestamp {instant : Instant}
    (h : instant.val % microsecondsPerSecond = 0) :
    fromTimestamp (timestamp instant) = some instant := by
  rw [fromTimestamp, ofMicroseconds?_eq_some_iff, timestamp]
  simp only [microsecondsPerSecond] at h ⊢
  omega

end Times

/-- The request of a token. -/
inductive CsrfCreation
  | preauth (binding nonce : TokenBytes) (now : Instant)
  | session (sessionId : Uuid) (nonce : TokenBytes) (now : Instant)

namespace CsrfCreation

def scope : CsrfCreation → CsrfScope
  | .preauth _ _ _ => .preauth
  | .session _ _ _ => .session

def sessionId : CsrfCreation → Option Uuid
  | .preauth _ _ _ => none
  | .session sessionId _ _ => some sessionId

def binding : CsrfCreation → List Byte
  | .preauth binding _ _ => binding.val
  | .session sessionId _ _ => sessionId.bytes

def nonce : CsrfCreation → TokenBytes
  | .preauth _ nonce _ => nonce
  | .session _ nonce _ => nonce

def now : CsrfCreation → Instant
  | .preauth _ _ now => now
  | .session _ _ now => now

end CsrfCreation

/-- A token at an instant from the skew before its issue until the skew after its expiry,
the instant neither in the first nor in the last 30 seconds of all instants. -/
structure CsrfToken.ValidAt (token : CsrfToken) (now : Instant) : Prop where
  issued : token.issuedAt.val - clockSkew ≤ now.val
  unexpired : now.val < token.expiresAt.val + clockSkew
  notFirst : firstInstant + clockSkew ≤ now.val
  notLast : now.val + clockSkew ≤ lastInstant

theorem checkLifetime_eq_ok_iff {token : CsrfToken} {scope : CsrfScope} {now : Instant}
    (hissued : token.issuedAt.val % microsecondsPerSecond = 0)
    (hexpires : token.expiresAt.val = token.issuedAt.val + tokenTtl token.scope)
    (hscope : scope = token.scope) :
    checkLifetime scope token.issuedAt token.expiresAt now = .ok () ↔ token.ValidAt now := by
  have hnow := utcNow_bounds now
  have httl : tokenTtl token.scope % microsecondsPerSecond = 0 := by
    cases token.scope <;> decide
  have hshift : ∀ duration : Int, ∀ moved : Instant,
      shift? (utcNow now) duration = some moved ↔ moved.val = (utcNow now).val + duration :=
    fun duration moved => ofMicroseconds?_eq_some_iff
  subst hscope
  simp only [checkLifetime, except_bind_eq_ok_iff, ensure_eq_ok_iff, require_eq_ok_iff, hshift]
  have hlower := now.property.1
  have hupper := now.property.2
  simp only [microsecondsPerSecond] at hnow hissued httl
  constructor
  · rintro ⟨_, -, latest, hlatest, _, hissuedLe, earliest, hearliest, hexpired⟩
    have hlatestBound := latest.property.2
    have hearliestBound := earliest.property.1
    have hissuedVal : token.issuedAt.val ≤ latest.val := hissuedLe
    have hexpiredVal : earliest.val < token.expiresAt.val := hexpired
    simp only [clockSkew, microsecondsPerSecond, firstInstant, lastInstant] at *
    constructor
    · simp only [clockSkew, microsecondsPerSecond]
      omega
    · simp only [clockSkew, microsecondsPerSecond]
      omega
    · simp only [clockSkew, microsecondsPerSecond, firstInstant]
      omega
    · simp only [clockSkew, microsecondsPerSecond, lastInstant]
      omega
  · rintro ⟨hwindow, hunexpired, hfirst, hlast⟩
    simp only [clockSkew, microsecondsPerSecond, firstInstant, lastInstant] at *
    refine ⟨(), by omega, ⟨(utcNow now).val + 30000000, ?_⟩, by simp, (), ?_,
      ⟨(utcNow now).val - 30000000, ?_⟩, by simp; omega, ?_⟩
    · simp only [firstInstant, lastInstant]
      omega
    · change token.issuedAt.val ≤ (utcNow now).val + 30000000
      omega
    · simp only [firstInstant, lastInstant]
      omega
    · change (utcNow now).val - 30000000 < token.expiresAt.val
      omega

section Payload

variable (hmac : List Byte → List Byte → List Byte) (signingKey : List Byte)

theorem isFlatObject_tokenPayload (scope : CsrfScope) (binding nonce : List Byte)
    (issuedAt expiresAt : Instant) :
    IsFlatObject (tokenPayload hmac signingKey scope binding nonce issuedAt expiresAt) := by
  have hscope : IsPlain scope.text := by
    have hplain : scope.text.toList.all isPlainChar = true := by
      cases scope with
      | preauth => decide +kernel
      | session => decide +kernel
    exact List.all_eq_true.mp hplain
  have hkeys : ∀ key ∈ payloadKeys, ∀ char ∈ key.toList, isPlainChar char = true := by
    have hplain : payloadKeys.all (fun key => key.toList.all isPlainChar) = true := by
      decide +kernel
    intro key hkey
    exact List.all_eq_true.mp (List.all_eq_true.mp hplain key hkey)
  have hnames : (tokenPayload hmac signingKey scope binding nonce issuedAt expiresAt).map
      Prod.fst = payloadKeys := rfl
  constructor
  · rw [hnames]
    decide
  · intro member hmember
    apply hkeys
    rw [← hnames]
    exact List.mem_map_of_mem hmember
  · intro member hmember
    simp only [tokenPayload, List.mem_cons, List.not_mem_nil, or_false] at hmember
    rcases hmember with rfl | rfl | rfl | rfl | rfl
    · exact isPlain_encode _
    · trivial
    · trivial
    · exact isPlain_encode _
    · exact hscope

/-- The members which every reader finds in a written payload. -/
def payloadMembers (scope : CsrfScope) (binding nonce : List Byte)
    (issuedAt expiresAt : Instant) : List (String × JsonValue) :=
  (tokenPayload hmac signingKey scope binding nonce issuedAt expiresAt).map fun member =>
    (member.1, member.2.value)

theorem payloadMembers_lookup (scope : CsrfScope) (binding nonce : List Byte)
    (issuedAt expiresAt : Instant) :
    (payloadMembers hmac signingKey scope binding nonce issuedAt expiresAt).lookup "binding" =
        some (.string (base64urlEncode (bindingTag hmac signingKey scope binding))) ∧
      (payloadMembers hmac signingKey scope binding nonce issuedAt expiresAt).lookup "exp" =
        some (.int (timestamp expiresAt)) ∧
      (payloadMembers hmac signingKey scope binding nonce issuedAt expiresAt).lookup "iat" =
        some (.int (timestamp issuedAt)) ∧
      (payloadMembers hmac signingKey scope binding nonce issuedAt expiresAt).lookup "nonce" =
        some (.string (base64urlEncode nonce)) ∧
      (payloadMembers hmac signingKey scope binding nonce issuedAt expiresAt).lookup "scope" =
        some (.string scope.text) := by
  simp [payloadMembers, tokenPayload, List.lookup_cons, JsonScalar.value]

/-- What is left to check of a payload which was written for a token. -/
theorem checkPayload_written (hdigest : ∀ message, (hmac signingKey message).length = 32)
    {token : CsrfToken} {binding : List Byte} {nonce : TokenBytes}
    (hissued : token.issuedAt.val % microsecondsPerSecond = 0)
    (hexpires : token.expiresAt.val = token.issuedAt.val + tokenTtl token.scope)
    {expectedScope : CsrfScope} {sessionId : Option Uuid} {now : Instant}
    {claims : CsrfTokenClaims} :
    checkPayload hmac signingKey (payloadMembers hmac signingKey token.scope binding nonce.val
        token.issuedAt token.expiresAt) expectedScope sessionId now = .ok claims ↔
      expectedScope = token.scope ∧ token.ValidAt now ∧
        checkBinding hmac signingKey expectedScope sessionId
          (bindingTag hmac signingKey token.scope binding) = .ok () ∧
        claims = ⟨expectedScope, token.issuedAt, token.expiresAt⟩ := by
  have hwhole : token.expiresAt.val % microsecondsPerSecond = 0 := by
    have httl : tokenTtl token.scope % microsecondsPerSecond = 0 := by
      cases token.scope <;> decide
    simp only [microsecondsPerSecond] at hissued httl ⊢
    omega
  have htag : (bindingTag hmac signingKey token.scope binding).length = 32 := hdigest _
  have hnonempty : ∀ bytes : List Byte, bytes.length = 32 → bytes ≠ [] := by
    rintro bytes hlength rfl
    simp at hlength
  have hkeys : hasPayloadKeys (payloadMembers hmac signingKey token.scope binding nonce.val
      token.issuedAt token.expiresAt) = true := by
    simp [hasPayloadKeys, payloadMembers, tokenPayload, payloadKeys]
  obtain ⟨hbindingText, hexp, hiat, hnonce, hscopeText⟩ := payloadMembers_lookup hmac
    signingKey token.scope binding nonce.val token.issuedAt token.expiresAt
  have htext : ∀ other : CsrfScope, token.scope.text = other.text ↔ other = token.scope := by
    intro other
    cases token.scope <;> cases other <;> decide
  simp only [checkPayload, hkeys, hscopeText, hiat, hexp, hnonce, hbindingText,
    JsonValue.string?, JsonValue.int?, Option.bind_some, except_bind_eq_ok_iff,
    ensure_eq_ok_iff, require_eq_ok_iff, except_pure_eq_ok_iff, Option.some.injEq, htext,
    exists_eq_left']
  simp only [fromTimestamp_timestamp hissued, fromTimestamp_timestamp hwhole,
    base64urlDecode_encode (hnonempty _ nonce.property),
    base64urlDecode_encode (hnonempty _ htag), Option.some.injEq, exists_eq_left', htag,
    nonce.property]
  constructor
  · rintro ⟨_, -, _, hscope, _, hlifetime, _, -, _, -, _, hbinding, hclaims⟩
    exact ⟨hscope, (checkLifetime_eq_ok_iff hissued hexpires hscope).mp hlifetime, hbinding,
      hclaims.symm⟩
  · rintro ⟨hscope, hvalid, hbinding, hclaims⟩
    exact ⟨(), trivial, (), hscope, (),
      (checkLifetime_eq_ok_iff hissued hexpires hscope).mpr hvalid, (), trivial, (), trivial,
      (), hbinding, hclaims.symm⟩

end Payload

section Created

variable (hmac : List Byte → List Byte → List Byte) (signingKey : List Byte)

def CsrfCreation.create : CsrfCreation → Option CsrfToken
  | .preauth binding nonce now => createPreauthCsrfToken hmac signingKey binding nonce now
  | .session sessionId nonce now => createSessionCsrfToken hmac signingKey sessionId nonce now

/-- The payload segment of a token. -/
def writtenSegment (token : CsrfToken) (binding nonce : List Byte) : String :=
  base64urlEncode (jsonDumps (tokenPayload hmac signingKey token.scope binding nonce
    token.issuedAt token.expiresAt))

/-- What a created token is made of. -/
structure CreatedFor (creation : CsrfCreation) (token : CsrfToken) (signature : List Byte) :
    Prop where
  scope : token.scope = creation.scope
  issuedAt : token.issuedAt = utcNow creation.now
  expiresAt : token.expiresAt.val = token.issuedAt.val + tokenTtl token.scope
  signed : tokenSignature hmac signingKey
    (writtenSegment hmac signingKey token creation.binding creation.nonce.val) = some signature
  value : token.value = tokenVersion ++ "." ++
    writtenSegment hmac signingKey token creation.binding creation.nonce.val ++ "." ++
      base64urlEncode signature

variable {hmac signingKey}

theorem CsrfCreation.createdFor {creation : CsrfCreation} {token : CsrfToken}
    (h : creation.create hmac signingKey = some token) :
    ∃ signature, CreatedFor hmac signingKey creation token signature := by
  have hcreate : createCsrfToken hmac signingKey creation.scope creation.binding
      creation.nonce.val creation.now = some token := by
    cases creation <;> exact h
  simp only [createCsrfToken, Option.bind_eq_bind, Option.bind_eq_some_iff, Option.pure_def,
    Option.some.injEq] at hcreate
  obtain ⟨expiresAt, hexpires, signature, hsignature, rfl⟩ := hcreate
  refine ⟨signature, ⟨rfl, rfl, ofMicroseconds?_eq_some_iff.mp hexpires, ?_, ?_⟩⟩
  · simp only [writtenSegment]
    exact hsignature
  · simp only [writtenSegment]

theorem signature_length (hdigest : ∀ message, (hmac signingKey message).length = 32)
    {payloadSegment : String} {signature : List Byte}
    (h : tokenSignature hmac signingKey payloadSegment = some signature) :
    signature.length = 32 := by
  obtain ⟨segment, -, rfl⟩ := Option.map_eq_some_iff.mp h
  exact hdigest _

theorem ne_nil_of_length {bytes : List Byte} (h : bytes.length = 32) : bytes ≠ [] := by
  rintro rfl
  simp at h

theorem intText_length {value : Int} (h : value.natAbs < 10 ^ 12) :
    (intText value).length ≤ 13 := by
  have hdigits := (Nat.length_toDigits_le_iff (by decide : 1 < 10) (by decide : 0 < 12)).mpr h
  rw [intText]
  split
  · rw [List.length_cons]
    omega
  · omega

theorem timestamp_natAbs (instant : Instant) : (timestamp instant).natAbs < 10 ^ 12 := by
  have hlower := instant.property.1
  have hupper := instant.property.2
  simp only [timestamp, firstInstant, lastInstant, microsecondsPerSecond] at *
  omega

/-- A payload stays far below the length limit of tokens. -/
theorem jsonDumps_tokenPayload_length
    (hdigest : ∀ message, (hmac signingKey message).length = 32) (scope : CsrfScope)
    (binding : List Byte) (nonce : TokenBytes) (issuedAt expiresAt : Instant) :
    (jsonDumps (tokenPayload hmac signingKey scope binding nonce.val issuedAt
      expiresAt)).length ≤ 300 := by
  have hbinding : (base64urlEncode (bindingTag hmac signingKey scope binding)).toList.length =
      43 := by
    rw [String.length_toList, base64urlEncode_length, bindingTag, hdigest]
  have hnonce : (base64urlEncode nonce.val).toList.length = 43 := by
    rw [String.length_toList, base64urlEncode_length, nonce.property]
  have hissued := intText_length (timestamp_natAbs issuedAt)
  have hexpires := intText_length (timestamp_natAbs expiresAt)
  have hscope : scope.text.toList.length = 7 := by
    cases scope <;> decide
  have hnames : "binding".toList.length = 7 ∧ "exp".toList.length = 3 ∧
      "iat".toList.length = 3 ∧ "nonce".toList.length = 5 ∧ "scope".toList.length = 5 := by
    decide
  simp only [jsonDumps, asciiBytes, tokenPayload, writtenMembers, writtenMember,
    JsonScalar.written, List.length_map, List.length_cons, List.length_append, List.length_nil,
    hbinding, hnonce, hscope, hnames]
  omega

theorem jsonDumps_ne_nil (members : List (String × JsonScalar)) : jsonDumps members ≠ [] := by
  simp [jsonDumps, asciiBytes]

end Created

section Verified

variable {hmac : List Byte → List Byte → List Byte} {signingKey : List Byte}
  {reader : JsonReader}

theorem verifyCsrfToken_eq_ok_iff {token : String} {expectedScope : CsrfScope}
    {sessionId : Option Uuid} {now : Instant} {claims : CsrfTokenClaims} :
    verifyCsrfToken hmac signingKey reader token expectedScope sessionId now = .ok claims ↔
      token.length ≤ maxCsrfTokenLength ∧
        ∃ payloadSegment signature payloadBytes members,
          splitToken token = some (tokenVersion, payloadSegment, base64urlEncode signature) ∧
          signature ≠ [] ∧ tokenSignature hmac signingKey payloadSegment = some signature ∧
          payloadSegment = base64urlEncode payloadBytes ∧ payloadBytes ≠ [] ∧
          reader.loads payloadBytes = some (.object members) ∧
          checkPayload hmac signingKey members expectedScope sessionId now = .ok claims := by
  have hobject : ∀ (value : JsonValue) members,
      value.object? = some members ↔ value = .object members := by
    intro value members
    cases value <;> simp [JsonValue.object?]
  simp only [verifyCsrfToken, except_bind_eq_ok_iff, ensure_eq_ok_iff, require_eq_ok_iff,
    base64urlDecode_eq_some_iff, Option.bind_eq_some_iff, hobject]
  constructor
  · rintro ⟨_, hlength, ⟨version, payloadSegment, signatureSegment⟩, hsplit, _, rfl, supplied,
      ⟨rfl, hsupplied⟩, expected, hexpected, _, rfl, payloadBytes, ⟨hpayload, hbytes⟩, members,
      ⟨value, hvalue, rfl⟩, hcheck⟩
    exact ⟨hlength, payloadSegment, supplied, payloadBytes, members, hsplit, hsupplied,
      hexpected, hpayload, hbytes, hvalue, hcheck⟩
  · rintro ⟨hlength, payloadSegment, signature, payloadBytes, members, hsplit, hsignature,
      hexpected, hpayload, hbytes, hvalue, hcheck⟩
    exact ⟨(), hlength, (tokenVersion, payloadSegment, base64urlEncode signature), hsplit, (),
      rfl, signature, ⟨rfl, hsignature⟩, signature, hexpected, (), rfl, payloadBytes,
      ⟨hpayload, hbytes⟩, members, ⟨.object members, hvalue, rfl⟩, hcheck⟩

variable {creation : CsrfCreation} {created : CsrfToken} {signature : List Byte}

theorem CreatedFor.split (h : CreatedFor hmac signingKey creation created signature) :
    splitToken created.value = some (tokenVersion,
      writtenSegment hmac signingKey created creation.binding creation.nonce.val,
      base64urlEncode signature) := by
  rw [h.value]
  apply splitToken_join
  · decide
  · exact dot_not_mem_encode _
  · exact dot_not_mem_encode _

theorem CreatedFor.length_le (hdigest : ∀ message, (hmac signingKey message).length = 32)
    (h : CreatedFor hmac signingKey creation created signature) :
    created.value.length ≤ maxCsrfTokenLength := by
  have hsegment : (writtenSegment hmac signingKey created creation.binding
      creation.nonce.val).length ≤ 401 := by
    have hpayload := jsonDumps_tokenPayload_length hdigest created.scope creation.binding
      creation.nonce created.issuedAt created.expiresAt
    rw [writtenSegment, base64urlEncode_length]
    omega
  have hsignature : (base64urlEncode signature).length = 43 := by
    rw [base64urlEncode_length, signature_length hdigest h.signed]
  have hversion : tokenVersion.length = 2 ∧ ".".length = 1 := by decide
  rw [h.value]
  simp only [String.length_append, hsignature, hversion, maxCsrfTokenLength]
  omega

/-- The binding of a created token holds for the session it was created for. -/
theorem checkBinding_eq_ok_iff (hbinding : ∀ first second : Uuid,
      bindingTag hmac signingKey .session first.bytes =
        bindingTag hmac signingKey .session second.bytes → first = second)
    {sessionId : Option Uuid} :
    checkBinding hmac signingKey creation.scope sessionId
        (bindingTag hmac signingKey creation.scope creation.binding) = .ok () ↔
      sessionId = creation.sessionId := by
  cases creation with
  | preauth binding nonce now =>
      cases sessionId <;> simp [checkBinding, CsrfCreation.scope, CsrfCreation.sessionId]
  | session id nonce now =>
      cases sessionId with
      | none => simp [checkBinding, CsrfCreation.scope, CsrfCreation.sessionId]
      | some other =>
          simp only [checkBinding, CsrfCreation.scope, CsrfCreation.sessionId,
            CsrfCreation.binding, Option.some.injEq]
          constructor
          · intro hensure
            exact (hbinding id other (ensure_eq_ok_iff.mp hensure)).symm
          · rintro rfl
            exact ensure_of_true _ rfl

/-- A created token is accepted exactly for its scope, its session and its lifetime. -/
theorem CreatedFor.verify_iff (hdigest : ∀ message, (hmac signingKey message).length = 32)
    (hbinding : ∀ first second : Uuid,
      bindingTag hmac signingKey .session first.bytes =
        bindingTag hmac signingKey .session second.bytes → first = second)
    (h : CreatedFor hmac signingKey creation created signature) {expectedScope : CsrfScope}
    {sessionId : Option Uuid} {now : Instant} {claims : CsrfTokenClaims} :
    verifyCsrfToken hmac signingKey reader created.value expectedScope sessionId now =
        .ok claims ↔
      expectedScope = creation.scope ∧ sessionId = creation.sessionId ∧ created.ValidAt now ∧
        claims = ⟨created.scope, created.issuedAt, created.expiresAt⟩ := by
  have hissued : created.issuedAt.val % microsecondsPerSecond = 0 := by
    rw [h.issuedAt]
    exact (utcNow_bounds creation.now).2.2
  have hloads := reader.loads_dumps _ (isFlatObject_tokenPayload hmac signingKey created.scope
    creation.binding creation.nonce.val created.issuedAt created.expiresAt)
  rw [verifyCsrfToken_eq_ok_iff]
  constructor
  · rintro ⟨-, payloadSegment, supplied, payloadBytes, members, hsplit, hsupplied, hsigned,
      hpayload, hbytes, hmembers, hcheck⟩
    rw [h.split] at hsplit
    simp only [Option.some.injEq, Prod.mk.injEq, true_and] at hsplit
    have hwritten : some (jsonDumps (tokenPayload hmac signingKey created.scope
        creation.binding creation.nonce.val created.issuedAt created.expiresAt)) =
        some payloadBytes := by
      rw [← base64urlDecode_encode hbytes, ← hpayload, ← hsplit.1]
      exact (base64urlDecode_encode (jsonDumps_ne_nil _)).symm
    rw [← Option.some.inj hwritten, hloads, Option.some.injEq, JsonValue.object.injEq]
      at hmembers
    rw [← hmembers] at hcheck
    obtain ⟨hscope, hvalid, hcheckBinding, hclaims⟩ :=
      (checkPayload_written hmac signingKey hdigest hissued h.expiresAt).mp hcheck
    have hscope' : expectedScope = creation.scope := hscope.trans h.scope
    rw [hscope', h.scope, checkBinding_eq_ok_iff hbinding] at hcheckBinding
    refine ⟨hscope', hcheckBinding, hvalid, ?_⟩
    rw [hclaims, hscope]
  · rintro ⟨hscope, hsession, hvalid, hclaims⟩
    have hscope' : expectedScope = created.scope := hscope.trans h.scope.symm
    have hcheckBinding : checkBinding hmac signingKey expectedScope sessionId
        (bindingTag hmac signingKey created.scope creation.binding) = .ok () := by
      rw [hscope, h.scope]
      exact (checkBinding_eq_ok_iff hbinding).mpr hsession
    have hcheck : checkPayload hmac signingKey (payloadMembers hmac signingKey created.scope
        creation.binding creation.nonce.val created.issuedAt created.expiresAt) expectedScope
        sessionId now = .ok ⟨expectedScope, created.issuedAt, created.expiresAt⟩ :=
      (checkPayload_written hmac signingKey hdigest hissued h.expiresAt).mpr
        ⟨hscope', hvalid, hcheckBinding, rfl⟩
    have hsignature := ne_nil_of_length (signature_length hdigest h.signed)
    rw [hclaims, ← hscope']
    refine ⟨h.length_le hdigest,
      writtenSegment hmac signingKey created creation.binding creation.nonce.val, signature,
      jsonDumps (tokenPayload hmac signingKey created.scope creation.binding
        creation.nonce.val created.issuedAt created.expiresAt),
      payloadMembers hmac signingKey created.scope creation.binding creation.nonce.val
        created.issuedAt created.expiresAt, ?_, ?_, ?_, ?_, ?_, ?_, ?_⟩
    · exact h.split
    · exact hsignature
    · exact h.signed
    · rw [writtenSegment]
    · exact jsonDumps_ne_nil _
    · rw [payloadMembers]
      exact hloads
    · exact hcheck

/-- The payload which a token carries. -/
def payloadBytesOf (token : String) : Option (List Byte) :=
  (splitToken token).bind fun segments => base64urlDecode segments.2.1

theorem CreatedFor.payloadBytesOf (h : CreatedFor hmac signingKey creation created signature) :
    payloadBytesOf created.value = some (jsonDumps (tokenPayload hmac signingKey created.scope
      creation.binding creation.nonce.val created.issuedAt created.expiresAt)) := by
  rw [Csrf.payloadBytesOf, h.split, Option.bind_some, writtenSegment]
  exact base64urlDecode_encode (jsonDumps_ne_nil _)

/-- An accepted string with the payload of a created token is that token. -/
theorem CreatedFor.eq_value (h : CreatedFor hmac signingKey creation created signature)
    {token : String} {expectedScope : CsrfScope} {sessionId : Option Uuid} {now : Instant}
    {claims : CsrfTokenClaims}
    (hverify : verifyCsrfToken hmac signingKey reader token expectedScope sessionId now =
      .ok claims)
    (hpayload : Csrf.payloadBytesOf token = Csrf.payloadBytesOf created.value) :
    token = created.value := by
  obtain ⟨-, payloadSegment, supplied, payloadBytes, members, hsplit, hsupplied, hsigned,
    hsegment, hbytes, -, -⟩ := verifyCsrfToken_eq_ok_iff.mp hverify
  have hsame : payloadSegment =
      writtenSegment hmac signingKey created creation.binding creation.nonce.val := by
    rw [h.payloadBytesOf, Csrf.payloadBytesOf, hsplit, Option.bind_some, hsegment,
      base64urlDecode_encode hbytes, Option.some.injEq] at hpayload
    rw [hsegment, hpayload, writtenSegment]
  have hsignature : supplied = signature := by
    rw [hsame, h.signed] at hsigned
    exact (Option.some.inj hsigned).symm
  rw [splitToken_eq_some hsplit, h.value, hsame, hsignature]

/-- A string which carries a signature that verifies has the payload of a token which was
issued: nobody without the key makes a signature. -/
def Unforged (hmac : List Byte → List Byte → List Byte) (signingKey : List Byte)
    (issued : CsrfCreation → Prop) (token : String) : Prop :=
  ∀ version payloadSegment signature,
    splitToken token = some (version, payloadSegment, base64urlEncode signature) →
    tokenSignature hmac signingKey payloadSegment = some signature →
    ∃ (creation : CsrfCreation) (created : CsrfToken), issued creation ∧
      creation.create hmac signingKey = some created ∧
      (splitToken created.value).map (fun segments => segments.2.1) = some payloadSegment

/-- A created token is accepted exactly under its own scope and session and in its window,
and no other string with its payload is accepted; of all strings without a forged signature
exactly the issued tokens are accepted, each as far as it is valid. -/
theorem csrf_tokens_exact (hdigest : ∀ message, (hmac signingKey message).length = 32)
    (hbinding : ∀ first second : Uuid,
      bindingTag hmac signingKey .session first.bytes =
        bindingTag hmac signingKey .session second.bytes → first = second) :
    (∀ (creation : CsrfCreation) (created : CsrfToken),
      creation.create hmac signingKey = some created →
      (created.issuedAt = utcNow creation.now ∧
        created.expiresAt.val = created.issuedAt.val + tokenTtl creation.scope) ∧
      (∀ expectedScope sessionId now claims,
        verifyCsrfToken hmac signingKey reader created.value expectedScope sessionId now =
            .ok claims ↔
          expectedScope = creation.scope ∧ sessionId = creation.sessionId ∧
            created.ValidAt now ∧
            claims = ⟨creation.scope, created.issuedAt, created.expiresAt⟩) ∧
      ∀ token expectedScope sessionId now claims,
        verifyCsrfToken hmac signingKey reader token expectedScope sessionId now = .ok claims →
        Csrf.payloadBytesOf token = Csrf.payloadBytesOf created.value →
        token = created.value) ∧
    ∀ issued token, Unforged hmac signingKey issued token →
      ∀ expectedScope sessionId now claims,
        verifyCsrfToken hmac signingKey reader token expectedScope sessionId now = .ok claims ↔
          ∃ (creation : CsrfCreation) (created : CsrfToken), issued creation ∧
            creation.create hmac signingKey = some created ∧
            token = created.value ∧ expectedScope = creation.scope ∧
            sessionId = creation.sessionId ∧ created.ValidAt now ∧
            claims = ⟨creation.scope, created.issuedAt, created.expiresAt⟩ := by
  have hverify : ∀ (creation : CsrfCreation) (created : CsrfToken),
      creation.create hmac signingKey = some created →
      ∀ expectedScope sessionId now claims,
        verifyCsrfToken hmac signingKey reader created.value expectedScope sessionId now =
            .ok claims ↔
          expectedScope = creation.scope ∧ sessionId = creation.sessionId ∧
            created.ValidAt now ∧
            claims = ⟨creation.scope, created.issuedAt, created.expiresAt⟩ := by
    intro creation created hcreate expectedScope sessionId now claims
    obtain ⟨signature, hcreated⟩ := creation.createdFor hcreate
    rw [hcreated.verify_iff hdigest hbinding, hcreated.scope]
  constructor
  · intro creation created hcreate
    obtain ⟨signature, hcreated⟩ := creation.createdFor hcreate
    refine ⟨⟨hcreated.issuedAt, ?_⟩, hverify creation created hcreate, ?_⟩
    · rw [← hcreated.scope]
      exact hcreated.expiresAt
    · intro token expectedScope sessionId now claims haccepted hpayload
      exact hcreated.eq_value haccepted hpayload
  · intro issued token hunforged expectedScope sessionId now claims
    constructor
    · intro haccepted
      obtain ⟨-, payloadSegment, supplied, payloadBytes, members, hsplit, -, hsigned,
        hsegment, hbytes, -, -⟩ := verifyCsrfToken_eq_ok_iff.mp haccepted
      obtain ⟨creation, created, hissued, hcreate, hpayload⟩ :=
        hunforged _ _ _ hsplit hsigned
      obtain ⟨signature, hcreated⟩ := creation.createdFor hcreate
      rw [hcreated.split, Option.map_some, Option.some.injEq] at hpayload
      have hsame : token = created.value := by
        apply hcreated.eq_value haccepted
        rw [Csrf.payloadBytesOf, Csrf.payloadBytesOf, hsplit, hcreated.split, Option.bind_some,
          Option.bind_some, hpayload]
      rw [hsame] at haccepted
      exact ⟨creation, created, hissued, hcreate, hsame,
        (hverify creation created hcreate _ _ _ _).mp haccepted⟩
    · rintro ⟨creation, created, -, hcreate, rfl, hvalid⟩
      exact (hverify creation created hcreate _ _ _ _).mpr hvalid

end Verified

section Example

/-- A token is created unless its expiry overflows. -/
theorem CsrfCreation.exists_create (hmac : List Byte → List Byte → List Byte)
    (signingKey : List Byte) (creation : CsrfCreation)
    (h : (utcNow creation.now).val + tokenTtl creation.scope ≤ lastInstant) :
    ∃ created, creation.create hmac signingKey = some created := by
  have hcreate : creation.create hmac signingKey = createCsrfToken hmac signingKey
      creation.scope creation.binding creation.nonce.val creation.now := by
    cases creation <;> rfl
  have hfirst : firstInstant ≤ (utcNow creation.now).val + tokenTtl creation.scope := by
    have hnow := (utcNow creation.now).property.1
    have httl : 0 ≤ tokenTtl creation.scope := by
      cases creation.scope <;> decide
    omega
  have hshift : shift? (utcNow creation.now) (tokenTtl creation.scope) =
      some ⟨_, hfirst, h⟩ := ofMicroseconds?_eq_some_iff.mpr rfl
  have hascii : ∀ bytes : List Byte, ∀ char ∈ (base64urlEncode bytes).toList,
      char.toNat < 128 := fun bytes => (isPlain_encode bytes).ascii
  rw [hcreate, createCsrfToken, hshift]
  simp only [Option.bind_eq_bind, Option.bind_some, tokenSignature, encodeAscii,
    if_pos (hascii _), Option.map_some, Option.pure_def]
  exact ⟨_, rfl⟩

/-- The last 32 bytes of a message, which keep the sessions apart. -/
def lastBytesDigest (_ message : List Byte) : List Byte :=
  (List.replicate 32 (0 : Byte) ++ message).drop message.length

theorem lastBytesDigest_length (signingKey message : List Byte) :
    (lastBytesDigest signingKey message).length = 32 := by
  rw [lastBytesDigest, List.length_drop, List.length_append, List.length_replicate,
    Nat.add_sub_cancel]

theorem lastBytesDigest_binding (signingKey : List Byte) (first second : Uuid)
    (h : bindingTag lastBytesDigest signingKey .session first.bytes =
      bindingTag lastBytesDigest signingKey .session second.bytes) : first = second := by
  have hlength : ∀ id : Uuid, id.bytes.length = 16 := fun id => toBigEndian_length 16 id.val
  have htag : ∀ id : Uuid, (bindingTag lastBytesDigest signingKey .session id.bytes).drop 16 =
      id.bytes := by
    intro id
    have hmessage : ∃ front : List Byte, front.length = 34 ∧
        bindingMessage .session id.bytes = front ++ id.bytes :=
      ⟨_, by decide, rfl⟩
    obtain ⟨front, hfront, hmessage⟩ := hmessage
    rw [bindingTag, lastBytesDigest, List.drop_drop, hmessage, ← List.append_assoc,
      List.drop_left']
    simp [hfront, hlength]
  have hbytes : first.bytes = second.bytes := by rw [← htag first, h, htag]
  rw [← Uuid.ofBytes_bytes first, hbytes, Uuid.ofBytes_bytes]

def zeroNonce : TokenBytes := ⟨List.replicate 32 0, by decide⟩

theorem csrf_tokens_exact_session : ∃ created : CsrfToken,
    (CsrfCreation.session 1 zeroNonce ⟨0, by decide⟩).create lastBytesDigest [] =
        some created ∧
      ∀ sessionId now claims,
        verifyCsrfToken lastBytesDigest [] flatReader created.value .session sessionId now =
            .ok claims ↔
          CsrfScope.session = .session ∧ sessionId = some 1 ∧ created.ValidAt now ∧
            claims = ⟨.session, created.issuedAt, created.expiresAt⟩ := by
  obtain ⟨created, hcreate⟩ := CsrfCreation.exists_create lastBytesDigest []
    (.session 1 zeroNonce ⟨0, by decide⟩) (by decide)
  exact ⟨created, hcreate, ((csrf_tokens_exact (lastBytesDigest_length [])
    (lastBytesDigest_binding [])).1 _ created hcreate).2.1 .session⟩

/-- The last instant at which a session token can be issued, and an instant 15 seconds before
the last one of all. -/
def lastIssue : Instant := ⟨lastInstant - sessionCsrfTtl, by decide⟩

def nearLast : Instant := ⟨lastInstant - 15 * microsecondsPerSecond, by decide⟩

/-- Near the last instant a token is refused before it expires. -/
theorem not_accepted_near_last :
    ¬ ∀ (creation : CsrfCreation) (created : CsrfToken),
      creation.create lastBytesDigest [] = some created → ∀ sessionId now,
        ((∃ claims, verifyCsrfToken lastBytesDigest [] flatReader created.value .session
            sessionId now = .ok claims) ↔
          creation.scope = .session ∧ sessionId = creation.sessionId ∧
            created.issuedAt.val - clockSkew ≤ now.val ∧
            now.val < created.expiresAt.val + clockSkew) := by
  intro hall
  obtain ⟨created, hcreate⟩ := CsrfCreation.exists_create lastBytesDigest []
    (.session 1 zeroNonce lastIssue) (by decide)
  obtain ⟨signature, hcreated⟩ := CsrfCreation.createdFor hcreate
  have hissued : created.issuedAt = utcNow lastIssue := hcreated.issuedAt
  have hexpires : created.expiresAt.val = (utcNow lastIssue).val + sessionCsrfTtl := by
    rw [hcreated.expiresAt, hissued, hcreated.scope]
    rfl
  obtain ⟨claims, hclaims⟩ := (hall _ created hcreate (some 1) nearLast).mpr
    ⟨rfl, rfl, by rw [hissued]; decide, by rw [hexpires]; decide⟩
  have hvalid := ((hcreated.verify_iff (lastBytesDigest_length [])
    (lastBytesDigest_binding [])).mp hclaims).2.2.1
  exact absurd hvalid.notLast (by decide)

end Example

end Csrf

end BuddyWeb
