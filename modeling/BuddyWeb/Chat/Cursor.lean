/-
The opaque cursor of a chat history page: the instant and the id of a message,
packed into bytes and written as URL-safe Base64 without padding.
-/
import Mathlib.Algebra.Group.Int.Defs
import Mathlib.Data.Int.Order.Basic
import Mathlib.Order.Fin.Basic
import BuddyWeb.Lib.Bytes
import BuddyWeb.Lib.Outcome

namespace BuddyWeb

def firstInstant : Int := -62135596800000000

def lastInstant : Int := 253402300799999999

/-- A `datetime` in UTC as microseconds since 1970, within the years 1 to 9999. -/
abbrev Instant : Type := {microseconds : Int //
  firstInstant ≤ microseconds ∧ microseconds ≤ lastInstant}

theorem instant_zero : firstInstant ≤ 0 ∧ 0 ≤ lastInstant := by
  decide

theorem instant_one : firstInstant ≤ 1 ∧ 1 ≤ lastInstant := by
  decide

instance (first second : Instant) : Decidable (first < second) :=
  Int.decLt first.val second.val

instance (first second : Instant) : Decidable (first ≤ second) :=
  Int.decLe first.val second.val

def Instant.ofMicroseconds? (microseconds : Int) : Option Instant :=
  if h : firstInstant ≤ microseconds ∧ microseconds ≤ lastInstant then
    some ⟨microseconds, h⟩
  else none

theorem Instant.ofMicroseconds?_val (instant : Instant) :
    Instant.ofMicroseconds? instant.val = some instant := by
  unfold Instant.ofMicroseconds?
  rw [dif_pos instant.property]

abbrev Uuid : Type := Fin (2 ^ 128)

instance uuidNeZero : NeZero (2 ^ 128) := ⟨by decide⟩

instance uuidLawfulBEq : LawfulBEq Uuid := inferInstance

/-- Why a chat service refuses a request. -/
inductive ChatError
  | messageInvalid
  | activeConversationRequired
  | idempotencyKeyReused
  | conversationNotFound
  | messageNotFound
  | invalidCursor
  | pageSizeInvalid
  | instantOverflow
  | integrity
  deriving DecidableEq, Repr

def cursorVersion : Nat := 1

def cursorLength : Nat := 25

/-- `struct.pack(">Bq", version, microseconds)`. -/
def packCursorHeader (version : Nat) (microseconds : Int) : List Byte :=
  toBigEndian 1 version ++ toBigEndian 8 (microseconds % 2 ^ 64).toNat

/-- The version and the signed number of a packed header. -/
def unpackCursorHeader (bytes : List Byte) : Nat × Int :=
  let number := ofBigEndian (bytes.drop 1)
  (ofBigEndian (bytes.take 1), if number < 2 ^ 63 then number else number - 2 ^ 64)

/-- `UUID.bytes`. -/
def Uuid.bytes (id : Uuid) : List Byte :=
  toBigEndian 16 id.val

def Uuid.ofBytes (bytes : List Byte) : Uuid :=
  Fin.ofNat (2 ^ 128) (ofBigEndian bytes)

def encodeBuddyMessageCursor (createdAt : Instant) (messageId : Uuid) : String :=
  let raw := packCursorHeader cursorVersion createdAt.val
  String.ofList ((urlsafeB64encode (raw ++ messageId.bytes)).rdropWhile (· = '='))

/-- Only cursors of this version with an instant from 1970 on are decoded. -/
def decodeBuddyMessageCursor (cursor : String) : Except ChatError (Instant × Uuid) := do
  let padded := cursor.toList ++ List.replicate ((4 - cursor.length % 4) % 4) '='
  let raw ← require (b64decode padded) .invalidCursor
  ensure (raw.length = cursorLength) .invalidCursor
  let header := unpackCursorHeader (raw.take 9)
  ensure (header.1 = cursorVersion ∧ 0 ≤ header.2) .invalidCursor
  let createdAt ← require (Instant.ofMicroseconds? header.2) .invalidCursor
  return (createdAt, Uuid.ofBytes (raw.drop 9))

section RoundTrip

theorem packCursorHeader_length (version : Nat) (microseconds : Int) :
    (packCursorHeader version microseconds).length = 9 := by
  simp [packCursorHeader]

theorem unpackCursorHeader_pack {version : Nat} {microseconds : Int}
    (hversion : version < 256) (hlower : 0 ≤ microseconds)
    (hupper : microseconds < 2 ^ 63) :
    unpackCursorHeader (packCursorHeader version microseconds) =
      (version, microseconds) := by
  have hversionBytes : ofBigEndian (toBigEndian 1 version) = version :=
    ofBigEndian_toBigEndian (by simpa using hversion)
  have hnumber : (microseconds % 2 ^ 64).toNat = microseconds.toNat := by
    rw [Int.emod_eq_of_lt hlower (by omega)]
  have hbytes : ofBigEndian (toBigEndian 8 microseconds.toNat) = microseconds.toNat :=
    ofBigEndian_toBigEndian (by omega)
  have htake : (packCursorHeader version microseconds).take 1 = toBigEndian 1 version := by
    rw [packCursorHeader, List.take_left' (toBigEndian_length 1 version)]
  have hdrop : (packCursorHeader version microseconds).drop 1 =
      toBigEndian 8 microseconds.toNat := by
    rw [packCursorHeader, hnumber, List.drop_left' (toBigEndian_length 1 version)]
  simp only [unpackCursorHeader, htake, hdrop, hversionBytes, hbytes]
  rw [if_pos (by omega), Int.toNat_of_nonneg hlower]

theorem Uuid.ofBytes_bytes (id : Uuid) : Uuid.ofBytes id.bytes = id := by
  unfold Uuid.ofBytes Uuid.bytes
  rw [ofBigEndian_toBigEndian id.isLt]
  exact Fin.ofNat_val_eq_self id

/-- A cursor of a message from 1970 on decodes to the message's instant and id. -/
theorem decode_encodeBuddyMessageCursor {createdAt : Instant} (messageId : Uuid)
    (h : 0 ≤ createdAt.val) :
    decodeBuddyMessageCursor (encodeBuddyMessageCursor createdAt messageId) =
      .ok (createdAt, messageId) := by
  have hupper : createdAt.val < 2 ^ 63 := by
    have hlast := createdAt.property.2
    unfold lastInstant at hlast
    omega
  have hheader := packCursorHeader_length cursorVersion createdAt.val
  have hidLength : messageId.bytes.length = 16 := toBigEndian_length 16 messageId.val
  have hsextets : (sextetsOfBytes
      (packCursorHeader cursorVersion createdAt.val ++ messageId.bytes)).length = 34 := by
    rw [sextetsOfBytes_length, List.length_append, hheader, hidLength]
  have hcursor : (encodeBuddyMessageCursor createdAt messageId).toList =
      (sextetsOfBytes (packCursorHeader cursorVersion createdAt.val ++
        messageId.bytes)).map urlsafeChar := by
    rw [encodeBuddyMessageCursor, String.toList_ofList, rdropWhile_urlsafeB64encode]
  have hlength : (encodeBuddyMessageCursor createdAt messageId).length = 34 := by
    rw [← String.length_toList, hcursor, List.length_map, hsextets]
  have hdecoded : b64decode ((encodeBuddyMessageCursor createdAt messageId).toList ++
      List.replicate ((4 - 34 % 4) % 4) '=') =
        some (packCursorHeader cursorVersion createdAt.val ++ messageId.bytes) := by
    rw [hcursor]
    exact b64decode_of_sextets _ (by decide) (by rw [hsextets])
  have hraw : (packCursorHeader cursorVersion createdAt.val ++
      messageId.bytes).length = cursorLength := by
    rw [List.length_append, hheader, hidLength]
    rfl
  have hunpack : unpackCursorHeader (packCursorHeader cursorVersion createdAt.val) =
      (cursorVersion, createdAt.val) := unpackCursorHeader_pack (by decide) h hupper
  have htake : (packCursorHeader cursorVersion createdAt.val ++ messageId.bytes).take 9 =
      packCursorHeader cursorVersion createdAt.val := List.take_left' hheader
  have hdrop : (packCursorHeader cursorVersion createdAt.val ++ messageId.bytes).drop 9 =
      messageId.bytes := List.drop_left' hheader
  simp only [decodeBuddyMessageCursor, hlength, hdecoded, require, bind, Except.bind,
    ensure_of_true _ hraw, htake, hdrop, hunpack, Instant.ofMicroseconds?_val,
    Uuid.ofBytes_bytes, pure, Except.pure]
  simp [ensure, h]

example : encodeBuddyMessageCursor ⟨0, by decide⟩ 1 =
    "AQAAAAAAAAAAAAAAAAAAAAAAAAAAAAAAAQ" := by
  decide +kernel

end RoundTrip

end BuddyWeb
