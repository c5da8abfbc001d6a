/-
Which texts are decoded as a history cursor, and which of them were issued as one.
-/
import BuddyWeb.Lib.CanonicalBase64
import BuddyWeb.Chat.Cursor

namespace BuddyWeb

/-- The characters of a cursor before any padding. -/
def cursorBody (cursor : String) : List Char :=
  cursor.toList.takeWhile (· ≠ '=')

def cursorEnd (cursor : String) : List Char :=
  cursor.toList.dropWhile (· ≠ '=')

/-- A text spells the sextets of a cursor of this version with an instant from 1970 on. -/
structure CarriesCursor (cursor : String) (sextets : List Sextet) : Prop where
  body : (cursorBody cursor).mapM sextetOfChar = some sextets
  count : sextets.length = 34
  padding : ∀ char ∈ cursorEnd cursor, char = '='
  atMostTwo : (cursorEnd cursor).length ≤ 2
  version : ∀ bytes, bytesOfSextets sextets = some bytes →
    (unpackCursorHeader (bytes.take 9)).1 = cursorVersion
  instant : ∀ bytes, bytesOfSextets sextets = some bytes →
    0 ≤ (unpackCursorHeader (bytes.take 9)).2 ∧
      (unpackCursorHeader (bytes.take 9)).2 ≤ lastInstant

/-- It spells them in the one way in which a cursor is issued: in the URL-safe alphabet,
without padding and without spare bits. -/
structure WrittenAsIssued (cursor : String) (sextets : List Sextet) : Prop where
  unpadded : cursorEnd cursor = []
  urlsafe : ∀ char ∈ cursorBody cursor, isAlternative char = false
  spare : spareBits sextets = 0

section Header

theorem pack_unpackCursorHeader {header : List Byte} (hlength : header.length = 9)
    (hinstant : 0 ≤ (unpackCursorHeader header).2) :
    packCursorHeader (unpackCursorHeader header).1 (unpackCursorHeader header).2 =
      header := by
  have htail : (header.drop 1).length = 8 := by rw [List.length_drop, hlength]
  have hbound := ofBigEndian_lt (header.drop 1)
  rw [htail] at hbound
  have hnumber : (unpackCursorHeader header).2 = (ofBigEndian (header.drop 1) : Int) := by
    simp only [unpackCursorHeader] at hinstant ⊢
    split at hinstant
    · rename_i hsmall
      rw [if_pos hsmall]
    · omega
  have hsmall : ((ofBigEndian (header.drop 1) : Int) % 2 ^ 64).toNat =
      ofBigEndian (header.drop 1) := by
    omega
  have hversion : toBigEndian 1 (unpackCursorHeader header).1 = header.take 1 := by
    have hone : (header.take 1).length = 1 := by simp [hlength]
    have hback := toBigEndian_ofBigEndian (header.take 1)
    rw [hone] at hback
    exact hback
  have hback := toBigEndian_ofBigEndian (header.drop 1)
  rw [htail] at hback
  rw [packCursorHeader, hnumber, hsmall, hversion, hback, List.take_append_drop]

theorem Uuid.bytes_ofBytes {bytes : List Byte} (hlength : bytes.length = 16) :
    (Uuid.ofBytes bytes).bytes = bytes := by
  have hbound := ofBigEndian_lt bytes
  have hback := toBigEndian_ofBigEndian bytes
  rw [hlength] at hbound hback
  have hvalue : (Fin.ofNat (2 ^ 128) (ofBigEndian bytes)).val = ofBigEndian bytes := by
    rw [Fin.val_ofNat, Nat.mod_eq_of_lt (by omega)]
  rw [Uuid.bytes, Uuid.ofBytes, hvalue, hback]

end Header

section Padded

variable (cursor : String)

/-- The text with the padding which fills its last group. -/
def paddedCursor : List Char :=
  cursor.toList ++ List.replicate ((4 - cursor.length % 4) % 4) '='

theorem paddedCursor_takeWhile :
    (paddedCursor cursor).takeWhile (· ≠ '=') = cursorBody cursor := by
  rw [paddedCursor, List.takeWhile_append]
  split
  · rename_i hwhole
    have hself : cursorBody cursor = cursor.toList :=
      (List.takeWhile_prefix _).eq_of_length hwhole
    rw [hself]
    cases (4 - cursor.length % 4) % 4 <;> simp [List.replicate_succ]
  · rfl

theorem paddedCursor_dropWhile :
    (paddedCursor cursor).dropWhile (· ≠ '=') =
      cursorEnd cursor ++ List.replicate ((4 - cursor.length % 4) % 4) '=' := by
  have hsplit : (paddedCursor cursor).takeWhile (· ≠ '=') ++
      (paddedCursor cursor).dropWhile (· ≠ '=') = cursorBody cursor ++
        (cursorEnd cursor ++ List.replicate ((4 - cursor.length % 4) % 4) '=') := by
    rw [List.takeWhile_append_dropWhile, ← List.append_assoc, cursorBody, cursorEnd,
      List.takeWhile_append_dropWhile]
    rfl
  rw [paddedCursor_takeWhile] at hsplit
  exact List.append_cancel_left hsplit

theorem cursor_length : cursor.length =
    (cursorBody cursor).length + (cursorEnd cursor).length := by
  rw [← List.length_append, cursorBody, cursorEnd, List.takeWhile_append_dropWhile,
    String.length_toList]

end Padded

section Decoded

variable {cursor : String} {createdAt : Instant} {messageId : Uuid}

theorem decodeBuddyMessageCursor_eq_ok_iff :
    decodeBuddyMessageCursor cursor = .ok (createdAt, messageId) ↔
      ∃ bytes, b64decode (paddedCursor cursor) = some bytes ∧
        bytes.length = cursorLength ∧
        unpackCursorHeader (bytes.take 9) = (cursorVersion, createdAt.val) ∧
        0 ≤ createdAt.val ∧ messageId = Uuid.ofBytes (bytes.drop 9) := by
  simp only [decodeBuddyMessageCursor, except_bind_eq_ok_iff, require_eq_ok_iff,
    ensure_eq_ok_iff, except_pure_eq_ok_iff, Prod.mk.injEq]
  constructor
  · rintro ⟨bytes, hbytes, _, hlength, _, ⟨hversion, hinstant⟩, created, hcreated, heq, hid⟩
    have hval : (unpackCursorHeader (bytes.take 9)).2 = createdAt.val := by
      simp only [Instant.ofMicroseconds?] at hcreated
      split at hcreated
      · cases Option.some.inj hcreated
        rw [← heq]
      · cases hcreated
    refine ⟨bytes, hbytes, hlength, Prod.ext hversion hval, ?_, hid.symm⟩
    rw [← hval]
    exact hinstant
  · rintro ⟨bytes, hbytes, hlength, hheader, hinstant, hid⟩
    refine ⟨bytes, hbytes, ⟨⟩, hlength, ⟨⟩, ?_, createdAt, ?_, rfl, hid.symm⟩
    · rw [hheader]
      exact ⟨rfl, hinstant⟩
    · rw [hheader]
      exact Instant.ofMicroseconds?_val createdAt

/-- Whatever cannot be decoded is refused in one way. -/
theorem decodeBuddyMessageCursor_error {error : ChatError}
    (h : decodeBuddyMessageCursor cursor = .error error) : error = .invalidCursor := by
  simp only [decodeBuddyMessageCursor, except_bind_eq_error_iff, require_eq_error_iff,
    ensure_eq_error_iff, except_pure_ne_error, and_false, exists_false, or_false] at h
  obtain ⟨-, h⟩ | ⟨_, -, ⟨-, h⟩ | ⟨_, -, ⟨-, h⟩ | ⟨_, -, -, h⟩⟩⟩ := h
  all_goals exact h.symm

/-- A decoded text carries a cursor whose bytes are those of the instant and the id. -/
theorem decode_eq_ok_iff_carries :
    decodeBuddyMessageCursor cursor = .ok (createdAt, messageId) ↔
      0 ≤ createdAt.val ∧ ∃ sextets, CarriesCursor cursor sextets ∧ bytesOfSextets sextets =
        some (packCursorHeader cursorVersion createdAt.val ++ messageId.bytes) := by
  rw [decodeBuddyMessageCursor_eq_ok_iff]
  constructor
  · rintro ⟨bytes, hdecode, hlength, hheader, hinstant, hid⟩
    obtain ⟨⟨hall, hpads, -⟩, sextets, hbody, hsextets⟩ := b64decode_eq_some_iff.mp hdecode
    rw [paddedCursor_takeWhile] at hbody
    rw [paddedCursor_dropWhile] at hall hpads
    have hcount : sextets.length = 34 := by
      have hbytes := bytesOfSextets_length hsextets
      rw [hlength, cursorLength] at hbytes
      omega
    have htake : (bytes.take 9).length = 9 := by rw [List.length_take, hlength]; rfl
    have hdrop : (bytes.drop 9).length = 16 := by rw [List.length_drop, hlength]; rfl
    have hfront : packCursorHeader cursorVersion createdAt.val = bytes.take 9 := by
      have hpack := pack_unpackCursorHeader htake (by rw [hheader]; exact hinstant)
      rwa [hheader] at hpack
    refine ⟨hinstant, sextets, ⟨hbody, hcount, ?_, ?_, ?_, ?_⟩, ?_⟩
    · intro char hchar
      simpa using List.all_eq_true.mp hall char (List.mem_append_left _ hchar)
    · rw [List.length_append] at hpads
      omega
    · intro other hother
      cases Option.some.inj (hother.symm.trans hsextets)
      rw [hheader]
    · intro other hother
      cases Option.some.inj (hother.symm.trans hsextets)
      rw [hheader]
      exact ⟨hinstant, createdAt.property.2⟩
    · rw [hsextets, hfront, hid, Uuid.bytes_ofBytes hdrop, List.take_append_drop]
  · rintro ⟨hinstant, sextets, hcarries, hsextets⟩
    have hheader := packCursorHeader_length cursorVersion createdAt.val
    have hidLength : messageId.bytes.length = 16 := toBigEndian_length 16 messageId.val
    have htake : (packCursorHeader cursorVersion createdAt.val ++ messageId.bytes).take 9 =
        packCursorHeader cursorVersion createdAt.val := List.take_left' hheader
    have hdrop : (packCursorHeader cursorVersion createdAt.val ++ messageId.bytes).drop 9 =
        messageId.bytes := List.drop_left' hheader
    have hbodyLength : (cursorBody cursor).length = 34 := by
      rw [← hcarries.count]
      exact (length_of_mapM_sextetOfChar hcarries.body).symm
    have htotal := cursor_length cursor
    have hpads := hcarries.atMostTwo
    have hlast : createdAt.val ≤ 253402300799999999 := createdAt.property.2
    have hbound : createdAt.val < 2 ^ 63 := by omega
    refine ⟨_, b64decode_eq_some_iff.mpr ⟨⟨?_, ?_, ?_⟩, sextets, ?_, hsextets⟩, ?_, ?_, ?_, ?_⟩
    · rw [paddedCursor_dropWhile, List.all_append, Bool.and_eq_true, List.all_eq_true]
      refine ⟨fun char hchar => by simpa using hcarries.padding char hchar, ?_⟩
      simp
    · rw [paddedCursor_dropWhile, List.length_append, List.length_replicate]
      omega
    · rw [paddedCursor, List.length_append, List.length_replicate, String.length_toList]
      omega
    · rw [paddedCursor_takeWhile]
      exact hcarries.body
    · rw [List.length_append, hheader, hidLength]
      rfl
    · rw [htake, unpackCursorHeader_pack (by decide) hinstant hbound]
    · exact hinstant
    · rw [hdrop, Uuid.ofBytes_bytes]

end Decoded

section Exact

variable {cursor : String}

/-- What was issued for an instant from 1970 on is written without padding, in the
URL-safe alphabet and without spare bits. -/
theorem writtenAsIssued_encode {createdAt : Instant} {messageId : Uuid}
    {sextets : List Sextet} (hbody : (cursorBody
      (encodeBuddyMessageCursor createdAt messageId)).mapM sextetOfChar = some sextets) :
    WrittenAsIssued (encodeBuddyMessageCursor createdAt messageId) sextets := by
  have htext : (encodeBuddyMessageCursor createdAt messageId).toList =
      (sextetsOfBytes (packCursorHeader cursorVersion createdAt.val ++
        messageId.bytes)).map urlsafeChar := by
    rw [encodeBuddyMessageCursor, String.toList_ofList, rdropWhile_urlsafeB64encode]
  have hpad : ∀ char ∈ (encodeBuddyMessageCursor createdAt messageId).toList,
      decide (char ≠ '=') = true := by
    intro char hchar
    rw [htext, List.mem_map] at hchar
    obtain ⟨sextet, -, hsextet⟩ := hchar
    rw [← hsextet]
    exact decide_eq_true (urlsafeChar_ne_pad sextet)
  have hwhole : cursorBody (encodeBuddyMessageCursor createdAt messageId) =
      (encodeBuddyMessageCursor createdAt messageId).toList :=
    List.takeWhile_eq_self_iff.mpr hpad
  rw [hwhole, htext, mapM_sextetOfChar] at hbody
  constructor
  · exact List.dropWhile_eq_nil_iff.mpr hpad
  · intro char hchar
    rw [hwhole, htext, List.mem_map] at hchar
    obtain ⟨sextet, -, hsextet⟩ := hchar
    rw [← hsextet]
    exact urlsafeChar_not_alternative sextet
  · rw [← Option.some.inj hbody]
    exact spareBits_sextetsOfBytes _

/-- A text which carries a cursor and is written as issued is the cursor itself. -/
theorem WrittenAsIssued.eq_encode {createdAt : Instant} {messageId : Uuid}
    {sextets : List Sextet} (hwritten : WrittenAsIssued cursor sextets)
    (hbody : (cursorBody cursor).mapM sextetOfChar = some sextets)
    (hsextets : bytesOfSextets sextets =
      some (packCursorHeader cursorVersion createdAt.val ++ messageId.bytes)) :
    cursor = encodeBuddyMessageCursor createdAt messageId := by
  have hwhole : cursorBody cursor = cursor.toList := by
    have hsplit : cursorBody cursor ++ cursorEnd cursor = cursor.toList :=
      List.takeWhile_append_dropWhile
    rwa [hwritten.unpadded, List.append_nil] at hsplit
  rw [← String.toList_inj, encodeBuddyMessageCursor, String.toList_ofList,
    rdropWhile_urlsafeB64encode,
    sextetsOfBytes_of_bytesOfSextets hsextets hwritten.spare, ← hwhole]
  exact (map_urlsafeChar_of_mapM hbody hwritten.urlsafe).symm

/-- Every carried cursor is decoded to some instant and id. -/
theorem CarriesCursor.exists_decode {sextets : List Sextet}
    (h : CarriesCursor cursor sextets) : ∃ createdAt : Instant, ∃ messageId : Uuid,
      decodeBuddyMessageCursor cursor = .ok (createdAt, messageId) := by
  have hcount := h.count
  have hgroups : sextets.length % 4 ≠ 1 := by omega
  obtain ⟨bytes, hbytes⟩ := exists_bytesOfSextets hgroups
  have hlength := (bytesOfSextets_length hbytes).1
  rw [hcount] at hlength
  have hversion := h.version bytes hbytes
  obtain ⟨hinstant, hlast⟩ := h.instant bytes hbytes
  have hfirst : firstInstant ≤ (unpackCursorHeader (bytes.take 9)).2 :=
    le_trans (by decide) hinstant
  have htake : (bytes.take 9).length = 9 := by rw [List.length_take, hlength]; rfl
  have hdrop : (bytes.drop 9).length = 16 := by rw [List.length_drop, hlength]
  have hfront := pack_unpackCursorHeader htake hinstant
  rw [hversion] at hfront
  refine ⟨⟨_, hfirst, hlast⟩, Uuid.ofBytes (bytes.drop 9),
    decode_eq_ok_iff_carries.mpr ⟨hinstant, sextets, h, ?_⟩⟩
  rw [hbytes, hfront, Uuid.bytes_ofBytes hdrop, List.take_append_drop]

/-- A text decodes exactly to the instant and the id it was issued for, and any other text
is refused as an invalid cursor. -/
structure CursorExact (cursor : String) : Prop where
  issued : ∀ (createdAt : Instant) (messageId : Uuid), 0 ≤ createdAt.val →
    (decodeBuddyMessageCursor cursor = .ok (createdAt, messageId) ↔
      cursor = encodeBuddyMessageCursor createdAt messageId)
  refused : (∀ (createdAt : Instant) (messageId : Uuid), 0 ≤ createdAt.val →
      cursor ≠ encodeBuddyMessageCursor createdAt messageId) →
    decodeBuddyMessageCursor cursor = .error .invalidCursor

/-- Decoding is exact on a text unless it spells a cursor in another way than it is
issued. -/
theorem cursorExact_iff (cursor : String) :
    CursorExact cursor ↔
      ∀ sextets, CarriesCursor cursor sextets → WrittenAsIssued cursor sextets := by
  constructor
  · intro hexact sextets hcarries
    obtain ⟨createdAt, messageId, hdecode⟩ := hcarries.exists_decode
    have hinstant := (decode_eq_ok_iff_carries.mp hdecode).1
    have hcursor := (hexact.issued createdAt messageId hinstant).mp hdecode
    have hbody := hcarries.body
    rw [hcursor] at hbody ⊢
    exact writtenAsIssued_encode hbody
  · intro hwritten
    have hissued : ∀ (createdAt : Instant) (messageId : Uuid),
        decodeBuddyMessageCursor cursor = .ok (createdAt, messageId) →
        cursor = encodeBuddyMessageCursor createdAt messageId := by
      intro createdAt messageId hdecode
      obtain ⟨-, sextets, hcarries, hsextets⟩ := decode_eq_ok_iff_carries.mp hdecode
      exact (hwritten sextets hcarries).eq_encode hcarries.body hsextets
    constructor
    · intro createdAt messageId hinstant
      constructor
      · exact hissued createdAt messageId
      · intro hcursor
        rw [hcursor]
        exact decode_encodeBuddyMessageCursor messageId hinstant
    · intro hother
      cases hdecode : decodeBuddyMessageCursor cursor with
      | error error => rw [decodeBuddyMessageCursor_error hdecode]
      | ok result =>
          have hinstant := (decode_eq_ok_iff_carries.mp hdecode).1
          exact absurd (hissued _ _ hdecode) (hother _ _ hinstant)

end Exact

/-- A cursor with a spare bit set is decoded although it was never issued. -/
theorem not_cursorExact_spareBit : ¬ ∀ cursor : String, CursorExact cursor := by
  intro hall
  have hexact := (hall "AQAAAAAAAAAAAAAAAAAAAAAAAAAAAAAAAR").issued ⟨0, by decide⟩ 1
    (by decide)
  exact absurd hexact (by decide +kernel)

end BuddyWeb
