/-
Invitation messages as the web client and the server read them.
-/
import BuddyWeb.Lib.WordRuns
import BuddyWeb.Chat.WireContract
import BuddyWeb.Matching.InvitationSending

namespace BuddyWeb

inductive InvitationMessageReason
  | tooManyWords
  | tooManyCodePoints
  deriving DecidableEq, Repr

structure InvitationMessageValidation where
  canonical : String
  wordCount : Nat
  codePointCount : Nat
  reason : Option InvitationMessageReason
  deriving DecidableEq, Repr

/-- The client's check while a message is written. -/
def validateInvitationMessage (message : String) : InvitationMessageValidation :=
  let canonical := String.ofList (trimEnds isJsSpace message.toList)
  -- `Array.from` yields one entry for each code point
  let codePointCount := canonical.length
  let wordCount := (wordRuns isJsSpace canonical.toList).length
  let reason :=
    if codePointCount > maxInvitationMessageCodePoints then
      some InvitationMessageReason.tooManyCodePoints
    else if wordCount > maxInvitationMessageWords then
      some InvitationMessageReason.tooManyWords
    else none
  ⟨canonical, wordCount, codePointCount, reason⟩

/-- What the server reads in a message before it checks the limits. -/
def readInvitationMessage (message : String) : CanonicalInvitationMessage :=
  ⟨pyStrip message, (pySplit (pyStrip message)).length, (pyStrip message).length⟩

def CanonicalInvitationMessage.WithinLimits (message : CanonicalInvitationMessage) : Prop :=
  message.codePointCount ≤ maxInvitationMessageCodePoints ∧
    message.wordCount ≤ maxInvitationMessageWords

theorem canonicalizeInvitationMessage_eq_ok_iff {message : String}
    {canonical : CanonicalInvitationMessage} :
    canonicalizeInvitationMessage message = .ok canonical ↔
      (readInvitationMessage message).WithinLimits ∧
        canonical = readInvitationMessage message := by
  simp only [canonicalizeInvitationMessage, except_bind_eq_ok_iff, ensure_eq_ok_iff,
    except_pure_eq_ok_iff, CanonicalInvitationMessage.WithinLimits, readInvitationMessage]
  constructor
  · rintro ⟨_, hpoints, _, hwords, rfl⟩
    exact ⟨⟨hpoints, hwords⟩, rfl⟩
  · rintro ⟨⟨hpoints, hwords⟩, rfl⟩
    exact ⟨⟨⟩, hpoints, ⟨⟩, hwords, rfl⟩

/-- The client's reading in the server's terms. -/
def InvitationMessageValidation.read (validation : InvitationMessageValidation) :
    CanonicalInvitationMessage :=
  ⟨validation.canonical, validation.wordCount, validation.codePointCount⟩

theorem InvitationMessageValidation.read_eq_iff {validation : InvitationMessageValidation}
    {message : CanonicalInvitationMessage} :
    validation.read = message ↔ validation.canonical = message.value ∧
      validation.wordCount = message.wordCount ∧
      validation.codePointCount = message.codePointCount := by
  cases message
  simp only [InvitationMessageValidation.read, CanonicalInvitationMessage.mk.injEq]

theorem validateInvitationMessage_reason_iff (message : String) :
    (validateInvitationMessage message).reason = none ↔
      (validateInvitationMessage message).read.WithinLimits := by
  have hreason : ∀ points words : Nat,
      (if points > maxInvitationMessageCodePoints then
          some InvitationMessageReason.tooManyCodePoints
        else if words > maxInvitationMessageWords then
          some InvitationMessageReason.tooManyWords
        else none) = none ↔
      points ≤ maxInvitationMessageCodePoints ∧ words ≤ maxInvitationMessageWords := by
    intro points words
    by_cases hpoints : points > maxInvitationMessageCodePoints
    · simp [hpoints]
    · by_cases hwords : words > maxInvitationMessageWords
      · simp [hpoints, hwords]
      · simp [hpoints, hwords, Nat.le_of_not_gt hpoints, Nat.le_of_not_gt hwords]
  simp only [validateInvitationMessage, InvitationMessageValidation.read,
    CanonicalInvitationMessage.WithinLimits]
  exact hreason _ _

/-- The canonical message of the client, `none` when it refuses the message. -/
def clientMessage (message : String) : Option CanonicalInvitationMessage :=
  if (validateInvitationMessage message).reason = none then
    some (validateInvitationMessage message).read
  else none

/-- The canonical message of the server, `none` when it refuses the message. -/
def serverMessage (message : String) : Option CanonicalInvitationMessage :=
  (canonicalizeInvitationMessage message).toOption

theorem serverMessage_eq_some_iff {message : String}
    {canonical : CanonicalInvitationMessage} :
    serverMessage message = some canonical ↔
      (readInvitationMessage message).WithinLimits ∧
        canonical = readInvitationMessage message := by
  rw [← canonicalizeInvitationMessage_eq_ok_iff, serverMessage]
  cases canonicalizeInvitationMessage message with
  | ok value => simp [Except.toOption]
  | error error => simp [Except.toOption]

/-- Both sides read the same text with the same counts, and both or none accepts it. -/
structure MessagesAgree (message : String) : Prop where
  canonical : (validateInvitationMessage message).canonical =
    (readInvitationMessage message).value
  wordCount : (validateInvitationMessage message).wordCount =
    (readInvitationMessage message).wordCount
  codePointCount : (validateInvitationMessage message).codePointCount =
    (readInvitationMessage message).codePointCount
  accepted : (validateInvitationMessage message).reason = none ↔
    ∃ canonical, canonicalizeInvitationMessage message = .ok canonical

/-- The message without the outer characters which both languages trim. -/
def sharedTrim (message : String) : List Char :=
  trimEnds (fun char => isPySpace char && isJsSpace char) message.toList

/-- The pairs of neighbours in which a word begins for `p` only. -/
def loneStarts (p q : Char → Bool) (chars : List Char) : Nat :=
  (chars.zip chars.tail).countP fun pair => startsWord p pair && !startsWord q pair

/-- No character which only one language takes for white space stands at an end of the
text, and inside it each language sees as many words begin that the other does not. -/
structure ReadsAlike (message : String) : Prop where
  first : ∀ char ∈ (sharedTrim message).head?, isPySpace char = isJsSpace char
  last : ∀ char ∈ (sharedTrim message).getLast?, isPySpace char = isJsSpace char
  starts : loneStarts isPySpace isJsSpace (sharedTrim message) =
    loneStarts isJsSpace isPySpace (sharedTrim message)

/-- The characters which one language takes for white space and the other does not. -/
theorem isPySpace_eq_isJsSpace_iff (char : Char) :
    isPySpace char = isJsSpace char ↔
      ¬ (28 ≤ char.toNat ∧ char.toNat ≤ 31 ∨ char.toNat = 0x85 ∨ char.toNat = 0xFEFF) := by
  rw [Bool.eq_iff_iff]
  simp only [isPySpace, isJsSpace, Bool.or_eq_true, Bool.and_eq_true, decide_eq_true_eq,
    beq_iff_eq]
  omega

theorem pyStrip_toList (message : String) :
    (pyStrip message).toList = trimEnds isPySpace (sharedTrim message) := by
  rw [pyStrip, String.toList_ofList, sharedTrim, trimEnds_trimEnds_of_imp]
  intro char hchar
  exact (Bool.and_eq_true_iff.mp hchar).1

theorem canonical_toList (message : String) :
    (validateInvitationMessage message).canonical.toList =
      trimEnds isJsSpace (sharedTrim message) := by
  rw [validateInvitationMessage, String.toList_ofList, sharedTrim,
    trimEnds_trimEnds_of_imp]
  intro char hchar
  exact (Bool.and_eq_true_iff.mp hchar).2

section SharedTrim

variable {message : String}

theorem sharedTrim_head (hne : sharedTrim message ≠ []) :
    ¬ (isPySpace ((sharedTrim message).head hne) ∧
      isJsSpace ((sharedTrim message).head hne)) := by
  have htrim := (trimEnds_eq_self_iff.mp
    (trimEnds_trimEnds (fun char => isPySpace char && isJsSpace char) message.toList)).1 hne
  intro hboth
  exact htrim (Bool.and_eq_true_iff.mpr hboth)

theorem sharedTrim_getLast (hne : sharedTrim message ≠ []) :
    ¬ (isPySpace ((sharedTrim message).getLast hne) ∧
      isJsSpace ((sharedTrim message).getLast hne)) := by
  have htrim := (trimEnds_eq_self_iff.mp
    (trimEnds_trimEnds (fun char => isPySpace char && isJsSpace char) message.toList)).2 hne
  intro hboth
  exact htrim (Bool.and_eq_true_iff.mpr hboth)

/-- The languages take a character alike exactly when neither takes it for white space. -/
theorem space_eq_iff {char : Char} (hboth : ¬ (isPySpace char ∧ isJsSpace char)) :
    isPySpace char = isJsSpace char ↔ ¬ isPySpace char ∧ ¬ isJsSpace char := by
  cases hpy : isPySpace char <;> cases hjs : isJsSpace char <;> simp_all

theorem ends_alike_iff :
    ((∀ char ∈ (sharedTrim message).head?, isPySpace char = isJsSpace char) ∧
        ∀ char ∈ (sharedTrim message).getLast?, isPySpace char = isJsSpace char) ↔
      trimEnds isPySpace (sharedTrim message) = sharedTrim message ∧
        trimEnds isJsSpace (sharedTrim message) = sharedTrim message := by
  rw [trimEnds_eq_self_iff, trimEnds_eq_self_iff]
  by_cases hne : sharedTrim message = []
  · simp [hne]
  · have hhead := space_eq_iff (sharedTrim_head hne)
    have hlast := space_eq_iff (sharedTrim_getLast hne)
    simp only [List.head?_eq_some_head hne, List.getLast?_eq_some_getLast hne,
      Option.mem_some_iff, forall_eq', hhead, hlast, ne_eq, hne, not_false_eq_true,
      forall_true_left]
    exact and_and_and_comm

end SharedTrim

/-- Both languages trim a message to the same text exactly when neither trims more than
the shared white space. -/
theorem canonical_eq_iff (message : String) :
    (validateInvitationMessage message).canonical = (readInvitationMessage message).value ↔
      trimEnds isPySpace (sharedTrim message) = sharedTrim message ∧
        trimEnds isJsSpace (sharedTrim message) = sharedTrim message := by
  have htexts : (validateInvitationMessage message).canonical =
      (readInvitationMessage message).value ↔
      trimEnds isPySpace (sharedTrim message) = trimEnds isJsSpace (sharedTrim message) := by
    rw [← pyStrip_toList, ← canonical_toList, String.toList_inj]
    exact eq_comm
  rw [htexts]
  exact trimEnds_eq_trimEnds_iff sharedTrim_head sharedTrim_getLast

theorem read_wordCount (message : String) : (readInvitationMessage message).wordCount =
    (wordRuns isPySpace (trimEnds isPySpace (sharedTrim message))).length := by
  rw [← pyStrip_toList]
  simp [readInvitationMessage, pySplit, wordRuns]

theorem validate_wordCount (message : String) :
    (validateInvitationMessage message).wordCount =
      (wordRuns isJsSpace (trimEnds isJsSpace (sharedTrim message))).length := by
  rw [← canonical_toList]
  rfl

/-- On a text which neither language trims further the word counts agree exactly when the
starts do which only one of them sees. -/
theorem wordRuns_eq_iff {chars : List Char} (hpy : trimEnds isPySpace chars = chars)
    (hjs : trimEnds isJsSpace chars = chars) :
    (wordRuns isJsSpace chars).length = (wordRuns isPySpace chars).length ↔
      loneStarts isPySpace isJsSpace chars = loneStarts isJsSpace isPySpace chars := by
  by_cases hne : chars = []
  · subst hne
    exact ⟨fun _ => rfl, fun _ => rfl⟩
  · rw [length_wordRuns_of_trimmed _ hne hpy, length_wordRuns_of_trimmed _ hne hjs,
      Nat.add_left_cancel_iff, eq_comm, countP_eq_countP_iff]
    rfl

/-- The readings of the two sides are the same exactly for messages which read alike. -/
theorem read_eq_read_iff (message : String) :
    (validateInvitationMessage message).read = readInvitationMessage message ↔
      ReadsAlike message := by
  constructor
  · intro hread
    obtain ⟨hcanonical, hwords, -⟩ := InvitationMessageValidation.read_eq_iff.mp hread
    have htrim := (canonical_eq_iff message).mp hcanonical
    have hends := ends_alike_iff.mpr htrim
    rw [read_wordCount, validate_wordCount, htrim.1, htrim.2,
      wordRuns_eq_iff htrim.1 htrim.2] at hwords
    exact ⟨hends.1, hends.2, hwords⟩
  · intro halike
    have htrim := ends_alike_iff.mp ⟨halike.first, halike.last⟩
    have hcanonical := (canonical_eq_iff message).mpr htrim
    have hwords : (validateInvitationMessage message).wordCount =
        (readInvitationMessage message).wordCount := by
      rw [read_wordCount, validate_wordCount, htrim.1, htrim.2,
        wordRuns_eq_iff htrim.1 htrim.2]
      exact halike.starts
    have hpoints : (validateInvitationMessage message).codePointCount =
        (readInvitationMessage message).codePointCount :=
      congrArg String.length hcanonical
    exact InvitationMessageValidation.read_eq_iff.mpr ⟨hcanonical, hwords, hpoints⟩

theorem accepted_iff_of_read_eq {message : String}
    (hread : (validateInvitationMessage message).read = readInvitationMessage message) :
    (validateInvitationMessage message).reason = none ↔
      ∃ canonical, canonicalizeInvitationMessage message = .ok canonical := by
  rw [validateInvitationMessage_reason_iff, hread]
  constructor
  · intro hlimits
    exact ⟨_, canonicalizeInvitationMessage_eq_ok_iff.mpr ⟨hlimits, rfl⟩⟩
  · rintro ⟨canonical, hok⟩
    exact (canonicalizeInvitationMessage_eq_ok_iff.mp hok).1

theorem clientMessage_eq_some_iff {message : String}
    {canonical : CanonicalInvitationMessage} :
    clientMessage message = some canonical ↔
      (validateInvitationMessage message).read.WithinLimits ∧
        canonical = (validateInvitationMessage message).read := by
  rw [clientMessage]
  split
  · rename_i hreason
    have hlimits := (validateInvitationMessage_reason_iff message).mp hreason
    simp [hlimits, eq_comm]
  · rename_i hreason
    have hlimits := (validateInvitationMessage_reason_iff message).not.mp hreason
    simp [hlimits]

/-- The sides agree on a message exactly when it reads alike; the answers they give are
the same then, and otherwise only where both refuse the message. -/
theorem invitation_messages_agree_iff (message : String) :
    (MessagesAgree message ↔ ReadsAlike message) ∧
      (clientMessage message = serverMessage message ↔
        ReadsAlike message ∨
          (clientMessage message = none ∧ serverMessage message = none)) := by
  constructor
  · rw [← read_eq_read_iff]
    constructor
    · intro hagree
      exact InvitationMessageValidation.read_eq_iff.mpr
        ⟨hagree.canonical, hagree.wordCount, hagree.codePointCount⟩
    · intro hread
      obtain ⟨hcanonical, hwords, hpoints⟩ :=
        InvitationMessageValidation.read_eq_iff.mp hread
      exact ⟨hcanonical, hwords, hpoints, accepted_iff_of_read_eq hread⟩
  · constructor
    · intro hsame
      cases hserver : serverMessage message with
      | none => exact .inr ⟨hsame.trans hserver, rfl⟩
      | some canonical =>
          left
          have hclient := clientMessage_eq_some_iff.mp (hsame.trans hserver)
          have hread := serverMessage_eq_some_iff.mp hserver
          rw [← read_eq_read_iff, ← hclient.2, ← hread.2]
    · rintro (halike | ⟨hclient, hserver⟩)
      · have hread := (read_eq_read_iff message).mpr halike
        apply Option.ext
        intro canonical
        rw [clientMessage_eq_some_iff, serverMessage_eq_some_iff, hread]
      · rw [hclient, hserver]

/-- A message without a character which only one language takes for white space reads
alike. -/
theorem ReadsAlike.of_forall {message : String}
    (h : ∀ char ∈ message.toList, isPySpace char = isJsSpace char) : ReadsAlike message := by
  have hmem : ∀ char ∈ sharedTrim message, isPySpace char = isJsSpace char := fun char hchar =>
    h char (((List.rdropWhile_prefix _ _).sublist.trans
      (List.dropWhile_suffix _).sublist).mem hchar)
  have hnone : ∀ p q : Char → Bool, (∀ char ∈ sharedTrim message, p char = q char) →
      loneStarts p q (sharedTrim message) = 0 := by
    intro p q hpq
    rw [loneStarts, List.countP_eq_zero]
    intro pair hpair
    have hfirst := hpq pair.1 (List.of_mem_zip hpair).1
    have hsecond := hpq pair.2 (List.mem_of_mem_tail (List.of_mem_zip hpair).2)
    simp [startsWord, hfirst, hsecond]
  constructor
  · intro char hchar
    exact hmem char (List.mem_of_head? hchar)
  · intro char hchar
    exact hmem char (List.mem_of_getLast? hchar)
  · rw [hnone _ _ hmem, hnone _ _ fun char hchar => (hmem char hchar).symm]

/-- The client drops a trailing byte order mark and the server keeps it. -/
theorem not_messagesAgree_byteOrderMark : ¬ ∀ message : String, MessagesAgree message := by
  intro hall
  have hcanonical := (hall (String.ofList ['h', 'i', Char.ofNat 0xFEFF])).canonical
  exact absurd hcanonical (by decide)

end BuddyWeb
