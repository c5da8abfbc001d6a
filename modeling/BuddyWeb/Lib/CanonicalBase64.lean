/-
Which texts decode to the same bytes: the spare bits of the last Base64 group, the
alternative characters and the padding.
-/
import Mathlib.Data.Option.Basic
import BuddyWeb.Lib.Bytes

namespace BuddyWeb

theorem ofBigEndian_append_singleton (bytes : List Byte) (byte : Byte) :
    ofBigEndian (bytes ++ [byte]) = ofBigEndian bytes * 256 + byte.val := by
  simp [ofBigEndian, List.foldl_append]

/-- Bytes are those of the number they stand for. -/
theorem toBigEndian_ofBigEndian (bytes : List Byte) :
    toBigEndian bytes.length (ofBigEndian bytes) = bytes := by
  induction bytes using List.reverseRecOn with
  | nil => rfl
  | append_singleton bytes byte ih =>
      have hbyte := byte.isLt
      have hhigh : (ofBigEndian bytes * 256 + byte.val) / 256 = ofBigEndian bytes := by
        omega
      have hlow : Fin.ofNat 256 (ofBigEndian bytes * 256 + byte.val) = byte := by
        apply Fin.ext
        simp only [Fin.val_ofNat]
        omega
      rw [List.length_append, List.length_singleton, toBigEndian,
        ofBigEndian_append_singleton, hhigh, hlow, ih]

theorem ofBigEndian_lt (bytes : List Byte) : ofBigEndian bytes < 256 ^ bytes.length := by
  induction bytes using List.reverseRecOn with
  | nil => simp [ofBigEndian]
  | append_singleton bytes byte ih =>
      have hbyte := byte.isLt
      rw [ofBigEndian_append_singleton, List.length_append, List.length_singleton, pow_succ]
      omega

/-- The bits of the last group which belong to no byte. -/
def spareBits : List Sextet → Nat
  | [] => 0
  | [a] => a
  | [_, b] => b % 16
  | [_, _, c] => c % 4
  | _ :: _ :: _ :: _ :: rest => spareBits rest

theorem spareBits_sextetsOfBytes (bytes : List Byte) :
    spareBits (sextetsOfBytes bytes) = 0 := by
  induction bytes using sextetsOfBytes.induct with
  | case1 => rfl
  | case2 a =>
      simp only [sextetsOfBytes, spareBits, Fin.val_ofNat]
      omega
  | case3 a b =>
      simp only [sextetsOfBytes, spareBits, Fin.val_ofNat]
      omega
  | case4 a b c rest ih => rw [sextetsOfBytes, spareBits, ih]

/-- Sextets without spare bits are those of the bytes they decode to. -/
theorem sextetsOfBytes_of_bytesOfSextets {sextets : List Sextet} {bytes : List Byte}
    (h : bytesOfSextets sextets = some bytes) (hspare : spareBits sextets = 0) :
    sextetsOfBytes bytes = sextets := by
  induction sextets using bytesOfSextets.induct generalizing bytes with
  | case1 =>
      cases Option.some.inj h
      rfl
  | case2 a => cases h
  | case3 a b =>
      cases Option.some.inj h
      simp only [spareBits] at hspare
      simp only [sextetsOfBytes, List.cons.injEq, and_true]
      constructor <;> ext <;> simp only [Fin.val_ofNat] <;> omega
  | case4 a b c =>
      cases Option.some.inj h
      simp only [spareBits] at hspare
      simp only [sextetsOfBytes, List.cons.injEq, and_true]
      refine ⟨?_, ?_, ?_⟩ <;> ext <;> simp only [Fin.val_ofNat] <;> omega
  | case5 a b c d rest ih =>
      obtain ⟨tail, htail, hbytes⟩ := Option.map_eq_some_iff.mp h
      have hrest := ih htail hspare
      rw [← hbytes]
      simp only [sextetsOfBytes, hrest, List.cons.injEq, and_true]
      refine ⟨?_, ?_, ?_, ?_⟩ <;> ext <;> simp only [Fin.val_ofNat] <;> omega

/-- Four sextets are three bytes, and one sextet alone is refused. -/
theorem bytesOfSextets_length {sextets : List Sextet} {bytes : List Byte}
    (h : bytesOfSextets sextets = some bytes) :
    bytes.length = sextets.length * 3 / 4 ∧ sextets.length % 4 ≠ 1 := by
  induction sextets using bytesOfSextets.induct generalizing bytes with
  | case1 =>
      cases Option.some.inj h
      simp
  | case2 a => cases h
  | case3 a b =>
      cases Option.some.inj h
      simp
  | case4 a b c =>
      cases Option.some.inj h
      simp
  | case5 a b c d rest ih =>
      obtain ⟨tail, htail, hbytes⟩ := Option.map_eq_some_iff.mp h
      have hlength := ih htail
      rw [← hbytes]
      simp only [List.length_cons]
      omega

theorem exists_bytesOfSextets {sextets : List Sextet} (h : sextets.length % 4 ≠ 1) :
    ∃ bytes, bytesOfSextets sextets = some bytes := by
  induction sextets using bytesOfSextets.induct with
  | case1 => exact ⟨[], rfl⟩
  | case2 a => exact absurd rfl h
  | case3 a b => exact ⟨_, rfl⟩
  | case4 a b c => exact ⟨_, rfl⟩
  | case5 a b c d rest ih =>
      simp only [List.length_cons] at h
      obtain ⟨bytes, hbytes⟩ := ih (by omega)
      rw [bytesOfSextets, hbytes]
      exact ⟨_, rfl⟩

/-- The characters which decoding takes although encoding does not write them. -/
def isAlternative (char : Char) : Bool :=
  char = '+' || char = '/'

theorem urlsafeChar_not_alternative (sextet : Sextet) :
    isAlternative (urlsafeChar sextet) = false := by
  revert sextet
  decide +kernel

/-- Apart from the alternative ones every character is that of its sextet. -/
theorem urlsafeChar_of_sextetOfChar {char : Char} {sextet : Sextet}
    (h : sextetOfChar char = some sextet) (hchar : isAlternative char = false) :
    urlsafeChar sextet = char := by
  have hcases : ∀ code : Fin 128, ∀ sextet : Sextet,
      sextetOfChar (Char.ofNat code.val) = some sextet →
      isAlternative (Char.ofNat code.val) = false →
      urlsafeChar sextet = Char.ofNat code.val := by
    decide +kernel
  have hascii : char.toNat < 128 := by
    simp only [sextetOfChar] at h
    split at h
    · omega
    · split at h
      · omega
      · split at h
        · omega
        · split at h
          · rename_i hdash
            rcases hdash with hdash | hdash <;> rw [hdash] <;> decide
          · split at h
            · rename_i hslash
              rcases hslash with hslash | hslash <;> rw [hslash] <;> decide
            · cases h
  have hchars := hcases ⟨char.toNat, hascii⟩ sextet
  simp only [Char.ofNat_toNat] at hchars
  exact hchars h hchar

theorem map_urlsafeChar_of_mapM {chars : List Char} {sextets : List Sextet}
    (h : chars.mapM sextetOfChar = some sextets)
    (hchars : ∀ char ∈ chars, isAlternative char = false) :
    sextets.map urlsafeChar = chars := by
  induction chars generalizing sextets with
  | nil =>
      cases Option.some.inj h
      rfl
  | cons char rest ih =>
      simp only [List.mapM_cons, Option.bind_eq_bind, Option.bind_eq_some_iff] at h
      obtain ⟨sextet, hsextet, tail, htail, hsextets⟩ := h
      cases Option.some.inj hsextets
      rw [List.map_cons, urlsafeChar_of_sextetOfChar hsextet
        (hchars char List.mem_cons_self), ih htail fun char hchar =>
          hchars char (List.mem_cons_of_mem _ hchar)]

theorem length_of_mapM_sextetOfChar {chars : List Char} {sextets : List Sextet}
    (h : chars.mapM sextetOfChar = some sextets) : sextets.length = chars.length := by
  induction chars generalizing sextets with
  | nil =>
      cases Option.some.inj h
      rfl
  | cons char rest ih =>
      simp only [List.mapM_cons, Option.bind_eq_bind, Option.bind_eq_some_iff] at h
      obtain ⟨sextet, -, tail, htail, hsextets⟩ := h
      cases Option.some.inj hsextets
      rw [List.length_cons, List.length_cons, ih htail]

/-- Decoding reads the characters before the padding, which ends the text. -/
theorem b64decode_eq_some_iff {chars : List Char} {bytes : List Byte} :
    b64decode chars = some bytes ↔
      ((chars.dropWhile (· ≠ '=')).all (· = '=') ∧
          (chars.dropWhile (· ≠ '=')).length ≤ 2 ∧ chars.length % 4 = 0) ∧
        ∃ sextets, (chars.takeWhile (· ≠ '=')).mapM sextetOfChar = some sextets ∧
          bytesOfSextets sextets = some bytes := by
  simp only [b64decode, Option.bind_eq_bind, Option.bind_eq_some_iff,
    Option.guard_eq_some']
  constructor
  · rintro ⟨_, hguard, hrest⟩
    exact ⟨hguard, hrest⟩
  · rintro ⟨hguard, hrest⟩
    exact ⟨(), hguard, hrest⟩

end BuddyWeb
