/-
Bytes: big-endian numbers of a fixed width, and Base64 text over the URL-safe
alphabet.
-/
import Mathlib.Data.Option.Basic
import Mathlib.Data.List.DropRight
import Mathlib.Algebra.Order.Group.Nat
import Mathlib.Data.Fin.Basic
import Mathlib.Algebra.GroupWithZero.Nat

namespace BuddyWeb

/-- A text is checked by its own characters, not by all characters there are. -/
instance decidableForallChar (text : List Char) (p : Char → Prop) [DecidablePred p] :
    Decidable (∀ char ∈ text, p char) :=
  List.decidableBAll p text

abbrev Byte : Type := Fin 256

instance byteNeZero : NeZero 256 := ⟨by decide⟩

abbrev Sextet : Type := Fin 64

/-- A number as bytes of a fixed width, the most significant one first. -/
def toBigEndian : Nat → Nat → List Byte
  | 0, _ => []
  | width + 1, value => toBigEndian width (value / 256) ++ [Fin.ofNat 256 value]

def ofBigEndian (bytes : List Byte) : Nat :=
  bytes.foldl (fun value byte => value * 256 + byte.val) 0

@[simp]
theorem toBigEndian_length (width value : Nat) :
    (toBigEndian width value).length = width := by
  induction width generalizing value with
  | zero => rfl
  | succ width ih => simp [toBigEndian, ih]

/-- Enough bytes hold the whole number. -/
theorem ofBigEndian_toBigEndian {width value : Nat} (h : value < 256 ^ width) :
    ofBigEndian (toBigEndian width value) = value := by
  induction width generalizing value with
  | zero =>
      rw [pow_zero, Nat.lt_one_iff] at h
      simp [toBigEndian, ofBigEndian, h]
  | succ width ih =>
      have hhigh : value / 256 < 256 ^ width := by
        rw [pow_succ] at h
        exact Nat.div_lt_of_lt_mul (by rwa [Nat.mul_comm] at h)
      have hrest := ih hhigh
      rw [ofBigEndian] at hrest
      rw [toBigEndian, ofBigEndian, List.foldl_append, hrest]
      simp only [List.foldl_cons, List.foldl_nil, Fin.val_ofNat]
      exact Nat.div_add_mod' value 256

/-- The lower-case hexadecimal digit of a number below sixteen. -/
def hexDigit (value : Fin 16) : Char :=
  if value.val < 10 then Char.ofNat (48 + value.val) else Char.ofNat (87 + value.val)

/-- Two hexadecimal digits for each byte. -/
def hexText (bytes : List Byte) : List Char :=
  bytes.flatMap fun byte =>
    [hexDigit (Fin.ofNat 16 (byte.val / 16)), hexDigit (Fin.ofNat 16 byte.val)]

theorem hexDigit_ne_dash (value : Fin 16) : hexDigit value ≠ '-' := by
  revert value
  decide +kernel

theorem hexDigit_injective : Function.Injective hexDigit := by
  intro first second
  revert first second
  decide +kernel

theorem hexText_append (first second : List Byte) :
    hexText (first ++ second) = hexText first ++ hexText second :=
  List.flatMap_append

theorem hexText_filter (bytes : List Byte) :
    (hexText bytes).filter (· ≠ '-') = hexText bytes := by
  rw [List.filter_eq_self]
  intro char hchar
  simp only [hexText, List.mem_flatMap, List.mem_cons, List.not_mem_nil, or_false] at hchar
  obtain ⟨byte, _, rfl | rfl⟩ := hchar <;> simp [hexDigit_ne_dash]

theorem hexText_injective {first second : List Byte} (h : hexText first = hexText second) :
    first = second := by
  induction first generalizing second with
  | nil =>
      cases second with
      | nil => rfl
      | cons head tail => simp [hexText] at h
  | cons head tail ih =>
      cases second with
      | nil => simp [hexText] at h
      | cons other rest =>
          simp only [hexText, List.flatMap_cons, List.cons_append, List.nil_append,
            List.cons.injEq] at h
          obtain ⟨hhigh, hlow, htail⟩ := h
          have hhighValue := congrArg Fin.val (hexDigit_injective hhigh)
          have hlowValue := congrArg Fin.val (hexDigit_injective hlow)
          simp only [Fin.val_ofNat] at hhighValue hlowValue
          have hhead : head = other := by
            ext
            omega
          rw [hhead, ih htail]

/-- The sextets of bytes, three bytes to four of them. -/
def sextetsOfBytes : List Byte → List Sextet
  | [] => []
  | [a] => [Fin.ofNat 64 (a / 4), Fin.ofNat 64 (a % 4 * 16)]
  | [a, b] =>
      [Fin.ofNat 64 (a / 4), Fin.ofNat 64 (a % 4 * 16 + b / 16),
        Fin.ofNat 64 (b % 16 * 4)]
  | a :: b :: c :: rest =>
      Fin.ofNat 64 (a / 4) :: Fin.ofNat 64 (a % 4 * 16 + b / 16) ::
        Fin.ofNat 64 (b % 16 * 4 + c / 64) :: Fin.ofNat 64 (c % 64) ::
        sextetsOfBytes rest

/-- The bytes of sextets.  One sextet alone is not enough for a byte. -/
def bytesOfSextets : List Sextet → Option (List Byte)
  | [] => some []
  | [_] => none
  | [a, b] => some [Fin.ofNat 256 (a * 4 + b / 16)]
  | [a, b, c] =>
      some [Fin.ofNat 256 (a * 4 + b / 16), Fin.ofNat 256 (b % 16 * 16 + c / 4)]
  | a :: b :: c :: d :: rest =>
      (bytesOfSextets rest).map fun bytes =>
        Fin.ofNat 256 (a * 4 + b / 16) :: Fin.ofNat 256 (b % 16 * 16 + c / 4) ::
          Fin.ofNat 256 (c % 4 * 64 + d) :: bytes

theorem bytesOfSextets_sextetsOfBytes (bytes : List Byte) :
    bytesOfSextets (sextetsOfBytes bytes) = some bytes := by
  induction bytes using sextetsOfBytes.induct with
  | case1 => rfl
  | case2 a =>
      simp only [sextetsOfBytes, bytesOfSextets, Option.some.injEq, List.cons.injEq,
        and_true]
      ext
      simp only [Fin.val_ofNat]
      omega
  | case3 a b =>
      simp only [sextetsOfBytes, bytesOfSextets, Option.some.injEq, List.cons.injEq,
        and_true]
      constructor <;> ext <;> simp only [Fin.val_ofNat] <;> omega
  | case4 a b c rest ih =>
      simp only [sextetsOfBytes, bytesOfSextets, ih, Option.map_some, Option.some.injEq,
        List.cons.injEq, and_true]
      refine ⟨?_, ?_, ?_⟩ <;> ext <;> simp only [Fin.val_ofNat] <;> omega

/-- Three bytes to four sextets, and the rest rounded up. -/
theorem sextetsOfBytes_length (bytes : List Byte) :
    (sextetsOfBytes bytes).length = (bytes.length * 4 + 2) / 3 := by
  induction bytes using sextetsOfBytes.induct with
  | case1 => rfl
  | case2 a => simp [sextetsOfBytes]
  | case3 a b => simp [sextetsOfBytes]
  | case4 a b c rest ih =>
      simp only [sextetsOfBytes, List.length_cons, ih]
      omega

/-- The character of a sextet in the URL-safe alphabet. -/
def urlsafeChar (sextet : Sextet) : Char :=
  let value := sextet.val
  if value < 26 then Char.ofNat (65 + value)
  else if value < 52 then Char.ofNat (97 + (value - 26))
  else if value < 62 then Char.ofNat (48 + (value - 52))
  else if value = 62 then '-'
  else '_'

/-- The sextet of a character.  The alternative characters are translated to the
standard ones, which stay valid. -/
def sextetOfChar (char : Char) : Option Sextet :=
  let code := char.toNat
  if 65 ≤ code ∧ code ≤ 90 then some (Fin.ofNat 64 (code - 65))
  else if 97 ≤ code ∧ code ≤ 122 then some (Fin.ofNat 64 (code - 97 + 26))
  else if 48 ≤ code ∧ code ≤ 57 then some (Fin.ofNat 64 (code - 48 + 52))
  else if char = '-' ∨ char = '+' then some 62
  else if char = '_' ∨ char = '/' then some 63
  else none

theorem sextetOfChar_urlsafeChar (sextet : Sextet) :
    sextetOfChar (urlsafeChar sextet) = some sextet := by
  revert sextet
  decide +kernel

theorem urlsafeChar_ne_pad (sextet : Sextet) : urlsafeChar sextet ≠ '=' := by
  revert sextet
  decide +kernel

/-- `base64.urlsafe_b64encode`. -/
def urlsafeB64encode (bytes : List Byte) : List Char :=
  (sextetsOfBytes bytes).map urlsafeChar ++
    List.replicate ((3 - bytes.length % 3) % 3) '='

/-- `base64.b64decode` with the URL-safe characters and strict validation: the sextets,
then exactly the padding which fills their last group. -/
def b64decode (chars : List Char) : Option (List Byte) := do
  let padding := chars.dropWhile (· ≠ '=')
  guard (padding.all (· = '=') ∧ padding.length ≤ 2 ∧ chars.length % 4 = 0)
  bytesOfSextets (← (chars.takeWhile (· ≠ '=')).mapM sextetOfChar)

@[simp]
theorem mapM_sextetOfChar (sextets : List Sextet) :
    (sextets.map urlsafeChar).mapM sextetOfChar = some sextets := by
  induction sextets with
  | nil => rfl
  | cons head tail ih => simp [sextetOfChar_urlsafeChar, ih]

/-- Encoding strips to the sextets alone. -/
theorem rdropWhile_urlsafeB64encode (bytes : List Byte) :
    (urlsafeB64encode bytes).rdropWhile (· = '=') =
      (sextetsOfBytes bytes).map urlsafeChar := by
  rw [urlsafeB64encode, List.rdropWhile, List.reverse_append, List.reverse_replicate,
    List.dropWhile_append_of_pos (by simp)]
  have hkept : ((sextetsOfBytes bytes).map urlsafeChar).reverse.dropWhile (· = '=') =
      ((sextetsOfBytes bytes).map urlsafeChar).reverse := by
    rw [List.dropWhile_eq_self_iff]
    intro hpos
    have hmem := List.getElem_mem hpos
    rw [List.mem_reverse, List.mem_map] at hmem
    obtain ⟨sextet, _, hsextet⟩ := hmem
    simp [← hsextet, urlsafeChar_ne_pad]
  rw [hkept, List.reverse_reverse]

/-- Sextets with the padding which fills their last group decode to their bytes. -/
theorem b64decode_of_sextets (bytes : List Byte) {padding : Nat} (hpadding : padding ≤ 2)
    (hlength : ((sextetsOfBytes bytes).length + padding) % 4 = 0) :
    b64decode ((sextetsOfBytes bytes).map urlsafeChar ++ List.replicate padding '=') =
      some bytes := by
  have hsextets : ∀ char ∈ (sextetsOfBytes bytes).map urlsafeChar,
      (fun char : Char => decide (char ≠ '=')) char = true := by
    intro char hchar
    obtain ⟨sextet, _, rfl⟩ := List.mem_map.mp hchar
    simp [urlsafeChar_ne_pad]
  have htake : ((sextetsOfBytes bytes).map urlsafeChar ++
      List.replicate padding '=').takeWhile (· ≠ '=') =
        (sextetsOfBytes bytes).map urlsafeChar := by
    rw [List.takeWhile_append_of_pos hsextets]
    cases padding <;> simp [List.replicate_succ]
  have hdrop : ((sextetsOfBytes bytes).map urlsafeChar ++
      List.replicate padding '=').dropWhile (· ≠ '=') = List.replicate padding '=' := by
    rw [List.dropWhile_append_of_pos hsextets]
    cases padding <;> simp [List.replicate_succ]
  simp only [b64decode, htake, hdrop, mapM_sextetOfChar]
  simp [hpadding, hlength, bytesOfSextets_sextetsOfBytes]

end BuddyWeb
