/-
JSON objects of plain texts and integers: how they are written, and what every reader of
JSON makes of the written text.
-/
import BuddyWeb.Lib.Bytes

namespace BuddyWeb

inductive JsonValue
  | null
  | bool (value : Bool)
  | int (value : Int)
  | float (literal : String)
  | string (value : String)
  | array (items : List JsonValue)
  | object (members : List (String × JsonValue))

namespace JsonValue

def string? : JsonValue → Option String
  | .string value => some value
  | _ => none

/-- An integer; a truth value is none. -/
def int? : JsonValue → Option Int
  | .int value => some value
  | _ => none

def object? : JsonValue → Option (List (String × JsonValue))
  | .object members => some members
  | _ => none

end JsonValue

inductive JsonScalar
  | text (value : String)
  | number (value : Int)

def JsonScalar.value : JsonScalar → JsonValue
  | .text value => .string value
  | .number value => .int value

/-- An integer in decimal. -/
def intText (value : Int) : List Char :=
  if value < 0 then '-' :: Nat.toDigits 10 value.natAbs else Nat.toDigits 10 value.natAbs

def JsonScalar.written : JsonScalar → List Char
  | .text value => '"' :: value.toList ++ ['"']
  | .number value => intText value

def writtenMember (member : String × JsonScalar) : List Char :=
  '"' :: member.1.toList ++ '"' :: ':' :: member.2.written

/-- The members, separated by commas alone. -/
def writtenMembers : List (String × JsonScalar) → List Char
  | [] => []
  | [member] => writtenMember member
  | member :: rest => writtenMember member ++ ',' :: writtenMembers rest

def asciiBytes (chars : List Char) : List Byte :=
  chars.map fun char => Fin.ofNat 256 char.toNat

/-- `json.dumps` of an object with compact separators, its members in the given order. -/
def jsonDumps (members : List (String × JsonScalar)) : List Byte :=
  asciiBytes ('{' :: writtenMembers members ++ ['}'])

/-- A character which a JSON text holds as it is. -/
def isPlainChar (char : Char) : Bool :=
  32 ≤ char.toNat && char.toNat < 127 && char != '"' && char != '\\'

def IsPlain (text : String) : Prop :=
  ∀ char ∈ text.toList, isPlainChar char = true

def JsonScalar.IsPlain : JsonScalar → Prop
  | .text value => BuddyWeb.IsPlain value
  | .number _ => True

/-- Different plain keys with plain values. -/
structure IsFlatObject (members : List (String × JsonScalar)) : Prop where
  distinct : (members.map Prod.fst).Nodup
  keys : ∀ member ∈ members, IsPlain member.1
  values : ∀ member ∈ members, member.2.IsPlain

/-- A reader of JSON: it may read any text, and it reads what was written of a flat
object. -/
structure JsonReader where
  loads : List Byte → Option JsonValue
  loads_dumps : ∀ members, IsFlatObject members →
    loads (jsonDumps members) =
      some (.object (members.map fun member => (member.1, member.2.value)))

section Reading

/-- The text before the closing quotation mark. -/
def readText (chars : List Char) : Option (String × List Char) :=
  match chars.dropWhile (· ≠ '"') with
  | _ :: rest => some (String.ofList (chars.takeWhile (· ≠ '"')), rest)
  | [] => none

def readDigits (chars : List Char) : Option (Nat × List Char) :=
  if chars.takeWhile Char.isDigit = [] then none
  else some (Nat.ofDigitChars 10 (chars.takeWhile Char.isDigit) 0,
    chars.dropWhile Char.isDigit)

def readScalar : List Char → Option (JsonScalar × List Char)
  | '"' :: rest => (readText rest).map fun read => (.text read.1, read.2)
  | '-' :: rest => (readDigits rest).map fun read => (.number (-read.1), read.2)
  | chars => (readDigits chars).map fun read => (.number read.1, read.2)

def readMember : List Char → Option ((String × JsonScalar) × List Char)
  | '"' :: rest =>
      match readText rest with
      | some (key, ':' :: rest) => (readScalar rest).map fun read => ((key, read.1), read.2)
      | _ => none
  | _ => none

/-- The members up to the closing brace, at most as many as the fuel. -/
def readMembers : Nat → List Char → Option (List (String × JsonScalar))
  | 0, _ => none
  | fuel + 1, chars =>
      match readMember chars with
      | some (member, ',' :: rest) => (readMembers fuel rest).map (member :: ·)
      | some (member, ['}']) => some [member]
      | _ => none

def readFlat (chars : List Char) : Option (List (String × JsonScalar)) :=
  match chars with
  | ['{', '}'] => some []
  | '{' :: rest => readMembers rest.length rest
  | _ => none

theorem readText_written {text : String} (h : IsPlain text) (rest : List Char) :
    readText (text.toList ++ '"' :: rest) = some (text, rest) := by
  have hplain : ∀ char ∈ text.toList, (fun char : Char => decide (char ≠ '"')) char = true := by
    intro char hchar
    have hkept := h char hchar
    simp only [isPlainChar, Bool.and_eq_true, bne_iff_ne] at hkept
    exact decide_eq_true hkept.1.2
  have hdrop : (text.toList ++ '"' :: rest).dropWhile (· ≠ '"') = '"' :: rest := by
    rw [List.dropWhile_append_of_pos hplain, List.dropWhile_cons_of_neg (by simp)]
  have htake : (text.toList ++ '"' :: rest).takeWhile (· ≠ '"') = text.toList := by
    rw [List.takeWhile_append_of_pos hplain, List.takeWhile_cons_of_neg (by simp),
      List.append_nil]
  rw [readText, hdrop, htake, String.ofList_toList]

/-- The text after a number does not go on with a digit. -/
def EndsNumber (rest : List Char) : Prop :=
  ∀ char ∈ rest.head?, char.isDigit = false

theorem readDigits_written (value : Nat) {rest : List Char} (hrest : EndsNumber rest) :
    readDigits (Nat.toDigits 10 value ++ rest) = some (value, rest) := by
  have hdigits : ∀ char ∈ Nat.toDigits 10 value, char.isDigit = true := fun char hchar =>
    Nat.isDigit_of_mem_toDigits (by decide) (by decide) hchar
  have htail : rest.takeWhile Char.isDigit = [] ∧ rest.dropWhile Char.isDigit = rest := by
    cases rest with
    | nil => exact ⟨rfl, rfl⟩
    | cons char rest =>
        have hchar := hrest char rfl
        simp [hchar]
  have htake : (Nat.toDigits 10 value ++ rest).takeWhile Char.isDigit =
      Nat.toDigits 10 value := by
    rw [List.takeWhile_append_of_pos hdigits, htail.1, List.append_nil]
  have hdrop : (Nat.toDigits 10 value ++ rest).dropWhile Char.isDigit = rest := by
    rw [List.dropWhile_append_of_pos hdigits, htail.2]
  rw [readDigits, htake, hdrop, if_neg Nat.toDigits_ne_nil,
    Nat.ofDigitChars_toDigits (by decide) (by decide)]

theorem readScalar_written {scalar : JsonScalar} (h : scalar.IsPlain) {rest : List Char}
    (hrest : EndsNumber rest) :
    readScalar (scalar.written ++ rest) = some (scalar, rest) := by
  cases scalar with
  | text value =>
      have hread := readText_written h rest
      simp [JsonScalar.written, readScalar, hread]
  | number value =>
      by_cases hnegative : value < 0
      · have hread := readDigits_written value.natAbs hrest
        simp only [JsonScalar.written, intText, if_pos hnegative, List.cons_append, readScalar,
          hread, Option.map_some]
        congr 3
        omega
      · have hread := readDigits_written value.natAbs hrest
        have hdigit : ∃ char tail, Nat.toDigits 10 value.natAbs = char :: tail ∧
            char.isDigit = true := by
          obtain ⟨char, tail, htext⟩ :=
            List.exists_cons_of_ne_nil (@Nat.toDigits_ne_nil value.natAbs 10)
          refine ⟨char, tail, htext, ?_⟩
          apply Nat.isDigit_of_mem_toDigits (by decide : 0 < 10) (by decide)
          rw [htext]
          exact List.mem_cons_self
        obtain ⟨char, tail, htext, hchar⟩ := hdigit
        simp only [JsonScalar.written, intText, if_neg hnegative]
        rw [htext] at hread ⊢
        have hquote : char ≠ '"' := by
          rintro rfl
          simp at hchar
        have hminus : char ≠ '-' := by
          rintro rfl
          simp at hchar
        simp only [List.cons_append] at hread ⊢
        have hscalar : readScalar (char :: (tail ++ rest)) =
            (readDigits (char :: (tail ++ rest))).map fun read => (.number read.1, read.2) := by
          rw [readScalar.eq_def]
          split
          · rename_i heq
            exact absurd (List.cons.inj heq).1 hquote
          · rename_i heq
            exact absurd (List.cons.inj heq).1 hminus
          · rfl
        rw [hscalar, hread, Option.map_some]
        congr 3
        omega

theorem readMember_written {member : String × JsonScalar} (hkey : IsPlain member.1)
    (hvalue : member.2.IsPlain) {rest : List Char} (hrest : EndsNumber rest) :
    readMember (writtenMember member ++ rest) = some (member, rest) := by
  have hread := readText_written hkey (':' :: (member.2.written ++ rest))
  simp only [writtenMember, List.cons_append, List.append_assoc, readMember, hread,
    readScalar_written hvalue hrest, Option.map_some]

theorem length_writtenMembers (members : List (String × JsonScalar)) :
    members.length ≤ (writtenMembers members).length := by
  induction members with
  | nil => exact Nat.zero_le _
  | cons member rest ih =>
      cases rest with
      | nil => simp [writtenMembers, writtenMember]
      | cons next rest =>
          simp only [writtenMembers, List.length_append, List.length_cons] at ih ⊢
          omega

theorem readMembers_written {members : List (String × JsonScalar)} (hne : members ≠ [])
    (hkeys : ∀ member ∈ members, IsPlain member.1)
    (hvalues : ∀ member ∈ members, member.2.IsPlain) {fuel : Nat}
    (hfuel : members.length ≤ fuel) :
    readMembers fuel (writtenMembers members ++ ['}']) = some members := by
  induction members generalizing fuel with
  | nil => exact absurd rfl hne
  | cons member rest ih =>
      obtain ⟨fuel, rfl⟩ : ∃ remaining, fuel = remaining + 1 :=
        ⟨fuel - 1, by simp only [List.length_cons] at hfuel; omega⟩
      have hkey := hkeys member List.mem_cons_self
      have hvalue := hvalues member List.mem_cons_self
      cases rest with
      | nil =>
          have hends : EndsNumber ['}'] := by simp [EndsNumber]
          have hread := readMember_written hkey hvalue hends
          simp only [writtenMembers, readMembers, hread]
      | cons next rest =>
          have hends : EndsNumber (',' :: (writtenMembers (next :: rest) ++ ['}'])) := by
            simp [EndsNumber]
          have hread := readMember_written hkey hvalue hends
          have hrest : readMembers fuel (writtenMembers (next :: rest) ++ ['}']) =
              some (next :: rest) := by
            apply ih (by simp)
            · exact fun other hother => hkeys other (List.mem_cons_of_mem _ hother)
            · exact fun other hother => hvalues other (List.mem_cons_of_mem _ hother)
            · simp only [List.length_cons] at hfuel ⊢
              omega
          simp only [writtenMembers, List.append_assoc, List.cons_append] at hread hrest ⊢
          simp only [readMembers, hread, hrest, Option.map_some]

theorem readFlat_written {members : List (String × JsonScalar)} (h : IsFlatObject members) :
    readFlat ('{' :: writtenMembers members ++ ['}']) = some members := by
  cases members with
  | nil => rfl
  | cons member rest =>
      have hlength := length_writtenMembers (member :: rest)
      have hread : readMembers (writtenMembers (member :: rest) ++ ['}']).length
          (writtenMembers (member :: rest) ++ ['}']) = some (member :: rest) := by
        apply readMembers_written (by simp) h.keys h.values
        rw [List.length_append]
        omega
      rw [List.cons_append, readFlat.eq_def]
      split
      · rename_i heq
        have hone : (writtenMembers (member :: rest) ++ ['}']).length = 1 := by
          rw [(List.cons.inj heq).2]
          rfl
        simp only [List.length_append, List.length_cons, List.length_nil] at hone hlength
        omega
      · rename_i heq
        rw [← (List.cons.inj heq).2]
        exact hread
      · rename_i hother
        exact absurd rfl (hother _)

end Reading

section Ascii

theorem charOfByte_asciiBytes {chars : List Char} (h : ∀ char ∈ chars, char.toNat < 128) :
    (asciiBytes chars).map (fun byte => Char.ofNat byte.val) = chars := by
  induction chars with
  | nil => rfl
  | cons char rest ih =>
      have hchar := h char List.mem_cons_self
      have hvalue : (Fin.ofNat 256 char.toNat).val = char.toNat := by
        rw [Fin.val_ofNat, Nat.mod_eq_of_lt (by omega)]
      have hrest := ih fun other hother => h other (List.mem_cons_of_mem _ hother)
      simp only [asciiBytes, List.map_cons] at hrest ⊢
      rw [hvalue, Char.ofNat_toNat, hrest]

theorem IsPlain.ascii {text : String} (h : IsPlain text) :
    ∀ char ∈ text.toList, char.toNat < 128 := by
  intro char hchar
  have hplain := h char hchar
  simp only [isPlainChar, Bool.and_eq_true, decide_eq_true_eq] at hplain
  omega

theorem intText_ascii (value : Int) : ∀ char ∈ intText value, char.toNat < 128 := by
  have hdigits : ∀ char ∈ Nat.toDigits 10 value.natAbs, char.toNat < 128 := by
    intro char hchar
    have hdigit := Nat.isDigit_of_mem_toDigits (by decide : 0 < 10) (by decide) hchar
    simp only [Char.isDigit, Bool.and_eq_true, decide_eq_true_eq, ge_iff_le] at hdigit
    have hupper : char.val.toNat ≤ '9'.val.toNat := hdigit.2
    exact lt_of_le_of_lt hupper (by decide)
  intro char hchar
  rw [intText] at hchar
  split at hchar
  · rcases List.mem_cons.mp hchar with rfl | hchar
    · decide
    · exact hdigits char hchar
  · exact hdigits char hchar

theorem writtenMembers_ascii {members : List (String × JsonScalar)}
    (hkeys : ∀ member ∈ members, IsPlain member.1)
    (hvalues : ∀ member ∈ members, member.2.IsPlain) :
    ∀ char ∈ writtenMembers members, char.toNat < 128 := by
  have hmember : ∀ member ∈ members, ∀ char ∈ writtenMember member, char.toNat < 128 := by
    intro member hmem char hchar
    have hkey := (hkeys member hmem).ascii
    have hvalue : ∀ char ∈ member.2.written, char.toNat < 128 := by
      have hplain := hvalues member hmem
      cases hscalar : member.2 with
      | text value =>
          rw [hscalar] at hplain
          intro char hchar
          simp only [JsonScalar.written, List.cons_append, List.mem_cons, List.mem_append,
            List.not_mem_nil, or_false] at hchar
          rcases hchar with rfl | hchar | rfl
          · decide
          · exact IsPlain.ascii hplain char hchar
          · decide
      | number value => exact intText_ascii value
    simp only [writtenMember, List.cons_append, List.mem_cons, List.mem_append] at hchar
    rcases hchar with rfl | hchar | rfl | rfl | hchar
    · decide
    · exact hkey char hchar
    · decide
    · decide
    · exact hvalue char hchar
  induction members with
  | nil => simp [writtenMembers]
  | cons member rest ih =>
      have hhead := hmember member List.mem_cons_self
      cases rest with
      | nil => exact hhead
      | cons next rest =>
          have hrest := ih (fun other hother => hkeys other (List.mem_cons_of_mem _ hother))
            (fun other hother => hvalues other (List.mem_cons_of_mem _ hother))
            (fun other hother => hmember other (List.mem_cons_of_mem _ hother))
          intro char hchar
          simp only [writtenMembers, List.mem_append, List.mem_cons] at hchar hrest
          rcases hchar with hchar | rfl | hchar
          · exact hhead char hchar
          · decide
          · exact hrest char (by simpa only [writtenMembers, List.mem_append,
              List.mem_cons] using hchar)

end Ascii

/-- A reader of flat objects only. -/
def flatReader : JsonReader where
  loads bytes := (readFlat (bytes.map fun byte => Char.ofNat byte.val)).map fun members =>
    .object (members.map fun member => (member.1, member.2.value))
  loads_dumps := by
    intro members h
    have hascii : ∀ char ∈ '{' :: writtenMembers members ++ ['}'], char.toNat < 128 := by
      intro char hchar
      simp only [List.cons_append, List.mem_cons, List.mem_append, List.not_mem_nil,
        or_false] at hchar
      rcases hchar with rfl | hchar | rfl
      · decide
      · exact writtenMembers_ascii h.keys h.values char hchar
      · decide
    rw [jsonDumps, charOfByte_asciiBytes hascii, readFlat_written h, Option.map_some]

end BuddyWeb
