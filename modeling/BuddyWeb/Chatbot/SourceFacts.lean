/-
What holds of every passage of an accepted source: its section, its id, its lines, and that no
quotable passage has the text of an instruction.
-/
import BuddyWeb.Chatbot.SourcePartition

namespace BuddyWeb

section Sections

variable {libraries : SourceLibraries}

/-- A property of section names which every way of naming a section keeps. -/
structure NamesSections (tables : WordTables) (named : List Char → Prop)
    (lines : List (List Char)) : Prop where
  introduction : named "Guide introduction".toList
  label : ∀ line ∈ lines, ∀ label, heading tables line = some label → named label
  nested : ∀ parent label, named parent → named label →
    named ((parent ++ " / ".toList ++ label).take maxSection)

/-- What the parser gives to each passage. -/
structure Passage.Parsed (libraries : SourceLibraries) (named : List Char → Prop)
    (passage : Passage) : Prop where
  sectionNamed : named passage.sectionName
  id_eq : ∃ bytes, passage.id = "owner-".toList ++ (libraries.hexdigest bytes).take 20
  quotable : passage.policy ≠ .instruction → instructionPattern.search passage.text = false
  terms_eq : passage.terms = tokens libraries.tables (passage.sectionName ++ '\n' :: passage.text)
  topics_eq : passage.topics =
    BuddyWeb.topics libraries.tables (passage.sectionName ++ '\n' :: passage.text)

variable {named : List Char → Prop}

theorem passageAt_parsed {sectionName block : List Char} {first last : Nat} {span : Nat × Nat}
    {passage : Passage} (hnamed : named sectionName)
    (h : passageAt libraries sectionName block first last span = some passage) :
    passage.Parsed libraries named := by
  simp only [passageAt] at h
  split at h
  · cases h
  · cases h
    refine ⟨hnamed, ⟨_, rfl⟩, ?_, rfl, rfl⟩
    intro hpolicy
    by_contra hsearch
    rw [Bool.not_eq_false] at hsearch
    exact hpolicy (by simp only [policyOf, hsearch, if_true])

/-- The names in use while the lines are read. -/
structure ParseState.Named (libraries : SourceLibraries) (named : List Char → Prop)
    (state : ParseState) : Prop where
  sectionNamed : named state.sectionName
  parentNamed : state.parentSection = [] ∨ named state.parentSection
  passages : ∀ passage ∈ state.passages, passage.Parsed libraries named

variable {state : ParseState}

theorem ParseState.Named.flush (h : state.Named libraries named) :
    (state.flush libraries).Named libraries named := by
  unfold ParseState.flush
  split
  · exact h
  · refine ⟨h.sectionNamed, h.parentNamed, ?_⟩
    intro passage hpassage
    rcases List.mem_append.mp hpassage with hold | hnew
    · exact h.passages passage hold
    · obtain ⟨span, _, hat⟩ := List.mem_filterMap.mp hnew
      exact passageAt_parsed h.sectionNamed hat

theorem ParseState.Named.append (h : state.Named libraries named) (number : Nat)
    (line : List Char) : (state.append number line).Named libraries named :=
  ⟨h.sectionNamed, h.parentNamed, h.passages⟩

theorem ParseState.Named.withHeading {lines : List (List Char)}
    (hnames : NamesSections libraries.tables named lines) (h : state.Named libraries named)
    {line label : List Char} (hlabel : named label) :
    (state.withHeading libraries line label).Named libraries named := by
  unfold ParseState.withHeading
  split
  · exact ⟨hlabel, Or.inr hlabel, h.passages⟩
  · rename_i hmain
    rcases h.parentNamed with hnone | hparent
    · simp [hnone] at hmain
    · exact ⟨hnames.nested _ _ hparent hlabel, h.parentNamed, h.passages⟩

theorem ParseState.Named.readLine {lines : List (List Char)}
    (hnames : NamesSections libraries.tables named lines) (h : state.Named libraries named)
    {line : List Char} (hline : line ∈ lines) (number : Nat) :
    (state.readLine libraries (line, number)).Named libraries named := by
  cases hheading : heading libraries.tables line with
  | some label =>
    simp only [ParseState.readLine, hheading]
    exact (h.flush.withHeading hnames (hnames.label line hline label hheading)).append number line
  | none =>
    simp only [ParseState.readLine, hheading]
    split
    · exact h.flush
    · split
      · exact h.flush.append number line
      · exact h.append number line

theorem named_foldl {lines : List (List Char)}
    (hnames : NamesSections libraries.tables named lines) (unread : List (List Char × Nat))
    (hunread : ∀ numbered ∈ unread, numbered.1 ∈ lines) (h : state.Named libraries named) :
    (unread.foldl (ParseState.readLine libraries) state).Named libraries named := by
  induction unread generalizing state with
  | nil => exact h
  | cons numbered rest ih =>
    obtain ⟨hfirst, hrest⟩ := List.forall_mem_cons.mp hunread
    exact ih hrest (h.readLine hnames hfirst numbered.2)

theorem readPassages_parsed {lines : List (List Char)}
    (hnames : NamesSections libraries.tables named lines) :
    ∀ passage ∈ readPassages libraries lines, passage.Parsed libraries named := by
  have hstart : ParseState.start.Named libraries named :=
    ⟨hnames.introduction, Or.inl rfl, by simp [ParseState.start]⟩
  have hread := named_foldl hnames (lines.zipIdx 1) (fun numbered h =>
    List.fst_mem_of_mem_zipIdx h) hstart
  exact hread.flush.passages

end Sections

section Lengths

/-- A label of a heading is not empty and fits a section. -/
theorem heading_length {tables : WordTables} {line label : List Char}
    (h : heading tables line = some label) : 1 ≤ label.length ∧ label.length ≤ maxSection := by
  have htake : ∀ text : List Char, text ≠ [] →
      1 ≤ (text.take maxSection).length ∧ (text.take maxSection).length ≤ maxSection := by
    intro text htext
    have hpos := List.length_pos_iff.mpr htext
    rw [List.length_take, maxSection]
    omega
  simp only [heading] at h
  split at h
  · cases h
    decide
  · split at h
    · split at h
      · cases h
      · rename_i hlabel
        cases h
        refine htake _ fun hnil => hlabel ?_
        rw [hnil, List.take_nil]
    · split at h
      · rename_i hknown
        cases h
        refine htake _ fun hnil => ?_
        rw [hnil, WordTables.casefold_nil] at hknown
        revert hknown
        decide +kernel
      · cases h

theorem namesSections_length (tables : WordTables) (lines : List (List Char)) :
    NamesSections tables (fun name => 1 ≤ name.length ∧ name.length ≤ maxSection) lines := by
  refine ⟨by decide, fun _ _ _ h => heading_length h, ?_⟩
  intro parent label hparent _
  rw [List.length_take, List.length_append, List.length_append]
  have hmax : maxSection = 160 := rfl
  omega

end Lengths

section Snapshots

variable {libraries : SourceLibraries}

theorem markConflict_section (tables : WordTables) (context : ConflictContext)
    (passage : Passage) : (markConflict tables context passage).sectionName =
      passage.sectionName ∧ (markConflict tables context passage).id = passage.id := by
  unfold markConflict
  split <;> exact ⟨rfl, rfl⟩

theorem markConflict_words (tables : WordTables) (context : ConflictContext)
    (passage : Passage) : (markConflict tables context passage).terms = passage.terms ∧
      (markConflict tables context passage).topics = passage.topics := by
  unfold markConflict
  split <;> exact ⟨rfl, rfl⟩

/-- Marking never makes an instruction quotable. -/
theorem markConflict_policy (tables : WordTables) (context : ConflictContext)
    {passage : Passage} (h : (markConflict tables context passage).policy ≠ .instruction) :
    passage.policy ≠ .instruction := by
  unfold markConflict at h
  split at h
  · rename_i hconflict
    exact hconflict.2
  · exact h

theorem decodeUtf8_length {pending : Option PendingChar} {raw : List Byte} {text : List Char}
    (h : decodeUtf8 pending raw = some text) : text.length ≤ raw.length := by
  induction raw generalizing pending text with
  | nil =>
    cases pending with
    | none =>
      cases h
      exact Nat.le_refl _
    | some pending => cases h
  | cons byte rest ih =>
    cases pending with
    | none =>
      simp only [decodeUtf8] at h
      split at h
      · obtain ⟨tail, htail, rfl⟩ := Option.map_eq_some_iff.mp h
        exact Nat.succ_le_succ (ih htail)
      · exact Nat.le_succ_of_le (ih h)
      · cases h
    | some pending =>
      simp only [decodeUtf8] at h
      split at h
      · split at h
        · obtain ⟨tail, htail, rfl⟩ := Option.map_eq_some_iff.mp h
          exact Nat.succ_le_succ (ih htail)
        · exact Nat.le_succ_of_le (ih h)
      · cases h

theorem decodeUtf8Sig_length {raw : List Byte} {text : List Char}
    (h : decodeUtf8Sig raw = some text) : text.length ≤ raw.length := by
  obtain ⟨decoded, hdecoded, htext⟩ := Option.map_eq_some_iff.mp h
  refine Nat.le_trans ?_ (decodeUtf8_length hdecoded)
  rw [← htext]
  split
  · split
    · exact Nat.le_succ _
    · exact Nat.le_refl _
  · exact Nat.le_refl _

theorem splitLines_length (current text : List Char) :
    (splitLines current text).length ≤ text.length + 1 := by
  fun_induction splitLines current text with
  | case1 => simp
  | case2 current _ => simp
  | case3 current rest ih =>
    simp only [List.length_cons]
    omega
  | case4 current char rest _ _ ih =>
    simp only [List.length_cons]
    omega
  | case5 current char rest _ _ ih =>
    simp only [List.length_cons]
    omega

theorem isSha256Hex_hexdigest (bytes : List Byte) :
    isSha256Hex (libraries.hexdigest bytes) = true := by
  have hdigit : ∀ value : Fin 16, (('a' ≤ hexDigit value && hexDigit value ≤ 'f') ||
      ('0' ≤ hexDigit value && hexDigit value ≤ '9')) = true := by
    decide +kernel
  rw [isSha256Hex, Bool.and_eq_true]
  constructor
  · rw [decide_eq_true_iff, SourceLibraries.hexdigest, hexText, List.length_flatMap]
    simp
  · rw [List.all_eq_true]
    intro char hchar
    simp only [SourceLibraries.hexdigest, hexText, List.mem_flatMap, List.mem_cons,
      List.not_mem_nil, or_false] at hchar
    obtain ⟨byte, _, rfl | rfl⟩ := hchar
    · exact hdigit _
    · exact hdigit _

/-- What an accepted source promises of its snapshot. -/
structure Snapshot.Accepted (libraries : SourceLibraries) (named : List Char → Prop)
    (snapshot : Snapshot) : Prop where
  version : isSha256Hex snapshot.version = true
  passages : ∀ passage ∈ snapshot.passages, passage.Parsed libraries named
  lines : ∀ passage ∈ snapshot.passages, 1 ≤ passage.startLine ∧
    passage.startLine ≤ passage.endLine ∧ passage.endLine < 1000000

@[simp] theorem snapshotOf_version (raw : List Byte) (lines : List (List Char))
    (passages : List Passage) :
    (snapshotOf libraries raw lines passages).version = libraries.hexdigest raw := by
  simp only [snapshotOf]

@[simp] theorem snapshotOf_passages (raw : List Byte) (lines : List (List Char))
    (passages : List Passage) :
    (snapshotOf libraries raw lines passages).passages = passages := by
  simp only [snapshotOf]

theorem parseSource_size {raw : List Byte} {snapshot : Snapshot}
    (h : parseSource libraries raw = .ok snapshot) : raw.length ≤ maxSourceBytes := by
  by_contra hlarge
  unfold parseSource at h
  split at h
  · exact absurd h (by simp)
  · rename_i hsize
    exact hsize (Or.inr (Nat.lt_of_not_le hlarge))

theorem Passage.Parsed.markConflict {named : List Char → Prop} {passage : Passage}
    (h : passage.Parsed libraries named) (context : ConflictContext) :
    (markConflict libraries.tables context passage).Parsed libraries named := by
  have hsection := markConflict_section libraries.tables context passage
  have hwords := markConflict_words libraries.tables context passage
  have htext := (markConflict_keeps libraries.tables context passage).1
  refine ⟨?_, ?_, ?_, ?_, ?_⟩
  · rw [hsection.1]
    exact h.sectionNamed
  · rw [hsection.2]
    exact h.id_eq
  · intro hpolicy
    rw [htext]
    exact h.quotable (markConflict_policy _ _ hpolicy)
  · rw [hwords.1, hsection.1, htext]
    exact h.terms_eq
  · rw [hwords.2, hsection.1, htext]
    exact h.topics_eq

theorem parseSource_accepted {raw : List Byte} {snapshot : Snapshot}
    (h : parseSource libraries raw = .ok snapshot) {named : List Char → Prop}
    (hnames : ∀ text, decodeUtf8Sig raw = some text →
      NamesSections libraries.tables named (splitLines [] text)) :
    snapshot.Accepted libraries named := by
  have hsize := parseSource_size h
  obtain ⟨text, htext, hsnapshot⟩ := parseSource_eq_ok h
  obtain ⟨other, hother, hpartition⟩ := parseSource_partitions h
  have hparsed := readPassages_parsed (hnames text htext)
  refine ⟨?_, ?_, ?_⟩
  · rw [hsnapshot.2, snapshotOf_version]
    exact @isSha256Hex_hexdigest libraries raw
  · intro passage hpassage
    rw [hsnapshot.2, snapshotOf_passages] at hpassage
    obtain ⟨old, hold, hmarked⟩ := List.mem_map.mp hpassage
    rw [← hmarked]
    exact (hparsed old hold).markConflict _
  · intro passage hpassage
    have hrange := hpartition.ranges passage hpassage
    have hlines := splitLines_length [] other
    have hdecoded := decodeUtf8Sig_length hother
    have hmax : maxSourceBytes = 256000 := rfl
    omega

end Snapshots

end BuddyWeb
