/-
The passages of a parsed source are its text, cut into pieces: nothing is lost or repeated, and
every passage stands in the lines it cites.
-/
import BuddyWeb.Chatbot.OwnerSource
import BuddyWeb.Lib.JoinedLines
import BuddyWeb.Lib.WordRuns

namespace BuddyWeb

section Ink

/-- A character which is not white space. -/
def isInk (char : Char) : Bool := !isPySpace char

theorem filter_isInk_eq_nil {text : List Char} (h : ∀ char ∈ text, isPySpace char = true) :
    text.filter isInk = [] := by
  rw [List.filter_eq_nil_iff]
  intro char hchar
  simp [isInk, h char hchar]

theorem filter_isInk_dropWhile (text : List Char) :
    (text.dropWhile isPySpace).filter isInk = text.filter isInk := by
  have hsplit := congrArg (List.filter isInk)
    (@List.takeWhile_append_dropWhile _ isPySpace text)
  rwa [List.filter_append, filter_isInk_eq_nil (fun _ h => List.mem_takeWhile_imp h),
    List.nil_append] at hsplit

theorem filter_isInk_rdropWhile (text : List Char) :
    (text.rdropWhile isPySpace).filter isInk = text.filter isInk := by
  have hsplit := congrArg (List.filter isInk)
    (@List.rdropWhile_append_rtakeWhile _ isPySpace text)
  rwa [List.filter_append, filter_isInk_eq_nil (fun _ h => List.mem_rtakeWhile_imp h),
    List.append_nil] at hsplit

theorem filter_isInk_strip (text : List Char) :
    (strip text).filter isInk = text.filter isInk := by
  rw [strip, trimEnds, filter_isInk_rdropWhile, filter_isInk_dropWhile]

theorem filter_isInk_of_strip_eq_nil {text : List Char} (h : strip text = []) :
    text.filter isInk = [] := by
  rw [← filter_isInk_strip, h, List.filter_nil]

end Ink

section Lines

theorem isPySpace_of_isLineBreak {char : Char} (h : isLineBreak char = true) :
    isPySpace char = true := by
  simp only [isLineBreak, Bool.or_eq_true, Bool.and_eq_true, decide_eq_true_eq,
    beq_iff_eq] at h
  simp only [isPySpace, Bool.or_eq_true, Bool.and_eq_true, decide_eq_true_eq, beq_iff_eq]
  omega

/-- Only line breaks are lost when a text is cut into lines. -/
theorem filter_isInk_splitLines (current text : List Char) :
    (splitLines current text).flatten.filter isInk = (current ++ text).filter isInk := by
  fun_induction splitLines current text with
  | case1 => rfl
  | case2 current hcurrent => simp
  | case3 current rest ih =>
    rw [List.flatten_cons, List.filter_append, ih]
    simp [isInk, isPySpace]
  | case4 current char rest hcrlf hbreak ih =>
    have hspace : isInk char = false := by simp [isInk, isPySpace_of_isLineBreak hbreak]
    rw [List.flatten_cons, List.filter_append, ih, List.nil_append, List.filter_append,
      List.filter_cons_of_neg (by simp [hspace])]
  | case5 current char rest hcrlf hbreak ih =>
    rw [ih, List.append_assoc, List.singleton_append]

/-- A line contains no line break. -/
theorem splitLines_newlineFree (current text : List Char)
    (hcurrent : ∀ char ∈ current, isLineBreak char = false) :
    ∀ line ∈ splitLines current text, ∀ char ∈ line, isLineBreak char = false := by
  fun_induction splitLines current text with
  | case1 => simp
  | case2 current _ => simpa using hcurrent
  | case3 current rest ih =>
    intro line hline
    rcases List.mem_cons.mp hline with rfl | hrest
    · exact hcurrent
    · exact ih (by simp) line hrest
  | case4 current char rest _ hbreak ih =>
    intro line hline
    rcases List.mem_cons.mp hline with rfl | hrest
    · exact hcurrent
    · exact ih (by simp) line hrest
  | case5 current char rest _ hbreak ih =>
    apply ih
    intro other hother
    rcases List.mem_append.mp hother with hold | hnew
    · exact hcurrent other hold
    · rw [List.mem_singleton.mp hnew]
      exact Bool.eq_false_iff.mpr hbreak

theorem separatorFree_splitLines (text : List Char) :
    SeparatorFree '\n' (splitLines [] text) := by
  intro line hline hmem
  have hfalse := splitLines_newlineFree [] text (by simp) line hline '\n' hmem
  exact absurd hfalse (by decide)

end Lines

section Covers

/-- The passages are the text of consecutive lines, the first of which has the given number:
they cite lines in order, stand in the lines they cite, and together make up the text. -/
structure CoversFrom (first : Nat) (lines : List (List Char)) (passages : List Passage) :
    Prop where
  ranges : ∀ passage ∈ passages, first ≤ passage.startLine ∧
    passage.startLine ≤ passage.endLine ∧ passage.endLine < first + lines.length
  ordered : passages.Pairwise fun earlier later => earlier.endLine ≤ later.startLine
  verbatim : ∀ passage ∈ passages, passage.text <:+:
    joinLines ((lines.take (passage.endLine + 1 - first)).drop (passage.startLine - first))
  complete : (passages.flatMap Passage.text).filter isInk = lines.flatten.filter isInk

variable {first : Nat} {lines others : List (List Char)} {passages more : List Passage}

theorem CoversFrom.nil : CoversFrom first [] [] := by
  constructor <;> simp

/-- Lines without ink need no passage. -/
theorem CoversFrom.blank (hblank : ∀ line ∈ lines, strip line = []) :
    CoversFrom first lines [] := by
  refine ⟨by simp, List.Pairwise.nil, by simp, ?_⟩
  rw [List.flatMap_nil, List.filter_nil, eq_comm, List.filter_eq_nil_iff]
  intro char hchar
  obtain ⟨line, hline, hmem⟩ := List.mem_flatten.mp hchar
  exact List.filter_eq_nil_iff.mp (filter_isInk_of_strip_eq_nil (hblank line hline)) char hmem

theorem CoversFrom.append (h : CoversFrom first lines passages)
    (hmore : CoversFrom (first + lines.length) others more) :
    CoversFrom first (lines ++ others) (passages ++ more) := by
  constructor
  · intro passage hpassage
    rw [List.length_append]
    rcases List.mem_append.mp hpassage with hold | hnew
    · have hrange := h.ranges passage hold
      omega
    · have hrange := hmore.ranges passage hnew
      omega
  · rw [List.pairwise_append]
    refine ⟨h.ordered, hmore.ordered, ?_⟩
    intro earlier hearlier later hlater
    have hbefore := h.ranges earlier hearlier
    have hafter := hmore.ranges later hlater
    omega
  · intro passage hpassage
    rcases List.mem_append.mp hpassage with hold | hnew
    · have hrange := h.ranges passage hold
      rw [List.take_append_of_le_length (by omega)]
      exact h.verbatim passage hold
    · have hrange := hmore.ranges passage hnew
      have hverbatim := hmore.verbatim passage hnew
      have hend : passage.endLine + 1 - first =
          lines.length + (passage.endLine + 1 - (first + lines.length)) := by omega
      have hstart : passage.startLine - first =
          lines.length + (passage.startLine - (first + lines.length)) := by omega
      rw [hend, hstart, List.take_length_add_append, List.drop_length_add_append]
      exact hverbatim
  · rw [List.flatMap_append, List.filter_append, h.complete, hmore.complete,
      List.flatten_append, List.filter_append]

end Covers

section Blocks

variable {libraries : SourceLibraries} {sectionName block : List Char} {first last : Nat}

theorem rdropWhile_append_of_ne_nil {p : Char → Bool} {before after : List Char}
    (h : after.rdropWhile p ≠ []) :
    (before ++ after).rdropWhile p = before ++ after.rdropWhile p := by
  have hreverse : after.reverse.dropWhile p ≠ [] := by
    intro hnil
    exact h (congrArg List.reverse hnil)
  rw [List.rdropWhile, List.reverse_append, List.dropWhile_append,
    if_neg (by simpa using hreverse), List.reverse_append, List.reverse_reverse]
  rfl

theorem rdropWhile_ne_nil_of_strip {text : List Char} (h : strip text ≠ []) :
    text.rdropWhile isPySpace ≠ [] := by
  intro hnil
  apply h
  have hspace := List.rdropWhile_eq_nil_iff.mp hnil
  rw [strip, trimEnds, List.dropWhile_eq_nil_iff.mpr hspace]
  rfl

/-- What is left of a text without white space at its end ends with the stripped text. -/
theorem strip_suffix {text : List Char} (h : strip text ≠ []) :
    strip text <:+ text.rdropWhile isPySpace := by
  have hsplit := @rdropWhile_append_of_ne_nil isPySpace (text.takeWhile isPySpace)
    (text.dropWhile isPySpace) h
  rw [List.takeWhile_append_dropWhile] at hsplit
  exact ⟨_, hsplit.symm⟩

theorem take_eq_append {start stop : Nat} (h : start ≤ stop) (text : List Char) :
    text.take stop = text.take start ++ (text.take stop).drop start := by
  have hsplit := List.take_append_drop start (text.take stop)
  rw [List.take_take, Nat.min_eq_left h] at hsplit
  exact hsplit.symm

theorem drop_eq_append {start stop : Nat} (h : start ≤ stop) (text : List Char) :
    text.drop start = (text.take stop).drop start ++ text.drop stop := by
  rw [List.drop_take, ← Nat.add_sub_cancel' h, ← List.drop_drop, Nat.add_sub_cancel_left,
    List.take_append_drop]

/-- A passage is the stripped part of its span, and it cites the lines of the part. -/
theorem passageAt_eq_some {start stop : Nat} (hle : start ≤ stop) {passage : Passage}
    (h : passageAt libraries sectionName block first last (start, stop) = some passage) :
    ∃ part after, block = block.take start ++ (part ++ after) ∧ passage.text <:+ part ∧
      passage.startLine = first + (block.take start).count '\n' ∧
      passage.endLine = min last (passage.startLine + part.count '\n') ∧
      passage.startLine + part.count '\n' ≤ first + (block.take stop).count '\n' := by
  simp only [passageAt] at h
  split at h
  · cases h
  · rename_i hbody
    have hslice := take_eq_append hle block
    have hpart := @rdropWhile_append_of_ne_nil isPySpace (block.take start)
      ((block.take stop).drop start) (rdropWhile_ne_nil_of_strip hbody)
    rw [← hslice] at hpart
    obtain ⟨blanks, hblanks⟩ :=
      List.rdropWhile_prefix isPySpace ((block.take stop).drop start)
    cases h
    refine ⟨((block.take stop).drop start).rdropWhile isPySpace, blanks ++ block.drop stop,
      ?_, strip_suffix hbody, rfl, ?_, ?_⟩
    · rw [← List.append_assoc (List.rdropWhile _ _), hblanks, ← List.append_assoc, ← hslice,
        List.take_append_drop]
    · dsimp only
      rw [hpart, List.count_append, Nat.add_assoc]
    · dsimp only
      have hcount := (List.rdropWhile_prefix isPySpace (block.take stop)).sublist.count_le '\n'
      rw [hpart, List.count_append] at hcount
      omega

theorem passageAt_eq_none {span : Nat × Nat}
    (h : passageAt libraries sectionName block first last span = none) :
    strip ((block.take span.2).drop span.1) = [] := by
  simp only [passageAt] at h
  split at h
  · assumption
  · cases h

theorem passageAt_text {span : Nat × Nat} {passage : Passage}
    (h : passageAt libraries sectionName block first last span = some passage) :
    passage.text = strip ((block.take span.2).drop span.1) := by
  simp only [passageAt] at h
  split at h
  · cases h
  · cases h
    rfl

/-- The passages of the spans from an offset on. -/
def passagesFrom (libraries : SourceLibraries) (sectionName block : List Char)
    (first last : Nat) (offsets : List Nat) : List Passage :=
  (spans offsets).filterMap (passageAt libraries sectionName block first last)

theorem spans_cons_cons (start stop : Nat) (rest : List Nat) :
    spans (start :: stop :: rest) = (start, stop) :: spans (stop :: rest) := rfl

/-- The spans make up the block from their first offset on. -/
theorem passagesFrom_text {offsets : List Nat} {start : Nat}
    (hsorted : (start :: offsets).Pairwise (· ≤ ·))
    (hlast : (start :: offsets).getLast (by simp) = block.length) :
    ((passagesFrom libraries sectionName block first last (start :: offsets)).flatMap
      Passage.text).filter isInk = (block.drop start).filter isInk := by
  induction offsets generalizing start with
  | nil =>
    have hend : start = block.length := hlast
    rw [hend, List.drop_length]
    rfl
  | cons stop rest ih =>
    obtain ⟨hstart, hrest⟩ := List.pairwise_cons.mp hsorted
    have hle := hstart stop List.mem_cons_self
    have htail := ih hrest (by simpa using hlast)
    rw [passagesFrom] at htail
    rw [passagesFrom, spans_cons_cons, List.filterMap_cons, drop_eq_append hle,
      List.filter_append]
    cases hpassage : passageAt libraries sectionName block first last (start, stop) with
    | none =>
      rw [filter_isInk_of_strip_eq_nil (passageAt_eq_none hpassage), List.nil_append]
      exact htail
    | some passage =>
      dsimp only
      rw [List.flatMap_cons, List.filter_append, passageAt_text hpassage, filter_isInk_strip,
        htail]

theorem exists_span {offsets : List Nat} {start : Nat}
    (hsorted : (start :: offsets).Pairwise (· ≤ ·)) {passage : Passage}
    (h : passage ∈ passagesFrom libraries sectionName block first last (start :: offsets)) :
    ∃ low stop, start ≤ low ∧ low ≤ stop ∧
      passageAt libraries sectionName block first last (low, stop) = some passage := by
  induction offsets generalizing start with
  | nil => simp [passagesFrom, spans] at h
  | cons stop rest ih =>
    obtain ⟨hstart, hrest⟩ := List.pairwise_cons.mp hsorted
    have hle := hstart stop List.mem_cons_self
    rw [passagesFrom, spans_cons_cons, List.mem_filterMap] at h
    obtain ⟨span, hspan, hpassage⟩ := h
    rcases List.mem_cons.mp hspan with rfl | hspan
    · exact ⟨start, stop, Nat.le_refl _, hle, hpassage⟩
    · obtain ⟨low, later, hlow, hstop, hat⟩ :=
        ih hrest (List.mem_filterMap.mpr ⟨span, hspan, hpassage⟩)
      exact ⟨low, later, Nat.le_trans hle hlow, hstop, hat⟩

theorem passagesFrom_ordered {offsets : List Nat} {start : Nat}
    (hsorted : (start :: offsets).Pairwise (· ≤ ·)) :
    (passagesFrom libraries sectionName block first last (start :: offsets)).Pairwise
      fun earlier later => earlier.endLine ≤ later.startLine := by
  induction offsets generalizing start with
  | nil => simp [passagesFrom, spans]
  | cons stop rest ih =>
    obtain ⟨hstart, hrest⟩ := List.pairwise_cons.mp hsorted
    have hle := hstart stop List.mem_cons_self
    have htail := ih hrest
    rw [passagesFrom] at htail
    rw [passagesFrom, spans_cons_cons, List.filterMap_cons]
    cases hpassage : passageAt libraries sectionName block first last (start, stop) with
    | none => exact htail
    | some passage =>
      refine List.Pairwise.cons ?_ htail
      intro later hlater
      obtain ⟨_, _, _, _, _, hend, hbound⟩ := passageAt_eq_some hle hpassage
      obtain ⟨low, _, hlow, hstop, hat⟩ := exists_span hrest hlater
      obtain ⟨_, _, _, _, hline, _⟩ := passageAt_eq_some hstop hat
      have hcount : (block.take stop).count '\n' ≤ (block.take low).count '\n' :=
        (List.take_sublist_take_left hlow).count_le '\n'
      omega

theorem joinLines_append (line : List Char) (rest : List (List Char)) :
    ∃ later, joinLines (line :: rest) = line ++ later := by
  cases rest with
  | nil => exact ⟨[], by simp [joinLines]⟩
  | cons next rest =>
    exact ⟨_, by rw [joinLines, List.intercalate_cons_cons, List.append_assoc]⟩

/-- White space before a block stands in its first line. -/
theorem newline_not_mem_takeWhile {line : List Char} (hfree : '\n' ∉ line)
    (hline : strip line ≠ []) (later : List Char) :
    '\n' ∉ (line ++ later).takeWhile isPySpace := by
  have hshort : (line.takeWhile isPySpace).length ≠ line.length := by
    intro hlength
    have hall := (List.takeWhile_prefix isPySpace).eq_of_length hlength
    apply hline
    rw [strip, trimEnds, List.dropWhile_eq_nil_iff.mpr (List.takeWhile_eq_self_iff.mp hall)]
    rfl
  rw [List.takeWhile_append, if_neg hshort]
  intro hmem
  exact hfree ((List.takeWhile_prefix isPySpace).subset hmem)

theorem offsets_sorted (block : List Char) :
    (0 :: (sentenceBoundary.matchEnds block ++ [block.length])).Pairwise (· ≤ ·) := by
  refine List.Pairwise.cons (fun _ _ => Nat.zero_le _) ?_
  rw [List.pairwise_append]
  refine ⟨Pattern.matchEnds_pairwise block, List.pairwise_singleton _ _, ?_⟩
  intro stop hstop other hother
  rw [List.mem_singleton.mp hother]
  exact Pattern.matchEnds_le block stop hstop

/-- A passage of a block is in a part of it, and cites the lines of that part. -/
theorem blockPassages_cites {breaks : Nat} (hbreaks : block.count '\n' ≤ breaks)
    {passage : Passage}
    (h : passage ∈ blockPassages libraries sectionName first (first + breaks) block) :
    ∃ start part after, block = start ++ (part ++ after) ∧ passage.text <:+ part ∧
      passage.startLine = first + start.count '\n' ∧
      passage.endLine = passage.startLine + part.count '\n' ∧
      passage.endLine ≤ first + breaks := by
  obtain ⟨low, stop, _, hle, hat⟩ := exists_span (offsets_sorted block) h
  obtain ⟨part, after, hsplit, hsuffix, hstart, hend, hbound⟩ := passageAt_eq_some hle hat
  have hcount := (List.take_sublist stop block).count_le '\n'
  refine ⟨block.take low, part, after, hsplit, hsuffix, hstart, ?_, ?_⟩
  · rw [hend]
    omega
  · rw [hend]
    omega

theorem blockPassages_text (block : List Char) :
    ((blockPassages libraries sectionName first last block).flatMap Passage.text).filter isInk =
      block.filter isInk :=
  passagesFrom_text (offsets_sorted block)
    (by rw [List.getLast_cons (by simp), List.getLast_concat])

theorem strip_split (text : List Char) :
    text = text.takeWhile isPySpace ++
      (strip text ++ (text.dropWhile isPySpace).rtakeWhile isPySpace) := by
  rw [strip, trimEnds, List.rdropWhile_append_rtakeWhile, List.takeWhile_append_dropWhile]

theorem count_strip_joinLines {lines : List (List Char)} (hfree : SeparatorFree '\n' lines) :
    (strip (joinLines lines)).count '\n' ≤ lines.length - 1 := by
  have hsplit := congrArg (List.count '\n') (strip_split (joinLines lines))
  rw [List.count_append, List.count_append] at hsplit
  have hcount := count_intercalate hfree
  rw [← joinLines] at hcount
  omega

/-- The passages of a block are the text of its lines. -/
theorem blockPassages_covers {lines : List (List Char)} (hlines : lines ≠ [])
    (hfree : SeparatorFree '\n' lines) (hink : ∀ line ∈ lines, strip line ≠ []) :
    CoversFrom first lines (blockPassages libraries sectionName first
      (first + (lines.length - 1)) (strip (joinLines lines))) := by
  obtain ⟨line, rest, rfl⟩ := List.exists_cons_of_ne_nil hlines
  obtain ⟨later, hlater⟩ := joinLines_append line rest
  have hbefore : '\n' ∉ (joinLines (line :: rest)).takeWhile isPySpace := by
    rw [hlater]
    exact newline_not_mem_takeWhile (hfree line List.mem_cons_self)
      (hink line List.mem_cons_self) later
  have hbreaks := count_strip_joinLines hfree
  constructor
  · intro passage hpassage
    obtain ⟨start, part, after, _, _, hstart, hend, hbound⟩ :=
      blockPassages_cites hbreaks hpassage
    simp only [List.length_cons] at hbound ⊢
    omega
  · exact passagesFrom_ordered (offsets_sorted _)
  · intro passage hpassage
    obtain ⟨start, part, after, hsplit, hsuffix, hstart, hend, _⟩ :=
      blockPassages_cites hbreaks hpassage
    have hblock := strip_split (joinLines (line :: rest))
    rw [hsplit] at hblock
    have hwhere : joinLines (line :: rest) =
        ((joinLines (line :: rest)).takeWhile isPySpace ++ start) ++ (part ++ (after ++
          ((joinLines (line :: rest)).dropWhile isPySpace).rtakeWhile isPySpace)) :=
      hblock.trans (by simp only [List.append_assoc])
    have hinfix := infix_intercalate_drop_take hfree hlines hwhere
    rw [List.count_append, List.count_eq_zero.mpr hbefore, Nat.zero_add] at hinfix
    have hlow : passage.startLine - first = start.count '\n' := by omega
    have hhigh : passage.endLine + 1 - first =
        start.count '\n' + (part.count '\n' + 1) := by omega
    rw [hlow, hhigh, ← List.take_drop]
    exact hsuffix.isInfix.trans hinfix
  · rw [blockPassages_text, filter_isInk_strip]
    exact filter_intercalate (by decide) _

end Blocks

section Reading

variable {libraries : SourceLibraries}

/-- A line with a label has more than white space. -/
theorem strip_ne_nil_of_heading {tables : WordTables} {line label : List Char}
    (h : heading tables line = some label) : strip line ≠ [] := by
  intro hblank
  have hempty : strip (List.rdropWhile (· == ':')
      ((Pattern.seq .textStart (.oneOrMore tables.isDecimal)).substitute (fun _ => []) [])) =
        [] := rfl
  have hbeverage : startsWith "food and beverage:" [] = false := by decide
  have hhash : startsWith "#" [] = false := by decide
  simp [heading, hblank, hempty, hbeverage, hhash] at h
  exact absurd h.1 (by decide)

/-- What the loop has read: the passages are the text of the first lines, and the buffer holds
the others, each with its number and each with ink. -/
def ParseState.HasRead (state : ParseState) (lines : List (List Char)) : Prop :=
  ∃ covered pending, lines = covered ++ pending ∧ CoversFrom 1 covered state.passages ∧
    state.buffered = (pending.zipIdx (covered.length + 1)).map Prod.swap ∧
    ∀ line ∈ pending, strip line ≠ []

variable {state : ParseState} {lines : List (List Char)}

theorem map_snd_swap_zipIdx (pending : List (List Char)) (start : Nat) :
    ((pending.zipIdx start).map Prod.swap).map Prod.snd = pending := by
  rw [List.map_map]
  exact List.zipIdx_map_fst _ _

/-- The number of the last line. -/
theorem last_number (line : List Char) (rest : List (List Char)) (start : Nat) :
    (((((line :: rest).zipIdx start).map Prod.swap).getLast?).map Prod.fst).getD start =
      start + ((line :: rest).length - 1) := by
  rw [List.getLast?_eq_getElem?, List.getElem?_map, List.getElem?_zipIdx]
  simp

theorem ParseState.HasRead.flush (hfree : SeparatorFree '\n' lines)
    (h : state.HasRead lines) :
    CoversFrom 1 lines (state.flush libraries).passages ∧
      (state.flush libraries).buffered = [] := by
  obtain ⟨covered, pending, rfl, hcovers, hbuffered, hink⟩ := h
  cases pending with
  | nil =>
    have hempty : state.buffered = [] := hbuffered
    simp only [ParseState.flush, hempty, List.append_nil]
    exact ⟨hcovers, trivial⟩
  | cons line rest =>
    have hblock := @blockPassages_covers libraries state.sectionName (covered.length + 1)
      (line :: rest) (by simp)
      (hfree.sublist (List.sublist_append_right covered (line :: rest))) hink
    have hlines := map_snd_swap_zipIdx (line :: rest) (covered.length + 1)
    have hlast := last_number line rest (covered.length + 1)
    rw [← hbuffered] at hlines hlast
    rw [List.zipIdx_cons, List.map_cons, Prod.swap_prod_mk] at hbuffered
    simp only [ParseState.flush, hbuffered] at hlines hlast ⊢
    rw [hlines, hlast]
    refine ⟨hcovers.append ?_, trivial⟩
    rw [Nat.add_comm 1]
    exact hblock

/-- A buffer with one more line. -/
theorem ParseState.HasRead.append (h : state.HasRead lines) {line : List Char}
    (hline : strip line ≠ []) :
    (state.append (lines.length + 1) line).HasRead (lines ++ [line]) := by
  obtain ⟨covered, pending, rfl, hcovers, hbuffered, hink⟩ := h
  refine ⟨covered, pending ++ [line], (List.append_assoc _ _ _), hcovers, ?_, ?_⟩
  · rw [ParseState.append, hbuffered, List.zipIdx_append, List.map_append, List.length_append]
    simp [Nat.add_right_comm]
  · intro other hother
    rcases List.mem_append.mp hother with hold | hnew
    · exact hink other hold
    · rw [List.mem_singleton.mp hnew]
      exact hline

theorem ParseState.HasRead.of_covers (hcovers : CoversFrom 1 lines state.passages)
    (hbuffered : state.buffered = []) : state.HasRead lines :=
  ⟨lines, [], (List.append_nil lines).symm, hcovers, hbuffered, by simp⟩

/-- One line keeps the account of what was read. -/
theorem ParseState.HasRead.readLine (hfree : SeparatorFree '\n' lines)
    (h : state.HasRead lines) (line : List Char) :
    (state.readLine libraries (line, lines.length + 1)).HasRead (lines ++ [line]) := by
  obtain ⟨hcovers, hempty⟩ := @ParseState.HasRead.flush libraries _ _ hfree h
  have hflushed := ParseState.HasRead.of_covers hcovers hempty
  cases hheading : heading libraries.tables line with
  | some label =>
    simp only [ParseState.readLine, hheading]
    refine ParseState.HasRead.append ?_ (strip_ne_nil_of_heading hheading)
    unfold ParseState.withHeading
    split
    · exact ParseState.HasRead.of_covers hcovers hempty
    · exact ParseState.HasRead.of_covers hcovers hempty
  | none =>
    simp only [ParseState.readLine, hheading]
    by_cases hblank : strip line = []
    · rw [if_pos hblank]
      refine ParseState.HasRead.of_covers ?_ hempty
      have hboth := hcovers.append (@CoversFrom.blank _ [line] (by simpa using hblank))
      rwa [List.append_nil] at hboth
    · rw [if_neg hblank]
      split
      · exact hflushed.append hblank
      · exact h.append hblank

/-- The loop over the lines, by induction on how many are read. -/
theorem hasRead_foldl (unread : List (List Char)) (hfree : SeparatorFree '\n' (lines ++ unread))
    (h : state.HasRead lines) :
    ((unread.zipIdx (lines.length + 1)).foldl (ParseState.readLine libraries) state).HasRead
      (lines ++ unread) := by
  induction unread generalizing lines state with
  | nil => rwa [List.append_nil]
  | cons line rest ih =>
    rw [List.zipIdx_cons, List.foldl_cons]
    have hline := @ParseState.HasRead.readLine libraries _ _
      (hfree.sublist (List.sublist_append_left lines (line :: rest))) h line
    have hassoc : lines ++ line :: rest = (lines ++ [line]) ++ rest := by simp
    rw [hassoc] at hfree ⊢
    have hrest := ih hfree hline
    rwa [List.length_append] at hrest

theorem readPassages_covers (hfree : SeparatorFree '\n' lines) :
    CoversFrom 1 lines (readPassages libraries lines) := by
  have hstart : ParseState.start.HasRead [] := ParseState.HasRead.of_covers .nil rfl
  have hread := @hasRead_foldl libraries _ [] lines hfree hstart
  exact (@ParseState.HasRead.flush libraries _ _ hfree hread).1

end Reading

section Sources

variable {libraries : SourceLibraries}

/-- Marking conflicts changes neither texts nor lines. -/
theorem CoversFrom.map {first : Nat} {lines : List (List Char)} {passages : List Passage}
    {change : Passage → Passage}
    (hchange : ∀ passage, (change passage).text = passage.text ∧
      (change passage).startLine = passage.startLine ∧
      (change passage).endLine = passage.endLine)
    (h : CoversFrom first lines passages) : CoversFrom first lines (passages.map change) := by
  constructor
  · intro passage hpassage
    obtain ⟨old, hold, rfl⟩ := List.mem_map.mp hpassage
    rw [(hchange old).2.1, (hchange old).2.2]
    exact h.ranges old hold
  · rw [List.pairwise_map]
    refine h.ordered.imp ?_
    intro earlier later hle
    rw [(hchange earlier).2.2, (hchange later).2.1]
    exact hle
  · intro passage hpassage
    obtain ⟨old, hold, rfl⟩ := List.mem_map.mp hpassage
    rw [(hchange old).1, (hchange old).2.1, (hchange old).2.2]
    exact h.verbatim old hold
  · rw [← h.complete, List.flatMap_map]
    simp only [hchange]

theorem markConflict_keeps (tables : WordTables) (context : ConflictContext)
    (passage : Passage) :
    (markConflict tables context passage).text = passage.text ∧
      (markConflict tables context passage).startLine = passage.startLine ∧
      (markConflict tables context passage).endLine = passage.endLine := by
  unfold markConflict
  split <;> exact ⟨rfl, rfl, rfl⟩

/-- What an accepted source gives. -/
theorem parseSource_eq_ok {raw : List Byte} {snapshot : Snapshot}
    (h : parseSource libraries raw = .ok snapshot) :
    ∃ text, decodeUtf8Sig raw = some text ∧
      readPassages libraries (splitLines [] text) ≠ [] ∧
      snapshot = snapshotOf libraries raw (splitLines [] text)
        ((readPassages libraries (splitLines [] text)).map (markConflict libraries.tables
          (conflictContext libraries.tables text
            (readPassages libraries (splitLines [] text))))) := by
  unfold parseSource at h
  split at h
  · cases h
  · split at h
    · cases h
    · rename_i text htext
      split at h
      · cases h
      · split at h
        · cases h
        · dsimp only at h
          split at h
          · cases h
          · rename_i hcount
            simp only [Except.ok.injEq] at h
            exact ⟨text, htext, fun hnil => hcount (Or.inl hnil), h.symm⟩

/-- The passages partition the text: they cite existing lines and never go back, they stand in
the lines they cite, and without white space they are the text. -/
structure Snapshot.Partitions (snapshot : Snapshot) (text : List Char) : Prop where
  ranges : ∀ passage ∈ snapshot.passages, 1 ≤ passage.startLine ∧
    passage.startLine ≤ passage.endLine ∧ passage.endLine ≤ (splitLines [] text).length
  ordered : snapshot.passages.Pairwise fun earlier later =>
    earlier.endLine ≤ later.startLine
  verbatim : ∀ passage ∈ snapshot.passages, passage.text <:+: joinLines
    (((splitLines [] text).take passage.endLine).drop (passage.startLine - 1))
  complete : (snapshot.passages.flatMap Passage.text).filter (fun char => !isPySpace char) =
    text.filter fun char => !isPySpace char

/-- Parsing loses, repeats and misplaces nothing of a source. -/
theorem parseSource_partitions {raw : List Byte} {snapshot : Snapshot}
    (h : parseSource libraries raw = .ok snapshot) :
    ∃ text, decodeUtf8Sig raw = some text ∧ snapshot.Partitions text := by
  obtain ⟨text, htext, _, rfl⟩ := parseSource_eq_ok h
  have hcovers := (@readPassages_covers libraries _
    (separatorFree_splitLines text)).map (markConflict_keeps libraries.tables
      (conflictContext libraries.tables text (readPassages libraries (splitLines [] text))))
  refine ⟨text, htext, ?_, hcovers.ordered, ?_, ?_⟩
  · intro passage hpassage
    have hrange := hcovers.ranges passage hpassage
    omega
  · intro passage hpassage
    have hverbatim := hcovers.verbatim passage hpassage
    rwa [Nat.add_sub_cancel] at hverbatim
  · exact hcovers.complete.trans (filter_isInk_splitLines [] text)

/-- The Unicode tables on Latin letters and ASCII digits. -/
def latinTables : WordTables where
  nfc := id
  nfkc := id
  casefoldChar := fun char =>
    let code := char.toNat
    if Nat.ble 65 code && Nat.ble code 90 then [Char.ofNat (code + 32)]
    else if Nat.beq code 0xDF then ['s', 's']
    else if Nat.ble 0xC0 code && Nat.ble code 0xDE && !Nat.beq code 0xD7 then
      [Char.ofNat (code + 32)]
    else [char]
  isAlnum := fun char =>
    let code := char.toNat
    (Nat.ble 97 code && Nat.ble code 122) || (Nat.ble 48 code && Nat.ble code 57) ||
      (Nat.ble 65 code && Nat.ble code 90) ||
      (Nat.ble 0xC0 code && Nat.ble code 0xFF && !Nat.beq code 0xD7 && !Nat.beq code 0xF7)
  isDecimal := fun char => Nat.ble 48 char.toNat && Nat.ble char.toNat 57

/-- The libraries on Latin texts, with the digests of some of them. -/
def latinLibraries (digests : List (String × Nat)) : SourceLibraries where
  tables := latinTables
  sha256 := fun bytes =>
    ((digests.find? fun entry => encodeUtf8 entry.1.toList == bytes).map Prod.snd).getD 0

def dormGuide : List Byte := encodeUtf8 "# Dorm\nRooms are fine. Ask first.".toList

def dormLibraries : SourceLibraries :=
  latinLibraries
    [("# Dorm\nRooms are fine. Ask first.",
      0xbf6c6c59230a30552619b457d84b0064b9f11dfd45d729ab98e77683a65f363),
     ("1\nDorm\n# Dorm\nRooms are fine.",
      0x9868bba8f855d16fd3ae65da20c0e435951acf3610ec6a758904f330dca72bb6),
     ("2\nDorm\nAsk first.",
      0x68eafdd4adea78964b17f89a589991ce3a907ec405b5104219cd1cfcd059d6a6)]

/-- The heading stands in the passage of the first sentence; the second begins in its line. -/
theorem parseSource_partitions_dormGuide :
    ∃ snapshot text, parseSource dormLibraries dormGuide = .ok snapshot ∧
      snapshot.Partitions text ∧
      snapshot.passages.map (fun passage => (passage.startLine, passage.endLine)) =
        [(1, 2), (2, 2)] := by
  have hlines : (match parseSource dormLibraries dormGuide with
      | .ok snapshot => snapshot.passages.map (fun passage =>
          (passage.startLine, passage.endLine)) == [(1, 2), (2, 2)]
      | .error _ => false) = true := by decide +kernel
  cases hparse : parseSource dormLibraries dormGuide with
  | error error =>
    rw [hparse] at hlines
    cases hlines
  | ok snapshot =>
    rw [hparse] at hlines
    obtain ⟨text, _, hpartitions⟩ := parseSource_partitions hparse
    exact ⟨snapshot, text, rfl, hpartitions, beq_iff_eq.mp hlines⟩

end Sources

end BuddyWeb
