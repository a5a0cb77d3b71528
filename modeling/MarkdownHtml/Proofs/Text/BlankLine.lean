import Mathlib.Data.Set.Card
import Mathlib.Data.String.Basic
import MarkdownHtml.Text.Cut

/-!
# The blank lines of a source

`IsBlankLine cs i j` says, with byte offsets into all of the text, that a blank line begins at `i` and
that its newline is at `j`. `blankLinesBetween`, which sees no more than the characters between two
offsets, counts exactly the blank lines that lie between them (`blankLinesBetween_eq_ncard`). So
counts of stretches that follow one another add up to the count of the lines that lie in one of them
(`sum_blankLinesBetween`): no line lies in two stretches, and one that lies across their seam is in
neither.
-/

namespace MarkdownHtml.Text

open String (utf8Len utf8Len_append utf8Len_cons utf8Len_nil utf8Len_eq_zero utf8Len_toList)

/-! ## Offsets -/

/-- At this offset into the UTF-8 form of a text a character starts, or the text ends. -/
def IsBoundary (source : String) (offset : Nat) : Prop :=
  ∃ before after, source.toList = before ++ after ∧ utf8Len before = offset

theorem isBoundary_zero (source : String) : IsBoundary source 0 := ⟨[], source.toList, rfl, rfl⟩

theorem isBoundary_utf8ByteSize (source : String) : IsBoundary source source.utf8ByteSize :=
  ⟨source.toList, [], (List.append_nil _).symm, utf8Len_toList source⟩

theorem lt_utf8Len_append_cons (front : List Char) (c : Char) (back : List Char) :
    utf8Len front < utf8Len (front ++ c :: back) := by
  rw [utf8Len_append, utf8Len_cons]
  exact Nat.lt_add_of_pos_right (Nat.add_pos_right _ c.utf8Size_pos)

/-- A text can be cut where one of its parts ends. -/
theorem splitAtByte?_append (before after : List Char) :
    splitAtByte? (before ++ after) (utf8Len before) = some (before, after) := by
  induction before with
  | nil => cases after <;> rfl
  | cons c rest ih =>
    obtain ⟨n, hn⟩ : ∃ n, utf8Len (c :: rest) = n + 1 :=
      Nat.exists_eq_add_one.2 (Nat.add_pos_right _ c.utf8Size_pos)
    have hle : c.utf8Size ≤ n + 1 := hn ▸ Nat.le_add_left _ _
    have hrest : n + 1 - c.utf8Size = utf8Len rest := by
      rw [← hn, utf8Len_cons]
      omega
    rw [hn, List.cons_append, splitAtByte?, if_pos hle, hrest, ih]
    rfl

/-- What a cut leaves in front of an offset ends there. -/
theorem utf8Len_of_splitAtByte? {cs before after : List Char} {n : Nat}
    (h : splitAtByte? cs n = some (before, after)) : utf8Len before = n := by
  induction cs generalizing n before with
  | nil =>
    cases n with
    | zero =>
      cases h
      rfl
    | succ n => cases h
  | cons c rest ih =>
    cases n with
    | zero =>
      cases h
      rfl
    | succ n =>
      rw [splitAtByte?] at h
      split at h
      · rename_i hle
        obtain ⟨⟨front, back⟩, hrest, heq⟩ := Option.map_eq_some_iff.1 h
        cases heq
        rw [utf8Len_cons, ih hrest, Nat.sub_add_cancel hle]
      · cases h

/-- The boundaries are the offsets at which a text can be cut. -/
theorem isBoundary_iff_isSome {source : String} {offset : Nat} :
    IsBoundary source offset ↔ (splitAtByte? source.toList offset).isSome = true := by
  rw [Option.isSome_iff_exists]
  constructor
  · rintro ⟨before, after, hsource, rfl⟩
    exact ⟨(before, after), hsource ▸ splitAtByte?_append before after⟩
  · rintro ⟨⟨before, after⟩, hsplit⟩
    exact ⟨before, after, (append_of_splitAtByte? hsplit).symm, utf8Len_of_splitAtByte? hsplit⟩

instance (source : String) (offset : Nat) : Decidable (IsBoundary source offset) :=
  decidable_of_iff _ isBoundary_iff_isSome.symm

/-- No line lies between an offset and itself. -/
theorem blankLinesBetween_self (source : String) (offset : Nat) :
    blankLinesBetween source offset offset = 0 := by
  rw [blankLinesBetween]
  split
  · rfl
  · rename_i before after hsplit
    -- cut once more at the same offset, what stands in front leaves nothing
    have hagain := splitAtByte?_append before []
    rw [List.append_nil, utf8Len_of_splitAtByte? hsplit] at hagain
    rw [hagain]
    simp [completeLines]

/-- Of two beginnings of a text the one that is not longer is the beginning of the other. -/
theorem exists_append_of_utf8Len_le {first rest first' rest' : List Char}
    (h : first ++ rest = first' ++ rest') (hle : utf8Len first ≤ utf8Len first') :
    ∃ middle, first' = first ++ middle ∧ rest = middle ++ rest' := by
  rcases List.append_eq_append_iff.1 h with ⟨middle, hfirst, hrest⟩ | ⟨middle, hfirst, hrest⟩
  · exact ⟨middle, hfirst, hrest⟩
  · have hnil : middle = [] := by
      rw [hfirst, utf8Len_append] at hle
      rw [← utf8Len_eq_zero]
      omega
    subst hnil
    exact ⟨[], by rw [hfirst, List.append_nil, List.append_nil], hrest.symm⟩

/-- A character that starts between two offsets is one of those that stand between them. -/
theorem mem_of_utf8Len_lt {before slice after front back : List Char} {c : Char}
    (h : before ++ (slice ++ after) = front ++ c :: back) (hle : utf8Len before ≤ utf8Len front)
    (hlt : utf8Len front < utf8Len (before ++ slice)) : c ∈ slice := by
  obtain ⟨middle, rfl, hrest⟩ := exists_append_of_utf8Len_le h hle
  rw [utf8Len_append, utf8Len_append, Nat.add_lt_add_iff_left] at hlt
  obtain ⟨tail, rfl, htail⟩ := exists_append_of_utf8Len_le hrest.symm (Nat.le_of_lt hlt)
  cases tail with
  | nil =>
    rw [List.append_nil] at hlt
    exact absurd hlt (Nat.lt_irrefl _)
  | cons d tail =>
    obtain ⟨rfl, -⟩ := List.cons.inj htail
    exact List.mem_append_right _ List.mem_cons_self

/-! ## Lines -/

/-- The next character is the first of a line. -/
def AtLineStart (before : List Char) : Prop := before = [] ∨ before.getLast? = some '\n'

/-- A line with nothing in it but white space begins at one offset, and its newline is at the
other. -/
def IsBlankLine (cs : List Char) (i j : Nat) : Prop :=
  ∃ before line after, cs = before ++ line ++ '\n' :: after ∧ AtLineStart before ∧ '\n' ∉ line ∧
    blank line = true ∧ utf8Len before = i ∧ utf8Len (before ++ line) = j

/-- The blank lines of a text that lie wholly between two offsets, their newline included. -/
def blankLinesWithin (cs : List Char) (start stop : Nat) : Set (Nat × Nat) :=
  {line | IsBlankLine cs line.1 line.2 ∧ start ≤ line.1 ∧ line.2 < stop}

theorem IsBlankLine.le {cs : List Char} {i j : Nat} (h : IsBlankLine cs i j) : i ≤ j := by
  obtain ⟨before, line, after, -, -, -, -, rfl, rfl⟩ := h
  rw [utf8Len_append]
  exact Nat.le_add_right _ _

/-- The newline of a blank line is in the text. -/
theorem IsBlankLine.lt {cs : List Char} {i j : Nat} (h : IsBlankLine cs i j) : j < utf8Len cs := by
  obtain ⟨before, line, after, rfl, -, -, -, -, rfl⟩ := h
  exact lt_utf8Len_append_cons _ _ _

theorem finite_blankLines (cs : List Char) :
    {line : Nat × Nat | IsBlankLine cs line.1 line.2}.Finite := by
  refine ((Set.finite_lt_nat (utf8Len cs)).prod (Set.finite_lt_nat (utf8Len cs))).subset ?_
  intro line hline
  exact ⟨Nat.lt_of_le_of_lt hline.le hline.lt, hline.lt⟩

theorem finite_blankLinesWithin (cs : List Char) (start stop : Nat) :
    (blankLinesWithin cs start stop).Finite :=
  (finite_blankLines cs).subset fun _ hline => hline.1

section Lines

variable {before line gap rest : List Char}

/-- Where the characters between two offsets have no newline, no line lies between them. -/
theorem blankLinesWithin_eq_empty (hgap : '\n' ∉ gap) :
    blankLinesWithin (before ++ gap ++ rest) (utf8Len before) (utf8Len (before ++ gap)) = ∅ := by
  refine Set.eq_empty_of_forall_notMem ?_
  rintro ⟨i, j⟩ ⟨hblank, hstart, hstop⟩
  have hle := hblank.le
  obtain ⟨before', line', after', heq, -, -, -, rfl, rfl⟩ := hblank
  rw [List.append_assoc] at heq
  exact hgap (mem_of_utf8Len_lt heq (Nat.le_trans hstart hle) hstop)

/-- A line is what comes before the first newline. -/
theorem takeWhile_line {text : List Char} (htext : '\n' ∉ text) (more : List Char) :
    (text ++ '\n' :: more).takeWhile (· != '\n') = text := by
  rw [List.takeWhile_append_of_pos fun c hc => ?_, List.takeWhile_cons_of_neg (by simp),
    List.append_nil]
  exact bne_iff_ne.2 fun heq => htext (heq ▸ hc)

/-- A blank line that does not begin before a line of the text is that line, or it begins behind
it. -/
theorem IsBlankLine.cases_of_le {i j : Nat} (hline : '\n' ∉ line)
    (h : IsBlankLine (before ++ (line ++ '\n' :: rest)) i j) (hle : utf8Len before ≤ i) :
    (AtLineStart before ∧ blank line = true ∧ i = utf8Len before ∧ j = utf8Len (before ++ line)) ∨
      utf8Len (before ++ line ++ ['\n']) ≤ i := by
  obtain ⟨before', line', after', heq, hstart, hline', hblank, rfl, rfl⟩ := h
  rw [List.append_assoc] at heq
  obtain ⟨middle, rfl, hrest⟩ := exists_append_of_utf8Len_le heq hle
  by_cases hmiddle : utf8Len middle ≤ utf8Len line
  · left
    obtain ⟨tail, rfl, htail⟩ := exists_append_of_utf8Len_le hrest.symm hmiddle
    -- a line that begins inside of this one would have a newline in front of it there
    have hnil : middle = [] := by
      rcases List.eq_nil_or_concat middle with rfl | ⟨front, c, rfl⟩
      · rfl
      · rcases hstart with hempty | hlast
        · simp at hempty
        · have hc : c = '\n' := by simpa using hlast
          exact absurd (by simp [hc]) hline
    subst hnil
    rw [List.append_nil] at hstart ⊢
    rw [List.nil_append] at hline ⊢
    have hsame : line' = tail := by
      rw [← takeWhile_line hline' after', htail, takeWhile_line hline]
    subst hsame
    exact ⟨hstart, hblank, rfl, rfl⟩
  · right
    have hnewline : utf8Len ['\n'] = 1 := rfl
    simp only [utf8Len_append, hnewline]
    omega

/-- The blank lines from the beginning of a line on, or from inside of it: the line itself, if all
of it is there and it is blank, and those behind it. -/
theorem mem_blankLinesWithin_iff {i j stop : Nat} (hline : '\n' ∉ line)
    (hstop : utf8Len (before ++ line) < stop) :
    (i, j) ∈ blankLinesWithin (before ++ (line ++ '\n' :: rest)) (utf8Len before) stop ↔
      (AtLineStart before ∧ blank line = true ∧ i = utf8Len before ∧
        j = utf8Len (before ++ line)) ∨
      (i, j) ∈ blankLinesWithin (before ++ (line ++ '\n' :: rest))
        (utf8Len (before ++ line ++ ['\n'])) stop := by
  constructor
  · rintro ⟨hblank, hle, hlt⟩
    rcases hblank.cases_of_le hline hle with hself | hbehind
    · exact .inl hself
    · exact .inr ⟨hblank, hbehind, hlt⟩
  · rintro (⟨hstart, hblank, rfl, rfl⟩ | ⟨hblank, hle, hlt⟩)
    · exact ⟨⟨before, line, rest, by rw [List.append_assoc], hstart, hline, hblank, rfl, rfl⟩,
        Nat.le_refl _, hstop⟩
    · refine ⟨hblank, Nat.le_trans ?_ hle, hlt⟩
      rw [utf8Len_append, utf8Len_append, Nat.add_assoc]
      exact Nat.le_add_right _ _

/-- Where the line counts, it is one more than those behind it. -/
theorem ncard_blankLinesWithin_of_blank {stop : Nat} (hline : '\n' ∉ line)
    (hstop : utf8Len (before ++ line) < stop) (hstart : AtLineStart before)
    (hblank : blank line = true) :
    (blankLinesWithin (before ++ (line ++ '\n' :: rest)) (utf8Len before) stop).ncard =
      (blankLinesWithin (before ++ (line ++ '\n' :: rest)) (utf8Len (before ++ line ++ ['\n']))
        stop).ncard + 1 := by
  have hnotMem : (utf8Len before, utf8Len (before ++ line)) ∉ blankLinesWithin
      (before ++ (line ++ '\n' :: rest)) (utf8Len (before ++ line ++ ['\n'])) stop := by
    rintro ⟨-, hle, -⟩
    have hnewline : utf8Len ['\n'] = 1 := rfl
    simp only [utf8Len_append, hnewline] at hle
    omega
  rw [← Set.ncard_insert_of_notMem hnotMem (finite_blankLinesWithin _ _ _)]
  congr 1
  ext ⟨i, j⟩
  rw [mem_blankLinesWithin_iff hline hstop, Set.mem_insert_iff, Prod.mk.injEq]
  simp only [hstart, hblank, true_and]

/-- Where it does not count, there are only those behind it. -/
theorem blankLinesWithin_of_not {stop : Nat} (hline : '\n' ∉ line)
    (hstop : utf8Len (before ++ line) < stop)
    (hnot : ¬ (AtLineStart before ∧ blank line = true)) :
    blankLinesWithin (before ++ (line ++ '\n' :: rest)) (utf8Len before) stop =
      blankLinesWithin (before ++ (line ++ '\n' :: rest)) (utf8Len (before ++ line ++ ['\n']))
        stop := by
  ext ⟨i, j⟩
  rw [mem_blankLinesWithin_iff hline hstop, ← and_assoc, or_iff_right]
  exact fun hself => hnot hself.1

end Lines

/-! ## Complete lines -/

theorem atLineStart_concat (front : List Char) : AtLineStart (front ++ ['\n']) :=
  .inr List.getLast?_concat

theorem append_line (before line gap : List Char) :
    before ++ line ++ ['\n'] ++ gap = before ++ (line ++ '\n' :: gap) := by
  simp

theorem append_line_append (before line gap rest : List Char) :
    before ++ (line ++ '\n' :: gap) ++ rest = before ++ (line ++ '\n' :: (gap ++ rest)) := by
  simp

theorem lt_utf8Len_append_line (before line gap : List Char) :
    utf8Len (before ++ line) < utf8Len (before ++ (line ++ '\n' :: gap)) := by
  rw [← List.append_assoc]
  exact lt_utf8Len_append_cons _ _ _

/-- Characters without a complete line have no newline. -/
theorem not_mem_of_completeLines_eq_nil {cs : List Char} (h : completeLines cs = []) :
    '\n' ∉ cs := by
  induction cs with
  | nil => exact List.not_mem_nil
  | cons c rest ih =>
    rw [completeLines] at h
    split at h
    · cases h
    · rename_i hc
      split at h
      · rename_i hrest
        exact List.not_mem_cons_of_ne_of_not_mem (Ne.symm hc) (ih hrest)
      · cases h

/-- The first complete line comes first, and the others are those of what follows its newline. -/
theorem exists_of_completeLines_eq_cons {cs line : List Char} {lines : List (List Char)}
    (h : completeLines cs = line :: lines) :
    ∃ rest, cs = line ++ '\n' :: rest ∧ '\n' ∉ line ∧ completeLines rest = lines := by
  induction cs generalizing line lines with
  | nil => cases h
  | cons c rest ih =>
    rw [completeLines] at h
    split at h
    · rename_i hc
      cases h
      exact ⟨rest, by rw [hc]; rfl, List.not_mem_nil, rfl⟩
    · rename_i hc
      split at h
      · cases h
      · rename_i first others hrest
        cases h
        obtain ⟨after, rfl, hfirst, hafter⟩ := ih hrest
        exact ⟨after, rfl, List.not_mem_cons_of_ne_of_not_mem (Ne.symm hc) hfirst, hafter⟩

/-- From the start of a line on, the blank ones among the complete lines are the blank lines of the
text. -/
theorem countP_completeLines {before gap : List Char} (rest : List Char)
    (hstart : AtLineStart before) :
    (completeLines gap).countP blank =
      (blankLinesWithin (before ++ gap ++ rest) (utf8Len before)
        (utf8Len (before ++ gap))).ncard := by
  induction hlines : completeLines gap generalizing before gap with
  | nil =>
    rw [blankLinesWithin_eq_empty (not_mem_of_completeLines_eq_nil hlines), Set.ncard_empty,
      List.countP_nil]
  | cons line lines ih =>
    obtain ⟨gap', rfl, hline, hlines'⟩ := exists_of_completeLines_eq_cons hlines
    have hstop := lt_utf8Len_append_line before line gap'
    -- the lines behind the first one, seen from its end
    have hnext := ih (atLineStart_concat (before ++ line)) hlines'
    rw [append_line, append_line_append] at hnext
    rw [List.countP_cons, hnext, append_line_append]
    by_cases hblank : blank line = true
    · rw [if_pos hblank, ncard_blankLinesWithin_of_blank hline hstop hstart hblank]
    · rw [if_neg hblank, Nat.add_zero,
        blankLinesWithin_of_not hline hstop fun hself => hblank hself.2]

/-- Between two boundaries the blank lines are counted that lie wholly between them. -/
theorem blankLinesBetween_eq_ncard {source : String} {start stop : Nat}
    (hstart : IsBoundary source start) (hstop : IsBoundary source stop) (hle : start ≤ stop) :
    blankLinesBetween source start stop = (blankLinesWithin source.toList start stop).ncard := by
  obtain ⟨before, after, hbefore, rfl⟩ := hstart
  obtain ⟨upToStop, rest, hsource, rfl⟩ := hstop
  obtain ⟨gap, rfl, -⟩ := exists_append_of_utf8Len_le (hbefore.symm.trans hsource) hle
  rw [blankLinesBetween, hsource, splitAtByte?_append]
  simp only [splitAtByte?_append]
  by_cases hline : AtLineStart before
  · have hat : (before.isEmpty || before.getLast? == some '\n') = true := by
      simpa [AtLineStart] using hline
    rw [if_pos hat, List.drop_zero, countP_completeLines rest hline]
  · -- what is left of the first line does not count
    have hat : ¬ (before.isEmpty || before.getLast? == some '\n') = true := by
      simpa [AtLineStart] using hline
    rw [if_neg hat]
    rcases hlines : completeLines gap with _ | ⟨line, lines⟩
    · rw [blankLinesWithin_eq_empty (not_mem_of_completeLines_eq_nil hlines), Set.ncard_empty]
      rfl
    · obtain ⟨gap', rfl, hfirst, rfl⟩ := exists_of_completeLines_eq_cons hlines
      have hstop := lt_utf8Len_append_line before line gap'
      have hnext := @countP_completeLines _ gap' rest (atLineStart_concat (before ++ line))
      rw [append_line, append_line_append] at hnext
      rw [append_line_append, blankLinesWithin_of_not hfirst hstop fun hself => hline hself.1]
      exact hnext

/-! ## Stretches of a text -/

/-- The blank lines of a text that lie wholly in one of some stretches. -/
def blankLinesIn (cs : List Char) (stretches : List (Nat × Nat)) : Set (Nat × Nat) :=
  {line | IsBlankLine cs line.1 line.2 ∧
    ∃ stretch ∈ stretches, stretch.1 ≤ line.1 ∧ line.2 < stretch.2}

theorem finite_blankLinesIn (cs : List Char) (stretches : List (Nat × Nat)) :
    (blankLinesIn cs stretches).Finite :=
  (finite_blankLines cs).subset fun _ hline => hline.1

theorem blankLinesIn_cons (cs : List Char) (stretch : Nat × Nat) (rest : List (Nat × Nat)) :
    blankLinesIn cs (stretch :: rest) =
      blankLinesWithin cs stretch.1 stretch.2 ∪ blankLinesIn cs rest := by
  ext line
  simp only [blankLinesIn, blankLinesWithin, List.exists_mem_cons_iff, Set.mem_union,
    Set.mem_ofPred_eq, and_or_left]

/-- Stretches that follow one another have no line in common, so their counts add up. -/
theorem sum_blankLinesBetween {source : String} {stretches : List (Nat × Nat)}
    (hvalid : ∀ stretch ∈ stretches, IsBoundary source stretch.1 ∧ IsBoundary source stretch.2 ∧
      stretch.1 ≤ stretch.2)
    (horder : stretches.Pairwise fun first second => first.2 ≤ second.1) :
    (stretches.map fun stretch => blankLinesBetween source stretch.1 stretch.2).sum =
      (blankLinesIn source.toList stretches).ncard := by
  induction stretches with
  | nil => simp [blankLinesIn]
  | cons stretch rest ih =>
    obtain ⟨⟨hstart, hstop, hle⟩, hrest⟩ := List.forall_mem_cons.1 hvalid
    obtain ⟨hfirst, horder⟩ := List.pairwise_cons.1 horder
    have hdisjoint : Disjoint (blankLinesWithin source.toList stretch.1 stretch.2)
        (blankLinesIn source.toList rest) := by
      rw [Set.disjoint_left]
      rintro line ⟨hblank, -, hlt⟩ ⟨-, other, hother, hge, -⟩
      have hline := hblank.le
      have hapart := hfirst other hother
      omega
    rw [List.map_cons, List.sum_cons, ih hrest horder, blankLinesBetween_eq_ncard hstart hstop hle,
      blankLinesIn_cons, Set.ncard_union_eq hdisjoint (finite_blankLinesWithin _ _ _)
        (finite_blankLinesIn _ _)]

end MarkdownHtml.Text
