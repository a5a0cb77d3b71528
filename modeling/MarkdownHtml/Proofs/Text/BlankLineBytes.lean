import MarkdownHtml.Proofs.Text.BlankLine
import MarkdownHtml.Proofs.Text.Map

/-!
# Blank lines by their bytes

`BlankLineAt source i j` says by the bytes of the whole text what a blank line is: its newline is at
`j`, a line starts at `i`, there is no newline between, and all that stands between is white space. As
no character but the newline has the newline's byte in its form (`newlineAt_iff`), these are the blank
lines of the characters (`blankLineAt_iff`). Two blank lines do not overlap, so that an offset lies
inside of at most one of them (`BlankLineAt.eq_of_across`), and inside of none if a line starts there.
-/

namespace MarkdownHtml.Text

open String (utf8Len utf8Len_append utf8Len_cons utf8Len_nil utf8Len_eq_zero)

/-- A newline stands at this offset of the UTF-8 form. -/
def NewlineAt (source : String) (offset : Nat) : Prop := (utf8 source)[offset]? = some 0x0A

/-- At this offset the text begins, or a newline stands in front of it. -/
def LineStartsAt (source : String) (offset : Nat) : Prop :=
  offset = 0 ∨ NewlineAt source (offset - 1)

instance (source : String) (offset : Nat) : Decidable (NewlineAt source offset) :=
  inferInstanceAs (Decidable ((utf8 source)[offset]? = some 0x0A))

instance (source : String) (offset : Nat) : Decidable (LineStartsAt source offset) :=
  inferInstanceAs (Decidable (offset = 0 ∨ NewlineAt source (offset - 1)))

/-- The characters between two offsets, neither of which is inside a character. -/
def IsSlice (source : String) (start stop : Nat) (slice : List Char) : Prop :=
  ∃ before after, source.toList = before ++ slice ++ after ∧ utf8Len before = start ∧
    utf8Len (before ++ slice) = stop

/-- A line with nothing in it but white space begins at one offset, and its newline is at the
other. -/
structure BlankLineAt (source : String) (i j : Nat) : Prop where
  le : i ≤ j
  newline : NewlineAt source j
  lineStarts : LineStartsAt source i
  not_newline : ∀ k, i ≤ k → k < j → ¬NewlineAt source k
  blank : ∃ slice, IsSlice source i j slice ∧ blank slice = true

/-! ## The byte of a newline -/

theorem ofNat_eq_newline {n : Nat} (hn : n < 256) (h : UInt8.ofNat n = 0x0A) : n = 0x0A := by
  have hnat := congrArg UInt8.toNat h
  rwa [UInt8.toNat_ofNat', Nat.mod_eq_of_lt hn] at hnat

/-- The bytes behind the first one of a form are larger than that of a newline. -/
theorem newline_not_mem_trailBytes (count n : Nat) : 0x0A ∉ trailBytes count n := by
  induction count with
  | zero => exact List.not_mem_nil
  | succ count ih =>
    rw [trailBytes, List.mem_cons, not_or]
    refine ⟨fun h => ?_, ih⟩
    have hnat := ofNat_eq_newline (by omega) h.symm
    omega

/-- The byte of a newline is in the form of a newline and of no other character. -/
theorem eq_newline_of_mem_utf8EncodeChar {c : Char} (h : 0x0A ∈ String.utf8EncodeChar c) :
    c = '\n' := by
  rw [utf8EncodeChar_eq, List.mem_cons] at h
  rcases h with h | h
  · have hlead := ofNat_eq_newline (leadByte_lt (toNat_lt c)) h.symm
    have hnat : c.toNat = '\n'.toNat := by
      show c.toNat = 0x0A
      rw [leadByte] at hlead
      split_ifs at hlead <;> omega
    exact Char.toNat_inj.1 hnat
  · exact absurd h (newline_not_mem_trailBytes _ _)

/-- A newline stands where a newline character starts. -/
theorem newlineAt_iff {source : String} {offset : Nat} :
    NewlineAt source offset ↔
      ∃ before after, source.toList = before ++ '\n' :: after ∧ utf8Len before = offset := by
  rw [NewlineAt, utf8_eq_flatMap]
  generalize source.toList = cs
  induction cs generalizing offset with
  | nil => simp
  | cons c cs ih =>
    rw [List.flatMap_cons]
    have hsize : (String.utf8EncodeChar c).length = c.utf8Size := String.length_utf8EncodeChar c
    constructor
    · intro h
      by_cases hoffset : offset < (String.utf8EncodeChar c).length
      · rw [List.getElem?_append_left hoffset] at h
        obtain rfl := eq_newline_of_mem_utf8EncodeChar (List.mem_of_getElem? h)
        have hzero : offset = 0 := by
          rw [hsize] at hoffset
          exact Nat.lt_one_iff.1 hoffset
        exact ⟨[], cs, rfl, hzero.symm⟩
      · rw [List.getElem?_append_right (Nat.not_lt.1 hoffset)] at h
        obtain ⟨before, after, rfl, hbefore⟩ := ih.1 h
        refine ⟨c :: before, after, rfl, ?_⟩
        rw [utf8Len_cons]
        omega
    · rintro ⟨before, after, heq, rfl⟩
      cases before with
      | nil =>
        obtain ⟨rfl, -⟩ := List.cons.inj heq
        rfl
      | cons d before =>
        obtain ⟨rfl, rfl⟩ := List.cons.inj heq
        rw [utf8Len_cons, List.getElem?_append_right (by omega)]
        exact ih.2 ⟨before, after, rfl, by omega⟩

/-! ## The lines of the bytes and those of the characters -/

/-- Two beginnings of a text that end at the same offset are the same. -/
theorem append_inj_of_utf8Len {first rest first' rest' : List Char}
    (h : first ++ rest = first' ++ rest') (hlen : utf8Len first = utf8Len first') :
    first = first' ∧ rest = rest' := by
  obtain ⟨middle, rfl, rfl⟩ := exists_append_of_utf8Len_le h (Nat.le_of_eq hlen)
  have hnil : middle = [] := by
    rw [utf8Len_append] at hlen
    rw [← utf8Len_eq_zero]
    omega
  rw [hnil, List.append_nil, List.nil_append]
  exact ⟨rfl, rfl⟩

/-- A line starts where what stands in front is empty or ends with a newline. -/
theorem lineStartsAt_iff {source : String} {before after : List Char}
    (h : source.toList = before ++ after) :
    LineStartsAt source (utf8Len before) ↔ AtLineStart before := by
  rw [LineStartsAt, AtLineStart, utf8Len_eq_zero]
  refine or_congr_right' fun hne => ?_
  have hnewline : utf8Len ['\n'] = 1 := rfl
  have hpos : utf8Len before ≠ 0 := fun hzero => hne (utf8Len_eq_zero.1 hzero)
  rw [newlineAt_iff]
  constructor
  · rintro ⟨front, rest, heq, hfront⟩
    have hsame : utf8Len (front ++ ['\n']) = utf8Len before := by
      rw [utf8Len_append, hnewline]
      omega
    rw [List.append_cons] at heq
    rw [← (append_inj_of_utf8Len (heq.symm.trans h) hsame).1]
    exact List.getLast?_concat
  · intro hlast
    obtain ⟨front, rfl⟩ := List.getLast?_eq_some_iff.1 hlast
    refine ⟨front, after, ?_, ?_⟩
    · rw [h, List.append_assoc, List.singleton_append]
    · rw [utf8Len_append, hnewline, Nat.add_sub_cancel]

/-- The blank lines by the bytes are those by the characters. -/
theorem blankLineAt_iff {source : String} {i j : Nat} :
    BlankLineAt source i j ↔ IsBlankLine source.toList i j := by
  constructor
  · rintro ⟨-, hnewline, hstarts, hnot, line, ⟨before, after, heq, rfl, rfl⟩, hblank⟩
    obtain ⟨upToNewline, rest, heq', hsame⟩ := newlineAt_iff.1 hnewline
    obtain ⟨rfl, rfl⟩ := append_inj_of_utf8Len (heq'.symm.trans heq) hsame
    have hstart : AtLineStart before :=
      (lineStartsAt_iff (heq.trans (List.append_assoc _ _ _))).1 hstarts
    refine ⟨before, line, rest, heq, hstart, fun hmem => ?_, hblank, rfl, rfl⟩
    -- a newline in the line would be one before `j`
    obtain ⟨front, back, rfl⟩ := List.append_of_mem hmem
    have hinside : NewlineAt source (utf8Len (before ++ front)) := by
      refine newlineAt_iff.2 ⟨before ++ front, back ++ '\n' :: rest, ?_, rfl⟩
      rw [heq]
      simp
    refine hnot _ ?_ ?_ hinside
    · rw [utf8Len_append]
      exact Nat.le_add_right _ _
    · rw [← List.append_assoc]
      exact lt_utf8Len_append_cons _ _ _
  · rintro ⟨before, line, after, heq, hstart, hline, hblank, rfl, rfl⟩
    have heq' : source.toList = before ++ (line ++ '\n' :: after) :=
      heq.trans (List.append_assoc _ _ _)
    refine ⟨?_, newlineAt_iff.2 ⟨before ++ line, after, heq, rfl⟩,
      (lineStartsAt_iff heq').2 hstart, ?_, line, ⟨before, _, heq, rfl, rfl⟩, hblank⟩
    · rw [utf8Len_append]
      exact Nat.le_add_right _ _
    · intro k hle hlt hnewline
      obtain ⟨front, back, hfront, rfl⟩ := newlineAt_iff.1 hnewline
      exact hline (mem_of_utf8Len_lt (heq'.symm.trans hfront) hle hlt)

/-! ## Ranges -/

/-- A range that is reversed, that leaves the text or that cuts a character holds no line. -/
theorem blankLinesBetween_eq_zero {source : String} {start stop : Nat}
    (h : ¬(start ≤ stop ∧ IsBoundary source start ∧ IsBoundary source stop)) :
    blankLinesBetween source start stop = 0 := by
  rw [blankLinesBetween]
  split
  · rfl
  · rename_i upToStop rest hstop
    split
    · rfl
    · rename_i before gap hstart
      -- the text was cut at both offsets
      have hlenStop := utf8Len_of_splitAtByte? hstop
      have hlenStart := utf8Len_of_splitAtByte? hstart
      have hsource := (append_of_splitAtByte? hstop).symm
      have hupTo := append_of_splitAtByte? hstart
      refine absurd ⟨?_, ⟨before, gap ++ rest, ?_, hlenStart⟩, upToStop, rest, hsource, hlenStop⟩ h
      · rw [← hlenStop, ← hlenStart, ← hupTo, utf8Len_append]
        exact Nat.le_add_right _ _
      · rw [hsource, ← hupTo, List.append_assoc]

/-- The blank lines of a text that lie wholly between two offsets, by its bytes. -/
theorem setOf_blankLineAt (source : String) (start stop : Nat) :
    {line : Nat × Nat | BlankLineAt source line.1 line.2 ∧ start ≤ line.1 ∧ line.2 < stop} =
      blankLinesWithin source.toList start stop := by
  ext line
  exact and_congr_left' blankLineAt_iff

/-! ## Ranges that touch -/

namespace BlankLineAt

variable {source : String} {i j i' j' offset : Nat}

/-- A blank line that begins before another one ends begins no later than that one. -/
theorem start_le (h : BlankLineAt source i j) (h' : BlankLineAt source i' j') (hle : i ≤ j') :
    i ≤ i' := by
  rcases h.lineStarts with rfl | hnewline
  · exact Nat.zero_le _
  · -- the newline in front of it would be in the other one
    by_contra hlt
    exact h'.not_newline (i - 1) (by omega) (by omega) hnewline

/-- Two blank lines that an offset lies inside of are the same. -/
theorem eq_of_across (h : BlankLineAt source i j) (h' : BlankLineAt source i' j')
    (hlt : i < offset) (hle : offset ≤ j) (hlt' : i' < offset) (hle' : offset ≤ j') :
    i = i' ∧ j = j' := by
  have hstart : i = i' :=
    Nat.le_antisymm (h.start_le h' (by omega)) (h'.start_le h (by omega))
  refine ⟨hstart, Nat.le_antisymm ?_ ?_⟩
  · by_contra hgt
    exact h.not_newline j' (by omega) (by omega) h'.newline
  · by_contra hgt
    exact h'.not_newline j (by omega) (by omega) h.newline

/-- No blank line has the start of a line inside of it. -/
theorem not_across (h : BlankLineAt source i j) (hstarts : LineStartsAt source offset)
    (hlt : i < offset) : ¬offset ≤ j := by
  intro hle
  rcases hstarts with rfl | hnewline
  · exact Nat.not_lt_zero _ hlt
  · exact h.not_newline (offset - 1) (by omega) (by omega) hnewline

end BlankLineAt

/-- The blank lines between two offsets that have a third offset inside of them. -/
def blankLinesAcross (source : String) (start middle stop : Nat) : Set (Nat × Nat) :=
  {line | BlankLineAt source line.1 line.2 ∧ start ≤ line.1 ∧ line.1 < middle ∧ middle ≤ line.2 ∧
    line.2 < stop}

section Touching

variable {source : String} {start middle stop : Nat}

theorem finite_blankLinesAcross (source : String) (start middle stop : Nat) :
    (blankLinesAcross source start middle stop).Finite :=
  (finite_blankLines source.toList).subset fun _ hline => blankLineAt_iff.1 hline.1

theorem ncard_blankLinesAcross_le_one (source : String) (start middle stop : Nat) :
    (blankLinesAcross source start middle stop).ncard ≤ 1 := by
  rw [Set.ncard_le_one (finite_blankLinesAcross source start middle stop)]
  rintro ⟨i, j⟩ ⟨h, -, hlt, hle, -⟩ ⟨i', j'⟩ ⟨h', -, hlt', hle', -⟩
  exact Prod.ext_iff.2 (h.eq_of_across h' hlt hle hlt' hle')

theorem blankLinesAcross_eq_empty (hstarts : LineStartsAt source middle) :
    blankLinesAcross source start middle stop = ∅ := by
  refine Set.eq_empty_of_forall_notMem ?_
  rintro ⟨i, j⟩ ⟨h, -, hlt, hle, -⟩
  exact h.not_across hstarts hlt hle

/-- Of two ranges that touch, the counts miss the lines that lie across the seam. -/
theorem blankLinesBetween_add (hstart : IsBoundary source start) (hmiddle : IsBoundary source middle)
    (hstop : IsBoundary source stop) (hle : start ≤ middle) (hle' : middle ≤ stop) :
    blankLinesBetween source start middle + blankLinesBetween source middle stop +
        (blankLinesAcross source start middle stop).ncard =
      blankLinesBetween source start stop := by
  have hsum := @sum_blankLinesBetween source [(start, middle), (middle, stop)]
    (by simp [hstart, hmiddle, hstop, hle, hle']) (by simp)
  rw [List.map_cons, List.map_singleton, List.sum_cons, List.sum_singleton] at hsum
  have hwithin : blankLinesWithin source.toList start stop =
      blankLinesIn source.toList [(start, middle), (middle, stop)] ∪
        blankLinesAcross source start middle stop := by
    ext ⟨i, j⟩
    simp only [blankLinesWithin, blankLinesIn, blankLinesAcross, blankLineAt_iff, Set.mem_union,
      Set.mem_ofPred_eq, List.exists_mem_cons_iff, List.not_mem_nil, false_and, exists_const, or_false]
    by_cases hblank : IsBlankLine source.toList i j
    · have hij := hblank.le
      simp only [hblank, true_and]
      omega
    · simp only [hblank, false_and, or_false]
  have hdisjoint : Disjoint (blankLinesIn source.toList [(start, middle), (middle, stop)])
      (blankLinesAcross source start middle stop) := by
    rw [Set.disjoint_left]
    rintro ⟨i, j⟩ ⟨-, hin⟩ ⟨-, -, hlt, hge, -⟩
    simp only [List.exists_mem_cons_iff, List.not_mem_nil, false_and, exists_const, or_false] at hin
    omega
  rw [hsum, blankLinesBetween_eq_ncard hstart hstop (Nat.le_trans hle hle'), hwithin,
    Set.ncard_union_eq hdisjoint (finite_blankLinesIn _ _) (finite_blankLinesAcross _ _ _ _)]

end Touching

/-- The count of blank lines between two offsets, which looks at nothing but what stands between them
and in front of them, is that of the pairs of offsets at which a blank line of the whole text begins
and ends there. A range that is no slice of the text has none. Where two ranges touch at the start of
a line their counts add up, and elsewhere one line at most is missing from the sum. -/
theorem blankLinesBetween_counts_bytes :
    (∀ source start stop,
      ¬(start ≤ stop ∧ IsBoundary source start ∧ IsBoundary source stop) →
      blankLinesBetween source start stop = 0) ∧
    (∀ source start stop,
      start ≤ stop ∧ IsBoundary source start ∧ IsBoundary source stop →
      (blankLinesBetween source start stop : ℕ∞) =
        {line : Nat × Nat |
          BlankLineAt source line.1 line.2 ∧ start ≤ line.1 ∧ line.2 < stop}.encard) ∧
    ∀ source start middle stop, IsBoundary source start → IsBoundary source middle →
      IsBoundary source stop → start ≤ middle → middle ≤ stop →
      (LineStartsAt source middle →
        blankLinesBetween source start middle + blankLinesBetween source middle stop =
          blankLinesBetween source start stop) ∧
      (blankLinesBetween source start middle + blankLinesBetween source middle stop =
          blankLinesBetween source start stop ∨
        blankLinesBetween source start middle + blankLinesBetween source middle stop + 1 =
          blankLinesBetween source start stop) := by
  refine ⟨fun _ _ _ => blankLinesBetween_eq_zero, ?_, ?_⟩
  · rintro source start stop ⟨hle, hstart, hstop⟩
    rw [blankLinesBetween_eq_ncard hstart hstop hle, setOf_blankLineAt,
      (finite_blankLinesWithin _ _ _).cast_ncard_eq]
  · intro source start middle stop hstart hmiddle hstop hle hle'
    have hadd := blankLinesBetween_add hstart hmiddle hstop hle hle'
    refine ⟨fun hstarts => ?_, ?_⟩
    · rwa [blankLinesAcross_eq_empty hstarts, Set.ncard_empty, Nat.add_zero] at hadd
    · have hone := ncard_blankLinesAcross_le_one source start middle stop
      omega

/-- A line with a wide space in it, cut at its beginning, inside of the space, and in front of its
newline. -/
theorem blankLinesBetween_counts_bytes_emSpace :
    let source := "é\n\u2003\nb"
    (¬IsBoundary source 4 ∧ blankLinesBetween source 4 8 = 0) ∧
      (IsBoundary source 0 ∧ IsBoundary source 8 ∧
        {line : Nat × Nat | BlankLineAt source line.1 line.2 ∧ 0 ≤ line.1 ∧ line.2 < 8}.encard = 1) ∧
      (IsBoundary source 3 ∧ LineStartsAt source 3 ∧
        blankLinesBetween source 0 3 + blankLinesBetween source 3 8 =
          blankLinesBetween source 0 8) ∧
      IsBoundary source 6 ∧ ¬LineStartsAt source 6 ∧
        blankLinesBetween source 0 6 + blankLinesBetween source 6 8 + 1 =
          blankLinesBetween source 0 8 := by
  intro source
  have hzero : IsBoundary source 0 := by decide
  have hthree : IsBoundary source 3 := by decide
  have hfour : ¬IsBoundary source 4 := by decide
  have hsix : IsBoundary source 6 := by decide
  have height : IsBoundary source 8 := by decide
  have hstarts : LineStartsAt source 3 := by decide
  have hnotStarts : ¬LineStartsAt source 6 := by decide
  have hone : blankLinesBetween source 0 8 = 1 := by decide
  obtain ⟨hinvalid, hcount, hseam⟩ := blankLinesBetween_counts_bytes
  have hatStart := (hseam source 0 3 8 hzero hthree height (by decide) (by decide)).1 hstarts
  have hinside := (hseam source 0 6 8 hzero hsix height (by decide) (by decide)).2
  refine ⟨⟨hfour, hinvalid source 4 8 fun h => hfour h.2.1⟩, ⟨hzero, height, ?_⟩,
    ⟨hthree, hstarts, hatStart⟩, hsix, hnotStarts, hinside.resolve_left (by decide)⟩
  rw [← hcount source 0 8 ⟨by decide, hzero, height⟩, hone, Nat.cast_one]

end MarkdownHtml.Text
