import Mathlib.Algebra.Group.Nat.Defs
import Mathlib.Data.List.Sort
import Mathlib.Tactic.SplitIfs
import MarkdownHtml.Text.Map

/-!
# The order of texts

Sorted maps keep their keys in the order of code points. It is the order of the UTF-8 forms, byte by
byte (`Text.utf8_lt_iff`): of two characters the smaller one has the smaller form, and they differ
before either form ends (`Text.utf8EncodeChar_append_lt`).

A sorted map is determined by its look-ups (`TextMap.ext_get?`), and an insertion changes one of them
(`TextMap.get?_insert`).
-/

namespace MarkdownHtml

namespace Text

/-- The UTF-8 form of a text, byte by byte. -/
def utf8 (text : String) : List UInt8 := text.toUTF8.data.toList

theorem utf8_eq_flatMap (text : String) : utf8 text = text.toList.flatMap String.utf8EncodeChar := by
  rw [utf8, String.toUTF8_eq_toByteArray, ← String.utf8Encode_toList, List.utf8Encode,
    List.data_toByteArray]

/-! ## One character -/

/-- How many bytes follow the first one in the UTF-8 form of a code point. -/
def trailing (n : Nat) : Nat :=
  if n ≤ 0x7F then 0 else if n ≤ 0x7FF then 1 else if n ≤ 0xFFFF then 2 else 3

/-- The first byte: a mark for the number of the others, and what they leave over. -/
def leadByte (n : Nat) : Nat :=
  if n ≤ 0x7F then n
  else if n ≤ 0x7FF then n / 64 + 0xC0
  else if n ≤ 0xFFFF then n / 4096 + 0xE0
  else n / 262144 + 0xF0

/-- The last bytes, each with six bits of the code point. -/
def trailBytes : Nat → Nat → List UInt8
  | 0, _ => []
  | count + 1, n => UInt8.ofNat (n / 64 ^ count % 64 + 0x80) :: trailBytes count n

/-- There are no code points from `0x110000` on. -/
theorem toNat_lt (c : Char) : c.toNat < 0x110000 := by
  have := c.valid
  simp only [UInt32.isValidChar, Nat.isValidChar] at this
  show c.val.toNat < _
  omega

/-- The UTF-8 form of a character is its first byte and the others, which give the code point from its
highest bits on. -/
theorem utf8EncodeChar_eq (c : Char) : String.utf8EncodeChar c =
    UInt8.ofNat (leadByte c.toNat) :: trailBytes (trailing c.toNat) c.toNat := by
  have hc := toNat_lt c
  show String.utf8EncodeChar c = _
  simp only [String.utf8EncodeChar, leadByte, trailing, Char.toNat] at hc ⊢
  split
  · rfl
  · split
    · have hlead : c.val.toNat / 64 < 32 := by omega
      simp only [trailBytes, Nat.pow_zero, Nat.div_one, Nat.mod_eq_of_lt hlead]
    · split
      · have hlead : c.val.toNat / 4096 < 16 := by omega
        simp only [trailBytes, Nat.pow_zero, Nat.div_one, Nat.pow_one, Nat.mod_eq_of_lt hlead]
      · have hlead : c.val.toNat / 262144 < 8 := by omega
        simp only [trailBytes, Nat.pow_zero, Nat.div_one, Nat.pow_one, Nat.reducePow,
          Nat.mod_eq_of_lt hlead]

theorem ofNat_lt_ofNat {m n : Nat} (hn : n < 256) (h : m < n) : UInt8.ofNat m < UInt8.ofNat n := by
  rw [UInt8.lt_iff_toNat_lt, UInt8.toNat_ofNat', UInt8.toNat_ofNat', Nat.mod_eq_of_lt hn]
  omega

/-- Of two code points that differ only in the bits of the last bytes, the smaller one has the smaller
last bytes. -/
theorem trailBytes_append_lt {count m n : Nat} (hdiv : m / 64 ^ count = n / 64 ^ count) (h : m < n)
    (front back : List UInt8) : trailBytes count m ++ front < trailBytes count n ++ back := by
  induction count with
  | zero =>
    rw [Nat.pow_zero, Nat.div_one, Nat.div_one] at hdiv
    omega
  | succ count ih =>
    rw [trailBytes, trailBytes, List.cons_append, List.cons_append, List.cons_lt_cons_iff]
    rw [Nat.pow_succ, ← Nat.div_div_eq_div_mul, ← Nat.div_div_eq_div_mul] at hdiv
    have hle : m / 64 ^ count ≤ n / 64 ^ count := Nat.div_le_div_right (Nat.le_of_lt h)
    rcases Nat.lt_or_eq_of_le hle with hlt | heq
    · exact .inl (ofNat_lt_ofNat (by omega) (by omega))
    · exact .inr ⟨by rw [heq], ih heq⟩

/-- Of two code points the smaller one has the smaller first byte, or else the same one, as many
others, and what they leave over is the same. -/
theorem leadByte_lt_or {m n : Nat} (h : m < n) : leadByte m < leadByte n ∨
    leadByte m = leadByte n ∧ trailing m = trailing n ∧
      m / 64 ^ trailing m = n / 64 ^ trailing n := by
  simp only [leadByte, trailing]
  split_ifs <;> omega

theorem leadByte_lt {n : Nat} (h : n < 0x110000) : leadByte n < 256 := by
  rw [leadByte]
  split_ifs <;> omega

/-- Of two characters the smaller one has the smaller UTF-8 form, whatever follows. -/
theorem utf8EncodeChar_append_lt {c d : Char} (h : c < d) (front back : List UInt8) :
    String.utf8EncodeChar c ++ front < String.utf8EncodeChar d ++ back := by
  have hlt : c.toNat < d.toNat := h
  rw [utf8EncodeChar_eq, utf8EncodeChar_eq, List.cons_append, List.cons_append,
    List.cons_lt_cons_iff]
  rcases leadByte_lt_or hlt with hlead | ⟨hlead, htrailing, hdiv⟩
  · exact .inl (ofNat_lt_ofNat (leadByte_lt (toNat_lt d)) hlead)
  · rw [htrailing] at hdiv
    rw [hlead, htrailing]
    exact .inr ⟨rfl, trailBytes_append_lt hdiv hlt front back⟩

/-! ## Texts -/

theorem flatMap_utf8EncodeChar_lt {first second : List Char} (h : first < second) :
    first.flatMap String.utf8EncodeChar < second.flatMap String.utf8EncodeChar := by
  induction first generalizing second with
  | nil =>
    cases second with
    | nil => exact absurd h (List.not_lt_nil _)
    | cons d second =>
      rw [List.flatMap_nil, List.flatMap_cons, utf8EncodeChar_eq]
      exact List.nil_lt_cons _ _
  | cons c first ih =>
    cases second with
    | nil => exact absurd h (List.not_lt_nil _)
    | cons d second =>
      rw [List.flatMap_cons, List.flatMap_cons]
      rcases List.cons_lt_cons_iff.1 h with hlt | ⟨rfl, hrest⟩
      · exact utf8EncodeChar_append_lt hlt _ _
      · exact List.append_left_lt (ih hrest)

/-- The order of texts is the order of their UTF-8 forms, byte by byte. -/
theorem utf8_lt_iff {a b : String} : utf8 a < utf8 b ↔ a < b := by
  rw [utf8_eq_flatMap, utf8_eq_flatMap]
  constructor
  · intro h
    by_cases hlt : a < b
    · exact hlt
    · by_cases heq : a = b
      · rw [heq] at h
        exact absurd h (List.lt_irrefl _)
      · have hgt : b < a := Std.lt_of_le_of_ne (String.not_lt.1 hlt) (Ne.symm heq)
        exact absurd h (List.lt_asymm (flatMap_utf8EncodeChar_lt hgt))
  · exact fun h => flatMap_utf8EncodeChar_lt h

theorem utf8_le_iff {a b : String} : utf8 a ≤ utf8 b ↔ a ≤ b := not_congr utf8_lt_iff

end Text

/-! ## Sorted maps -/

namespace TextMap

variable {map : TextMap} {key value : String}

/-- Entries are looked through from the first one on. -/
theorem lookup_cons (entry : String × String) (rest : List (String × String)) (key : String) :
    (entry :: rest).lookup key = if key = entry.1 then some entry.2 else rest.lookup key := by
  rw [List.lookup_cons]
  by_cases hkey : key = entry.1
  · rw [if_pos hkey, beq_iff_eq.2 hkey]
  · rw [if_neg hkey, beq_eq_false_iff_ne.2 hkey]

theorem lookup_insertEntry (key value other : String) (entries : List (String × String)) :
    (insertEntry key value entries).lookup other =
      if other = key then some value else entries.lookup other := by
  induction entries with
  | nil => rw [insertEntry, lookup_cons]
  | cons head rest ih =>
    rw [insertEntry, lookup_cons head]
    split
    · rw [lookup_cons, lookup_cons]
    · split
      · rename_i heq
        rw [lookup_cons, ← heq]
        by_cases hother : other = key
        · rw [if_pos hother, if_pos hother]
        · rw [if_neg hother, if_neg hother, if_neg hother]
      · rename_i hne
        rw [lookup_cons, ih]
        by_cases hother : other = key
        · rw [if_pos hother, if_pos hother, if_neg fun h => hne (hother.symm.trans h)]
        · rw [if_neg hother, if_neg hother]

/-- An inserted value is found under its key, and under the other keys nothing changes. -/
theorem get?_insert (map : TextMap) (key value other : String) :
    (map.insert key value).get? other = if other = key then some value else map.get? other :=
  lookup_insertEntry key value other map.entries

/-- As no key occurs twice, a key has the value of any entry with that key. -/
theorem get?_eq_some_iff : map.get? key = some value ↔ (key, value) ∈ map.entries := by
  rw [get?, List.lookup_eq_some_iff]
  constructor
  · rintro ⟨front, back, heq, -⟩
    rw [heq]
    exact List.mem_append_right front List.mem_cons_self
  · intro hmem
    obtain ⟨front, back, heq⟩ := List.append_of_mem hmem
    refine ⟨front, back, heq, fun entry hentry => bne_iff_ne.2 ?_⟩
    have hsorted := map.sorted
    rw [Sorted, heq, List.pairwise_append] at hsorted
    exact (String.ne_of_lt (hsorted.2.2 entry hentry _ List.mem_cons_self)).symm

/-- A map is determined by the values under the keys. -/
theorem ext_get? {first second : TextMap} (h : ∀ key, first.get? key = second.get? key) :
    first = second := by
  have hmem : ∀ entry, entry ∈ first.entries ↔ entry ∈ second.entries := by
    intro entry
    rw [← get?_eq_some_iff, ← get?_eq_some_iff, h]
  have hantisymm : Std.Antisymm fun a b : String × String => a.1 < b.1 :=
    ⟨fun _ _ hlt hgt => absurd hgt (String.lt_asymm hlt)⟩
  have hirrefl : Std.Irrefl fun a b : String × String => a.1 < b.1 :=
    ⟨fun entry => String.lt_irrefl entry.1⟩
  have hentries := first.sorted.eq_of_mem_iff second.sorted hmem
  cases first
  cases second
  congr

end TextMap

end MarkdownHtml
