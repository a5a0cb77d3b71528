/-!
# Sorted text maps

Finite maps from texts to texts, kept in the order of their keys. Keys are ordered by code point,
which is the order of their UTF-8 forms byte by byte.
-/

namespace MarkdownHtml

/-- Entries with strictly increasing keys. -/
abbrev TextMap.Sorted (entries : List (String × String)) : Prop :=
  entries.Pairwise fun a b => a.1 < b.1

/-- A finite map from texts to texts. -/
structure TextMap where
  /-- The keys and their values, in the order of the keys. -/
  entries : List (String × String)
  /-- Smaller keys come first, and no key occurs twice. -/
  sorted : TextMap.Sorted entries
deriving DecidableEq

namespace TextMap

/-- The map without entries. -/
def empty : TextMap := ⟨[], .nil⟩

instance : Inhabited TextMap := ⟨empty⟩

/-- Puts a value under a key of sorted entries, in place of an earlier one. -/
def insertEntry (key value : String) : List (String × String) → List (String × String)
  | [] => [(key, value)]
  | (k, v) :: rest =>
    if key < k then (key, value) :: (k, v) :: rest
    else if key = k then (key, value) :: rest
    else (k, v) :: insertEntry key value rest

/-- Every entry after an insertion is the new one or an old one. -/
theorem mem_insertEntry {key value : String} {entries : List (String × String)}
    {e : String × String} (h : e ∈ insertEntry key value entries) : e = (key, value) ∨ e ∈ entries := by
  induction entries with
  | nil => simpa [insertEntry] using h
  | cons head rest ih =>
    simp only [insertEntry] at h
    split at h
    · simpa using h
    · split at h
      · simp only [List.mem_cons] at h ⊢
        exact h.imp_right Or.inr
      · simp only [List.mem_cons] at h ⊢
        rcases h with h | h
        · exact .inr (.inl h)
        · exact (ih h).imp_right Or.inr

/-- Inserting keeps the entries sorted. -/
theorem sorted_insertEntry (key value : String) {entries : List (String × String)}
    (h : Sorted entries) : Sorted (insertEntry key value entries) := by
  induction entries with
  | nil => simp [insertEntry, Sorted]
  | cons head rest ih =>
    obtain ⟨hhead, hrest⟩ := List.pairwise_cons.1 h
    simp only [insertEntry]
    split
    · next hlt =>
      refine List.pairwise_cons.2 ⟨fun e he => ?_, h⟩
      rcases List.mem_cons.1 he with rfl | he
      · exact hlt
      · exact String.lt_trans hlt (hhead e he)
    · next hnlt =>
      split
      · next heq => exact List.pairwise_cons.2 ⟨heq ▸ hhead, hrest⟩
      · next hne =>
        refine List.pairwise_cons.2 ⟨fun e he => ?_, ih hrest⟩
        rcases mem_insertEntry he with rfl | he
        · exact Std.lt_of_le_of_ne (String.not_lt.1 hnlt) (Ne.symm hne)
        · exact hhead e he

/-- The map with a value put under a key, in place of an earlier one. -/
def insert (map : TextMap) (key value : String) : TextMap :=
  ⟨insertEntry key value map.entries, sorted_insertEntry key value map.sorted⟩

/-- The value under a key. -/
def get? (map : TextMap) (key : String) : Option String := map.entries.lookup key

/-- The number of keys. -/
def size (map : TextMap) : Nat := map.entries.length

/-- The keys, in their order. -/
def keys (map : TextMap) : List String := map.entries.map Prod.fst

/-- The map that results from adding the entries one after the other; the last of equal keys
wins. -/
def ofList (entries : List (String × String)) : TextMap :=
  entries.foldl (fun map entry => map.insert entry.1 entry.2) empty

end TextMap

end MarkdownHtml
