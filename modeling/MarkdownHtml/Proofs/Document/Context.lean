import Mathlib.Data.List.Induction
import MarkdownHtml.Config.Basic
import MarkdownHtml.Proofs.Text.Map

/-!
# The render context as a map

Values are put into a context one after the other. What a context then holds can be read off the
additions: under each key the value that was added last (`RenderContext.get?_ofList`). As a context
is determined by what it holds, only the order of the additions under one key matters
(`RenderContext.ofList_sorted_lastWins`).
-/

namespace MarkdownHtml

namespace RenderContext

/-- The context that results from putting values under keys, one after the other. -/
def ofList (additions : List (String × String)) : RenderContext :=
  additions.foldl (fun context addition => context.withValue addition.1 addition.2) empty

/-- The value that was added last under a key, if one was added. -/
def lastAdded? (additions : List (String × String)) (key : String) : Option String :=
  ((additions.filter (·.1 = key)).getLast?).map Prod.snd

variable {additions : List (String × String)} {key value : String}

/-- Contexts that hold the same values are equal. -/
theorem eq_iff_get? {first second : RenderContext} :
    first = second ↔ ∀ key, first.get? key = second.get? key := by
  constructor
  · rintro rfl key
    rfl
  · intro h
    cases first
    cases second
    exact congrArg mk (TextMap.ext_get? h)

theorem mem_toList_iff {context : RenderContext} :
    (key, value) ∈ context.toList ↔ context.get? key = some value :=
  TextMap.get?_eq_some_iff.symm

/-- One addition changes what is held under its key. -/
theorem get?_withValue (context : RenderContext) (key value other : String) :
    (context.withValue key value).get? other =
      if other = key then some value else context.get? other :=
  context.values.get?_insert key value other

theorem lastAdded?_concat (additions : List (String × String)) (key value other : String) :
    lastAdded? (additions ++ [(key, value)]) other =
      if other = key then some value else lastAdded? additions other := by
  rw [lastAdded?, lastAdded?, List.filter_append]
  by_cases hother : other = key
  · have hlast : [(key, value)].filter (·.1 = other) = [(key, value)] := by simp [hother]
    rw [hlast, List.getLast?_concat, if_pos hother]
    rfl
  · have hnone : [(key, value)].filter (·.1 = other) = [] := by simp [Ne.symm hother]
    rw [hnone, List.append_nil, if_neg hother]

/-- After any additions a context holds under each key the value that was added last. -/
theorem get?_ofList (additions : List (String × String)) (key : String) :
    (ofList additions).get? key = lastAdded? additions key := by
  -- the last addition decides
  induction additions using List.reverseRecOn with
  | nil => rfl
  | append_singleton additions addition ih =>
    rw [lastAdded?_concat, ← ih, ofList, List.foldl_append]
    exact get?_withValue _ _ _ _

theorem mem_of_lastAdded? (h : lastAdded? additions key = some value) :
    (key, value) ∈ additions := by
  obtain ⟨addition, hlast, rfl⟩ := Option.map_eq_some_iff.1 h
  obtain ⟨hmem, hkey⟩ := List.mem_filter.1 (List.mem_of_getLast? hlast)
  rwa [← of_decide_eq_true hkey]

/-- Under a key that was never added there is no value. -/
theorem lastAdded?_eq_none_iff :
    lastAdded? additions key = none ↔ key ∉ additions.map Prod.fst := by
  rw [lastAdded?, Option.map_eq_none_iff, List.getLast?_eq_none_iff, List.filter_eq_nil_iff,
    List.mem_map, not_exists]
  refine forall_congr' fun addition => ?_
  rw [not_and, decide_eq_true_iff]

/-- If no key is added twice, the order of the additions does not matter. -/
theorem lastAdded?_eq_some_iff_of_nodup (h : (additions.map Prod.fst).Nodup) :
    lastAdded? additions key = some value ↔ (key, value) ∈ additions := by
  refine ⟨mem_of_lastAdded?, fun hmem => ?_⟩
  obtain ⟨last, hlast⟩ : ∃ last, lastAdded? additions key = some last := by
    rw [← Option.ne_none_iff_exists', ne_eq, lastAdded?_eq_none_iff, not_not]
    exact List.mem_map_of_mem hmem
  have hsame := List.inj_on_of_nodup_map h (mem_of_lastAdded? hlast) hmem rfl
  rw [hlast, (Prod.mk.inj hsame).2]

/-- The keys of a context stand in the order of their UTF-8 forms. -/
theorem pairwise_keys (context : RenderContext) :
    (context.toList.map Prod.fst).Pairwise fun a b => Text.utf8 a < Text.utf8 b := by
  rw [List.pairwise_map]
  exact context.values.sorted.imp Text.utf8_lt_iff.2

theorem nodup_keys (context : RenderContext) : (context.toList.map Prod.fst).Nodup := by
  refine context.pairwise_keys.imp ?_
  rintro key _ hlt rfl
  exact List.lt_irrefl _ hlt

theorem mem_keys_iff {context : RenderContext} :
    key ∈ context.toList.map Prod.fst ↔ context.get? key ≠ none := by
  rw [List.mem_map, Option.ne_none_iff_exists']
  constructor
  · rintro ⟨⟨_, value⟩, hmem, rfl⟩
    exact ⟨value, mem_toList_iff.1 hmem⟩
  · rintro ⟨value, hget⟩
    exact ⟨(key, value), mem_toList_iff.2 hget, rfl⟩

/-- A context made by additions is a sorted map in which the last addition under a key wins. Its keys
are those that were added, in the strictly increasing order of their UTF-8 forms, each with the
value that was added last. Contexts are equal if they hold the same values, so additions may change
places as long as those under the same key keep their order. The context of a configuration results
from adding its entries in any order. -/
theorem ofList_sorted_lastWins :
    (∀ additions,
      ((ofList additions).toList.map Prod.fst).Pairwise (fun a b => Text.utf8 a < Text.utf8 b) ∧
      (∀ key, key ∈ (ofList additions).toList.map Prod.fst ↔ key ∈ additions.map Prod.fst) ∧
      (∀ key value, (key, value) ∈ (ofList additions).toList ↔
        lastAdded? additions key = some value) ∧
      (∀ key, (ofList additions).get? key = lastAdded? additions key) ∧
      ∀ key, (ofList additions).get? key = none ↔ key ∉ additions.map Prod.fst) ∧
    (∀ first second : RenderContext,
      first = second ↔ ∀ key, first.get? key = second.get? key) ∧
    (∀ additions others : List (String × String),
      (∀ key, additions.filter (·.1 = key) = others.filter (·.1 = key)) →
      ofList additions = ofList others) ∧
    ∀ (config : Config) (entries : List (String × String)),
      entries.Perm config.context.entries → ofList entries = ofConfig config := by
  refine ⟨fun additions => ⟨pairwise_keys _, ?_, ?_, get?_ofList additions, ?_⟩,
    fun _ _ => eq_iff_get?, ?_, ?_⟩
  · intro key
    rw [mem_keys_iff, get?_ofList, ne_eq, lastAdded?_eq_none_iff, not_not]
  · intro key value
    rw [mem_toList_iff, get?_ofList]
  · intro key
    rw [get?_ofList, lastAdded?_eq_none_iff]
  · intro additions others horder
    rw [eq_iff_get?]
    intro key
    rw [get?_ofList, get?_ofList, lastAdded?, lastAdded?, horder]
  · intro config entries hperm
    have hnodup : (entries.map Prod.fst).Nodup :=
      (hperm.map Prod.fst).nodup_iff.2 (ofConfig config).nodup_keys
    rw [eq_iff_get?]
    intro key
    refine Option.ext fun value => ?_
    rw [get?_ofList, lastAdded?_eq_some_iff_of_nodup hnodup, hperm.mem_iff, ← mem_toList_iff]
    rfl

/-- A configuration whose keys would stand in another order if they were compared by the 16-bit
units of their characters. -/
def astral : Config :=
  { Config.standard with
    context := ⟨[("z", "2"), ("é", "3"), ("\uffff", "4"), ("😀", "5")], by decide⟩ }

/-- Two additions under one key keep their order while others move between and around them, and the
entries of a configuration are added from the last one to the first. -/
theorem ofList_sorted_lastWins_astral :
    let additions := [("é", "1"), ("z", "2"), ("é", "3"), ("\uffff", "4"), ("😀", "5")]
    let others := [("😀", "5"), ("é", "1"), ("\uffff", "4"), ("é", "3"), ("z", "2")]
    (∀ key, additions.filter (·.1 = key) = others.filter (·.1 = key)) ∧
      ofList additions = ofList others ∧ (ofList additions).toList = astral.context.entries ∧
      ofList astral.context.entries.reverse = ofConfig astral := by
  intro additions others
  have horder : ∀ key, additions.filter (·.1 = key) = others.filter (·.1 = key) := by
    intro key
    simp only [additions, others, List.filter_cons, List.filter_nil]
    grind
  exact ⟨horder, ofList_sorted_lastWins.2.2.1 additions others horder, by decide,
    ofList_sorted_lastWins.2.2.2 astral _ astral.context.entries.reverse_perm⟩

end RenderContext

end MarkdownHtml
