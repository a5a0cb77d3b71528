import MarkdownHtml.Proofs.Config.References
import MarkdownHtml.Proofs.Text.Map
import MarkdownHtml.Proofs.Text.Word

/-!
# What a configuration text gives

A text is read, the values of its context are expanded in the order of their keys, and then the keys
are checked (`Config.ofToml`). Expanding stops at the first value that fails, which is the one of the
smallest key (`Config.expand_cases`), and no key is checked before all values are expanded. So of all
that is wrong with a context one thing is reported, and which one it is does not depend on the order
in which the text gives the keys (`Config.ofToml_result`).
-/

namespace MarkdownHtml

namespace Config

variable (environment : Environment) (config : Config)

/-- Every value of the context can be expanded. -/
def Expands : Prop :=
  ∀ key value, config.context.get? key = some value →
    ∃ text, environment.expandFor key value = .ok text

/-- Every key of the context has a character that is not white space. -/
def KeysVisible : Prop :=
  ∀ key ∈ config.context.keys, ∃ c ∈ key.toList, Text.isBlankChar c = false

/-- Every value of the context is expanded, under the key that it had, and nothing else is changed. -/
structure ExpandsTo (expanded : Config) : Prop where
  keys : expanded.context.keys = config.context.keys
  values : ∀ key value, config.context.get? key = some value →
    ∃ text, environment.expandFor key value = .ok text ∧ expanded.context.get? key = some text
  markdown : expanded.markdown = config.markdown
  path : expanded.path = config.path

/-- The value of a key refers to a variable that is not set. -/
def Misses (key name : String) : Prop :=
  ∃ value, config.context.get? key = some value ∧
    environment.expandFor key value = .error (.unsetVariable key name)

/-- The value of a key refers to a variable that is not set, and the value of no smaller key fails to
expand. Keys are compared by their UTF-8 forms, byte by byte. -/
structure MissesFirst (key name : String) : Prop where
  misses : config.Misses environment key name
  least : ∀ other value error, config.context.get? other = some value →
    environment.expandFor other value = .error error → Text.utf8 key ≤ Text.utf8 other

variable {environment config}

theorem ExpandsTo.expands {expanded : Config} (h : config.ExpandsTo environment expanded) :
    config.Expands environment := by
  intro key value hget
  obtain ⟨text, htext, -⟩ := h.values key value hget
  exact ⟨text, htext⟩

theorem Misses.not_expands {key name : String} (h : config.Misses environment key name) :
    ¬config.Expands environment := by
  obtain ⟨value, hget, herror⟩ := h
  intro hexpands
  obtain ⟨text, htext⟩ := hexpands key value hget
  cases herror.symm.trans htext

theorem MissesFirst.unique {key name other missing : String}
    (h : config.MissesFirst environment key name)
    (h' : config.MissesFirst environment other missing) : key = other ∧ name = missing := by
  obtain ⟨value, hget, herror⟩ := h.misses
  obtain ⟨value', hget', herror'⟩ := h'.misses
  have hle : key ≤ other := Text.utf8_le_iff.1 (h.least other value' _ hget' herror')
  have hge : other ≤ key := Text.utf8_le_iff.1 (h'.least key value _ hget herror)
  have hkey : key = other := String.le_antisymm hle hge
  subst hkey
  cases hget.symm.trans hget'
  cases herror.symm.trans herror'
  exact ⟨rfl, rfl⟩

/-! ## Expanding -/

/-- Either all entries of a row are expanded, or those in front of the first one that fails. -/
theorem expandEntries_cases (entries : List (String × String)) :
    (∃ expanded, expandEntries environment entries = .ok expanded ∧
      ∀ key value, (key, value) ∈ entries →
        ∃ text, environment.expandFor key value = .ok text ∧ (key, text) ∈ expanded) ∨
    ∃ front key value back name, entries = front ++ (key, value) :: back ∧
      (∀ entry ∈ front, ∃ text, environment.expandFor entry.1 entry.2 = .ok text) ∧
      environment.expandFor key value = .error (.unsetVariable key name) ∧
      expandEntries environment entries = .error (.unsetVariable key name) := by
  induction entries with
  | nil => exact .inl ⟨[], rfl, fun _ _ hmem => absurd hmem List.not_mem_nil⟩
  | cons entry rest ih =>
    obtain ⟨key, value⟩ := entry
    rw [Environment.expandEntries_cons]
    cases hvalue : environment.expandFor key value with
    | error error =>
      obtain ⟨name, rfl⟩ := environment.exists_unsetVariable_of_expandFor key hvalue
      exact .inr ⟨[], key, value, rest, name, rfl, List.forall_mem_nil _, hvalue, rfl⟩
    | ok text =>
      rcases ih with ⟨expanded, hrest, hall⟩ |
        ⟨front, failing, failingValue, back, name, rfl, hfront, herror, hrest⟩
      · rw [hrest]
        refine .inl ⟨(key, text) :: expanded, rfl, fun other value' hmem => ?_⟩
        rcases List.mem_cons.1 hmem with heq | hmem
        · cases heq
          exact ⟨text, hvalue, List.mem_cons_self⟩
        · obtain ⟨text', htext', hmem'⟩ := hall other value' hmem
          exact ⟨text', htext', List.mem_cons_of_mem _ hmem'⟩
      · rw [hrest]
        exact .inr ⟨(key, value) :: front, failing, failingValue, back, name, rfl,
          List.forall_mem_cons.2 ⟨⟨text, hvalue⟩, hfront⟩, herror, rfl⟩

theorem expand_of_expandEntries {expanded : List (String × String)}
    (h : expandEntries environment config.context.entries = .ok expanded) :
    ∃ hsorted, config.expand environment = .ok { config with context := ⟨expanded, hsorted⟩ } := by
  rw [expand]
  split
  · rename_i hfails
    cases hfails.symm.trans h
  · rename_i entries hexpanded
    cases hexpanded.symm.trans h
    exact ⟨sorted_of_keys_eq config.context.sorted (keys_expandEntries h), rfl⟩

theorem expand_of_expandEntries_error {error : ConfigError}
    (h : expandEntries environment config.context.entries = .error error) :
    config.expand environment = .error error := by
  rw [expand]
  split
  · rename_i hfails
    cases hfails.symm.trans h
    rfl
  · rename_i hexpanded
    cases hexpanded.symm.trans h

/-- As the keys of a map increase, none is smaller than the first that fails and fails too. -/
theorem missesFirst_of_entries {front back : List (String × String)} {key value name : String}
    (hentries : config.context.entries = front ++ (key, value) :: back)
    (hfront : ∀ entry ∈ front, ∃ text, environment.expandFor entry.1 entry.2 = .ok text)
    (herror : environment.expandFor key value = .error (.unsetVariable key name)) :
    config.MissesFirst environment key name := by
  have hsorted := config.context.sorted
  rw [hentries, TextMap.Sorted, List.pairwise_append, List.pairwise_cons] at hsorted
  obtain ⟨-, ⟨hback, -⟩, -⟩ := hsorted
  refine ⟨⟨value, ?_, herror⟩, ?_⟩
  · rw [TextMap.get?_eq_some_iff, hentries]
    exact List.mem_append_right front List.mem_cons_self
  · intro other otherValue error hget hother
    rw [TextMap.get?_eq_some_iff, hentries, List.mem_append, List.mem_cons] at hget
    rw [Text.utf8_le_iff]
    rcases hget with hmem | heq | hmem
    · obtain ⟨text, htext⟩ := hfront _ hmem
      cases htext.symm.trans hother
    · cases heq
      exact String.le_refl key
    · exact Std.le_of_lt (hback _ hmem)

/-- Either all values are expanded, or the smallest key whose value fails is reported. -/
theorem expand_cases (environment : Environment) (config : Config) :
    (∃ expanded, config.expand environment = .ok expanded ∧
      config.ExpandsTo environment expanded) ∨
    ∃ key name, config.expand environment = .error (.unsetVariable key name) ∧
      config.MissesFirst environment key name := by
  rcases expandEntries_cases config.context.entries with
    ⟨expanded, hexpanded, hall⟩ | ⟨front, key, value, back, name, hentries, hfront, hmiss, herror⟩
  · obtain ⟨hsorted, hconfig⟩ := expand_of_expandEntries hexpanded
    refine .inl ⟨_, hconfig, keys_expandEntries hexpanded, fun key value hget => ?_, rfl, rfl⟩
    obtain ⟨text, htext, hmem⟩ := hall key value (TextMap.get?_eq_some_iff.1 hget)
    exact ⟨text, htext, TextMap.get?_eq_some_iff.2 hmem⟩
  · exact .inr ⟨key, name, expand_of_expandEntries_error herror,
      missesFirst_of_entries hentries hfront hmiss⟩

/-! ## Checking the keys -/

theorem any_isBlank_keys_eq_false_iff :
    config.context.keys.any Text.isBlank = false ↔ config.KeysVisible := by
  rw [List.any_eq_false, KeysVisible]
  simp only [Bool.not_eq_true, Text.isBlank_eq_false_iff, Text.HasVisible]

theorem validate_of_keysVisible (h : config.KeysVisible) : config.validate = .ok () := by
  rw [validate, any_isBlank_keys_eq_false_iff.2 h]
  rfl

theorem validate_of_not_keysVisible (h : ¬config.KeysVisible) :
    config.validate = .error .blankKey := by
  rw [← any_isBlank_keys_eq_false_iff, Bool.not_eq_false] at h
  rw [validate, h]
  rfl

/-- Expanding values makes no key blank and no blank key visible. -/
theorem ExpandsTo.keysVisible_iff {expanded : Config} (h : config.ExpandsTo environment expanded) :
    expanded.KeysVisible ↔ config.KeysVisible := by
  rw [KeysVisible, KeysVisible, h.keys]

/-! ## The outcome -/

/-- What becomes of a configuration as it is written: its values are expanded and its keys are
visible; or its values can be expanded, but a key is blank; or a variable is missing. -/
inductive Outcome (environment : Environment) (config : Config) :
    Except ConfigError Config → Prop where
  | ok {result : Config} (expanded : config.ExpandsTo environment result)
      (visible : config.KeysVisible) : Outcome environment config (.ok result)
  | blankKey (expands : config.Expands environment) (hidden : ¬config.KeysVisible) :
      Outcome environment config (.error .blankKey)
  | unsetVariable {key name : String} (first : config.MissesFirst environment key name) :
      Outcome environment config (.error (.unsetVariable key name))

theorem outcome_ofToml (environment : Environment) {text : String}
    (h : parse? text = some config) : Outcome environment config (ofToml environment text) := by
  rw [ofToml, h]
  show Outcome environment config (config.expand environment >>= _)
  rcases expand_cases environment config with
    ⟨expanded, hexpand, hexpands⟩ | ⟨key, name, herror, hfirst⟩
  · rw [hexpand]
    show Outcome environment config (expanded.validate >>= _)
    by_cases hvisible : config.KeysVisible
    · rw [validate_of_keysVisible (hexpands.keysVisible_iff.2 hvisible)]
      exact .ok hexpands hvisible
    · rw [validate_of_not_keysVisible (mt hexpands.keysVisible_iff.1 hvisible)]
      exact .blankKey hexpands.expands hvisible
  · rw [herror]
    exact .unsetVariable hfirst

/-- A text that describes no configuration is reported, whatever the environment. One that does gives
its configuration with the values expanded, if all of them can be expanded and no key is blank. If
values cannot be expanded, the smallest of their keys is reported, whatever the other values and the
keys are. Only if all values can be expanded is a blank key reported. -/
theorem ofToml_result (environment : Environment) (text : String) :
    (parse? text = none → ofToml environment text = .error .parse) ∧
    ∀ config, parse? text = some config →
      ((∃ result, ofToml environment text = .ok result) ↔
        config.Expands environment ∧ config.KeysVisible) ∧
      (∀ result, ofToml environment text = .ok result → config.ExpandsTo environment result) ∧
      (¬config.Expands environment →
        ∃ key name, ofToml environment text = .error (.unsetVariable key name)) ∧
      (∀ key name, ofToml environment text = .error (.unsetVariable key name) ↔
        config.MissesFirst environment key name) ∧
      (ofToml environment text = .error .blankKey ↔
        config.Expands environment ∧ ¬config.KeysVisible) := by
  refine ⟨fun h => by rw [ofToml, h], fun config h => ?_⟩
  have houtcome := outcome_ofToml environment h
  generalize ofToml environment text = outcome at houtcome
  cases houtcome with
  | ok expanded visible =>
    refine ⟨iff_of_true ⟨_, rfl⟩ ⟨expanded.expands, visible⟩, ?_, fun hexpands => ?_, ?_, ?_⟩
    · rintro _ ⟨⟩
      exact expanded
    · exact absurd expanded.expands hexpands
    · exact fun key name =>
        iff_of_false nofun fun first => first.misses.not_expands expanded.expands
    · exact iff_of_false nofun fun hblank => hblank.2 visible
  | blankKey expands hidden =>
    refine ⟨iff_of_false nofun fun hvisible => hidden hvisible.2, nofun, fun hexpands => ?_, ?_, ?_⟩
    · exact absurd expands hexpands
    · exact fun key name => iff_of_false nofun fun first => first.misses.not_expands expands
    · exact iff_of_true rfl ⟨expands, hidden⟩
  | @unsetVariable key name first =>
    have hmisses := first.misses.not_expands
    refine ⟨iff_of_false nofun fun hvisible => hmisses hvisible.1, nofun, fun _ => ⟨key, name, rfl⟩,
      fun other missing => ⟨?_, fun hother => ?_⟩, iff_of_false nofun fun hblank => hmisses hblank.1⟩
    · rintro ⟨⟩
      exact first
    · obtain ⟨rfl, rfl⟩ := first.unique hother
      rfl

/-- A configuration with a blank key and two references. -/
def referring : Config :=
  ⟨.standard, ⟨[(" ", "x"), ("a", "$\x7bA\x7d"), ("b", "$\x7bA\x7d")], by decide⟩, none⟩

/-- The smaller key of the two is reported, not the one that comes first in the text. The blank key is
reported only when the variable is set. -/
theorem ofToml_result_missing :
    let text := "[context]\nb = \"$\x7bA\x7d\"\na = \"$\x7bA\x7d\"\n\" \" = \"x\""
    parse? text = some referring ∧ referring.MissesFirst [] "a" "A" ∧
      ofToml [] text = .error (.unsetVariable "a" "A") ∧
      ofToml [("A", "y")] text = .error .blankKey := by
  intro text
  have hparse : parse? text = some referring := by decide +kernel
  have hmem : ∀ {key value}, referring.context.get? key = some value →
      (key, value) ∈ [(" ", "x"), ("a", "$\x7bA\x7d"), ("b", "$\x7bA\x7d")] :=
    TextMap.get?_eq_some_iff.1
  have hplain : ∀ environment, Environment.expandFor environment " " "x" = .ok "x" :=
    fun environment => environment.expandFor_of_not_mem " " (by decide)
  have htext : Environment.bareReference.text = "$\x7bA\x7d" := by decide +kernel
  have hfirst : referring.MissesFirst [] "a" "A" := by
    have hunset := @Environment.expandFor_of_unset [] "a" Environment.bareReference rfl rfl
    rw [htext] at hunset
    refine ⟨⟨"$\x7bA\x7d", by decide, hunset⟩, fun other value error hget herror => ?_⟩
    rcases hmem hget with _ | ⟨_, _ | ⟨_, _ | ⟨_, ⟨⟩⟩⟩⟩
    · cases (hplain []).symm.trans herror
    · exact List.le_refl _
    · decide
  have hexpands : referring.Expands [("A", "y")] := by
    have hset := fun key => Environment.expandFor_of_putsIn key
      (Reference.PutsIn.value (by decide) :
        Environment.bareReference.PutsIn [("A", "y")] "y")
    rw [htext] at hset
    intro key value hget
    rcases hmem hget with _ | ⟨_, _ | ⟨_, _ | ⟨_, ⟨⟩⟩⟩⟩
    · exact ⟨"x", hplain _⟩
    · exact ⟨"y", hset "a"⟩
    · exact ⟨"y", hset "b"⟩
  have hhidden : ¬referring.KeysVisible := fun hvisible => by
    obtain ⟨c, hc, hblank⟩ := hvisible " " (by decide)
    cases List.mem_singleton.1 hc
    cases hblank
  exact ⟨hparse, hfirst,
    (((ofToml_result [] text).2 referring hparse).2.2.2.1 "a" "A").2 hfirst,
    ((ofToml_result _ text).2 referring hparse).2.2.2.2.2 ⟨hexpands, hhidden⟩⟩

end Config

end MarkdownHtml
