import MarkdownHtml.Config.Basic

/-!
# What references stand for

A value of the context is a row of fragments: text without a dollar sign, and references in braces.
The scan that expands it cuts the value at dollar signs, closing braces and `:-`, and none of these
cuts reaches beyond the fragment that it belongs to (`Environment.scan_fragment_append`). So the
fragments are expanded one after the other, the first one that fails gives the error, and what is
put in for a reference is not looked at again (`Environment.expandFor_join`).

`Reference.PutsIn` says what is put in: the value of the variable if it is set, to whatever text, and
the default if it is not. Only a reference without either of them is an error
(`Environment.expandFor_between`).
-/

namespace MarkdownHtml

/-- A reference in braces, with what stands in for its variable. The name and the default can be
told apart, and neither ends the reference too early. -/
structure Reference where
  name : String
  default? : Option String
  named : name ≠ ""
  name_undivided : ¬[':', '-'] <:+: name.toList
  name_closed : '}' ∉ name.toList
  default_closed : ∀ default, default? = some default → '}' ∉ default.toList

namespace Reference

/-- What stands between the braces. -/
def inside (reference : Reference) : String :=
  match reference.default? with
  | none => reference.name
  | some default => reference.name ++ ":-" ++ default

/-- A reference as it is written. -/
def text (reference : Reference) : String := "$\x7b" ++ reference.inside ++ "\x7d"

/-- The segment that a reference is read as. -/
def segment (reference : Reference) : Segment :=
  .braced reference.name.toList (reference.default?.map String.toList)

end Reference

/-- A part of a value: text that stands for itself, or a reference. -/
inductive Fragment where
  | literal (text : String) (plain : '$' ∉ text.toList)
  | reference (reference : Reference)

namespace Fragment

/-- A fragment as it is written. -/
def text : Fragment → String
  | .literal text _ => text
  | .reference r => r.text

/-- The segment that a fragment is read as when it stands alone. -/
def segment : Fragment → Segment
  | .literal text _ => .literal text.toList
  | .reference r => r.segment

end Fragment

/-- What is put in for a reference: the value of its variable, which may be empty; and if the variable
is not set, the default. -/
inductive Reference.PutsIn (environment : Environment) (reference : Reference) : String → Prop where
  | value {value : String} (set : environment.value? reference.name = some value) :
      PutsIn environment reference value
  | default {default : String} (unset : environment.value? reference.name = none)
      (given : reference.default? = some default) : PutsIn environment reference default

/-! ## Reading a reference -/

namespace Segment

/-- Characters in front of a `:-` that begin none themselves are skipped one by one. -/
theorem splitDefault_cons {c : Char} {rest : List Char} (h : ¬[':', '-'] <+: c :: rest) :
    splitDefault (c :: rest) =
      (splitDefault rest).map fun (before, after) => (c :: before, after) := by
  rw [splitDefault]
  rintro after rfl hrest
  exact h ⟨after, by rw [hrest]; rfl⟩

theorem splitDefault_eq_none {name : List Char} (h : ¬[':', '-'] <:+: name) :
    splitDefault name = none := by
  induction name with
  | nil => rfl
  | cons c name ih =>
    rw [List.infix_cons_iff, not_or] at h
    rw [splitDefault_cons h.1, ih h.2]
    rfl

theorem splitDefault_append {name : List Char} (h : ¬[':', '-'] <:+: name) (default : List Char) :
    splitDefault (name ++ ':' :: '-' :: default) = some (name, default) := by
  induction name with
  | nil => rfl
  | cons c name ih =>
    rw [List.infix_cons_iff, not_or] at h
    -- a colon at the end of the name does not make a `:-` with the colon behind it
    have hprefix : ¬[':', '-'] <+: c :: (name ++ ':' :: '-' :: default) := by
      cases name with
      | nil =>
        rintro ⟨after, heq⟩
        simp at heq
      | cons d name =>
        rintro ⟨after, heq⟩
        refine h.1 ⟨name, ?_⟩
        simp only [List.cons_append, List.nil_append, List.cons.injEq] at heq ⊢
        exact ⟨heq.1, heq.2.1, trivial⟩
    rw [List.cons_append, splitDefault_cons hprefix, ih h.2]
    rfl

theorem ofBraces_inside (reference : Reference) :
    ofBraces reference.inside.toList = reference.segment := by
  have hname : reference.name.toList.isEmpty = false := by
    rw [List.isEmpty_eq_false_iff]
    exact fun h => reference.named (String.toList_eq_nil_iff.1 h)
  cases hdefault : reference.default? with
  | none =>
    have hsplit := splitDefault_eq_none reference.name_undivided
    simp only [ofBraces, Reference.inside, Reference.segment, hdefault, hsplit, Option.map_none]
  | some default =>
    have hsplit := splitDefault_append reference.name_undivided default.toList
    have hinside : (reference.name ++ ":-" ++ default).toList =
        reference.name.toList ++ ':' :: '-' :: default.toList := by
      rw [String.toList_append, String.toList_append, List.append_assoc]
      rfl
    simp only [ofBraces, Reference.inside, Reference.segment, hdefault, hinside, hsplit, hname,
      Option.map_some]
    rfl

theorem inside_closed (reference : Reference) : '}' ∉ reference.inside.toList := by
  rw [Reference.inside]
  cases hdefault : reference.default? with
  | none => exact reference.name_closed
  | some default =>
    simp only [String.toList_append, List.mem_append, not_or]
    exact ⟨⟨reference.name_closed, by decide⟩, reference.default_closed default hdefault⟩

/-- A stretch without dollar signs is read as one segment. -/
theorem next_cons_of_ne {c : Char} (hc : c ≠ '$') (rest : List Char) : next (c :: rest) =
    some (.literal (c :: rest.takeWhile (· != '$')), rest.dropWhile (· != '$')) := by
  rw [next]
  · rintro _ rfl
    exact absurd rfl hc
  · rintro _ rfl
    exact absurd rfl hc
  · rintro rfl
    exact absurd rfl hc

/-- What is taken off the front of a text that begins with a reference is the reference. -/
theorem next_reference (reference : Reference) (rest : List Char) :
    next (reference.text.toList ++ rest) = some (reference.segment, rest) := by
  have htext : reference.text.toList ++ rest =
      '$' :: '{' :: (reference.inside.toList ++ '}' :: rest) := by
    rw [Reference.text, String.toList_append, String.toList_append, List.append_assoc,
      List.append_assoc]
    rfl
  have hinside : ∀ c ∈ reference.inside.toList, (c != '}') = true := by
    intro c hc
    rw [bne_iff_ne]
    rintro rfl
    exact inside_closed reference hc
  have htake : (reference.inside.toList ++ '}' :: rest).takeWhile (· != '}') =
      reference.inside.toList := by
    rw [List.takeWhile_append_of_pos hinside]
    exact List.append_nil _
  have hdrop : (reference.inside.toList ++ '}' :: rest).dropWhile (· != '}') = '}' :: rest := by
    rw [List.dropWhile_append_of_pos hinside]
    rfl
  rw [htext, next, hdrop, htake, ofBraces_inside]

end Segment

/-! ## Scanning fragments -/

namespace Environment

variable (environment : Environment)

/-- Characters expanded segment by segment, whether or not there is a dollar sign among them. -/
def scan (cs : List Char) : Except String String := Segment.expandAll environment (Segment.ofValue cs)

theorem scan_nil : environment.scan [] = .ok "" := by
  rw [scan, Segment.ofValue]
  rfl

/-- A segment is expanded, and the scan goes on behind it. -/
theorem scan_of_next {cs rest : List Char} {segment : Segment}
    (h : Segment.next cs = some (segment, rest)) :
    environment.scan cs = do return (← segment.expand environment) ++ (← environment.scan rest) := by
  have hvalue : Segment.ofValue cs = segment :: Segment.ofValue rest := by
    rw [Segment.ofValue]
    split
    · rename_i hnone
      cases hnone.symm.trans h
    · rename_i hsome
      cases hsome.symm.trans h
      rfl
  rw [scan, hvalue]
  rfl

/-- A character that is no dollar sign stands for itself, also inside of a longer stretch. -/
theorem scan_cons_of_ne {c : Char} (hc : c ≠ '$') (rest : List Char) :
    environment.scan (c :: rest) = (environment.scan rest).map (String.singleton c ++ ·) := by
  rw [scan_of_next environment (Segment.next_cons_of_ne hc rest)]
  cases rest with
  | nil =>
    rw [List.takeWhile_nil, List.dropWhile_nil, scan_nil]
    rfl
  | cons d more =>
    by_cases hd : d = '$'
    · subst hd
      rw [List.takeWhile_cons_of_neg (by decide), List.dropWhile_cons_of_neg (by decide)]
      cases environment.scan ('$' :: more) <;> rfl
    · -- the next character belongs to the same segment
      have hbne : (d != '$') = true := bne_iff_ne.2 hd
      have htake : (d :: more).takeWhile (· != '$') = d :: more.takeWhile (· != '$') :=
        List.takeWhile_cons_of_pos hbne
      have hdrop : (d :: more).dropWhile (· != '$') = more.dropWhile (· != '$') :=
        List.dropWhile_cons_of_pos hbne
      rw [htake, hdrop, scan_of_next environment (Segment.next_cons_of_ne hd more)]
      cases environment.scan (more.dropWhile (· != '$')) with
      | error name => rfl
      | ok text =>
        show Except.ok (String.ofList (c :: d :: _) ++ text) =
          Except.ok (String.singleton c ++ (String.ofList (d :: _) ++ text))
        rw [← String.append_assoc, String.ofList_cons]

/-- Text without dollar signs stands for itself. -/
theorem scan_append_of_not_mem {front : List Char} (h : '$' ∉ front) (rest : List Char) :
    environment.scan (front ++ rest) = (environment.scan rest).map (String.ofList front ++ ·) := by
  induction front with
  | nil =>
    rw [List.nil_append]
    cases environment.scan rest with
    | error name => rfl
    | ok text =>
      show Except.ok text = Except.ok ("" ++ text)
      rw [String.empty_append]
  | cons c front ih =>
    obtain ⟨hc, hfront⟩ := List.ne_and_not_mem_of_not_mem_cons h
    rw [List.cons_append, scan_cons_of_ne environment hc.symm, ih hfront]
    cases environment.scan rest with
    | error name => rfl
    | ok text =>
      show Except.ok (String.singleton c ++ (String.ofList front ++ text)) =
        Except.ok (String.ofList (c :: front) ++ text)
      rw [← String.append_assoc, String.ofList_cons]

/-- The scan cuts no fragment, and none of its cuts reaches beyond the fragment that it is made for. -/
theorem scan_fragment_append (fragment : Fragment) (rest : List Char) :
    environment.scan (fragment.text.toList ++ rest) =
      do return (← fragment.segment.expand environment) ++ (← environment.scan rest) := by
  cases fragment with
  | literal text plain =>
    rw [Fragment.text, scan_append_of_not_mem environment plain]
    cases environment.scan rest <;> rfl
  | reference r => exact scan_of_next environment (Segment.next_reference r rest)

/-- The short way that is taken for values without a dollar sign makes no difference. -/
theorem expand_eq_scan (value : String) : environment.expand value = environment.scan value.toList := by
  rw [expand]
  split
  · rfl
  · rename_i h
    have hplain : '$' ∉ value.toList := by simpa using h
    have hscan := scan_append_of_not_mem environment hplain []
    rw [List.append_nil, scan_nil, String.ofList_toList] at hscan
    rw [hscan]
    exact congrArg Except.ok (String.append_empty).symm

/-! ## Values of the context -/

/-- The value of a context key with its references expanded. -/
def expandFor (key value : String) : Except ConfigError String :=
  (environment.expand value).mapError (ConfigError.unsetVariable key)

/-- The values of the context are expanded each by itself, one after the other. -/
theorem expandEntries_cons (key value : String) (rest : List (String × String)) :
    Config.expandEntries environment ((key, value) :: rest) = do
      return (key, ← environment.expandFor key value) :: (← Config.expandEntries environment rest) := by
  rw [Config.expandEntries, expandFor]
  cases environment.expand value <;> rfl

variable (key : String)

/-- The first fragment of a value is expanded, then the rest. -/
theorem expandFor_append (fragment : Fragment) (rest : String) :
    environment.expandFor key (fragment.text ++ rest) = do
      return (← (fragment.segment.expand environment).mapError (ConfigError.unsetVariable key)) ++
        (← environment.expandFor key rest) := by
  rw [expandFor, expandFor, expand_eq_scan, expand_eq_scan, String.toList_append,
    scan_fragment_append]
  cases fragment.segment.expand environment with
  | error name => rfl
  | ok text => cases environment.scan rest.toList <;> rfl

theorem expandFor_empty : environment.expandFor key "" = .ok "" := by
  rw [expandFor, expand_eq_scan, String.toList_empty, scan_nil]
  rfl

theorem expandFor_text (fragment : Fragment) : environment.expandFor key fragment.text =
    (fragment.segment.expand environment).mapError (ConfigError.unsetVariable key) := by
  have happend := expandFor_append environment key fragment ""
  rw [String.append_empty, expandFor_empty] at happend
  rw [happend]
  cases fragment.segment.expand environment with
  | error name => rfl
  | ok text =>
    show Except.ok (text ++ "") = Except.ok text
    rw [String.append_empty]

/-! ## What is put in -/

variable {environment}

theorem expandFor_of_putsIn {reference : Reference} {text : String}
    (h : reference.PutsIn environment text) : environment.expandFor key reference.text = .ok text := by
  refine (expandFor_text environment key (.reference reference)).trans ?_
  rw [Fragment.segment, Reference.segment]
  cases h with
  | value set =>
    simp only [Segment.expand, String.ofList_toList, set]
    rfl
  | default unset given =>
    simp only [Segment.expand, String.ofList_toList, unset, given, Option.map_some]
    rfl

theorem expandFor_of_unset {reference : Reference} (hset : environment.value? reference.name = none)
    (hdefault : reference.default? = none) :
    environment.expandFor key reference.text = .error (.unsetVariable key reference.name) := by
  refine (expandFor_text environment key (.reference reference)).trans ?_
  rw [Fragment.segment, Reference.segment]
  simp only [Segment.expand, String.ofList_toList, hset, hdefault, Option.map_none]
  rfl

/-- Something is put in for a reference, unless its variable is not set and it has no default. -/
theorem exists_putsIn (environment : Environment) (reference : Reference) :
    (∃ text, reference.PutsIn environment text) ∨
      environment.value? reference.name = none ∧ reference.default? = none := by
  cases hvalue : environment.value? reference.name with
  | some value => exact .inl ⟨value, .value hvalue⟩
  | none =>
    cases hdefault : reference.default? with
    | some default => exact .inl ⟨default, .default hvalue hdefault⟩
    | none => exact .inr ⟨rfl, rfl⟩

/-- What a reference is expanded to when it stands alone is what is put in for it. -/
theorem expandFor_text_eq_ok_iff {reference : Reference} {text : String} :
    environment.expandFor key reference.text = .ok text ↔ reference.PutsIn environment text := by
  refine ⟨fun h => ?_, expandFor_of_putsIn key⟩
  rcases exists_putsIn environment reference with ⟨other, hother⟩ | ⟨hset, hdefault⟩
  · rw [expandFor_of_putsIn key hother] at h
    exact Except.ok.inj h ▸ hother
  · rw [expandFor_of_unset key hset hdefault] at h
    cases h

variable (environment)

/-! ## Rows of fragments -/

/-- A row of fragments is expanded one after the other, up to the first that fails. -/
theorem expandFor_row (fragments : List Fragment) :
    environment.expandFor key (String.join (fragments.map Fragment.text)) =
      (fragments.mapM fun fragment => environment.expandFor key fragment.text).map String.join := by
  induction fragments with
  | nil => exact expandFor_empty environment key
  | cons fragment rest ih =>
    rw [List.map_cons, String.join_cons, expandFor_append, ← expandFor_text, ih, List.mapM_cons]
    cases environment.expandFor key fragment.text with
    | error failure => rfl
    | ok text =>
      cases rest.mapM fun fragment => environment.expandFor key fragment.text with
      | error failure => rfl
      | ok texts => exact congrArg Except.ok String.join_cons.symm

/-- The first fragment that fails gives the error. -/
theorem expandFor_row_of_error {before : List Fragment} {fragment : Fragment} {error : ConfigError}
    (hbefore : ∀ front ∈ before, ∃ text, environment.expandFor key front.text = .ok text)
    (h : environment.expandFor key fragment.text = .error error) (after : List Fragment) :
    environment.expandFor key (String.join ((before ++ fragment :: after).map Fragment.text)) =
      .error error := by
  induction before with
  | nil =>
    rw [List.nil_append, List.map_cons, String.join_cons, expandFor_append, ← expandFor_text, h]
    rfl
  | cons front before ih =>
    obtain ⟨⟨text, hfront⟩, hrest⟩ := List.forall_mem_cons.1 hbefore
    rw [List.cons_append, List.map_cons, String.join_cons, expandFor_append, ← expandFor_text,
      hfront, ih hrest]
    rfl

theorem exists_unsetVariable_of_expandFor {value : String} {error : ConfigError}
    (h : environment.expandFor key value = .error error) : ∃ name, error = .unsetVariable key name := by
  rw [expandFor] at h
  cases hvalue : environment.expand value with
  | error name =>
    rw [hvalue] at h
    exact ⟨name, (Except.error.inj h).symm⟩
  | ok text =>
    rw [hvalue] at h
    cases h

theorem expandFor_of_not_mem {text : String} (h : '$' ∉ text.toList) :
    environment.expandFor key text = .ok text := by
  rw [← Fragment.text.eq_1 text h, expandFor_text]
  exact congrArg Except.ok String.ofList_toList

/-- Nothing that stands in a row of fragments reaches into what stands behind the row. -/
theorem expandFor_row_append (before : List Fragment) (rest : String) :
    environment.expandFor key (String.join (before.map Fragment.text) ++ rest) = do
      return (← environment.expandFor key (String.join (before.map Fragment.text))) ++
        (← environment.expandFor key rest) := by
  induction before with
  | nil =>
    rw [List.map_nil, String.join_nil, String.empty_append, expandFor_empty]
    cases environment.expandFor key rest with
    | error failure => rfl
    | ok text => exact congrArg Except.ok String.empty_append.symm
  | cons fragment before ih =>
    rw [List.map_cons, String.join_cons, String.append_assoc, expandFor_append, ih,
      expandFor_append]
    cases (fragment.segment.expand environment).mapError (ConfigError.unsetVariable key) with
    | error failure => rfl
    | ok text =>
      cases environment.expandFor key (String.join (before.map Fragment.text)) with
      | error failure => rfl
      | ok front =>
        cases environment.expandFor key rest with
        | error failure => rfl
        | ok back => exact congrArg Except.ok (String.append_assoc ..).symm

/-- What is put in for a reference stands in the result as it is, between what comes from before the
reference and what comes from behind it. -/
theorem expandFor_around {reference : Reference} {inserted front back : String}
    {before after : List Fragment} (h : reference.PutsIn environment inserted)
    (hbefore : environment.expandFor key (String.join (before.map Fragment.text)) = .ok front)
    (hafter : environment.expandFor key (String.join (after.map Fragment.text)) = .ok back) :
    environment.expandFor key (String.join (before.map Fragment.text) ++ reference.text ++
      String.join (after.map Fragment.text)) = .ok (front ++ inserted ++ back) := by
  have hreference : environment.expandFor key
      (reference.text ++ String.join (after.map Fragment.text)) = .ok (inserted ++ back) := by
    rw [← Fragment.text.eq_2 reference, expandFor_append, ← expandFor_text, Fragment.text,
      expandFor_of_putsIn key h, hafter]
    rfl
  rw [String.append_assoc, expandFor_row_append, hbefore, hreference, String.append_assoc]
  rfl

/-- Expanding is one pass from left to right. A row of fragments, of any length, is expanded to what
its fragments are expanded to, one after the other; the first that fails gives its error, which names
the key of the value. Text without a dollar sign stands for itself, on the short way that such values
take as on the long way. What is put in for a reference is not expanded again, whatever it holds. -/
theorem expandFor_join :
    (∀ fragments : List Fragment,
      environment.expandFor key (String.join (fragments.map Fragment.text)) =
        (fragments.mapM fun fragment => environment.expandFor key fragment.text).map String.join) ∧
    (∀ (before : List Fragment) (fragment : Fragment) (after : List Fragment) (error : ConfigError),
      (∀ front ∈ before, ∃ text, environment.expandFor key front.text = .ok text) →
      environment.expandFor key fragment.text = .error error →
      environment.expandFor key (String.join ((before ++ fragment :: after).map Fragment.text)) =
          .error error ∧
        ∃ name, error = .unsetVariable key name) ∧
    (∀ value, environment.expand value =
      Segment.expandAll environment (Segment.ofValue value.toList)) ∧
    (∀ text, '$' ∉ text.toList → environment.expandFor key text = .ok text) ∧
    (∀ (reference : Reference) (inserted : String),
      environment.expandFor key reference.text = .ok inserted ↔
        reference.PutsIn environment inserted) ∧
    ∀ (before : List Fragment) (reference : Reference) (after : List Fragment)
        (front inserted back : String),
      environment.expandFor key (String.join (before.map Fragment.text)) = .ok front →
      reference.PutsIn environment inserted →
      environment.expandFor key (String.join (after.map Fragment.text)) = .ok back →
      environment.expandFor key (String.join (before.map Fragment.text) ++ reference.text ++
        String.join (after.map Fragment.text)) = .ok (front ++ inserted ++ back) := by
  refine ⟨expandFor_row environment key, fun before fragment after error hbefore h => ⟨?_, ?_⟩,
    expand_eq_scan environment, fun text => expandFor_of_not_mem environment key,
    fun reference inserted => expandFor_text_eq_ok_iff key,
    fun before reference after front inserted back hbefore h hafter => ?_⟩
  · exact expandFor_row_of_error environment key hbefore h after
  · exact exists_unsetVariable_of_expandFor environment key h
  · exact expandFor_around environment key h hbefore hafter

/-- The reference `${A}`. -/
def bareReference : Reference := ⟨"A", none, by decide, by decide, by decide, by simp⟩

/-- The reference `${B:-${A}`, with a default that begins like a reference. -/
def nestedReference : Reference := ⟨"B", some "$\x7bA", by decide, by decide, by decide, by simp⟩

/-- What is put in looks like references here, and is left alone. -/
theorem expandFor_join_nested :
    let environment : Environment := [("A", "$\x7bB\x7d$")]
    '$' ∉ "\x7d:-".toList ∧
      bareReference.PutsIn environment "$\x7bB\x7d$" ∧
      nestedReference.PutsIn environment "$\x7bA" ∧
      environment.expandFor "site" "\x7d:-$\x7bA\x7d$\x7bB:-$\x7bA\x7d" =
        .ok "\x7d:-$\x7bB\x7d$$\x7bA" ∧
      Environment.expandFor [] "site" "\x7d:-$\x7bA\x7d$\x7bB:-$\x7bA\x7d" =
        .error (.unsetVariable "site" "A") := by
  intro environment
  have hplain : '$' ∉ "\x7d:-".toList := by decide
  have hbare : bareReference.PutsIn environment "$\x7bB\x7d$" := .value (by decide)
  have hnested : nestedReference.PutsIn environment "$\x7bA" := .default (by decide) rfl
  obtain ⟨-, -, -, hliteral, halone, haround⟩ := expandFor_join environment "site"
  have hrow := haround [.literal "\x7d:-" hplain] bareReference [.reference nestedReference] _ _ _
    (hliteral "\x7d:-" hplain) hbare ((halone nestedReference _).2 hnested)
  have hfailing := (expandFor_join [] "site").2.1 [.literal "\x7d:-" hplain]
    (.reference bareReference) [.reference nestedReference] _
    (List.forall_mem_singleton.2 ⟨_, (expandFor_join [] "site").2.2.2.1 _ hplain⟩)
    (expandFor_of_unset "site" rfl rfl)
  exact ⟨hplain, hbare, hnested, hrow, hfailing.1⟩

/-! ## One reference in plain text -/

/-- Plain text around a reference stays as it is. -/
theorem expandFor_between_eq_map {before after : String} (hbefore : '$' ∉ before.toList)
    (hafter : '$' ∉ after.toList) (reference : Reference) :
    environment.expandFor key (before ++ reference.text ++ after) =
      (environment.expandFor key reference.text).map fun inserted => before ++ inserted ++ after := by
  have htext : before ++ reference.text ++ after =
      String.join ([.literal before hbefore, .reference reference, .literal after hafter].map
        Fragment.text) := by
    simp only [List.map_cons, List.map_nil, String.join_cons, String.join_nil, String.append_empty,
      Fragment.text, String.append_assoc]
  rw [htext, expandFor_row, List.mapM_cons, List.mapM_cons, List.mapM_cons, List.mapM_nil]
  simp only [Fragment.text, expandFor_of_not_mem environment key hbefore,
    expandFor_of_not_mem environment key hafter]
  cases environment.expandFor key reference.text with
  | error failure => rfl
  | ok inserted =>
    show Except.ok (String.join [before, inserted, after]) = Except.ok (before ++ inserted ++ after)
    simp only [String.join_cons, String.join_nil, String.append_empty, String.append_assoc]

/-- What is put in for a reference in plain text stands between the text before and the text behind. -/
theorem expandFor_between_of_putsIn {before after inserted : String} (hbefore : '$' ∉ before.toList)
    (hafter : '$' ∉ after.toList) {reference : Reference} (h : reference.PutsIn environment inserted) :
    environment.expandFor key (before ++ reference.text ++ after) =
      .ok (before ++ inserted ++ after) := by
  rw [expandFor_between_eq_map environment key hbefore hafter, expandFor_of_putsIn key h]
  rfl

theorem expandFor_between_of_unset {before after : String} (hbefore : '$' ∉ before.toList)
    (hafter : '$' ∉ after.toList) {reference : Reference}
    (hset : environment.value? reference.name = none) (hdefault : reference.default? = none) :
    environment.expandFor key (before ++ reference.text ++ after) =
      .error (.unsetVariable key reference.name) := by
  rw [expandFor_between_eq_map environment key hbefore hafter, expandFor_of_unset key hset hdefault]
  rfl

/-- A reference in plain text stands for the value of its variable if that is set, to whatever text,
the empty one included. If it is not set, the reference stands for its default, and without one it is
an error, which names the key and the variable. -/
theorem expandFor_between {before after : String} (hbefore : '$' ∉ before.toList)
    (hafter : '$' ∉ after.toList) (reference : Reference) :
    (∀ value, environment.value? reference.name = some value →
      environment.expandFor key (before ++ reference.text ++ after) =
        .ok (before ++ value ++ after)) ∧
    (environment.value? reference.name = none → reference.default? = none →
      environment.expandFor key (before ++ reference.text ++ after) =
        .error (.unsetVariable key reference.name)) ∧
    (∀ default, environment.value? reference.name = none → reference.default? = some default →
      environment.expandFor key (before ++ reference.text ++ after) =
        .ok (before ++ default ++ after)) ∧
    (ConfigError.unsetVariable key reference.name).message? =
      some ("Environment variable error in context." ++ key ++ ": $\x7b" ++ reference.name ++
        "\x7d not set (environment variable not found)") := by
  refine ⟨fun value set => ?_, fun unset bare => ?_, fun default unset given => ?_, rfl⟩
  · exact expandFor_between_of_putsIn environment key hbefore hafter (.value set)
  · exact expandFor_between_of_unset environment key hbefore hafter unset bare
  · exact expandFor_between_of_putsIn environment key hbefore hafter (.default unset given)

/-- A value of dollar signs, an empty one, with a default at hand or not, and none at all. -/
theorem expandFor_between_url :
    '$' ∉ "https://".toList ∧ '$' ∉ "\x7d/".toList ∧
      Environment.expandFor [("A", "$$")] "site" "https://$\x7bA\x7d\x7d/" = .ok "https://$$\x7d/" ∧
      Environment.expandFor [("A", "")] "site" "https://$\x7bA\x7d\x7d/" = .ok "https://\x7d/" ∧
      Environment.expandFor [("B", "")] "site" "https://$\x7bB:-$\x7bA\x7d\x7d/" =
        .ok "https://\x7d/" ∧
      Environment.expandFor [] "site" "https://$\x7bB:-$\x7bA\x7d\x7d/" = .ok "https://$\x7bA\x7d/" ∧
      Environment.expandFor [] "site" "https://$\x7bA\x7d\x7d/" =
        .error (.unsetVariable "site" "A") := by
  have hbefore : '$' ∉ "https://".toList := by decide
  have hafter : '$' ∉ "\x7d/".toList := by decide
  have hdollars := (expandFor_between [("A", "$$")] "site" hbefore hafter bareReference).1 "$$" rfl
  have hempty := (expandFor_between [("A", "")] "site" hbefore hafter bareReference).1 "" rfl
  have hfilled := (expandFor_between [("B", "")] "site" hbefore hafter nestedReference).1 "" rfl
  obtain ⟨-, hunset, -⟩ := expandFor_between [] "site" hbefore hafter bareReference
  obtain ⟨-, -, hdefault, -⟩ := expandFor_between [] "site" hbefore hafter nestedReference
  exact ⟨hbefore, hafter, hdollars, hempty, hfilled, hdefault "$\x7bA" rfl rfl, hunset rfl rfl⟩

end Environment

end MarkdownHtml
