import MarkdownHtml.Proofs.Html.Escape

/-!
# The texts that escaping makes

At each place some characters are reserved, and an ampersand only begins an entity.
`Place.Admits` says this of a text by its characters and positions, without the function that
escapes. `Place.decode` reads the entities of one place back, in one pass from left to right. The
two describe the same texts: what is written for a place is admitted and read back
(`Place.admits_flatMap_written`, `Place.decode_flatMap_written_append`), and what a place admits is
written for what it is read as (`Place.flatMap_written_decode`).
-/

namespace MarkdownHtml

namespace Place

/-! ## Reading the entities of a place -/

/-- The characters that never stand at a place as themselves. -/
def reserved : Place → List Char
  | .content => ['<', '>']
  | .attribute => ['<', '>', '"', '\'']

/-- The entity of the place that characters begin with: the character that it stands for, and what
stands behind it. -/
def readEntity? : Place → List Char → Option (Char × List Char)
  | _, '&' :: 'a' :: 'm' :: 'p' :: ';' :: rest => some ('&', rest)
  | _, '&' :: 'l' :: 't' :: ';' :: rest => some ('<', rest)
  | _, '&' :: 'g' :: 't' :: ';' :: rest => some ('>', rest)
  | .attribute, '&' :: 'q' :: 'u' :: 'o' :: 't' :: ';' :: rest => some ('"', rest)
  | .attribute, '&' :: '#' :: 'x' :: '2' :: '7' :: ';' :: rest => some ('\'', rest)
  | _, _ => none

/-- The place admits the characters as they are: none of them is reserved, and each ampersand begins
an entity of the place. -/
structure Admits (place : Place) (cs : List Char) : Prop where
  not_mem_reserved : ∀ c ∈ cs, c ∉ place.reserved
  isSome_readEntity? : ∀ rest, '&' :: rest <:+ cs → (place.readEntity? ('&' :: rest)).isSome = true

variable {place : Place} {c : Char} {cs rest : List Char}

/-- A character is written as an entity if it is an ampersand or reserved. -/
theorem entity?_eq_none_iff : place.entity? c = none ↔ c ≠ '&' ∧ c ∉ place.reserved := by
  constructor
  · intro h
    obtain ⟨hamp, hlt, hgt, hquote⟩ := ne_of_entity?_eq_none h
    refine ⟨hamp, ?_⟩
    cases place
    · simp [reserved, hlt, hgt]
    · have hapostrophe : c ≠ '\'' := by
        rintro rfl
        simp [entity?] at h
      simp [reserved, hlt, hgt, hquote rfl, hapostrophe]
  · rintro ⟨hamp, hreserved⟩
    cases place
    all_goals
      simp only [reserved, List.mem_cons, List.not_mem_nil, or_false, not_or] at hreserved
      simp [entity?, hreserved]

theorem written_of_entity?_eq_none (h : place.entity? c = none) : place.written c = [c] := by
  rw [written, h]

/-- An entity is an ampersand and then characters that stand for themselves. -/
theorem exists_written_eq_cons (h : place.entity? c ≠ none) :
    ∃ more, place.written c = '&' :: more ∧ more ≠ [] ∧ ∀ d ∈ more, place.entity? d = none := by
  obtain ⟨entity, hentity⟩ := Option.ne_none_iff_exists'.1 h
  refine ⟨entity.toList.tail, ?_⟩
  rw [written, hentity]
  rcases entity?_cases hentity with ⟨-, rfl⟩ | ⟨-, rfl⟩ | ⟨-, rfl⟩ | ⟨-, rfl⟩ | ⟨-, rfl⟩
    <;> simp [entity?]

/-- An entity is read as the character that is written as it, whatever stands behind. -/
theorem readEntity?_written_append (h : place.entity? c ≠ none) (rest : List Char) :
    place.readEntity? (place.written c ++ rest) = some (c, rest) := by
  obtain ⟨entity, hentity⟩ := Option.ne_none_iff_exists'.1 h
  rw [written, hentity]
  rcases entity?_cases hentity with ⟨rfl, rfl⟩ | ⟨rfl, rfl⟩ | ⟨rfl, rfl⟩ | ⟨rfl, rfl⟩ | ⟨rfl, rfl⟩
  · cases place <;> rfl
  · cases place <;> rfl
  · cases place <;> rfl
  · cases place
    · cases hentity
    · rfl
  · cases place
    · cases hentity
    · rfl

/-- Only what a character is written as is read as an entity. -/
theorem eq_of_readEntity? (h : place.readEntity? cs = some (c, rest)) :
    place.entity? c ≠ none ∧ cs = place.written c ++ rest := by
  unfold readEntity? at h
  split at h
  all_goals cases h
  all_goals exact ⟨by simp [entity?], by simp [written, entity?]⟩

theorem readEntity?_cons_of_ne (h : c ≠ '&') (rest : List Char) :
    place.readEntity? (c :: rest) = none := by
  cases hread : place.readEntity? (c :: rest) with
  | none => rfl
  | some pair =>
    obtain ⟨hentity, heq⟩ := eq_of_readEntity? hread
    obtain ⟨more, hwritten, -⟩ := exists_written_eq_cons hentity
    rw [hwritten, List.cons_append] at heq
    exact absurd (List.cons.inj heq).1 h

theorem length_of_readEntity? (h : place.readEntity? cs = some (c, rest)) :
    rest.length < cs.length := by
  obtain ⟨hentity, rfl⟩ := eq_of_readEntity? h
  obtain ⟨more, hwritten, -⟩ := exists_written_eq_cons hentity
  rw [hwritten, List.cons_append, List.length_cons, List.length_append]
  omega

/-- The characters with each entity of the place replaced by what it stands for, in one pass from
left to right. -/
def decode (place : Place) : List Char → List Char
  | [] => []
  | c :: cs =>
    match h : place.readEntity? (c :: cs) with
    | some (d, rest) =>
      have := length_of_readEntity? h
      d :: decode place rest
    | none => c :: decode place cs
termination_by cs => cs.length
decreasing_by
  · exact this
  · exact Nat.lt_succ_self cs.length

theorem decode_of_readEntity? (h : place.readEntity? cs = some (c, rest)) :
    place.decode cs = c :: place.decode rest := by
  cases cs with
  | nil => cases h
  | cons d cs =>
    rw [decode]
    split
    · rename_i hread
      rw [h] at hread
      cases hread
      rfl
    · rename_i hread
      rw [h] at hread
      cases hread

theorem decode_cons_of_ne (h : c ≠ '&') (cs : List Char) :
    place.decode (c :: cs) = c :: place.decode cs := by
  rw [decode]
  split
  · rename_i hread
    rw [readEntity?_cons_of_ne h] at hread
    cases hread
  · rfl

/-! ## What is written is admitted and read back -/

/-- Written text is read back, whatever stands behind it. -/
theorem decode_flatMap_written_append (place : Place) (cs rest : List Char) :
    place.decode (cs.flatMap place.written ++ rest) = cs ++ place.decode rest := by
  induction cs with
  | nil => rfl
  | cons c cs ih =>
    rw [List.flatMap_cons, List.append_assoc]
    by_cases hentity : place.entity? c = none
    · rw [written_of_entity?_eq_none hentity, List.singleton_append,
        decode_cons_of_ne (entity?_eq_none_iff.1 hentity).1, ih, List.cons_append]
    · rw [decode_of_readEntity? (readEntity?_written_append hentity _), ih, List.cons_append]

theorem decode_escaped (place : Place) (text : String) :
    place.decode (place.escaped text).toList = text.toList := by
  have happend := decode_flatMap_written_append place text.toList []
  rwa [List.append_nil, decode, List.append_nil, ← toList_escaped] at happend

theorem Admits.of_append {front back : List Char} (h : place.Admits (front ++ back)) :
    place.Admits back :=
  ⟨fun c hc => h.not_mem_reserved c (List.mem_append_right front hc),
    fun rest hrest => h.isSome_readEntity? rest (hrest.trans (List.suffix_append front back))⟩

theorem admits_nil : place.Admits [] :=
  ⟨fun _ hc => absurd hc List.not_mem_nil, fun _ hrest => by simp at hrest⟩

/-- What may stand in front of what the place admits. -/
theorem Admits.cons (h : place.Admits cs) (hreserved : c ∉ place.reserved)
    (hamp : c = '&' → (place.readEntity? ('&' :: cs)).isSome = true) : place.Admits (c :: cs) := by
  refine ⟨?_, ?_⟩
  · intro d hd
    rcases List.mem_cons.1 hd with rfl | hd
    · exact hreserved
    · exact h.not_mem_reserved d hd
  · intro rest hrest
    rcases List.suffix_cons_iff.1 hrest with heq | hrest
    · obtain ⟨hc, rfl⟩ := List.cons.inj heq
      exact hamp hc.symm
    · exact h.isSome_readEntity? rest hrest

/-- Characters that stand for themselves in front of what the place admits. -/
theorem Admits.append (h : place.Admits cs) {front : List Char}
    (hfront : ∀ c ∈ front, place.entity? c = none) : place.Admits (front ++ cs) := by
  induction front with
  | nil => exact h
  | cons c front ih =>
    obtain ⟨hamp, hreserved⟩ := entity?_eq_none_iff.1 (hfront c List.mem_cons_self)
    refine (ih fun d hd => hfront d (List.mem_cons_of_mem c hd)).cons hreserved ?_
    exact fun hc => absurd hc hamp

theorem Admits.written_append (h : place.Admits cs) (c : Char) :
    place.Admits (place.written c ++ cs) := by
  by_cases hentity : place.entity? c = none
  · rw [written_of_entity?_eq_none hentity]
    refine h.append fun d hd => ?_
    rwa [List.mem_singleton.1 hd]
  · have hread := readEntity?_written_append hentity cs
    obtain ⟨more, hwritten, -, hmore⟩ := exists_written_eq_cons hentity
    rw [hwritten, List.cons_append] at hread ⊢
    refine (h.append hmore).cons ?_ fun _ => ?_
    · cases place <;> simp [reserved]
    · rw [hread]
      rfl

/-- What is written is admitted. -/
theorem admits_flatMap_written (place : Place) (cs : List Char) :
    place.Admits (cs.flatMap place.written) := by
  induction cs with
  | nil => exact admits_nil
  | cons c cs ih =>
    rw [List.flatMap_cons]
    exact ih.written_append c

/-- What is admitted is written for what it is read as. -/
theorem flatMap_written_decode (h : place.Admits cs) :
    (place.decode cs).flatMap place.written = cs := by
  fun_induction decode place cs with
  | case1 => rfl
  | case2 c cs d rest hread _ ih =>
    obtain ⟨-, heq⟩ := eq_of_readEntity? hread
    rw [heq] at h ⊢
    rw [List.flatMap_cons, ih h.of_append]
  | case3 c cs hread ih =>
    -- an ampersand would have begun an entity
    have hamp : c ≠ '&' := by
      rintro rfl
      have hsome := h.isSome_readEntity? cs List.suffix_rfl
      rw [hread] at hsome
      cases hsome
    have hreserved := h.not_mem_reserved c List.mem_cons_self
    have htail : place.Admits cs := Admits.of_append (show place.Admits ([c] ++ cs) from h)
    rw [List.flatMap_cons, written_of_entity?_eq_none (entity?_eq_none_iff.2 ⟨hamp, hreserved⟩),
      List.singleton_append, ih htail]

/-! ## What escaping changes -/

theorem one_lt_length_written (h : place.entity? c ≠ none) : 1 < (place.written c).length := by
  obtain ⟨more, hwritten, hmore, -⟩ := exists_written_eq_cons h
  have hpos := List.length_pos_iff.2 hmore
  rw [hwritten, List.length_cons]
  omega

theorem length_le_length_flatMap_written (place : Place) (cs : List Char) :
    cs.length ≤ (cs.flatMap place.written).length := by
  induction cs with
  | nil => exact Nat.le_refl 0
  | cons c cs ih =>
    rw [List.flatMap_cons, List.length_append, List.length_cons]
    by_cases hentity : place.entity? c = none
    · rw [written_of_entity?_eq_none hentity, List.length_singleton]
      omega
    · have hlong := one_lt_length_written hentity
      omega

/-- Writing changes characters unless each of them stands for itself. -/
theorem flatMap_written_eq_self_iff :
    cs.flatMap place.written = cs ↔ ∀ c ∈ cs, place.entity? c = none := by
  induction cs with
  | nil => simp
  | cons c cs ih =>
    rw [List.forall_mem_cons, List.flatMap_cons]
    by_cases hentity : place.entity? c = none
    · rw [written_of_entity?_eq_none hentity, List.singleton_append, List.cons_inj_right, ih]
      exact (and_iff_right hentity).symm
    · refine iff_of_false (fun heq => ?_) fun h => hentity h.1
      -- the text has grown
      have hlength := congrArg List.length heq
      have hlong := one_lt_length_written hentity
      have hrest := length_le_length_flatMap_written place cs
      rw [List.length_append, List.length_cons] at hlength
      omega

/-- Written text has something to escape if the text had. -/
theorem forall_mem_flatMap_written_iff :
    (∀ d ∈ cs.flatMap place.written, place.entity? d = none) ↔
      ∀ c ∈ cs, place.entity? c = none := by
  constructor
  · intro h c hc
    refine Decidable.byContradiction fun hentity => ?_
    -- an entity begins with an ampersand, which is itself to be escaped
    obtain ⟨more, hwritten, -⟩ := exists_written_eq_cons hentity
    have hmem : '&' ∈ place.written c := by
      rw [hwritten]
      exact List.mem_cons_self
    exact (entity?_eq_none_iff.1 (h '&' (List.mem_flatMap.2 ⟨c, hc, hmem⟩))).1 rfl
  · intro h
    rwa [flatMap_written_eq_self_iff.2 h]

theorem escaped_eq_self_iff {text : String} :
    place.escaped text = text ↔ ∀ c ∈ text.toList, place.entity? c = none := by
  rw [← String.toList_inj, toList_escaped, flatMap_written_eq_self_iff]

/-! ## Escaping, as a correspondence of texts -/

/-- Escaping is safe and loses nothing. Escaped text is admitted at its place and decodes to the
text, so that escaping is injective. Exactly the texts that the place admits are escaped ones, and
escaping what such a text decodes to gives it back. Escaping twice is escaping once only where there
is nothing to escape. -/
theorem escaped_lossless (place : Place) :
    (∀ text, place.Admits (place.escaped text).toList ∧
      place.decode (place.escaped text).toList = text.toList) ∧
    Function.Injective place.escaped ∧
    (∀ html, place.Admits html.toList ↔ ∃ text, place.escaped text = html) ∧
    (∀ html, place.Admits html.toList ↔
      place.escaped (String.ofList (place.decode html.toList)) = html) ∧
    ∀ text, place.escaped (place.escaped text) = place.escaped text ↔
      ∀ c ∈ text.toList, c ≠ '&' ∧ c ∉ place.reserved := by
  have hadmits : ∀ text, place.Admits (place.escaped text).toList := by
    intro text
    rw [toList_escaped]
    exact admits_flatMap_written place text.toList
  have hback : ∀ html, place.Admits html.toList →
      place.escaped (String.ofList (place.decode html.toList)) = html := by
    intro html h
    apply String.toList_inj.1
    rw [toList_escaped, String.toList_ofList, flatMap_written_decode h]
  refine ⟨fun text => ⟨hadmits text, decode_escaped place text⟩, ?_, ?_, ?_, ?_⟩
  · intro text other heq
    apply String.toList_inj.1
    rw [← decode_escaped place text, heq, decode_escaped place other]
  · refine fun html => ⟨fun h => ⟨_, hback html h⟩, ?_⟩
    rintro ⟨text, rfl⟩
    exact hadmits text
  · refine fun html => ⟨hback html, fun heq => ?_⟩
    rw [← heq]
    exact hadmits _
  · intro text
    rw [escaped_eq_self_iff, toList_escaped, forall_mem_flatMap_written_iff]
    simp only [entity?_eq_none_iff]

/-- Text that looks escaped is escaped again. -/
example : Place.content.escaped "&amp;" = "&amp;amp;" := by decide

end Place

end MarkdownHtml
