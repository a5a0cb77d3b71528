import Mathlib.Data.List.Basic
import MarkdownHtml.Json.Reader
import MarkdownHtml.Json.Writer

/-!
# JSON that is written can be read

The reader takes from the front of its input exactly what the writer makes of a value, and leaves
what stands behind (`value?_write`). Only a number could go on in what follows it, so the rest must
not go on with one: `endsNumber`. The reader's fuel is twice the length of its input, which is more
than it can go down, so every value comes back from its text (`read?_write`), and different values
have different texts (`write_injective`), unless foreign ones are among them.
-/

namespace MarkdownHtml.Json

/-! ## Strings -/

section Strings

/-- A letter behind a backslash stands for one character. -/
theorem string?_escaped {letter c : Char} (h : escaped? letter = some c) (rest : List Char) :
    string? ('\\' :: letter :: rest) = (string? rest).map (consChar c) := by
  have hletter : letter ≠ 'u' := by
    rintro rfl
    cases h
  rw [string?]
  · rw [h]
    rfl
  · exact fun _ _ _ _ _ heq _ => hletter heq

theorem unit?_hexDigit :
    ∀ n < 0x20, unit? '0' '0' (hexDigit (n / 16)) (hexDigit (n % 16)) = some n := by
  decide

/-- A control character that is written by its number. -/
theorem string?_control {c : Char} (h : c.toNat < 0x20) (rest : List Char) :
    string? ('\\' :: 'u' :: '0' :: '0' :: hexDigit (c.toNat / 16) :: hexDigit (c.toNat % 16) ::
      rest) = (string? rest).map (consChar c) := by
  have hhigh : isHigh c.toNat = false := by
    simp only [isHigh, Bool.and_eq_false_iff, decide_eq_false_iff_not]
    omega
  have hlow : isLow c.toNat = false := by
    simp only [isLow, Bool.and_eq_false_iff, decide_eq_false_iff_not]
    omega
  rw [string?, unit?_hexDigit _ h]
  simp only [Option.bind_eq_bind, Option.bind_some, hhigh, hlow, Bool.false_eq_true, if_false,
    Char.ofNat_toNat]

/-- Other characters stand for themselves. -/
theorem string?_plain {c : Char} (hquote : c ≠ '"') (hbackslash : c ≠ '\\')
    (hplain : ¬ c.toNat < 0x20) (rest : List Char) :
    string? (c :: rest) = (string? rest).map (consChar c) := by
  rw [string?]
  · rw [if_neg (not_or.2 ⟨hplain, hbackslash⟩)]
  · exact hquote
  · exact fun _ _ _ _ _ heq _ => hbackslash heq
  · exact fun _ _ heq _ => hbackslash heq

/-- The reader takes one character from what the writer makes of it. -/
theorem string?_characterText (c : Char) (rest : List Char) :
    string? (characterText c ++ rest) = (string? rest).map (consChar c) := by
  unfold characterText
  split
  · exact string?_escaped rfl rest
  · exact string?_escaped rfl rest
  · exact string?_escaped rfl rest
  · exact string?_escaped rfl rest
  · exact string?_escaped rfl rest
  · exact string?_escaped rfl rest
  · exact string?_escaped rfl rest
  · rename_i hquote hbackslash _ _ _ _ _
    split
    · rename_i hcontrol
      exact string?_control hcontrol rest
    · rename_i hplain
      exact string?_plain hquote hbackslash hplain rest

/-- A string in quotes is read up to its closing quote. -/
theorem string?_flatMap (cs rest : List Char) :
    string? (cs.flatMap characterText ++ '"' :: rest) = some (some cs, rest) := by
  induction cs with
  | nil => rw [List.flatMap_nil, List.nil_append, string?]
  | cons c cs ih =>
    rw [List.flatMap_cons, List.append_assoc, string?_characterText, ih]
    rfl

end Strings

/-! ## Numbers -/

section Numbers

/-- What may follow a number: nothing that could belong to it. -/
def endsNumber (rest : List Char) : Prop :=
  ∀ c ∈ rest.head?, c.isDigit = false ∧ c ≠ '.' ∧ c ≠ 'e' ∧ c ≠ 'E'

theorem endsNumber_cons {c : Char} (hc : c.isDigit = false ∧ c ≠ '.' ∧ c ≠ 'e' ∧ c ≠ 'E')
    (rest : List Char) : endsNumber (c :: rest) := by
  rintro _ ⟨⟩
  exact hc

theorem digits?_append {ds rest : List Char} (hne : ds ≠ []) (hds : ∀ c ∈ ds, c.isDigit = true)
    (hrest : endsNumber rest) : digits? (ds ++ rest) = some (ds, rest) := by
  have htake : (ds ++ rest).takeWhile Char.isDigit = ds := by
    rw [List.takeWhile_append_of_pos hds]
    cases rest with
    | nil => rw [List.takeWhile_nil, List.append_nil]
    | cons c rest =>
      have hc : c.isDigit = false := (hrest c rfl).1
      rw [List.takeWhile_cons_of_neg (by simp [hc]), List.append_nil]
  unfold digits?
  rw [htake]
  cases ds with
  | nil => exact absurd rfl hne
  | cons d ds => simp

theorem skipFraction?_of_endsNumber {rest : List Char} (hrest : endsNumber rest) :
    skipFraction? rest = some rest := by
  cases rest with
  | nil => rfl
  | cons c rest =>
    have hc := (hrest c rfl).2.1
    rw [skipFraction?]
    exact fun _ heq => hc (List.cons.inj heq).1

theorem skipExponent?_of_endsNumber {rest : List Char} (hrest : endsNumber rest) :
    skipExponent? rest = some rest := by
  cases rest with
  | nil => rfl
  | cons c rest =>
    obtain ⟨-, -, he, hE⟩ := hrest c rfl
    unfold skipExponent?
    exact if_neg (not_or.2 ⟨he, hE⟩)

theorem digitChar_ne_zero : ∀ n < 10, n ≠ 0 → Nat.digitChar n ≠ '0' := by
  decide

/-- A number other than zero is not written with a zero in front. -/
theorem head?_toDigits {n : Nat} (hn : n ≠ 0) : (Nat.toDigits 10 n).head? ≠ some '0' := by
  induction n using Nat.strongRecOn with
  | ind n ih =>
    by_cases hlt : n < 10
    · rw [Nat.toDigits_of_lt_base hlt]
      exact fun heq => digitChar_ne_zero n hlt hn (Option.some.inj heq)
    · have hne : n / 10 ≠ 0 := by omega
      rw [Nat.toDigits_of_base_le (by omega) (by omega), List.head?_append_of_ne_nil _
        Nat.toDigits_ne_nil]
      exact ih (n / 10) (by omega) hne

/-- A number begins with a digit. -/
theorem exists_cons_toDigits (n : Nat) :
    ∃ d ds, Nat.toDigits 10 n = d :: ds ∧ d.isDigit = true := by
  obtain ⟨d, ds, hcons⟩ := List.exists_cons_of_ne_nil (Nat.toDigits_ne_nil (n := n) (b := 10))
  have hmem : d ∈ Nat.toDigits 10 n := hcons ▸ List.mem_cons_self
  exact ⟨d, ds, hcons, Nat.isDigit_of_mem_toDigits (by decide) (by decide) hmem⟩

theorem toDigits_append_ne (n : Nat) {c : Char} (hc : c.isDigit = false) (rest cs : List Char) :
    Nat.toDigits 10 n ++ rest ≠ c :: cs := by
  intro heq
  obtain ⟨d, ds, hcons, hd⟩ := exists_cons_toDigits n
  rw [hcons, List.cons_append] at heq
  rw [(List.cons.inj heq).1, hc] at hd
  exact Bool.false_ne_true hd

theorem number?_toDigits (n : Nat) {rest : List Char} (hrest : endsNumber rest) :
    number? (Nat.toDigits 10 n ++ rest) = some (natural n, rest) := by
  have hdigits : ∀ c ∈ Nat.toDigits 10 n, c.isDigit = true :=
    fun c hc => Nat.isDigit_of_mem_toDigits (by decide) (by decide) hc
  have hread := digits?_append Nat.toDigits_ne_nil hdigits hrest
  have hzero : ¬ ((Nat.toDigits 10 n).head? = some '0' ∧ (Nat.toDigits 10 n).length ≠ 1) := by
    rintro ⟨hhead, hlength⟩
    by_cases hn : n = 0
    · subst hn
      exact hlength rfl
    · exact head?_toDigits hn hhead
  have hvalue : (Nat.toDigits 10 n).foldl (fun n c => 10 * n + (c.toNat - '0'.toNat)) 0 = n := by
    rw [← Nat.ofDigitChars_eq_foldl, Nat.ofDigitChars_ten_toDigits]
  unfold number?
  split
  rename_i negative cs hcut
  split at hcut
  · rename_i tail heq
    exact absurd heq (toDigits_append_ne n (by decide) rest tail)
  · obtain ⟨rfl, rfl⟩ := Prod.mk.inj hcut
    simp only [Option.bind_eq_bind, hread, Option.bind_some, if_neg hzero,
      skipFraction?_of_endsNumber hrest, skipExponent?_of_endsNumber hrest, hvalue,
      Bool.false_eq_true, ne_eq, not_true_eq_false, or_self, if_false]

end Numbers

/-! ## Values -/

/-- A value with nothing foreign in it. -/
inductive Whole : Json → Prop where
  | null : Whole null
  | boolean (value : Bool) : Whole (boolean value)
  | natural (value : Nat) : Whole (natural value)
  | text (content : String) : Whole (text content)
  | array {elements : List Json} (h : ∀ element ∈ elements, Whole element) : Whole (array elements)
  | object {members : List (String × Json)} (h : ∀ member ∈ members, Whole member.2) :
    Whole (object members)

section Values

/-- What may stand between the parts of a value. -/
def isSpace (c : Char) : Bool := c == ' ' || c == '\n' || c == '\t' || c == '\r'

theorem skipSpace_cons {c : Char} (hc : isSpace c = false) (rest : List Char) :
    skipSpace (c :: rest) = c :: rest :=
  List.dropWhile_cons_of_neg (by rw [← isSpace, hc]; exact Bool.false_ne_true)

theorem quoted_toList (content : String) :
    (quoted content).toList = '"' :: (content.toList.flatMap characterText ++ ['"']) :=
  String.toList_ofList

theorem write_natural_toList (n : Nat) : (write (natural n)).toList = Nat.toDigits 10 n := by
  rw [write, Nat.toString_eq_ofList_toDigits, String.toList_ofList]

theorem write_array_toList (elements : List Json) : (write (array elements)).toList =
    '[' :: ((Text.separated "," (writeEach elements)).toList ++ [']']) := by
  rw [write, String.toList_append, String.toList_append]
  rfl

theorem write_object_toList (members : List (String × Json)) : (write (object members)).toList =
    '\x7b' :: ((Text.separated "," (writeMembers members)).toList ++ ['\x7d']) := by
  rw [write, String.toList_append, String.toList_append]
  rfl

theorem separated_toList (text next : String) (more : List String) :
    (Text.separated "," (text :: next :: more)).toList =
      text.toList ++ ',' :: (Text.separated "," (next :: more)).toList := by
  rw [Text.separated, String.toList_append, String.toList_append, List.append_assoc]
  rfl

/-- Texts in a row begin as the first of them does. -/
theorem exists_cons_separated {text : String} {c : Char} {cs : List Char}
    (htext : text.toList = c :: cs) (more : List String) :
    ∃ ds, (Text.separated "," (text :: more)).toList = c :: ds := by
  cases more with
  | nil => exact ⟨cs, htext⟩
  | cons next more => exact ⟨_, by rw [separated_toList, htext, List.cons_append]⟩

/-- The text of a value begins with no space, and not as the end of an array does. -/
theorem exists_cons_write (json : Json) :
    ∃ c cs, (write json).toList = c :: cs ∧ isSpace c = false ∧ c ≠ ']' := by
  cases json with
  | null => exact ⟨'n', _, rfl, by decide, by decide⟩
  | foreign => exact ⟨'n', _, rfl, by decide, by decide⟩
  | boolean value =>
    cases value
    · exact ⟨'f', _, rfl, by decide, by decide⟩
    · exact ⟨'t', _, rfl, by decide, by decide⟩
  | natural n =>
    obtain ⟨d, ds, hcons, hd⟩ := exists_cons_toDigits n
    refine ⟨d, ds, by rw [write_natural_toList, hcons], ?_, ?_⟩
    · by_contra hspace
      simp only [isSpace, Bool.not_eq_false, Bool.or_eq_true, beq_iff_eq] at hspace
      obtain ((rfl | rfl) | rfl) | rfl := hspace <;> cases hd
    · rintro rfl
      cases hd
  | text content =>
    exact ⟨'"', _, by rw [write, quoted_toList], by decide, by decide⟩
  | array elements =>
    exact ⟨'[', _, write_array_toList elements, by decide, by decide⟩
  | object members =>
    exact ⟨'\x7b', _, write_object_toList members, by decide, by decide⟩

/-- Whether the reader, given fuel enough, takes a value off the front of its text. -/
def ReadsBack (json : Json) : Prop :=
  ∀ rest fuel, endsNumber rest → 2 * (write json).toList.length ≤ fuel →
    value? fuel ((write json).toList ++ rest) = some (json, rest)

theorem readsBack_natural (n : Nat) : ReadsBack (natural n) := by
  intro rest fuel hrest hfuel
  rw [write_natural_toList] at hfuel ⊢
  obtain ⟨d, ds, hcons, hd⟩ := exists_cons_toDigits n
  obtain ⟨fuel, rfl⟩ := Nat.exists_eq_succ_of_ne_zero (n := fuel) (by
    rw [hcons, List.length_cons] at hfuel
    omega)
  have hskip : skipSpace (Nat.toDigits 10 n ++ rest) = Nat.toDigits 10 n ++ rest := by
    obtain ⟨c, cs, hwrite, hc, -⟩ := exists_cons_write (natural n)
    rw [← write_natural_toList, hwrite, List.cons_append, skipSpace_cons hc]
  rw [value?, hskip]
  -- no other kind of value begins with a digit
  split
  iterate 6
    · rename_i heq
      exact absurd heq (toDigits_append_ne n (by decide) rest _)
  · exact number?_toDigits n hrest

theorem readsBack_text (content : String) : ReadsBack (text content) := by
  intro rest fuel _ hfuel
  rw [write, quoted_toList] at hfuel ⊢
  obtain ⟨fuel, rfl⟩ := Nat.exists_eq_succ_of_ne_zero (n := fuel) (by
    rw [List.length_cons] at hfuel
    omega)
  have hread := string?_flatMap content.toList rest
  rw [value?, List.cons_append, List.append_assoc, skipSpace_cons (by decide)]
  show (string? _).map _ = _
  rw [List.singleton_append, hread, Option.map_some]
  simp only [Option.elim_some, String.ofList_toList]

/-- A word is read as the value that it names. -/
theorem readsBack_word {json : Json} (hword : json = null ∨ ∃ value, json = boolean value) :
    ReadsBack json := by
  intro rest fuel _ hfuel
  obtain rfl | ⟨_ | _, rfl⟩ := hword
  all_goals
    obtain ⟨fuel, rfl⟩ := Nat.exists_eq_succ_of_ne_zero (n := fuel) (by
      rintro rfl
      cases hfuel)
    rfl

/-- The elements of an array are read up to its bracket. -/
theorem elements?_writeEach {elements : List Json} (hne : elements ≠ [])
    (h : ∀ element ∈ elements, ReadsBack element) (rest : List Char) (fuel : Nat)
    (hfuel : 2 * (Text.separated "," (writeEach elements)).toList.length < fuel) :
    elements? fuel ((Text.separated "," (writeEach elements)).toList ++ ']' :: rest) =
      some (elements, rest) := by
  induction elements generalizing fuel with
  | nil => exact absurd rfl hne
  | cons first more ih =>
    obtain ⟨fuel, rfl⟩ := Nat.exists_eq_succ_of_ne_zero (Nat.ne_zero_of_lt hfuel)
    have hfirst := h first List.mem_cons_self
    cases more with
    | nil =>
      have hread := hfirst (']' :: rest) fuel (endsNumber_cons (by decide) rest)
        (Nat.lt_succ_iff.1 hfuel)
      rw [writeEach, writeEach, Text.separated, elements?, hread]
      rfl
    | cons next more =>
      rw [writeEach, writeEach, separated_toList, ← writeEach] at hfuel ⊢
      rw [List.length_append, List.length_cons] at hfuel
      rw [List.append_assoc, List.cons_append]
      have hread := hfirst (',' :: ((Text.separated "," (writeEach (next :: more))).toList ++
        ']' :: rest)) fuel (endsNumber_cons (by decide) _) (by omega)
      have hmore := ih (List.cons_ne_nil _ _) (fun e he => h e (List.mem_cons_of_mem _ he)) fuel
        (by omega)
      rw [elements?, hread]
      show (elements? fuel _).bind _ = _
      rw [hmore]
      rfl

theorem member_toList (name : String) (value : Json) :
    (quoted name ++ ":" ++ write value).toList = '"' ::
      (name.toList.flatMap characterText ++ '"' :: ':' :: (write value).toList) := by
  rw [String.toList_append, String.toList_append, quoted_toList, List.append_assoc,
    List.cons_append, List.append_assoc]
  rfl

/-- A member is read with its name, its colon and its value. A comma comes next, or the end. -/
theorem members?_member {name : String} {value : Json} (hvalue : ReadsBack value) (rest : List Char)
    (fuel : Nat) (hrest : endsNumber rest)
    (hfuel : 2 * (quoted name ++ ":" ++ write value).toList.length ≤ fuel) :
    members? (fuel + 1) ((quoted name ++ ":" ++ write value).toList ++ rest) =
      match skipSpace rest with
      | ',' :: rest => do
        let (more, rest) ← members? fuel rest
        some ((some name.toList, value) :: more, rest)
      | '\x7d' :: rest => some ([(some name.toList, value)], rest)
      | _ => none := by
  rw [member_toList] at hfuel ⊢
  simp only [List.length_cons, List.length_append] at hfuel
  have hread := hvalue rest fuel hrest (by omega)
  rw [members?, List.cons_append, List.append_assoc, skipSpace_cons (by decide)]
  show (string? _).bind _ = _
  rw [List.cons_append, string?_flatMap]
  show (value? fuel ((write value).toList ++ rest)).bind _ = _
  rw [hread]
  rfl

/-- The members of an object are read up to its brace. -/
theorem members?_writeMembers {members : List (String × Json)} (hne : members ≠ [])
    (h : ∀ member ∈ members, ReadsBack member.2) (rest : List Char) (fuel : Nat)
    (hfuel : 2 * (Text.separated "," (writeMembers members)).toList.length < fuel) :
    members? fuel ((Text.separated "," (writeMembers members)).toList ++ '\x7d' :: rest) =
      some (members.map fun member => (some member.1.toList, member.2), rest) := by
  induction members generalizing fuel with
  | nil => exact absurd rfl hne
  | cons first more ih =>
    obtain ⟨fuel, rfl⟩ := Nat.exists_eq_succ_of_ne_zero (Nat.ne_zero_of_lt hfuel)
    have hfirst := h first List.mem_cons_self
    cases more with
    | nil =>
      rw [writeMembers, writeMembers, Text.separated] at hfuel ⊢
      rw [members?_member hfirst _ _ (endsNumber_cons (by decide) rest) (Nat.lt_succ_iff.1 hfuel)]
      rfl
    | cons next more =>
      have hwrite : writeMembers (first :: next :: more) =
          (quoted first.1 ++ ":" ++ write first.2) :: writeMembers (next :: more) := rfl
      have hseparated := separated_toList (quoted first.1 ++ ":" ++ write first.2)
        (quoted next.1 ++ ":" ++ write next.2) (writeMembers more)
      have hmore := ih (List.cons_ne_nil _ _) (fun m hm => h m (List.mem_cons_of_mem _ hm)) fuel
      rw [writeMembers] at hmore
      rw [hwrite, writeMembers, hseparated] at hfuel ⊢
      rw [List.length_append, List.length_cons] at hfuel
      rw [List.append_assoc, List.cons_append,
        members?_member hfirst _ _ (endsNumber_cons (by decide) _) (by omega)]
      show (members? fuel _).bind _ = _
      rw [hmore (by omega)]
      rfl

theorem ofMembers_map (members : List (String × Json)) :
    ofMembers (members.map fun member => (some member.1.toList, member.2)) = object members := by
  have hnames : (members.map fun member => (some member.1.toList, member.2)).mapM
      (fun member => member.1.map fun name => (String.ofList name, member.2)) = some members := by
    induction members with
    | nil => rfl
    | cons member members ih =>
      rw [List.map_cons, List.mapM_cons, ih, Option.map_some, String.ofList_toList]
      rfl
  unfold ofMembers
  rw [hnames]

theorem readsBack_array {elements : List Json} (h : ∀ element ∈ elements, ReadsBack element) :
    ReadsBack (array elements) := by
  intro rest fuel _ hfuel
  rw [write_array_toList] at hfuel ⊢
  simp only [List.length_cons, List.length_append, List.length_nil] at hfuel
  obtain ⟨fuel, rfl⟩ := Nat.exists_eq_succ_of_ne_zero (n := fuel) (by omega)
  rw [value?, List.cons_append, List.append_assoc, skipSpace_cons (by decide)]
  cases elements with
  | nil => rfl
  | cons first more =>
    have hread := elements?_writeEach (List.cons_ne_nil first more) h rest fuel (by omega)
    obtain ⟨c, cs, hfirst, hspace, hbracket⟩ := exists_cons_write first
    obtain ⟨ds, hcons⟩ := exists_cons_separated hfirst (writeEach more)
    rw [writeEach, hcons, List.cons_append] at hread ⊢
    simp only [skipSpace_cons hspace, List.singleton_append]
    split
    · rename_i heq
      exact absurd (List.cons.inj heq).1 hbracket
    · rw [hread]
      rfl

theorem readsBack_object {members : List (String × Json)}
    (h : ∀ member ∈ members, ReadsBack member.2) : ReadsBack (object members) := by
  intro rest fuel _ hfuel
  rw [write_object_toList] at hfuel ⊢
  simp only [List.length_cons, List.length_append, List.length_nil] at hfuel
  obtain ⟨fuel, rfl⟩ := Nat.exists_eq_succ_of_ne_zero (n := fuel) (by omega)
  rw [value?, List.cons_append, List.append_assoc, skipSpace_cons (by decide)]
  cases members with
  | nil => rfl
  | cons first more =>
    have hread := members?_writeMembers (List.cons_ne_nil first more) h rest fuel (by omega)
    obtain ⟨ds, hcons⟩ := exists_cons_separated (member_toList first.1 first.2) (writeMembers more)
    rw [writeMembers, hcons, List.cons_append] at hread ⊢
    show (members? fuel ('"' :: (ds ++ '\x7d' :: rest))).map _ = _
    rw [hread, Option.map_some]
    simp only [ofMembers_map]

/-- The reader takes from the front of a text what the writer made of a value. -/
theorem value?_write {json : Json} (h : json.Whole) : ReadsBack json := by
  induction h with
  | null => exact readsBack_word (.inl rfl)
  | boolean value => exact readsBack_word (.inr ⟨value, rfl⟩)
  | natural n => exact readsBack_natural n
  | text content => exact readsBack_text content
  | array _ ih => exact readsBack_array ih
  | object _ ih => exact readsBack_object ih

end Values

/-- A value without foreign parts comes back from its text. -/
theorem read?_write {json : Json} (h : json.Whole) : read? (write json) = some json := by
  have hread := value?_write h [] (2 * (write json).toList.length + 2) (by rintro c ⟨⟩) (by omega)
  rw [List.append_nil] at hread
  unfold read?
  simp only [hread]
  rfl

/-- Values without foreign parts are known by their texts. -/
theorem write_injective {a b : Json} (ha : a.Whole) (hb : b.Whole) (h : write a = write b) :
    a = b := by
  have hread := read?_write ha
  rw [h, read?_write hb] at hread
  exact (Option.some.inj hread).symm

end MarkdownHtml.Json
