import MarkdownHtml.Text.Category

/-!
# Environment references

A value may refer to environment variables: as `$NAME`, as `${NAME}`, or as `${NAME:-default}`.
`Segment.ofValue` cuts a value into literal stretches and references, and `Segment.expand` says what
each of them stands for. The text put in for a reference is not looked at again.
-/

namespace MarkdownHtml

/-- The variables of an environment, with their values. -/
abbrev Environment := List (String × String)

/-- The value of a variable: what follows the name and an equals sign in the first entry, written
`NAME=VALUE`, that begins with them. -/
def Environment.value? (environment : Environment) (name : String) : Option String :=
  environment.findSome? fun (key, value) =>
    let entry := (key ++ "=" ++ value).toList
    let lead := (name ++ "=").toList
    if lead.isPrefixOf entry then some (String.ofList (entry.drop lead.length)) else none

/-- A segment of a value. -/
inductive Segment where
  /-- Text that stands for itself. -/
  | literal (text : List Char)
  /-- A reference `$NAME`. -/
  | plain (name : List Char)
  /-- A reference `${NAME}`, or `${NAME:-default}`. -/
  | braced (name : List Char) (default? : Option (List Char))
deriving DecidableEq, Repr

namespace Segment

/-- The characters of a name that stands without braces. -/
def isNameChar (c : Char) : Bool := Text.isAlphanumeric c || c == '_'

/-- Splits a run of characters before the first `:-` in it. -/
def splitDefault : List Char → Option (List Char × List Char)
  | ':' :: '-' :: rest => some ([], rest)
  | c :: rest => (splitDefault rest).map fun (before, after) => (c :: before, after)
  | [] => none

/-- The reference whose braces hold `inside`. A name comes first: with `:-` at the very beginning all
of it is the name. -/
def ofBraces (inside : List Char) : Segment :=
  match splitDefault inside with
  | some (name, default) => if name.isEmpty then .braced inside none else .braced name (some default)
  | none => .braced inside none

/-- The first segment of a value, and the rest. -/
def next : List Char → Option (Segment × List Char)
  | [] => none
  | '$' :: '{' :: rest =>
    match rest.dropWhile (· != '}') with
    | _ :: after => some (ofBraces (rest.takeWhile (· != '}')), after)
    | [] => some (.literal ['$', '{'], rest)
  | '$' :: '$' :: rest => some (.literal ['$'], rest)
  | '$' :: rest =>
    match rest.takeWhile isNameChar with
    | [] => some (.literal ['$'], rest)
    | name => some (.plain name, rest.dropWhile isNameChar)
  | c :: rest =>
    some (.literal (c :: rest.takeWhile (· != '$')), rest.dropWhile (· != '$'))

/-- Dropping characters makes no run longer. -/
private theorem length_dropWhile_le (p : Char → Bool) (cs : List Char) :
    (cs.dropWhile p).length ≤ cs.length :=
  (List.dropWhile_suffix p).length_le

/-- What is left after a segment is shorter. -/
theorem length_next {cs rest : List Char} {segment : Segment} (h : next cs = some (segment, rest)) :
    rest.length < cs.length := by
  unfold next at h
  split at h
  · exact absurd h (by simp)
  · next tail =>
    have hle := length_dropWhile_le (· != '}') tail
    split at h
    · next heq =>
      obtain ⟨-, rfl⟩ := Prod.mk.inj (Option.some.inj h)
      rw [heq] at hle
      simp only [List.length_cons] at hle ⊢
      omega
    · obtain ⟨-, rfl⟩ := Prod.mk.inj (Option.some.inj h)
      simp only [List.length_cons]
      omega
  · obtain ⟨-, rfl⟩ := Prod.mk.inj (Option.some.inj h)
    simp only [List.length_cons]
    omega
  · next tail _ _ =>
    have hle := length_dropWhile_le isNameChar tail
    split at h
    · obtain ⟨-, rfl⟩ := Prod.mk.inj (Option.some.inj h)
      simp only [List.length_cons]
      omega
    · obtain ⟨-, rfl⟩ := Prod.mk.inj (Option.some.inj h)
      simp only [List.length_cons]
      omega
  · next tail _ _ _ =>
    have hle := length_dropWhile_le (· != '$') tail
    obtain ⟨-, rfl⟩ := Prod.mk.inj (Option.some.inj h)
    simp only [List.length_cons]
    omega

/-- The segments of a value, in order. -/
def ofValue (cs : List Char) : List Segment :=
  match h : next cs with
  | none => []
  | some (segment, rest) =>
    have := length_next h
    segment :: ofValue rest
termination_by cs.length

/-- What a segment stands for, or the name of the variable that it misses. A default is used only for
a variable that is not set: a value is put in also when it is empty. -/
def expand (environment : Environment) : Segment → Except String String
  | .literal text => .ok (String.ofList text)
  | .plain name =>
    match environment.value? (String.ofList name) with
    | some value => .ok value
    | none => .error (String.ofList name)
  | .braced name default? =>
    match environment.value? (String.ofList name), default? with
    | some value, _ => .ok value
    | none, some default => .ok (String.ofList default)
    | none, none => .error (String.ofList name)

/-- The segments expanded in a row, or the name of the first variable that is missing. -/
def expandAll (environment : Environment) : List Segment → Except String String
  | [] => .ok ""
  | segment :: rest => do return (← segment.expand environment) ++ (← expandAll environment rest)

end Segment

/-- A value with its references expanded, or the name of the first variable that is missing. A value
without a dollar sign is returned as it is. -/
def Environment.expand (environment : Environment) (value : String) : Except String String :=
  if value.toList.contains '$' then Segment.expandAll environment (Segment.ofValue value.toList)
  else .ok value

end MarkdownHtml
