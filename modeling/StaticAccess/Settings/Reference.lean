/-!
# References in values

A value may refer to variables: a dollar sign and a name in braces stand for the value of the name.
Behind the name, a colon and a hyphen may introduce the text that stands for a name without a value;
otherwise nothing stands for it.

This models the references in the values of `.env` files. The reader takes no other form of them.

## Main definitions

- `Reference.read?`: the reference that leads a text.
- `Reference.expand`: a text with its references replaced.
- `Reference.Free`: a text has no references.

## Main results

- `Reference.expand_of_free`: a text without references stands for itself.
-/

namespace StaticAccess

/-- A reference to a variable. -/
structure Reference where
  /-- The name of the variable. -/
  name : List Char
  /-- The text that stands for a name without a value. -/
  default : List Char

namespace Reference

/-- The reference whose name leads a text, and what follows it. -/
def named? (text : List Char) : Option (Reference × List Char) :=
  let name := text.takeWhile fun c => c ≠ '\x7d' && c ≠ ':'
  match text.dropWhile fun c => c ≠ '\x7d' && c ≠ ':' with
  | '\x7d' :: rest => some (⟨name, []⟩, rest)
  | ':' :: '-' :: rest =>
    match rest.dropWhile (· ≠ '\x7d') with
    | _ :: after => some (⟨name, rest.takeWhile (· ≠ '\x7d')⟩, after)
    | [] => none
  | _ => none

/-- The reference that leads a text, and what follows it. -/
def read? : List Char → Option (Reference × List Char)
  | '$' :: '\x7b' :: text => named? text
  | _ => none

theorem length_lt_of_named? {text rest : List Char} {r : Reference}
    (h : named? text = some (r, rest)) : rest.length < text.length := by
  have ht := (List.dropWhile_sublist (fun c => c ≠ '\x7d' && c ≠ ':') (l := text)).length_le
  simp only [named?] at h
  split at h
  · next hd =>
    cases h
    rw [hd, List.length_cons] at ht
    omega
  · next rest' hd =>
    have hr := (List.dropWhile_sublist (· ≠ '\x7d') (l := rest')).length_le
    rw [hd, List.length_cons, List.length_cons] at ht
    split at h
    · next ha =>
      cases h
      rw [ha, List.length_cons] at hr
      omega
    · cases h
  · cases h

/-- What follows a reference is shorter than the text. -/
theorem length_lt_of_read? {text rest : List Char} {r : Reference}
    (h : read? text = some (r, rest)) : rest.length < text.length := by
  unfold read? at h
  split at h
  · have := length_lt_of_named? h
    simp only [List.length_cons]
    omega
  · cases h

/-- A text that does not begin with a dollar sign does not begin with a reference. -/
theorem read?_of_head {c : Char} {text : List Char} (h : c ≠ '$') : read? (c :: text) = none := by
  unfold read?
  split
  · next he => exact absurd (List.cons.inj he).1 h
  · rfl

/-- A text with its references replaced by the values of variables. -/
def expand (valueOf : String → Option String) (text : List Char) : List Char :=
  match _h : read? text with
  | some (r, rest) =>
    ((valueOf (.ofList r.name)).elim r.default String.toList) ++ expand valueOf rest
  | none =>
    match text with
    | [] => []
    | c :: text => c :: expand valueOf text
termination_by text.length
decreasing_by
  · exact length_lt_of_read? _h
  · simp

/-- No part of a text is a reference. -/
def Free (text : List Char) : Prop := ∀ rest, rest <:+ text → read? rest = none

/-- A text without references stands for itself. -/
theorem expand_of_free {valueOf : String → Option String} {text : List Char} (h : Free text) :
    expand valueOf text = text := by
  induction text with
  | nil =>
    rw [expand]
    rfl
  | cons c text ih =>
    have hr : read? (c :: text) = none := h _ List.suffix_rfl
    have hrest : Free text := fun rest hs => h rest (hs.trans (List.suffix_cons c text))
    rw [expand]
    split
    · next hs =>
      rw [hr] at hs
      cases hs
    · exact congrArg (c :: ·) (ih hrest)

/-- A text without dollar signs has no references. -/
theorem free_of_notMem {text : List Char} (h : '$' ∉ text) : Free text := by
  rintro rest ⟨before, rfl⟩
  cases rest with
  | nil => rfl
  | cons c rest =>
    refine read?_of_head ?_
    rintro rfl
    exact h (List.mem_append_right _ List.mem_cons_self)

end Reference

end StaticAccess
