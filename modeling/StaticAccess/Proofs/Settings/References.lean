import StaticAccess.Proofs.Settings.Precedence

/-!
# References between assignments

A value may refer to the names that are assigned before it. So an assignment to one name may change
the value of another one, and of those that refer to this in turn. A class of names is safe from all
other assignments if the values that are assigned to it refer to nothing beyond the class.

## Main definitions

- `OrderedMap.Agrees`: two maps are the same as far as some keys are concerned.
- `Assignment.Literal`: the value of an assignment has no references.
- `Assignment.RefersTo`: the value of an assignment refers to some names only.
- `Assignment.assign`: the values that names have after one more assignment.

## Main results

- `Assignment.agrees_assign_right`: an assignment to another name does not count.
- `Assignment.agrees_assign`: neither does what other names stand for if nothing refers to them.
- `Assignment.filter_table_last`: a name that is the only one of its class has its last value.
-/

namespace StaticAccess

/-! ## Maps that agree on some keys -/

namespace OrderedMap

variable {α β : Type} [DecidableEq α] {kept : α → Bool} {m n : OrderedMap α β} {k : α}

/-- Two maps have the same entries under some keys, in the same order. -/
def Agrees (kept : α → Bool) (m n : OrderedMap α β) : Prop :=
  m.entries.filter (fun e => kept e.1) = n.entries.filter fun e => kept e.1

theorem lookup_filter (hk : kept k = true) (l : List (α × β)) :
    lookup k (l.filter fun e => kept e.1) = lookup k l := by
  induction l with
  | nil => rfl
  | cons e l ih =>
    rw [List.filter_cons]
    split
    · rw [lookup, lookup, ih]
    · next he =>
      have hne : e.1 ≠ k := by
        rintro rfl
        exact he hk
      rw [ih, lookup, if_neg hne]

namespace Agrees

omit [DecidableEq α] in
/-- Maps that agree on some keys agree on fewer keys. -/
theorem mono {fewer : α → Bool} (h : Agrees kept m n)
    (hfewer : ∀ k, fewer k = true → kept k = true) : Agrees fewer m n := by
  have hfilter (l : List (α × β)) :
      (l.filter fun e => kept e.1).filter (fun e => fewer e.1) = l.filter fun e => fewer e.1 := by
    rw [List.filter_filter]
    refine List.filter_congr fun e _ => ?_
    cases he : fewer e.1 with
    | false => rfl
    | true => rw [hfewer e.1 he, Bool.and_self]
  rw [Agrees, ← hfilter m.entries, h, hfilter]

theorem get?_eq (h : Agrees kept m n) (hk : kept k = true) : m.get? k = n.get? k := by
  rw [get?, ← lookup_filter hk, h, lookup_filter hk, get?]

theorem set (h : Agrees kept m n) (k : α) (b : β) : Agrees kept (m.set k b) (n.set k b) := by
  rw [Agrees, OrderedMap.set, OrderedMap.set, upsert, upsert, filter_place, filter_place, h]

/-- A value under another key does not count. -/
theorem set_right (h : Agrees kept m n) (hk : kept k = false) (b : β) :
    Agrees kept m (n.set k b) := by
  rw [Agrees, OrderedMap.set, upsert, filter_place, hk, if_neg Bool.false_ne_true, h]

end Agrees

/-- Where there is no key but one, its new value is all that is left. -/
theorem place_of_forall {l : List (α × β)} (hnodup : (l.map Prod.fst).Nodup)
    (hl : ∀ e ∈ l, e.1 = k) (b : β) : place k (fun _ => b) l = [(k, b)] := by
  match l with
  | [] => rfl
  | [e] =>
    have he : e.1 = k := hl e List.mem_cons_self
    simp [place, he]
  | e :: e' :: l =>
    have hsame : e.1 = e'.1 := by rw [hl e (by simp), hl e' (by simp)]
    simp [hsame] at hnodup

end OrderedMap

/-! ## References -/

namespace Assignment

/-- The value of an assignment has no references. -/
def Literal (a : Assignment) : Prop := ∀ value ∈ a.2, Reference.Free value.toList

/-- The references in the value of an assignment are to some names only: what it stands for is the
same wherever these names have the same values. -/
def RefersTo (kept : String → Bool) (a : Assignment) : Prop :=
  ∀ value ∈ a.2, ∀ valueOf valueOf' : String → Option String,
    (∀ name, kept name = true → valueOf name = valueOf' name) →
      Reference.expand valueOf value.toList = Reference.expand valueOf' value.toList

/-- The values that names have after one more assignment. -/
def assign (environment : OrderedMap String String) (assigned : OrderedMap String (Option String))
    (a : Assignment) : OrderedMap String (Option String) :=
  assigned.set a.1 (a.2.map fun value =>
    .ofList (Reference.expand (valueOf environment assigned) value.toList))

variable {kept : String → Bool} {environment : OrderedMap String String}
  {assigned assigned' : OrderedMap String (Option String)} {a : Assignment}

theorem table_eq_foldl (environment : OrderedMap String String) (l : List Assignment) :
    table environment l = l.foldl (assign environment) .empty := rfl

theorem Literal.refersTo (h : a.Literal) : a.RefersTo kept := by
  intro value hvalue valueOf valueOf' _
  rw [Reference.expand_of_free (h value hvalue), Reference.expand_of_free (h value hvalue)]

/-- An assignment to another name does not count. -/
theorem agrees_assign_right (h : assigned.Agrees kept assigned') (ha : kept a.1 = false) :
    assigned.Agrees kept (assign environment assigned' a) := h.set_right ha _

theorem agrees_assign (h : assigned.Agrees kept assigned')
    (ha : kept a.1 = true → a.RefersTo kept) :
    (assign environment assigned a).Agrees kept (assign environment assigned' a) := by
  cases hkept : kept a.1 with
  | false => exact (agrees_assign_right (agrees_assign_right h hkept).symm hkept).symm
  | true =>
    have hvalueOf (name : String) (hname : kept name = true) :
        valueOf environment assigned name = valueOf environment assigned' name := by
      rw [valueOf, valueOf, h.get?_eq hname]
    have hvalue : (a.2.map fun value => String.ofList
          (Reference.expand (valueOf environment assigned) value.toList)) =
        a.2.map fun value => String.ofList
          (Reference.expand (valueOf environment assigned') value.toList) :=
      Option.map_congr fun value hmem =>
        congrArg String.ofList (ha hkept value hmem _ _ hvalueOf)
    rw [assign, hvalue]
    exact h.set a.1 _

theorem agrees_foldl_right {l : List Assignment} (h : assigned.Agrees kept assigned')
    (hl : ∀ b ∈ l, kept b.1 = false) :
    assigned.Agrees kept (l.foldl (assign environment) assigned') := by
  induction l generalizing assigned' with
  | nil => exact h
  | cons b l ih =>
    obtain ⟨hb, hl⟩ := List.forall_mem_cons.1 hl
    exact ih (agrees_assign_right h hb) hl

/-- Only assigned names have values. -/
theorem mem_of_mem_keys {l : List Assignment} {name : String}
    (h : name ∈ (table environment l).keys) : name ∈ l.map Prod.fst := by
  induction l using List.reverseRecOn with
  | nil => cases h
  | append_singleton l b ih =>
    have htable : table environment (l ++ [b]) = assign environment (table environment l) b :=
      List.foldl_append
    rw [htable, assign, OrderedMap.keys_set] at h
    rw [List.map_append, List.mem_append]
    split at h
    · exact .inl (ih h)
    · exact (List.mem_append.1 h).imp_left ih

/-- Of some names, the one that is assigned last is all that is left, with its new value, if none of
the others is assigned. -/
theorem filter_table_last (kept : String → Bool) {l l' : List Assignment}
    (hl : ∀ b ∈ l, kept b.1 = true → b.1 = a.1) (ha : kept a.1 = true) (hliteral : a.Literal)
    (hl' : ∀ b ∈ l', kept b.1 = false) :
    (table environment (l ++ a :: l')).entries.filter (fun e => kept e.1) = [a] := by
  have hagrees : (assign environment (table environment l) a).Agrees kept
      (table environment (l ++ a :: l')) := by
    have htable : table environment (l ++ a :: l') =
        l'.foldl (assign environment) (assign environment (table environment l) a) :=
      List.foldl_append
    rw [htable]
    exact agrees_foldl_right rfl hl'
  have hvalue : a.2.map (fun value => String.ofList
      (Reference.expand (valueOf environment (table environment l)) value.toList)) = a.2 := by
    obtain ⟨name, value?⟩ := a
    cases value? with
    | none => rfl
    | some value =>
      rw [Option.map_some, Reference.expand_of_free (hliteral value rfl), String.ofList_toList]
  -- No other name of these has been assigned before either.
  have honly : ∀ e ∈ (table environment l).entries.filter (fun e => kept e.1), e.1 = a.1 := by
    intro e he
    obtain ⟨hmem, hkept⟩ := List.mem_filter.1 he
    obtain ⟨b, hb, hname⟩ := List.mem_map.1 (mem_of_mem_keys (List.mem_map_of_mem hmem))
    rw [← hname] at hkept ⊢
    exact hl b hb hkept
  have hnodup : (((table environment l).entries.filter fun e => kept e.1).map Prod.fst).Nodup :=
    (table environment l).nodup.sublist (List.filter_sublist.map _)
  rw [← hagrees, assign, hvalue, OrderedMap.set, OrderedMap.upsert, OrderedMap.filter_place,
    if_pos ha, OrderedMap.place_of_forall hnodup honly]

end Assignment

end StaticAccess
