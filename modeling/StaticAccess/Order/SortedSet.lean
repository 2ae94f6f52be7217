import StaticAccess.Order.Ranked

/-!
# Finite sets as strictly ascending lists

A `SortedSet` lists its elements in strictly ascending order. The list is determined by the
elements, so two sets with the same elements are equal, and listing a set is sorting it.

## Main definitions

- `SortedSet`: a strictly ascending list.
- `SortedSet.insert`, `SortedSet.ofList`, `SortedSet.size`.

## Main results

- `SortedSet.mem_insert`, `SortedSet.mem_ofList`: the elements of the operations.
- `SortedSet.ext_mem`: sets with the same elements are equal.
-/

namespace StaticAccess

/-- A finite set, held as its elements in strictly ascending order. -/
structure SortedSet (α : Type) [Ranked α] where
  /-- The elements, in order. -/
  toList : List α
  /-- Every element comes before all later ones. -/
  ascending : toList.Pairwise (Ranked.before · · = true)
  deriving DecidableEq

namespace SortedSet

variable {α : Type} [Ranked α]

instance : Membership α (SortedSet α) := ⟨fun s a => a ∈ s.toList⟩

instance [DecidableEq α] (a : α) (s : SortedSet α) : Decidable (a ∈ s) :=
  inferInstanceAs (Decidable (a ∈ s.toList))

@[simp]
theorem mem_toList {a : α} {s : SortedSet α} : a ∈ s.toList ↔ a ∈ s := Iff.rfl

/-- The set without elements. -/
def empty : SortedSet α := ⟨[], List.Pairwise.nil⟩

/-- The number of elements. -/
def size (s : SortedSet α) : Nat := s.toList.length

/-- Put a value at its place in an ascending list, unless it is there. -/
def insertInto (a : α) : List α → List α
  | [] => [a]
  | b :: l =>
    if Ranked.before a b then a :: b :: l
    else if Ranked.before b a then b :: insertInto a l
    else b :: l

theorem mem_insertInto {a x : α} {l : List α} : x ∈ insertInto a l ↔ x = a ∨ x ∈ l := by
  induction l with
  | nil => simp [insertInto]
  | cons b l ih =>
    simp only [insertInto]
    split
    · simp
    · next hab =>
      split
      · simp only [List.mem_cons, ih]
        constructor
        · rintro (h | h | h) <;> simp [h]
        · rintro (h | h | h) <;> simp [h]
      · next hba =>
        obtain rfl := Ranked.tri (by simpa using hab) (by simpa using hba)
        simp

theorem pairwise_insertInto {a : α} {l : List α}
    (h : l.Pairwise (Ranked.before · · = true)) :
    (insertInto a l).Pairwise (Ranked.before · · = true) := by
  induction l with
  | nil => simp [insertInto]
  | cons b l ih =>
    have hb := List.pairwise_cons.1 h
    simp only [insertInto]
    split
    · next hab =>
      refine List.pairwise_cons.2 ⟨fun x hx => ?_, h⟩
      rcases List.mem_cons.1 hx with rfl | hx
      · exact hab
      · exact Ranked.trans hab (hb.1 x hx)
    · split
      · next hba =>
        refine List.pairwise_cons.2 ⟨fun x hx => ?_, ih hb.2⟩
        rcases mem_insertInto.1 hx with rfl | hx
        · exact hba
        · exact hb.1 x hx
      · exact h

/-- Add an element; one that is there is not added again. -/
def insert (a : α) (s : SortedSet α) : SortedSet α :=
  ⟨insertInto a s.toList, pairwise_insertInto s.ascending⟩

/-- The set of the members of a list. -/
def ofList (l : List α) : SortedSet α := l.foldl (fun s a => s.insert a) empty

@[simp]
theorem mem_empty {a : α} : ¬ a ∈ (empty : SortedSet α) := List.not_mem_nil

@[simp]
theorem mem_insert {a x : α} {s : SortedSet α} : x ∈ s.insert a ↔ x = a ∨ x ∈ s :=
  mem_insertInto

theorem mem_foldl_insert {x : α} {l : List α} {s : SortedSet α} :
    x ∈ l.foldl (fun s a => s.insert a) s ↔ x ∈ s ∨ x ∈ l := by
  induction l generalizing s with
  | nil => simp
  | cons a l ih => simp [ih, or_assoc, or_left_comm]

@[simp]
theorem mem_ofList {x : α} {l : List α} : x ∈ ofList l ↔ x ∈ l := by
  simp [ofList, mem_foldl_insert]

/-- Sets with the same elements are equal. -/
theorem ext_mem {s t : SortedSet α} (h : ∀ a, a ∈ s ↔ a ∈ t) : s = t := by
  obtain ⟨l, hl⟩ := s
  obtain ⟨m, hm⟩ := t
  obtain rfl : l = m := Ranked.eq_of_pairwise Ranked.not_before_of_before hl hm h
  rfl

end SortedSet

end StaticAccess
