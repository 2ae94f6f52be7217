import StaticAccess.Order.SortedSet
import StaticAccess.Store.OrderedMap

/-!
# Maps with ascending keys

A `SortedTable` lists its entries in the strict order of their keys. The list is determined by
what the keys map to, so two tables that agree on every key are equal.

## Main definitions

- `SortedTable`: entries with strictly ascending keys.
- `SortedTable.get?`, `SortedTable.upsert`.

## Main results

- `SortedTable.get?_upsert`: a write changes the value of its own key only.
- `SortedTable.ext_get?`: tables that agree on every key are equal.
-/

namespace StaticAccess

/-- A map that lists its entries in the order of the keys. -/
structure SortedTable (α β : Type) [Ranked α] where
  /-- The keys and their values, in the order of the keys. -/
  entries : List (α × β)
  /-- Every key comes before all later ones. -/
  ascending : entries.Pairwise fun p q => Ranked.before p.1 q.1 = true
  deriving DecidableEq

namespace SortedTable

variable {α β : Type} [Ranked α]

/-- The table without entries. -/
def empty : SortedTable α β := ⟨[], List.Pairwise.nil⟩

/-- The value of a key. -/
def get? [DecidableEq α] (t : SortedTable α β) (k : α) : Option β := OrderedMap.lookup k t.entries

/-- Replace the value beside a key, or put the key at its place. -/
def place (k : α) (f : Option β → β) : List (α × β) → List (α × β)
  | [] => [(k, f none)]
  | (a, b) :: l =>
    if Ranked.before k a then (k, f none) :: (a, b) :: l
    else if Ranked.before a k then (a, b) :: place k f l
    else (a, f (some b)) :: l

theorem fst_of_mem_place {k : α} {f : Option β → β} {l : List (α × β)} {p : α × β}
    (h : p ∈ place k f l) : p.1 = k ∨ ∃ q ∈ l, q.1 = p.1 := by
  induction l with
  | nil => simp_all [place]
  | cons q l ih =>
    obtain ⟨a, b⟩ := q
    simp only [place] at h
    split at h
    · rcases List.mem_cons.1 h with rfl | h
      · exact .inl rfl
      · exact .inr ⟨p, h, rfl⟩
    · split at h
      · rcases List.mem_cons.1 h with rfl | h
        · exact .inr ⟨(a, b), by simp, rfl⟩
        · rcases ih h with h | ⟨q, hq, h⟩
          · exact .inl h
          · exact .inr ⟨q, List.mem_cons_of_mem _ hq, h⟩
      · rcases List.mem_cons.1 h with rfl | h
        · exact .inr ⟨(a, b), by simp, rfl⟩
        · exact .inr ⟨p, List.mem_cons_of_mem _ h, rfl⟩

theorem pairwise_place {k : α} {f : Option β → β} {l : List (α × β)}
    (h : l.Pairwise fun p q => Ranked.before p.1 q.1 = true) :
    (place k f l).Pairwise fun p q => Ranked.before p.1 q.1 = true := by
  induction l with
  | nil => simp [place]
  | cons q l ih =>
    obtain ⟨a, b⟩ := q
    have hq := List.pairwise_cons.1 h
    simp only [place]
    split
    · next hka =>
      refine List.pairwise_cons.2 ⟨fun p hp => ?_, h⟩
      rcases List.mem_cons.1 hp with rfl | hp
      · exact hka
      · exact Ranked.trans hka (hq.1 p hp)
    · split
      · next hak =>
        refine List.pairwise_cons.2 ⟨fun p hp => ?_, ih hq.2⟩
        rcases fst_of_mem_place hp with hp | ⟨r, hr, hp⟩
        · exact hp ▸ hak
        · exact hp ▸ hq.1 r hr
      · exact List.pairwise_cons.2 ⟨hq.1, hq.2⟩

/-- Give a key the value that `f` makes of its present one. -/
def upsert (t : SortedTable α β) (k : α) (f : Option β → β) : SortedTable α β :=
  ⟨place k f t.entries, pairwise_place t.ascending⟩

variable [DecidableEq α]

@[simp]
theorem get?_empty (k : α) : (empty : SortedTable α β).get? k = none := rfl

theorem lookup_eq_none_of_before {k : α} {l : List (α × β)}
    (h : ∀ p ∈ l, Ranked.before k p.1 = true) : OrderedMap.lookup k l = none := by
  induction l with
  | nil => rfl
  | cons p l ih =>
    have hp := h p (by simp)
    rw [OrderedMap.lookup, if_neg, ih fun q hq => h q (List.mem_cons_of_mem _ hq)]
    intro e
    simp [e, Ranked.irrefl] at hp

theorem lookup_place {k a : α} {f : Option β → β} {l : List (α × β)}
    (h : l.Pairwise fun p q => Ranked.before p.1 q.1 = true) :
    OrderedMap.lookup a (place k f l) =
      if a = k then some (f (OrderedMap.lookup k l)) else OrderedMap.lookup a l := by
  induction l with
  | nil =>
    by_cases hak : a = k
    · simp [place, OrderedMap.lookup, hak]
    · simp [place, OrderedMap.lookup, hak, Ne.symm hak]
  | cons p l ih =>
    obtain ⟨c, b⟩ := p
    have hc := List.pairwise_cons.1 h
    simp only [place]
    split
    · next hkc =>
      have hnone : OrderedMap.lookup k ((c, b) :: l) = none := by
        refine lookup_eq_none_of_before fun p hp => ?_
        rcases List.mem_cons.1 hp with rfl | hp
        · exact hkc
        · exact Ranked.trans hkc (hc.1 p hp)
      rw [hnone]
      by_cases hak : a = k
      · simp [OrderedMap.lookup, hak]
      · simp [OrderedMap.lookup, hak, Ne.symm hak]
    · split
      · next hck =>
        have hne : ¬ c = k := by
          rintro rfl
          simp [Ranked.irrefl] at hck
        by_cases hak : a = k
        · subst hak
          simp [OrderedMap.lookup, hne, ih hc.2]
        · simp only [OrderedMap.lookup, ih hc.2, hak, if_false]
      · next hkc hck =>
        obtain rfl : c = k := Ranked.tri (by simpa using hck) (by simpa using hkc)
        by_cases hac : a = c
        · simp [OrderedMap.lookup, hac]
        · simp [OrderedMap.lookup, hac, Ne.symm hac]

/-- A write changes the value of its own key only. -/
theorem get?_upsert (t : SortedTable α β) (k a : α) (f : Option β → β) :
    (t.upsert k f).get? a = if a = k then some (f (t.get? k)) else t.get? a :=
  lookup_place t.ascending

omit [DecidableEq α] in
theorem nodup_fst (t : SortedTable α β) : (t.entries.map Prod.fst).Nodup := by
  rw [List.nodup_iff_pairwise_ne, List.pairwise_map]
  refine t.ascending.imp fun {p q} h e => ?_
  simp [e, Ranked.irrefl] at h

/-- The entries are the keys that have a value, with that value. -/
theorem mem_entries_iff {t : SortedTable α β} {k : α} {b : β} :
    (k, b) ∈ t.entries ↔ t.get? k = some b :=
  ⟨OrderedMap.lookup_of_mem t.nodup_fst, OrderedMap.mem_of_lookup⟩

/-- Tables that agree on every key are equal. -/
theorem ext_get? {s t : SortedTable α β} (h : ∀ k, s.get? k = t.get? k) : s = t := by
  have : s.entries = t.entries :=
    Ranked.eq_of_pairwise Ranked.not_before_of_before s.ascending t.ascending fun p => by
      obtain ⟨k, b⟩ := p
      rw [mem_entries_iff, mem_entries_iff, h]
  cases s; cases t; cases this; rfl

end SortedTable

end StaticAccess
