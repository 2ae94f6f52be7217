/-!
# Insertion-ordered maps

An `OrderedMap` holds at most one value per key and lists its entries in the order in which
the keys were first given a value. Giving a known key a new value leaves its place unchanged.

## Main definitions

- `OrderedMap`: entries with pairwise distinct keys.
- `OrderedMap.get?`, `OrderedMap.keys`, `OrderedMap.size`.
- `OrderedMap.upsert`, `OrderedMap.set`, `OrderedMap.modify`, `OrderedMap.ofList`.

## Main results

- `OrderedMap.keys_upsert`: a new key comes last, a known one keeps its place.
- `OrderedMap.get?_upsert`, `OrderedMap.get?_modify`: only the written key changes.
- `OrderedMap.mem_entries_iff`: the entries are the keys with their values.
-/

namespace StaticAccess

/-- A map that lists its entries in the order in which the keys came. -/
structure OrderedMap (α β : Type) where
  /-- The keys and their values, oldest key first. -/
  entries : List (α × β)
  /-- No key has two entries. -/
  nodup : (entries.map Prod.fst).Nodup
  deriving DecidableEq

namespace OrderedMap

variable {α β : Type} [DecidableEq α]

omit [DecidableEq α] in
/-- Maps with the same entries in the same order are equal. -/
@[ext]
theorem ext_entries {m n : OrderedMap α β} (h : m.entries = n.entries) : m = n := by
  cases m; cases n; cases h; rfl

/-- The map without entries. -/
def empty : OrderedMap α β := ⟨[], List.nodup_nil⟩

/-- The keys, oldest first. -/
def keys (m : OrderedMap α β) : List α := m.entries.map Prod.fst

/-- The number of keys. -/
def size (m : OrderedMap α β) : Nat := m.entries.length

/-- The value beside a key in a list of entries. -/
def lookup (k : α) : List (α × β) → Option β
  | [] => none
  | (a, b) :: l => if a = k then some b else lookup k l

/-- The value of a key. -/
def get? (m : OrderedMap α β) (k : α) : Option β := lookup k m.entries

/-- Whether a key has a value. -/
def contains (m : OrderedMap α β) (k : α) : Bool := (m.get? k).isSome

/-- Replace the value beside a key, or add the key at the end. -/
def place (k : α) (f : Option β → β) : List (α × β) → List (α × β)
  | [] => [(k, f none)]
  | (a, b) :: l => if a = k then (a, f (some b)) :: l else (a, b) :: place k f l

theorem map_fst_place (k : α) (f : Option β → β) (l : List (α × β)) :
    (place k f l).map Prod.fst =
      if k ∈ l.map Prod.fst then l.map Prod.fst else l.map Prod.fst ++ [k] := by
  induction l with
  | nil => simp [place]
  | cons p l ih =>
    obtain ⟨a, b⟩ := p
    by_cases h : a = k
    · simp [place, h]
    · have h' : ¬k = a := fun e => h e.symm
      simp only [place, h, if_false, List.map_cons, ih, List.mem_cons, h', false_or]
      split <;> simp

theorem nodup_place {k : α} {f : Option β → β} {l : List (α × β)}
    (h : (l.map Prod.fst).Nodup) : ((place k f l).map Prod.fst).Nodup := by
  rw [map_fst_place]
  split
  · exact h
  · next hk =>
    refine List.nodup_append.2 ⟨h, by simp, ?_⟩
    intro a ha b hb hab
    simp only [List.mem_singleton] at hb
    exact hk (hb ▸ hab ▸ ha)

/-- Give a key the value that `f` makes of its present one. A known key keeps its place, a
new one comes last. -/
def upsert (m : OrderedMap α β) (k : α) (f : Option β → β) : OrderedMap α β :=
  ⟨place k f m.entries, nodup_place m.nodup⟩

/-- Give a key a value. A known key keeps its place, a new one comes last. -/
def set (m : OrderedMap α β) (k : α) (b : β) : OrderedMap α β := m.upsert k fun _ => b

/-- Change the value of a key; a key without a value stays so. -/
def modify (m : OrderedMap α β) (k : α) (f : β → β) : OrderedMap α β :=
  ⟨m.entries.map fun p => if p.1 = k then (p.1, f p.2) else p, by
    have : (m.entries.map fun p => if p.1 = k then (p.1, f p.2) else p).map Prod.fst =
        m.entries.map Prod.fst := by
      simp only [List.map_map]
      apply List.map_congr_left
      intro p _
      simp only [Function.comp]
      split <;> rfl
    exact this ▸ m.nodup⟩

/-- The map that a list of assignments builds, each a `set` of its key. -/
def ofList (l : List (α × β)) : OrderedMap α β := l.foldl (fun m p => m.set p.1 p.2) empty

omit [DecidableEq α] in
@[simp]
theorem entries_empty : (empty : OrderedMap α β).entries = [] := rfl

omit [DecidableEq α] in
@[simp]
theorem keys_empty : (empty : OrderedMap α β).keys = [] := rfl

@[simp]
theorem get?_empty (k : α) : (empty : OrderedMap α β).get? k = none := rfl

omit [DecidableEq α] in
theorem nodup_keys (m : OrderedMap α β) : m.keys.Nodup := m.nodup

theorem lookup_place (k a : α) (f : Option β → β) (l : List (α × β)) :
    lookup a (place k f l) = if a = k then some (f (lookup k l)) else lookup a l := by
  induction l with
  | nil =>
    by_cases h : a = k
    · simp [place, lookup, h]
    · simp [place, lookup, h, Ne.symm h]
  | cons p l ih =>
    obtain ⟨c, b⟩ := p
    by_cases hc : c = k
    · subst hc
      by_cases h : a = c
      · simp [place, lookup, h]
      · simp [place, lookup, h, Ne.symm h]
    · by_cases h : a = k
      · subst h
        simp [place, lookup, hc, ih]
      · simp only [place, hc, if_false, lookup, ih, h]

/-- A write changes the value of its own key only. -/
theorem get?_upsert (m : OrderedMap α β) (k a : α) (f : Option β → β) :
    (m.upsert k f).get? a = if a = k then some (f (m.get? k)) else m.get? a :=
  lookup_place k a f m.entries

/-- A known key keeps its place and a new one comes last. -/
theorem keys_upsert (m : OrderedMap α β) (k : α) (f : Option β → β) :
    (m.upsert k f).keys = if k ∈ m.keys then m.keys else m.keys ++ [k] :=
  map_fst_place k f m.entries

theorem get?_set (m : OrderedMap α β) (k a : α) (b : β) :
    (m.set k b).get? a = if a = k then some b else m.get? a :=
  get?_upsert m k a _

/-- After a write, the key that was written has a value, and so have those that had one before. -/
theorem contains_set (m : OrderedMap α β) (k a : α) (b : β) :
    (m.set k b).contains a = true ↔ m.contains a = true ∨ a = k := by
  rw [contains, get?_set, contains]
  by_cases h : a = k
  · simp [h]
  · simp [h]

theorem keys_set (m : OrderedMap α β) (k : α) (b : β) :
    (m.set k b).keys = if k ∈ m.keys then m.keys else m.keys ++ [k] :=
  keys_upsert m k _

theorem lookup_map_modify (k a : α) (f : β → β) (l : List (α × β)) :
    lookup a (l.map fun p => if p.1 = k then (p.1, f p.2) else p) =
      if a = k then (lookup k l).map f else lookup a l := by
  induction l with
  | nil => simp [lookup]
  | cons p l ih =>
    obtain ⟨c, b⟩ := p
    by_cases hc : c = k
    · subst hc
      by_cases h : a = c
      · simp [lookup, h]
      · simpa [lookup, h, Ne.symm h] using ih
    · by_cases h : a = k
      · subst h
        simpa [lookup, hc] using ih
      · by_cases hca : c = a
        · simp [lookup, hca, h]
        · simpa [lookup, hc, h, hca] using ih

/-- A change changes the value of its own key only. -/
theorem get?_modify (m : OrderedMap α β) (k a : α) (f : β → β) :
    (m.modify k f).get? a = if a = k then (m.get? k).map f else m.get? a :=
  lookup_map_modify k a f m.entries

@[simp]
theorem keys_modify (m : OrderedMap α β) (k : α) (f : β → β) : (m.modify k f).keys = m.keys := by
  simp only [keys, modify, List.map_map]
  apply List.map_congr_left
  intro p _
  simp only [Function.comp]
  split <;> rfl

theorem mem_of_lookup {k : α} {b : β} {l : List (α × β)} (h : lookup k l = some b) :
    (k, b) ∈ l := by
  induction l with
  | nil => simp [lookup] at h
  | cons p l ih =>
    obtain ⟨c, d⟩ := p
    simp only [lookup] at h
    split at h
    · next hc => simp_all
    · exact List.mem_cons_of_mem _ (ih h)

theorem lookup_of_mem {k : α} {b : β} {l : List (α × β)} (hl : (l.map Prod.fst).Nodup)
    (h : (k, b) ∈ l) : lookup k l = some b := by
  induction l with
  | nil => simp at h
  | cons p l ih =>
    obtain ⟨c, d⟩ := p
    simp only [List.map_cons, List.nodup_cons] at hl
    simp only [lookup]
    rcases List.mem_cons.1 h with h | h
    · cases h; simp
    · rw [if_neg, ih hl.2 h]
      rintro rfl
      exact hl.1 (List.mem_map.2 ⟨_, h, rfl⟩)

/-- The entries are the keys that have a value, with that value. -/
theorem mem_entries_iff {m : OrderedMap α β} {k : α} {b : β} :
    (k, b) ∈ m.entries ↔ m.get? k = some b :=
  ⟨lookup_of_mem m.nodup, mem_of_lookup⟩

/-- The keys are those that have a value. -/
theorem mem_keys_iff {m : OrderedMap α β} {k : α} : k ∈ m.keys ↔ (m.get? k).isSome := by
  rw [Option.isSome_iff_exists, keys, List.mem_map]
  constructor
  · rintro ⟨⟨a, b⟩, h, rfl⟩
    exact ⟨b, mem_entries_iff.1 h⟩
  · rintro ⟨b, h⟩
    exact ⟨(k, b), mem_entries_iff.2 h, rfl⟩

end OrderedMap

end StaticAccess
