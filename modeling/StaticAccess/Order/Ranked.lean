/-!
# Decidable strict total orders

The order in which answers list names, edges and log records: code point by code point, a
proper beginning first, and lists element by element. A type that has such an order is `Ranked`.

## Main definitions

- `Ranked`: a decidable strict total order.
- `Ranked.ofKey`: the order that an injective key induces.
- `Ranked.eq_of_pairwise`: an ascending list is determined by its members.
- instances for `Nat`, `Char`, `List` (lexicographic) and `String`.
-/

namespace StaticAccess

/-- A strict total order given by its decision procedure. -/
class Ranked (α : Type) where
  /-- Whether the first value comes strictly before the second. -/
  before : α → α → Bool
  /-- No value comes before itself. -/
  irrefl : ∀ a, before a a = false
  /-- The order is transitive. -/
  trans : ∀ {a b c}, before a b = true → before b c = true → before a c = true
  /-- Values of which neither comes before the other are equal. -/
  tri : ∀ {a b}, before a b = false → before b a = false → a = b

namespace Ranked

variable {α β : Type}

/-- A value does not come before one that comes before it. -/
theorem asymm [Ranked α] {a b : α} (h : before a b = true) : before b a = false := by
  cases hb : before b a with
  | false => rfl
  | true => exact absurd (trans h hb) (by simp [irrefl])

theorem not_before_of_before [Ranked α] {a b : α} (h : before a b = true) :
    ¬ before b a = true := by
  simp [asymm h]

/-- Lists with the same members, both ascending for an asymmetric relation, are the same. -/
theorem eq_of_pairwise {R : β → β → Prop} (hR : ∀ {a b}, R a b → ¬ R b a) {l m : List β}
    (hl : l.Pairwise R) (hm : m.Pairwise R) (h : ∀ a, a ∈ l ↔ a ∈ m) : l = m := by
  induction l generalizing m with
  | nil =>
    cases m with
    | nil => rfl
    | cons b m => simpa using h b
  | cons a l ih =>
    cases m with
    | nil => simpa using h a
    | cons b m =>
      have ha := List.pairwise_cons.1 hl
      have hb := List.pairwise_cons.1 hm
      -- The two heads agree: each is the other head or comes after it.
      have hab : a = b := by
        rcases List.mem_cons.1 ((h a).1 (by simp)) with hab | hab
        · exact hab
        · rcases List.mem_cons.1 ((h b).2 (by simp)) with hba | hba
          · exact hba.symm
          · exact absurd (hb.1 a hab) (hR (ha.1 b hba))
      subst hab
      refine congrArg (a :: ·) (ih ha.2 hb.2 fun x => ⟨fun hx => ?_, fun hx => ?_⟩)
      · rcases List.mem_cons.1 ((h x).1 (by simp [hx])) with rfl | hx'
        · exact absurd (ha.1 x hx) (hR (ha.1 x hx))
        · exact hx'
      · rcases List.mem_cons.1 ((h x).2 (by simp [hx])) with rfl | hx'
        · exact absurd (hb.1 x hx) (hR (hb.1 x hx))
        · exact hx'

/-- Whether the first value comes before the second or equals it. -/
def atMost [Ranked α] (a b : α) : Bool := !before b a

/-- The order that an injective key carries over from its values. -/
@[reducible]
def ofKey [Ranked β] (key : α → β) (injective : ∀ {a b}, key a = key b → a = b) : Ranked α where
  before a b := before (key a) (key b)
  irrefl a := irrefl (key a)
  trans h h' := trans h h'
  tri h h' := injective (tri h h')

instance : Ranked Nat where
  before a b := decide (a < b)
  irrefl a := by simp
  trans h h' := by simp only [decide_eq_true_eq] at *; omega
  tri h h' := by simp only [decide_eq_false_iff_not] at *; omega

/-- Characters in the order of their code points. -/
instance : Ranked Char := ofKey Char.toNat fun h => Char.toNat_inj.1 h

/-- The lexicographic comparison of two lists. -/
def listBefore [Ranked α] : List α → List α → Bool
  | _, [] => false
  | [], _ :: _ => true
  | a :: as, b :: bs => before a b || (!before b a && listBefore as bs)

theorem listBefore_irrefl [Ranked α] (l : List α) : listBefore l l = false := by
  induction l with
  | nil => rfl
  | cons a as ih => simp [listBefore, irrefl, ih]

theorem listBefore_tri [Ranked α] {l m : List α} (h : listBefore l m = false)
    (h' : listBefore m l = false) : l = m := by
  induction l generalizing m with
  | nil => cases m <;> simp_all [listBefore]
  | cons a as ih =>
    cases m with
    | nil => simp [listBefore] at h'
    | cons b bs =>
      simp only [listBefore, Bool.or_eq_false_iff, Bool.and_eq_false_imp, Bool.not_eq_true'] at h h'
      rw [tri h.1 h'.1, ih (h.2 h'.1) (h'.2 h.1)]

theorem listBefore_trans [Ranked α] {l m n : List α} (h : listBefore l m = true)
    (h' : listBefore m n = true) : listBefore l n = true := by
  induction l generalizing m n with
  | nil =>
    cases n with
    | nil => cases m <;> simp [listBefore] at h'
    | cons => rfl
  | cons a as ih =>
    cases m with
    | nil => simp [listBefore] at h
    | cons b bs =>
      cases n with
      | nil => simp [listBefore] at h'
      | cons c cs =>
        simp only [listBefore, Bool.or_eq_true, Bool.and_eq_true, Bool.not_eq_true'] at h h' ⊢
        rcases h with hab | ⟨hba, hs⟩
        · rcases h' with hbc | ⟨hcb, -⟩
          · exact .inl (trans hab hbc)
          · cases hbc : before b c with
            | true => exact .inl (trans hab hbc)
            | false => exact .inl (tri hbc hcb ▸ hab)
        · cases hab : before a b with
          | true =>
            rcases h' with hbc | ⟨hcb, -⟩
            · exact .inl (trans hab hbc)
            · cases hbc : before b c with
              | true => exact .inl (trans hab hbc)
              | false => exact .inl (tri hbc hcb ▸ hab)
          | false =>
            obtain rfl := tri hab hba
            rcases h' with hbc | ⟨hcb, hs'⟩
            · exact .inl hbc
            · exact .inr ⟨hcb, ih hs hs'⟩

/-- Lists in lexicographic order: the first difference decides, and a proper beginning of a
list comes before it. -/
instance [Ranked α] : Ranked (List α) where
  before := listBefore
  irrefl := listBefore_irrefl
  trans := listBefore_trans
  tri := listBefore_tri

/-- Strings in the order of their code points. -/
instance : Ranked String := ofKey String.toList fun h => String.toList_inj.1 h

end Ranked

end StaticAccess
