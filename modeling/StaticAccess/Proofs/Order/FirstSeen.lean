import Mathlib.Data.List.Basic
import Mathlib.Data.List.Flatten
import Mathlib.Data.List.Induction
import Mathlib.Data.List.Nodup
import Mathlib.Data.List.Perm.Basic

/-!
# First occurrences and groups

`List.eraseDups` keeps the first occurrence of every member of a list. `grouped key l` lists the
members of `l` group by group: the keys in the order in which they first occur, and under one key
the members in the order of `l`.

## Main definitions

- `grouped`: a list, group by group.

## Main results

- `eraseDups_concat`: one more member comes last, unless it occurs before.
- `eraseDups_prefix_append`, `grouped_sublist_append`: what follows does not change the order of
  what was there.
- `perm_flatMap_filter`: groups under distinct keys that cover a list make up the list.
- `filter_eraseDups`: first occurrences among the members with a property.
- `filter_flatMap_of_key`, `eraseDups_map_flatMap`: groups one after another give back every
  group and the order of the keys.
- `filter_grouped`, `eraseDups_map_grouped`: grouping keeps the order under every key and the order
  of the keys, so that grouping once more changes nothing (`grouped_grouped`).
-/

namespace StaticAccess

variable {α β γ : Type} [DecidableEq β]

section FirstSeen

/-- One more member comes last, unless it occurs before. -/
theorem eraseDups_concat (l : List β) (b : β) :
    (l ++ [b]).eraseDups = if b ∈ l then l.eraseDups else l.eraseDups ++ [b] := by
  rw [List.eraseDups_append]
  by_cases h : b ∈ l <;> simp [List.removeAll, h, List.eraseDups_cons]

theorem nodup_eraseDups (l : List β) : l.eraseDups.Nodup := by
  induction l using List.reverseRecOn with
  | nil => exact List.nodup_nil
  | append_singleton l b ih =>
    rw [eraseDups_concat]
    split
    · exact ih
    · next h =>
      refine List.nodup_append.2 ⟨ih, List.nodup_singleton b, ?_⟩
      rintro x hx y hy rfl
      rw [List.mem_singleton] at hy
      exact h (hy ▸ List.mem_eraseDups.1 hx)

/-- Distinct members are their own first occurrences. -/
theorem eraseDups_of_nodup {l : List β} (h : l.Nodup) : l.eraseDups = l := by
  induction l with
  | nil => rfl
  | cons b l ih =>
    obtain ⟨hb, hl⟩ := List.nodup_cons.1 h
    have hfilter : l.filter (fun c => !c == b) = l := by
      rw [List.filter_eq_self]
      intro c hc
      have hne : c ≠ b := fun e => hb (e ▸ hc)
      simp [hne]
    rw [List.eraseDups_cons, hfilter, ih hl]

/-- Later occurrences in the first part of a list change nothing. -/
theorem eraseDups_append_eraseDups (l m : List β) :
    (l.eraseDups ++ m).eraseDups = (l ++ m).eraseDups := by
  induction m using List.reverseRecOn with
  | nil => rw [List.append_nil, List.append_nil, eraseDups_of_nodup (nodup_eraseDups l)]
  | append_singleton m b ih =>
    -- Whether `b` is new does not depend on how often the earlier members occur.
    rw [← List.append_assoc, ← List.append_assoc, eraseDups_concat, eraseDups_concat, ih]
    simp only [List.mem_append, List.mem_eraseDups]

/-- What follows and occurs before changes nothing. -/
theorem eraseDups_append_of_subset {l m : List β} (h : m ⊆ l) :
    (l ++ m).eraseDups = l.eraseDups := by
  have hnone : m.removeAll l = [] := by
    rw [List.removeAll, List.filter_eq_nil_iff]
    intro b hb
    simp [h hb]
  rw [List.eraseDups_append, hnone, List.eraseDups_nil, List.append_nil]

/-- What follows does not change the first occurrences before it. -/
theorem eraseDups_prefix_append (l m : List β) : l.eraseDups <+: (l ++ m).eraseDups := by
  rw [List.eraseDups_append]
  exact List.prefix_append _ _

/-- The first occurrences with a property are those among the members with the property. -/
theorem filter_eraseDups (p : β → Bool) (l : List β) :
    l.eraseDups.filter p = (l.filter p).eraseDups := by
  induction l using List.reverseRecOn with
  | nil => rfl
  | append_singleton l b ih =>
    rw [eraseDups_concat, List.filter_append]
    cases hp : p b with
    | true =>
      -- Among the members with the property `b` is as new as among all.
      have hone : [b].filter p = [b] := by simp [hp]
      rw [hone, eraseDups_concat]
      simp only [List.mem_filter, hp, and_true]
      split
      · exact ih
      · rw [List.filter_append, ih, hone]
    | false =>
      have hnone : [b].filter p = [] := by simp [hp]
      rw [hnone, List.append_nil, ← ih]
      split
      · rfl
      · rw [List.filter_append, hnone, List.append_nil]

/-- The images of the first occurrences are the first occurrences of the images. -/
theorem eraseDups_map_of_injective {f : α → β} [DecidableEq α] (hf : Function.Injective f)
    (l : List α) : (l.map f).eraseDups = l.eraseDups.map f := by
  induction l using List.reverseRecOn with
  | nil => rfl
  | append_singleton l a ih =>
    rw [List.map_append, List.map_singleton, eraseDups_concat, eraseDups_concat, ih]
    simp only [List.mem_map_of_injective hf]
    split
    · rfl
    · rw [List.map_append, List.map_singleton]

end FirstSeen

section Groups

variable (key : α → β)

/-- The members of a list, grouped by key: the keys in the order in which they first occur, and
under one key the members in their order. -/
def grouped (l : List α) : List α :=
  (l.map key).eraseDups.flatMap fun b => l.filter fun a => key a = b

/-- Groups under distinct keys that cover a list make up the list. -/
theorem perm_flatMap_filter {keys : List β} (hkeys : keys.Nodup) {l : List α}
    (hl : ∀ a ∈ l, key a ∈ keys) :
    (keys.flatMap fun b => l.filter fun a => key a = b).Perm l := by
  induction keys generalizing l with
  | nil =>
    cases l with
    | nil => exact List.Perm.nil
    | cons a l => exact absurd (hl a List.mem_cons_self) List.not_mem_nil
  | cons b keys ih =>
    obtain ⟨hb, hkeys⟩ := List.nodup_cons.1 hkeys
    -- The groups of the other keys are those of the members that are not in the first group.
    have hrest : (keys.flatMap fun c => l.filter fun a => key a = c) =
        keys.flatMap fun c =>
          (l.filter fun a => !decide (key a = b)).filter fun a => key a = c := by
      apply List.flatMap_congr
      intro c hc
      rw [List.filter_filter]
      apply List.filter_congr
      intro a _
      by_cases hac : key a = c
      · have hcb : c ≠ b := fun e => hb (e ▸ hc)
        simp [hac, hcb]
      · simp [hac]
    have hcover : ∀ a ∈ l.filter fun a => !decide (key a = b), key a ∈ keys := by
      intro a ha
      obtain ⟨hal, hab⟩ := List.mem_filter.1 ha
      have hne : key a ≠ b := by simpa using hab
      exact (List.mem_cons.1 (hl a hal)).resolve_left hne
    rw [List.flatMap_cons, hrest]
    exact ((ih hkeys hcover).append_left _).trans (List.filter_append_perm _ l)

theorem perm_grouped (l : List α) : (grouped key l).Perm l :=
  perm_flatMap_filter key (nodup_eraseDups _) fun _ ha =>
    List.mem_eraseDups.2 (List.mem_map_of_mem ha)

example : grouped (· % 2) [3, 4, 5, 4, 1] = [3, 5, 1, 4, 4] := by decide

/-- Groups under distinct keys that cover a list still make up the list when each of them is grouped
by another key. -/
theorem perm_flatMap_grouped [DecidableEq γ] (inner : α → γ) {keys : List β} (hkeys : keys.Nodup)
    {l : List α} (hl : ∀ a ∈ l, key a ∈ keys) :
    (keys.flatMap fun b => grouped inner (l.filter fun a => key a = b)).Perm l := by
  have hgroups : (keys.flatMap fun b => grouped inner (l.filter fun a => key a = b)).Perm
      (keys.flatMap fun b => l.filter fun a => key a = b) :=
    List.Perm.flatMap_left _ fun b _ => perm_grouped inner _
  exact hgroups.trans (perm_flatMap_filter key hkeys hl)

/-- Of the groups of distinct keys, one alone is listed once. -/
theorem flatMap_ite_eq {keys : List β} (hkeys : keys.Nodup) (b : β) (l : List α) :
    (keys.flatMap fun c => if c = b then l else []) = if b ∈ keys then l else [] := by
  induction keys with
  | nil => simp
  | cons c keys ih =>
    obtain ⟨hc, hkeys⟩ := List.nodup_cons.1 hkeys
    rw [List.flatMap_cons, ih hkeys]
    by_cases hcb : c = b
    · subst hcb
      rw [if_pos rfl, if_neg hc, if_pos List.mem_cons_self, List.append_nil]
    · rw [if_neg hcb, List.nil_append]
      simp [Ne.symm hcb]

/-- Groups one after another, each under its own key, give back every group. -/
theorem filter_flatMap_of_key {keys : List β} (hkeys : keys.Nodup) {group : β → List α}
    (hgroup : ∀ b ∈ keys, ∀ a ∈ group b, key a = b) (b : β) :
    ((keys.flatMap group).filter fun a => key a = b) = if b ∈ keys then group b else [] := by
  rw [List.filter_flatMap, ← flatMap_ite_eq hkeys]
  apply List.flatMap_congr
  intro c hc
  split
  · next hcb =>
    -- The group of `b` itself passes as a whole.
    subst hcb
    apply List.filter_eq_self.2
    intro a ha
    simpa using hgroup c hc a ha
  · next hcb =>
    -- Nothing passes of a group with another key.
    apply List.filter_eq_nil_iff.2
    intro a ha
    simpa [hgroup c hc a ha] using hcb

/-- Groups under distinct keys that cover a list, each of them grouped by another key, give back
every group. -/
theorem filter_flatMap_grouped [DecidableEq γ] (inner : α → γ) {keys : List β} (hkeys : keys.Nodup)
    {l : List α} (hl : ∀ a ∈ l, key a ∈ keys) (b : β) :
    ((keys.flatMap fun c => grouped inner (l.filter fun a => key a = c)).filter
        fun a => key a = b) = grouped inner (l.filter fun a => key a = b) := by
  have hgroup : ∀ c ∈ keys, ∀ a ∈ grouped inner (l.filter fun a => key a = c), key a = c := by
    intro c _ a ha
    simpa using (List.mem_filter.1 ((perm_grouped inner _).mem_iff.1 ha)).2
  rw [filter_flatMap_of_key key hkeys hgroup]
  split
  · rfl
  · next hb =>
    have hnil : (l.filter fun a => key a = b) = [] := by
      refine List.filter_eq_nil_iff.2 fun a ha hab => hb ?_
      have hkey : key a = b := by simpa using hab
      exact hkey ▸ hl a ha
    rw [hnil]
    rfl

/-- Groups one after another, none of them empty, give back the order of their keys. -/
theorem eraseDups_map_flatMap {keys : List β} (hkeys : keys.Nodup) {group : β → List α}
    (hgroup : ∀ b ∈ keys, ∀ a ∈ group b, key a = b) (hne : ∀ b ∈ keys, group b ≠ []) :
    ((keys.flatMap group).map key).eraseDups = keys := by
  induction keys using List.reverseRecOn with
  | nil => rfl
  | append_singleton keys b ih =>
    obtain ⟨hkeys, -, hb⟩ := List.nodup_append.1 hkeys
    have hfirst : (((keys.flatMap group)).map key).eraseDups = keys :=
      ih hkeys (fun c hc => hgroup c (List.mem_append_left _ hc))
        fun c hc => hne c (List.mem_append_left _ hc)
    -- The last group is not empty, and all of its members have the one new key.
    obtain ⟨a, as, has⟩ := List.exists_cons_of_ne_nil (hne b (by simp))
    have hlast : (group b).map key = b :: as.map key := by
      rw [has, List.map_cons, hgroup b (by simp) a (by simp [has])]
    have hsub : as.map key ⊆ (keys.flatMap group).map key ++ [b] := by
      intro c hc
      obtain ⟨x, hx, rfl⟩ := List.mem_map.1 hc
      simp [hgroup b (by simp) x (by simp [has, hx])]
    have hnew : b ∉ (keys.flatMap group).map key := by
      rw [← List.mem_eraseDups, hfirst]
      exact fun h => hb b h b (List.mem_singleton_self b) rfl
    rw [List.flatMap_append, List.flatMap_singleton, List.map_append, hlast,
      List.append_cons, eraseDups_append_of_subset hsub, eraseDups_concat, if_neg hnew, hfirst]

/-- The members with a given key keep their order when a list is grouped. -/
theorem filter_grouped (l : List α) (b : β) :
    ((grouped key l).filter fun a => key a = b) = l.filter fun a => key a = b := by
  rw [grouped, filter_flatMap_of_key key (nodup_eraseDups _) (by simp)]
  split
  · rfl
  · next hb =>
    -- A key that does not occur has no members before the grouping either.
    symm
    apply List.filter_eq_nil_iff.2
    intro a ha hab
    exact hb (List.mem_eraseDups.2 (List.mem_map.2 ⟨a, ha, by simpa using hab⟩))

/-- The keys first occur in the same order after a list is grouped. -/
theorem eraseDups_map_grouped (l : List α) :
    ((grouped key l).map key).eraseDups = (l.map key).eraseDups := by
  refine eraseDups_map_flatMap key (nodup_eraseDups _) (by simp) fun b hb hnil => ?_
  obtain ⟨a, ha, hab⟩ := List.mem_map.1 (List.mem_eraseDups.1 hb)
  exact List.filter_eq_nil_iff.1 hnil a ha (by simpa using hab)

omit [DecidableEq β] in
/-- Groups that grow, with further groups among them, keep the order of their members. -/
theorem flatMap_sublist_flatMap {keys more : List β} {group grown : β → List α}
    (hkeys : List.Sublist keys more) (hgroup : ∀ b, List.Sublist (group b) (grown b)) :
    List.Sublist (keys.flatMap group) (more.flatMap grown) := by
  have hgrown : List.Sublist (keys.flatMap group) (keys.flatMap grown) :=
    List.Sublist.flatMap_right keys fun b _ => hgroup b
  exact hgrown.trans (hkeys.flatMap grown)

/-- The members of a list keep their order in the groups of a longer list. -/
theorem grouped_sublist_append (l m : List α) :
    List.Sublist (grouped key l) (grouped key (l ++ m)) := by
  rw [grouped, grouped, List.map_append]
  refine flatMap_sublist_flatMap (eraseDups_prefix_append _ _).sublist fun b => ?_
  exact (List.sublist_append_left l m).filter _

/-- Grouping once more changes nothing. -/
theorem grouped_grouped (l : List α) : grouped key (grouped key l) = grouped key l := by
  rw [grouped, eraseDups_map_grouped]
  simp only [filter_grouped]
  rfl

/-- The images of the members are grouped as the members are by the keys of their images. -/
theorem grouped_map (f : γ → α) (l : List γ) :
    grouped key (l.map f) = (grouped (fun c => key (f c)) l).map f := by
  simp [grouped, List.map_flatMap, List.filter_map, Function.comp_def]

end Groups

end StaticAccess
