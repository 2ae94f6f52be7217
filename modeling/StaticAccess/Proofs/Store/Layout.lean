import StaticAccess.Proofs.Order.FirstSeen
import StaticAccess.Store.Multigraph

/-!
# Layout of a multigraph

A multigraph is known through four views: its vertices in order, the label of a vertex, the
vertices that a vertex reaches in order, and the arcs between two vertices in order. This module
says what growth does to each view, that the listing of the arcs is made of the views, and that
the views determine the multigraph.

`Laid g as` says that drawing the arcs `as` one after another laid out the arcs of `g`.

## Main definitions

- `Multigraph.label?`, `Multigraph.targets`, `Multigraph.bundle`: the views beside the vertices.
- `Arc.place`: the ends and the key of an arc.
- `gathered`: arcs grouped by source in a given order, then by target.
- `Multigraph.Laid`: the arcs of a multigraph, in the order in which they were drawn.

## Main results

- `Multigraph.arcs_eq_flatMap`: the listing of the arcs in terms of the views.
- `Multigraph.eq_of_views`: multigraphs with the same views are equal.
- `Multigraph.Laid.connect`, `Multigraph.Laid.addNode`: growth keeps the layout.
- `Multigraph.Laid.arcs_eq`: the listing gathers the arcs in the order of the vertices.
-/

namespace StaticAccess

namespace OrderedMap

variable {α β : Type} [DecidableEq α]

/-- The entries are the keys in order, each with its value. -/
theorem entries_eq_flatMap (m : OrderedMap α β) :
    m.entries = m.keys.flatMap fun k => ((m.get? k).map fun b => (k, b)).toList := by
  have hone : ∀ p ∈ m.entries, ((m.get? p.1).map fun b => (p.1, b)).toList = [p] := by
    rintro ⟨k, b⟩ hp
    rw [mem_entries_iff.1 hp]
    rfl
  rw [keys, List.flatMap_map, List.flatMap_congr hone]
  simp

/-- Maps with the same keys in the same order and the same values are equal. -/
theorem ext_get? {m n : OrderedMap α β} (hkeys : m.keys = n.keys)
    (hget : ∀ k, m.get? k = n.get? k) : m = n := by
  apply ext_entries
  rw [entries_eq_flatMap, entries_eq_flatMap, hkeys]
  simp only [hget]

/-- The keys in a list of entries are those that are found. -/
theorem isSome_lookup_iff {k : α} {l : List (α × β)} :
    (lookup k l).isSome = true ↔ k ∈ l.map Prod.fst := by
  induction l with
  | nil => simp [lookup]
  | cons p l ih =>
    obtain ⟨a, b⟩ := p
    rw [lookup, List.map_cons, List.mem_cons, ← ih]
    by_cases h : a = k
    · simp [h]
    · simp [h, Ne.symm h]

/-- A new key comes last. -/
theorem place_of_notMem {k : α} {f : Option β → β} {l : List (α × β)}
    (h : k ∉ l.map Prod.fst) : place k f l = l ++ [(k, f none)] := by
  induction l with
  | nil => rfl
  | cons p l ih =>
    rw [List.map_cons, List.mem_cons, not_or] at h
    rw [place, if_neg (Ne.symm h.1), ih h.2, List.cons_append]

end OrderedMap

/-- The ends and the key of an arc. -/
def Arc.place {ν κ ε : Type} (a : Arc ν κ ε) : ν × ν × κ := (a.source, a.target, a.key)

/-- Some arcs, grouped by source in a given order of the sources, and under one source by target
in the order in which the source first reaches it. -/
def gathered {ν κ ε : Type} [DecidableEq ν] (sources : List ν) (as : List (Arc ν κ ε)) :
    List (Arc ν κ ε) :=
  sources.flatMap fun u => grouped Arc.target (as.filter fun a => a.source = u)

section Gathered

variable {ν κ ε : Type} [DecidableEq ν] {sources : List ν} {as : List (Arc ν κ ε)}

theorem perm_gathered (hsources : sources.Nodup) (has : ∀ a ∈ as, a.source ∈ sources) :
    (gathered sources as).Perm as :=
  perm_flatMap_grouped Arc.source Arc.target hsources has

/-- The arcs from one source are listed together. -/
theorem filter_gathered (hsources : sources.Nodup) (has : ∀ a ∈ as, a.source ∈ sources) (u : ν) :
    ((gathered sources as).filter fun a => a.source = u) =
      grouped Arc.target (as.filter fun a => a.source = u) :=
  filter_flatMap_grouped Arc.source Arc.target hsources has u

end Gathered

namespace Multigraph

variable {ν α κ ε : Type} [DecidableEq ν]

section Views

/-- The label of a vertex. -/
def label? (g : Multigraph ν α κ ε) (u : ν) : Option α := (g.vertices.get? u).map Vertex.label

/-- The vertices that a vertex reaches, in the order in which it first reached them. -/
def targets (g : Multigraph ν α κ ε) (u : ν) : List ν :=
  (g.vertices.get? u).elim [] fun w => w.out.keys

/-- The arcs from one vertex to another by their keys, in order. -/
def bundle (g : Multigraph ν α κ ε) (u v : ν) : List (κ × ε) :=
  ((g.vertices.get? u).bind fun w => w.out.get? v).elim [] OrderedMap.entries

variable {g h : Multigraph ν α κ ε}

/-- The arcs are listed vertex by vertex, and under one vertex target by target. -/
theorem arcs_eq_flatMap (g : Multigraph ν α κ ε) :
    g.arcs = g.vertices.keys.flatMap fun u =>
      (g.targets u).flatMap fun v => (g.bundle u v).map fun r => ⟨u, v, r.1, r.2⟩ := by
  rw [arcs, OrderedMap.entries_eq_flatMap, List.flatMap_assoc]
  apply List.flatMap_congr
  intro u _
  rw [targets]
  cases hu : g.vertices.get? u with
  | none => rfl
  | some w =>
    rw [Option.map_some, Option.toList_some, List.flatMap_singleton, arcsFrom,
      OrderedMap.entries_eq_flatMap, List.flatMap_assoc, Option.elim_some]
    apply List.flatMap_congr
    intro v _
    rw [bundle, hu, Option.bind_some]
    cases w.out.get? v <;> simp

/-- The labels are listed vertex by vertex. -/
theorem nodes_eq_flatMap (g : Multigraph ν α κ ε) :
    g.nodes = g.vertices.keys.flatMap fun u => ((g.label? u).map fun a => (u, a)).toList := by
  rw [nodes, OrderedMap.entries_eq_flatMap, List.map_flatMap]
  apply List.flatMap_congr
  intro u _
  rw [label?]
  cases g.vertices.get? u <;> rfl

/-- The value of an arc is found under its key among the arcs with the same ends. -/
theorem value?_eq_lookup [DecidableEq κ] (g : Multigraph ν α κ ε) (u v : ν) (k : κ) :
    g.value? u v k = OrderedMap.lookup k (g.bundle u v) := by
  rw [value?, bundle]
  cases hu : g.vertices.get? u with
  | none => rfl
  | some w =>
    rw [Option.bind_some, Option.bind_some]
    cases w.out.get? v <;> rfl

/-- The vertices that a vertex reaches and the arcs to each determine all its arcs. -/
theorem out_eq_of_views {u : ν} {w x : Vertex ν α κ ε} (hw : g.vertices.get? u = some w)
    (hx : h.vertices.get? u = some x) (htargets : g.targets u = h.targets u)
    (hbundle : ∀ v, g.bundle u v = h.bundle u v) : w.out = x.out := by
  have hkeys : w.out.keys = x.out.keys := by simpa [targets, hw, hx] using htargets
  apply OrderedMap.ext_get? hkeys
  intro v
  have hentries : (w.out.get? v).elim [] OrderedMap.entries =
      (x.out.get? v).elim [] OrderedMap.entries := by
    simpa [bundle, hw, hx] using hbundle v
  have hmem : (w.out.get? v).isSome ↔ (x.out.get? v).isSome := by
    rw [← OrderedMap.mem_keys_iff, ← OrderedMap.mem_keys_iff, hkeys]
  -- A vertex that is not reached and one that is reached by no arcs have the same bundle, so the
  -- targets are needed to tell them apart.
  cases hwv : w.out.get? v with
  | none =>
    cases hxv : x.out.get? v with
    | none => rfl
    | some ls => simp [hwv, hxv] at hmem
  | some ks =>
    cases hxv : x.out.get? v with
    | none => simp [hwv, hxv] at hmem
    | some ls =>
      rw [hwv, hxv] at hentries
      exact congrArg some (OrderedMap.ext_entries hentries)

/-- Multigraphs with the same views are equal. -/
theorem eq_of_views (hkeys : g.vertices.keys = h.vertices.keys)
    (hlabel : ∀ u, g.label? u = h.label? u) (htargets : ∀ u, g.targets u = h.targets u)
    (hbundle : ∀ u v, g.bundle u v = h.bundle u v) : g = h := by
  suffices hvertices : g.vertices = h.vertices by
    cases g
    cases h
    exact congrArg mk hvertices
  apply OrderedMap.ext_get? hkeys
  intro u
  -- The label tells whether `u` is a vertex at all.
  have hu : (g.vertices.get? u).map Vertex.label = (h.vertices.get? u).map Vertex.label := hlabel u
  cases hw : g.vertices.get? u with
  | none =>
    cases hx : h.vertices.get? u with
    | none => rfl
    | some x => simp [hw, hx] at hu
  | some w =>
    cases hx : h.vertices.get? u with
    | none => simp [hw, hx] at hu
    | some x =>
      have hout : w.out = x.out := out_eq_of_views hw hx (htargets u) (hbundle u)
      have hlabel : w.label = x.label := by simpa [hw, hx] using hu
      cases w
      cases x
      simp_all

end Views

section Growth

variable {g : Multigraph ν α κ ε} {u : ν}

/-- Vertices stand in the order in which they are first added. -/
theorem keys_addNode_concat {us : List ν} (h : g.vertices.keys = us.eraseDups) (u : ν) (a : α) :
    (g.addNode u a).vertices.keys = (us ++ [u]).eraseDups := by
  rw [keys_addNode, eraseDups_concat, h]
  simp only [List.mem_eraseDups]

/-- A vertex gets its label and changes no other. -/
theorem label?_addNode (g : Multigraph ν α κ ε) (u : ν) (a : α) (s : ν) :
    (g.addNode u a).label? s = if s = u then some a else g.label? s := by
  simp only [label?, addNode, OrderedMap.get?_upsert]
  split
  · cases g.vertices.get? u <;> rfl
  · rfl

@[simp]
theorem targets_addNode (g : Multigraph ν α κ ε) (u : ν) (a : α) (s : ν) :
    (g.addNode u a).targets s = g.targets s := by
  simp only [targets, addNode, OrderedMap.get?_upsert]
  split
  · next hs =>
    subst hs
    cases g.vertices.get? s <;> rfl
  · rfl

@[simp]
theorem bundle_addNode (g : Multigraph ν α κ ε) (u : ν) (a : α) (s t : ν) :
    (g.addNode u a).bundle s t = g.bundle s t := by
  simp only [bundle, addNode, OrderedMap.get?_upsert]
  split
  · next hs =>
    subst hs
    cases g.vertices.get? s <;> rfl
  · rfl

@[simp]
theorem label?_connect [DecidableEq κ] (g : Multigraph ν α κ ε) (u v : ν) (k : κ) (x : ε) (s : ν) :
    (g.connect u v k x).label? s = g.label? s := by
  simp only [label?, connect, OrderedMap.get?_modify]
  split
  · next hs =>
    subst hs
    cases g.vertices.get? s <;> rfl
  · rfl

/-- An arc from a known vertex puts its target last among those that the vertex reaches, unless
the vertex reaches it already. -/
theorem targets_connect [DecidableEq κ] (hu : u ∈ g.vertices.keys) (v : ν) (k : κ) (x : ε) (s : ν) :
    (g.connect u v k x).targets s =
      if s = u then if v ∈ g.targets u then g.targets u else g.targets u ++ [v]
      else g.targets s := by
  obtain ⟨w, hw⟩ := Option.isSome_iff_exists.1 (OrderedMap.mem_keys_iff.1 hu)
  have htargets : g.targets u = w.out.keys := by
    rw [targets, hw]
    rfl
  rw [targets, connect, OrderedMap.get?_modify]
  by_cases hs : s = u
  · -- The targets of `u` are the keys of a map in which the bundle to `v` is replaced.
    rw [if_pos hs, if_pos hs, hw, htargets]
    exact OrderedMap.keys_upsert w.out v _
  · rw [if_neg hs, if_neg hs]
    rfl

/-- A new arc from a known vertex comes last among those with the same ends. -/
theorem bundle_connect [DecidableEq κ] (hu : u ∈ g.vertices.keys) (v : ν) (k : κ) (x : ε)
    (hk : k ∉ (g.bundle u v).map Prod.fst) (s t : ν) :
    (g.connect u v k x).bundle s t =
      if s = u ∧ t = v then g.bundle u v ++ [(k, x)] else g.bundle s t := by
  obtain ⟨w, hw⟩ := Option.isSome_iff_exists.1 (OrderedMap.mem_keys_iff.1 hu)
  simp only [bundle, connect, OrderedMap.get?_modify]
  by_cases hs : s = u
  · rw [if_pos hs, hw, Option.map_some, Option.bind_some, OrderedMap.get?_upsert]
    by_cases ht : t = v
    · -- The bundle that is replaced is empty if `u` does not reach `v` yet.
      have hlast : ((w.out.get? v).getD .empty).entries = g.bundle u v := by
        rw [bundle, hw, Option.bind_some]
        cases w.out.get? v <;> rfl
      rw [if_pos ht, if_pos ⟨hs, ht⟩]
      show OrderedMap.place k (fun _ => x) ((w.out.get? v).getD .empty).entries = _
      rw [hlast, OrderedMap.place_of_notMem hk, bundle, hw, Option.bind_some]
    · rw [if_neg ht, if_neg fun h => ht h.2, hs, hw, Option.bind_some]
  · rw [if_neg hs, if_neg fun h => hs h.1]

end Growth

/-- The arcs of a multigraph, in the order in which they were drawn. -/
structure Laid (g : Multigraph ν α κ ε) (as : List (Arc ν κ ε)) : Prop where
  /-- Every arc leaves a vertex. -/
  source_mem : ∀ a ∈ as, a.source ∈ g.vertices.keys
  /-- Arcs with the same ends differ in their keys. -/
  nodup_places : (as.map Arc.place).Nodup
  /-- A vertex reaches the targets of its arcs, in the order of the first arc to each. -/
  targets_eq : ∀ u, g.targets u = ((as.filter fun a => a.source = u).map Arc.target).eraseDups
  /-- Between two vertices stand the arcs with these ends, in order. -/
  bundle_eq : ∀ u v, g.bundle u v =
    ((as.filter fun a => a.source = u).filter fun a => a.target = v).map fun a => (a.key, a.value)

namespace Laid

variable {g : Multigraph ν α κ ε} {as bs : List (Arc ν κ ε)} {a : Arc ν κ ε}

theorem empty : (Multigraph.empty : Multigraph ν α κ ε).Laid [] where
  source_mem := by simp
  nodup_places := List.nodup_nil
  targets_eq _ := rfl
  bundle_eq _ _ := rfl

/-- A vertex leaves the layout of the arcs as it is. -/
theorem addNode (h : g.Laid as) (u : ν) (x : α) : (g.addNode u x).Laid as where
  source_mem b hb := by
    rw [keys_addNode]
    split
    · exact h.source_mem b hb
    · exact List.mem_append_left _ (h.source_mem b hb)
  nodup_places := h.nodup_places
  targets_eq s := by rw [targets_addNode, h.targets_eq]
  bundle_eq s t := by rw [bundle_addNode, h.bundle_eq]

/-- The keys of the arcs between two vertices single out the arcs. -/
theorem mem_bundle_iff (h : g.Laid as) (u v : ν) (k : κ) :
    k ∈ (g.bundle u v).map Prod.fst ↔ (u, v, k) ∈ as.map Arc.place := by
  rw [h.bundle_eq]
  simp only [List.map_map, List.mem_map, List.mem_filter, Function.comp_apply, Arc.place,
    Prod.mk.injEq, decide_eq_true_eq]
  constructor
  · rintro ⟨b, ⟨⟨hb, hu⟩, hv⟩, hk⟩
    exact ⟨b, hb, hu, hv, hk⟩
  · rintro ⟨b, hb, hu, hv, hk⟩
    exact ⟨b, ⟨⟨hb, hu⟩, hv⟩, hk⟩

/-- A new arc from a known vertex is laid out last. -/
theorem connect [DecidableEq κ] (h : g.Laid as) (ha : a.source ∈ g.vertices.keys)
    (hnew : a.place ∉ as.map Arc.place) :
    (g.connect a.source a.target a.key a.value).Laid (as ++ [a]) where
  source_mem b hb := by
    rw [keys_connect]
    rcases List.mem_append.1 hb with hb | hb
    · exact h.source_mem b hb
    · exact List.mem_singleton.1 hb ▸ ha
  nodup_places := by
    rw [List.map_append, List.map_singleton]
    exact List.nodup_append.2 ⟨h.nodup_places, List.nodup_singleton _, fun p hp q hq e =>
      hnew (List.mem_singleton.1 hq ▸ e ▸ hp)⟩
  targets_eq s := by
    rw [targets_connect ha, List.filter_append, List.map_append]
    -- The arc counts among those from `s` just if it starts there.
    by_cases hs : s = a.source
    · have hone : ([a].filter fun b => b.source = s) = [a] := by simp [hs]
      rw [hone, List.map_singleton, eraseDups_concat, if_pos hs, h.targets_eq, hs]
      simp only [List.mem_eraseDups]
    · have hnone : ([a].filter fun b => b.source = s) = [] := by simp [Ne.symm hs]
      rw [hnone, List.map_nil, List.append_nil, if_neg hs, h.targets_eq]
  bundle_eq s t := by
    have hk : a.key ∉ (g.bundle a.source a.target).map Prod.fst := by
      rwa [h.mem_bundle_iff]
    rw [bundle_connect ha _ _ _ hk, List.filter_append, List.filter_append, List.map_append]
    -- The arc counts among those from `s` to `t` just if these are its ends.
    by_cases hst : s = a.source ∧ t = a.target
    · have hone : (([a].filter fun b => b.source = s).filter fun b => b.target = t) = [a] := by
        simp [hst.1, hst.2]
      rw [hone, if_pos hst, h.bundle_eq, hst.1, hst.2]
      rfl
    · have hnone : (([a].filter fun b => b.source = s).filter fun b => b.target = t) = [] := by
        rw [List.filter_filter, List.filter_eq_nil_iff]
        intro b hb hbst
        rw [List.mem_singleton.1 hb] at hbst
        simp only [Bool.and_eq_true, decide_eq_true_eq] at hbst
        exact hst ⟨hbst.2.symm, hbst.1.symm⟩
      rw [hnone, if_neg hst, h.bundle_eq, List.map_nil, List.append_nil]

/-- New arcs from known vertices are laid out one after another. -/
theorem foldl_connect [DecidableEq κ] (h : g.Laid as) (hbs : ∀ b ∈ bs, b.source ∈ g.vertices.keys)
    (hnew : ((as ++ bs).map Arc.place).Nodup) :
    (bs.foldl (fun g b => g.connect b.source b.target b.key b.value) g).Laid (as ++ bs) := by
  induction bs generalizing g as with
  | nil => simpa using h
  | cons b bs ih =>
    have hb : b.place ∉ as.map Arc.place := by
      rw [List.map_append, List.map_cons] at hnew
      intro hmem
      exact (List.nodup_append.1 hnew).2.2 _ hmem _ List.mem_cons_self rfl
    rw [List.append_cons] at hnew ⊢
    apply ih (h.connect (hbs b List.mem_cons_self) hb) _ hnew
    -- An arc changes no vertex, so the other arcs still leave known ones.
    intro c hc
    rw [keys_connect]
    exact hbs c (List.mem_cons_of_mem _ hc)

/-- The listing of the arcs gathers them in the order of the vertices. -/
theorem arcs_eq (h : g.Laid as) : g.arcs = gathered g.vertices.keys as := by
  rw [arcs_eq_flatMap, gathered]
  apply List.flatMap_congr
  intro u _
  rw [h.targets_eq, grouped]
  apply List.flatMap_congr
  intro v _
  -- An arc of a bundle is put together again from its ends, its key and its value.
  have hself : ∀ a ∈ (as.filter fun a => a.source = u).filter fun a => a.target = v,
      (⟨u, v, a.key, a.value⟩ : Arc ν κ ε) = a := by
    intro a ha
    simp only [List.mem_filter, decide_eq_true_eq] at ha
    rw [← ha.1.2, ← ha.2]
  rw [h.bundle_eq, List.map_map]
  exact (List.map_congr_left hself).trans (List.map_id _)

theorem arcs_perm (h : g.Laid as) : g.arcs.Perm as := by
  rw [h.arcs_eq]
  exact perm_gathered g.vertices.nodup_keys h.source_mem

/-- An arc is listed if it was drawn. -/
theorem mem_arcs (h : g.Laid as) : a ∈ g.arcs ↔ a ∈ as := h.arcs_perm.mem_iff

/-- There is an arc at a place if one was drawn there. -/
theorem hasArc_iff [DecidableEq κ] (h : g.Laid as) (u v : ν) (k : κ) :
    g.hasArc u v k = true ↔ (u, v, k) ∈ as.map Arc.place := by
  rw [hasArc, value?_eq_lookup, OrderedMap.isSome_lookup_iff, h.mem_bundle_iff]

end Laid

end Multigraph

end StaticAccess
