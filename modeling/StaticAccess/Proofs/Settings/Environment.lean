import StaticAccess.Proofs.Settings.Precedence
import StaticAccess.Proofs.Store.Layout

/-!
# Variables of the environment

Variables are assigned one after another. A name that is assigned again takes the new value, but
keeps its place among the names. A name in another case is another name with a place of its own,
and yet it stands for the same setting. Of all names for a setting the last one counts, so that the
assignment that comes last is not always the one that counts.

## Main definitions

- `lastValue?`: the value that was assigned to a name last.
- `settled`: the names with their values after some assignments.

## Main results

- `OrderedMap.keys_ofList`, `OrderedMap.get?_ofList`: the two rules of assignment.
- `OrderedMap.entries_ofList`: assignments settle as the rules say.
- `Sources.fromEnv_settled`: the value that the environment gives a setting.
-/

namespace StaticAccess

section Assignments

variable {α β : Type} [DecidableEq α]

/-- The value that was assigned to a name last. -/
def lastValue? (l : List (α × β)) (k : α) : Option β :=
  (l.filter fun p => p.1 = k).getLast?.map Prod.snd

/-- The names with their values after some assignments: each name at the place of its first
assignment, with the value of its last one. -/
def settled (l : List (α × β)) : List (α × β) :=
  (l.map Prod.fst).eraseDups.filterMap fun k => (lastValue? l k).map fun b => (k, b)

/-- One more assignment changes the last value of its own name only. -/
theorem lastValue?_concat (l : List (α × β)) (e : α × β) (k : α) :
    lastValue? (l ++ [e]) k = if k = e.1 then some e.2 else lastValue? l k := by
  rw [lastValue?, List.filter_append]
  by_cases h : k = e.1
  · have hone : [e].filter (fun p => p.1 = k) = [e] := by simp [h]
    rw [hone, List.getLast?_concat, if_pos h, Option.map_some]
  · have hnone : [e].filter (fun p => p.1 = k) = [] := by simp [Ne.symm h]
    rw [hnone, List.append_nil, if_neg h, lastValue?]

namespace OrderedMap

/-- The keys have the places of their first assignments. -/
theorem keys_ofList (l : List (α × β)) : (ofList l).keys = (l.map Prod.fst).eraseDups := by
  -- From the end, as the last assignment adds its name to what the others have made, or does not.
  induction l using List.reverseRecOn with
  | nil => rfl
  | append_singleton l e ih =>
    rw [ofList_concat, keys_set, ih, List.map_append, List.map_singleton, eraseDups_concat]
    simp only [List.mem_eraseDups]

/-- The keys have the values of their last assignments. -/
theorem get?_ofList (l : List (α × β)) (k : α) : (ofList l).get? k = lastValue? l k := by
  induction l using List.reverseRecOn with
  | nil => rfl
  | append_singleton l e ih => rw [ofList_concat, get?_set, ih, lastValue?_concat]

/-- Assignments settle as the two rules say. -/
theorem entries_ofList (l : List (α × β)) : (ofList l).entries = settled l := by
  rw [entries_eq_flatMap, keys_ofList, settled, List.filterMap_eq_flatMap_toList]
  simp only [get?_ofList]

end OrderedMap

/-- Names can be singled out before assignments settle or after. -/
theorem filter_settled (p : α → Bool) (l : List (α × β)) :
    (settled l).filter (fun e => p e.1) = settled (l.filter fun e => p e.1) := by
  rw [← OrderedMap.entries_ofList, OrderedMap.filter_entries_ofList, OrderedMap.entries_ofList]

/-- Nothing has settled only if nothing was assigned. -/
theorem settled_eq_nil_iff {l : List (α × β)} : settled l = [] ↔ l = [] := by
  constructor
  · intro h
    have hkeys : (l.map Prod.fst).eraseDups = [] := by
      rw [← OrderedMap.keys_ofList, OrderedMap.keys, OrderedMap.entries_ofList, h, List.map_nil]
    -- Each assigned name would be among the keys.
    refine List.eq_nil_iff_forall_not_mem.2 fun e he => ?_
    have hname : e.1 ∈ (l.map Prod.fst).eraseDups := List.mem_eraseDups.2 (List.mem_map_of_mem he)
    rw [hkeys] at hname
    exact List.not_mem_nil hname
  · rintro rfl
    rfl

end Assignments

namespace Sources

variable (s : Sources) (x : Setting)

/-- What the environment gives a setting, under any options: of the settled names that are the same
as the name of its variable when they are compared, and that count as given, the last one. -/
theorem fromEnv_eq_settled :
    s.fromEnv x = (((settled s.env).filter fun p => s.options.kept p.2).filter fun p =>
      s.options.form p.1 = s.options.form (s.options.variableName x.name)).getLast?.map
        fun p => s.options.meaning p.2 := by
  rw [fromEnv, lastMatch, environment, OrderedMap.entries_ofList, Option.map_map]
  rfl

/-- The value that the environment gives a setting. Every name has the place of its first assignment
and the value of its last one; of the names that are the same as that of the variable when they are
compared, and that count as given, the last one counts, whatever the options. Without options, names
are compared in lower case, and all count as given. Then the environment gives no value only if no
variable has such a name, assignments to other names do not matter, wherever they stand, and the
value of the environment is the one that the setting takes, unless an argument names the setting. -/
theorem fromEnv_settled :
    s.fromEnv x = (((settled s.env).filter fun p => s.options.kept p.2).filter fun p =>
        s.options.form p.1 = s.options.form (s.options.variableName x.name)).getLast?.map
          (fun p => s.options.meaning p.2) ∧
      (s.options = .standard →
        let named : String × String → Bool := fun p =>
          Text.lowerCase p.1 = Text.lowerCase ("STATIC_USAGE_" ++ x.name)
        s.fromEnv x = ((settled s.env).filter named).getLast?.map (fun p => .string p.2) ∧
        (s.fromEnv x = none ↔ ∀ p ∈ s.env, named p = false) ∧
        (∀ env : List (String × String), env.filter named = s.env.filter named →
          fromEnv { s with env := env } x = s.fromEnv x) ∧
        (s.argumentFor x = none → ∀ value, s.fromEnv x = some value →
          s.winner x = .ok value)) := by
  refine ⟨s.fromEnv_eq_settled x, ?_⟩
  intro h named
  -- Said of all sources with the same options, as the assignments vary below.
  have hvalue (t : Sources) (ht : t.options = .standard) :
      t.fromEnv x = (settled (t.env.filter named)).getLast?.map fun p => .string p.2 := by
    have hkept : (settled t.env).filter (fun p => Options.standard.kept p.2) = settled t.env :=
      List.filter_eq_self.2 fun _ _ => rfl
    rw [fromEnv_eq_settled, ht, hkept, ← filter_settled fun name =>
      Text.lowerCase name = Text.lowerCase ("STATIC_USAGE_" ++ x.name)]
    rfl
  refine ⟨?_, ?_, fun env henv => ?_, fun hnone value hgiven => ?_⟩
  · rw [hvalue s h, ← filter_settled fun name =>
      Text.lowerCase name = Text.lowerCase ("STATIC_USAGE_" ++ x.name)]
  · rw [hvalue s h, Option.map_eq_none_iff, List.getLast?_eq_none_iff, settled_eq_nil_iff,
      List.filter_eq_nil_iff]
    simp only [Bool.not_eq_true]
  · rw [hvalue s h, ← henv]
    exact hvalue { s with env := env } h
  · rw [winner_eq h, winning, hnone, ← fromEnv_eq h, hgiven]
    rfl

/-- The value of the last assignment does not count here: its name has been assigned before, and
another name for the same setting since then. -/
theorem fromEnv_settled_repeated :
    let s : Sources := ⟨[], [("STATIC_USAGE_LOG_LEVEL", "debug"), ("LEVEL", "info"),
      ("Static_Usage_Log_Level", "error"), ("STATIC_USAGE_LOG_LEVEL", "warning")], none⟩
    s.options = .standard ∧
      settled s.env = [("STATIC_USAGE_LOG_LEVEL", "warning"), ("LEVEL", "info"),
        ("Static_Usage_Log_Level", "error")] ∧
      s.fromEnv .logLevel = some (.string "error") ∧
      s.winner .logLevel = .ok (.string "error") := by
  intro s
  have hoptions : s.options = .standard := Options.ofArguments_eq_standard (by decide)
  obtain ⟨-, hstandard⟩ := s.fromEnv_settled .logLevel
  obtain ⟨hvalue, -, -, hwinner⟩ := hstandard hoptions
  have hgiven : s.fromEnv .logLevel = some (.string "error") := by
    have hlast : ((settled s.env).filter fun p => Text.lowerCase p.1 =
        Text.lowerCase ("STATIC_USAGE_" ++ Setting.logLevel.name)).getLast? =
          some ("Static_Usage_Log_Level", "error") := by decide +kernel
    rw [hvalue, hlast]
    rfl
  exact ⟨hoptions, by decide, hgiven, hwinner rfl _ hgiven⟩

end Sources

end StaticAccess
