import ImageBuild.Proofs.Log.Assigned
import Mathlib.Data.List.Infix

namespace ImageBuild.Log

open Data Text

def wildcard : String := ".*"

/-- Where a name belongs that is no short one: below the root of all channels, or nowhere in particular. -/
def placed (base : List Char) : String :=
  if !root.toList.isPrefixOf base && families.contains (String.ofList ((splitAll '.' base).headD [])) then
    root ++ String.ofList base
  else String.ofList base

section names

variable {name channel : String} {base : List Char}

theorem channelName_short (short : (name, channel) ∈ aliases) : channelName name = channel := by
  have distinct : aliases.Pairwise fun a b => a.1 ≠ b.1 := by decide
  rw [channelName, lookup_of_distinct distinct short]

theorem channelName_long (long : aliases.lookup name = none) :
    channelName name = placed (stripWildcard name.toList) := by
  rw [channelName, long]
  rfl

theorem stripWildcard_append (base : List Char) : stripWildcard (base ++ wildcard.toList) = base := by
  have ends : (['.', '*']).isSuffixOf (base ++ wildcard.toList) := List.isSuffixOf_iff_suffix.2 (List.suffix_append _ _)
  rw [stripWildcard, if_pos ends, List.length_append]
  exact List.take_left

theorem stripWildcard_bare (bare : ¬wildcard.toList <:+ base) : stripWildcard base = base :=
  if_neg (mt List.isSuffixOf_iff_suffix.1 bare)

/-- No short name has a wildcard, so a name with one is not looked up. -/
theorem channelName_wildcard (name : String) : channelName (name ++ wildcard) = placed name.toList := by
  have never : ∀ entry ∈ aliases, ¬wildcard.toList <:+ entry.1.toList := by decide
  have long : aliases.lookup (name ++ wildcard) = none := by
    rw [Option.eq_none_iff_forall_ne_some]
    intro channel found
    refine never _ (mem_of_lookup found) ?_
    rw [String.toList_append]
    exact List.suffix_append _ _
  rw [channelName_long long, String.toList_append, stripWildcard_append]

theorem placed_cases (base : List Char) :
    placed base = String.ofList base ∨
      placed base = root ++ String.ofList base ∧
        families.contains (String.ofList ((splitAll '.' base).headD [])) = true := by
  unfold placed
  split
  · rename_i belongs
    exact .inr ⟨rfl, (Bool.and_eq_true_iff.1 belongs).2⟩
  · exact .inl rfl

theorem channelName_rooted (bare : ¬wildcard.toList <:+ root.toList ++ base) :
    channelName (root ++ String.ofList base) = root ++ String.ofList base := by
  have never : ∀ entry ∈ aliases, ¬root.toList <+: entry.1.toList := by decide
  have whole : (root ++ String.ofList base).toList = root.toList ++ base := by
    rw [String.toList_append, String.toList_ofList]
  have below : root.toList.isPrefixOf (root.toList ++ base) = true :=
    List.isPrefixOf_iff_prefix.2 (List.prefix_append _ _)
  have long : aliases.lookup (root ++ String.ofList base) = none := by
    rw [Option.eq_none_iff_forall_ne_some]
    intro channel found
    refine never _ (mem_of_lookup found) ?_
    rw [whole]
    exact List.prefix_append _ _
  rw [channelName_long long, whole, stripWildcard_bare bare, placed, below, ← whole, String.ofList_toList]
  rfl

theorem bare_rooted (bare : ¬wildcard.toList <:+ base)
    (belongs : families.contains (String.ofList ((splitAll '.' base).headD [])) = true) :
    ¬wildcard.toList <:+ root.toList ++ base := by
  intro ends
  match base with
  | [] => exact absurd belongs (by decide)
  | [c] =>
    -- with the root's own dot before it, a single star would make a wildcard; it is no family
    obtain rfl : c = '*' := by
      have last := ends.getLast (by decide)
      simpa [wildcard] using last.symm
    exact absurd belongs (by decide)
  | c :: d :: rest =>
    refine bare (List.suffix_of_suffix_length_le ends (List.suffix_append _ _) ?_)
    simp [wildcard]

/-- Placing a name changes nothing about the channel that it stands for. -/
theorem channelName_placed (bare : ¬wildcard.toList <:+ name.toList) :
    channelName (placed name.toList) = channelName name := by
  have table : ∀ entry ∈ aliases, placed entry.1.toList = root ++ entry.1 → entry.2 = placed entry.1.toList := by decide
  rcases placed_cases name.toList with same | ⟨below, belongs⟩
  · rw [same, String.ofList_toList]
  · -- the table says of a short name that is a family what the rule would say
    have fixed := channelName_rooted (bare_rooted bare belongs)
    rw [below, fixed, ← below]
    cases found : aliases.lookup name with
    | none => rw [channelName_long found, stripWildcard_bare bare]
    | some channel =>
      have short := mem_of_lookup found
      rw [String.ofList_toList] at below
      rw [channelName_short short]
      exact (table _ short below).symm

theorem channelName_channelName (bare : ¬wildcard.toList <:+ name.toList) :
    channelName (channelName name) = channelName name := by
  have table : ∀ entry ∈ aliases, channelName entry.2 = entry.2 := by decide
  cases found : aliases.lookup name with
  | none =>
    have same := channelName_placed bare
    rw [channelName_long found, stripWildcard_bare bare] at same ⊢
    exact same
  | some channel =>
    have short := mem_of_lookup found
    rw [channelName_short short]
    exact table _ short

/-- A short name that no family has: behind it a wildcard hides what it is short for. -/
def Detached (name : String) : Prop := name ∈ aliases.map Prod.fst ∧ name ∉ families

instance (name : String) : Decidable (Detached name) := inferInstanceAs (Decidable (_ ∧ _))

theorem placed_detached (detached : Detached name) : placed name.toList = name := by
  have table : ∀ entry ∈ aliases, entry.1 ∉ families → placed entry.1.toList = entry.1 := by decide
  obtain ⟨short, unknown⟩ := detached
  obtain ⟨entry, known, rfl⟩ := List.mem_map.1 short
  exact table entry known unknown

theorem channelName_ne_of_detached (detached : Detached name) : channelName name ≠ name := by
  have table : ∀ entry ∈ aliases, entry.2 ≠ entry.1 := by decide
  obtain ⟨entry, known, rfl⟩ := List.mem_map.1 detached.1
  rw [channelName_short known]
  exact table entry known

theorem channelName_attached (bare : ¬wildcard.toList <:+ name.toList) (attached : ¬Detached name) :
    channelName name = placed name.toList := by
  have table : ∀ entry ∈ aliases, entry.1 ∈ families → entry.2 = placed entry.1.toList := by decide
  cases found : aliases.lookup name with
  | none => rw [channelName_long found, stripWildcard_bare bare]
  | some channel =>
    have known := mem_of_lookup found
    have family : name ∈ families := by_contra fun unknown => attached ⟨List.mem_map_of_mem known, unknown⟩
    rw [channelName_short known]
    exact table _ known family

end names

/-- A name stands for the same channel with a wildcard and without, unless it is a short name that no family has:
that one stands for itself then. A level for the one is a level for the other. -/
theorem wildcard_names_base {name : String} (bare : ¬wildcard.toList <:+ name.toList) :
    channelName (channelName name) = channelName name ∧
    channelName (channelName (name ++ wildcard)) = channelName name ∧
    (channelName (name ++ wildcard) = channelName name ↔ ¬Detached name) ∧
    (channelName (channelName (name ++ wildcard)) = channelName (name ++ wildcard) ↔ ¬Detached name) ∧
    (Detached name → channelName (name ++ wildcard) = name) ∧
    (¬Detached name → ∀ (environment : Environment) (logging : Logging) (value : Value),
      (logging.applyLevel environment (name ++ wildcard, value)).loggers =
        (logging.applyLevel environment (name, value)).loggers ∧
      ∀ level, levelOfName? value.display = some level →
        (logging.applyLevel environment (name ++ wildcard, value)).loggers.own (channelName name) = level) := by
  have again := channelName_placed bare
  have same : channelName (name ++ wildcard) = channelName name ↔ ¬Detached name := by
    rw [channelName_wildcard]
    constructor
    · intro same detached
      rw [placed_detached detached] at same
      exact channelName_ne_of_detached detached same.symm
    · intro attached
      exact (channelName_attached bare attached).symm
  refine ⟨channelName_channelName bare, ?_, same, ?_, ?_, ?_⟩
  · rw [channelName_wildcard, again]
  · rw [← same, channelName_wildcard, again, eq_comm]
  · intro detached
    rw [channelName_wildcard, placed_detached detached]
  · intro attached environment logging value
    have channel := same.2 attached
    refine ⟨?_, fun level known => ?_⟩
    · rw [loggers_applyLevel, loggers_applyLevel, assigned, assigned, channel]
    · have reached : assigned logging.loggers (name ++ wildcard, value) =
          logging.loggers.set (channelName (name ++ wildcard)) level := assigned_known known
      rw [loggers_applyLevel, reached, channel, Loggers.own_set_self]

theorem wildcard_names_base_access :
    ¬wildcard.toList <:+ "access".toList ∧ channelName ("access" ++ wildcard) = channelName "access" ∧
      channelName "access" = "dockbuilder.access" := by
  have bare : ¬wildcard.toList <:+ "access".toList := by decide
  have attached : ¬Detached "access" := by decide
  obtain ⟨-, -, same, -⟩ := wildcard_names_base bare
  exact ⟨bare, same.2 attached, by decide⟩

/-- A wildcard behind a short name hides what the name is short for. -/
theorem short_name_hidden :
    ¬wildcard.toList <:+ "pull".toList ∧ channelName ("pull" ++ wildcard) = "pull" ∧
      channelName "pull" = "dockbuilder.builder.pull" := by decide

end ImageBuild.Log
