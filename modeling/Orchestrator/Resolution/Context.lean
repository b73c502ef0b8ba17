import Orchestrator.Journal
import Orchestrator.Resolution.Error
import Orchestrator.Settings.Scoped

/-!
# Where a resolution stands

A command is resolved inside the commands and plugins that led to it.  The chain of their names
is what keeps resolution finite: no name may enter it twice.

* `Configuration`: what stays the same during a run.
* `Frame`: the chain of names, and the command to which the settings of plugins are scoped.
* `Frame.enter`, `Frame.descend`, `Frame.scopedTo`: the three ways to a new frame.
* `Configuration.freshNames`: the names that may still enter the chain.
-/

namespace Orchestrator

/-- What stays the same during a run. -/
structure Configuration where
  options : RunOptions
  settings : SettingsTree
  patterns : PatternRegistry
  plugins : PluginRegistry

/-- Where a resolution stands. -/
structure Frame where
  /-- The commands and plugins that are being resolved, outermost first. -/
  chain : List String
  /-- The command to which the settings of plugins are scoped, `none` at the top. -/
  initialCommand : Option String
  deriving DecidableEq, Repr

namespace Frame

/-- The frame at the top of a run. -/
def root : Frame := ⟨[], none⟩

/-- The frame inside a plugin, or the cycle that this would close. -/
def enter (f : Frame) (name : String) : Except DispatchError Frame :=
  if name ∈ f.chain then .error (.cyclicCommand (f.chain ++ [name]))
  else .ok { f with chain := f.chain ++ [name] }

/-- The frame inside a command of the settings, which scopes the settings of plugins from here
on. -/
def descend (f : Frame) (command : String) : Except DispatchError Frame :=
  (f.enter command).map fun g => { g with initialCommand := some command }

/-- The frame with another scope and the same chain. -/
def scopedTo (f : Frame) (command : String) : Frame :=
  { f with initialCommand := some command }

/-- The command to which the settings of a plugin are scoped: at the top, its own name. -/
def scopedCommand (f : Frame) (plugin : String) : String :=
  f.initialCommand.getD plugin

@[simp] theorem chain_scopedTo (f : Frame) (command : String) :
    (f.scopedTo command).chain = f.chain := rfl

theorem chain_of_enter {f g : Frame} {name : String} (h : f.enter name = .ok g) :
    name ∉ f.chain ∧ g.chain = f.chain ++ [name] := by
  unfold enter at h
  split at h
  · cases h
  · rename_i hn
    cases h
    exact ⟨hn, rfl⟩

theorem chain_of_descend {f g : Frame} {name : String} (h : f.descend name = .ok g) :
    name ∉ f.chain ∧ g.chain = f.chain ++ [name] := by
  unfold descend at h
  cases he : f.enter name with
  | error e => rw [he] at h; cases h
  | ok g' =>
    rw [he] at h
    cases h
    have hc := chain_of_enter he
    exact hc

end Frame

namespace Configuration

/-- The names that resolution can ever put on the chain: plugins, and sections of the settings. -/
def knownNames (cfg : Configuration) : List String :=
  cfg.plugins.byName.keys ++ cfg.settings.children.map SettingsTree.key

/-- The known names that are not on the chain of a frame. -/
def freshNames (cfg : Configuration) (f : Frame) : List String :=
  cfg.knownNames.filter fun n => n ∉ f.chain

theorem mem_knownNames_of_plugin {cfg : Configuration} {name : String} {p : Plugin}
    (h : cfg.plugins.get? name = some p) : name ∈ cfg.knownNames := by
  unfold PluginRegistry.get? KeyedMap.get? at h
  obtain ⟨e, he, -⟩ := Option.map_eq_some_iff.1 h
  have hmem := List.mem_of_find?_eq_some he
  have hkey : e.1 = name := by simpa using List.find?_some he
  exact List.mem_append_left _ (List.mem_map.2 ⟨e, hmem, hkey⟩)

theorem mem_knownNames_of_settings {cfg : Configuration} {name : String} {values : List String}
    (h : cfg.settings.get? [name] = some values) : name ∈ cfg.knownNames := by
  unfold SettingsTree.get? at h
  obtain ⟨c, hc, -⟩ := Option.bind_eq_some_iff.1 h
  rw [SettingsTree.childAt?_cons] at hc
  obtain ⟨d, hd, -⟩ := Option.bind_eq_some_iff.1 hc
  exact List.mem_append_right _
    (List.mem_map.2 ⟨d, SettingsTree.mem_children_of_child? hd, SettingsTree.key_eq_of_child? hd⟩)

/-- One fewer name is fresh when a known name has entered the chain. -/
theorem length_freshNames_lt {cfg : Configuration} {f g : Frame} {name : String}
    (hmem : name ∈ cfg.knownNames) (hnew : name ∉ f.chain) (hg : g.chain = f.chain ++ [name]) :
    (cfg.freshNames g).length < (cfg.freshNames f).length := by
  unfold freshNames
  have hsub : ∀ l : List String,
      (l.filter fun n => n ∉ g.chain).length ≤ (l.filter fun n => n ∉ f.chain).length := by
    intro l
    induction l with
    | nil => simp
    | cons a l ih =>
      by_cases ha : a ∈ f.chain
      · simp [ha, hg] at ih ⊢
        omega
      · by_cases ha' : a = name
        · simp [ha', hnew, hg] at ih ⊢
          omega
        · simp [ha, ha', hg] at ih ⊢
          omega
  generalize cfg.knownNames = u at hmem
  induction u with
  | nil => cases hmem
  | cons a u ih =>
    by_cases ha : a = name
    · subst ha
      have := hsub u
      simp [hnew, hg] at this ⊢
      omega
    · have hu : name ∈ u := by
        rcases List.mem_cons.1 hmem with h | h
        · exact absurd h.symm ha
        · exact h
      have := ih hu
      by_cases haf : a ∈ f.chain
      · simp [haf, hg] at this ⊢
        omega
      · simp [haf, ha, hg] at this ⊢
        omega

end Configuration
end Orchestrator
