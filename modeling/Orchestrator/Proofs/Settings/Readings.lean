import Orchestrator.Proofs.Settings.Values
import Orchestrator.Settings.Reading

/-!
# What a typed reading gives

A scalar reading takes the last of the values at a path, and where there are no values it gives
nothing.  A text and a path are any last value, and a list is any values, so that only the readings
of switches, numbers and characters can fail.

* `read?_of_last`: the readings of the last value, with `read?_text`, `read?_path` and
  `read?_character` as its cases.
* `read?_list`, `readD_list_nil`: the readings of all values.
-/

namespace Orchestrator
namespace SettingsTree

variable {α : Type} (t : SettingsTree) (path : List String)

/-- **A reading of the last value** gives nothing where there is none, and fails when the value does
not fit. -/
theorem read?_of_last {r : Reading α} {g : String → Option α}
    (hr : ∀ values, r.ofValues values = values.getLast?.bind g) :
    t.read? r path =
      match (t.namesAt path).getLast? with
      | none => .ok none
      | some v =>
        match g v with
        | some a => .ok (some a)
        | none => .error (.cast path (t.namesAt path) r.kind) := by
  rw [read?, get?_eq_namesAt]
  generalize t.namesAt path = names
  by_cases hnames : names = []
  · rw [if_pos hnames, hnames]
    rfl
  · have hlast : r.ofValues names = g (names.getLast hnames) := by
      rw [hr, List.getLast?_eq_some_getLast hnames, Option.bind_some]
    rw [if_neg hnames, List.getLast?_eq_some_getLast hnames]
    cases hg : g (names.getLast hnames) <;> simp only [hlast, hg]

/-- A reading of the last value that any value fits does not fail. -/
theorem read?_of_map_getLast? {r : Reading α} {f : String → α}
    (hr : ∀ values, r.ofValues values = values.getLast?.map f) :
    t.read? r path = .ok ((t.namesAt path).getLast?.map f) := by
  have hlast : ∀ values, r.ofValues values = values.getLast?.bind fun v => some (f v) := by
    intro values
    rw [hr, Option.map_eq_bind]
    rfl
  rw [t.read?_of_last path hlast]
  cases (t.namesAt path).getLast? <;> rfl

theorem read?_text : t.read? .text path = .ok (t.namesAt path).getLast? := by
  rw [t.read?_of_map_getLast? path fun _ => Option.map_id'.symm, Option.map_id']

theorem read?_path : t.read? .path path = .ok ((t.namesAt path).getLast?.map .ofText) :=
  t.read?_of_map_getLast? path fun _ => rfl

/-- A value is a character when it is the only one in it. -/
theorem read?_character :
    t.read? .character path =
      match (t.namesAt path).getLast? with
      | none => .ok none
      | some v =>
        match v.toList with
        | [c] => .ok (some c)
        | _ => .error (.cast path (t.namesAt path) .character) := by
  rw [t.read?_of_last path fun _ => rfl]
  cases (t.namesAt path).getLast? with
  | none => rfl
  | some v =>
    dsimp only
    rcases v.toList with _ | ⟨c, _ | ⟨d, cs⟩⟩ <;> rfl

theorem read?_list :
    t.read? .list path = .ok (if t.namesAt path = [] then none else some (t.namesAt path)) := by
  rw [read?, get?_eq_namesAt]
  by_cases hnames : t.namesAt path = []
  · simp only [if_pos hnames]
  · simp only [if_neg hnames]
    rfl

theorem readD_list_nil : t.readD .list path [] = .ok (t.namesAt path) := by
  rw [readD, read?_list]
  split
  · rename_i hnames
    rw [hnames]
    rfl
  · rfl

end SettingsTree
end Orchestrator
