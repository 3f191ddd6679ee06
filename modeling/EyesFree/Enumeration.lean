namespace EyesFree

/-! Finite types with a fixed order. Metadata keys are such types: the order in which their
constructors are declared is the order in which maps and key sets are traversed and written. -/

/-- A list of all values of `α`, each exactly once. -/
class Enumeration (α : Type) where
  values : List α
  nodup : values.Nodup
  complete : ∀ value, value ∈ values

namespace Enumeration

def ordinal {α : Type} [Enumeration α] [DecidableEq α] (value : α) : Nat :=
  (Enumeration.values : List α).idxOf value

/-- The value that carries a given name, if any does. -/
def named? {α : Type} [Enumeration α] (name : α → String) (text : String) : Option α :=
  Enumeration.values.find? (name · = text)

/-- Names that tell the values apart are read back as what they name. -/
theorem named?_name {α : Type} [Enumeration α] {name : α → String}
    (distinct : Function.Injective name) (value : α) : named? name (name value) = some value := by
  obtain ⟨found, foundEqual⟩ : ∃ found, named? name (name value) = some found :=
    Option.isSome_iff_exists.mp
      (List.find?_isSome.mpr ⟨value, Enumeration.complete value, by simp⟩)
  have sameName : name found = name value := by simpa using List.find?_some foundEqual
  rw [foundEqual, distinct sameName]

end Enumeration

end EyesFree
