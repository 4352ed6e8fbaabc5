import AdminQuery.Schema.Registry
import Mathlib.Data.List.Nodup

/-!
# What a registry goes through

A registry changes while it is in use: types come, go, and come back.

* `Registry.Operation`: one change
* `Registry.apply`, `Registry.run`: the registry after one change, and after many
* `NamesNodup.apply`, `NamesNodup.run`: **no name is registered twice**, after one change and after many
* `namesNodup_registry`: nor in the registry of a catalog
-/

namespace AdminQuery

namespace Registry

/-- One change of a registry. -/
inductive Operation where
  | register (record : RecordType)
  | unregister (name : String)
  | clear
  deriving DecidableEq, Repr

/-- The registry after one change. -/
def apply (registry : Registry) : Operation → Registry
  | .register record => registry.register record
  | .unregister name => registry.unregister name
  | .clear => empty

/-- The registry after one change after the other. -/
def run (registry : Registry) (operations : List Operation) : Registry :=
  operations.foldl apply registry

/-- The names of the registered types are distinct. -/
def NamesNodup (registry : Registry) : Prop :=
  (registry.types.map RecordType.name).Nodup

theorem namesNodup_empty : empty.NamesNodup :=
  List.nodup_nil

/-- **One change registers no name twice.** -/
theorem NamesNodup.apply {registry : Registry} (h : registry.NamesNodup) (operation : Operation) :
    (registry.apply operation).NamesNodup := by
  cases operation with
  | register record =>
    show ((Keyed.upsert RecordType.name record registry.types).map RecordType.name).Nodup
    rw [Keyed.map_key_upsert]
    split
    · exact h
    · rename_i hnew
      apply List.Nodup.append h (List.nodup_singleton _)
      intro name hname hrecord
      rw [List.mem_singleton.1 hrecord] at hname
      exact hnew hname
  | unregister name =>
    show ((Keyed.erase RecordType.name name registry.types).map RecordType.name).Nodup
    rw [Keyed.map_key_erase]
    exact h.erase name
  | clear => exact namesNodup_empty

/-- **No run registers a name twice.** -/
theorem NamesNodup.run {registry : Registry} (h : registry.NamesNodup) (operations : List Operation) :
    (registry.run operations).NamesNodup := by
  induction operations generalizing registry with
  | nil => exact h
  | cons operation rest ih => exact ih (h.apply operation)

/-- Types registered one after the other are a run. -/
theorem ofList_eq_run (records : List RecordType) :
    ofList records = empty.run (records.map .register) := by
  rw [ofList, run, List.foldl_map]
  rfl

/-- **Each registered type is registered once.** -/
theorem NamesNodup.types_nodup {registry : Registry} (h : registry.NamesNodup) :
    registry.types.Nodup :=
  h.of_map RecordType.name

end Registry

/-- The registry of a catalog holds no name twice, also where the catalog does. -/
theorem Catalog.namesNodup_registry (catalog : Catalog) : catalog.registry.NamesNodup := by
  rw [Catalog.registry, Registry.ofList_eq_run]
  exact Registry.namesNodup_empty.run _

end AdminQuery
