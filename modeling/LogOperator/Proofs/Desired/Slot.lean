import LogOperator.Proofs.Reconcile.Action

/-!
# LogOperator.Proofs.Desired.Slot

The desired state as a table of twelve slots, one for each object that a pipeline can have.  A slot
has a kind and a name of its own; whether its object must be there, and with which content, is read
off the pipeline, the endpoint and the images:

* `entries_foundation`, `entries_remaining`, `entries_build` — the entries of a desired state are
  those of the slots, in order;
* `id_inj` — no two slots share an identity, in whatever namespaces they are;
* `fingerprint?_resource` — the fingerprint of a workload is that of its inputs (`parts?`).
-/

namespace LogOperator

open Component

/-! ## Labels -/

/-- The labels of everything the operator creates include its own. -/
theorem find?_managedLabels :
    managedLabels.find? Resource.managedByLabel = some Resource.managedBy := by
  rw [managedLabels, Dict.find?_insert, if_pos rfl]

/-- The annotation of a workload is the fingerprint of its inputs. -/
theorem ValidPipeline.annotation?_workloadMetadata (v : ValidPipeline) (name : String)
    (parts : List String) :
    (v.workloadMetadata name parts).annotation? Resource.fingerprintAnnotation
      = some (Fingerprint.ofParts parts) := by
  simp only [workloadMetadata, Metadata.annotation?, Option.bind_some]
  rw [Dict.find?_insert, if_pos rfl]

/-! ## Slots -/

/-- The places of a desired state, one for each object that a pipeline can have. -/
inductive Slot where
  | account
  | role
  | binding
  | searchWorkload
  | searchService
  | aggregatorService
  | aggregatorConfig
  | aggregatorWorkload
  | collectorConfig
  | collectorWorkload
  | dashboardWorkload
  | dashboardService
deriving DecidableEq

namespace Slot

/-- The slots that are settled before the endpoint is known, in order. -/
def foundation : List Slot :=
  [account, role, binding, searchWorkload, searchService]

/-- The slots that are settled after that, in order. -/
def consumers : List Slot :=
  [aggregatorService, aggregatorConfig, aggregatorWorkload, collectorConfig, collectorWorkload,
   dashboardWorkload, dashboardService]

/-- All slots in the order in which they are settled. -/
def all : List Slot :=
  foundation ++ consumers

/-! ## Identities -/

/-- The kind of a slot's object. -/
def kind : Slot → Kind
  | account => .serviceAccount
  | role => .clusterRole
  | binding => .clusterRoleBinding
  | aggregatorConfig | collectorConfig => .configMap
  | collectorWorkload => .daemonSet
  | searchWorkload | aggregatorWorkload | dashboardWorkload => .deployment
  | searchService | aggregatorService | dashboardService => .service

/-- The name of a slot's object. -/
def name : Slot → String
  | account => Identity.account
  | role | binding => Identity.role
  | searchWorkload | searchService => Component.SearchEngine.name
  | aggregatorService | aggregatorWorkload => Aggregator.name
  | aggregatorConfig => Aggregator.configName
  | collectorConfig => Collector.configName
  | collectorWorkload => Collector.name
  | dashboardWorkload | dashboardService => Dashboard.name

/-- The identity of a slot's object in a namespace. -/
def id (ns : String) (k : Slot) : Id :=
  ⟨k.kind, k.name, if k.kind.isNamespaced then some ns else none⟩

/-- Kind and name tell the slots apart. -/
theorem eq_of_kind_of_name {k l : Slot} (hk : k.kind = l.kind) (hn : k.name = l.name) : k = l := by
  revert hk hn
  cases k <;> cases l <;> decide

/-- **No two slots share an identity**, in whatever namespaces they are. -/
theorem id_inj {ns ns' : String} {k l : Slot} (h : k.id ns = l.id ns') : k = l :=
  eq_of_kind_of_name (congrArg Id.kind h) (congrArg Id.name h)

theorem id_ne {ns ns' : String} {k l : Slot} (h : k ≠ l) : k.id ns ≠ l.id ns' :=
  fun hid => h (id_inj hid)

/-- The identities of some slots are theirs alone. -/
theorem id_mem_map_iff {ns : String} {k : Slot} {ks : List Slot} :
    k.id ns ∈ ks.map (id ns) ↔ k ∈ ks := by
  refine ⟨fun h => ?_, List.mem_map_of_mem⟩
  obtain ⟨l, hl, hid⟩ := List.mem_map.1 h
  exact id_inj hid ▸ hl

/-! ## Order -/

theorem mem_all (k : Slot) : k ∈ all := by
  cases k <;> decide

/-- The foundation and the consumers have no slot in common. -/
theorem not_mem_consumers {k : Slot} (h : k ∈ foundation) : k ∉ consumers := by
  revert h
  cases k <;> decide

/-- The slots that are settled before a slot. -/
def before (k : Slot) : List Slot :=
  all.takeWhile (· ≠ k)

/-- What stands in front of a slot in the table is what is settled before it. -/
theorem eq_before {bs : List Slot} {k : Slot} (as : List Slot) (h : all = bs ++ k :: as) :
    bs = k.before := by
  have hnodup : (bs ++ k :: as).Nodup := h ▸ (by decide : all.Nodup)
  have hne : ∀ l ∈ bs, l ≠ k := fun l hl =>
    (List.nodup_append.1 hnodup).2.2 l hl k List.mem_cons_self
  rw [before, h, List.takeWhile_append_of_pos (by simpa using hne),
    List.takeWhile_cons_of_neg (by simp), List.append_nil]

theorem ne_of_mem_before {j k : Slot} (h : j ∈ k.before) : j ≠ k := by
  revert h
  cases j <;> cases k <;> decide

/-- A slot and those that are settled before it. -/
def through (k : Slot) : List Slot :=
  k.before ++ [k]

theorem before_trans {j k m : Slot} (hj : j ∈ k.before) (hk : k ∈ m.before) : j ∈ m.before := by
  have h : ∀ m ∈ all, ∀ k ∈ m.before, ∀ j ∈ k.before, j ∈ m.before := by decide
  exact h m m.mem_all k hk j hj

/-- What is settled before a slot of a span is in the span. -/
theorem through_of_before {j k m : Slot} (hj : j ∈ k.before) (hk : k ∈ m.through) :
    j ∈ m.through := by
  rcases List.mem_append.1 hk with hk | hk
  · exact List.mem_append_left _ (before_trans hj hk)
  · rw [List.mem_singleton.1 hk] at hj
    exact List.mem_append_left _ hj

/-- Of two slots, one is settled before the other. -/
theorem before_trichotomy (k l : Slot) : k ∈ l.before ∨ k = l ∨ l ∈ k.before := by
  have h : ∀ k ∈ all, ∀ l ∈ all, k ∈ l.before ∨ k = l ∨ l ∈ k.before := by decide
  exact h k k.mem_all l l.mem_all

/-- What is settled before a part of the foundation is part of it, too. -/
theorem mem_foundation_of_before {k l : Slot} (hk : k ∈ foundation) (hl : l ∈ k.before) :
    l ∈ foundation := by
  have h : ∀ k ∈ foundation, ∀ l ∈ k.before, l ∈ foundation := by decide
  exact h k hk l hl

/-- The foundation is settled before each consumer. -/
theorem mem_before_of_foundation {k l : Slot} (hl : l ∈ foundation) (hk : k ∈ consumers) :
    l ∈ k.before := by
  have h : ∀ k ∈ consumers, ∀ l ∈ foundation, l ∈ k.before := by decide
  exact h k hk l hl

/-! ## Dependents -/

/-- The workload that mounts the data of a slot. -/
def dependent? : Slot → Option Slot
  | aggregatorConfig => some aggregatorWorkload
  | collectorConfig => some collectorWorkload
  | _ => none

/-- A workload does not depend on itself. -/
theorem ne_of_dependent? {k l : Slot} (h : k.dependent? = some l) : l ≠ k := by
  revert h
  cases k <;> cases l <;> decide

/-- Only data that is mounted has a dependent workload. -/
theorem kind_of_dependent? {k l : Slot} (h : k.dependent? = some l) :
    k.kind = .configMap ∧ l.kind.isWorkload = true := by
  revert h
  cases k <;> cases l <;> decide

/-- Data is settled right before the workload that mounts it. -/
theorem before_of_dependent? {k l : Slot} (h : k.dependent? = some l) : l.before = k.through := by
  revert h
  cases k <;> cases l <;> decide

/-- Data is settled before the workload that mounts it. -/
theorem mem_before_of_dependent? {k l : Slot} (h : k.dependent? = some l) : k ∈ l.before := by
  rw [before_of_dependent? h]
  exact List.mem_append_right _ List.mem_cons_self

/-- Data that is mounted belongs to a consumer. -/
theorem mem_consumers_of_dependent? {k l : Slot} (h : k.dependent? = some l) : k ∈ consumers := by
  revert h
  cases k <;> cases l <;> decide

/-- A workload that mounts data is a consumer. -/
theorem dependent_mem_consumers {k l : Slot} (h : k.dependent? = some l) : l ∈ consumers := by
  revert h
  cases k <;> cases l <;> decide

/-! ## The table -/

/-- The slot's object must be there. -/
def enabled (v : ValidPipeline) : Slot → Bool
  | searchWorkload | searchService => v.managesSearchEngine
  | dashboardWorkload | dashboardService => v.spec.dashboard
  | _ => true

/-- The slot's object. -/
def resource (v : ValidPipeline) (e : Endpoint) (images : Images) : Slot → Resource
  | account => Identity.serviceAccount v
  | role => Identity.clusterRole
  | binding => Identity.clusterRoleBinding v
  | searchWorkload => SearchEngine.deployment v images
  | searchService => v.service Component.SearchEngine.name Component.SearchEngine.port none
  | aggregatorService => v.service Aggregator.name LogOperator.Aggregator.forwardPort none
  | aggregatorConfig => Aggregator.configMap v (RoutingTable.ofValid v).aggregatorFiles
  | aggregatorWorkload => Aggregator.deployment v (RoutingTable.ofValid v).aggregatorFiles e images
  | collectorConfig => Collector.configMap v (RoutingTable.ofValid v).collectorFiles
  | collectorWorkload => Collector.daemonSet v (RoutingTable.ofValid v).collectorFiles images
  | dashboardWorkload => Dashboard.deployment v e images
  | dashboardService => v.service Dashboard.name Dashboard.port (some "LoadBalancer")

/-- The inputs that the slot's workload is built from. -/
def parts? (v : ValidPipeline) (e : Endpoint) (images : Images) : Slot → Option (List String)
  | searchWorkload => some (SearchEngine.parts v images)
  | aggregatorWorkload =>
    some (Aggregator.parts (RoutingTable.ofValid v).aggregatorFiles e images)
  | collectorWorkload => some (Collector.parts (RoutingTable.ofValid v).collectorFiles images)
  | dashboardWorkload => some (Dashboard.parts v e images)
  | _ => none

/-- The slot's entry in the desired state. -/
def entry (v : ValidPipeline) (e : Endpoint) (images : Images) (k : Slot) : Entry :=
  if k.enabled v then .present (k.resource v e images) (k.dependent?.map (Slot.id v.ns))
  else .absent (k.id v.ns)

variable (v : ValidPipeline) (e : Endpoint) (images : Images)

/-! ## What the entries are -/

/-- **The entries of the foundation** are those of its slots. -/
theorem entries_foundation :
    (DesiredState.foundation v images).entries = foundation.map (entry v e images) := by
  unfold DesiredState.foundation SearchEngine.entries
  cases hm : v.managesSearchEngine <;>
    simp only [foundation, List.map, entry, enabled, hm] <;>
    rfl

/-- So are those of the consumers. -/
theorem entries_consumers :
    (DesiredState.consumers v e images).entries = consumers.map (entry v e images) := by
  unfold DesiredState.consumers Dashboard.entries
  cases hd : v.spec.dashboard <;>
    simp only [consumers, List.map, entry, enabled, hd] <;>
    rfl

/-- The levels that need the endpoint are the ones that are not settled before. -/
theorem entries_remaining :
    (DesiredState.build v e images).remaining.entries = consumers.map (entry v e images) :=
  entries_consumers v e images

/-- **The entries of a desired state** are those of all slots, in order. -/
theorem entries_build : (DesiredState.build v e images).entries = all.map (entry v e images) := by
  rw [all, List.map_append, ← entries_foundation, ← entries_consumers]
  exact List.flatMap_append

/-- An entry has the slot's object exactly if the slot is switched on. -/
theorem resource?_entry (k : Slot) : (k.entry v e images).resource?
    = if k.enabled v then some (k.resource v e images) else none := by
  rw [entry]
  split <;> rfl

/-- The objects of several entries are those of the slots whose components are switched on. -/
theorem filterMap_resource?_entry (ks : List Slot) :
    (ks.map (entry v e images)).filterMap Entry.resource?
      = (ks.filter (enabled v)).map (resource v e images) := by
  induction ks with
  | nil => rfl
  | cons k ks ih =>
      rw [List.map_cons, List.filterMap_cons, resource?_entry, ih]
      cases hen : k.enabled v with
      | true => rw [List.filter_cons_of_pos hen, if_pos rfl, List.map_cons]
      | false => rw [List.filter_cons_of_neg (by simp [hen]), if_neg (by simp)]

theorem present_foundation : (DesiredState.foundation v images).present
    = (foundation.filter (enabled v)).map (resource v e images) := by
  rw [DesiredState.present, entries_foundation v e images, filterMap_resource?_entry]

/-- With a search engine of its own, the last object of a pipeline's foundation is the Service. -/
theorem present_foundation_of_manages (hm : v.managesSearchEngine = true) :
    (DesiredState.foundation v images).present
      = [account, role, binding, searchWorkload].map (resource v e images)
        ++ [searchService.resource v e images] := by
  have hen : ∀ k ∈ foundation, k.enabled v = true := by simp [foundation, enabled, hm]
  rw [present_foundation v e images, List.filter_eq_self.2 hen]
  rfl

/-- The objects of a desired state are those of the slots that are switched on. -/
theorem present_build : (DesiredState.build v e images).present
    = (all.filter (enabled v)).map (resource v e images) := by
  rw [DesiredState.present, entries_build, filterMap_resource?_entry]

/-- The entry of a slot of the foundation is settled before the endpoint is known. -/
theorem entry_mem_foundation {k : Slot} (h : k ∈ foundation) :
    k.entry v e images ∈ (DesiredState.foundation v images).entries := by
  rw [entries_foundation v e images]
  exact List.mem_map_of_mem h

/-- That of a consumer is settled afterwards. -/
theorem entry_mem_remaining {k : Slot} (h : k ∈ consumers) :
    k.entry v e images ∈ (DesiredState.build v e images).remaining.entries := by
  rw [entries_remaining]
  exact List.mem_map_of_mem h

@[simp] theorem kind_resource (k : Slot) : (k.resource v e images).kind = k.kind := by
  cases k <;> rfl

@[simp] theorem id_resource (k : Slot) : (k.resource v e images).id = k.id v.ns := by
  cases k <;> rfl

/-- No two objects of a desired state share an identity. -/
theorem nodup_present : ((DesiredState.build v e images).present.map Resource.id).Nodup := by
  have hnodup : (all.filter (enabled v)).Nodup := (by decide : all.Nodup).filter _
  rw [present_build, List.map_map]
  refine List.pairwise_map.2 (hnodup.imp fun hne hid => hne ?_)
  simp only [Function.comp_apply, id_resource] at hid
  exact id_inj hid

@[simp] theorem id_entry (k : Slot) : (k.entry v e images).id = k.id v.ns := by
  rw [entry]
  split
  · exact id_resource v e images k
  · rfl

/-- Everything that the operator puts into the cluster carries its label. -/
@[simp] theorem isManaged_resource (k : Slot) : (k.resource v e images).isManaged = true := by
  cases k <;> exact beq_iff_eq.2 find?_managedLabels

/-- A workload's annotation is the fingerprint of its inputs; other objects have none. -/
theorem fingerprint?_resource (k : Slot) :
    (k.resource v e images).fingerprint? = (k.parts? v e images).map Fingerprint.ofParts := by
  cases k with
  | searchWorkload | aggregatorWorkload | collectorWorkload | dashboardWorkload =>
      exact v.annotation?_workloadMetadata _ _
  | _ => rfl

/-- Exactly the workloads have inputs. -/
theorem isSome_parts? (k : Slot) : (k.parts? v e images).isSome = k.kind.isWorkload := by
  cases k <;> rfl

/-- What is settled before the endpoint is known does not depend on it. -/
theorem entry_of_mem_foundation {k : Slot} (h : k ∈ foundation) (e' : Endpoint) :
    k.entry v e images = k.entry v e' images := by
  cases k <;> first | exact absurd h (by decide) | rfl

end Slot

end LogOperator
