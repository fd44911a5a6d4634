import LogOperator.Proofs.Desired.Freshness
import Mathlib.Data.List.Forall2

/-!
# LogOperator.Proofs.Desired.Identities

The identities of a desired state.  Its entries are those of the slots of the levels, and whether an
entry is present is a matter of its level, so the identities are twelve that only the namespace decides:

* `DesiredState.build_eq_map` — a desired state as a table of levels and slots;
* `Slot.switched_entry` — a switch turns entries between present and absent;
* `Slot.next_of_configMap` — the workload that mounts data comes right behind it in its level;
* `DesiredState.entries_of_namespace` — all of this for every pipeline, endpoint and images.
-/

namespace LogOperator

/-! ## Switches -/

/-- The pipeline with another search engine and with or without a dashboard. -/
def ValidPipeline.switch (v : ValidPipeline) (searchEngine : SearchEngine) (dashboard : Bool) :
    ValidPipeline :=
  { v with spec := { v.spec with searchEngine := searchEngine, dashboard := dashboard } }

@[simp] theorem ValidPipeline.ns_switch (v : ValidPipeline) (searchEngine : SearchEngine)
    (dashboard : Bool) : (v.switch searchEngine dashboard).ns = v.ns := rfl

/-- An entry stays as it is or is turned between present and absent. -/
inductive Entry.Switched : Entry → Entry → Prop where
  | same (x : Entry) : Switched x x
  | on (r : Resource) (dependent : Option Id) : Switched (.absent r.id) (.present r dependent)
  | off (r : Resource) (dependent : Option Id) : Switched (.present r dependent) (.absent r.id)

/-- An entry that is switched keeps its identity. -/
theorem Entry.switched_ite (r : Resource) (dependent : Option Id) (before after : Bool) :
    Switched (if before then .present r dependent else .absent r.id)
      (if after then .present r dependent else .absent r.id) := by
  cases before <;> cases after
  · exact .same _
  · exact .on r dependent
  · exact .off r dependent
  · exact .same _

namespace Level

/-- The components of the level are switched on. -/
def enabled (v : ValidPipeline) : Level → Bool
  | searchEngine => v.managesSearchEngine
  | dashboard => v.spec.dashboard
  | _ => true

/-- The slots of the level, in order. -/
def slots : Level → List Slot
  | identity => [.account, .role, .binding]
  | searchEngine => [.searchWorkload, .searchService]
  | aggregator => [.aggregatorService, .aggregatorConfig, .aggregatorWorkload]
  | collector => [.collectorConfig, .collectorWorkload]
  | dashboard => [.dashboardWorkload, .dashboardService]

end Level

namespace Slot

variable (v : ValidPipeline) (e : Endpoint) (images : Images) {k : Slot} {l : Level} {i : Nat}

/-- The slots of a level are switched together. -/
theorem enabled_of_mem_slots (h : k ∈ l.slots) : k.enabled v = l.enabled v := by
  revert h
  cases l <;> cases k <;> first | exact fun _ => rfl | exact fun h => absurd h (by decide)

/-- No object depends on the switches. -/
theorem resource_switch (searchEngine : SearchEngine) (dashboard : Bool) (k : Slot) :
    k.resource (v.switch searchEngine dashboard) e images = k.resource v e images := by
  cases k <;> rfl

/-- **A switch turns entries between present and absent**, and does nothing else. -/
theorem switched_entry (searchEngine : SearchEngine) (dashboard : Bool) (k : Slot) :
    (k.entry v e images).Switched (k.entry (v.switch searchEngine dashboard) e images) := by
  rw [entry, entry, resource_switch, ValidPipeline.ns_switch, ← k.id_resource v e images]
  exact Entry.switched_ite _ _ _ _

/-- Data is followed by the workload that depends on it. -/
theorem next_of_configMap (hk : l.slots[i]? = some k) (hkind : k.kind = .configMap) :
    ∃ m, k.dependent? = some m ∧ l.slots[i + 1]? = some m := by
  have hnext : ∀ i (hi : i < l.slots.length), l.slots[i].kind = .configMap →
      l.slots[i].dependent? ≠ none ∧ l.slots[i + 1]? = l.slots[i].dependent? := by
    cases l <;> decide
  obtain ⟨hi, rfl⟩ := List.getElem?_eq_some_iff.1 hk
  obtain ⟨hsome, hsame⟩ := hnext i hi hkind
  obtain ⟨m, hm⟩ := Option.ne_none_iff_exists'.1 hsome
  exact ⟨m, hm, hsame.trans hm⟩

end Slot

namespace DesiredState

variable (v : ValidPipeline) (e : Endpoint) (images : Images)

/-- **A desired state as a table.** -/
theorem build_eq_map :
    build v e images = Level.all.map fun l => (l, l.slots.map (Slot.entry v e images)) := by
  unfold build foundation consumers Component.SearchEngine.entries Component.Dashboard.entries
  cases hm : v.managesSearchEngine <;> cases hd : v.spec.dashboard <;>
    simp only [Level.all, Level.slots, List.map, Slot.entry, Slot.enabled, hm, hd] <;>
    rfl

variable {v e images} in
/-- The entries of a level are those of its slots. -/
theorem eq_of_mem_build {l : Level} {xs : List Entry} (h : (l, xs) ∈ build v e images) :
    xs = l.slots.map (Slot.entry v e images) := by
  rw [build_eq_map] at h
  obtain ⟨_, -, hl⟩ := List.mem_map.1 h
  cases hl
  rfl

/-! ## Identities -/

/-- The identities of the objects that a pipeline can have in a namespace. -/
def identities (ns : String) : List Id :=
  [⟨.serviceAccount, "fluent-bit", some ns⟩,
   ⟨.clusterRole, "fluent-bit-read", none⟩,
   ⟨.clusterRoleBinding, "fluent-bit-read", none⟩,
   ⟨.deployment, "elasticsearch", some ns⟩,
   ⟨.service, "elasticsearch", some ns⟩,
   ⟨.service, "fluentd", some ns⟩,
   ⟨.configMap, "fluentd-config", some ns⟩,
   ⟨.deployment, "fluentd", some ns⟩,
   ⟨.configMap, "fluent-bit-config", some ns⟩,
   ⟨.daemonSet, "fluent-bit", some ns⟩,
   ⟨.deployment, "kibana", some ns⟩,
   ⟨.service, "kibana", some ns⟩]

/-- The twelve identities are those of the slots. -/
theorem identities_eq_map (ns : String) : identities ns = Slot.all.map (Slot.id ns) := rfl

/-- No two of them are the same. -/
theorem nodup_identities (ns : String) : (identities ns).Nodup := by
  rw [identities_eq_map]
  exact List.pairwise_map.2 ((by decide : Slot.all.Nodup).imp Slot.id_ne)

/-- **Every desired state has an entry for each identity**, in the same order. -/
theorem map_id_entries_build : (build v e images).entries.map Entry.id = identities v.ns := by
  rw [Slot.entries_build, List.map_map, identities_eq_map]
  exact List.map_congr_left fun k _ => Slot.id_entry v e images k

/-- Whether an entry is present is a matter of its level. -/
theorem isSome_resource?_of_mem_build {l : Level} {xs : List Entry} {x : Entry}
    (hl : (l, xs) ∈ build v e images) (hx : x ∈ xs) : x.resource?.isSome = l.enabled v := by
  rw [eq_of_mem_build hl] at hx
  obtain ⟨k, hk, rfl⟩ := List.mem_map.1 hx
  rw [Slot.resource?_entry, Slot.enabled_of_mem_slots v hk]
  cases l.enabled v <;> rfl

/-- Switching components switches the entries of these components and leaves the others. -/
theorem switched_entries (searchEngine : SearchEngine) (dashboard : Bool) :
    List.Forall₂ Entry.Switched (build v e images).entries
      (build (v.switch searchEngine dashboard) e images).entries := by
  rw [Slot.entries_build, Slot.entries_build, List.forall₂_map_left_iff, List.forall₂_map_right_iff,
    List.forall₂_same]
  exact fun k _ => Slot.switched_entry v e images searchEngine dashboard k

/-- The data of a level is present, and so is the workload that mounts it, which comes later in the
level. -/
theorem mounted_later {l : Level} {xs : List Entry} {x : Entry} {i : Nat}
    (hl : (l, xs) ∈ build v e images) (hx : xs[i]? = some x) (hkind : x.id.kind = .configMap) :
    ∃ r w further j, x = .present r (some w.id) ∧ i < j ∧ xs[j]? = some (.present w further) ∧
      w.kind.isWorkload = true ∧ x.id ∈ w.configMaps := by
  rw [eq_of_mem_build hl] at hx ⊢
  rw [List.getElem?_map] at hx
  obtain ⟨k, hk, rfl⟩ := Option.map_eq_some_iff.1 hx
  rw [Slot.id_entry] at hkind ⊢
  obtain ⟨m, hdep, hm⟩ := Slot.next_of_configMap hk hkind
  obtain ⟨hon, hon'⟩ := Slot.enabled_of_dependent? hdep v
  refine ⟨k.resource v e images, m.resource v e images, m.dependent?.map (Slot.id v.ns), i + 1, ?_,
    i.lt_succ_self, ?_, ?_, ?_⟩
  · rw [Slot.entry, if_pos hon, hdep, Option.map_some, Slot.id_resource]
  · rw [List.getElem?_map, hm, Option.map_some, Slot.entry, if_pos hon']
  · rw [Slot.kind_resource]
    exact (Slot.kind_of_dependent? hdep).2
  · rw [Slot.configMaps_resource]
    exact List.mem_map_of_mem (Slot.mem_mounts.2 hdep)

/-- **The namespace decides the entries, the switches whether they are present.**  A desired state has
the five levels in order, and its entries have the twelve identities of the namespace, each once.  The
entries of a level are present exactly if its components are switched on, and a switch only turns entries
between present and absent.  The foundation is the first two levels, whatever the endpoint, and the other
levels are those that a pass visits after it.  Data depends on a workload that comes later in its level,
is present, and mounts it. -/
theorem entries_of_namespace :
    (build v e images).map (·.1)
      = [.identity, .searchEngine, .aggregator, .collector, .dashboard] ∧
    (build v e images).entries.map Entry.id = identities v.ns ∧
    (identities v.ns).length = 12 ∧ (identities v.ns).Nodup ∧
    (∀ l xs, (l, xs) ∈ build v e images → ∀ x ∈ xs, x.resource?.isSome = l.enabled v) ∧
    (∀ searchEngine dashboard, List.Forall₂ Entry.Switched (build v e images).entries
      (build (v.switch searchEngine dashboard) e images).entries) ∧
    foundation v images = (build v e images).take 2 ∧
    foundation v images ++ (build v e images).remaining = build v e images ∧
    (∀ l xs, (l, xs) ∈ build v e images → ∀ (i : Nat) x, xs[i]? = some x →
      x.id.kind = .configMap → ∃ r w further j, x = .present r (some w.id) ∧ i < j ∧
        xs[j]? = some (.present w further) ∧ w.kind.isWorkload = true ∧ x.id ∈ w.configMaps) := by
  refine ⟨rfl, map_id_entries_build v e images, rfl, nodup_identities v.ns, ?_,
    switched_entries v e images, rfl, rfl, ?_⟩
  · exact fun l xs hl x hx => isSome_resource?_of_mem_build v e images hl hx
  · exact fun l xs hl i x hx hkind => mounted_later v e images hl hx hkind

/-- The pipeline of two teams with its dashboard: the dashboard is there, without it its entries are
turned, and the data of the aggregator depends on a workload that mounts it. -/
theorem entries_of_namespace_displayed :
    let v := Pipeline.displayed.validated
    let s := build v (Pipeline.displayedEndpoint "10.96.0.5") .standard
    let dashboard := Level.dashboard.slots.map
      (Slot.entry v (Pipeline.displayedEndpoint "10.96.0.5") .standard)
    let aggregator := Level.aggregator.slots.map
      (Slot.entry v (Pipeline.displayedEndpoint "10.96.0.5") .standard)
    Pipeline.displayed.validate = .ok v ∧
    (.dashboard, dashboard) ∈ s ∧ (∀ x ∈ dashboard, x.resource?.isSome = true) ∧
    List.Forall₂ Entry.Switched s.entries
      (build Pipeline.teams.validated (Pipeline.displayedEndpoint "10.96.0.5") .standard).entries ∧
    (.aggregator, aggregator) ∈ s ∧ ∃ x, aggregator[1]? = some x ∧ x.id.kind = .configMap ∧
      ∃ r w further j, x = .present r (some w.id) ∧ 1 < j ∧
        aggregator[j]? = some (.present w further) ∧ w.kind.isWorkload = true ∧
        x.id ∈ w.configMaps := by
  intro v s dashboard aggregator
  have hmem (l : Level) (hl : l ∈ Level.all) :
      (l, l.slots.map (Slot.entry v (Pipeline.displayedEndpoint "10.96.0.5") .standard)) ∈ s := by
    simp only [s, build_eq_map]
    exact List.mem_map_of_mem hl
  have hdashboard := hmem .dashboard (by decide)
  have haggregator := hmem .aggregator (by decide)
  obtain ⟨-, -, -, -, hpresent, hswitch, -, -, hdata⟩ :=
    entries_of_namespace v (Pipeline.displayedEndpoint "10.96.0.5") .standard
  exact ⟨Pipeline.validate_displayed, hdashboard, hpresent _ _ hdashboard,
    hswitch Pipeline.teams.validated.spec.searchEngine false, haggregator, _, rfl, rfl,
    hdata _ _ haggregator 1 _ rfl rfl⟩

end DesiredState

end LogOperator
