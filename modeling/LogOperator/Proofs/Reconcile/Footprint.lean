import LogOperator.Proofs.Reconcile.Agreement
import LogOperator.Proofs.Reconcile.Convergence

/-!
# LogOperator.Proofs.Reconcile.Footprint

What a pass touches.  The footprint of a namespace is the twelve identities of its slots; a pass over
a pipeline that targets the namespace changes nothing outside and looks at nothing outside.  Inside,
what may be done to an object depends on its slot (`Slot.Permits`, `Slot.Evolves`):

* `Ends.frame` — objects outside the footprint stay;
* `Ends.permits` — the changes that are logged are permitted;
* `Ends.evolves` — how the object of a slot comes out of a pass;
* `footprint_of_pass` — all of this for every pass, with `SameOn.reconcileValid`.
-/

namespace LogOperator

namespace Slot

/-- The identities of a namespace's components. -/
def footprint (ns : String) : List Id :=
  all.map (id ns)

/-- The footprint consists of the identities of the slots. -/
theorem mem_footprint_iff {ns : String} {i : Id} : i ∈ footprint ns ↔ ∃ k : Slot, k.id ns = i := by
  rw [footprint, List.mem_map]
  exact ⟨fun ⟨k, _, h⟩ => ⟨k, h⟩, fun ⟨k, h⟩ => ⟨k, k.mem_all, h⟩⟩

/-- Every slot leaves its footprint. -/
theorem id_mem_footprint (k : Slot) (ns : String) : k.id ns ∈ footprint ns :=
  List.mem_map_of_mem k.mem_all

variable {ns ns' : String} {k l : Slot}

/-- An identity in a namespace is in no other footprint. -/
theorem not_mem_footprint {i : Id} (h : i.ns = some ns) (hne : ns' ≠ ns) : i ∉ footprint ns' := by
  intro hmem
  obtain ⟨k, rfl⟩ := mem_footprint_iff.1 hmem
  simp only [id] at h
  split at h
  · exact hne (Option.some.inj h)
  · contradiction

theorem isNamespaced_of_configMap (h : k.kind = .configMap) : k.kind.isNamespaced = true := by
  rw [h]
  rfl

/-- The identity of an object with a namespace names it. -/
theorem id_ns_of_isNamespaced (h : k.kind.isNamespaced = true) : (k.id ns).ns = some ns :=
  if_pos h

/-- What is not in a namespace is shared by all of them. -/
theorem id_of_not_isNamespaced (h : k.kind.isNamespaced = false) : k.id ns = k.id ns' := by
  simp [id, h]

/-! ## What may be done -/

/-- The changes that a pass over a pipeline may make to the object of a slot. -/
def Permits (v : ValidPipeline) (k : Slot) : Operation → Prop
  | .get => False
  | .create => k.enabled v = true
  | .update => k = aggregatorConfig ∨ k = collectorConfig
  | .delete => k.kind.isWorkload = true ∨
      k = searchService ∧ v.managesSearchEngine = false ∨
      k = dashboardService ∧ v.spec.dashboard = false

/-- How the object of a slot may come out of a pass: it stays, or is created as it is desired, or gets
other data and a new version, or is deleted. -/
inductive Evolves (v : ValidPipeline) (images : Images) (k : Slot) :
    Option Resource → Option Resource → Prop where
  | same (o : Option Resource) : Evolves v images k o o
  | created {e : Endpoint} {n : Nat} (hp : k.Permits v .create) :
      Evolves v images k none (some ((k.resource v e images).stamp n))
  | updated {m : Metadata} {data data' : Option TextMap} {rest : List (String × Json)}
      {version : Option String} (hp : k.Permits v .update) :
      Evolves v images k (some ⟨m, .configMap data rest⟩)
        (some ⟨{ m with resourceVersion := version }, .configMap data' rest⟩)
  | deleted {r : Resource} (hp : k.Permits v .delete) : Evolves v images k (some r) none

variable {v : ValidPipeline} {images : Images}

/-- Only ConfigMaps are updated. -/
theorem permits_update_iff : k.Permits v .update ↔ k.kind = .configMap := by
  cases k <;> simp [Permits, kind]

/-- Only workloads and Services are ever switched off. -/
theorem permits_delete_of_disabled (h : k.enabled v = false) : k.Permits v .delete := by
  cases k with
  | searchWorkload | dashboardWorkload => exact .inl rfl
  | searchService => exact .inr (.inl ⟨rfl, h⟩)
  | dashboardService => exact .inr (.inr ⟨rfl, h⟩)
  | _ => cases h

/-- A workload that mounts data may be deleted. -/
theorem permits_delete_of_dependent? (h : k.dependent? = some l) : l.Permits v .delete :=
  .inl (kind_of_dependent? h).2

/-- What is shared is part of every pipeline, and no workload. -/
theorem of_not_isNamespaced (h : k.kind.isNamespaced = false) (v : ValidPipeline) :
    k.enabled v = true ∧ k.kind.isWorkload = false := by
  cases k <;> first | contradiction | exact ⟨rfl, rfl⟩

/-- What is shared is created, but neither updated nor deleted. -/
theorem not_permits_of_not_isNamespaced (h : k.kind.isNamespaced = false) (v : ValidPipeline) :
    ¬ k.Permits v .update ∧ ¬ k.Permits v .delete := by
  cases k <;> first | contradiction | simp [Permits, kind, Kind.isWorkload]

/-- What is not carried out leaves the object as it was. -/
theorem Evolves.of_or {before after done : Option Resource} (h : k.Evolves v images before done)
    (hafter : after = before ∨ after = done) : k.Evolves v images before after := by
  rcases hafter with rfl | rfl
  · exact .same _
  · exact h

/-- Other data, and a new version, is all that an update changes of a ConfigMap. -/
theorem evolves_withData {current : Resource} (hk : k.kind = .configMap)
    (hc : current.kind = .configMap) (data : Option TextMap) (n : Nat) :
    k.Evolves v images (some current) (some ((current.withData data).stamp n)) := by
  obtain ⟨m, content⟩ := current
  cases content with
  | configMap => exact .updated (permits_update_iff.2 hk)
  | _ => cases hc

end Slot

namespace Cluster

variable {c : Cluster} {s : Settings} {p : Pipeline} {v : ValidPipeline} {images : Images}
  {e : Endpoint} {a : Action} {k l : Slot} {reply : Reply PassResult} {id : Id}

/-! ## Changes that are permitted -/

/-- An action logs some of its changes, from the first one on. -/
theorem Applies.follows {reply : Reply Unit} (ha : c.Applies a reply)
    (h : a.dependent? ≠ some a.target) : ∃ ms, c.Follows reply.2 ms ∧ ms ⊆ c.changes a := by
  cases ha with
  | refused => exact ⟨[], follows_spend c _ _, List.nil_subset _⟩
  | @halved r dependent =>
      have hfollows := follows_write c .update r
      exact ⟨[⟨.update, r.id⟩], ⟨hfollows.log, hfollows.frame⟩,
        List.cons_subset_cons _ (List.nil_subset _)⟩
  | done => exact ⟨c.changes a, follows_perform h, List.Subset.refl _⟩

/-- Carried out or not, an action leaves each object as it was or as it makes it. -/
theorem Applies.find?_cases {reply : Reply Unit} (ha : c.Applies a reply)
    (h : a.dependent? ≠ some a.target) (id : Id) :
    reply.2.objects.find? id = c.objects.find? id ∨
      reply.2.objects.find? id = (c.perform a).objects.find? id := by
  cases ha with
  | refused => exact .inl rfl
  | @halved r dependent =>
      by_cases hid : dependent = id
      · have hne : r.id ≠ id := fun hr => h (by rw [hid, ← hr]; rfl)
        exact .inl (find?_write_of_ne .update hne)
      · have hdiscard := find?_discard_of_ne (c := c.write .update r) hid
        exact .inr hdiscard.symm
  | done => exact .inr rfl

namespace Wants

/-- The changes of an action are permitted. -/
theorem permits (hw : c.Wants v e images k a) {m : Mutation} (hm : m ∈ c.changes a) :
    ∃ l : Slot, m.id = l.id v.ns ∧ l.Permits v m.operation := by
  cases hw with
  | missing hen =>
      rw [List.mem_singleton.1 hm]
      exact ⟨k, Slot.id_resource v e images k, hen⟩
  | @drifted current hen ho hid hk =>
      simp only [changes, List.mem_cons, List.mem_map, List.mem_filter, Option.mem_toList,
        Option.map_eq_some_iff] at hm
      rcases hm with rfl | ⟨_, ⟨⟨l, hl, rfl⟩, -⟩, rfl⟩
      · exact ⟨k, (Resource.id_withData current _).trans hid, Slot.permits_update_iff.2 hk⟩
      · exact ⟨l, rfl, Slot.permits_delete_of_dependent? hl⟩
  | stale hen ho hkind =>
      rw [changes, if_pos (contains_iff.2 ⟨_, ho⟩)] at hm
      rw [List.mem_singleton.1 hm]
      exact ⟨k, rfl, .inl hkind⟩
  | disabled hen ho =>
      rw [changes, if_pos (contains_iff.2 ⟨_, ho⟩)] at hm
      rw [List.mem_singleton.1 hm]
      exact ⟨k, rfl, Slot.permits_delete_of_disabled hen⟩

/-- How the object of a slot comes out of its action, if that is carried out. -/
theorem evolves_perform (hw : c.Wants v e images k a) :
    k.Evolves v images (c.objects.find? (k.id v.ns)) ((c.perform a).objects.find? (k.id v.ns)) := by
  have hfind := find?_perform_target (c := c) hw.dependent?_ne_target
  rw [hw.target] at hfind
  rw [hfind]
  cases hw with
  | missing hen ho =>
      rw [ho]
      exact .created hen
  | drifted hen ho hid hk =>
      rw [ho]
      exact Slot.evolves_withData hk ((congrArg Id.kind hid).trans hk) _ _
  | stale hen ho hkind =>
      rw [ho]
      exact .deleted (.inl hkind)
  | disabled hen ho =>
      rw [ho]
      exact .deleted (Slot.permits_delete_of_disabled hen)

/-- How the workload comes out of the action of the slot whose data it mounts. -/
theorem evolves_dependent (hw : c.Wants v e images k a) (hl : k.dependent? = some l) :
    l.Evolves v images (c.objects.find? (l.id v.ns)) ((c.perform a).objects.find? (l.id v.ns)) := by
  have hne : k.id v.ns ≠ l.id v.ns := Slot.id_ne (Slot.ne_of_dependent? hl).symm
  cases hw with
  | missing =>
      rw [perform, find?_write_of_ne .create (by rwa [Slot.id_resource])]
      exact .same _
  | drifted =>
      rw [find?_perform_removed (by rw [Action.removed?, hl, Option.map_some])]
      cases c.objects.find? (l.id v.ns) with
      | none => exact .same none
      | some r => exact .deleted (Slot.permits_delete_of_dependent? hl)
  | stale | disabled =>
      rw [perform, find?_discard_of_ne hne]
      exact .same _

/-- How the object of a slot comes out of the action of any slot, however that ends. -/
theorem evolves (hw : c.Wants v e images k a) {reply : Reply Unit} (ha : c.Applies a reply)
    (l : Slot) :
    l.Evolves v images (c.objects.find? (l.id v.ns)) (reply.2.objects.find? (l.id v.ns)) := by
  have hcases := ha.find?_cases hw.dependent?_ne_target (l.id v.ns)
  by_cases hlk : l = k
  · subst hlk
    exact hw.evolves_perform.of_or hcases
  · by_cases hl : k.dependent? = some l
    · exact (hw.evolves_dependent hl).of_or hcases
    · rw [hw.frame ha hlk hl]
      exact .same _

end Wants

/-! ## Passes -/

namespace Ends

/-- The changes of a pass are permitted, and what they do not name stays. -/
theorem permits (h : c.Ends s v reply) : ∃ ms, c.Follows reply.2 ms ∧
    ∀ m ∈ ms, ∃ k : Slot, m.id = k.id v.ns ∧ k.Permits v m.operation := by
  cases h with
  | converged | unresolved => exact ⟨[], Follows.refl c, nofun⟩
  | unread => exact ⟨[], follows_spend c .get _, nofun⟩
  | acts _ _ _ hw ha =>
      obtain ⟨ms, hfollows, hms⟩ := ha.follows hw.dependent?_ne_target
      exact ⟨ms, ⟨hfollows.log, hfollows.frame⟩, fun m hm => hw.permits (hms hm)⟩

/-- **Frame**: a pass leaves every object alone that is outside the footprint. -/
theorem frame (h : c.Ends s v reply) (hid : id ∉ Slot.footprint v.ns) :
    reply.2.objects.find? id = c.objects.find? id := by
  obtain ⟨ms, hfollows, hms⟩ := h.permits
  refine hfollows.frame id fun hmem => hid ?_
  obtain ⟨m, hm, rfl⟩ := List.mem_map.1 hmem
  obtain ⟨k, hk, -⟩ := hms m hm
  exact hk ▸ k.id_mem_footprint v.ns

/-- **How a pass changes a slot's object**: by nothing but what its kind permits. -/
theorem evolves (h : c.Ends s v reply) (k : Slot) :
    k.Evolves v s.images (c.objects.find? (k.id v.ns)) (reply.2.objects.find? (k.id v.ns)) := by
  cases h with
  | converged | unresolved | unread => exact .same _
  | acts _ _ _ hw ha => exact hw.evolves ha k

/-- An object that namespaces share stays, unless it was missing. -/
theorem shared (h : c.Ends s v reply) (hn : k.kind.isNamespaced = false) (ns : String) :
    reply.2.objects.find? (k.id ns) = c.objects.find? (k.id ns) ∨
      c.objects.find? (k.id ns) = none := by
  obtain ⟨hupdate, hdelete⟩ := Slot.not_permits_of_not_isNamespaced hn v
  have hev := h.evolves k
  rw [Slot.id_of_not_isNamespaced hn] at hev
  generalize c.objects.find? (k.id ns) = before at hev
  generalize reply.2.objects.find? (k.id ns) = after at hev
  cases hev with
  | same => exact .inl rfl
  | created => exact .inr rfl
  | updated hp => exact absurd hp hupdate
  | deleted hp => exact absurd hp hdelete

end Ends

/-- **The footprint of a pass.** A pass over a valid pipeline leaves every object outside the
footprint of its namespace as it is, and answers and does the same in every cluster that differs
outside the footprint only.  Inside, it makes the changes that the slots permit: all kinds of objects
are created, of the two ConfigMaps it replaces the data, and it deletes nothing but workloads and the
Services of components that are switched off. -/
theorem footprint_of_pass (hk : c.Keyed) (hv : p.validate = .ok v) (s : Settings) :
    (∀ id ∉ Slot.footprint v.ns,
      (c.reconcile s p).2.objects.find? id = c.objects.find? id) ∧
    (∀ d, SameOn (· ∈ Slot.footprint v.ns) c d → (d.reconcile s p).1 = (c.reconcile s p).1 ∧
      (d.reconcile s p).2.logSince d = (c.reconcile s p).2.logSince c ∧
      SameOn (· ∈ Slot.footprint v.ns) (c.reconcile s p).2 (d.reconcile s p).2) ∧
    (∀ m ∈ (c.reconcile s p).2.logSince c,
      ∃ k : Slot, m.id = k.id v.ns ∧ k.Permits v m.operation) ∧
    ∀ k : Slot, k.Evolves v s.images (c.objects.find? (k.id v.ns))
      ((c.reconcile s p).2.objects.find? (k.id v.ns)) := by
  have hend := Ends.of_reconcile hk hv s
  refine ⟨fun id hid => hend.frame hid, fun d hd => ?_, fun m hm => ?_, hend.evolves⟩
  · have hsame := hd.reconcileValid (fun k => k.id_mem_footprint v.ns) hk s
    rw [reconcile_of_validate hv, reconcile_of_validate hv]
    refine ⟨hsame.answer, ?_, hsame.cluster⟩
    rw [logSince, logSince, hsame.cluster.log, hd.log]
  · obtain ⟨ms, hfollows, hms⟩ := hend.permits
    rw [hfollows.logSince_eq] at hm
    exact hms m hm

/-! ## A cluster with an object of somebody else -/

/-- A ConfigMap of the collector's name in another namespace. -/
def stranger : Resource :=
  ⟨{ Metadata.empty with name := some Component.Collector.configName, ns := some "elsewhere" },
    .configMap none []⟩

/-- The object of someone else is not in the footprint. -/
theorem id_stranger_not_mem :
    stranger.id ∉ Slot.footprint Pipeline.small.validated.ns := by
  decide

/-- The stranger stays, and the pass does what it does in an empty cluster. -/
theorem footprint_of_pass_stranger : (empty.seed stranger).Keyed ∧
    Pipeline.small.validate = .ok Pipeline.small.validated ∧
    ((empty.seed stranger).reconcile .standard .small).2.objects.find? stranger.id
      = (empty.seed stranger).objects.find? stranger.id ∧
    (empty.reconcile .standard .small).1
      = ((empty.seed stranger).reconcile .standard .small).1 := by
  have hsame : SameOn (· ∈ Slot.footprint Pipeline.small.validated.ns) (empty.seed stranger)
      empty := by
    refine ⟨rfl, rfl, rfl, fun id hid => ?_⟩
    have hne : stranger.id ≠ id := fun h => id_stranger_not_mem (h ▸ hid)
    rw [seed, Dict.find?_insert, if_neg hne]
  have hk : (empty.seed stranger).Keyed := keyed_empty.seed
  obtain ⟨hframe, hagree, -, -⟩ := footprint_of_pass hk Pipeline.validate_small .standard
  exact ⟨hk, Pipeline.validate_small, hframe _ id_stranger_not_mem, (hagree empty hsame).1⟩

end Cluster

end LogOperator
