import LogOperator.Proofs.Component.Pods
import LogOperator.Proofs.Reconcile.Provenance
import LogOperator.Proofs.Reconcile.Tenancy
import Mathlib.Data.List.Induction

/-!
# LogOperator.Proofs.Reconcile.Permissions

Whom the binding of the collector's role is for.  A pass compares the data of ConfigMaps and the
fingerprints of workloads, and nothing else: any other object stays as the pass that created it made
it (`Cluster.CreatedIn`).  The binding names the namespace of a pipeline, but the pipelines of all
namespaces share it, so that it is for the first one of a run that got as far:

* `exists_createdIn` — after a run, every object but a ConfigMap is as some pass created it;
* `find?_run_of_shared` — what namespaces share stays, once it is there;
* `permissions_of_creator` — the collector of a pipeline that converged runs as the account of its
  namespace, and the binding is for the account of the namespace that its creator had;
* `not_granted_moved` — so a pipeline that moves to another namespace converges there with a
  collector that may read nothing.
-/

namespace LogOperator

open Component

/-! ## Accounts -/

namespace Resource

/-- Whom a binding grants its role to. -/
def subjects (r : Resource) : List Subject :=
  match r.content with
  | .clusterRoleBinding _ subjects => subjects.getD []
  | _ => []

/-- The object grants a role to the account of a namespace. -/
def Grants (r : Resource) (account ns : String) : Prop :=
  ∃ x ∈ r.subjects, x.kind = Kind.serviceAccount.name ∧ x.name = account ∧ x.ns = some ns

/-- The pods of a workload, which are in its namespace, run as the account there. -/
def RunsAs (r : Resource) (account ns : String) : Prop :=
  r.pod?.bind (·.serviceAccountName) = some account ∧ r.metadata.ns = some ns

end Resource

namespace Slot

variable {v : ValidPipeline} {e : Endpoint} {images : Images}

/-- The binding is for the pipeline's account in its namespace. -/
theorem subjects_binding (n : Nat) : ((binding.resource v e images).stamp n).subjects
    = [⟨none, Kind.serviceAccount.name, Identity.account, some v.ns⟩] := rfl

/-- The collector runs as this account. -/
theorem runsAs_collectorWorkload (n : Nat) :
    ((collectorWorkload.resource v e images).stamp n).RunsAs Identity.account v.ns :=
  ⟨rfl, rfl⟩

/-- An object that is never updated comes out of a pass as it was, or as it is created. -/
theorem Evolves.same_or_created {k : Slot} {o : Option Resource} {r : Resource}
    (h : k.Evolves v images o (some r)) (hk : ¬ k.Permits v .update) :
    o = some r ∨ o = none ∧ ∃ e n, r = (k.resource v e images).stamp n := by
  cases h with
  | same => exact .inl rfl
  | created => exact .inr ⟨rfl, _, _, rfl⟩
  | updated hp => exact absurd hp hk

end Slot

namespace Cluster

variable {c : Cluster} {s : Settings} {p : Pipeline} {v : ValidPipeline} {k : Slot} {r : Resource}
  {ns : String} {history : List Event}

/-! ## Origins -/

/-- A pass of the run over the pipeline found the object of the slot missing, and created it as it is
desired, and as it is given. -/
def CreatedIn (history : List Event) (k : Slot) (v : ValidPipeline) (r : Resource) : Prop :=
  ∃ earlier s p later, history = earlier ++ .pass s p :: later ∧ p.validate = .ok v ∧
    (empty.run earlier).objects.find? (k.id v.ns) = none ∧
    (empty.run (earlier ++ [.pass s p])).objects.find? (k.id v.ns) = some r ∧
    ∃ e n, r = (k.resource v e s.images).stamp n

namespace CreatedIn

theorem append (h : CreatedIn history k v r) (events : List Event) :
    CreatedIn (history ++ events) k v r := by
  obtain ⟨earlier, s, p, later, rfl, hcreated⟩ := h
  refine ⟨earlier, s, p, later ++ events, ?_, hcreated⟩
  rw [List.append_assoc, List.cons_append]

/-- The creator's namespace is that of the run, if the run has one. -/
theorem ns_eq (h : CreatedIn history k v r) (hev : ∀ event ∈ history, event.Targets ns) :
    v.ns = ns := by
  obtain ⟨earlier, s, p, later, rfl, hv, -⟩ := h
  have hmem : Event.pass s p ∈ earlier ++ .pass s p :: later :=
    List.mem_append_right _ List.mem_cons_self
  obtain ⟨w, hw, hns⟩ := hev _ hmem
  rw [hv] at hw
  cases hw
  exact hns

/-- What was created for a pipeline is a desired object of it, with a stamp. -/
theorem exists_eq (h : CreatedIn history k v r) :
    ∃ e images n, r = (k.resource v e images).stamp n := by
  obtain ⟨_, s, _, _, _, _, _, _, e, n, hr⟩ := h
  exact ⟨e, s.images, n, hr⟩

/-- A binding grants the role to the account of the pipeline that it was created for, and to no
other. -/
theorem grants_iff (h : CreatedIn history .binding v r) {account : String} :
    r.Grants account ns ↔ account = Identity.account ∧ ns = v.ns := by
  obtain ⟨e, images, n, rfl⟩ := h.exists_eq
  simp only [Resource.Grants, Slot.subjects_binding, List.mem_singleton, exists_eq_left,
    Option.some.injEq, true_and]
  exact ⟨fun ⟨ha, hn⟩ => ⟨ha.symm, hn.symm⟩, fun ⟨ha, hn⟩ => ⟨ha.symm, hn.symm⟩⟩

/-- A collector runs as the account of the pipeline that it was created for. -/
theorem runsAs (h : CreatedIn history .collectorWorkload v r) : r.RunsAs Identity.account v.ns := by
  obtain ⟨e, images, n, rfl⟩ := h.exists_eq
  exact Slot.runsAs_collectorWorkload n

end CreatedIn

/-- An object that is no ConfigMap was there before a step, or the step is a pass that created it. -/
theorem of_find?_step {event : Event} (hc : c.Keyed) (hk : k.kind ≠ .configMap)
    (h : (c.step event).objects.find? (k.id ns) = some r) :
    c.objects.find? (k.id ns) = some r ∨ ∃ s p v, event = .pass s p ∧ p.validate = .ok v ∧
      k.id v.ns = k.id ns ∧ c.objects.find? (k.id ns) = none ∧
      ∃ e n, r = (k.resource v e s.images).stamp n := by
  cases event with
  | failure op id => exact .inl h
  | pass s p =>
      rw [step] at h
      rcases reconcile_cases hc s p with hsame | ⟨v, hv, hend⟩
      · rw [hsame] at h
        exact .inl h
      · by_cases hmem : k.id ns ∈ Slot.footprint v.ns
        · obtain ⟨l, hid⟩ := Slot.mem_footprint_iff.1 hmem
          obtain rfl := Slot.id_inj hid
          have hupdate : ¬ l.Permits v .update := fun hp => hk (Slot.permits_update_iff.1 hp)
          have hev := hend.evolves l
          rw [hid, h] at hev
          exact (hev.same_or_created hupdate).imp_right fun ⟨hnone, hcontent⟩ =>
            ⟨s, p, v, rfl, hv, hid, hnone, hcontent⟩
        · exact .inl ((hend.frame hmem).symm.trans h)

/-- **Origins**: after a run from the empty cluster, an object that is no ConfigMap is as a pass of
the run created it. -/
theorem exists_createdIn (hk : k.kind ≠ .configMap)
    (h : (empty.run history).objects.find? (k.id ns) = some r) :
    ∃ v, k.id v.ns = k.id ns ∧ CreatedIn history k v r := by
  induction history using List.reverseRecOn with
  | nil => contradiction
  | append_singleton history event ih =>
      have hstep : ((empty.run history).step event).objects.find? (k.id ns) = some r := by
        rw [run_append] at h
        exact h
      rcases of_find?_step (keyed_empty.run history) hk hstep with
        hbefore | ⟨s, p, v, rfl, hv, hid, hnone, hcontent⟩
      · obtain ⟨v, hid, hcreated⟩ := ih hbefore
        exact ⟨v, hid, hcreated.append [event]⟩
      · rw [← hid] at h hnone
        exact ⟨v, hid, history, s, p, [], rfl, hv, hnone, h, hcontent⟩

/-- **What namespaces share stays**, once it is there. -/
theorem find?_run_of_shared (hk : c.Keyed) (hn : k.kind.isNamespaced = false)
    (hr : c.objects.find? (k.id ns) = some r) (events : List Event) :
    (c.run events).objects.find? (k.id ns) = some r := by
  induction events generalizing c with
  | nil => exact hr
  | cons event events ih =>
      refine ih (hk.step event) ?_
      cases event with
      | failure op id => exact hr
      | pass s p =>
          rcases reconcile_cases hk s p with hsame | ⟨v, -, hend⟩
          · rw [step, hsame]
            exact hr
          · have hthere : c.objects.find? (k.id ns) ≠ none := by
              rw [hr]
              exact nofun
            exact ((hend.shared hn ns).resolve_right hthere).trans hr

/-- **The binding is for the namespace of its creator.** After a run from the empty cluster, over any
pipelines and with any failures, a pass that converges finds the collector of its namespace running
as the account there.  The binding is as the pass of the run that created it made it: it is for the
account of the namespace of that pass, and for no other one.  So it is for the collector's account
exactly if the pass was over a pipeline of that namespace, as it was if the run has no other one. -/
theorem permissions_of_creator {answer : PassResult} (hv : p.validate = .ok v)
    (hr : ((empty.run history).reconcile s p).1 = .ok answer) (hc : answer.converged = true) :
    ∃ workload binding creator,
      ((empty.run history).reconcile s p).2.objects.find? (Slot.collectorWorkload.id v.ns)
        = some workload ∧
      workload.RunsAs Identity.account v.ns ∧
      ((empty.run history).reconcile s p).2.objects.find? (Slot.binding.id v.ns)
        = some binding ∧
      CreatedIn history .binding creator binding ∧
      (∀ account ns, binding.Grants account ns ↔ account = Identity.account ∧ ns = creator.ns) ∧
      ((∀ event ∈ history, event.Targets v.ns) → binding.Grants Identity.account v.ns) := by
  have hend : (empty.run history).Ends s v _ := Ends.of_reconcile (keyed_empty.run history) hv s
  obtain ⟨e, -, hsame, -, -, hall⟩ := hend.of_converged hr hc
  obtain ⟨workload, hworkload, -⟩ := (holds_iff_of_enabled rfl).1 (hall .collectorWorkload)
  obtain ⟨binding, hbinding, -⟩ := (holds_iff_of_enabled rfl).1 (hall .binding)
  obtain ⟨builder, hid, hbuilt⟩ := exists_createdIn (by decide) hworkload
  obtain ⟨creator, -, hcreated⟩ := exists_createdIn (by decide) hbinding
  have hns : builder.ns = v.ns := Option.some.inj (congrArg Id.ns hid)
  rw [hsame]
  refine ⟨workload, binding, creator, hworkload, hns ▸ hbuilt.runsAs, hbinding, hcreated,
    fun _ _ => hcreated.grants_iff, fun hev => ?_⟩
  exact hcreated.grants_iff.2 ⟨rfl, (hcreated.ns_eq hev).symm⟩

/-! ## A pipeline that moves -/

/-- Without pending failures, a pass converges after seventeen others. -/
theorem exists_converges (hk : c.Keyed) (hs : c.Addressed v) (hv : p.validate = .ok v)
    (hf : c.failures = []) (s : Settings) : ∃ e,
    (c.passes s p 17).reconcile s p = (.ok (.settled e s.timing.resync), c.passes s p 17) ∧
    ∀ k, (c.passes s p 17).Holds v e s.images k := by
  obtain ⟨e, he, hall⟩ := settled_of_no_failures hk hs hv hf s
  have hsettled : (c.passes s p 17).Settled v s.images e := ⟨he, hall⟩
  have hnone := (outcome_of_no_failures hk hs hv hf s 17).2
  exact ⟨e, hsettled.reconcile (hk.passes s p 17) hnone hv, hall⟩

/-- Passes over the small pipeline. -/
def stayed : List Event :=
  List.replicate 17 (.pass .standard .small)

/-- The same, and then as many passes over the pipeline in another namespace. -/
def moved : List Event :=
  stayed ++ List.replicate 17 (.pass .standard .elsewhere)

theorem run_stayed : empty.run stayed = empty.passes .standard .small 17 :=
  run_replicate empty .standard .small 17

/-- The pipeline moves to the other namespace after it has converged in the first. -/
theorem run_moved : empty.run moved = (empty.run stayed).passes .standard .elsewhere 17 := by
  rw [moved, run_append, run_replicate]

/-- All passes before the move are over the first namespace. -/
theorem targets_of_mem_stayed {event : Event} (h : event ∈ stayed) :
    event.Targets Pipeline.small.validated.ns :=
  Event.targets_of_mem_replicate Pipeline.validate_small h

/-- Every event of both histories targets some namespace. -/
theorem targets_of_mem_moved {event : Event} (h : event ∈ moved) : ∃ ns, event.Targets ns := by
  rcases List.mem_append.1 h with h | h
  · exact ⟨_, targets_of_mem_stayed h⟩
  · exact ⟨_, Event.targets_of_mem_replicate Pipeline.validate_elsewhere h⟩

/-- The small pipeline converges with a binding for the account of its collector. -/
theorem permissions_of_creator_stayed : ∃ answer binding,
    ((empty.run stayed).reconcile .standard .small).1 = .ok answer ∧ answer.converged = true ∧
    ((empty.run stayed).reconcile .standard .small).2.objects.find?
      (Slot.binding.id Pipeline.small.validated.ns) = some binding ∧
    binding.Grants Identity.account Pipeline.small.validated.ns := by
  obtain ⟨e, hpass, -⟩ :=
    exists_converges keyed_empty addressed_empty Pipeline.validate_small rfl .standard
  rw [← run_stayed] at hpass
  obtain ⟨-, binding, -, -, -, hbinding, -, -, hgrants⟩ :=
    permissions_of_creator Pipeline.validate_small (congrArg Prod.fst hpass) rfl
  exact ⟨_, binding, congrArg Prod.fst hpass, rfl, hbinding,
    hgrants fun _ => targets_of_mem_stayed⟩

/-- The binding that passes over the small pipeline leave is for its namespace. -/
theorem exists_binding_stayed : ∃ binding,
    (empty.run stayed).objects.find? (Slot.binding.id Pipeline.small.validated.ns)
      = some binding ∧
    ∀ account ns, binding.Grants account ns ↔
      account = Identity.account ∧ ns = Pipeline.small.validated.ns := by
  obtain ⟨_, -, hall⟩ :=
    exists_converges keyed_empty addressed_empty Pipeline.validate_small rfl .standard
  obtain ⟨binding, hbinding, -⟩ := (holds_iff_of_enabled rfl).1 (hall .binding)
  rw [← run_stayed] at hbinding
  obtain ⟨creator, -, hcreated⟩ := exists_createdIn (by decide) hbinding
  have hns : creator.ns = Pipeline.small.validated.ns :=
    hcreated.ns_eq fun _ => targets_of_mem_stayed
  exact ⟨binding, hbinding, fun _ _ => hns ▸ hcreated.grants_iff⟩

/-- **In another namespace, the pipeline converges with a binding that is not for its collector.** -/
theorem not_granted_moved : (∀ event ∈ moved, ∃ ns, event.Targets ns) ∧
    Pipeline.elsewhere.validate = .ok Pipeline.elsewhere.validated ∧ ∃ answer binding,
    ((empty.run moved).reconcile .standard .elsewhere).1 = .ok answer ∧ answer.converged = true ∧
    ((empty.run moved).reconcile .standard .elsewhere).2.objects.find?
      (Slot.binding.id Pipeline.elsewhere.validated.ns) = some binding ∧
    ¬ binding.Grants Identity.account Pipeline.elsewhere.validated.ns := by
  obtain ⟨binding, hbinding, hgrants⟩ := exists_binding_stayed
  have hk : (empty.run stayed).Keyed := keyed_empty.run stayed
  have hf : (empty.run stayed).failures = [] := by
    rw [run_stayed]
    exact (outcome_of_no_failures keyed_empty addressed_empty Pipeline.validate_small rfl
      .standard 17).2
  -- the binding stays while the pipeline converges in the other namespace
  have hstays := find?_run_of_shared hk rfl hbinding
    (List.replicate 17 (.pass .standard .elsewhere))
  obtain ⟨_, hpass, -⟩ := exists_converges hk (addressed_of_external rfl)
    Pipeline.validate_elsewhere hf .standard
  rw [run_replicate] at hstays
  rw [run_moved, hpass]
  refine ⟨fun _ => targets_of_mem_moved, Pipeline.validate_elsewhere, _, binding, rfl, rfl, hstays,
    fun hgranted => ?_⟩
  exact absurd ((hgrants _ _).1 hgranted).2 (by decide)

end Cluster

end LogOperator
