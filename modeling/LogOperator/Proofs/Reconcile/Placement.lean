import LogOperator.Proofs.Pipeline.Normalisation
import LogOperator.Proofs.Reconcile.Permissions

/-!
# LogOperator.Proofs.Reconcile.Placement

Where the objects of a pipeline are, and whose they are.  A cluster looks for the owner of an object in
the namespace of the object, and deletes the object if the owner is not there.  So an object may refer to
its pipeline only if both are in the same namespace (`Resource.PlacedBy`):

* `Pipeline.owner_eq_some_iff` — which pipelines own their components;
* `Slot.placedBy_resource` — the objects of a desired state are placed like that;
* `Ends.created_or_kept` — a pass creates such objects, and leaves the others where they are;
* `Cluster.owners_in_namespace` — so no run ever creates an object with an owner elsewhere.
-/

namespace LogOperator

/-! ## Owners -/

/-- The reference of an object to the pipeline that owns it, as its controller. -/
def OwnerRef.toPipeline (name uid : String) : OwnerRef :=
  ⟨"logging.logpipe.io/v1alpha1", "LogPipeline", name, uid, some true, none⟩

/-- The references of an object to its owners. -/
def Resource.owners (r : Resource) : List OwnerRef :=
  r.metadata.owners.getD []

namespace Pipeline

variable {p : Pipeline} {v : ValidPipeline} {o : OwnerRef}

/-- The cluster knows a pipeline by its name and its uid. -/
theorem ownerRef?_eq_some_iff : p.ownerRef? = some o ↔
    ∃ name uid, p.metadata.name = some name ∧ p.metadata.uid = some uid ∧ o = .toPipeline name uid := by
  have hversion : apiVersion = "logging.logpipe.io/v1alpha1" := by decide
  simp [ownerRef?, Option.bind_eq_some_iff, OwnerRef.toPipeline, hversion, kind, eq_comm (a := o)]

/-- A pipeline owns its components if the cluster knows it and it is in their namespace. -/
theorem owner_eq_some_iff (hv : p.validate = .ok v) : v.owner = some o ↔
    p.metadata.ns = some v.ns ∧
    ∃ name uid, p.metadata.name = some name ∧ p.metadata.uid = some uid ∧ o = .toPipeline name uid := by
  obtain ⟨-, rfl⟩ := eq_validated_of_validate hv
  rw [← ownerRef?_eq_some_iff]
  simp [validated]

/-- A pipeline owns its components exactly if it lives with them and is known by name and identity.
-/
theorem isSome_owner_iff (hv : p.validate = .ok v) : v.owner.isSome = true ↔
    p.metadata.ns = some v.ns ∧ p.metadata.name.isSome = true ∧ p.metadata.uid.isSome = true := by
  simp only [Option.isSome_iff_exists, owner_eq_some_iff hv]
  constructor
  · rintro ⟨_, hns, name, uid, hname, huid, -⟩
    exact ⟨hns, ⟨name, hname⟩, uid, huid⟩
  · rintro ⟨hns, ⟨name, hname⟩, uid, huid⟩
    exact ⟨_, hns, name, uid, hname, huid, rfl⟩

end Pipeline

/-! ## Places -/

/-- The object is where a pipeline that targets a namespace puts it, carries the operator's label, and
refers to the pipeline exactly if that is in the same namespace and known to the cluster. -/
structure Resource.PlacedBy (r : Resource) (p : Pipeline) (target : String) : Prop where
  ns : r.metadata.ns = if r.kind.isNamespaced then some target else none
  label : r.metadata.label? "app.kubernetes.io/managed-by" = some "logpipe"
  owned_iff : r.owners ≠ [] ↔ r.kind.isNamespaced = true ∧ p.metadata.ns = some target ∧
    p.metadata.name.isSome = true ∧ p.metadata.uid.isSome = true
  owners : ∀ o ∈ r.owners, r.owners = [o] ∧
    ∃ name uid, p.metadata.name = some name ∧ p.metadata.uid = some uid ∧ o = .toPipeline name uid

namespace Resource.PlacedBy

variable {r r' : Resource} {p : Pipeline} {target : String}

/-- The owner of an object is in the namespace of the object. -/
theorem ns_eq (h : r.PlacedBy p target) {o : OwnerRef} (ho : o ∈ r.owners) :
    r.metadata.ns = p.metadata.ns := by
  obtain ⟨hnamespaced, hns, -⟩ := h.owned_iff.1 (List.ne_nil_of_mem ho)
  rw [h.ns, if_pos hnamespaced, hns]

/-- The version of an object and its content have no part in this. -/
theorem congr {version : Option String} (h : r.PlacedBy p target) (hkind : r'.kind = r.kind)
    (hmeta : r'.metadata = { r.metadata with resourceVersion := version }) :
    r'.PlacedBy p target := by
  have howners : r'.owners = r.owners := by rw [Resource.owners, hmeta, Resource.owners]
  constructor
  · rw [hmeta, hkind]
    exact h.ns
  · rw [hmeta]
    exact h.label
  · rw [howners, hkind]
    exact h.owned_iff
  · rw [howners]
    exact h.owners

/-- What is placed by a pipeline is so with a stamp, too. -/
theorem stamp (h : r.PlacedBy p target) (n : Nat) : (r.stamp n).PlacedBy p target :=
  h.congr (kind_stamp n r) rfl

end Resource.PlacedBy

namespace Slot

variable (v : ValidPipeline) (e : Endpoint) (images : Images) (k : Slot)

/-- The objects of a pipeline are in its target namespace, if their kinds have namespaces. -/
theorem ns_resource : (k.resource v e images).metadata.ns
    = if k.kind.isNamespaced then some v.ns else none := by
  cases k <;> rfl

/-- Exactly those objects have the pipeline as their owner, if it owns anything. -/
theorem owners_resource : (k.resource v e images).owners
    = if k.kind.isNamespaced then v.owner.toList else [] := by
  have hlist : (v.owner.map ([·])).getD [] = v.owner.toList := by cases v.owner <;> rfl
  cases k <;> first | rfl | exact hlist

variable {v e images}

/-- **The objects of a desired state are where they belong.** -/
theorem placedBy_resource {p : Pipeline} (hv : p.validate = .ok v) :
    (k.resource v e images).PlacedBy p v.ns where
  ns := by rw [ns_resource, kind_resource]
  label := beq_iff_eq.1 (isManaged_resource v e images k)
  owned_iff := by
    rw [owners_resource, kind_resource, ← Pipeline.isSome_owner_iff hv]
    cases k.kind.isNamespaced <;> cases v.owner <;> simp
  owners := by
    intro o ho
    rw [owners_resource] at ho ⊢
    split at ho
    · next hnamespaced =>
        have howner : v.owner = some o := by simpa using ho
        rw [if_pos hnamespaced, howner]
        exact ⟨rfl, ((Pipeline.owner_eq_some_iff hv).1 howner).2⟩
    · contradiction

end Slot

/-! ## Passes and runs -/

namespace Cluster

variable {c : Cluster} {s : Settings} {p : Pipeline} {v : ValidPipeline} {id : Id} {r : Resource}

/-- What is there after a pass is created as the pipeline wants it, or was there before, of the same
kind and with the same metadata but for its version. -/
theorem Ends.created_or_kept {reply : Reply PassResult} (h : c.Ends s v reply)
    (hr : reply.2.objects.find? id = some r) :
    (∃ (k : Slot) (e : Endpoint) (n : Nat), r = (k.resource v e s.images).stamp n) ∨
    ∃ r₀ version, c.objects.find? id = some r₀ ∧ r.kind = r₀.kind ∧
      r.metadata = { r₀.metadata with resourceVersion := version } := by
  by_cases hmem : id ∈ Slot.footprint v.ns
  · obtain ⟨k, rfl⟩ := Slot.mem_footprint_iff.1 hmem
    have hev := h.evolves k
    rw [hr] at hev
    generalize c.objects.find? (k.id v.ns) = before at hev
    cases hev with
    | same => exact .inr ⟨r, _, rfl, rfl, rfl⟩
    | @created e n => exact .inl ⟨k, e, n, rfl⟩
    | updated => exact .inr ⟨_, _, rfl, rfl, rfl⟩
  · rw [h.frame hmem] at hr
    exact .inr ⟨r, _, hr, rfl, rfl⟩

/-- **A pass creates objects where they belong.** -/
theorem Ends.placedBy_of_created {reply : Reply PassResult} (h : c.Ends s v reply)
    (hv : p.validate = .ok v) (hnone : c.objects.find? id = none)
    (hr : reply.2.objects.find? id = some r) : r.PlacedBy p v.ns := by
  rcases h.created_or_kept hr with ⟨k, e, n, rfl⟩ | ⟨r₀, _, hr₀, -⟩
  · exact (k.placedBy_resource hv).stamp n
  · rw [hnone] at hr₀
    contradiction

/-- The object is where a pipeline of the run puts it. -/
def PlacedIn (history : List Event) (r : Resource) : Prop :=
  ∃ s p v, Event.pass s p ∈ history ∧ p.validate = .ok v ∧ r.PlacedBy p v.ns

/-- A step keeps every object where a pipeline of the run put it, and creates others like that. -/
theorem placedIn_step {history : List Event} {event : Event} (hk : c.Keyed)
    (h : ∀ id r, c.objects.find? id = some r → PlacedIn history r)
    (hr : (c.step event).objects.find? id = some r) : PlacedIn (history ++ [event]) r := by
  have hkept {r₀ : Resource} {version : Option String} (hr₀ : c.objects.find? id = some r₀)
      (hkind : r.kind = r₀.kind)
      (hmeta : r.metadata = { r₀.metadata with resourceVersion := version }) :
      PlacedIn (history ++ [event]) r := by
    obtain ⟨s, p, v, hmem, hv, hplaced⟩ := h id r₀ hr₀
    exact ⟨s, p, v, List.mem_append_left _ hmem, hv, hplaced.congr hkind hmeta⟩
  cases event with
  | failure op id => exact hkept hr rfl rfl
  | pass s p =>
      rw [step] at hr
      rcases reconcile_cases hk s p with hsame | ⟨v, hv, hend⟩
      · rw [hsame] at hr
        exact hkept hr rfl rfl
      · rcases hend.created_or_kept hr with ⟨k, e, n, rfl⟩ | ⟨r₀, _, hr₀, hkind, hmeta⟩
        · exact ⟨s, p, v, List.mem_append_right _ List.mem_cons_self, hv,
            (k.placedBy_resource hv).stamp n⟩
        · exact hkept hr₀ hkind hmeta

/-- **After a run from the empty cluster**, every object is where a pipeline of the run puts it. -/
theorem placedIn_run {history : List Event} (hr : (empty.run history).objects.find? id = some r) :
    PlacedIn history r := by
  induction history using List.reverseRecOn generalizing id r with
  | nil => contradiction
  | append_singleton history event ih =>
      rw [run_append] at hr
      exact placedIn_step (keyed_empty.run history) (fun _ _ => ih) hr

/-- **No object has an owner in another namespace.**  Every object of the desired state of a valid
pipeline carries the operator's label, and a namespace exactly if its kind has one, which is then the
one that the pipeline targets.  It has an owner exactly if its kind has a namespace, the pipeline is in
this namespace, and the cluster knows the pipeline by name and uid; the pipeline is then its only owner,
as its controller.  The same is true of what a pass over the pipeline creates, in any cluster, and of
everything that is there after a run from the empty cluster, so that an owner is always in the
namespace of what it owns. -/
theorem owners_in_namespace (hv : p.validate = .ok v) :
    (∀ e images, ∀ r ∈ (DesiredState.build v e images).present, r.PlacedBy p v.ns) ∧
    (∀ c : Cluster, c.Keyed → ∀ s id r, c.objects.find? id = none →
      (c.reconcile s p).2.objects.find? id = some r → r.PlacedBy p v.ns) ∧
    ∀ history id r, (empty.run history).objects.find? id = some r →
      ∃ s q w, .pass s q ∈ history ∧ q.validate = .ok w ∧ r.PlacedBy q w.ns ∧
        ∀ o ∈ r.owners, r.metadata.ns = q.metadata.ns := by
  refine ⟨fun e images r hr => ?_, fun c hk s id r hnone hr => ?_, fun history id r hr => ?_⟩
  · obtain ⟨k, -, rfl⟩ := Slot.mem_present.1 hr
    exact k.placedBy_resource hv
  · exact (Ends.of_reconcile hk hv s).placedBy_of_created hv hnone hr
  · obtain ⟨s, q, w, hmem, hw, hplaced⟩ := placedIn_run hr
    exact ⟨s, q, w, hmem, hw, hplaced, fun o ho => hplaced.ns_eq ho⟩

/-- The account of the two teams' collector, as the first pass creates it. -/
def createdAccount : Resource :=
  (Slot.account.resource Pipeline.teamsKnown.validated default .standard).stamp 1

theorem find?_createdAccount :
    (empty.reconcile .standard .teamsKnown).2.objects.find? (Slot.account.id "logging")
      = some createdAccount := by
  rw [reconcile_of_validate Pipeline.validate_teamsKnown]
  rfl

/-- The account belongs to the pipeline of the two teams, which is in its namespace. -/
theorem owners_in_namespace_teamsKnown :
    Pipeline.teamsKnown.validate = .ok Pipeline.teamsKnown.validated ∧
    (empty.reconcile .standard .teamsKnown).2.objects.find? (Slot.account.id "logging")
      = some createdAccount ∧
    createdAccount.owners = [.toPipeline "main" "9d5e4c3b"] ∧
    createdAccount.metadata.ns = Pipeline.teamsKnown.metadata.ns ∧
    createdAccount.PlacedBy .teamsKnown "logging" := by
  obtain ⟨-, hcreated, -⟩ := owners_in_namespace Pipeline.validate_teamsKnown
  have hplaced := hcreated empty keyed_empty .standard _ _ rfl find?_createdAccount
  exact ⟨Pipeline.validate_teamsKnown, find?_createdAccount, rfl,
    hplaced.ns_eq List.mem_cons_self, hplaced⟩

end Cluster

end LogOperator
