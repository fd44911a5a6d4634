import LogOperator.Proofs.Desired.Difference
import LogOperator.Proofs.Endpoint.Url

/-!
# LogOperator.Proofs.Desired.Content

What the operator decides about an object: everything but its version, its owners and the address of
a Service (`Resource.bare`).

* `bare_resource_eq` — what the operator decides about a slot's object is determined by the
  namespace, the data and the inputs that are fingerprinted.
-/

namespace LogOperator

/-! ## What the operator decides -/

/-- The content without the address of a Service. -/
def Content.bare : Content → Content
  | .service (some spec) rest => .service (some { spec with clusterIP := none }) rest
  | content => content

@[simp] theorem Content.kind_bare (content : Content) : content.bare.kind = content.kind := by
  cases content with
  | service spec rest => cases spec <;> rfl
  | _ => rfl

namespace Resource

/-- The object without its version, its owners and the address of a Service. -/
def bare (r : Resource) : Resource where
  metadata := { r.metadata with resourceVersion := none, owners := none }
  content := r.content.bare

/-- What a write assigns is not part of the bare object. -/
@[simp] theorem bare_stamp (n : Nat) (r : Resource) : (r.stamp n).bare = r.bare := by
  obtain ⟨m, content⟩ := r
  cases content with
  | service spec rest => cases spec <;> rfl
  | _ => rfl

/-- Data can be replaced before or after an object is stripped. -/
theorem bare_withData (r : Resource) (data : Option TextMap) :
    (r.withData data).bare = r.bare.withData data := by
  obtain ⟨m, content⟩ := r
  cases content with
  | service spec rest => cases spec <;> rfl
  | _ => rfl

@[simp] theorem kind_bare (r : Resource) : r.bare.kind = r.kind :=
  r.content.kind_bare

@[simp] theorem id_bare (r : Resource) : r.bare.id = r.id := by
  simp only [id, kind_bare]
  rfl

@[simp] theorem data?_bare (r : Resource) : r.bare.data? = r.data? := by
  obtain ⟨m, content⟩ := r
  cases content with
  | service spec rest => cases spec <;> rfl
  | _ => rfl

@[simp] theorem fingerprint?_bare (r : Resource) : r.bare.fingerprint? = r.fingerprint? := rfl

@[simp] theorem isManaged_bare (r : Resource) : r.bare.isManaged = r.isManaged := rfl

end Resource

/-! ## Objects by their inputs -/

namespace Slot

open Component

variable {v v' : ValidPipeline} {e e' : Endpoint} {images images' : Images}

/-- Without its owner, the metadata depends on the namespace alone. -/
theorem bare_ownedMetadata (hns : v.ns = v'.ns) (name : String) (content : Content) :
    (⟨v.ownedMetadata name, content⟩ : Resource).bare
      = (⟨v'.ownedMetadata name, content⟩ : Resource).bare := by
  simp only [Resource.bare, ValidPipeline.ownedMetadata, hns]

theorem bare_workloadMetadata (hns : v.ns = v'.ns) (name : String) (parts : List String)
    (content : Content) : (⟨v.workloadMetadata name parts, content⟩ : Resource).bare
      = (⟨v'.workloadMetadata name parts, content⟩ : Resource).bare := by
  simp only [Resource.bare, ValidPipeline.workloadMetadata, ValidPipeline.ownedMetadata, hns]

/-- **Namespace, data and inputs determine the object** of a slot, up to what the operator does not
decide. -/
theorem bare_resource_eq (k : Slot) (hns : v.ns = v'.ns)
    (hd : (k.resource v e images).data? = (k.resource v' e' images').data?)
    (hp : k.parts? v e images = k.parts? v' e' images') :
    (k.resource v e images).bare = (k.resource v' e' images').bare := by
  cases k with
  | account | searchService | aggregatorService | dashboardService =>
      exact bare_ownedMetadata hns _ _
  | role => rfl
  | binding =>
      simp only [resource, Identity.clusterRoleBinding, hns]
  | aggregatorConfig =>
      have hfiles := Option.some.inj hd
      simp only [resource, Aggregator.configMap, hfiles]
      exact bare_ownedMetadata hns _ _
  | collectorConfig =>
      have hfiles := Option.some.inj hd
      simp only [resource, Collector.configMap, hfiles]
      exact bare_ownedMetadata hns _ _
  | searchWorkload =>
      have hparts := Option.some.inj hp
      have himage := List.head_eq_of_cons_eq hparts
      simp only [resource, SearchEngine.deployment, SearchEngine.pod, himage, hparts]
      exact bare_workloadMetadata hns _ _ _
  | aggregatorWorkload =>
      have hparts := Option.some.inj hp
      obtain ⟨hurl, himage⟩ := append_pair_inj hparts
      have he : e = e' := Endpoint.url_inj hurl
      simp only [resource, Aggregator.deployment, Aggregator.pod, he, himage]
      rw [he] at hparts
      rw [hparts]
      exact bare_workloadMetadata hns _ _ _
  | collectorWorkload =>
      have hparts := Option.some.inj hp
      have himage : images.collector = images'.collector := by
        have htail := List.append_inj_right' hparts rfl
        simpa using htail
      simp only [resource, Collector.daemonSet, Collector.pod, himage, hparts]
      exact bare_workloadMetadata hns _ _ _
  | dashboardWorkload =>
      have hparts := Option.some.inj hp
      have hurl : e.url = e'.url := List.head_eq_of_cons_eq hparts
      have himage := List.head_eq_of_cons_eq (List.tail_eq_of_cons_eq hparts)
      simp only [resource, Dashboard.deployment, Dashboard.pod, hurl, himage, hparts]
      exact bare_workloadMetadata hns _ _ _

/-- A ConfigMap that was built for a slot and given other data is the one that is built of that
data. -/
theorem bare_withData_resource {k : Slot} (hns : v.ns = v'.ns) (hk : k.kind = .configMap) :
    ((k.resource v' e' images').withData (k.resource v e images).data?).bare
      = (k.resource v e images).bare := by
  cases k with
  | aggregatorConfig | collectorConfig => exact bare_ownedMetadata hns.symm _ _
  | _ => contradiction

end Slot

end LogOperator
