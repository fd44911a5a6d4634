import LogOperator.Proofs.Component.Pods
import LogOperator.Proofs.Desired.Content
import LogOperator.Proofs.Routing.Tags

/-!
# LogOperator.Proofs.Desired.Freshness

A workload is made anew exactly if its pods would be others.  The inputs that are fingerprinted are
compared with what the pods are given: their template, and the data of the ConfigMaps that they mount
(`DesiredState.mounted`), of which the template only has the names:

* `Slot.mounted_resource` — a workload mounts the data that it depends on;
* `Slot.template?_eq_of_parts?` — the inputs determine the template;
* `Slot.parts?_eq_iff_pods` — images, environment and mounted data determine the inputs, and the other
  way round;
* `Slot.fingerprint_tells_pods` — so inputs are equal exactly if template and mounted data are.
-/

namespace LogOperator

/-! ## What pods are given -/

/-- The names of the ConfigMaps behind the volumes that some container of the pod mounts. -/
def PodSpec.configMaps (pod : PodSpec) : List String :=
  let mounts := pod.containers.flatMap fun c => (c.mounts.getD []).map (·.name)
  ((pod.volumes.getD []).filter fun x => mounts.contains x.name).filterMap fun x =>
    x.configMap.map (·.target)

namespace Resource

/-- The template of a workload's pods. -/
def template? (r : Resource) : Option PodTemplate :=
  match r.content with
  | .daemonSet spec _ | .deployment spec _ => spec.map (·.template)
  | _ => none

/-- The images that the containers of a workload's pods run. -/
def podImages (r : Resource) : List (Option String) :=
  (r.pod?.map fun pod => pod.containers.map (·.image)).getD []

/-- The ConfigMaps that a workload's pods mount. -/
def configMaps (r : Resource) : List Id :=
  ((r.pod?.map PodSpec.configMaps).getD []).map (⟨.configMap, ·, r.metadata.ns⟩)

/-- The pod of a workload is that of its template. -/
theorem pod?_eq (r : Resource) : r.pod? = r.template?.bind (·.spec) := by
  obtain ⟨m, content⟩ := r
  cases content with
  | daemonSet spec _ | deployment spec _ => cases spec <;> rfl
  | _ => rfl

/-- Images are part of the template. -/
theorem podImages_eq_of_template? {r r' : Resource} (h : r.template? = r'.template?) :
    r.podImages = r'.podImages := by
  rw [podImages, podImages, pod?_eq, pod?_eq, h]

/-- The environment is part of the template. -/
theorem environment_eq_of_template? {r r' : Resource} (h : r.template? = r'.template?) :
    r.environment = r'.environment := by
  rw [environment, environment, pod?_eq, pod?_eq, h]

/-- Of two workloads of one kind, only the fingerprints are compared. -/
theorem drift_eq_stale_iff {desired observed : Resource} (hk : desired.kind = observed.kind)
    (hw : desired.kind.isWorkload = true) :
    desired.drift observed = .stale ↔ desired.fingerprint? ≠ observed.fingerprint? := by
  have hne {kind : Kind} (hw : kind.isWorkload = true) : kind ≠ .configMap := by
    rintro rfl
    contradiction
  rw [drift_eq hk, data?_of_kind (hne hw), data?_of_kind (hne (hk ▸ hw)), if_neg (by simp)]
  simp [hw]

end Resource

/-- The data that a workload's pods mount, as a desired state has it. -/
def DesiredState.mounted (s : DesiredState) (r : Resource) : List (Option TextMap) :=
  r.configMaps.map fun id => (s.object? id).bind (·.data?)

namespace Slot

open Component Fingerprint

variable {v v' : ValidPipeline} {e e' : Endpoint} {images images' : Images} {k : Slot}
  {r r' : Resource}

/-! ## Mounted data -/

/-- The slots of the data that a workload depends on. -/
def mounts (k : Slot) : List Slot :=
  all.filter (·.dependent? = some k)

/-- A workload mounts the data that it depends on. -/
theorem mem_mounts {j : Slot} : j ∈ k.mounts ↔ j.dependent? = some k := by
  simp [mounts, mem_all]

/-- The volumes of a workload name the data that it depends on. -/
theorem configMaps_resource (v : ValidPipeline) (e : Endpoint) (images : Images) (k : Slot) :
    (k.resource v e images).configMaps = k.mounts.map (id v.ns) := by
  cases k <;> rfl

/-- **A workload mounts the data that it depends on.** -/
theorem mounted_resource (v : ValidPipeline) (e : Endpoint) (images : Images) (k : Slot) :
    (DesiredState.build v e images).mounted (k.resource v e images)
      = k.mounts.map fun j => (j.resource v e images).data? := by
  rw [DesiredState.mounted, configMaps_resource, List.map_map]
  refine List.map_congr_left fun j hj => ?_
  rw [Function.comp_apply, object?_build,
    if_pos (enabled_of_dependent? (mem_mounts.1 hj) v).1, Option.bind_some]

/-- What a workload mounts is the same exactly if the data is. -/
theorem mounted_eq_iff : (DesiredState.build v e images).mounted (k.resource v e images)
      = (DesiredState.build v' e' images').mounted (k.resource v' e' images') ↔
    ∀ j ∈ k.mounts, (j.resource v e images).data? = (j.resource v' e' images').data? := by
  rw [mounted_resource, mounted_resource, List.map_inj_left]

/-! ## Inputs and pods -/

/-- Only workloads have pods. -/
theorem template?_eq_none (hk : k.kind.isWorkload = false) :
    (k.resource v e images).template? = none := by
  cases k <;> first | rfl | contradiction

/-- The inputs of a workload determine the template of its pods. -/
theorem template?_eq_of_parts? (h : k.parts? v e images = k.parts? v' e' images') :
    (k.resource v e images).template? = (k.resource v' e' images').template? := by
  cases k with
  | searchWorkload =>
      have himage := List.head_eq_of_cons_eq (Option.some.inj h)
      have hpod : SearchEngine.pod v images = SearchEngine.pod v' images' := by
        simp only [SearchEngine.pod, himage]
      exact congrArg (fun pod => some (PodTemplate.of SearchEngine.name pod)) hpod
  | aggregatorWorkload =>
      obtain ⟨hurl, himage⟩ := append_pair_inj (Option.some.inj h)
      have hpod : Aggregator.pod e images = Aggregator.pod e' images' := by
        simp only [Aggregator.pod, Endpoint.url_inj hurl, himage]
      exact congrArg (fun pod => some (PodTemplate.of Aggregator.name pod)) hpod
  | collectorWorkload =>
      have himage := List.head_eq_of_cons_eq (List.append_inj_right' (Option.some.inj h) rfl)
      have hpod : Collector.pod images = Collector.pod images' := by
        simp only [Collector.pod, himage]
      exact congrArg (fun pod => some (PodTemplate.of Collector.name pod)) hpod
  | dashboardWorkload =>
      have hparts := Option.some.inj h
      have hurl := List.head_eq_of_cons_eq hparts
      have himage := List.head_eq_of_cons_eq (List.tail_eq_of_cons_eq hparts)
      have hpod : Dashboard.pod v e images = Dashboard.pod v' e' images' := by
        simp only [Dashboard.pod, hurl, himage]
      exact congrArg (fun pod => some (PodTemplate.of Dashboard.name pod)) hpod
  | _ => rw [template?_eq_none rfl, template?_eq_none rfl]

/-- Images, environment and mounted data of a workload's pods determine its inputs. -/
theorem parts?_eq_of_pods
    (himages : (k.resource v e images).podImages = (k.resource v' e' images').podImages)
    (henv : (k.resource v e images).environment = (k.resource v' e' images').environment)
    (hdata : ∀ j ∈ k.mounts, (j.resource v e images).data? = (j.resource v' e' images').data?) :
    k.parts? v e images = k.parts? v' e' images' := by
  cases k with
  | searchWorkload =>
      have himage := Option.some.inj (List.head_eq_of_cons_eq himages)
      simp only [parts?, SearchEngine.parts, himage]
  | aggregatorWorkload =>
      have himage := Option.some.inj (List.head_eq_of_cons_eq himages)
      have hfiles := Option.some.inj (hdata .aggregatorConfig (by decide))
      have hvalues : [e.host, e.portText, e.scheme.name] = [e'.host, e'.portText, e'.scheme.name] :=
        congrArg (fun env => (env.filterMap (·.value)).tail) henv
      simp only [List.cons.injEq, and_true] at hvalues
      obtain ⟨hhost, hport, hscheme⟩ := hvalues
      have hurl : e.url = e'.url := by
        rw [Endpoint.url, Endpoint.url, hhost, hport, hscheme]
      simp only [parts?, Aggregator.parts, hfiles, hurl, himage]
  | collectorWorkload =>
      have himage := Option.some.inj (List.head_eq_of_cons_eq himages)
      have hfiles := Option.some.inj (hdata .collectorConfig (by decide))
      simp only [parts?, Collector.parts, hfiles, himage]
  | dashboardWorkload =>
      have himage := Option.some.inj (List.head_eq_of_cons_eq himages)
      have hvalues : [e.url, e.url] = [e'.url, e'.url] :=
        congrArg (fun env => env.filterMap (·.value)) henv
      have hurl := List.head_eq_of_cons_eq hvalues
      simp only [parts?, Dashboard.parts, hurl, himage]
  | _ => rfl

/-- **The inputs of a workload are images, environment and mounted data**, and nothing else. -/
theorem parts?_eq_iff_pods : k.parts? v e images = k.parts? v' e' images' ↔
    (k.resource v e images).podImages = (k.resource v' e' images').podImages ∧
    (k.resource v e images).environment = (k.resource v' e' images').environment ∧
    ∀ j ∈ k.mounts, (j.resource v e images).data? = (j.resource v' e' images').data? := by
  refine ⟨fun h => ?_, fun h => parts?_eq_of_pods h.1 h.2.1 h.2.2⟩
  have htemplate := template?_eq_of_parts? h
  exact ⟨Resource.podImages_eq_of_template? htemplate,
    Resource.environment_eq_of_template? htemplate,
    fun j hj => data?_eq_of_parts? (mem_mounts.1 hj) h⟩

/-- **The inputs of a workload are its template and the data that it mounts**: they differ exactly
if one of these does. -/
theorem parts?_eq_iff_template : k.parts? v e images = k.parts? v' e' images' ↔
    (k.resource v e images).template? = (k.resource v' e' images').template? ∧
    ∀ j ∈ k.mounts, (j.resource v e images).data? = (j.resource v' e' images').data? := by
  refine ⟨fun h => ⟨template?_eq_of_parts? h, (parts?_eq_iff_pods.1 h).2.2⟩, fun h => ?_⟩
  exact parts?_eq_of_pods (Resource.podImages_eq_of_template? h.1)
    (Resource.environment_eq_of_template? h.1) h.2

/-! ## Fingerprints -/

/-- Without a collision, fingerprints are equal exactly if the inputs are. -/
theorem fingerprint?_eq_iff
    (hcol : CollisionFree ((k.parts? v e images).toList ++ (k.parts? v' e' images').toList)) :
    (k.resource v e images).fingerprint? = (k.resource v' e' images').fingerprint? ↔
      k.parts? v e images = k.parts? v' e' images' := by
  rw [fingerprint?_resource, fingerprint?_resource]
  refine ⟨fun h => ?_, fun h => by rw [h]⟩
  cases hp : k.parts? v e images with
  | none =>
      rw [hp] at h
      exact (Option.map_eq_none_iff.1 h.symm).symm
  | some ps =>
      rw [hp, Option.map_some] at h
      obtain ⟨qs, hq, hsame⟩ := Option.map_eq_some_iff.1 h.symm
      rw [hp, hq] at hcol
      rw [hq, hcol.ofParts_inj (by simp) (by simp) hsame]

/-- **A fingerprint tells what the pods are given.**  Let two desired states have the workload of a slot.
The fingerprint of each is that of its inputs, and the inputs are equal exactly if the pods are made
from the same template and mount the same data.  So, unless these inputs collide, the second workload
finds the first one stale, with whatever resource version it is in the cluster, exactly if they
differ in image, environment or mounted data. -/
theorem fingerprint_tells_pods (hk : k.kind.isWorkload = true)
    (hr : (DesiredState.build v e images).object? (k.id v.ns) = some r)
    (hr' : (DesiredState.build v' e' images').object? (k.id v'.ns) = some r') :
    r.fingerprint? = (k.parts? v e images).map ofParts ∧
    r'.fingerprint? = (k.parts? v' e' images').map ofParts ∧
    (k.parts? v e images = k.parts? v' e' images' ↔ r.template? = r'.template? ∧
      (DesiredState.build v e images).mounted r = (DesiredState.build v' e' images').mounted r') ∧
    (CollisionFree ((k.parts? v e images).toList ++ (k.parts? v' e' images').toList) → ∀ n,
      r'.drift (r.stamp n) = .stale ↔
        r.podImages ≠ r'.podImages ∨ r.environment ≠ r'.environment ∨
        (DesiredState.build v e images).mounted r
          ≠ (DesiredState.build v' e' images').mounted r') := by
  rw [object?_build, Option.ite_none_right_eq_some, Option.some.injEq] at hr hr'
  obtain ⟨-, rfl⟩ := hr
  obtain ⟨-, rfl⟩ := hr'
  refine ⟨fingerprint?_resource v e images k, fingerprint?_resource v' e' images' k, ?_, ?_⟩
  · rw [mounted_eq_iff]
    exact parts?_eq_iff_template
  · intro hcol n
    rw [Resource.drift_eq_stale_iff (by simp) (by simpa using hk), Resource.fingerprint?_stamp,
      ne_comm, ne_eq, fingerprint?_eq_iff hcol, parts?_eq_iff_pods, ne_eq, ne_eq, ne_eq,
      mounted_eq_iff, Classical.not_and_iff_not_or_not, Classical.not_and_iff_not_or_not]

end Slot

namespace Pipeline

/-- The pipeline of two teams, with a dashboard. -/
def displayed : Pipeline :=
  { teams with spec := { teams.spec with dashboard := true } }

theorem validate_displayed : displayed.validate = .ok displayed.validated :=
  validate_of_violations (by decide +kernel)

/-- The search engine of the two teams at an address. -/
def displayedEndpoint (address : String) : Endpoint :=
  ⟨.http, address, 9200⟩

end Pipeline

namespace Slot

open Component Fingerprint Pipeline

/-- The inputs of its dashboard have different fingerprints at the two addresses. -/
theorem collisionFree_displayed : CollisionFree
    [Dashboard.parts displayed.validated (displayedEndpoint "10.96.0.5") .standard,
     Dashboard.parts displayed.validated (displayedEndpoint "10.96.0.11") .standard] :=
  collisionFree_pair (by decide +kernel) (by decide +kernel) (by decide +kernel)

/-- The search engine gets another address, so the dashboard's pods would be given another URL. -/
theorem fingerprint_tells_pods_displayed :
    let v := displayed.validated
    let r := dashboardWorkload.resource v (displayedEndpoint "10.96.0.5") .standard
    let r' := dashboardWorkload.resource v (displayedEndpoint "10.96.0.11") .standard
    displayed.validate = .ok v ∧
    (DesiredState.build v (displayedEndpoint "10.96.0.5") .standard).object?
      (dashboardWorkload.id v.ns) = some r ∧
    (DesiredState.build v (displayedEndpoint "10.96.0.11") .standard).object?
      (dashboardWorkload.id v.ns) = some r' ∧
    r.environment ≠ r'.environment ∧ ∀ n, r'.drift (r.stamp n) = .stale := by
  intro v r r'
  have hr (e : Endpoint) : (DesiredState.build v e .standard).object? (dashboardWorkload.id v.ns)
      = some (dashboardWorkload.resource v e .standard) := by
    rw [object?_build]
    exact if_pos rfl
  have henv : r.environment ≠ r'.environment := by
    intro h
    have hvalues := congrArg (List.filterMap (·.value)) h
    revert hvalues
    decide +kernel
  obtain ⟨-, -, -, hstale⟩ := fingerprint_tells_pods rfl (hr _) (hr _)
  exact ⟨validate_displayed, hr _, hr _, henv, fun n =>
    (hstale collisionFree_displayed n).2 (.inr (.inl henv))⟩

end Slot

end LogOperator
