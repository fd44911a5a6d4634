import LogOperator.Proofs.Desired.Identities

/-!
# LogOperator.Proofs.Desired.Readers

Where the endpoint of the search engine goes.  Of all that a pipeline has, two workloads are told the
endpoint, each in the environment of its pods (`ValidPipeline.endpointReaders`); everything else is the
same for every endpoint:

* `Slot.entry_eq_iff` — an entry is the same for two endpoints exactly if it is no reader that is present;
* `Slot.parts?_ne`, `Slot.environment_ne` — a reader shows every difference of endpoints in its inputs
  and in the environment of its pods;
* `DesiredState.endpoint_reaches_readers` — two desired states that differ in the endpoint only.
-/

namespace LogOperator

open Component Fingerprint

/-! ## Workloads that are built from the endpoint -/

namespace Slot

variable {v : ValidPipeline} {e e' : Endpoint} {images : Images} {k : Slot}

/-- The slot's workload has the endpoint among its inputs. -/
def readsEndpoint : Slot → Bool
  | aggregatorWorkload | dashboardWorkload => true
  | _ => false

/-- The slots whose workloads have. -/
def endpointReaders : List Slot :=
  [aggregatorWorkload, dashboardWorkload]

/-- The readers are the slots that read the endpoint. -/
theorem mem_endpointReaders_iff : k ∈ endpointReaders ↔ k.readsEndpoint = true := by
  cases k <;> decide

/-- All other objects are the same, whatever the endpoint is. -/
theorem resource_of_not_readsEndpoint (h : k.readsEndpoint = false) :
    k.resource v e images = k.resource v e' images := by
  cases k with
  | aggregatorWorkload | dashboardWorkload => contradiction
  | _ => rfl

/-- All readers are Deployments. -/
theorem kind_of_readsEndpoint (h : k.readsEndpoint = true) : k.kind = .deployment := by
  cases k <;> first | rfl | contradiction

theorem isWorkload_of_readsEndpoint (h : k.readsEndpoint = true) : k.kind.isWorkload = true := by
  rw [kind_of_readsEndpoint h]
  rfl

/-- Nothing that is settled before the endpoint is known reads it. -/
theorem not_readsEndpoint_of_mem_foundation (h : k ∈ foundation) : k.readsEndpoint = false := by
  cases k <;> first | rfl | exact absurd h (by decide)

/-- A reader has inputs to be fingerprinted. -/
theorem exists_parts?_of_readsEndpoint (h : k.readsEndpoint = true) (v : ValidPipeline) (e : Endpoint)
    (images : Images) : ∃ ps, k.parts? v e images = some ps := by
  rw [← Option.isSome_iff_exists, isSome_parts?, isWorkload_of_readsEndpoint h]

/-- Workloads that are built from different endpoints have different inputs. -/
theorem parts?_ne (h : k.readsEndpoint = true) (hne : e' ≠ e) :
    k.parts? v e' images ≠ k.parts? v e images := by
  intro heq
  apply hne
  cases k with
  | aggregatorWorkload => exact Endpoint.url_inj (append_pair_inj (Option.some.inj heq)).1
  | dashboardWorkload => exact Endpoint.url_inj (List.head_eq_of_cons_eq (Option.some.inj heq))
  | _ => contradiction

/-- So they have different fingerprints, unless these collide. -/
theorem fingerprint?_ne (h : k.readsEndpoint = true) (hne : e' ≠ e)
    (hcol : CollisionFree ((k.parts? v e images).toList ++ (k.parts? v e' images).toList)) :
    (k.resource v e' images).fingerprint? ≠ (k.resource v e images).fingerprint? := by
  intro heq
  have hparts : k.parts? v e' images ≠ k.parts? v e images := parts?_ne h hne
  apply hparts
  obtain ⟨ps, hps⟩ := exists_parts?_of_readsEndpoint h v e images
  obtain ⟨qs, hqs⟩ := exists_parts?_of_readsEndpoint h v e' images
  rw [fingerprint?_resource, fingerprint?_resource, hps, hqs, Option.map_some, Option.map_some,
    Option.some.injEq] at heq
  rw [hps, hqs] at hcol
  rw [hps, hqs, hcol.ofParts_inj (by simp) (by simp) heq]

/-- They run the same images. -/
theorem podImages_eq (h : k.readsEndpoint = true) :
    (k.resource v e' images).podImages = (k.resource v e images).podImages := by
  cases k with
  | aggregatorWorkload =>
      have himages (e : Endpoint) : (aggregatorWorkload.resource v e images).podImages
          = [some images.aggregator] := rfl
      rw [himages, himages]
  | dashboardWorkload =>
      have himages (e : Endpoint) : (dashboardWorkload.resource v e images).podImages
          = [some (images.dashboardAt v.spec.version)] := rfl
      rw [himages, himages]
  | _ => contradiction

/-- Their pods have different environments, too, because they are the same in everything else that is
among the inputs. -/
theorem environment_ne (h : k.readsEndpoint = true) (hne : e' ≠ e) :
    (k.resource v e' images).environment ≠ (k.resource v e images).environment := by
  intro henv
  have hparts : k.parts? v e' images ≠ k.parts? v e images := parts?_ne h hne
  refine hparts (parts?_eq_of_pods (podImages_eq h) henv fun j hj => ?_)
  have hdata : j.readsEndpoint = false := by
    cases hr : j.readsEndpoint with
    | false => rfl
    | true =>
        have hw := isWorkload_of_readsEndpoint hr
        rw [(kind_of_dependent? (mem_mounts.1 hj)).1] at hw
        contradiction
  rw [resource_of_not_readsEndpoint hdata]

/-! ## Entries -/

/-- An entry is the same for two endpoints, unless it is that of a reader that is present. -/
theorem entry_eq_iff (hne : e' ≠ e) : k.entry v e' images = k.entry v e images ↔
    ¬ (k.readsEndpoint = true ∧ k.enabled v = true) := by
  constructor
  · rintro heq ⟨hreads, hen⟩
    rw [entry, entry, if_pos hen, if_pos hen, Entry.present.injEq] at heq
    exact environment_ne hreads hne (congrArg Resource.environment heq.1)
  · intro hnot
    rw [entry, entry]
    split
    · next hen =>
      have hreads : k.readsEndpoint = false := Bool.eq_false_iff.2 fun hr => hnot ⟨hr, hen⟩
      rw [resource_of_not_readsEndpoint hreads]
    · rfl

end Slot

/-! ## Desired states -/

/-- The identities of the workloads that are told the endpoint: that of the aggregator, and that of the
dashboard if the pipeline asks for one. -/
def ValidPipeline.endpointReaders (v : ValidPipeline) : List Id :=
  ⟨.deployment, "fluentd", some v.ns⟩ ::
    if v.spec.dashboard then [⟨.deployment, "kibana", some v.ns⟩] else []

/-- The identities of the readers are those of the slots that are switched on. -/
theorem ValidPipeline.endpointReaders_eq_map (v : ValidPipeline) :
    v.endpointReaders = (Slot.endpointReaders.filter (·.enabled v)).map (Slot.id v.ns) := by
  unfold endpointReaders
  cases hd : v.spec.dashboard <;>
    simp only [Slot.endpointReaders, List.filter_cons, Slot.enabled, hd] <;>
    rfl

/-- A slot is among them exactly if it reads the endpoint and is switched on. -/
theorem Slot.id_mem_endpointReaders_iff {v : ValidPipeline} {k : Slot} :
    k.id v.ns ∈ v.endpointReaders ↔ k.readsEndpoint = true ∧ k.enabled v = true := by
  rw [v.endpointReaders_eq_map, id_mem_map_iff, List.mem_filter, mem_endpointReaders_iff]

namespace DesiredState

/-- Two desired states have the same levels with entries of the same identities, and exactly the entries
of the listed identities differ. -/
def DifferOnlyAt (ids : List Id) (s s' : DesiredState) : Prop :=
  List.Forall₂ (fun l l' => l.1 = l'.1 ∧
    List.Forall₂ (fun x x' => x.id = x'.id ∧ (x = x' ↔ x.id ∉ ids)) l.2 l'.2) s s'

variable {v : ValidPipeline} {e e' : Endpoint} (images : Images)

/-- Desired states for two endpoints differ at the readers and nowhere else. -/
theorem differOnlyAt_endpointReaders (hne : e' ≠ e) :
    DifferOnlyAt v.endpointReaders (build v e images) (build v e' images) := by
  rw [DifferOnlyAt, build_eq_map, build_eq_map, List.forall₂_map_left_iff,
    List.forall₂_map_right_iff, List.forall₂_same]
  refine fun l _ => ⟨rfl, ?_⟩
  rw [List.forall₂_map_left_iff, List.forall₂_map_right_iff, List.forall₂_same]
  intro k _
  rw [Slot.id_entry, Slot.id_entry, Slot.id_mem_endpointReaders_iff]
  exact ⟨rfl, Slot.entry_eq_iff hne.symm⟩

theorem kind_of_mem_endpointReaders {id : Id} (h : id ∈ v.endpointReaders) :
    id.kind = .deployment := by
  rw [v.endpointReaders_eq_map] at h
  obtain ⟨k, hk, rfl⟩ := List.mem_map.1 h
  exact Slot.kind_of_readsEndpoint (Slot.mem_endpointReaders_iff.1 (List.mem_of_mem_filter hk))

/-- Objects that are not told the endpoint are the same for every endpoint. -/
theorem object?_eq_of_not_mem {id : Id} (h : id ∉ v.endpointReaders) :
    (build v e images).object? id = (build v e' images).object? id := by
  by_cases hid : ∃ k : Slot, id = k.id v.ns
  · obtain ⟨k, rfl⟩ := hid
    rw [Slot.id_mem_endpointReaders_iff] at h
    rw [Slot.object?_build, Slot.object?_build]
    split
    · next hen =>
      have hreads : k.readsEndpoint = false := Bool.eq_false_iff.2 fun hr => h ⟨hr, hen⟩
      rw [Slot.resource_of_not_readsEndpoint hreads]
    · rfl
  · rw [not_exists] at hid
    rw [Slot.object?_build_eq_none hid, Slot.object?_build_eq_none hid]

/-- **The endpoint reaches its readers, and nothing else.**  Let two desired states be built for different
endpoints.  Entry by entry they are the same, except for the readers of the endpoint, so every ConfigMap
is the same.  Each reader is there in both and shows the difference: in the environment of its pods, and
in the inputs that its fingerprint is made from. -/
theorem endpoint_reaches_readers (v : ValidPipeline) (hne : e' ≠ e) :
    DifferOnlyAt v.endpointReaders (build v e images) (build v e' images) ∧
    (∀ id : Id, id.kind = .configMap →
      (build v e images).object? id = (build v e' images).object? id) ∧
    (∀ id ∈ v.endpointReaders, ∃ (k : Slot) (r r' : Resource) (ps ps' : List String),
      id = k.id v.ns ∧
      (build v e images).object? id = some r ∧ (build v e' images).object? id = some r' ∧
      r.environment ≠ r'.environment ∧
      k.parts? v e images = some ps ∧ k.parts? v e' images = some ps' ∧ ps ≠ ps' ∧
      r.fingerprint? = some (Fingerprint.ofParts ps) ∧
      r'.fingerprint? = some (Fingerprint.ofParts ps')) := by
  refine ⟨differOnlyAt_endpointReaders images hne, fun id hid => ?_, fun id hid => ?_⟩
  · refine object?_eq_of_not_mem images fun hmem => ?_
    have hkind := kind_of_mem_endpointReaders hmem
    rw [hid] at hkind
    contradiction
  · rw [v.endpointReaders_eq_map] at hid
    obtain ⟨k, hk, rfl⟩ := List.mem_map.1 hid
    rw [List.mem_filter, Slot.mem_endpointReaders_iff] at hk
    obtain ⟨hreads, hen⟩ := hk
    obtain ⟨ps, hps⟩ := Slot.exists_parts?_of_readsEndpoint hreads v e images
    obtain ⟨ps', hps'⟩ := Slot.exists_parts?_of_readsEndpoint hreads v e' images
    refine ⟨k, k.resource v e images, k.resource v e' images, ps, ps', rfl, ?_, ?_,
      Slot.environment_ne hreads hne.symm, hps, hps', ?_, ?_, ?_⟩
    · rw [Slot.object?_build, if_pos hen]
    · rw [Slot.object?_build, if_pos hen]
    · rintro rfl
      exact Slot.parts?_ne hreads hne (hps'.trans hps.symm)
    · rw [Slot.fingerprint?_resource, hps, Option.map_some]
    · rw [Slot.fingerprint?_resource, hps', Option.map_some]

/-- The search engine of the two teams moves to another scheme, which their dashboard is told. -/
theorem endpoint_reaches_readers_displayed :
    let v := Pipeline.displayed.validated
    let e := Pipeline.displayedEndpoint "10.96.0.5"
    let e' : Endpoint := { e with scheme := .https }
    Pipeline.displayed.validate = .ok v ∧ e' ≠ e ∧
    v.endpointReaders = [⟨.deployment, "fluentd", some v.ns⟩, ⟨.deployment, "kibana", some v.ns⟩] ∧
    (∃ r r', (build v e .standard).object? ⟨.deployment, "kibana", some v.ns⟩ = some r ∧
      (build v e' .standard).object? ⟨.deployment, "kibana", some v.ns⟩ = some r' ∧
      r.environment ≠ r'.environment) := by
  intro v e e'
  have hne : e' ≠ e := by decide
  have hreaders : v.endpointReaders
      = [⟨.deployment, "fluentd", some v.ns⟩, ⟨.deployment, "kibana", some v.ns⟩] := rfl
  obtain ⟨-, -, hshown⟩ := endpoint_reaches_readers .standard v hne
  obtain ⟨-, r, r', -, -, -, hr, hr', henv, -⟩ :=
    hshown ⟨.deployment, "kibana", some v.ns⟩ (by rw [hreaders]; simp)
  exact ⟨Pipeline.validate_displayed, hne, hreaders, r, r', hr, hr', henv⟩

end DesiredState

end LogOperator
