import LogOperator.Proofs.Desired.Content
import LogOperator.Proofs.Reconcile.Convergence

/-!
# LogOperator.Proofs.Reconcile.Provenance

Where the objects of a cluster come from.  A pass only compares data and fingerprints, so that a
cluster in which nothing is left to do holds what was asked for is an invariant of whole runs: every
object was built for a slot, from inputs that some pass fingerprinted (`Cluster.Built`).

* `Built.run` — runs of passes over pipelines of one namespace keep the invariant;
* `Built.content` — in a cluster that was built like that, slots that hold have the objects that are
  desired, and no others are there;
* `converged_content` — this is what a pass that converged says, unless fingerprints collide.
-/

namespace LogOperator

open Fingerprint

/-- The event is no pass, or one over a valid pipeline of the namespace. -/
def Event.Targets (ns : String) : Event → Prop
  | .pass _ p => ∃ v, p.validate = .ok v ∧ v.ns = ns
  | .failure .. => True

theorem Event.targets_of_mem_replicate {v : ValidPipeline} {s : Settings} {p : Pipeline}
    {event : Event} {n : Nat} (hv : p.validate = .ok v)
    (h : event ∈ List.replicate n (.pass s p)) : event.Targets v.ns := by
  rw [List.eq_of_mem_replicate h]
  exact ⟨v, hv, rfl⟩

/-- What the inputs of the foundation are does not depend on the endpoint. -/
theorem Slot.parts?_of_mem_foundation {k : Slot} (h : k ∈ foundation) (v : ValidPipeline)
    (e e' : Endpoint) (images : Images) : k.parts? v e images = k.parts? v e' images := by
  cases k <;> first | exact absurd h (by decide) | rfl

/-- The object was built for a slot, from a pipeline of the namespace and, if it is a workload, from
some of the given inputs. -/
def Resource.BuiltFor (r : Resource) (ns : String) (k : Slot) (inputs : List (List String)) :
    Prop :=
  ∃ v e images, v.ns = ns ∧ r.bare = (k.resource v e images).bare ∧
    ∀ ps, k.parts? v e images = some ps → ps ∈ inputs

namespace Cluster

variable {c : Cluster} {s : Settings} {p : Pipeline} {v : ValidPipeline} {images : Images}
  {e : Endpoint} {ns : String} {k : Slot} {I J : Slot → List (List String)}

/-! ## Inputs that are fingerprinted -/

/-- What a pass fingerprints for the workload of a slot: nothing if the component is switched off,
and nothing for a consumer if the pass does not get as far as the endpoint. -/
def digested (c : Cluster) (s : Settings) (p : Pipeline) (k : Slot) : List (List String) :=
  match p.validate with
  | .error _ => []
  | .ok v =>
    if k.enabled v then
      if k ∈ Slot.foundation then (k.parts? v default s.images).toList
      else ((c.reached? s v).bind fun e => k.parts? v e s.images).toList
    else []

/-- What the passes of a run fingerprint for the workload of a slot. -/
def inputs (c : Cluster) : List Event → Slot → List (List String)
  | [], _ => []
  | .pass s p :: events, k => c.digested s p k ++ (c.reconcile s p).2.inputs events k
  | .failure op id :: events, k => (c.injectFailure op id).inputs events k

theorem inputs_append (c : Cluster) (events events' : List Event) (k : Slot) :
    c.inputs (events ++ events') k = c.inputs events k ++ (c.run events).inputs events' k := by
  induction events generalizing c with
  | nil => rfl
  | cons event events ih =>
      cases event with
      | pass s p =>
          rw [List.cons_append, inputs, inputs, ih, List.append_assoc]
          rfl
      | failure op id =>
          rw [List.cons_append, inputs, inputs, ih]
          rfl

/-- The inputs of a slot that a pass has got to are among those that it fingerprints. -/
theorem mem_digested {ps : List String} (hv : p.validate = .ok v) (hen : k.enabled v = true)
    (hr : k ∈ Slot.consumers → c.reached? s v = some e) (hps : k.parts? v e s.images = some ps) :
    ps ∈ c.digested s p k := by
  simp only [digested, hv, if_pos hen]
  split
  · next hf =>
    rw [Slot.parts?_of_mem_foundation hf v default e, hps]
    exact List.mem_singleton_self ps
  · next hf =>
    have hc : k ∈ Slot.consumers := (List.mem_append.1 k.mem_all).resolve_left hf
    rw [hr hc, Option.bind_some, hps]
    exact List.mem_singleton_self ps

/-! ## Objects that were built for a slot -/

/-- Every object was built for the slot that has its identity. -/
def Built (c : Cluster) (ns : String) (I : Slot → List (List String)) : Prop :=
  ∀ id r, c.objects.find? id = some r → ∃ k, id = k.id ns ∧ r.BuiltFor ns k (I k)

theorem built_empty : empty.Built ns I := fun _ _ h => nomatch h

/-- What is allowed to be hashed may grow. -/
theorem Built.mono (h : c.Built ns I) (hIJ : ∀ k, I k ⊆ J k) : c.Built ns J := by
  intro id r hr
  obtain ⟨k, hid, v, e, images, hns, hbare, hps⟩ := h id r hr
  exact ⟨k, hid, v, e, images, hns, hbare, fun ps h => hIJ k (hps ps h)⟩

theorem Built.keyed (h : c.Built ns I) : c.Keyed := by
  intro id r hr
  obtain ⟨k, hid, v, e, images, hns, hbare, -⟩ := h id r hr
  rw [hid, ← hns, ← Resource.id_bare, hbare, Resource.id_bare, Slot.id_resource]

/-- Everything that was built carries the operator's label. -/
theorem Built.isManaged (h : c.Built ns I) {id : Id} {r : Resource}
    (hr : c.objects.find? id = some r) : r.isManaged = true := by
  obtain ⟨k, -, v, e, images, -, hbare, -⟩ := h id r hr
  rw [← Resource.isManaged_bare, hbare, Resource.isManaged_bare, Slot.isManaged_resource]

/-- A stored object of a slot was built for the slot from inputs that are allowed. -/
theorem Built.builtFor (h : c.Built ns I) {r : Resource} (hr : c.objects.find? (k.id ns) = some r) :
    r.BuiltFor ns k (I k) := by
  obtain ⟨l, hid, hbuilt⟩ := h _ r hr
  rw [Slot.id_inj hid]
  exact hbuilt

/-- What an action writes was built for its slot. -/
theorem Built.wants {a : Action} (h : c.Built v.ns I) (hw : c.Wants v e images k a) {w : Resource}
    (hres : a.resource? = some w) {n : Nat} {qs : List (List String)}
    (hps : ∀ ps, k.parts? v e images = some ps → ps ∈ qs) : (w.stamp n).BuiltFor v.ns k qs := by
  refine ⟨v, e, images, rfl, ?_, hps⟩
  rw [Resource.bare_stamp]
  obtain ⟨-, rfl | ⟨hk, current, ho, rfl⟩⟩ := hw.resource? hres
  · rfl
  · obtain ⟨v', e', images', hns, hbare, -⟩ := h.builtFor ho
    rw [Resource.bare_withData, hbare, ← Resource.bare_withData]
    exact Slot.bare_withData_resource hns.symm hk

/-- A pass over a pipeline of the namespace keeps the invariant, with the inputs that it
fingerprints. -/
theorem Built.ends {reply : Reply PassResult} (h : c.Built v.ns I) (hv : p.validate = .ok v)
    (hend : c.Ends s v reply) : reply.2.Built v.ns fun k => I k ++ c.digested s p k := by
  have hnow : c.Built v.ns fun k => I k ++ c.digested s p k :=
    h.mono fun k => List.subset_append_left _ _
  cases hend with
  | converged | unresolved | unread => exact hnow
  | @acts k e a reply _ he _ hw ha =>
      intro id r hr
      rcases ha.origin hr with hr | ⟨w, hres, hid, rfl⟩
      · exact hnow id r hr
      · refine ⟨k, ?_, h.wants hw hres fun ps hps => List.mem_append_right _ ?_⟩
        · rw [← hid, ← Action.target_of_resource? hres, hw.target]
        · exact mem_digested hv (hw.resource? hres).1 (fun hc => (he hc).2) hps

/-- **Provenance**: after a run of passes over pipelines of one namespace, every object was built
for its slot from inputs that were fingerprinted. -/
theorem Built.run {events : List Event} (h : c.Built ns I)
    (hev : ∀ event ∈ events, event.Targets ns) :
    (c.run events).Built ns fun k => I k ++ c.inputs events k := by
  induction events generalizing c I with
  | nil => exact h.mono fun k => List.subset_append_left _ _
  | cons event events ih =>
      have hlater := fun event h => hev event (List.mem_cons_of_mem _ h)
      cases event with
      | pass s p =>
          obtain ⟨v, hv, rfl⟩ := hev _ List.mem_cons_self
          have hstep := h.ends hv (Ends.of_reconcile h.keyed hv s)
          refine (ih hstep hlater).mono fun k => ?_
          rw [inputs, List.append_assoc]
          exact fun _ hmem => hmem
      | failure op id =>
          have hstep : (c.injectFailure op id).Built ns I := h
          exact ih hstep hlater

/-! ## What a converged cluster holds -/

/-- A slot that holds has the very object that is desired, up to what is not the operator's. -/
theorem Built.bare_eq {r : Resource} (h : c.Built v.ns I) (hcol : CollisionFree (I k))
    (hps : ∀ ps, k.parts? v e images = some ps → ps ∈ I k)
    (hr : c.objects.find? (k.id v.ns) = some r) (hagree : (k.resource v e images).Agrees r) :
    r.bare = (k.resource v e images).bare := by
  obtain ⟨v', e', images', hns, hbare, hps'⟩ := h.builtFor hr
  obtain ⟨hdata, hfp⟩ := hagree
  rw [← Resource.data?_bare r, hbare, Resource.data?_bare] at hdata
  rw [Slot.kind_resource, ← Resource.fingerprint?_bare r, hbare, Resource.fingerprint?_bare,
    Slot.fingerprint?_resource, Slot.fingerprint?_resource] at hfp
  have hparts : k.parts? v' e' images' = k.parts? v e images := by
    have hsome := k.isSome_parts? v e images
    have hsome' := k.isSome_parts? v' e' images'
    cases hq : k.parts? v e images with
    | none =>
        rw [hq] at hsome
        rw [← hsome] at hsome'
        simpa using hsome'
    | some ps =>
        rw [hq] at hsome hfp
        rw [← hsome] at hsome'
        obtain ⟨qs, hqs⟩ := Option.isSome_iff_exists.1 hsome'
        have heq := hfp hsome.symm
        rw [hqs, Option.map_some, Option.map_some, Option.some.injEq] at heq
        rw [hqs, hcol.ofParts_inj (hps' qs hqs) (hps ps hq) heq.symm]
  rw [hbare]
  exact Slot.bare_resource_eq k hns hdata.symm hparts

/-- **Content**: where every slot holds, the objects are the desired ones, up to what the operator
does not decide, and there are no others. -/
theorem Built.content (h : c.Built v.ns I) (hcol : ∀ k, CollisionFree (I k))
    (hps : ∀ k : Slot, k.enabled v = true → ∀ ps, k.parts? v e images = some ps → ps ∈ I k)
    (hall : ∀ k, c.Holds v e images k) :
    (∀ id, c.objects.contains id = true ↔
      ∃ d ∈ (DesiredState.build v e images).present, d.id = id) ∧
    ∀ d ∈ (DesiredState.build v e images).present, ∀ r, c.objects.find? d.id = some r →
      r.bare = d.bare := by
  have hstored : ∀ k : Slot, k.enabled v = true → ∃ r, c.objects.find? (k.id v.ns) = some r ∧
      r.bare = (k.resource v e images).bare := by
    intro k hen
    obtain ⟨r, hr, hagree⟩ := (holds_iff_of_enabled hen).1 (hall k)
    exact ⟨r, hr, h.bare_eq (hcol k) (hps k hen) hr hagree⟩
  constructor
  · intro id
    constructor
    · intro hid
      obtain ⟨r, hr⟩ := contains_iff.1 hid
      obtain ⟨k, rfl, -⟩ := h id r hr
      have hen : k.enabled v = true := (hall k).enabled hr (h.isManaged hr)
      exact ⟨_, Slot.mem_present.2 ⟨k, hen, rfl⟩, Slot.id_resource v e images k⟩
    · rintro ⟨d, hd, rfl⟩
      obtain ⟨k, hen, rfl⟩ := Slot.mem_present.1 hd
      obtain ⟨r, hr, -⟩ := hstored k hen
      rw [Slot.id_resource]
      exact contains_iff.2 ⟨r, hr⟩
  · intro d hd r hr
    obtain ⟨k, hen, rfl⟩ := Slot.mem_present.1 hd
    obtain ⟨r', hr', hbare⟩ := hstored k hen
    rw [Slot.id_resource, hr'] at hr
    cases hr
    exact hbare

/-- **What `converged` means.** After any run of passes over pipelines of one namespace, from an
empty cluster and with whatever failures, a pass that converges leaves exactly the objects of the
desired state, each as it is desired but for its version, its owners and the address of a Service;
provided that no two inputs that were fingerprinted collide. -/
theorem converged_content {history : List Event} {r : PassResult}
    (hhistory : ∀ event ∈ history, event.Targets ns) (hv : p.validate = .ok v) (hns : v.ns = ns)
    (hcol : ∀ k, CollisionFree (empty.inputs (history ++ [.pass s p]) k))
    (hr : ((empty.run history).reconcile s p).1 = .ok r) (hc : r.converged = true) :
    ∃ e, r.endpoint = some e ∧
      (∀ id, ((empty.run history).reconcile s p).2.objects.contains id = true ↔
        ∃ d ∈ (DesiredState.build v e s.images).present, d.id = id) ∧
      ∀ d ∈ (DesiredState.build v e s.images).present, ∀ x,
        ((empty.run history).reconcile s p).2.objects.find? d.id = some x → x.bare = d.bare := by
  subst hns
  have hbuilt : (empty.run history).Built v.ns (empty.inputs (history ++ [.pass s p])) := by
    refine (built_empty.run (I := fun _ => []) hhistory).mono fun k => ?_
    rw [inputs_append, List.nil_append]
    exact List.subset_append_left _ _
  obtain ⟨e, rfl, hsame, -, hreach, hall⟩ :=
    (Ends.of_reconcile hbuilt.keyed hv s).of_converged hr hc
  have hps : ∀ k : Slot, k.enabled v = true → ∀ ps, k.parts? v e s.images = some ps →
      ps ∈ empty.inputs (history ++ [.pass s p]) k := by
    intro k hen ps hps
    rw [inputs_append, inputs, inputs, List.append_nil]
    exact List.mem_append_right _ (mem_digested hv hen (fun _ => hreach) hps)
  rw [hsame]
  exact ⟨e, rfl, hbuilt.content hcol hps hall⟩

/-! ## Passes over one pipeline with an external search engine -/

/-- An external endpoint is the only one that is ever reached. -/
theorem reached?_of_external (he : v.externalEndpoint? = some e) {e' : Endpoint}
    (h : c.reached? s v = some e') : e' = e := by
  unfold reached? at h
  split at h
  · next c' _ =>
    have hres : c'.resolveEndpoint v = (.ok e, c') := by
      simp only [resolveEndpoint, he]
    rw [hres] at h
    exact (Option.some.inj h).symm
  · contradiction

/-- Such passes fingerprint the same inputs over and over. -/
theorem inputs_replicate (hv : p.validate = .ok v) (he : v.externalEndpoint? = some e) (n : Nat)
    {ps : List String} (h : ps ∈ c.inputs (List.replicate n (.pass s p)) k) :
    k.parts? v e s.images = some ps := by
  induction n generalizing c with
  | zero => contradiction
  | succ n ih =>
      rw [List.replicate_succ, inputs, List.mem_append] at h
      rcases h with h | h
      · simp only [digested, hv] at h
        split at h
        · split at h
          · next hf =>
            rw [Slot.parts?_of_mem_foundation hf v e default]
            exact Option.mem_toList.1 h
          · obtain ⟨e', he', hps⟩ := Option.bind_eq_some_iff.1 (Option.mem_toList.1 h)
            rw [reached?_of_external he he'] at hps
            exact hps
        · contradiction
      · exact ih h

end Cluster

namespace Pipeline

/-- The search engine of the small pipeline. -/
def smallEndpoint : Endpoint :=
  ⟨.http, "search.example.com", 9200⟩

theorem sized_small (k : Slot) {ps : List String}
    (h : k.parts? small.validated smallEndpoint .standard = some ps) : Sized ps := by
  have hall : ∀ k ∈ Slot.all, ∀ ps ∈ k.parts? small.validated smallEndpoint .standard,
      Sized ps := by
    decide +kernel
  exact hall k k.mem_all ps h

end Pipeline

namespace Cluster

theorem endpoint?_small {c : Cluster} {e : Endpoint}
    (h : c.endpoint? Pipeline.small.validated = some e) :
    e = Pipeline.smallEndpoint :=
  (Option.some.inj h).symm

theorem collisionFree_small (n : Nat) (k : Slot) :
    CollisionFree (empty.inputs (List.replicate n (.pass .standard .small)) k) := by
  have heq : ∀ ps ∈ empty.inputs (List.replicate n (.pass .standard .small)) k,
      k.parts? Pipeline.small.validated Pipeline.smallEndpoint .standard = some ps :=
    fun ps h => inputs_replicate Pipeline.validate_small rfl n h
  cases hps : k.parts? Pipeline.small.validated Pipeline.smallEndpoint .standard with
  | none =>
      have hnone : ∀ ps ∈ empty.inputs (List.replicate n (.pass .standard .small)) k, False := by
        intro ps h
        have hsome := heq ps h
        rw [hps] at hsome
        contradiction
      exact ⟨fun ps h => (hnone ps h).elim, fun ps h => (hnone ps h).elim⟩
  | some ps =>
      exact collisionFree_of_forall_eq (Pipeline.sized_small k hps) fun qs h =>
        Option.some.inj ((heq qs h).symm.trans hps)

/-- Passes over the small pipeline, as many as it takes. -/
theorem converged_content_small : ∃ n r e,
    ((empty.run (List.replicate n (.pass .standard .small))).reconcile .standard .small).1 = .ok r ∧
    r.converged = true ∧ r.endpoint = some e ∧
    ∀ id, ((empty.run (List.replicate n (.pass .standard .small))).reconcile .standard
        .small).2.objects.contains id = true ↔
      ∃ d ∈ (DesiredState.build Pipeline.small.validated e .standard).present, d.id = id := by
  obtain ⟨n, -, r, hr, hc⟩ := exists_converged keyed_empty addressed_empty Pipeline.validate_small
    .standard
  rw [outcome, ← run_replicate] at hr
  have hhistory : ∀ event ∈ List.replicate n (Event.pass .standard .small),
      event.Targets Pipeline.small.validated.ns :=
    fun _ => Event.targets_of_mem_replicate Pipeline.validate_small
  have hcol : ∀ k, CollisionFree (empty.inputs (List.replicate n (.pass .standard .small)
      ++ [.pass .standard .small]) k) := by
    rw [← List.replicate_succ']
    exact collisionFree_small (n + 1)
  obtain ⟨e, he, hids, -⟩ := converged_content hhistory Pipeline.validate_small rfl hcol hr hc
  exact ⟨n, r, e, hr, hc, he, hids⟩

end Cluster

end LogOperator
