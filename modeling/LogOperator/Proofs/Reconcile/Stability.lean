import LogOperator.Proofs.Cluster.Admission
import LogOperator.Proofs.Reconcile.Pass

/-!
# LogOperator.Proofs.Reconcile.Stability

What a pass never undoes, and where it acts once the foundation holds:

* `Ends.keyed` — objects stay stored under their own identities;
* `Ends.addressed` — the Service of the search engine has an address whenever it is there;
* `Ends.grounded` — once the foundation holds, it keeps holding, and the endpoint stays;
* `Ends.holds_through` — from then on, slots that hold together with all those before them keep
  holding;
* `Ends.acts_of_wants` — from then on, a pass acts on the first slot that wants it.
-/

namespace LogOperator

/-! ## Addresses -/

/-- The Service of a search engine has an address as soon as it is written. -/
theorem address?_searchService (v : ValidPipeline) (e : Endpoint) (images : Images) (n : Nat) :
    ((Slot.searchService.resource v e images).stamp n).address?
      = some (assignedAddress n, Component.SearchEngine.port.toUInt16) :=
  Resource.address?_stamp (r := Slot.searchService.resource v e images) rfl rfl rfl (by decide)
    (by decide) n

theorem Action.target_of_resource? {a : Action} {w : Resource} (h : a.resource? = some w) :
    a.target = w.id := by
  cases a with
  | create | updatePayload => exact congrArg Resource.id (Option.some.inj h)
  | delete | recreate => contradiction

namespace Cluster

variable {c c' : Cluster} {s : Settings} {v : ValidPipeline} {images : Images} {e e' : Endpoint}
  {k m : Slot} {reply : Reply PassResult}

/-- The endpoint is read off the Service of the search engine. -/
theorem endpoint?_congr (h : c'.objects.find? (Slot.searchService.id v.ns)
    = c.objects.find? (Slot.searchService.id v.ns)) : c'.endpoint? v = c.endpoint? v := by
  have hid : Component.SearchEngine.serviceId v.ns = Slot.searchService.id v.ns := rfl
  rw [endpoint?, endpoint?, hid, h]

/-- The endpoint of a search engine that is provided is the address of its Service. -/
theorem endpoint?_of_address {r : Resource} {host : String} {port : UInt16}
    (hm : v.managesSearchEngine = true)
    (hr : c.objects.find? (Component.SearchEngine.serviceId v.ns) = some r)
    (ha : r.address? = some (host, port)) : c.endpoint? v = some ⟨.http, host, port⟩ := by
  have hx : v.externalEndpoint? = none := if_pos hm
  rw [endpoint?, hx, hr, Option.bind_some, ha]
  rfl

/-- The Service of a search engine that is provided has an address, if it is there. -/
def Addressed (c : Cluster) (v : ValidPipeline) : Prop :=
  v.managesSearchEngine = true → ∀ r,
    c.objects.find? (Component.SearchEngine.serviceId v.ns) = some r → ∃ a, r.address? = some a

theorem addressed_empty : empty.Addressed v := fun _ _ h => nomatch h

/-- An external search engine needs no address in the cluster. -/
theorem addressed_of_external (h : v.managesSearchEngine = false) : c.Addressed v :=
  fun hm => absurd hm (Bool.eq_false_iff.1 h)

/-- A failure that becomes pending takes no address away. -/
theorem Addressed.injectFailure {op : Operation} {id : Id} (h : c.Addressed v) :
    (c.injectFailure op id).Addressed v := h

/-- The foundation holds and the endpoint is known. -/
structure Grounded (c : Cluster) (v : ValidPipeline) (images : Images) (e : Endpoint) : Prop where
  holds : ∀ k ∈ Slot.foundation, c.Holds v e images k
  endpoint : c.endpoint? v = some e

/-- Whoever gets to a consumer has found the foundation as desired. -/
theorem grounded_of_before (hc : k ∈ Slot.consumers) (he : c.endpoint? v = some e)
    (hb : ∀ l ∈ k.before, c.Holds v e images l) : c.Grounded v images e :=
  ⟨fun l hl => hb l (Slot.mem_before_of_foundation hl hc), he⟩

/-- Once the foundation holds, the endpoint is known. -/
theorem Addressed.endpoint? (ha : c.Addressed v) (hv : v.Locates)
    (hf : ∀ k ∈ Slot.foundation, c.Holds v e images k) : ∃ e, c.endpoint? v = some e := by
  unfold Cluster.endpoint?
  cases hx : v.externalEndpoint? with
  | some e => exact ⟨e, rfl⟩
  | none =>
      have hm := hv.manages hx
      obtain ⟨r, hr⟩ := (hf .searchService (by decide)).exists_service hm
      obtain ⟨a, hra⟩ := ha hm r hr
      exact ⟨_, by rw [hr, Option.bind_some, hra, Option.map_some]⟩

namespace Ends

theorem keyed (h : c.Ends s v reply) (hk : c.Keyed) : reply.2.Keyed := by
  cases h with
  | converged | unresolved => exact hk
  | unread => exact hk.spend
  | acts _ _ _ _ ha => exact ha.keyed hk

/-- A pass takes no address away. -/
theorem addressed (h : c.Ends s v reply) (hs : c.Addressed v) : reply.2.Addressed v := by
  cases h with
  | converged | unresolved | unread => exact hs
  | @acts k e a reply _ _ _ hw ha =>
      intro hm r hr
      rcases ha.origin hr with hr | ⟨w, hres, hid, rfl⟩
      · exact hs hm r hr
      · have hk : k = .searchService := by
          rw [← Action.target_of_resource? hres, hw.target] at hid
          exact Slot.id_inj (l := .searchService) hid
        subst hk
        obtain ⟨-, rfl | ⟨hkind, -⟩⟩ := hw.resource? hres
        · exact ⟨_, address?_searchService v e s.images _⟩
        · contradiction

/-- What a pass acts on once the foundation holds is a consumer of the endpoint. -/
theorem grounded_acts (hk : c.Keyed) (hg : c.Grounded v images e) {a : Action}
    (he : k ∈ Slot.consumers → c.endpoint? v = some e') (hw : c.Wants v e' images k a) :
    k ∈ Slot.consumers ∧ e' = e := by
  have hc : k ∈ Slot.consumers := by
    rcases List.mem_append.1 k.mem_all with hf | hc
    · exact absurd (hk.holds_of_mem_foundation hf e' (hg.holds k hf)) hw.not_holds
    · exact hc
  exact ⟨hc, Option.some.inj ((he hc).symm.trans hg.endpoint)⟩

/-- A pass that answers found every slot as desired, or performed the action of the first one that
is not. -/
theorem of_ok {r : PassResult} (h : c.Ends s v reply) (hr : reply.1 = .ok r) :
    (∃ e, c.endpoint? v = some e ∧ (∀ k, c.Holds v e s.images k) ∧ reply.2 = c) ∨
    ∃ k e a, (k ∈ Slot.consumers → c.endpoint? v = some e) ∧
      (∀ l ∈ k.before, c.Holds v e s.images l) ∧ c.Wants v e s.images k a ∧
      reply.2 = c.perform a := by
  cases h with
  | converged he _ hall => exact .inl ⟨_, he, hall, rfl⟩
  | unresolved | unread => contradiction
  | @acts k e a reply _ he hb hw ha =>
      cases ha with
      | refused | halved => contradiction
      | done => exact .inr ⟨k, e, a, fun hc => (he hc).1, hb, hw, rfl⟩

/-- Once the foundation holds, a pass that can read its slots acts on the first one that wants it. -/
theorem acts_of_wants {a : Action} (h : c.Ends s v reply) (hk : c.Keyed)
    (hg : c.Grounded v s.images e) (hb : ∀ l ∈ k.before, c.Holds v e s.images l)
    (hw : c.Wants v e s.images k a) :
    (∃ id, (.get, id) ∈ c.failures ∧ reply.1 = .error (.store .get id .injected)) ∨
    ∃ answer acted, c.Applies a acted ∧
      reply = (acted.1.map fun _ => .changed a answer s.timing.change, acted.2) := by
  cases h with
  | converged he _ hall =>
      rw [Option.some.inj (he.symm.trans hg.endpoint)] at hall
      exact absurd (hall k) hw.not_holds
  | unresolved he =>
      rw [hg.endpoint] at he
      contradiction
  | unread hf => exact .inl ⟨_, hf, rfl⟩
  | @acts j e' a' acted answer he hb' hw' ha =>
      obtain ⟨-, rfl⟩ := grounded_acts hk hg (fun hc => (he hc).1) hw'
      -- it acts neither before the slot, where all hold, nor behind it, because it does not hold
      rcases Slot.before_trichotomy j k with hj | rfl | hkj
      · exact absurd (hb j hj) hw'.not_holds
      · rw [hw.unique hw']
        exact .inr ⟨answer, acted, ha, rfl⟩
      · exact absurd (hb' k hkj) hw.not_holds

/-- A slot that holds keeps holding, when all those before it hold, too. -/
theorem holds (h : c.Ends s v reply) (hk : c.Keyed) (hg : c.Grounded v s.images e)
    (hb : ∀ l ∈ m.before, c.Holds v e s.images l) (hm : c.Holds v e s.images m) :
    reply.2.Holds v e s.images m := by
  cases h with
  | converged | unresolved | unread => exact hm
  | acts _ he _ hw ha =>
      obtain ⟨-, rfl⟩ := grounded_acts hk hg (fun hc => (he hc).1) hw
      refine (holds_congr (hw.frame ha ?_ fun hd => ?_)).2 hm
      · rintro rfl
        exact hw.not_holds hm
      · exact hw.not_holds (hb _ (Slot.mem_before_of_dependent? hd))

/-- What holds up to the level of an action holds after it. -/
theorem holds_through (h : c.Ends s v reply) (hk : c.Keyed) (hg : c.Grounded v s.images e)
    (hm : ∀ l ∈ m.through, c.Holds v e s.images l) :
    ∀ l ∈ m.through, reply.2.Holds v e s.images l :=
  fun l hl => h.holds hk hg (fun _ hj => hm _ (Slot.through_of_before hj hl)) (hm l hl)

/-- **The foundation stays**, and so does the endpoint. -/
theorem grounded (h : c.Ends s v reply) (hk : c.Keyed) (hg : c.Grounded v s.images e) :
    reply.2.Grounded v s.images e where
  holds := h.holds_through (m := .searchService) hk hg hg.holds
  endpoint := by
    cases h with
    | converged | unresolved | unread => exact hg.endpoint
    | @acts k _ _ _ _ he _ hw ha =>
        obtain ⟨hc, rfl⟩ := grounded_acts hk hg (fun hc => (he hc).1) hw
        rw [endpoint?_congr (hw.frame ha ?_ ?_)]
        · exact hg.endpoint
        · rintro rfl
          exact absurd hc (by decide)
        · intro hd
          exact absurd (Slot.kind_of_dependent? hd).2 (by decide)

end Ends

end Cluster

end LogOperator
