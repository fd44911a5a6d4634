import LogOperator.Proofs.Pipeline.WellFormed
import LogOperator.Proofs.Reconcile.Demand

/-!
# LogOperator.Proofs.Reconcile.Pass

How a pass ends.  A visit of entries either passes all of them by or stops at the first one that
cannot be read or calls for an action (`Cluster.Visits`, and `Cluster.Stops` where objects are stored
under their own identities).  A pass visits the foundation, then resolves the endpoint, then visits
the consumers of the endpoint, and `Cluster.Ends` lists its four ends, slot by slot:

* `visits_settle`, `settle_cases` — every visit passes by or stops;
* `Ends.of_reconcileValid` — every pass over a pipeline that tells where its search engine is has
  one of the four ends.
-/

namespace LogOperator

/-! ## Where the search engine is -/

/-- The pipeline asks for a search engine or tells where one is. -/
def ValidPipeline.Locates (v : ValidPipeline) : Prop :=
  v.managesSearchEngine = false → ∃ e, v.externalEndpoint? = some e

/-- Without an external endpoint there is a search engine of one's own. -/
theorem ValidPipeline.Locates.manages {v : ValidPipeline} (hv : v.Locates)
    (hx : v.externalEndpoint? = none) : v.managesSearchEngine = true := by
  cases hm : v.managesSearchEngine with
  | true => rfl
  | false =>
      obtain ⟨e, he⟩ := hv hm
      rw [hx] at he
      contradiction

/-- A valid pipeline says where its search engine is. -/
theorem Pipeline.locates_of_validate {p : Pipeline} {v : ValidPipeline} (h : p.validate = .ok v) :
    v.Locates := by
  intro hm
  have hr : v.spec.searchEngine.required = false := hm
  have hport := ((wellFormed_of_validate h).searchEngine hr).2
  obtain ⟨port, hport⟩ := Option.isSome_iff_exists.1 hport
  simp [ValidPipeline.externalEndpoint?, hr, hport]

namespace Cluster

variable {c : Cluster} {s : Settings} {v : ValidPipeline} {images : Images} {e : Endpoint}
  {x : Entry} {a : Action} {es : List Entry} {id : Id}

/-! ## Visits -/

/-- A visit passes the entry by: it is read and calls for nothing. -/
def Skips (c : Cluster) (x : Entry) : Prop :=
  (.get, x.id) ∉ c.failures ∧ c.demand x = none

/-- How a visit of entries goes: it passes all of them by, or one cannot be read, or one calls for an
action, which is carried out. -/
inductive Visits (c : Cluster) (es : List Entry) : Reply (Option Action) → Prop where
  | passed (hall : ∀ x ∈ es, c.Skips x) : Visits c es (.ok none, c)
  | unread {before after : List Entry} {x : Entry} (hes : es = before ++ x :: after)
      (hb : ∀ y ∈ before, c.Skips y) (hf : (.get, x.id) ∈ c.failures) :
      Visits c es (.error (.store .get x.id .injected), c.spend .get x.id)
  | acts {before after : List Entry} {x : Entry} {a : Action} (hes : es = before ++ x :: after)
      (hb : ∀ y ∈ before, c.Skips y) (hf : (.get, x.id) ∉ c.failures) (hd : c.demand x = some a) :
      Visits c es ((c.apply a).1.map fun _ => some a, (c.apply a).2)

/-- Every visit goes like that, whatever the cluster holds. -/
theorem visits_settle (c : Cluster) (es : List Entry) : c.Visits es (c.settle es) := by
  induction es with
  | nil => exact .passed fun _ h => (List.not_mem_nil h).elim
  | cons x es ih =>
      have hhead : x :: es = [] ++ x :: es := rfl
      by_cases hf : (.get, x.id) ∈ c.failures
      · simp only [settle, get_of_mem hf]
        exact .unread hhead (fun _ h => (List.not_mem_nil h).elim) hf
      · cases hd : c.demand x with
        | some a =>
            have hstep : c.settle (x :: es)
                = ((c.apply a).1.map fun _ => some a, (c.apply a).2) := by
              have hd : x.ensure (c.objects.find? x.id) = some a := hd
              simp only [settle, get_of_not_mem hf, hd]
              split <;> next heq => rw [heq]; rfl
            rw [hstep]
            exact .acts hhead (fun _ h => (List.not_mem_nil h).elim) hf hd
        | none =>
            have hskip : c.Skips x := ⟨hf, hd⟩
            have hstep : c.settle (x :: es) = c.settle es := by
              have hd : x.ensure (c.objects.find? x.id) = none := hd
              simp only [settle, get_of_not_mem hf, hd]
            rw [hstep]
            generalize c.settle es = reply at ih
            cases ih with
            | passed hall => exact .passed (List.forall_mem_cons.2 ⟨hskip, hall⟩)
            | unread hes hb hf =>
                exact .unread (congrArg (x :: ·) hes) (List.forall_mem_cons.2 ⟨hskip, hb⟩) hf
            | acts hes hb hf hd =>
                exact .acts (congrArg (x :: ·) hes) (List.forall_mem_cons.2 ⟨hskip, hb⟩) hf hd

/-- How a visit of entries stops, when objects are stored under their own identities. -/
inductive Stops (c : Cluster) (es : List Entry) : Reply Action → Prop where
  | unread {before after : List Entry} {x : Entry} (hes : es = before ++ x :: after)
      (hb : ∀ y ∈ before, c.Skips y) (hf : (.get, x.id) ∈ c.failures) :
      Stops c es (.error (.store .get x.id .injected), c.spend .get x.id)
  | acts {before after : List Entry} {x : Entry} {a : Action} {reply : Reply Unit}
      (hes : es = before ++ x :: after) (hb : ∀ y ∈ before, c.Skips y)
      (hf : (.get, x.id) ∉ c.failures) (hd : c.demand x = some a) (ha : c.Applies a reply) :
      Stops c es (reply.1.map fun _ => a, reply.2)

/-- Every visit passes all entries by or stops at one. -/
theorem settle_cases (hk : c.Keyed) (es : List Entry) :
    (∀ x ∈ es, c.Skips x) ∧ c.settle es = (.ok none, c) ∨
      ∃ reply, c.Stops es reply ∧ c.settle es = (reply.1.map some, reply.2) := by
  have hvisit := c.visits_settle es
  generalize c.settle es = reply at hvisit
  cases hvisit with
  | passed hall => exact .inl ⟨hall, rfl⟩
  | unread hes hb hf => exact .inr ⟨_, .unread hes hb hf, rfl⟩
  | @acts _ _ _ a hes hb hf hd =>
      have ha := applies_apply (hk.target_of_demand hd).2
      refine .inr ⟨_, .acts hes hb hf hd ha, ?_⟩
      obtain ⟨answer, c'⟩ := c.apply a
      cases answer <;> rfl

/-! ## Passes -/

/-- The endpoint of a pipeline's search engine, as far as the cluster knows it. -/
def endpoint? (c : Cluster) (v : ValidPipeline) : Option Endpoint :=
  match v.externalEndpoint? with
  | some e => some e
  | none =>
    ((c.objects.find? (Component.SearchEngine.serviceId v.ns)).bind (·.address?)).map
      fun address => ⟨.http, address.1, address.2⟩

/-- The Service of a search engine that is provided is there once its slot holds. -/
theorem Holds.exists_service (h : c.Holds v e images .searchService)
    (hm : v.managesSearchEngine = true) :
    ∃ r, c.objects.find? (Component.SearchEngine.serviceId v.ns) = some r := by
  have hen : Slot.searchService.enabled v = true := hm
  rw [holds_iff_of_enabled hen] at h
  obtain ⟨r, hr, -⟩ := h
  exact ⟨r, hr⟩

/-- Once the foundation is skipped, no call is made for the endpoint that can fail. -/
theorem resolveEndpoint_eq (hk : c.Keyed) (hv : v.Locates)
    (hf : ∀ x ∈ (DesiredState.foundation v images).entries, c.Skips x) :
    c.resolveEndpoint v =
      match c.endpoint? v with
      | some e => (.ok e, c)
      | none => (.error (.endpointUnavailable
          (.addressMissing (Component.SearchEngine.serviceId v.ns))), c) := by
  cases hx : v.externalEndpoint? with
  | some e => simp only [resolveEndpoint, endpoint?, hx]
  | none =>
      obtain ⟨hread, hrest⟩ :=
        hf _ (Slot.entry_mem_foundation v default images (k := .searchService) (by decide))
      rw [Slot.id_entry] at hread
      obtain ⟨r, hr⟩ := ((hk.demand_entry_eq_none_iff _).1 hrest).exists_service (hv.manages hx)
      have hget : c.get (Component.SearchEngine.serviceId v.ns) = (.ok (some r), c) := by
        rw [← hr]
        exact get_of_not_mem hread
      simp only [resolveEndpoint, endpoint?, hx, hget, hr, Option.bind_some]
      cases r.address? <;> rfl

/-- The endpoint for which a pass builds the consumers, if it gets to them. -/
def reached? (c : Cluster) (s : Settings) (v : ValidPipeline) : Option Endpoint :=
  match c.settle (DesiredState.foundation v s.images).entries with
  | (.ok none, c) => (c.resolveEndpoint v).1.toOption
  | _ => none

/-- How a pass ends: every slot holds, or the search engine has no address yet, or a slot cannot be
read, or it wants an action while those before it hold. -/
inductive Ends (c : Cluster) (s : Settings) (v : ValidPipeline) : Reply PassResult → Prop where
  | converged {e : Endpoint} (he : c.endpoint? v = some e) (hr : c.reached? s v = some e)
      (hall : ∀ k, c.Holds v e s.images k) :
      Ends c s v (.ok (.settled e s.timing.resync), c)
  | unresolved (he : c.endpoint? v = none)
      (hf : ∀ k ∈ Slot.foundation, c.Holds v default s.images k) :
      Ends c s v (.error (.endpointUnavailable
        (.addressMissing (Component.SearchEngine.serviceId v.ns))), c)
  | unread {k : Slot} (hf : (.get, k.id v.ns) ∈ c.failures) :
      Ends c s v (.error (.store .get (k.id v.ns) .injected), c.spend .get (k.id v.ns))
  | acts {k : Slot} {e : Endpoint} {a : Action} {reply : Reply Unit} (answer : Option Endpoint)
      (he : k ∈ Slot.consumers → c.endpoint? v = some e ∧ c.reached? s v = some e)
      (hb : ∀ l ∈ k.before, c.Holds v e s.images l) (hw : c.Wants v e s.images k a)
      (ha : c.Applies a reply) :
      Ends c s v (reply.1.map fun _ => .changed a answer s.timing.change, reply.2)

/-- A slot whose entry is skipped holds. -/
theorem Keyed.holds_of_skips (hk : c.Keyed) {k : Slot} (h : c.Skips (k.entry v e images)) :
    c.Holds v e images k :=
  (hk.demand_entry_eq_none_iff k).1 h.2

/-- A visit that stops at one of several slots ends the pass, when those before them hold. -/
theorem Stops.ends (hk : c.Keyed) {reply : Reply Action} (ks ls ms : List Slot)
    (hall : Slot.all = ks ++ (ls ++ ms)) (hks : ∀ k ∈ ks, c.Holds v e s.images k)
    (he : ∀ k ∈ ls, k ∈ Slot.consumers → c.endpoint? v = some e ∧ c.reached? s v = some e)
    (answer : Option Endpoint) (h : c.Stops (ls.map (Slot.entry v e s.images)) reply) :
    c.Ends s v (reply.1.map (.changed · answer s.timing.change), reply.2) := by
  cases h with
  | unread hes hb hf =>
      obtain ⟨bs, as, -, -, has⟩ := List.map_eq_append_iff.1 hes
      obtain ⟨k, -, -, rfl, -⟩ := List.map_eq_cons_iff.1 has
      rw [Slot.id_entry] at hf ⊢
      exact .unread hf
  | @acts _ _ _ _ reply hes hb hf hd ha =>
      obtain ⟨bs, as, rfl, rfl, has⟩ := List.map_eq_append_iff.1 hes
      obtain ⟨k, as, rfl, rfl, -⟩ := List.map_eq_cons_iff.1 has
      have hbefore : ks ++ bs = k.before := Slot.eq_before (as ++ ms) (by simp [hall])
      have hbs : ∀ l ∈ k.before, c.Holds v e s.images l := by
        intro l hl
        rw [← hbefore, List.mem_append] at hl
        rcases hl with hl | hl
        · exact hks l hl
        · exact hk.holds_of_skips (hb _ (List.mem_map_of_mem hl))
      have hend := Ends.acts answer (he k (by simp)) hbs (hk.wants hd) ha
      obtain ⟨answer, c'⟩ := reply
      cases answer <;> exact hend

/-- **Every pass has one of four ends.** -/
theorem Ends.of_reconcileValid (hk : c.Keyed) (hv : v.Locates) (s : Settings) :
    c.Ends s v (c.reconcileValid s v) := by
  rcases settle_cases hk (DesiredState.foundation v s.images).entries with
    ⟨hskip, hes⟩ | ⟨reply, hstop, hes⟩
  · have hf : ∀ e, ∀ k ∈ Slot.foundation, c.Holds v e s.images k := fun e k hf =>
      hk.holds_of_skips (hskip _ (Slot.entry_mem_foundation v e s.images hf))
    have hres := resolveEndpoint_eq hk hv hskip
    cases he : c.endpoint? v with
    | none =>
        rw [he] at hres
        simp only [reconcileValid, hes, hres]
        exact .unresolved he (hf default)
    | some e =>
        rw [he] at hres
        have hr : c.reached? s v = some e := by
          simp only [reached?, hes, hres]
          rfl
        rcases settle_cases hk (DesiredState.build v e s.images).remaining.entries with
          ⟨hskip', hes'⟩ | ⟨reply, hstop, hes'⟩
        · simp only [reconcileValid, hes, hres, hes']
          refine .converged he hr fun k => ?_
          rcases List.mem_append.1 k.mem_all with hk' | hk'
          · exact hf e k hk'
          · exact hk.holds_of_skips (hskip' _ (Slot.entry_mem_remaining v e s.images hk'))
        · rw [Slot.entries_remaining] at hstop
          have hend := hstop.ends hk Slot.foundation Slot.consumers [] rfl (hf e)
            (fun _ _ _ => ⟨he, hr⟩) (some e)
          obtain ⟨answer, c'⟩ := reply
          simp only [reconcileValid, hes, hres, hes']
          cases answer <;> exact hend
  · rw [Slot.entries_foundation v default s.images] at hstop
    have hend := hstop.ends hk [] Slot.foundation Slot.consumers rfl nofun
      (fun k hf hc => absurd hc (Slot.not_mem_consumers hf)) none
    obtain ⟨answer, c'⟩ := reply
    simp only [reconcileValid, hes]
    cases answer <;> exact hend

/-- A valid pipeline is reconciled. -/
theorem reconcile_of_validate {p : Pipeline} (h : p.validate = .ok v) :
    c.reconcile s p = c.reconcileValid s v := by
  simp only [reconcile, h]

/-- Any other is rejected, and the cluster is left alone. -/
theorem reconcile_of_invalid {p : Pipeline} {violations : List Violation}
    (h : p.validate = .error violations) :
    c.reconcile s p = (.error (.invalidSpec violations), c) := by
  simp only [reconcile, h]

end Cluster

end LogOperator
