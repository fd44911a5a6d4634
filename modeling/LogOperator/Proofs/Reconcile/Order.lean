import LogOperator.Proofs.Component.Pods
import LogOperator.Proofs.Reconcile.Convergence

/-!
# LogOperator.Proofs.Reconcile.Order

The order in which a pass gets to the levels of a desired state, whatever the cluster holds.  A pass
visits two states that are built apart, the foundation and what remains of the complete one; put
together they are the complete state, so that the entry a pass acts on is the first one in it that
calls for anything (`Cluster.FirstNeed`).  A level that needs the endpoint is only reached when the
endpoint was resolved before (`Cluster.Resolves`):

* `DesiredState.exists_level` — an entry of a state is at a place in one of its levels;
* `Cluster.course_reconcile` — how a pass over a valid pipeline goes;
* `Cluster.dependency_order` — what an action presupposes, and what happens without an endpoint.
-/

namespace LogOperator

open Component

/-! ## Levels -/

namespace DesiredState

variable {state : DesiredState} {x : Entry} {before after : List Entry}

/-- An entry of a state is at a place in one of its levels; the entries before it are those of the
earlier levels and those before that place. -/
theorem exists_level (h : state.entries = before ++ x :: after) :
    ∃ earlier l bs as later, state = earlier ++ (l, bs ++ x :: as) :: later ∧
      before = entries earlier ++ bs := by
  induction state generalizing before with
  | nil => exact absurd h (by simp [entries])
  | cons level state ih =>
      obtain ⟨l, xs⟩ := level
      have h : xs ++ entries state = before ++ x :: after := h
      rcases List.append_eq_append_iff.1 h with ⟨rest, hbefore, hrest⟩ | ⟨rest, hxs, hrest⟩
      · -- the entry is behind the first level
        obtain ⟨earlier, m, bs, as, later, hstate, hrest⟩ := ih hrest
        refine ⟨(l, xs) :: earlier, m, bs, as, later, congrArg ((l, xs) :: ·) hstate, ?_⟩
        rw [hbefore, hrest, ← List.append_assoc]
        rfl
      · cases rest with
        | nil =>
            have hhead : entries state = [] ++ x :: after := hrest.symm
            obtain ⟨earlier, m, bs, as, later, hstate, hnil⟩ := ih hhead
            refine ⟨(l, xs) :: earlier, m, bs, as, later, congrArg ((l, xs) :: ·) hstate, ?_⟩
            rw [List.append_nil] at hxs
            have hentries : entries ((l, xs) :: earlier) = xs ++ entries earlier := rfl
            rw [hentries, List.append_assoc, ← hnil, List.append_nil, hxs]
        | cons y rest =>
            obtain ⟨rfl, -⟩ := List.cons.inj hrest
            exact ⟨[], l, before, rest, state, by rw [hxs]; rfl, rfl⟩

variable (v : ValidPipeline) (e : Endpoint) (images : Images)

/-- The levels of the complete state are all of them, in order. -/
theorem map_fst_build : (build v e images).map (·.1) = Level.all := rfl

/-- The levels that are settled first are those of the foundation. -/
theorem isFoundation_of_mem_foundation {l : Level} {xs : List Entry}
    (h : (l, xs) ∈ foundation v images) : l.isFoundation = true := by
  simp only [foundation, List.mem_cons, Prod.mk.injEq, List.not_mem_nil, or_false] at h
  rcases h with ⟨rfl, -⟩ | ⟨rfl, -⟩ <;> rfl

theorem isFoundation_of_mem_remaining {l : Level} {xs : List Entry}
    (h : (l, xs) ∈ (build v e images).remaining) : l.isFoundation = false := by
  simpa using (List.mem_filter.1 h).2

/-- A Deployment of a level that needs the endpoint has it in its environment. -/
theorem addresses_of_mem_remaining {l : Level} {xs : List Entry} {r : Resource}
    {dependent : Option Id} (h : (l, xs) ∈ (build v e images).remaining)
    (hx : .present r dependent ∈ xs) (hr : r.kind = .deployment) : r.Addresses l e := by
  have h : (l, xs) ∈ consumers v e images := h
  simp only [consumers, List.mem_cons, Prod.mk.injEq, List.not_mem_nil, or_false] at h
  rcases h with ⟨rfl, rfl⟩ | ⟨rfl, rfl⟩ | ⟨rfl, rfl⟩
  · simp only [Aggregator.entries, List.mem_cons, Entry.present.injEq, List.not_mem_nil,
      or_false] at hx
    rcases hx with ⟨rfl, -⟩ | ⟨rfl, -⟩ | ⟨rfl, -⟩
    · contradiction
    · contradiction
    · exact Aggregator.addresses_deployment v e images _
  · simp only [Collector.entries, List.mem_cons, Entry.present.injEq, List.not_mem_nil,
      or_false] at hx
    rcases hx with ⟨rfl, -⟩ | ⟨rfl, -⟩ <;> contradiction
  · unfold Dashboard.entries at hx
    split at hx
    · simp only [List.mem_cons, Entry.present.injEq, List.not_mem_nil, or_false] at hx
      rcases hx with ⟨rfl, -⟩ | ⟨rfl, -⟩
      · exact Dashboard.addresses_deployment v e images
      · contradiction
    · simp at hx

end DesiredState

namespace Cluster

variable {c : Cluster} {s : Settings} {p : Pipeline} {v : ValidPipeline} {e : Endpoint}
  {state later : DesiredState} {l : Level} {x : Entry} {a : Action} {before after : List Entry}

/-! ## The first need of a state -/

/-- In a cluster, an entry of a level calls for an action, and no earlier entry of the state calls
for any. -/
def FirstNeed (c : Cluster) (state : DesiredState) (l : Level) (x : Entry) (a : Action) : Prop :=
  ∃ earlier bs as later, state = earlier ++ (l, bs ++ x :: as) :: later ∧
    (∀ y ∈ DesiredState.entries earlier ++ bs, c.demand y = none) ∧ c.demand x = some a

/-- The first entry that demands something is the first need of its level. -/
theorem exists_firstNeed (h : state.entries = before ++ x :: after)
    (hb : ∀ y ∈ before, c.Skips y) (hd : c.demand x = some a) :
    ∃ l xs, (l, xs) ∈ state ∧ x ∈ xs ∧ c.FirstNeed state l x a := by
  obtain ⟨earlier, l, bs, as, later, rfl, rfl⟩ := DesiredState.exists_level h
  exact ⟨l, bs ++ x :: as, by simp, by simp, earlier, bs, as, later, rfl,
    fun y hy => (hb y hy).2, hd⟩

/-- Levels behind do not matter. -/
theorem FirstNeed.append (h : c.FirstNeed state l x a) (later : DesiredState) :
    c.FirstNeed (state ++ later) l x a := by
  obtain ⟨earlier, bs, as, rest, rfl, hb, hd⟩ := h
  exact ⟨earlier, bs, as, rest ++ later, by simp, hb, hd⟩

/-- Levels in front do not matter when they call for nothing. -/
theorem FirstNeed.prepend (h : c.FirstNeed state l x a) {front : DesiredState}
    (hf : ∀ y ∈ front.entries, c.Skips y) : c.FirstNeed (front ++ state) l x a := by
  obtain ⟨earlier, bs, as, rest, rfl, hb, hd⟩ := h
  refine ⟨front ++ earlier, bs, as, rest, by simp, fun y hy => ?_, hd⟩
  have hentries : DesiredState.entries (front ++ earlier)
      = DesiredState.entries front ++ DesiredState.entries earlier := List.flatMap_append
  rw [hentries, List.append_assoc, List.mem_append] at hy
  rcases hy with hy | hy
  · exact (hf y hy).2
  · exact hb y hy

/-! ## The endpoint -/

/-- Where the search engine is: where the pipeline tells, if it is external, and otherwise at the
address of the Service in front of it. -/
inductive Resolves (c : Cluster) (v : ValidPipeline) (e : Endpoint) : Prop where
  | external (hm : v.managesSearchEngine = false) (he : v.externalEndpoint? = some e)
  | provided {r : Resource} {host : String} {port : UInt16} (hm : v.managesSearchEngine = true)
      (hr : c.objects.find? (SearchEngine.serviceId v.ns) = some r)
      (ha : r.address? = some (host, port)) (he : e = ⟨.http, host, port⟩)

/-- A search engine of one's own is no external endpoint. -/
theorem externalEndpoint?_of_manages (hm : v.managesSearchEngine = true) :
    v.externalEndpoint? = none :=
  if_pos hm

/-- A known endpoint was told by the pipeline, or read off the Service of the search engine. -/
theorem Resolves.of_endpoint? (hv : v.Locates) (h : c.endpoint? v = some e) : c.Resolves v e := by
  unfold endpoint? at h
  cases hx : v.externalEndpoint? with
  | some e' =>
      rw [hx] at h
      cases h
      refine .external ?_ hx
      cases hm : v.managesSearchEngine with
      | false => rfl
      | true =>
          rw [externalEndpoint?_of_manages hm] at hx
          contradiction
  | none =>
      rw [hx] at h
      obtain ⟨⟨host, port⟩, haddr, rfl⟩ := Option.map_eq_some_iff.1 h
      obtain ⟨r, hr, ha⟩ := Option.bind_eq_some_iff.1 haddr
      exact .provided (hv.manages hx) hr ha rfl

/-- How resolving the endpoint goes. -/
theorem resolveEndpoint_cases (c : Cluster) (hv : v.Locates) :
    (∃ e, c.Resolves v e ∧ c.resolveEndpoint v = (.ok e, c)) ∨
    (∃ fault, c.resolveEndpoint v = (.error (.endpointUnavailable fault), c)) ∨
    ∃ id, (.get, id) ∈ c.failures ∧
      c.resolveEndpoint v = (.error (.store .get id .injected), c.spend .get id) := by
  unfold resolveEndpoint
  cases hm : v.managesSearchEngine with
  | false =>
      obtain ⟨e, he⟩ := hv hm
      exact .inl ⟨e, .external hm he, by rw [he]⟩
  | true =>
      simp only [externalEndpoint?_of_manages hm]
      by_cases hf : (.get, SearchEngine.serviceId v.ns) ∈ c.failures
      · exact .inr (.inr ⟨_, hf, by rw [get_of_mem hf]⟩)
      · rw [get_of_not_mem hf]
        cases hr : c.objects.find? (SearchEngine.serviceId v.ns) with
        | none => exact .inr (.inl ⟨_, rfl⟩)
        | some r =>
            cases ha : r.address? with
            | none =>
                exact .inr (.inl ⟨.addressMissing (SearchEngine.serviceId v.ns), by simp only [ha]⟩)
            | some address => exact .inl ⟨_, .provided hm hr ha rfl, by simp only [ha]⟩

/-! ## The course of a pass -/

/-- How a pass goes, whatever the cluster holds: an entry cannot be read, or the foundation calls
for an action, or the endpoint is not known, or a level that needs it calls for an action, or
nothing does. -/
inductive Course (c : Cluster) (s : Settings) (v : ValidPipeline) : Reply PassResult → Prop where
  | unread {id : Id} (hf : (.get, id) ∈ c.failures) :
      Course c s v (.error (.store .get id .injected), c.spend .get id)
  | foundation {l : Level} {x : Entry} {a : Action} (hl : l.isFoundation = true)
      (hn : ∀ e, c.FirstNeed (DesiredState.build v e s.images) l x a) :
      Course c s v ((c.apply a).1.map fun _ => .changed a none s.timing.change, (c.apply a).2)
  | unavailable (fault : EndpointFault) : Course c s v (.error (.endpointUnavailable fault), c)
  | consumer {e : Endpoint} {l : Level} {xs : List Entry} {x : Entry} {a : Action}
      (he : c.Resolves v e) (hl : (l, xs) ∈ (DesiredState.build v e s.images).remaining)
      (hx : x ∈ xs) (hn : c.FirstNeed (DesiredState.build v e s.images) l x a) :
      Course c s v
        ((c.apply a).1.map fun _ => .changed a (some e) s.timing.change, (c.apply a).2)
  | settled {e : Endpoint} (he : c.Resolves v e) :
      Course c s v (.ok (.settled e s.timing.resync), c)

/-- Every pass over a valid pipeline goes like that. -/
theorem course_reconcile (hv : p.validate = .ok v) (s : Settings) (c : Cluster) :
    c.Course s v (c.reconcile s p) := by
  rw [reconcile_of_validate hv, reconcileValid]
  have hvisit := c.visits_settle (DesiredState.foundation v s.images).entries
  generalize c.settle (DesiredState.foundation v s.images).entries = reply at hvisit
  cases hvisit with
  | unread _ _ hf => exact .unread hf
  | acts hes hb _ hd =>
      obtain ⟨l, xs, hl, -, hn⟩ := exists_firstNeed hes hb hd
      have hcourse : c.Course s v _ :=
        .foundation (DesiredState.isFoundation_of_mem_foundation v s.images hl)
          fun e => hn.append (DesiredState.build v e s.images).remaining
      generalize c.apply _ = applied at hcourse
      obtain ⟨answer, c'⟩ := applied
      cases answer <;> exact hcourse
  | passed hskip =>
      rcases c.resolveEndpoint_cases (Pipeline.locates_of_validate hv) with
        ⟨e, he, hres⟩ | ⟨fault, hres⟩ | ⟨id, hf, hres⟩ <;> simp only [hres]
      · have hvisit := c.visits_settle (DesiredState.build v e s.images).remaining.entries
        generalize c.settle (DesiredState.build v e s.images).remaining.entries = reply at hvisit
        cases hvisit with
        | passed => exact .settled he
        | unread _ _ hf => exact .unread hf
        | acts hes hb _ hd =>
            obtain ⟨l, xs, hl, hx, hn⟩ := exists_firstNeed hes hb hd
            have hcourse : c.Course s v _ := .consumer he hl hx (hn.prepend hskip)
            generalize c.apply _ = applied at hcourse
            obtain ⟨answer, c'⟩ := applied
            cases answer <;> exact hcourse
      · exact .unavailable fault
      · exact .unread hf

/-! ## Actions and their answers -/

/-- A pass got to an action: it answers with one, or a call failed that was no look-up. -/
def ReachesAction : Except ReconcileError PassResult → Prop
  | .ok r => r.action.isSome = true
  | .error (.store op _ _) => op ≠ .get
  | .error _ => False

/-- Carrying out an action makes no look-up. -/
theorem error_of_apply {err : ReconcileError} (h : (c.apply a).1 = .error err) :
    ∃ op id fault, err = .store op id fault ∧ op ≠ .get := by
  cases a with
  | create r =>
      obtain ⟨fault, rfl⟩ := error_of_create h
      exact ⟨.create, r.id, fault, rfl, by decide⟩
  | updatePayload r dependent =>
      simp only [apply] at h
      split at h
      · obtain ⟨fault, rfl⟩ := error_of_delete h
        exact ⟨.delete, _, fault, rfl, by decide⟩
      · obtain ⟨fault, rfl⟩ := error_of_update h
        exact ⟨.update, r.id, fault, rfl, by decide⟩
  | delete id | recreate id =>
      obtain ⟨fault, rfl⟩ := error_of_delete h
      exact ⟨.delete, id, fault, rfl, by decide⟩

/-- A pass that ends by carrying out an action got to one. -/
theorem reachesAction_map (c : Cluster) (a : Action) (answer : Option Endpoint) {delay : Nat} :
    ReachesAction ((c.apply a).1.map fun _ => .changed a answer delay) := by
  cases h : (c.apply a).1 with
  | ok => rfl
  | error err =>
      obtain ⟨op, id, fault, rfl, hop⟩ := error_of_apply h
      exact hop

/-- A pass that got as far as an action did not reject the pipeline. -/
theorem ReachesAction.ne_invalidSpec {answer : Except ReconcileError PassResult}
    {violations : List Violation} (h : ReachesAction answer) :
    answer ≠ .error (.invalidSpec violations) := by
  rintro rfl
  exact h

/-- Only an ill-formed pipeline is rejected as such. -/
theorem invalid_of_reconcile {violations : List Violation}
    (h : (c.reconcile s p).1 = .error (.invalidSpec violations)) :
    p.validate = .error violations := by
  cases hv : p.validate with
  | error vs =>
      simp only [reconcile, hv] at h
      cases h
      rfl
  | ok v =>
      have hcourse := course_reconcile hv s c
      generalize c.reconcile s p = reply at hcourse h
      cases hcourse with
      | unread | unavailable | settled => cases h
      | foundation | consumer => exact absurd h (reachesAction_map _ _ _).ne_invalidSpec

/-- An object that was created is the one that was asked for. -/
theorem find?_of_apply_create {r : Resource} (h : (c.apply (.create r)).1 = .ok ()) :
    (c.apply (.create r)).2.objects.find? r.id = some (r.stamp (c.revision + 1)) := by
  simp only [apply, create, unlessInjected] at h ⊢
  split at h
  · contradiction
  · next hf =>
    rw [if_neg hf]
    split at h
    · contradiction
    · next hc =>
      rw [if_neg hc]
      exact find?_write_self c .create r

/-- What an entry creates is the object that must be there. -/
theorem eq_present_of_demand {r : Resource} (h : c.demand x = some (.create r)) :
    ∃ dependent, x = .present r dependent := by
  unfold demand Entry.ensure at h
  split at h
  · exact ⟨_, by rw [Action.create.inj (Option.some.inj h)]⟩
  · split at h <;> simp at h
  · split at h <;> simp at h
  · contradiction

/-- A visit of entries that can be read and call for nothing. -/
theorem settle_of_skips {es : List Entry} (h : ∀ x ∈ es, c.Skips x) :
    c.settle es = (.ok none, c) := by
  induction es with
  | nil => rfl
  | cons x es ih =>
      obtain ⟨⟨hf, hd⟩, hes⟩ := List.forall_mem_cons.1 h
      have hd : x.ensure (c.objects.find? x.id) = none := hd
      simp only [settle, get_of_not_mem hf, hd]
      exact ih hes

/-- Without an address, a pass ends where it needs the endpoint. -/
theorem reconcile_of_no_address (hv : p.validate = .ok v) (hm : v.managesSearchEngine = true)
    (hskip : ∀ x ∈ (DesiredState.foundation v s.images).entries, c.Skips x)
    (hr : ∀ r, c.objects.find? (SearchEngine.serviceId v.ns) = some r → r.address? = none) :
    ∃ fault, c.reconcile s p = (.error (.endpointUnavailable fault), c) := by
  rw [reconcile_of_validate hv, reconcileValid, settle_of_skips hskip]
  -- the Service was read in the visit, so that the look-up does not fail
  obtain ⟨hf, -⟩ :=
    hskip _ (Slot.entry_mem_foundation v default s.images (k := .searchService) (by decide))
  rw [Slot.id_entry] at hf
  have hget : c.get (SearchEngine.serviceId v.ns)
      = (.ok (c.objects.find? (SearchEngine.serviceId v.ns)), c) := get_of_not_mem hf
  simp only [resolveEndpoint, externalEndpoint?_of_manages hm, hget]
  cases hservice : c.objects.find? (SearchEngine.serviceId v.ns) with
  | none => exact ⟨_, rfl⟩
  | some r => exact ⟨.addressMissing (SearchEngine.serviceId v.ns), by simp only [hr r hservice]⟩

/-- **Dependency order.** Let a pass run over a valid pipeline, whatever the cluster holds.  As long
as it gets to no action, it changes nothing.  The action it gets to is what an entry of the complete
desired state calls for when no earlier entry, in the order of the levels, calls for any.  If the
entry is not of the foundation, the endpoint was resolved in the same pass, and a Deployment that is
created has just this endpoint in its environment.  If the foundation calls for nothing and the
Service of the search engine has no address, the pass fails, to be tried again, and changes
nothing. -/
theorem dependency_order (hv : p.validate = .ok v) (s : Settings) (c : Cluster) :
    (∀ e, (DesiredState.build v e s.images).map (·.1) = Level.all) ∧
    (¬ ReachesAction (c.reconcile s p).1 →
      (c.reconcile s p).2.objects = c.objects ∧ (c.reconcile s p).2.log = c.log) ∧
    (ReachesAction (c.reconcile s p).1 → ∃ l x a answer,
      c.reconcile s p
        = ((c.apply a).1.map fun _ => .changed a answer s.timing.change, (c.apply a).2) ∧
      (l.isFoundation = true ∧ (∀ e, c.FirstNeed (DesiredState.build v e s.images) l x a) ∨
        l.isFoundation = false ∧ ∃ e, answer = some e ∧ c.Resolves v e ∧
          c.FirstNeed (DesiredState.build v e s.images) l x a ∧
          ∀ r, a = .create r → r.kind = .deployment → r.Addresses l e ∧
            ((c.apply a).1 = .ok () →
              ∃ stored, (c.apply a).2.objects.find? r.id = some stored ∧ stored.Addresses l e))) ∧
    (v.managesSearchEngine = true →
      (∀ x ∈ (DesiredState.foundation v s.images).entries, c.Skips x) →
      (∀ r, c.objects.find? (SearchEngine.serviceId v.ns) = some r → r.address? = none) →
      ∃ fault, c.reconcile s p = (.error (.endpointUnavailable fault), c) ∧
        (ReconcileError.endpointUnavailable fault).isRetryable = true) := by
  refine ⟨fun e => DesiredState.map_fst_build v e s.images, ?_, ?_, fun hm hskip hr => ?_⟩
  · intro hnot
    have hcourse := course_reconcile hv s c
    generalize c.reconcile s p = reply at hcourse hnot
    cases hcourse with
    | unread | unavailable | settled => exact ⟨rfl, rfl⟩
    | foundation | consumer => exact absurd (reachesAction_map _ _ _) hnot
  · intro hreach
    have hcourse := course_reconcile hv s c
    generalize c.reconcile s p = reply at hcourse hreach
    cases hcourse with
    | unread => exact absurd rfl hreach
    | unavailable | settled => contradiction
    | foundation hl hn => exact ⟨_, _, _, none, rfl, .inl ⟨hl, hn⟩⟩
    | @consumer e l xs x a he hl hx hn =>
        refine ⟨l, x, a, some e, rfl, .inr ⟨DesiredState.isFoundation_of_mem_remaining v e s.images hl,
          e, rfl, he, hn, ?_⟩⟩
        rintro r rfl hkind
        obtain ⟨-, -, -, -, -, -, hd⟩ := hn
        obtain ⟨dependent, rfl⟩ := eq_present_of_demand hd
        have haddr := DesiredState.addresses_of_mem_remaining v e s.images hl hx hkind
        exact ⟨haddr, fun hok => ⟨_, find?_of_apply_create hok, haddr.stamp _⟩⟩
  · obtain ⟨fault, hpass⟩ := reconcile_of_no_address hv hm hskip hr
    exact ⟨fault, hpass, rfl⟩

/-! ## A search engine without an address -/

/-- The Service of the search engine of the self-contained pipeline, as it is before the cluster
gives it an address. -/
def unaddressedService : Resource :=
  Slot.searchService.resource Pipeline.selfContained.validated default Settings.standard.images

/-- A cluster that converged for this pipeline, with this Service. -/
def unaddressed : Cluster :=
  (empty.passes .standard .selfContained 17).seed unaddressedService

theorem id_unaddressedService :
    unaddressedService.id = Slot.searchService.id Pipeline.selfContained.validated.ns :=
  Slot.id_resource _ _ _ _

theorem find?_unaddressed : unaddressed.objects.find?
    (Slot.searchService.id Pipeline.selfContained.validated.ns) = some unaddressedService := by
  rw [unaddressed, find?_seed, if_pos id_unaddressedService]

theorem failures_unaddressed : unaddressed.failures = [] := by
  rw [unaddressed, failures_seed]
  exact (outcome_of_no_failures keyed_empty addressed_empty Pipeline.validate_selfContained rfl
    .standard 17).2

/-- The foundation is as desired, so that the pass gets to the endpoint. -/
theorem skips_unaddressed : ∀ x ∈ (DesiredState.foundation Pipeline.selfContained.validated
    Settings.standard.images).entries, unaddressed.Skips x := by
  obtain ⟨e, -, hall⟩ := settled_of_no_failures keyed_empty addressed_empty
    Pipeline.validate_selfContained rfl .standard
  have hk : unaddressed.Keyed := (keyed_empty.passes .standard .selfContained 17).seed
  intro x hx
  rw [Slot.entries_foundation _ e] at hx
  obtain ⟨k, -, rfl⟩ := List.mem_map.1 hx
  refine ⟨by simp [failures_unaddressed], (hk.demand_entry_eq_none_iff k).2 ?_⟩
  by_cases hsame : k = .searchService
  · subst hsame
    have hen : Slot.searchService.enabled Pipeline.selfContained.validated = true := rfl
    exact (holds_iff_of_enabled hen).2 ⟨unaddressedService, find?_unaddressed, rfl, nofun⟩
  · refine (holds_seed ?_).2 (hall k)
    rw [id_unaddressedService]
    exact Slot.id_ne (Ne.symm hsame)

/-- A pass over an empty cluster gets to the account; one that finds a Service without an address
fails. -/
theorem dependency_order_selfContained :
    Pipeline.selfContained.validate = .ok Pipeline.selfContained.validated ∧
    (ReachesAction (empty.reconcile .standard .selfContained).1 ∧ ∃ a answer,
      empty.reconcile .standard .selfContained = ((empty.apply a).1.map fun _ =>
        .changed a answer Settings.standard.timing.change, (empty.apply a).2)) ∧
    Pipeline.selfContained.validated.managesSearchEngine = true ∧
    ∃ fault, unaddressed.reconcile .standard .selfContained
      = (.error (.endpointUnavailable fault), unaddressed) := by
  have hv := Pipeline.validate_selfContained
  have hreach : ReachesAction (empty.reconcile .standard .selfContained).1 := by
    rw [reconcile_of_validate hv]
    rfl
  refine ⟨hv, ⟨hreach, ?_⟩, rfl, ?_⟩
  · obtain ⟨l, x, a, answer, hpass, -⟩ := (dependency_order hv .standard empty).2.2.1 hreach
    exact ⟨a, answer, hpass⟩
  · have hservice : ∀ r, unaddressed.objects.find?
        (SearchEngine.serviceId Pipeline.selfContained.validated.ns) = some r →
        r.address? = none := by
      intro r hr
      cases find?_unaddressed.symm.trans hr
      rfl
    obtain ⟨fault, hpass, -⟩ :=
      (dependency_order hv .standard unaddressed).2.2.2 rfl skips_unaddressed hservice
    exact ⟨fault, hpass⟩

end Cluster

end LogOperator
