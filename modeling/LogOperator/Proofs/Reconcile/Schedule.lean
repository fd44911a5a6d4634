import LogOperator.Proofs.Reconcile.Report

/-!
# LogOperator.Proofs.Reconcile.Schedule

What passes will do, told beforehand.  Every slot needs certain actions (`Cluster.needs`), and these
do not depend on what is done for other slots: deleting the workload whose data is updated only does
what the workload's own needs count with.  So the needs of all slots, in order, are the actions that
passes over the pipeline carry out when no call fails, one each (`Cluster.schedule`):

* `Wants.needs_self`, `Wants.needs_other` — performing an action takes it off the needs of its slot
  and leaves those of the others;
* `Wants.schedule_eq` — it is the first one of the schedule, and what remains is the rest of it;
* `carries_schedule` — passes carry out the schedule and then converge (`Cluster.Carries`).
-/

namespace LogOperator

/-- The change that an action makes to its target. -/
def Action.change (a : Action) : Mutation :=
  ⟨a.operation, a.target⟩

/-- An action and what it makes necessary: a workload that was deleted because it is stale is created
anew. -/
def Action.withSequel (r : Resource) : Action → List Action
  | .recreate id => [.recreate id, .create r]
  | a => [a]

theorem Action.of_mem_withSequel {a b : Action} {r : Resource} (h : a ∈ b.withSequel r) :
    a = b ∨ a = .create r := by
  cases b with
  | recreate id => simpa [withSequel] using h
  | create | updatePayload | delete => exact .inl (List.mem_singleton.1 h)

/-- The endpoint of a search engine whose Service was written at a revision. -/
def Endpoint.assigned (revision : Nat) : Endpoint :=
  ⟨.http, assignedAddress revision, Component.SearchEngine.port.toUInt16⟩

namespace Cluster

variable {c c' : Cluster} {s : Settings} {p : Pipeline} {v : ValidPipeline} {images : Images}
  {e : Endpoint} {a : Action} {k l : Slot} {as : List Action}

/-! ## The needs of a slot -/

/-- The actions that a slot still needs, in order.  A workload that will be deleted with an update of
its data has to be created, whatever it is now. -/
def needs (c : Cluster) (v : ValidPipeline) (e : Endpoint) (images : Images) (k : Slot) :
    List Action :=
  if c.doomed v e images k then [.create (k.resource v e images)]
  else (c.demand (k.entry v e images)).elim [] (Action.withSequel (k.resource v e images))

/-- A slot that is not doomed needs what it demands, and what has to follow. -/
theorem needs_of_not_doomed (h : c.doomed v e images k = false) : c.needs v e images k
    = (c.demand (k.entry v e images)).elim [] (Action.withSequel (k.resource v e images)) := by
  rw [needs, if_neg (by simp [h])]

/-- A slot that holds needs nothing, unless its workload will be deleted. -/
theorem Keyed.needs_of_holds (hk : c.Keyed) (hd : c.doomed v e images k = false)
    (h : c.Holds v e images k) : c.needs v e images k = [] := by
  rw [needs_of_not_doomed hd, (hk.demand_entry_eq_none_iff k).2 h]
  rfl

/-- A missing object that must be there needs to be created, and nothing else. -/
theorem Keyed.needs_of_missing (hk : c.Keyed) (hen : k.enabled v = true)
    (h : c.objects.find? (k.id v.ns) = none) :
    c.needs v e images k = [.create (k.resource v e images)] := by
  have hw : c.Wants v e images k (.create (k.resource v e images)) := .missing hen h
  unfold needs
  split
  · rfl
  · rw [hw.demand hk]
    rfl

/-- A slot without needs holds. -/
theorem Keyed.holds_of_needs (hk : c.Keyed) (h : c.needs v e images k = []) :
    c.Holds v e images k := by
  rw [← hk.demand_entry_eq_none_iff]
  unfold needs at h
  split at h
  · contradiction
  · cases hd : c.demand (k.entry v e images) with
    | none => rfl
    | some a =>
        rw [hd] at h
        cases a <;> contradiction

/-- The actions that all slots need, in order. -/
def schedule (c : Cluster) (v : ValidPipeline) (e : Endpoint) (images : Images) : List Action :=
  Slot.all.flatMap (c.needs v e images)

/-- Where nothing is scheduled, every slot holds. -/
theorem Keyed.schedule_eq_nil_iff (hk : c.Keyed) :
    c.schedule v e images = [] ↔ ∀ k, c.Holds v e images k := by
  rw [schedule, List.flatMap_eq_nil_iff]
  constructor
  · exact fun h k => hk.holds_of_needs (h k k.mem_all)
  · exact fun h k _ => hk.needs_of_holds (hk.doomed_eq_false fun l _ => h l) (h k)

/-- What several slots need, where a slot needs what its object tells, and nothing if there must be
none. -/
theorem flatMap_needs {f : Resource → List Action} {ks : List Slot}
    (hen : ∀ k ∈ ks, k.enabled v = true → c.needs v e images k = f (k.resource v e images))
    (hdis : ∀ k ∈ ks, k.enabled v = false → c.needs v e images k = []) :
    ks.flatMap (c.needs v e images)
      = ((ks.filter (Slot.enabled v)).map (Slot.resource v e images)).flatMap f := by
  rw [List.flatMap_map]
  induction ks with
  | nil => rfl
  | cons k ks ih =>
      obtain ⟨hk, hks⟩ := List.forall_mem_cons.1 hen
      obtain ⟨hk', hks'⟩ := List.forall_mem_cons.1 hdis
      rw [List.flatMap_cons, ih hks hks']
      cases h : k.enabled v with
      | true => rw [List.filter_cons_of_pos h, List.flatMap_cons, hk h]
      | false => rw [List.filter_cons_of_neg (by simp [h]), hk' h, List.nil_append]

/-- The actions that a slot needs are about its object, or about that and the dependent one. -/
theorem Keyed.of_mem_needs (hk : c.Keyed) (h : a ∈ c.needs v e images k) : a.target = k.id v.ns ∧
    ∀ id, a.dependent? = some id → ∃ l, k.dependent? = some l ∧ id = l.id v.ns := by
  have hcreate : (Action.create (k.resource v e images)).target = k.id v.ns :=
    Slot.id_resource v e images k
  unfold needs at h
  split at h
  · rw [List.mem_singleton.1 h]
    exact ⟨hcreate, nofun⟩
  · cases hd : c.demand (k.entry v e images) with
    | none =>
        rw [hd] at h
        contradiction
    | some b =>
        have hw := hk.wants hd
        rw [hd] at h
        rcases Action.of_mem_withSequel h with rfl | rfl
        · exact ⟨hw.target, fun id hid => hw.dependent? hid⟩
        · exact ⟨hcreate, nofun⟩

namespace Wants

/-- While the data that it mounts is as desired, a slot needs what it calls for. -/
theorem needs_eq (h : c.Wants v e images k a) (hk : c.Keyed)
    (hb : ∀ l ∈ k.before, c.Holds v e images l) :
    c.needs v e images k = a.withSequel (k.resource v e images) := by
  have hd : c.doomed v e images k = false :=
    hk.doomed_eq_false fun l hl => hb l (Slot.mem_before_of_dependent? hl)
  rw [needs_of_not_doomed hd, h.demand hk]
  rfl

/-- Performing an action takes it off the needs of its slot. -/
theorem needs_self (h : c.Wants v e images k a) (hk : c.Keyed)
    (hb : ∀ l ∈ k.before, c.Holds v e images l) (ha : c.Applies a (.ok (), c.perform a)) :
    c.needs v e images k = a :: (c.perform a).needs v e images k := by
  have hk' : (c.perform a).Keyed := ha.keyed hk
  rw [h.needs_eq hk hb]
  by_cases hr : a = .recreate (k.id v.ns)
  · have hen : k.enabled v = true := by
      cases h with
      | stale hen => exact hen
      | missing | drifted | disabled => contradiction
    rw [hk'.needs_of_missing hen (h.missing_perform hr), hr]
    rfl
  · rw [hk'.needs_of_holds (h.not_doomed hk hb ha) (h.holds_perform hr)]
    cases h with
    | stale => exact absurd rfl hr
    | missing | drifted | disabled => rfl

/-- Performing an action leaves the needs of all other slots as they are. -/
theorem needs_other (h : c.Wants v e images k a) (hk : c.Keyed)
    (ha : c.Applies a (.ok (), c.perform a)) (hl : l ≠ k) :
    (c.perform a).needs v e images l = c.needs v e images l := by
  have hk' : (c.perform a).Keyed := ha.keyed hk
  by_cases hdep : k.dependent? = some l
  · cases hu : a.isUpdate with
    | true =>
        -- the workload was deleted with the update, which its needs counted with
        rw [hk'.needs_of_missing (Slot.enabled_of_dependent? hdep v).2 (h.missing_dependent hu hdep),
          needs, if_pos (h.doomed_of_update hk hu hdep)]
    | false =>
        obtain ⟨hd, hd', hfind⟩ := h.dependent_of_not_update hk ha hu hdep
        rw [needs, needs, hd, hd', demand_entry_congr hfind]
  · rw [needs, needs, h.doomed_off ha hdep, demand_entry_congr (h.frame ha hl hdep)]

/-- **The schedule**: the first action that any slot calls for comes first in it, and once it was
performed, the rest remains. -/
theorem schedule_eq (h : c.Wants v e images k a) (hk : c.Keyed)
    (hb : ∀ l ∈ k.before, c.Holds v e images l) (ha : c.Applies a (.ok (), c.perform a)) :
    c.schedule v e images = a :: (c.perform a).schedule v e images := by
  obtain ⟨bs, as, hall⟩ := List.append_of_mem k.mem_all
  have hbefore : bs = k.before := Slot.eq_before as hall
  have hnodup : (bs ++ k :: as).Nodup := hall ▸ (by decide : Slot.all.Nodup)
  have hbs : ∀ l ∈ bs, c.needs v e images l = [] := by
    intro l hl
    rw [hbefore] at hl
    refine hk.needs_of_holds (hk.doomed_eq_false fun j hj => ?_) (hb l hl)
    exact hb j (Slot.before_trans (Slot.mem_before_of_dependent? hj) hl)
  have hbs' : ∀ l ∈ bs, (c.perform a).needs v e images l = [] := by
    intro l hl
    rw [h.needs_other hk ha (Slot.ne_of_mem_before (hbefore ▸ hl)), hbs l hl]
  have has : as.flatMap ((c.perform a).needs v e images) = as.flatMap (c.needs v e images) := by
    refine List.flatMap_congr fun l hl => h.needs_other hk ha ?_
    rintro rfl
    exact (List.nodup_cons.1 (List.nodup_append.1 hnodup).2.1).1 hl
  rw [schedule, schedule, hall, List.flatMap_append, List.flatMap_append, List.flatMap_cons,
    List.flatMap_cons, List.flatMap_eq_nil_iff.2 hbs, List.flatMap_eq_nil_iff.2 hbs', has,
    h.needs_self hk hb ha]
  rfl

end Wants

/-! ## Objects after several actions -/

/-- What no action names stays. -/
theorem find?_foldl_perform {id : Id}
    (h : ∀ a ∈ as, a.target ≠ id ∧ a.dependent? ≠ some id) :
    (as.foldl perform c).objects.find? id = c.objects.find? id := by
  induction as generalizing c with
  | nil => rfl
  | cons a as ih =>
      obtain ⟨⟨ht, hd⟩, hrest⟩ := List.forall_mem_cons.1 h
      rw [List.foldl_cons, ih hrest, find?_perform_of_ne ht hd]

/-- Every creation is a write. -/
theorem revision_foldl_create (c : Cluster) (rs : List Resource) :
    ((rs.map .create).foldl perform c).revision = c.revision + rs.length := by
  induction rs generalizing c with
  | nil => rfl
  | cons r rs ih =>
      rw [List.map_cons, List.foldl_cons, ih]
      show c.revision + 1 + rs.length = c.revision + (rs.length + 1)
      omega

/-- An object that is created after others carries the revision of its write from then on, if no later
action names it. -/
theorem find?_foldl_create {rs : List Resource} {r : Resource}
    (h : ∀ a ∈ as, a.target ≠ r.id ∧ a.dependent? ≠ some r.id) :
    ((rs.map Action.create ++ Action.create r :: as).foldl perform c).objects.find? r.id
      = some (r.stamp (c.revision + rs.length + 1)) := by
  rw [List.foldl_append, List.foldl_cons, find?_foldl_perform h, ← revision_foldl_create]
  exact find?_write_self _ .create r

/-! ## Carrying the schedule out -/

/-- Passes over a pipeline carry out certain actions, one each, and then converge. -/
inductive Carries (s : Settings) (p : Pipeline) (v : ValidPipeline) (e : Endpoint) :
    Cluster → List Action → Prop where
  | settled {c : Cluster} (h : c.reconcile s p = (.ok (.settled e s.timing.resync), c)) :
      Carries s p v e c []
  | acts {c : Cluster} {k : Slot} {a : Action} {as : List Action} {answer : Option Endpoint}
      (hw : c.Wants v e s.images k a)
      (h : c.reconcile s p = (.ok (.changed a answer s.timing.change), c.perform a))
      (hrest : Carries s p v e (c.perform a) as) : Carries s p v e c (a :: as)

/-- Without pending failures, a pass finds every slot as desired or performs the action of the first
one that is not. -/
theorem Ends.of_no_failures {reply : Reply PassResult} (h : c.Ends s v reply) (hs : c.Addressed v)
    (hv : v.Locates) (hf : c.failures = []) :
    (∃ e, (∀ k, c.Holds v e s.images k) ∧ reply = (.ok (.settled e s.timing.resync), c)) ∨
    ∃ k e a answer, (k ∈ Slot.consumers → c.endpoint? v = some e) ∧
      (∀ l ∈ k.before, c.Holds v e s.images l) ∧ c.Wants v e s.images k a ∧
      c.Applies a (.ok (), c.perform a) ∧
      reply = (.ok (.changed a answer s.timing.change), c.perform a) := by
  cases h with
  | converged _ _ hall => exact .inl ⟨_, hall, rfl⟩
  | unresolved he hholds =>
      obtain ⟨e, he'⟩ := hs.endpoint? hv hholds
      rw [he] at he'
      contradiction
  | unread hmem =>
      rw [hf] at hmem
      contradiction
  | @acts k e a _ answer he hb hw ha =>
      obtain rfl := ha.eq_perform hf
      exact .inr ⟨k, e, a, answer, fun hc => (he hc).1, hb, hw, ha, rfl⟩

/-- **Passes carry out the schedule** when no failures are pending: the one for the endpoint with
which they converge in the end. -/
theorem carries_schedule (hk : c.Keyed) (hs : c.Addressed v) (hv : p.validate = .ok v)
    (hf : c.failures = []) {n : Nat} (hlast : c.outcome s p n = .ok (.settled e s.timing.resync)) :
    Carries s p v e c (c.schedule v e s.images) := by
  induction n generalizing c with
  | zero =>
      have hend := Ends.of_reconcile hk hv s
      obtain ⟨e', he', hsame, -, -, hall⟩ := hend.of_converged hlast rfl
      cases he'
      rw [hk.schedule_eq_nil_iff.2 hall]
      exact .settled (Prod.ext hlast hsame)
  | succ n ih =>
      have hend := Ends.of_reconcile hk hv s
      have hlater := (holds_of_settled hk hv hlast (Nat.le_refl (n + 1))).1
      rcases hend.of_no_failures hs (Pipeline.locates_of_validate hv) hf with
        ⟨e₀, hall, hpass⟩ | ⟨k, e₀, a, answer, he₀, hb, hw, ha, hpass⟩
      · -- a pass that converged is repeated by all later ones
        have hfirst : c.outcome s p 0 = .ok (.settled e₀ s.timing.resync) := congrArg Prod.fst hpass
        have hsame := (passes_of_converged hk hv hfirst rfl (Nat.zero_le (n + 1))).1
        cases hlast.symm.trans hsame
        rw [hk.schedule_eq_nil_iff.2 hall]
        exact .settled hpass
      · have hnext : (c.reconcile s p).2 = c.perform a := congrArg Prod.snd hpass
        rw [outcome_succ, hnext] at hlast
        have hrest := ih (ha.keyed hk) (hnext ▸ hs.reconcile hk hv s)
          ((failures_perform c a).trans hf) hlast
        rcases List.mem_append.1 k.mem_all with hfound | hc
        · have hw' := hw.of_mem_foundation hk hfound e
          have hb' : ∀ l ∈ k.before, c.Holds v e s.images l := fun l hl =>
            hk.holds_of_mem_foundation (Slot.mem_foundation_of_before hfound hl) e (hb l hl)
          rw [hw'.schedule_eq hk hb' ha]
          exact .acts hw' hpass hrest
        · have hg := (grounded_of_before hc (he₀ hc) hb).passes hk hv (n + 1)
          cases hg.endpoint.symm.trans hlater
          rw [hw.schedule_eq hk hb ha]
          exact .acts hw hpass hrest

namespace Carries

/-! ## The course of the passes -/

/-- Each pass carries out one of the actions. -/
theorem outcome_of_getElem? (h : Carries s p v e c as) {i : Nat} (hi : as[i]? = some a) :
    ∃ answer, c.outcome s p i = .ok (.changed a answer s.timing.change) := by
  induction h generalizing i with
  | settled => contradiction
  | acts hw hpass hrest ih =>
      cases i with
      | zero =>
          cases hi
          exact ⟨_, congrArg Prod.fst hpass⟩
      | succ i =>
          rw [outcome_succ, hpass]
          exact ih hi

/-- The pass after the last action converges, and so does every later one. -/
theorem outcome_of_length_le (h : Carries s p v e c as) {i : Nat} (hi : as.length ≤ i) :
    c.outcome s p i = .ok (.settled e s.timing.resync) ∧
      c.passes s p i = c.passes s p as.length := by
  have hfix : (c.passes s p as.length).reconcile s p
      = (.ok (.settled e s.timing.resync), c.passes s p as.length) := by
    clear hi
    induction h with
    | settled hpass => exact hpass
    | acts hw hpass hrest ih =>
        rw [List.length_cons, passes_succ, hpass]
        exact ih
  induction hi with
  | refl => exact ⟨congrArg Prod.fst hfix, rfl⟩
  | @step m hi ih =>
      have hsame : c.passes s p (m + 1) = c.passes s p as.length := by
        rw [passes, ih.2, hfix]
      refine ⟨?_, hsame⟩
      rw [outcome, hsame, hfix]

/-- After several passes, as many actions are performed. -/
theorem passes_eq (h : Carries s p v e c as) (i : Nat) :
    c.passes s p i = (as.take i).foldl perform c := by
  induction h generalizing i with
  | settled hpass =>
      have hsame := (Carries.settled (v := v) hpass).outcome_of_length_le (Nat.zero_le i)
      rw [hsame.2]
      exact congrArg (List.foldl perform _) List.take_nil.symm
  | acts hw hpass hrest ih =>
      cases i with
      | zero => rfl
      | succ i =>
          rw [passes_succ, hpass]
          exact ih i

/-- What is performed after several passes. -/
theorem passes_add_length (h : Carries s p v e c as) (i : Nat) :
    c.passes s p (i + as.length) = (as.drop i).foldl perform (c.passes s p i) := by
  rw [h.passes_eq, h.passes_eq, ← List.foldl_append, List.take_append_drop,
    List.take_of_length_le (Nat.le_add_left ..)]

/-- After the actions of the foundation, the endpoint is the one with which the passes converge. -/
theorem endpoint?_of_length_le (h : Carries s p v e c (c.schedule v e s.images)) (hk : c.Keyed)
    (hv : p.validate = .ok v) {i : Nat}
    (hi : (Slot.foundation.flatMap (c.needs v e s.images)).length ≤ i) :
    (c.passes s p i).endpoint? v = some e := by
  obtain ⟨hlast, -⟩ := h.outcome_of_length_le (Nat.le_add_left _ i)
  rw [← (holds_of_settled hk hv hlast (Nat.le_refl _)).1, h.passes_add_length i]
  refine (endpoint?_congr (find?_foldl_perform fun a ha => ?_)).symm
  -- what is left is for consumers, and the Service of the search engine is none of theirs
  rw [schedule, Slot.all, List.flatMap_append, List.drop_append, List.drop_eq_nil_of_le hi,
    List.nil_append] at ha
  obtain ⟨k, hc, hneed⟩ := List.mem_flatMap.1 (List.mem_of_mem_drop ha)
  obtain ⟨ht, hd⟩ := hk.of_mem_needs hneed
  refine ⟨?_, fun hdep => ?_⟩
  · rw [ht]
    refine Slot.id_ne fun hsame => ?_
    exact absurd (hsame ▸ hc) (Slot.not_mem_consumers (by decide))
  · obtain ⟨l, hl, hid⟩ := hd _ hdep
    exact absurd (Slot.id_inj hid ▸ Slot.dependent_mem_consumers hl)
      (Slot.not_mem_consumers (by decide))

/-- A Service that is created with the foundation tells the endpoint. -/
theorem eq_assigned (h : Carries s p v e c (c.schedule v e s.images)) (hk : c.Keyed)
    (hv : p.validate = .ok v) (hm : v.managesSearchEngine = true) {rs : List Resource}
    (hneeds : Slot.foundation.flatMap (c.needs v e s.images)
      = (rs ++ [Slot.searchService.resource v e s.images]).map .create) :
    e = .assigned (c.revision + (rs.length + 1)) := by
  have hback := h.endpoint?_of_length_le hk hv (Nat.le_refl _)
  have hfind : ((rs.map Action.create ++ [Action.create
      (Slot.searchService.resource v e s.images)]).foldl perform c).objects.find?
      (Component.SearchEngine.serviceId v.ns) = some _ := find?_foldl_create (by simp)
  rw [h.passes_eq, schedule, Slot.all, List.flatMap_append, List.take_left, hneeds, List.map_append,
    List.map_singleton, endpoint?_of_address hm hfind (address?_searchService v e s.images _)] at hback
  exact (Option.some.inj hback).symm

/-- Unless data is updated, each pass logs the one change of its action, and touches nothing else. -/
theorem follows (h : Carries s p v e c as) (hk : c.Keyed) (hu : ∀ a ∈ as, a.isUpdate = false)
    (i : Nat) : c.Follows (c.passes s p i) ((as.take i).map Action.change) := by
  induction h generalizing i with
  | settled hpass =>
      have hsame := (Carries.settled (v := v) hpass).outcome_of_length_le (Nat.zero_le i)
      rw [hsame.2, List.take_nil]
      exact Follows.refl _
  | @acts c k a as answer hw hpass hrest ih =>
      cases i with
      | zero => exact Follows.refl _
      | succ i =>
          have hk' : (c.perform a).Keyed := by
            have hstep := hk.reconcile s p
            rw [hpass] at hstep
            exact hstep
          have hfirst : c.Follows (c.perform a) [a.change] := by
            have hchanges := hw.follows.1
            rw [hw.changes_eq hk] at hchanges
            cases a with
            | create | delete | recreate => exact hchanges
            | updatePayload => exact absurd (hu _ List.mem_cons_self) (by simp [Action.isUpdate])
          rw [passes_succ, hpass]
          exact hfirst.trans (ih hk' (fun b hb => hu b (List.mem_cons_of_mem _ hb)) i)

end Carries

/-! ## Passes told beforehand -/

/-- Passes make certain changes, one each, log them and nothing else, and then converge for good. -/
structure Enacts (c : Cluster) (s : Settings) (p : Pipeline) (e : Endpoint) (as : List Action) :
    Prop where
  acts : ∀ i a, as[i]? = some a →
    ∃ answer, c.outcome s p i = .ok (.changed a answer s.timing.change)
  settles : ∀ i, as.length ≤ i → c.outcome s p i = .ok (.settled e s.timing.resync)
  follows : ∀ i, c.Follows (c.passes s p i) ((as.take i).map Action.change)

/-- Passes that carry out actions that are no updates enact them one by one. -/
theorem Carries.enacts (h : Carries s p v e c as) (hk : c.Keyed)
    (hu : ∀ a ∈ as, a.isUpdate = false) : c.Enacts s p e as where
  acts _ _ hi := h.outcome_of_getElem? hi
  settles _ hi := (h.outcome_of_length_le hi).1
  follows := h.follows hk hu

end Cluster

end LogOperator
