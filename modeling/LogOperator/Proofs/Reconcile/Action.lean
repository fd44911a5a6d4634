import LogOperator.Proofs.Cluster.Calls
import LogOperator.Reconcile.Pass

/-!
# LogOperator.Proofs.Reconcile.Action

When an entry of the desired state calls for an action, and what carrying the action out does to the
cluster:

* `Resource.Agrees` — all that is compared of a desired and an observed object;
* `Entry.Calls` — what an entry calls for, by what the cluster holds;
* `Cluster.Applies` — an action is refused by a pending failure, done by half, or performed;
* `Cluster.find?_perform_target` — what an action that was performed leaves of its target;
* `Cluster.Applies.frame`, `Cluster.Applies.origin` — objects that an action does not name stay, and
  those it leaves behind were there before or were written by it.
-/

namespace LogOperator

/-! ## Drift -/

namespace Resource

/-- The data of a ConfigMap; objects of other kinds have none. -/
def data? (r : Resource) : Option TextMap :=
  match r.content with
  | .configMap data _ => data
  | _ => none

/-- A ConfigMap with other data; objects of other kinds stay as they are. -/
def withData (r : Resource) (data : Option TextMap) : Resource :=
  match r.content with
  | .configMap _ rest => { r with content := .configMap data rest }
  | _ => r

/-- Desired and observed object have the same data and, if they are workloads, were built from
inputs of the same fingerprint. -/
def Agrees (desired observed : Resource) : Prop :=
  desired.data? = observed.data? ∧
    (desired.kind.isWorkload = true → desired.fingerprint? = observed.fingerprint?)

/-- A write leaves the data as it was asked for. -/
@[simp] theorem data?_stamp (n : Nat) (r : Resource) : (r.stamp n).data? = r.data? := by
  obtain ⟨m, content⟩ := r
  cases content with
  | service spec rest => cases spec <;> rfl
  | _ => rfl

@[simp] theorem kind_withData (r : Resource) (data : Option TextMap) :
    (r.withData data).kind = r.kind := by
  obtain ⟨m, content⟩ := r
  cases content <;> rfl

@[simp] theorem metadata_withData (r : Resource) (data : Option TextMap) :
    (r.withData data).metadata = r.metadata := by
  obtain ⟨m, content⟩ := r
  cases content <;> rfl

@[simp] theorem id_withData (r : Resource) (data : Option TextMap) :
    (r.withData data).id = r.id := by
  simp only [id, kind_withData, metadata_withData]

theorem data?_withData {r : Resource} (hk : r.kind = .configMap) (data : Option TextMap) :
    (r.withData data).data? = data := by
  obtain ⟨m, content⟩ := r
  cases content <;> first | rfl | cases hk

theorem data?_of_kind {r : Resource} (hk : r.kind ≠ .configMap) : r.data? = none := by
  obtain ⟨m, content⟩ := r
  cases content <;> first | rfl | exact absurd rfl hk

/-- **What was written agrees with what was asked for.** -/
theorem agrees_stamp {r : Resource} (n : Nat) : r.Agrees (r.stamp n) := by
  simp [Agrees]

/-- A desired object agrees with the observed one that was given its data. -/
theorem agrees_withData {r current : Resource} (hr : r.kind = .configMap)
    (hc : current.kind = .configMap) : r.Agrees (current.withData r.data?) := by
  refine ⟨(data?_withData hc _).symm, fun hw => ?_⟩
  rw [hr] at hw
  contradiction

/-- A further write does not change that. -/
theorem Agrees.stamp {r current : Resource} (h : r.Agrees current) (n : Nat) :
    r.Agrees (current.stamp n) := by
  rwa [Agrees, data?_stamp, fingerprint?_stamp]

/-- A ConfigMap that was given the desired data agrees with the desired one. -/
theorem agrees_stamp_withData {r current : Resource} (n : Nat) (hr : r.kind = .configMap)
    (hc : current.kind = .configMap) : r.Agrees ((current.withData r.data?).stamp n) :=
  (agrees_withData hr hc).stamp n

/-- Objects of one identity are of one kind. -/
theorem kind_eq_of_id {desired observed : Resource} (h : observed.id = desired.id) :
    desired.kind = observed.kind :=
  (congrArg Id.kind h).symm

/-- The comparison of two objects of one kind. -/
theorem drift_eq {desired observed : Resource} (hk : desired.kind = observed.kind) :
    desired.drift observed =
      if desired.data? ≠ observed.data? then .payload (observed.withData desired.data?)
      else if desired.kind.isWorkload = true ∧ desired.fingerprint? ≠ observed.fingerprint? then
        .stale
      else .none := by
  obtain ⟨m, d⟩ := desired
  obtain ⟨m', o⟩ := observed
  cases d <;> cases o <;> first
    | contradiction
    | simp [drift, data?, withData, Resource.kind, Content.kind, Kind.isWorkload]

/-- There is no drift exactly if the objects agree in what is compared. -/
theorem drift_eq_none_iff_agrees {desired observed : Resource}
    (hk : desired.kind = observed.kind) :
    desired.drift observed = .none ↔ desired.Agrees observed := by
  rw [drift_eq hk, Agrees]
  by_cases hd : desired.data? = observed.data?
  · by_cases hs : desired.kind.isWorkload = true ∧ desired.fingerprint? ≠ observed.fingerprint?
    · simp [hd, hs]
    · simp only [ne_eq, hd, not_true, if_false, hs]
      simpa [hd] using hs
  · simp [hd]

/-- What the cluster assigns on a write is no drift. -/
theorem drift_stamp (n : Nat) (r : Resource) : r.drift (r.stamp n) = .none :=
  (drift_eq_none_iff_agrees (kind_stamp n r).symm).2 (agrees_stamp n)

end Resource

/-! ## What an entry calls for -/

namespace Entry

/-- What an entry calls for, by the object that the cluster holds. -/
inductive Calls : Entry → Option Resource → Action → Prop where
  | missing (r : Resource) (dependent : Option Id) : Calls (.present r dependent) none (.create r)
  | drifted {r current : Resource} (dependent : Option Id) (hr : r.kind = .configMap)
      (hc : current.kind = .configMap) (hd : r.data? ≠ current.data?) :
      Calls (.present r dependent) (some current)
        (.updatePayload (current.withData r.data?) dependent)
  | stale {r current : Resource} (dependent : Option Id) (hd : r.data? = current.data?)
      (hw : r.kind.isWorkload = true) (hf : r.fingerprint? ≠ current.fingerprint?) :
      Calls (.present r dependent) (some current) (.recreate r.id)
  | disabled (id : Id) {current : Resource} (hm : current.isManaged = true) :
      Calls (.absent id) (some current) (.delete id)

variable {e : Entry} {r current : Resource} {observed : Option Resource} {a : Action}

/-- The workload that is deleted once the object's data was updated. -/
def dependent? : Entry → Option Id
  | present _ dependent => dependent
  | absent _ => none

/-- What an action deletes besides is the workload of the entry. -/
theorem Calls.dependent? {id : Id} (h : e.Calls observed a) (hd : a.dependent? = some id) :
    e.dependent? = some id := by
  cases h with
  | drifted => exact hd
  | missing | stale | disabled => contradiction

/-- **What an entry calls for**, in one of these ways. -/
theorem calls_of_ensure (hid : ∀ r, observed = some r → r.id = e.id)
    (h : e.ensure observed = some a) : e.Calls observed a := by
  cases e with
  | present r dependent =>
      cases observed with
      | none =>
          cases h
          exact .missing r dependent
      | some current =>
          have hk : r.kind = current.kind := Resource.kind_eq_of_id (hid current rfl)
          simp only [ensure, Resource.drift_eq hk] at h
          by_cases hd : r.data? = current.data?
          · rw [if_neg (not_not_intro hd)] at h
            split at h
            · contradiction
            · next hdrift => split at hdrift <;> contradiction
            · next hdrift =>
              split at hdrift
              · next hs =>
                cases h
                exact .stale dependent hd hs.1 hs.2
              · contradiction
          · rw [if_pos hd] at h
            cases h
            have hr : r.kind = .configMap := Decidable.byContradiction fun hne =>
              hd (by rw [Resource.data?_of_kind hne, Resource.data?_of_kind (hk ▸ hne)])
            exact .drifted dependent hr (hk ▸ hr) hd
  | absent id =>
      cases observed with
      | none => contradiction
      | some current =>
          simp only [ensure] at h
          split at h
          · next hm =>
            cases h
            exact .disabled id hm
          · contradiction

/-- An object that must be there needs nothing exactly if one is there that agrees with it. -/
theorem ensure_present_eq_none_iff {dependent : Option Id}
    (hid : ∀ current, observed = some current → current.id = r.id) :
    (present r dependent).ensure observed = none ↔ ∃ current, observed = some current ∧
      r.Agrees current := by
  cases observed with
  | none => simp [ensure]
  | some current =>
      have hk : r.kind = current.kind := Resource.kind_eq_of_id (hid current rfl)
      rw [ensure]
      simp only [Option.some.injEq, exists_eq_left', ← Resource.drift_eq_none_iff_agrees hk]
      cases r.drift current <;> simp

/-- An object that must not be there is left alone exactly if it is someone else's. -/
theorem ensure_absent_eq_none_iff {id : Id} :
    (absent id).ensure observed = none ↔ ∀ current, observed = some current →
      current.isManaged = false := by
  cases observed <;> simp [ensure]

end Entry

/-! ## Carrying an action out -/

namespace Action

/-- The call that an action makes on its target. -/
def operation : Action → Operation
  | create _ => .create
  | updatePayload .. => .update
  | delete _ | recreate _ => .delete

/-- The calls that an action makes, in order. -/
def calls (a : Action) : List (Operation × Id) :=
  (a.operation, a.target) :: a.dependent?.toList.map (.delete, ·)

/-- What holds of the call on the target and of the deletion holds of all calls of an action. -/
theorem forall_mem_calls {a : Action} {P : Operation × Id → Prop} (ht : P (a.operation, a.target))
    (hd : ∀ dependent, a.dependent? = some dependent → P (.delete, dependent)) :
    ∀ call ∈ a.calls, P call := by
  intro call hcall
  simp only [calls, List.mem_cons, List.mem_map, Option.mem_toList] at hcall
  rcases hcall with rfl | ⟨dependent, h, rfl⟩
  · exact ht
  · exact hd dependent h

/-- The object that an action removes. -/
def removed? : Action → Option Id
  | create _ => none
  | updatePayload _ dependent => dependent
  | delete id | recreate id => some id

end Action

namespace Cluster

variable {c : Cluster} {e : Entry} {a : Action} {reply : Reply Unit} {id : Id}

/-- The cluster after an action all of whose calls succeed. -/
def perform (c : Cluster) : Action → Cluster
  | .create r => c.write .create r
  | .updatePayload r none => c.write .update r
  | .updatePayload r (some dependent) => (c.write .update r).discard dependent
  | .delete id | .recreate id => c.discard id

/-- The changes that such an action logs. -/
def changes (c : Cluster) : Action → List Mutation
  | .create r => [⟨.create, r.id⟩]
  | .updatePayload r dependent =>
    ⟨.update, r.id⟩ :: (dependent.toList.filter c.objects.contains).map (⟨.delete, ·⟩)
  | .delete id | .recreate id => if c.objects.contains id then [⟨.delete, id⟩] else []

/-- How carrying out an action ends. -/
inductive Applies (c : Cluster) : Action → Reply Unit → Prop where
  | refused {a : Action} (hf : (a.operation, a.target) ∈ c.failures) :
      Applies c a (.error (.store a.operation a.target .injected), c.spend a.operation a.target)
  /-- The data was replaced, and then the workload that mounts it could not be deleted. -/
  | halved {r : Resource} {dependent : Id} (hu : (.update, r.id) ∉ c.failures)
      (hf : (.delete, dependent) ∈ c.failures) :
      Applies c (.updatePayload r (some dependent))
        (.error (.store .delete dependent .injected), (c.write .update r).spend .delete dependent)
  | done {a : Action} (hf : ∀ call ∈ a.calls, call ∉ c.failures) :
      Applies c a (.ok (), c.perform a)

/-- An action whose target is there exactly if it should be ends in one of these ways. -/
theorem applies_apply (h : a.before = .present ↔ c.objects.contains a.target = true) :
    c.Applies a (c.apply a) := by
  by_cases hf : (a.operation, a.target) ∈ c.failures
  · have hreply : c.apply a
        = (.error (.store a.operation a.target .injected), c.spend a.operation a.target) := by
      cases a with
      | create r => exact unlessInjected_of_mem hf
      | updatePayload r dependent =>
          have hu : c.update r = (.error (.store .update r.id .injected), c.spend .update r.id) :=
            unlessInjected_of_mem hf
          simp only [apply, hu]
          rfl
      | delete id | recreate id => exact unlessInjected_of_mem hf
    rw [hreply]
    exact .refused hf
  · cases a with
    | create r =>
        have hf : (.create, r.id) ∉ c.failures := hf
        have hc : ¬ c.objects.contains r.id = true := fun hc => nomatch h.2 hc
        have hreply : c.apply (.create r) = (.ok (), c.write .create r) := by
          rw [apply, create, unlessInjected_of_not_mem hf, if_neg hc]
        rw [hreply]
        exact .done (a := .create r) (Action.forall_mem_calls hf nofun)
    | updatePayload r dependent =>
        have hf : (.update, r.id) ∉ c.failures := hf
        have hc : c.objects.contains r.id = true := h.1 rfl
        have hu : c.update r = (.ok (), c.write .update r) := by
          rw [update, unlessInjected_of_not_mem hf, if_pos hc]
        cases dependent with
        | none =>
            simp only [apply, hu]
            exact .done (a := .updatePayload r none) (Action.forall_mem_calls hf nofun)
        | some dependent =>
            simp only [apply, hu, delete_eq]
            by_cases hd : (.delete, dependent) ∈ c.failures
            · rw [unlessInjected_of_mem (c := c.write .update r) hd]
              exact .halved hf hd
            · rw [unlessInjected_of_not_mem (c := c.write .update r) hd]
              refine .done (a := .updatePayload r (some dependent)) (Action.forall_mem_calls hf ?_)
              rintro _ ⟨⟩
              exact hd
    | delete id | recreate id =>
        have hf : (.delete, id) ∉ c.failures := hf
        rw [apply, delete_eq, unlessInjected_of_not_mem hf]
        exact .done (Action.forall_mem_calls hf nofun)

/-- Such an action succeeds exactly if none of its calls is made to fail. -/
theorem apply_eq_ok_iff {c' : Cluster} (h : a.before = .present ↔ c.objects.contains a.target = true) :
    c.apply a = (.ok (), c') ↔ (∀ call ∈ a.calls, call ∉ c.failures) ∧ c' = c.perform a := by
  have ha := applies_apply h
  constructor
  · intro hok
    rw [hok] at ha
    cases ha with
    | done hf => exact ⟨hf, rfl⟩
  · rintro ⟨hf, rfl⟩
    generalize c.apply a = reply at ha
    cases ha with
    | refused hr => exact absurd hr (hf _ List.mem_cons_self)
    | halved _ hr => exact absurd hr (hf _ (by simp [Action.calls, Action.dependent?]))
    | done => rfl

/-- Without pending failures, an action is carried out. -/
theorem Applies.eq_perform (h : c.Applies a reply) (hf : c.failures = []) :
    reply = (.ok (), c.perform a) := by
  cases h with
  | refused hmem | halved _ hmem =>
      rw [hf] at hmem
      contradiction
  | done => rfl

/-- An action that succeeds uses up no failure. -/
@[simp] theorem failures_perform (c : Cluster) (a : Action) :
    (c.perform a).failures = c.failures := by
  cases a with
  | create r => rfl
  | updatePayload r dependent =>
      cases dependent with
      | none => rfl
      | some dependent => exact failures_discard
  | delete id | recreate id => exact failures_discard

/-! ## Objects after an action -/

/-- What an action removes is gone. -/
theorem find?_perform_removed (h : a.removed? = some id) :
    (c.perform a).objects.find? id = none := by
  cases a with
  | create r => contradiction
  | updatePayload r dependent =>
      cases h
      exact find?_discard_self _ id
  | delete target | recreate target =>
      cases h
      exact find?_discard_self c id

/-- The object that an action is about is the one that it writes, if it writes one, and else gone. -/
theorem find?_perform_target (h : a.dependent? ≠ some a.target) :
    (c.perform a).objects.find? a.target = a.resource?.map (·.stamp (c.revision + 1)) := by
  cases a with
  | create r => exact find?_write_self c .create r
  | updatePayload r dependent =>
      cases dependent with
      | none => exact find?_write_self c .update r
      | some dependent =>
          have hne : dependent ≠ r.id := fun hid => h (congrArg some hid)
          rw [perform, Action.target, find?_discard_of_ne hne]
          exact find?_write_self c .update r
  | delete id | recreate id => exact find?_discard_self c id

/-- What an action does not name stays as it was. -/
theorem find?_perform_of_ne (ht : a.target ≠ id) (hd : a.dependent? ≠ some id) :
    (c.perform a).objects.find? id = c.objects.find? id := by
  cases a with
  | create r => exact find?_write_of_ne .create ht
  | updatePayload r dependent =>
      cases dependent with
      | none => exact find?_write_of_ne .update ht
      | some dependent =>
          have hne : dependent ≠ id := fun h => hd (congrArg some h)
          rw [perform, find?_discard_of_ne hne]
          exact find?_write_of_ne .update ht
  | delete target | recreate target => exact find?_discard_of_ne ht

/-- **Frame**: an action leaves every object alone that it does not name. -/
theorem Applies.frame (h : c.Applies a reply) (ht : a.target ≠ id) (hd : a.dependent? ≠ some id) :
    reply.2.objects.find? id = c.objects.find? id := by
  cases h with
  | refused => rfl
  | halved => exact find?_write_of_ne .update ht
  | done => exact find?_perform_of_ne ht hd

/-- An object after an action was there before, or the action wrote it. -/
theorem Applies.origin {r : Resource} (h : c.Applies a reply)
    (hr : reply.2.objects.find? id = some r) :
    c.objects.find? id = some r ∨
      ∃ w, a.resource? = some w ∧ w.id = id ∧ r = w.stamp (c.revision + 1) := by
  cases h with
  | refused => exact .inl hr
  | @halved w dependent =>
      have hw : (c.write .update w).objects.find? id = some r := hr
      exact (of_find?_write hw).imp_right fun h => ⟨_, rfl, h⟩
  | done =>
      cases a with
      | create w => exact (of_find?_write hr).imp_right fun h => ⟨_, rfl, h⟩
      | updatePayload w dependent =>
          cases dependent with
          | none => exact (of_find?_write hr).imp_right fun h => ⟨_, rfl, h⟩
          | some dependent =>
              have hw := of_find?_write (of_find?_discard hr)
              exact hw.imp_right fun h => ⟨_, rfl, h⟩
      | delete target | recreate target => exact .inl (of_find?_discard hr)

/-- However an action ends, objects are stored under their own identities. -/
theorem Applies.keyed (h : c.Applies a reply) (hc : c.Keyed) : reply.2.Keyed := by
  intro id r hr
  rcases h.origin hr with hr | ⟨w, -, hid, rfl⟩
  · exact hc id r hr
  · rw [Resource.id_stamp, hid]

/-! ## The log after an action -/

/-- An action deletes the object that it removes, if it is there. -/
theorem delete_mem_changes : ⟨.delete, id⟩ ∈ c.changes a ↔
    a.removed? = some id ∧ c.objects.contains id = true := by
  cases a with
  | create r => simp [changes, Action.removed?]
  | updatePayload r dependent =>
      cases dependent with
      | none => simp [changes, Action.removed?]
      | some dependent =>
          cases hc : c.objects.contains dependent <;>
            simp [changes, Action.removed?, hc] <;> grind
  | delete target | recreate target =>
      cases hc : c.objects.contains target <;>
        simp [changes, Action.removed?, hc] <;> grind

/-- An action logs its changes and makes no others. -/
theorem follows_perform (h : a.dependent? ≠ some a.target) :
    c.Follows (c.perform a) (c.changes a) := by
  cases a with
  | create r => exact follows_write c .create r
  | updatePayload r dependent =>
      cases dependent with
      | none => exact follows_write c .update r
      | some dependent =>
          have hne : r.id ≠ dependent := fun h' => h (congrArg some h'.symm)
          have hc : (c.write .update r).objects.contains dependent
              = c.objects.contains dependent := by
            rw [Dict.contains, Dict.contains, find?_write, if_neg hne]
          have hf := (follows_write c .update r).trans (follows_discard _ dependent)
          rw [hc] at hf
          have hms : c.changes (.updatePayload r (some dependent)) = [⟨.update, r.id⟩] ++
              if c.objects.contains dependent then [⟨.delete, dependent⟩] else [] := by
            cases hd : c.objects.contains dependent <;> simp [changes, hd]
          rw [hms]
          exact hf
  | delete id | recreate id => exact follows_discard c id

end Cluster

end LogOperator
