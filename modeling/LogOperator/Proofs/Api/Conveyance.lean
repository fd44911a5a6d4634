import LogOperator.Proofs.Api.Agreement
import LogOperator.Proofs.Pipeline.Acceptance
import LogOperator.Proofs.Reconcile.Run

/-!
# LogOperator.Proofs.Api.Conveyance

The operator's own calls can be made over an API.  What a pass writes is an object of the desired state,
or one that the cluster held with the data of such an object; both survive being written as a text and
read again (`Resource.Presentable`), also with the fields that the cluster assigns.  So the calls of its
actions are admissible, and a server that starts from the same objects keeps up with the cluster in
memory.

* `Slot.presentable_resource` — the objects of a desired state;
* `Cluster.Conveys.run` — the objects of a cluster after every run;
* `Cluster.asksOf_reconcile` — the calls of a pass;
* `Mirrors.passes` — passes in a row, on both sides.
-/

namespace LogOperator

open Api Document

/-! ## Documents that a text can stand for -/

namespace Json

variable {depth : Nat} {ms ms' : List (String × Json)} {fields : List (String × Option Json)}
  {name : String}

/-- Members are printable together if they are apart. -/
@[simp] theorem havePrintable_append : havePrintable depth (ms ++ ms')
    = (havePrintable depth ms && havePrintable depth ms') := by
  induction ms with
  | nil => rfl
  | cons m ms ih => rw [List.cons_append, havePrintable, havePrintable, ih, Bool.and_assoc]

/-- A member that is not there is no obstacle. -/
@[simp] theorem havePrintable_present_cons {v : Option Json} :
    havePrintable depth (present ((name, v) :: fields))
      = (v.all (isPrintable depth) && havePrintable depth (present fields)) := by
  cases v <;> rfl

@[simp] theorem havePrintable_present_nil : havePrintable depth (present []) = true := rfl

/-- Texts can stand for texts, by themselves or in a map. -/
@[simp] theorem all_isPrintable_text {v : Option String} :
    (v.map .text).all (isPrintable depth) = true := by
  cases v <;> simp [isPrintable]

@[simp] theorem all_isPrintable_textMap {v : Option TextMap} :
    (v.map textMap).all (isPrintable (depth + 1)) = true := by
  have htexts (es : List (String × String)) :
      havePrintable depth (es.map fun e => (e.1, .text e.2)) = true := by
    induction es with
    | nil => rfl
    | cons e es ih => simp [havePrintable, isPrintable, ih]
  cases v with
  | none => rfl
  | some d => exact htexts d.entries

end Json

open Json

/-- An owner reference is an object of texts and flags. -/
theorem OwnerRef.isPrintable_write (o : OwnerRef) (depth : Nat) :
    isPrintable (depth + 1) o.write = true := by
  have hflag (v : Option Bool) : (v.map .bool).all (isPrintable depth) = true := by
    cases v <;> simp [isPrintable]
  simp [write, isPrintable, hflag]

/-- Of metadata, only the members that are carried along matter. -/
theorem Metadata.isPrintable_write (m : Metadata) (depth : Nat) :
    isPrintable (depth + 3) m.write = havePrintable (depth + 2) m.rest := by
  have howners : (m.owners.map fun os => Json.list (os.map OwnerRef.write)).all
      (isPrintable (depth + 2)) = true := by
    cases m.owners with
    | none => rfl
    | some os =>
        change arePrintable (depth + 1) (os.map OwnerRef.write) = true
        induction os with
        | nil => rfl
        | cons o os ih => simp [arePrintable, o.isPrintable_write, ih]
  simp [write, isPrintable, howners]

/-! ## Objects -/

namespace Content

variable {depth : Nat} {rest : List (String × Json)}

/-- Texts can stand for all data. -/
theorem havePrintable_write_configMap (data : Option TextMap) :
    havePrintable (depth + 1) (write (.configMap data rest)) = havePrintable (depth + 1) rest := by
  simp [write]

/-- And for all addresses. -/
theorem havePrintable_write_service (spec : ServiceSpec) (address : Option String) :
    havePrintable (depth + 1) (write (.service (some { spec with clusterIP := address }) rest))
      = havePrintable (depth + 1) (write (.service (some spec) rest)) := by
  simp [write, ServiceSpec.write, isPrintable]

end Content

/-- The object can be read back from its document, and a text can stand for the document.  What the
metadata carries along lies two levels deep in it, the content one. -/
structure Resource.Presentable (o : Resource) : Prop where
  legible : o.Legible
  metadata : havePrintable (maxDepth - 2) o.metadata.rest = true
  content : havePrintable (maxDepth - 1) o.content.write = true

namespace Resource.Presentable

variable {o : Resource}

/-- A presentable object is shown by its own text. -/
theorem conveyable (h : o.Presentable) : o.Conveyable := by
  refine conveyable_of_readAny? h.legible.readAny?_write ?_
  have hmetadata : isPrintable (maxDepth - 1) o.metadata.write = true :=
    (o.metadata.isPrintable_write (maxDepth - 4)).trans h.metadata
  change havePrintable (maxDepth - 1) ([("apiVersion", .text o.kind.apiVersion),
    ("kind", .text o.kind.name), ("metadata", o.metadata.write)] ++ o.content.write) = true
  simp [havePrintable, isPrintable, hmetadata, h.content]

/-- The fields that the cluster assigns do not make an object unreadable. -/
theorem stamp (h : o.Presentable) (n : Nat) : (o.stamp n).Presentable := by
  obtain ⟨⟨hmetadata, hcontent⟩, hprintable, hcontent'⟩ := h
  obtain ⟨m, content⟩ := o
  have hstamped : Metadata.read? { m with resourceVersion := some (Nat.repr n) }.write
      = some { m with resourceVersion := some (Nat.repr n) } := by
    obtain ⟨ms, hms⟩ := Metadata.exists_of_read? hmetadata
    exact Metadata.read?_write hms
  cases content with
  | service spec rest =>
      cases spec with
      | none => exact ⟨⟨hstamped, hcontent⟩, hprintable, hcontent'⟩
      | some spec =>
          exact ⟨⟨hstamped, Content.read?_write_service hcontent _⟩, hprintable,
            (Content.havePrintable_write_service spec _).trans hcontent'⟩
  | _ => exact ⟨⟨hstamped, hcontent⟩, hprintable, hcontent'⟩

/-- Nor does other data. -/
theorem withData (h : o.Presentable) (data : Option TextMap) : (o.withData data).Presentable := by
  obtain ⟨⟨hmetadata, hcontent⟩, hprintable, hcontent'⟩ := h
  obtain ⟨m, content⟩ := o
  cases content with
  | configMap current rest =>
      exact ⟨⟨hmetadata, Content.read?_write_configMap hcontent data⟩, hprintable,
        (Content.havePrintable_write_configMap data).trans
          ((Content.havePrintable_write_configMap current).symm.trans hcontent')⟩
  | _ => exact ⟨⟨hmetadata, hcontent⟩, hprintable, hcontent'⟩

end Resource.Presentable

/-! ## Desired objects -/

namespace Slot

variable (v : ValidPipeline) (e : Endpoint) (images : Images)

/-- The metadata of a desired object carries nothing along. -/
theorem rest_metadata_resource (k : Slot) : (k.resource v e images).metadata.rest = [] := by
  cases k <;> rfl

/-- The content of a desired object can be read back.  But for the data of ConfigMaps, all names and
places in it are fixed, so that reading it is a computation. -/
theorem read?_write_content (k : Slot) :
    Content.read? k.kind (k.resource v e images).content.write
      = some (k.resource v e images).content := by
  cases k with
  | aggregatorConfig | collectorConfig =>
      have hempty : Content.read? .configMap ([] : List (String × Json))
          = some (.configMap none []) := rfl
      exact Content.read?_write_configMap hempty _
  | _ => rfl

/-- A text can stand for the content of a desired object; its numbers are ports and counts. -/
theorem havePrintable_content (k : Slot) :
    havePrintable (maxDepth - 1) (k.resource v e images).content.write = true := by
  cases k with
  | aggregatorConfig | collectorConfig => exact Content.havePrintable_write_configMap _
  | _ => rfl

/-- **The objects of a desired state** survive being written as a text and read again. -/
theorem presentable_resource (k : Slot) : (k.resource v e images).Presentable where
  legible := by
    have hrest : Shape.readMembers? Shape.metadataRest ([] : List (String × Json))
        = some (k.resource v e images).metadata.rest := by
      rw [k.rest_metadata_resource]
      rfl
    refine ⟨Metadata.read?_write hrest, ?_⟩
    rw [k.kind_resource]
    exact k.read?_write_content v e images
  metadata := by
    rw [k.rest_metadata_resource]
    rfl
  content := k.havePrintable_content v e images

/-- So a client can send them, and a server can show them with what it assigned. -/
theorem conveyable_resource (k : Slot) (n : Nat) : (k.resource v e images).Conveyable ∧
    ((k.resource v e images).stamp n).Conveyable :=
  have h := k.presentable_resource v e images
  ⟨h.conveyable, (h.stamp n).conveyable⟩

/-- Every name of a component is a subdomain. -/
theorem subdomain_name (k : Slot) : Text.Subdomain k.name :=
  Text.isDnsSubdomain_iff.1 (by cases k <;> decide)

/-- The identities of a valid pipeline's objects are well-formed. -/
theorem wellFormed_id {p : Pipeline} (hv : p.validate = .ok v) (k : Slot) :
    (k.id v.ns).WellFormed := by
  obtain ⟨hp, rfl⟩ := Pipeline.eq_validated_of_validate hv
  have hns : Text.Subdomain p.target := (Pipeline.violations_eq_nil_iff.1 hp).target.subdomain
  refine ⟨k.subdomain_name, fun hscope => ⟨p.target, if_pos hscope, hns⟩, fun hscope => ?_⟩
  exact if_neg (Bool.eq_false_iff.1 hscope)

end Slot

/-! ## Calls of the operator -/

/-- The calls that an action makes, as values. -/
def Action.asks : Action → List Call
  | create r => [.create r]
  | updatePayload r dependent => .update r :: dependent.toList.map .delete
  | delete id | recreate id => [.delete id]

namespace Cluster

variable {c c' : Cluster} {s : Settings} {p : Pipeline} {v : ValidPipeline} {images : Images}
  {e : Endpoint} {k : Slot} {a : Action}

/-- Every object that the cluster holds survives being written as a text and read again. -/
def Conveys (c : Cluster) : Prop :=
  ∀ id o, c.objects.find? id = some o → o.Presentable

theorem conveys_empty : empty.Conveys := fun _ _ h => nomatch h

/-- What an action writes is a desired object, or one that was there with other data. -/
theorem Wants.presentable (hw : c.Wants v e images k a) (hc : c.Conveys) {w : Resource}
    (hres : a.resource? = some w) : w.Presentable := by
  cases hw with
  | missing =>
      cases hres
      exact k.presentable_resource v e images
  | drifted _ ho =>
      cases hres
      exact (hc _ _ ho).withData _
  | stale | disabled => contradiction

/-- **The calls of an action are admissible.** -/
theorem admissible_of_wants (hw : c.Wants v e images k a) (hc : c.Conveys)
    (hv : p.validate = .ok v) : ∀ call ∈ a.asks, call.Admissible := by
  have htarget : a.target.WellFormed := hw.target ▸ k.wellFormed_id v hv
  have hdependent : ∀ id ∈ a.dependent?, id.WellFormed := by
    intro id hid
    obtain ⟨l, -, rfl⟩ := hw.dependent? hid
    exact l.wellFormed_id v hv
  have hwritten : ∀ w ∈ a.resource?, w.Conveyable := fun w hres =>
    (hw.presentable hc hres).conveyable
  cases a with
  | create r => exact List.forall_mem_singleton.2 ⟨htarget, hwritten r rfl⟩
  | updatePayload r dependent =>
      refine List.forall_mem_cons.2 ⟨⟨htarget, hwritten r rfl⟩, fun call hcall => ?_⟩
      obtain ⟨id, hid, rfl⟩ := List.mem_map.1 hcall
      exact hdependent id (Option.mem_toList.1 hid)
  | delete id | recreate id => exact List.forall_mem_singleton.2 htarget

/-- A pass leaves only such objects behind. -/
theorem Conveys.ends {reply : Reply PassResult} (hc : c.Conveys) (h : c.Ends s v reply) :
    reply.2.Conveys := by
  cases h with
  | converged | unresolved | unread => exact hc
  | @acts k e a reply _ _ _ hw ha =>
      intro id o ho
      rcases ha.origin ho with ho | ⟨w, hres, -, rfl⟩
      · exact hc id o ho
      · exact (hw.presentable hc hres).stamp _

/-- A pass over any pipeline leaves only such objects behind, also one that is rejected. -/
theorem Conveys.reconcile (hc : c.Conveys) (hk : c.Keyed) (s : Settings) (p : Pipeline) :
    (c.reconcile s p).2.Conveys := by
  rcases reconcile_cases hk s p with hsame | ⟨v, -, hend⟩
  · rw [hsame]
    exact hc
  · exact hc.ends hend

/-- So do runs. -/
theorem Conveys.run (hc : c.Conveys) (hk : c.Keyed) (events : List Event) :
    (c.run events).Conveys := by
  induction events generalizing c with
  | nil => exact hc
  | cons event events ih =>
      refine ih ?_ (hk.step event)
      cases event with
      | pass s p => exact hc.reconcile hk s p
      | failure op id => exact hc

/-! ## The operator over an API -/

/-- The calls of an action, one after the other, carry it out. -/
theorem after_asks (hf : c.failures = [])
    (ht : a.before = .present ↔ c.objects.contains a.target = true) :
    Call.after Call.inMemory c a.asks = c.perform a := by
  have hnone (op : Operation) (id : Id) : (op, id) ∉ c.failures := by
    rw [hf]
    exact List.not_mem_nil
  have hupdate {r : Resource} (hr : c.objects.contains r.id = true) :
      (Call.inMemory c (.update r)).2 = c.write .update r := by
    rw [Call.inMemory, update, unlessInjected_of_not_mem (hnone .update r.id), if_pos hr]
    rfl
  cases a with
  | create r =>
      have hr : ¬ c.objects.contains r.id = true := fun hr => Phase.noConfusion (ht.2 hr)
      change (Call.silent (c.create r)).2 = c.write .create r
      rw [create, unlessInjected_of_not_mem (hnone .create r.id), if_neg hr]
      rfl
  | updatePayload r dependent =>
      cases dependent with
      | none => exact hupdate (ht.1 rfl)
      | some id =>
          have hdelete : (.delete, id) ∉ (c.write .update r).failures := hnone .delete id
          change (Call.silent ((Call.inMemory c (.update r)).2.delete id)).2 = _
          rw [hupdate (ht.1 rfl), delete_eq, unlessInjected_of_not_mem hdelete]
          rfl
  | delete id | recreate id =>
      change (Call.silent (c.delete id)).2 = c.discard id
      rw [delete_eq, unlessInjected_of_not_mem (hnone .delete id)]
      rfl

/-- The calls of the action that a pass answers with. -/
def asksOf : Except ReconcileError PassResult → List Call
  | .ok r => r.action.toList.flatMap Action.asks
  | .error _ => []

/-- The calls of the actions of passes in a row. -/
def asksIn (s : Settings) (p : Pipeline) : Nat → Cluster → List Call
  | 0, _ => []
  | n + 1, c => asksOf (c.reconcile s p).1 ++ asksIn s p n (c.reconcile s p).2

/-- Without pending failures, the calls of a pass are admissible and lead to the cluster after it. -/
theorem asksOf_reconcile (hk : c.Keyed) (hc : c.Conveys) (hf : c.failures = []) (s : Settings)
    (p : Pipeline) : (∀ call ∈ asksOf (c.reconcile s p).1, call.Admissible) ∧
      Call.after Call.inMemory c (asksOf (c.reconcile s p).1) = (c.reconcile s p).2 := by
  have hnothing : ∀ call ∈ ([] : List Call), call.Admissible := fun _ hcall => nomatch hcall
  cases hv : p.validate with
  | error violations =>
      rw [reconcile_of_invalid hv]
      exact ⟨hnothing, rfl⟩
  | ok v =>
      have hend := Ends.of_reconcile hk hv s
      generalize c.reconcile s p = reply at hend
      cases hend with
      | converged | unresolved => exact ⟨hnothing, rfl⟩
      | unread hmem =>
          rw [hf] at hmem
          contradiction
      | @acts k e a _ answer _ _ hw ha =>
          obtain rfl := ha.eq_perform hf
          have hasks : asksOf (.ok (.changed a answer s.timing.change)) = a.asks :=
            List.append_nil a.asks
          change (∀ call ∈ asksOf (.ok (.changed a answer s.timing.change)), _) ∧
            Call.after _ c (asksOf (.ok (.changed a answer s.timing.change))) = c.perform a
          rw [hasks]
          exact ⟨admissible_of_wants hw hc hv,
            after_asks hf (hk.target_of_demand (hw.demand hk)).2⟩

end Cluster

/-- **Passes over an API.**  A server that holds the same objects as a cluster in memory, none of whose
calls fails, takes every call of the operator's actions, pass after pass, and holds the same objects
afterwards, but for what each side assigns. -/
theorem Mirrors.passes {σ : Type} {server : Server σ} {held : σ → String → Option Resource}
    (hserves : Serves server held) {s₀ : σ} {c : Cluster} (h : Mirrors (held s₀) c) (hk : c.Keyed)
    (hc : c.Conveys) (hf : c.failures = []) (s : Settings) (p : Pipeline) (n : Nat) :
    (∀ call ∈ Cluster.asksIn s p n c, call.Admissible) ∧
      Mirrors (held (Call.after (Call.overApi server) s₀ (Cluster.asksIn s p n c)))
        (c.passes s p n) := by
  induction n generalizing c s₀ with
  | zero => exact ⟨fun call hcall => absurd hcall List.not_mem_nil, h⟩
  | succ n ih =>
      obtain ⟨hcalls, hlast⟩ := Cluster.asksOf_reconcile hk hc hf s p
      obtain ⟨hafter, hcalm⟩ := h.after hserves hf hcalls
      rw [hlast] at hafter hcalm
      obtain ⟨hlater, hmirrors⟩ := ih hafter (hk.reconcile s p) (hc.reconcile hk s p) hcalm
      refine ⟨fun call hcall => ?_, ?_⟩
      · exact (List.mem_append.1 hcall).elim (hcalls call) (hlater call)
      · rw [Cluster.asksIn, Cluster.passes_succ, Call.after, List.foldl_append]
        exact hmirrors

/-- The registry, for one, keeps up with an empty cluster. -/
theorem Api.Registry.mirrors_passes (s : Settings) (p : Pipeline) (n : Nat) :
    Mirrors (Call.after (Call.overApi Registry.answer) .empty
      (Cluster.asksIn s p n .empty)).held (Cluster.empty.passes s p n) :=
  (mirrors_empty.passes Registry.serves Cluster.keyed_empty Cluster.conveys_empty rfl s p n).2

end LogOperator
