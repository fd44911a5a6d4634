import LogOperator.Proofs.Api.Registry
import LogOperator.Proofs.Cluster.Calls

/-!
# LogOperator.Proofs.Api.Agreement

The two clusters that the operator can call: one over an API, with whatever server answers, and one in
memory.  Started from the same objects they give the same answers and keep the same objects, but for the
fields that each assigns in its own way.

* `Mirrors` — the server and the cluster in memory hold the same objects;
* `Agrees` — two answers of a call say the same;
* `Mirrors.step` — what one call does to both;
* `calls_agree` — what any calls do.
-/

namespace LogOperator

open Api

/-! ## Calls -/

namespace Call

/-- The call is on a well-formed identity, and an object that it writes can be read from its text. -/
def Admissible : Call → Prop
  | get id | delete id => id.WellFormed
  | create o | update o => o.id.WellFormed ∧ o.Conveyable

/-- The call over an API. -/
def overApi {σ : Type} (server : Server σ) (s : σ) : Call → Answer σ
  | get id => Api.get server s id
  | create o => silent (Api.create server s o)
  | update o => silent (Api.update server s o)
  | delete id => silent (Api.delete server s id)

end Call

/-- Two answers of a call say the same: nothing, an object of the identity that differs in assigned
fields only, or that the call failed. -/
inductive Agrees (op : Operation) (id : Id) :
    Except ReconcileError (Option Resource) → Except ReconcileError (Option Resource) → Prop
  | nothing : Agrees op id (.ok none) (.ok none)
  | found {o o' : Resource} (hid : o.id = id) (hsame : o.unassigned = o'.unassigned) :
    Agrees op id (.ok (some o)) (.ok (some o'))
  | failed (fault fault' : LogOperator.Fault) :
    Agrees op id (.error (.store op id fault)) (.error (.store op id fault'))

/-- An answer that agrees with an object is an object with the same unassigned fields. -/
theorem Agrees.exists_of_found {op : Operation} {id : Id} {o : Resource}
    {answer : Except ReconcileError (Option Resource)} (h : Agrees op id answer (.ok (some o))) :
    ∃ o', answer = .ok (some o') ∧ o'.unassigned = o.unassigned := by
  cases h with
  | found hid hsame => exact ⟨_, rfl, hsame⟩

/-! ## Objects on both sides -/

/-- Under every well-formed identity the server holds the object that the cluster in memory holds, but
for the assigned fields. -/
structure Mirrors (held : String → Option Resource) (c : Cluster) : Prop where
  same : ∀ id : Id, id.WellFormed →
    (held id.path).map Resource.unassigned = (c.objects.find? id).map Resource.unassigned
  keyed : ∀ id : Id, id.WellFormed → ∀ o, held id.path = some o → o.id = id

namespace Mirrors

variable {held held' : String → Option Resource} {c : Cluster} {id : Id} {o o' : Resource}

/-- What the server holds under an identity is of the identity's kind. -/
theorem kind_eq (h : Mirrors held c) (hid : id.WellFormed) (o : Resource)
    (ho : held id.path = some o) : o.kind = id.kind :=
  congrArg Id.kind (h.keyed id hid o ho)

/-- The server holds an object under an identity exactly if the cluster in memory does. -/
theorem isSome_eq (h : Mirrors held c) (hid : id.WellFormed) :
    (held id.path).isSome = c.objects.contains id := by
  rw [Dict.contains, ← Option.isSome_map (f := Resource.unassigned), h.same id hid,
    Option.isSome_map]

/-- An object that was written on both sides leaves both the same. -/
theorem put (h : Mirrors held c) (hid : o.id.WellFormed) (hadmits : Admits held held' o o')
    (op : Operation) : Mirrors held' (c.write op o) where
  same id hid' := by
    rw [hadmits.held, Cluster.find?_write]
    by_cases hpath : id.path = o.id.path
    · obtain rfl := hid'.path_inj hid hpath
      rw [if_pos rfl, if_pos rfl, Option.map_some, Option.map_some, hadmits.same,
        o.unassigned_stamp]
    · rw [if_neg hpath, if_neg (fun heq => hpath (congrArg Id.path heq.symm)), h.same id hid']
  keyed id hid' x hx := by
    rw [hadmits.held] at hx
    split at hx
    · next hpath =>
      obtain rfl := hid'.path_inj hid hpath
      cases hx
      rw [← o'.id_unassigned, hadmits.same, o.id_unassigned]
    · exact h.keyed id hid' x hx

theorem remove (h : Mirrors held c) (hid : id.WellFormed)
    (hheld : ∀ p, held' p = if p = id.path then none else held p) :
    Mirrors held' (c.discard id) where
  same id' hid' := by
    rw [hheld, Cluster.find?_discard]
    by_cases hpath : id'.path = id.path
    · obtain rfl := hid'.path_inj hid hpath
      rw [if_pos rfl, if_pos rfl]
    · rw [if_neg hpath, if_neg (fun heq => hpath (congrArg Id.path heq.symm)), h.same id' hid']
  keyed id' hid' x hx := by
    rw [hheld] at hx
    split at hx
    · contradiction
    · exact h.keyed id' hid' x hx

/-- Looked up under one identity, both sides answer the same. -/
theorem agrees (h : Mirrors held c) (hid : id.WellFormed) (op : Operation) :
    Agrees op id (.ok (held id.path)) (.ok (c.objects.find? id)) := by
  have hsame := h.same id hid
  cases hheld : held id.path with
  | none =>
      rw [hheld, Option.map_none, eq_comm, Option.map_eq_none_iff] at hsame
      rw [hsame]
      exact .nothing
  | some o =>
      rw [hheld, Option.map_some, eq_comm, Option.map_eq_some_iff] at hsame
      obtain ⟨o', hfind, hsame⟩ := hsame
      rw [hfind]
      exact .found (h.keyed id hid o hheld) hsame.symm

/-- One call on both sides is answered the same, and leaves the same objects behind. -/
theorem step {σ : Type} {server : Server σ} {held : σ → String → Option Resource} {s : σ}
    (hserves : Serves server held) (h : Mirrors (held s) c) (hcalm : c.failures = []) {call : Call}
    (hcall : call.Admissible) :
    Agrees call.operation call.id (call.overApi server s).1 (call.inMemory c).1 ∧
      Mirrors (held (call.overApi server s).2) (call.inMemory c).2 ∧
      (call.inMemory c).2.failures = [] := by
  have hnone (op : Operation) (id : Id) : (op, id) ∉ c.failures := by rw [hcalm]; nofun
  cases call with
  | get id =>
      obtain ⟨s', hget, hheld⟩ := get_of_serves hserves hcall (h.kind_eq hcall)
      rw [Call.overApi, Call.inMemory, hget, Cluster.get_of_not_mem (hnone .get id), hheld]
      exact ⟨h.agrees hcall .get, h, hcalm⟩
  | delete id =>
      obtain ⟨s', hdelete, hheld⟩ := delete_of_serves hserves hcall (h.kind_eq hcall)
      rw [Call.overApi, Call.inMemory, hdelete, Cluster.delete_eq,
        Cluster.unlessInjected_of_not_mem (hnone .delete id)]
      exact ⟨.nothing, h.remove hcall hheld, (Cluster.failures_discard).trans hcalm⟩
  | create o =>
      obtain ⟨hid, ho⟩ := hcall
      obtain ⟨s', hcreate⟩ := create_of_serves hserves hid ho (s := s)
      rw [h.isSome_eq hid] at hcreate
      rw [Call.overApi, Call.inMemory, Cluster.create,
        Cluster.unlessInjected_of_not_mem (hnone .create o.id)]
      by_cases hpresent : c.objects.contains o.id = true
      · rw [if_pos hpresent] at hcreate ⊢
        obtain ⟨⟨reason, hcreate⟩, hheld⟩ := hcreate
        rw [hcreate]
        exact ⟨.failed _ _, hheld ▸ h, hcalm⟩
      · rw [if_neg hpresent] at hcreate ⊢
        obtain ⟨hcreate, o', hadmits⟩ := hcreate
        rw [hcreate]
        exact ⟨.nothing, h.put hid hadmits .create, hcalm⟩
  | update o =>
      obtain ⟨hid, ho⟩ := hcall
      obtain ⟨s', hupdate⟩ := update_of_serves hserves hid ho (s := s)
      rw [h.isSome_eq hid] at hupdate
      rw [Call.overApi, Call.inMemory, Cluster.update,
        Cluster.unlessInjected_of_not_mem (hnone .update o.id)]
      by_cases hpresent : c.objects.contains o.id = true
      · rw [if_pos hpresent] at hupdate ⊢
        obtain ⟨hupdate, o', hadmits⟩ := hupdate
        rw [hupdate]
        exact ⟨.nothing, h.put hid hadmits .update, hcalm⟩
      · rw [if_neg hpresent] at hupdate ⊢
        obtain ⟨⟨reason, hupdate⟩, hheld⟩ := hupdate
        rw [hupdate]
        exact ⟨.failed _ _, hheld ▸ h, hcalm⟩

end Mirrors

/-! ## Runs -/

variable {σ : Type} {server : Server σ} {held : σ → String → Option Resource}

/-- Several calls keep both sides the same, and let no failure become pending. -/
theorem Mirrors.after (hserves : Serves server held) {s : σ} {c : Cluster} {calls : List Call}
    (h : Mirrors (held s) c) (hcalm : c.failures = []) (hcalls : ∀ call ∈ calls, call.Admissible) :
    Mirrors (held (Call.after (Call.overApi server) s calls)) (Call.after Call.inMemory c calls) ∧
      (Call.after Call.inMemory c calls).failures = [] := by
  induction calls generalizing s c with
  | nil => exact ⟨h, hcalm⟩
  | cons call calls ih =>
      obtain ⟨hcall, hcalls⟩ := List.forall_mem_cons.1 hcalls
      obtain ⟨-, hstep, hcalm⟩ := h.step hserves hcalm hcall
      exact ih hstep hcalm hcalls

/-- **Agreement**: started from the same objects and without injected failures, the cluster over an API
and the one in memory hold the same objects after every part of a run, and answer the next call of it
the same. -/
theorem calls_agree (hserves : Serves server held) {s : σ} {c : Cluster}
    (hmirrors : Mirrors (held s) c) (hcalm : c.failures = []) {calls : List Call}
    (hcalls : ∀ call ∈ calls, call.Admissible) :
    ∀ before later, before ++ later = calls →
      Mirrors (held (Call.after (Call.overApi server) s before))
        (Call.after Call.inMemory c before) ∧
      ∀ call ∈ later.head?, Agrees call.operation call.id
        (call.overApi server (Call.after (Call.overApi server) s before)).1
        (call.inMemory (Call.after Call.inMemory c before)).1 := by
  rintro before later rfl
  obtain ⟨hafter, hcalm⟩ := hmirrors.after hserves hcalm fun call hcall =>
    hcalls call (List.mem_append_left later hcall)
  refine ⟨hafter, fun call hcall => ?_⟩
  have hmem : call ∈ later := List.mem_of_mem_head? hcall
  exact (hafter.step hserves hcalm (hcalls call (List.mem_append_right before hmem))).1

/-! ### A run -/

/-- A Service that has no address yet. -/
def addressless : Resource where
  metadata := { Metadata.empty with name := some "search", ns := some "logs" }
  content := .service (some ⟨none, some [⟨none, 9200, none, []⟩], none, none, []⟩) []

/-- A role that allows nothing. -/
def powerless : Resource where
  metadata := { Metadata.empty with name := some "reader" }
  content := .clusterRole (some []) []

/-- Creations, one of an object that is there, an update of one that is not, and deletions. -/
def errands : List Call :=
  [.get addressless.id, .create addressless, .create addressless, .update powerless,
   .create powerless, .update addressless, .get addressless.id, .delete powerless.id,
   .delete powerless.id, .get powerless.id]

/-- The identities of these calls are well-formed, and their objects survive their own texts. -/
theorem admissible_errands : ∀ call ∈ errands, call.Admissible := by
  have hname {s : String} (h : Text.isDnsSubdomain s = true) := Text.isDnsSubdomain_iff.1 h
  have hservice : addressless.id.WellFormed :=
    ⟨hname (by decide), fun _ => ⟨"logs", rfl, hname (by decide)⟩, nofun⟩
  have hrole : powerless.id.WellFormed := ⟨hname (by decide), nofun, fun _ => rfl⟩
  have hservice' : addressless.Conveyable :=
    Resource.conveyable_of_readAny? (j := addressless.write) (by decide +kernel) (by decide +kernel)
  have hrole' : powerless.Conveyable :=
    Resource.conveyable_of_readAny? (j := powerless.write) (by decide +kernel) (by decide +kernel)
  unfold errands
  simp only [List.forall_mem_cons]
  exact ⟨hservice, ⟨hservice, hservice'⟩, ⟨hservice, hservice'⟩, ⟨hrole, hrole'⟩,
    ⟨hrole, hrole'⟩, ⟨hservice, hservice'⟩, hservice, hrole, hrole, hrole,
    fun _ hcall => absurd hcall List.not_mem_nil⟩

theorem mirrors_empty : Mirrors Registry.empty.held .empty where
  same id _ := by rw [Registry.held_empty, Cluster.empty, Dict.find?_empty]
  keyed id _ o ho := by
    rw [Registry.held_empty] at ho
    contradiction

/-- The seventh call finds the Service on both sides. -/
theorem calls_agree_errands :
    Serves Registry.answer Registry.held ∧ Mirrors Registry.empty.held .empty ∧
      Cluster.empty.failures = [] ∧ (∀ call ∈ errands, call.Admissible) ∧
      Mirrors (Call.after (Call.overApi Registry.answer) .empty errands).held
        (Call.after Call.inMemory .empty errands) ∧
      ∃ o, (Call.overApi Registry.answer
          (Call.after (Call.overApi Registry.answer) .empty (errands.take 6))
          (.get addressless.id)).1 = .ok (some o) ∧ o.unassigned = addressless.unassigned := by
  have hagree := calls_agree Registry.serves mirrors_empty rfl admissible_errands
  refine ⟨Registry.serves, mirrors_empty, rfl, admissible_errands,
    (hagree errands [] (List.append_nil errands)).1, ?_⟩
  have hfind : (Call.after Call.inMemory .empty (errands.take 6)).objects.find? addressless.id
      = some (addressless.stamp 3) := by decide +kernel
  have hnone : (.get, addressless.id)
      ∉ (Call.after Call.inMemory .empty (errands.take 6)).failures := by decide +kernel
  have hseventh := (hagree (errands.take 6) (errands.drop 6) (List.take_append_drop 6 errands)).2
    (.get addressless.id) rfl
  rw [Call.inMemory, Cluster.get_of_not_mem hnone, hfind] at hseventh
  obtain ⟨o, ho, hsame⟩ := hseventh.exists_of_found
  exact ⟨o, ho, hsame⟩

end LogOperator
