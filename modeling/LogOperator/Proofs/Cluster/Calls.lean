import LogOperator.Cluster.Store

/-!
# LogOperator.Proofs.Cluster.Calls

What the calls of the operator do to a cluster.  A call whose failure is pending only uses that
failure up (`Cluster.spend`); any other one is a look-up, a `Cluster.write` or a `Cluster.discard`,
and of these three only the last two touch an object, namely the one they name:

* `find?_write`, `find?_discard` — what a change does to the object of an identity;
* `Follows` — the changes between two states of a cluster are all in its log;
* `Keyed` — every object is stored under its own identity, before and after every call;
* `Call` — a call as a value, with its answer by a cluster in memory (`Call.inMemory`).
-/

namespace LogOperator

/-! ## Stamped objects -/

@[simp] theorem Content.kind_assign (n : Nat) (content : Content) :
    (content.assign n).kind = content.kind := by
  cases content with
  | service spec rest => cases spec <;> rfl
  | _ => rfl

namespace Resource

@[simp] theorem kind_stamp (n : Nat) (r : Resource) : (r.stamp n).kind = r.kind :=
  Content.kind_assign n r.content

@[simp] theorem id_stamp (n : Nat) (r : Resource) : (r.stamp n).id = r.id := by
  simp only [id, kind_stamp]
  rfl

@[simp] theorem fingerprint?_stamp (n : Nat) (r : Resource) :
    (r.stamp n).fingerprint? = r.fingerprint? := rfl

end Resource

namespace Cluster

variable {c c' c'' : Cluster} {op : Operation} {id : Id}

/-! ## Calls as changes -/

/-- The cluster without a failure that was pending. -/
def spend (c : Cluster) (op : Operation) (id : Id) : Cluster :=
  { c with failures := c.failures.erase (op, id) }

/-- The cluster without an object; that it was there is logged. -/
def discard (c : Cluster) (id : Id) : Cluster :=
  if c.objects.contains id then
    { c with objects := c.objects.erase id, log := c.log ++ [⟨.delete, id⟩] }
  else c

/-- A pending failure wins over every other answer. -/
theorem unlessInjected_of_mem {α : Type} {reply : Reply α} (h : (op, id) ∈ c.failures) :
    c.unlessInjected op id reply = (.error (.store op id .injected), c.spend op id) :=
  if_pos h

/-- A call for which no failure is pending answers as it should. -/
theorem unlessInjected_of_not_mem {α : Type} {reply : Reply α} (h : (op, id) ∉ c.failures) :
    c.unlessInjected op id reply = reply :=
  if_neg h

/-- A look-up for which a failure is pending fails and uses it up. -/
theorem get_of_mem (h : (.get, id) ∈ c.failures) :
    c.get id = (.error (.store .get id .injected), c.spend .get id) :=
  unlessInjected_of_mem h

theorem get_of_not_mem (h : (.get, id) ∉ c.failures) : c.get id = (.ok (c.objects.find? id), c) :=
  unlessInjected_of_not_mem h

/-- Deleting never fails of itself. -/
theorem delete_eq (c : Cluster) (id : Id) :
    c.delete id = c.unlessInjected .delete id (.ok (), c.discard id) := by
  unfold delete discard
  split <;> rfl

/-! ## Why calls fail -/

/-- A call tells its own name when it fails. -/
theorem error_of_unlessInjected {α : Type} {reply : Reply α} {err : ReconcileError}
    (hreply : reply.1 = .error err → ∃ fault, err = .store op id fault)
    (h : (c.unlessInjected op id reply).1 = .error err) : ∃ fault, err = .store op id fault := by
  unfold unlessInjected at h
  split at h
  · exact ⟨.injected, (Except.error.inj h).symm⟩
  · exact hreply h

theorem error_of_create {r : Resource} {err : ReconcileError} (h : (c.create r).1 = .error err) :
    ∃ fault, err = .store .create r.id fault := by
  refine error_of_unlessInjected (fun hreply => ?_) h
  split at hreply
  · exact ⟨.alreadyExists, (Except.error.inj hreply).symm⟩
  · contradiction

theorem error_of_update {r : Resource} {err : ReconcileError} (h : (c.update r).1 = .error err) :
    ∃ fault, err = .store .update r.id fault := by
  refine error_of_unlessInjected (fun hreply => ?_) h
  split at hreply
  · contradiction
  · exact ⟨.notFound, (Except.error.inj hreply).symm⟩

theorem error_of_delete {err : ReconcileError} (h : (c.delete id).1 = .error err) :
    ∃ fault, err = .store .delete id fault := by
  rw [delete_eq] at h
  refine error_of_unlessInjected (fun hreply => ?_) h
  contradiction

/-! ## Objects that are there -/

/-- An identity is there exactly if something is found under it. -/
theorem contains_iff {d : Dict Id Resource} {id : Id} :
    d.contains id = true ↔ ∃ r, d.find? id = some r := by
  rw [Dict.contains, Option.isSome_iff_exists]

theorem contains_eq_false_iff {d : Dict Id Resource} {id : Id} :
    d.contains id = false ↔ d.find? id = none := by
  rw [Dict.contains, Option.isSome_eq_false_iff, Option.isNone_iff_eq_none]

/-! ## Objects after a change -/

@[simp] theorem log_spend : (c.spend op id).log = c.log := rfl

@[simp] theorem failures_discard : (c.discard id).failures = c.failures := by
  unfold discard
  split <;> rfl

@[simp] theorem revision_discard : (c.discard id).revision = c.revision := by
  unfold discard
  split <;> rfl

@[simp] theorem failures_seed {r : Resource} : (c.seed r).failures = c.failures := rfl

@[simp] theorem failures_injectFailure :
    (c.injectFailure op id).failures = c.failures ++ [(op, id)] := rfl

/-- What is seeded is found under its identity, and the rest as before. -/
theorem find?_seed (c : Cluster) (r : Resource) (id : Id) :
    (c.seed r).objects.find? id = if r.id = id then some r else c.objects.find? id :=
  Dict.find?_insert c.objects r.id id r

theorem find?_evict (c : Cluster) (gone id : Id) :
    (c.evict gone).objects.find? id = if gone = id then none else c.objects.find? id :=
  Dict.find?_erase ..

/-- What is written is found under its identity with a stamp, and the rest as before. -/
theorem find?_write (c : Cluster) (op : Operation) (r : Resource) (id : Id) :
    (c.write op r).objects.find? id
      = if r.id = id then some (r.stamp (c.revision + 1)) else c.objects.find? id :=
  Dict.find?_insert c.objects r.id id (r.stamp (c.revision + 1))

theorem find?_discard (c : Cluster) (id id' : Id) :
    (c.discard id).objects.find? id' = if id = id' then none else c.objects.find? id' := by
  unfold discard
  split
  · exact Dict.find?_erase c.objects id id'
  · next hc =>
    have hnone : c.objects.find? id = none := contains_eq_false_iff.1 (Bool.eq_false_iff.2 hc)
    by_cases h : id = id'
    · rw [if_pos h, ← h, hnone]
    · rw [if_neg h]

theorem find?_write_self (c : Cluster) (op : Operation) (r : Resource) :
    (c.write op r).objects.find? r.id = some (r.stamp (c.revision + 1)) := by
  rw [find?_write, if_pos rfl]

theorem find?_write_of_ne {r : Resource} (op : Operation) (h : r.id ≠ id) :
    (c.write op r).objects.find? id = c.objects.find? id := by
  rw [find?_write, if_neg h]

theorem find?_discard_self (c : Cluster) (id : Id) : (c.discard id).objects.find? id = none := by
  rw [find?_discard, if_pos rfl]

theorem find?_discard_of_ne {id' : Id} (h : id ≠ id') :
    (c.discard id).objects.find? id' = c.objects.find? id' := by
  rw [find?_discard, if_neg h]

/-- An object after a write was there before, or it is the one that was written. -/
theorem of_find?_write {r x : Resource} (h : (c.write op r).objects.find? id = some x) :
    c.objects.find? id = some x ∨ r.id = id ∧ x = r.stamp (c.revision + 1) := by
  rw [find?_write] at h
  split at h
  · next hid => exact .inr ⟨hid, (Option.some.inj h).symm⟩
  · exact .inl h

/-- What is found after a deletion was there before. -/
theorem of_find?_discard {id' : Id} {x : Resource}
    (h : (c.discard id').objects.find? id = some x) : c.objects.find? id = some x := by
  rw [find?_discard] at h
  split at h
  · contradiction
  · exact h

/-! ## The log -/

/-- The changes that were logged since an earlier state of the cluster. -/
def logSince (c' c : Cluster) : List Mutation :=
  c'.log.drop c.log.length

/-- The second state comes from the first by the listed changes: they are what was logged, and an
object that none of them names is as it was. -/
structure Follows (c c' : Cluster) (changes : List Mutation) : Prop where
  log : c'.log = c.log ++ changes
  frame : ∀ id, id ∉ changes.map (·.id) → c'.objects.find? id = c.objects.find? id

theorem Follows.refl (c : Cluster) : c.Follows c [] :=
  ⟨(List.append_nil c.log).symm, fun _ _ => rfl⟩

/-- A failure that is used up leaves no trace but in the failures that are pending. -/
theorem follows_spend (c : Cluster) (op : Operation) (id : Id) : c.Follows (c.spend op id) [] :=
  ⟨(List.append_nil c.log).symm, fun _ _ => rfl⟩

/-- The changes of two spans stand one after the other. -/
theorem Follows.trans {ms ms' : List Mutation} (h : c.Follows c' ms) (h' : c'.Follows c'' ms') :
    c.Follows c'' (ms ++ ms') where
  log := by rw [h'.log, h.log, List.append_assoc]
  frame id hid := by
    rw [List.map_append, List.mem_append, not_or] at hid
    rw [h'.frame id hid.2, h.frame id hid.1]

/-- The log since an earlier state consists of the changes in between. -/
theorem Follows.logSince_eq {ms : List Mutation} (h : c.Follows c' ms) : c'.logSince c = ms := by
  rw [logSince, h.log, List.drop_left]

/-- A write logs itself and changes its own identity only. -/
theorem follows_write (c : Cluster) (op : Operation) (r : Resource) :
    c.Follows (c.write op r) [⟨op, r.id⟩] where
  log := rfl
  frame id hid := by
    have hne : r.id ≠ id := fun h => hid (by simp [h])
    exact find?_write_of_ne op hne

/-- A deletion logs itself if there was something to delete. -/
theorem follows_discard (c : Cluster) (id : Id) :
    c.Follows (c.discard id) (if c.objects.contains id then [⟨.delete, id⟩] else []) := by
  by_cases hc : c.objects.contains id = true
  · rw [if_pos hc]
    refine ⟨by rw [discard, if_pos hc], fun id' hid => ?_⟩
    have hne : id ≠ id' := fun h => hid (by simp [h])
    exact find?_discard_of_ne hne
  · rw [if_neg hc]
    rw [discard, if_neg hc]
    exact Follows.refl c

/-! ## Identities -/

/-- Every object is stored under its own identity. -/
def Keyed (c : Cluster) : Prop :=
  ∀ id r, c.objects.find? id = some r → r.id = id

/-- The object that is stored under an identity, if there is one, has it. -/
def KeyedAt (c : Cluster) (id : Id) : Prop :=
  ∀ r, c.objects.find? id = some r → r.id = id

theorem keyed_empty : empty.Keyed := fun _ _ h => nomatch h

theorem Keyed.spend (h : c.Keyed) : (c.spend op id).Keyed := h

theorem Keyed.seed {r : Resource} (h : c.Keyed) : (c.seed r).Keyed := by
  intro id x hx
  rw [find?_seed] at hx
  split at hx
  · next hid =>
    cases hx
    exact hid
  · exact h id x hx

theorem Keyed.injectFailure (h : c.Keyed) : (c.injectFailure op id).Keyed := h

theorem Keyed.evict (h : c.Keyed) : (c.evict id).Keyed := by
  intro id' x hx
  rw [find?_evict] at hx
  split at hx
  · contradiction
  · exact h id' x hx

theorem Keyed.write {r : Resource} (h : c.Keyed) : (c.write op r).Keyed := by
  intro id x hx
  rcases of_find?_write hx with hx | ⟨hid, rfl⟩
  · exact h id x hx
  · rw [Resource.id_stamp, hid]

theorem Keyed.discard (h : c.Keyed) : (c.discard id).Keyed :=
  fun id' x hx => h id' x (of_find?_discard hx)

end Cluster

/-! ## Calls as values -/

/-- A call on the objects of a cluster. -/
inductive Call where
  | get (id : Id)
  | create (o : Resource)
  | update (o : Resource)
  | delete (id : Id)

namespace Call

/-- The operation that failures of the call name. -/
def operation : Call → Operation
  | get _ => .get
  | create _ => .create
  | update _ => .update
  | delete _ => .delete

/-- The identity of the object that is called on. -/
def id : Call → Id
  | get id | delete id => id
  | create o | update o => o.id

/-- What a call is answered with, and the state after it. -/
abbrev Answer (σ : Type) := Except ReconcileError (Option Resource) × σ

/-- The answer of a call that asks for no object. -/
def silent {σ : Type} (answer : Except ReconcileError Unit × σ) : Answer σ :=
  (answer.1.map fun _ => none, answer.2)

/-- The call on a cluster in memory. -/
def inMemory (c : Cluster) : Call → Answer Cluster
  | get id => c.get id
  | create o => silent (c.create o)
  | update o => silent (c.update o)
  | delete id => silent (c.delete id)

/-- The state after calls, one after the other. -/
def after {σ : Type} (step : σ → Call → Answer σ) (s : σ) (calls : List Call) : σ :=
  calls.foldl (fun s call => (step s call).2) s

end Call

end LogOperator
