import LogOperator.Proofs.Cluster.Calls
import Mathlib.Data.Finset.Basic
import Mathlib.Data.Finset.Dedup

/-!
# LogOperator.Proofs.Cluster.Log

What the log of a cluster tells.  A call either fails and leaves objects, log and revision as they were,
or it succeeds and everything that it changes is in the log:

* `Call.Ends` — all ways in which a call ends, of which a pending failure comes first;
* `Call.effects` — the change that a call takes effect with, if any;
* `Cluster.Tells` — changes that were logged between two states, and that lead from the identities and
  the revision of the first to those of the second;
* `log_tells_effects` — every call is atomic, and every run of calls is told by its log.
-/

namespace LogOperator

variable {c c' c'' : Cluster} {call : Call} {answer : Call.Answer Cluster} {ms : List Mutation}

/-! ## How calls end -/

namespace Call

/-- How a call on a cluster ends. -/
inductive Ends (c : Cluster) : Call → Answer Cluster → Prop where
  /-- A failure of the call was pending; it is used up. -/
  | injected {call : Call} (hf : (call.operation, call.id) ∈ c.failures) :
      Ends c call (.error (.store call.operation call.id .injected), c.spend call.operation call.id)
  | occupied {o : Resource} (hf : (.create, o.id) ∉ c.failures)
      (hc : c.objects.contains o.id = true) :
      Ends c (.create o) (.error (.store .create o.id .alreadyExists), c)
  | vacant {o : Resource} (hf : (.update, o.id) ∉ c.failures)
      (hc : c.objects.contains o.id = false) :
      Ends c (.update o) (.error (.store .update o.id .notFound), c)
  | found {id : Id} (hf : (.get, id) ∉ c.failures) :
      Ends c (.get id) (.ok (c.objects.find? id), c)
  | created {o : Resource} (hf : (.create, o.id) ∉ c.failures)
      (hc : c.objects.contains o.id = false) :
      Ends c (.create o) (.ok none, c.write .create o)
  | updated {o : Resource} (hf : (.update, o.id) ∉ c.failures)
      (hc : c.objects.contains o.id = true) :
      Ends c (.update o) (.ok none, c.write .update o)
  | deleted {id : Id} (hf : (.delete, id) ∉ c.failures) :
      Ends c (.delete id) (.ok none, c.discard id)

/-- **Every call ends** in one of these ways. -/
theorem ends_inMemory (c : Cluster) (call : Call) : Ends c call (call.inMemory c) := by
  by_cases hf : (call.operation, call.id) ∈ c.failures
  · have hanswer : call.inMemory c
        = (.error (.store call.operation call.id .injected),
            c.spend call.operation call.id) := by
      cases call with
      | get id => exact Cluster.get_of_mem hf
      | create o | update o | delete id =>
          exact congrArg silent (Cluster.unlessInjected_of_mem hf)
    rw [hanswer]
    exact .injected hf
  · cases call with
    | get id =>
        have hf : (.get, id) ∉ c.failures := hf
        rw [inMemory, Cluster.get_of_not_mem hf]
        exact .found hf
    | create o =>
        have hf : (.create, o.id) ∉ c.failures := hf
        rw [inMemory, Cluster.create, Cluster.unlessInjected_of_not_mem hf]
        split
        · next hc => exact .occupied hf hc
        · next hc => exact .created hf (Bool.eq_false_iff.2 hc)
    | update o =>
        have hf : (.update, o.id) ∉ c.failures := hf
        rw [inMemory, Cluster.update, Cluster.unlessInjected_of_not_mem hf]
        split
        · next hc => exact .updated hf hc
        · next hc => exact .vacant hf (Bool.eq_false_iff.2 hc)
    | delete id =>
        have hf : (.delete, id) ∉ c.failures := hf
        rw [inMemory, Cluster.delete_eq, Cluster.unlessInjected_of_not_mem hf]
        exact .deleted hf

namespace Ends

/-- **A pending failure wins** over success and over every other failure, and no call fails like that
without one. -/
theorem injected_iff (h : Ends c call answer) :
    answer.1 = .error (.store call.operation call.id .injected) ↔
      (call.operation, call.id) ∈ c.failures := by
  cases h with
  | injected hf => exact iff_of_true rfl hf
  | occupied hf | vacant hf | found hf | created hf | updated hf | deleted hf =>
      exact iff_of_false (by simp) hf

/-- **A call that fails changes nothing**, but that the failure it was asked for is used up. -/
theorem of_error {err : ReconcileError} (h : Ends c call answer) (herr : answer.1 = .error err) :
    answer.2.objects = c.objects ∧ answer.2.log = c.log ∧ answer.2.revision = c.revision := by
  cases h with
  | injected | occupied | vacant => exact ⟨rfl, rfl, rfl⟩
  | found | created | updated | deleted => contradiction

/-- A call that fails because a failure is pending uses it up, and no other. -/
theorem failures_of_mem (h : Ends c call answer)
    (hf : (call.operation, call.id) ∈ c.failures) :
    answer.2.failures = c.failures.erase (call.operation, call.id) := by
  cases h with
  | injected => rfl
  | occupied hn | vacant hn | found hn | created hn | updated hn | deleted hn =>
      exact absurd hf hn

/-- Any other call leaves the pending failures alone. -/
theorem failures_of_not_mem (h : Ends c call answer)
    (hf : (call.operation, call.id) ∉ c.failures) : answer.2.failures = c.failures := by
  cases h with
  | injected hm => exact absurd hm hf
  | occupied | vacant | found | created | updated => rfl
  | deleted => exact Cluster.failures_discard

end Ends

/-! ## Effects -/

/-- The change that a call makes if it succeeds. -/
def change? (c : Cluster) : Call → Option Mutation
  | get _ => none
  | create o => some ⟨.create, o.id⟩
  | update o => some ⟨.update, o.id⟩
  | delete id => if c.objects.contains id then some ⟨.delete, id⟩ else none

/-- The changes that a call takes effect with: its one change, or none if it fails. -/
def effects (c : Cluster) (call : Call) : List Mutation :=
  match (call.inMemory c).1 with
  | .ok _ => (call.change? c).toList
  | .error _ => []

end Call

/-! ## Identities -/

namespace Cluster

/-- The identities of the objects of a cluster. -/
def ids (c : Cluster) : Finset Id :=
  c.objects.keys.toFinset

theorem mem_ids {id : Id} : id ∈ c.ids ↔ c.objects.contains id = true := by
  rw [ids, List.mem_toFinset, Dict.keys, List.mem_map, contains_iff]
  constructor
  · rintro ⟨⟨_, r⟩, hmem, rfl⟩
    exact ⟨r, (Dict.find?_eq_some_iff _ _ _).2 hmem⟩
  · rintro ⟨r, hr⟩
    exact ⟨(id, r), (Dict.find?_eq_some_iff _ _ _).1 hr, rfl⟩

theorem not_mem_ids {id : Id} : id ∉ c.ids ↔ c.objects.contains id = false := by
  rw [mem_ids, Bool.not_eq_true]

theorem ids_write (c : Cluster) (op : Operation) (o : Resource) :
    (c.write op o).ids = insert o.id c.ids := by
  ext id
  rw [mem_ids, Finset.mem_insert, mem_ids, Dict.contains, Dict.contains, find?_write]
  by_cases h : o.id = id
  · simp [h]
  · simp [h, Ne.symm h]

theorem ids_discard (c : Cluster) (id : Id) : (c.discard id).ids = c.ids.erase id := by
  ext id'
  rw [mem_ids, Finset.mem_erase, mem_ids, Dict.contains, Dict.contains, find?_discard]
  by_cases h : id = id'
  · simp [h]
  · simp [h, Ne.symm h]

end Cluster

/-! ## Replaying a log -/

namespace Mutation

/-- The identities after a change: a created one was not there, an updated or deleted one was. -/
def replay? (ids : Finset Id) (m : Mutation) : Option (Finset Id) :=
  match m.operation with
  | .create => if m.id ∈ ids then none else some (insert m.id ids)
  | .update => if m.id ∈ ids then some ids else none
  | .delete => if m.id ∈ ids then some (ids.erase m.id) else none
  | .get => none

/-- The identities after several changes, one after the other. -/
def replayAll? (ids : Finset Id) (ms : List Mutation) : Option (Finset Id) :=
  ms.foldlM replay? ids

theorem replayAll?_singleton (ids : Finset Id) (m : Mutation) :
    replayAll? ids [m] = replay? ids m :=
  bind_pure (replay? ids m)

/-- Changes can be replayed one part after the other. -/
theorem replayAll?_append (ids : Finset Id) (ms ms' : List Mutation) :
    replayAll? ids (ms ++ ms') = (replayAll? ids ms).bind (replayAll? · ms') :=
  List.foldlM_append

/-- The change writes an object. -/
def isWrite (m : Mutation) : Bool :=
  m.operation = .create ∨ m.operation = .update

end Mutation

namespace Cluster

/-- The changes tell how the second state comes from the first: they are what was logged, they lead from
the identities of the one to those of the other, and the writes among them are the new revisions. -/
structure Tells (c c' : Cluster) (ms : List Mutation) : Prop extends Follows c c' ms where
  ids : Mutation.replayAll? c.ids ms = some c'.ids
  revision : c'.revision = c.revision + ms.countP Mutation.isWrite

/-- What changes nothing that is told needs no log. -/
theorem Tells.of_same (hobjects : c'.objects = c.objects) (hlog : c'.log = c.log)
    (hrevision : c'.revision = c.revision) : c.Tells c' [] where
  log := by rw [hlog, List.append_nil]
  frame _ _ := by rw [hobjects]
  ids := by
    rw [Cluster.ids, Cluster.ids, hobjects]
    rfl
  revision := hrevision

/-- What is told of two spans one after the other is told by both logs in a row. -/
theorem Tells.trans {ms' : List Mutation} (h : c.Tells c' ms) (h' : c'.Tells c'' ms') :
    c.Tells c'' (ms ++ ms') where
  toFollows := h.toFollows.trans h'.toFollows
  ids := by
    rw [Mutation.replayAll?_append, h.ids, Option.bind_some, h'.ids]
  revision := by rw [h'.revision, h.revision, List.countP_append, Nat.add_assoc]

theorem tells_create {o : Resource} (hc : c.objects.contains o.id = false) :
    c.Tells (c.write .create o) [⟨.create, o.id⟩] where
  toFollows := follows_write c .create o
  ids := by
    rw [Mutation.replayAll?_singleton, ids_write]
    exact if_neg (not_mem_ids.2 hc)
  revision := rfl

theorem tells_update {o : Resource} (hc : c.objects.contains o.id = true) :
    c.Tells (c.write .update o) [⟨.update, o.id⟩] where
  toFollows := follows_write c .update o
  ids := by
    rw [Mutation.replayAll?_singleton, ids_write, Finset.insert_eq_of_mem (mem_ids.2 hc)]
    exact if_pos (mem_ids.2 hc)
  revision := rfl

theorem tells_delete {id : Id} (hc : c.objects.contains id = true) :
    c.Tells (c.discard id) [⟨.delete, id⟩] where
  toFollows := by
    have hfollows := follows_discard c id
    rw [if_pos hc] at hfollows
    exact hfollows
  ids := by
    rw [Mutation.replayAll?_singleton, ids_discard]
    exact if_pos (mem_ids.2 hc)
  revision := by
    rw [discard, if_pos hc]
    rfl

end Cluster

/-- **The log tells what a call did**: its effects, and nothing else. -/
theorem Call.tells_effects (c : Cluster) (call : Call) :
    c.Tells (call.inMemory c).2 (call.effects c) := by
  have hend := ends_inMemory c call
  rw [effects]
  generalize call.inMemory c = answer at hend
  cases hend with
  | injected | occupied | vacant | found => exact .of_same rfl rfl rfl
  | created _ hc => exact Cluster.tells_create hc
  | updated _ hc => exact Cluster.tells_update hc
  | @deleted id =>
      by_cases hc : c.objects.contains id = true
      · rw [change?, if_pos hc]
        exact Cluster.tells_delete hc
      · rw [change?, if_neg hc, Cluster.discard, if_neg hc]
        exact .of_same rfl rfl rfl

/-! ## Runs -/

/-- What happens to a cluster: a call, or that a failure of one is asked for. -/
inductive Incident where
  | call (call : Call)
  | failure (op : Operation) (id : Id)

namespace Cluster

/-- The cluster after an incident. -/
def meet (c : Cluster) : Incident → Cluster
  | .call call => (call.inMemory c).2
  | .failure op id => c.injectFailure op id

/-- The changes that an incident takes effect with. -/
def effects (c : Cluster) : Incident → List Mutation
  | .call call => call.effects c
  | .failure .. => []

/-- The cluster after several incidents. -/
def meetAll (c : Cluster) (incidents : List Incident) : Cluster :=
  incidents.foldl meet c

/-- The changes that they take effect with, in order. -/
def allEffects (c : Cluster) : List Incident → List Mutation
  | [] => []
  | incident :: incidents => c.effects incident ++ (c.meet incident).allEffects incidents

/-- **The log tells every incident**, be it a call or a failure that is asked for. -/
theorem tells_meet (c : Cluster) (incident : Incident) :
    c.Tells (c.meet incident) (c.effects incident) := by
  cases incident with
  | call call => exact call.tells_effects c
  | failure op id => exact .of_same rfl rfl rfl

/-- And so it tells every run of them. -/
theorem tells_meetAll (c : Cluster) (incidents : List Incident) :
    c.Tells (c.meetAll incidents) (c.allEffects incidents) := by
  induction incidents generalizing c with
  | nil => exact .of_same rfl rfl rfl
  | cons incident incidents ih => exact (c.tells_meet incident).trans (ih (c.meet incident))

/-- **Calls are atomic, and the log tells all that they do.**  A call fails with the failure that was asked
for exactly if one of its operation and identity is pending, and of these the first is used up then; any
other answer leaves the pending failures alone.  A call that fails leaves objects, log and revision as
they were.  Over every run, whatever failures are asked for in between, the log grows by one entry for each
call that took effect; replayed on the identities before the run it gives those after it, and the revision
grows by the number of writes in it. -/
theorem log_tells_effects (c : Cluster) :
    (∀ call : Call,
      ((call.inMemory c).1 = .error (.store call.operation call.id .injected) ↔
        (call.operation, call.id) ∈ c.failures) ∧
      ((call.inMemory c).1 = .error (.store call.operation call.id .injected) →
        ∃ before later, c.failures = before ++ (call.operation, call.id) :: later ∧
          (call.operation, call.id) ∉ before ∧ (call.inMemory c).2.failures = before ++ later) ∧
      ((call.inMemory c).1 ≠ .error (.store call.operation call.id .injected) →
        (call.inMemory c).2.failures = c.failures) ∧
      ∀ err, (call.inMemory c).1 = .error err →
        (call.inMemory c).2.objects = c.objects ∧ (call.inMemory c).2.log = c.log ∧
        (call.inMemory c).2.revision = c.revision) ∧
    ∀ incidents, c.Tells (c.meetAll incidents) (c.allEffects incidents) := by
  refine ⟨fun call => ?_, c.tells_meetAll⟩
  have hend := call.ends_inMemory c
  refine ⟨hend.injected_iff, fun hinj => ?_, fun hne => ?_, fun err => hend.of_error⟩
  · have hf := hend.injected_iff.1 hinj
    obtain ⟨before, later, hbefore, hsplit, herase⟩ := List.exists_erase_eq hf
    exact ⟨before, later, hsplit, hbefore, (hend.failures_of_mem hf).trans herase⟩
  · exact hend.failures_of_not_mem fun hf => hne (hend.injected_iff.2 hf)

/-! ### A run -/

/-- A ConfigMap without data. -/
def notes : Resource where
  metadata := { Metadata.empty with name := some "notes", ns := some "logs" }
  content := .configMap none []

/-- A cluster that will fail to create the ConfigMap twice, and to look it up once. -/
def strained : Cluster :=
  ((empty.injectFailure .create notes.id).injectFailure .get notes.id).injectFailure .create notes.id

/-- It is created at the third attempt, updated at the second, deleted, and then it is not there. -/
def trials : List Incident :=
  [.call (.create notes), .failure .update notes.id, .call (.create notes), .call (.create notes),
   .call (.create notes), .call (.update notes), .call (.update notes), .call (.get notes.id),
   .call (.delete notes.id), .call (.delete notes.id), .call (.update notes)]

/-- Three of the ten calls take effect, and the first one uses up the first failure of a creation. -/
theorem log_tells_effects_strained :
    ((Call.create notes).inMemory strained).1 = .error (.store .create notes.id .injected) ∧
    (∃ before later, strained.failures = before ++ (.create, notes.id) :: later ∧
      (.create, notes.id) ∉ before ∧
      ((Call.create notes).inMemory strained).2.failures = before ++ later) ∧
    ((Call.create notes).inMemory strained).2.log = [] ∧
    ((Call.update notes).inMemory strained).1 ≠ .error (.store .update notes.id .injected) ∧
    ((Call.update notes).inMemory strained).2.failures = strained.failures ∧
    (strained.meetAll trials).log
      = [⟨.create, notes.id⟩, ⟨.update, notes.id⟩, ⟨.delete, notes.id⟩] ∧
    (strained.meetAll trials).ids = ∅ ∧ (strained.meetAll trials).revision = 2 := by
  obtain ⟨hcall, hrun⟩ := log_tells_effects strained
  obtain ⟨hpending, hspent, -, hsame⟩ := hcall (.create notes)
  obtain ⟨hupdate, -, hkept, -⟩ := hcall (.update notes)
  have hcreate := hpending.2 (by decide +kernel)
  have hdiffers := (not_congr hupdate).2 (by decide +kernel)
  have heffects : strained.allEffects trials
      = [⟨.create, notes.id⟩, ⟨.update, notes.id⟩, ⟨.delete, notes.id⟩] := by decide +kernel
  have htells := hrun trials
  rw [heffects] at htells
  exact ⟨hcreate, hspent hcreate, (hsame _ hcreate).2.1, hdiffers, hkept hdiffers, htells.log,
    (Option.some.inj (htells.ids.symm.trans (by decide +kernel))), htells.revision⟩

end Cluster

end LogOperator
