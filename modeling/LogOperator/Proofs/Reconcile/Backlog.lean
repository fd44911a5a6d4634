import LogOperator.Proofs.Reconcile.Run
import Mathlib.Algebra.Order.BigOperators.Group.List
import Mathlib.Algebra.Order.Group.Nat
import Mathlib.Algebra.Ring.Nat

/-!
# LogOperator.Proofs.Reconcile.Backlog

A measure of what is left to do.  A slot needs one action, or two if its workload is stale: one that
deletes the workload and one that creates it anew.  Slots interact in one way: updating the data of
a slot deletes the workload that mounts it, so that workload needs one action in any case
(`Cluster.doomed`).

* `Cluster.backlog`, `Cluster.pending` — the actions that a slot, or several, still need;
* `Wants.pending_perform_lt` — performing an action leaves less to do;
* `Wants.pending_le` — an action that fails, be it half done, leaves no more to do.
-/

namespace LogOperator

/-! ## Data that is mounted -/

/-- The slot whose data a workload mounts. -/
def Slot.mounted? : Slot → Option Slot
  | aggregatorWorkload => some aggregatorConfig
  | collectorWorkload => some collectorConfig
  | _ => none

/-- A workload mounts data exactly if the data names it as its dependent. -/
theorem Slot.mounted?_eq_some_iff {k l : Slot} : k.mounted? = some l ↔ l.dependent? = some k := by
  have h : ∀ k ∈ all, ∀ l ∈ all, k.mounted? = some l ↔ l.dependent? = some k := by decide
  exact h k k.mem_all l l.mem_all

/-- The number of actions that an action is the first of. -/
def Action.effort : Action → Nat
  | recreate _ => 2
  | create _ | updatePayload .. | delete _ => 1

/-- The action replaces data. -/
def Action.isUpdate : Action → Bool
  | updatePayload .. => true
  | _ => false

/-- Every action is some effort. -/
theorem Action.one_le_effort (a : Action) : 1 ≤ a.effort := by
  cases a <;> simp [effort]

/-- Two sums that differ in two summands only. -/
theorem sum_map_off_pair {α : Type} [DecidableEq α] {f g : α → Nat} {l : List α} {a b : α}
    (hl : l.Nodup) (ha : a ∈ l) (hb : b ∈ l) (hab : a ≠ b)
    (h : ∀ x ∈ l, x ≠ a → x ≠ b → f x = g x) :
    (l.map f).sum + (g a + g b) = (l.map g).sum + (f a + f b) := by
  have hb' : b ∈ l.erase a := (List.mem_erase_of_ne hab.symm).2 hb
  have hrest : ((l.erase a).erase b).map f = ((l.erase a).erase b).map g := by
    refine List.map_congr_left fun x hx => ?_
    rw [(hl.erase a).mem_erase_iff, hl.mem_erase_iff] at hx
    exact h x hx.2.2 hx.2.1 hx.1
  have hsum (f : α → Nat) : (l.map f).sum = f a + (f b + (((l.erase a).erase b).map f).sum) := by
    rw [List.sum_map_erase f hb', List.sum_map_erase f ha]
  rw [hsum f, hsum g, hrest]
  omega

namespace Cluster

variable {c c' : Cluster} {v : ValidPipeline} {images : Images} {e : Endpoint} {a : Action}
  {k l : Slot} {ks : List Slot} {reply : Reply Unit}

/-! ## The backlog of a slot -/

/-- The slot's workload mounts data that will be updated, which deletes the workload. -/
def doomed (c : Cluster) (v : ValidPipeline) (e : Endpoint) (images : Images) (k : Slot) : Bool :=
  k.mounted?.any fun l => (c.demand (l.entry v e images)).any Action.isUpdate

/-- The number of actions that a slot still needs. -/
def backlog (c : Cluster) (v : ValidPipeline) (e : Endpoint) (images : Images) (k : Slot) : Nat :=
  if c.doomed v e images k then 1
  else ((c.demand (k.entry v e images)).map Action.effort).getD 0

/-- What a slot calls for depends on its own object only. -/
theorem demand_entry_congr (h : c'.objects.find? (k.id v.ns) = c.objects.find? (k.id v.ns)) :
    c'.demand (k.entry v e images) = c.demand (k.entry v e images) :=
  demand_congr (by rw [Slot.id_entry, h])

/-- Whether a workload is doomed depends on the data that it mounts. -/
theorem doomed_congr (h : ∀ l : Slot, l.dependent? = some k →
    c'.objects.find? (l.id v.ns) = c.objects.find? (l.id v.ns)) :
    c'.doomed v e images k = c.doomed v e images k := by
  unfold doomed
  cases hm : k.mounted? with
  | none => rfl
  | some l =>
      rw [Option.any_some, Option.any_some,
        demand_entry_congr (h l (Slot.mounted?_eq_some_iff.1 hm))]

/-- A workload is not doomed while the data that it mounts is as desired. -/
theorem Keyed.doomed_eq_false (hk : c.Keyed)
    (h : ∀ l : Slot, l.dependent? = some k → c.Holds v e images l) :
    c.doomed v e images k = false := by
  unfold doomed
  cases hm : k.mounted? with
  | none => rfl
  | some l =>
      rw [Option.any_some,
        (hk.demand_entry_eq_none_iff l).2 (h l (Slot.mounted?_eq_some_iff.1 hm)), Option.any_none]

/-- A slot without an object calls for its creation, if for anything. -/
theorem Keyed.demand_of_missing (hk : c.Keyed) (h : c.objects.find? (k.id v.ns) = none)
    (hd : c.demand (k.entry v e images) = some a) : ∃ r, a = .create r := by
  cases hk.wants hd with
  | missing => exact ⟨_, rfl⟩
  | drifted _ ho | stale _ ho | disabled _ ho => simp [h] at ho

/-- A slot whose object is missing needs at most one action. -/
theorem Keyed.backlog_of_missing (hk : c.Keyed) (h : c.objects.find? (k.id v.ns) = none) :
    c.backlog v e images k ≤ 1 := by
  unfold backlog
  split
  · exact Nat.le_refl 1
  · cases hd : c.demand (k.entry v e images) with
    | none => exact Nat.zero_le 1
    | some a =>
        obtain ⟨r, rfl⟩ := hk.demand_of_missing h hd
        exact Nat.le_refl 1

/-- The most actions that a slot can need. -/
def effortBound (k : Slot) : Nat :=
  if k.kind.isWorkload then 2 else 1

/-- **The backlog of a slot is bounded** by the effort that its kind can be. -/
theorem Keyed.backlog_le (hk : c.Keyed) (v : ValidPipeline) (e : Endpoint) (images : Images)
    (k : Slot) : c.backlog v e images k ≤ effortBound k := by
  have hone : 1 ≤ effortBound k := by
    unfold effortBound
    split <;> omega
  unfold backlog
  split
  · exact hone
  · cases hd : c.demand (k.entry v e images) with
    | none => exact Nat.zero_le _
    | some a =>
        cases hk.wants hd with
        | missing | drifted | disabled => exact hone
        | stale _ _ hw =>
            rw [effortBound, if_pos hw]
            exact Nat.le_refl 2

/-- A slot that holds, and whose data does, is no backlog. -/
theorem Keyed.backlog_eq_zero (hk : c.Keyed) (hd : c.doomed v e images k = false)
    (h : c.Holds v e images k) : c.backlog v e images k = 0 := by
  rw [backlog, if_neg (by simp [hd]), (hk.demand_entry_eq_none_iff k).2 h]
  rfl

/-! ## The backlog after an action -/

namespace Wants

/-- An action does not touch the data that the workloads of other slots mount. -/
theorem doomed_off (h : c.Wants v e images k a) (ha : c.Applies a reply)
    (hd : k.dependent? ≠ some l) : reply.2.doomed v e images l = c.doomed v e images l := by
  refine doomed_congr fun j hj => h.frame ha ?_ fun hkj => ?_
  · rintro rfl
    exact hd hj
  · -- data does not depend on data
    have hw := (Slot.kind_of_dependent? hkj).2
    rw [(Slot.kind_of_dependent? hj).1] at hw
    contradiction

/-- Slots that the action does not concern need what they needed before. -/
theorem backlog_off (h : c.Wants v e images k a) (ha : c.Applies a reply) (hl : l ≠ k)
    (hd : k.dependent? ≠ some l) : reply.2.backlog v e images l = c.backlog v e images l := by
  rw [backlog, backlog, h.doomed_off ha hd, demand_entry_congr (h.frame ha hl hd)]

/-- The data that a slot's own workload mounts is as desired after its action, as it was before. -/
theorem not_doomed (h : c.Wants v e images k a) (hk : c.Keyed)
    (hb : ∀ l ∈ k.before, c.Holds v e images l) (ha : c.Applies a reply) :
    reply.2.doomed v e images k = false := by
  refine (ha.keyed hk).doomed_eq_false fun l hl => ?_
  refine (holds_congr (h.frame ha ?_ fun hkl => ?_)).2 (hb l (Slot.mem_before_of_dependent? hl))
  · exact (Slot.ne_of_dependent? hl).symm
  · have hw := (Slot.kind_of_dependent? hkl).2
    rw [(Slot.kind_of_dependent? hl).1] at hw
    contradiction

/-- An action that was performed was one of those that its slot needed. -/
theorem backlog_self (h : c.Wants v e images k a) (hk : c.Keyed)
    (hb : ∀ l ∈ k.before, c.Holds v e images l)
    (hf : ∀ call ∈ a.calls, call ∉ c.failures) :
    (c.perform a).backlog v e images k < c.backlog v e images k := by
  have ha : c.Applies a (.ok (), c.perform a) := .done hf
  have hk' : (c.perform a).Keyed := ha.keyed hk
  have hnow : c.backlog v e images k = a.effort := by
    have hd : c.doomed v e images k = false :=
      hk.doomed_eq_false fun l hl => hb l (Slot.mem_before_of_dependent? hl)
    rw [backlog, if_neg (by simp [hd]), h.demand hk]
    rfl
  rw [hnow]
  by_cases hr : a = .recreate (k.id v.ns)
  · have hle : (c.perform a).backlog v e images k ≤ 1 :=
      hk'.backlog_of_missing (h.missing_perform hr)
    have heffort : a.effort = 2 := by rw [hr]; rfl
    omega
  · rw [hk'.backlog_eq_zero (h.not_doomed hk hb ha) (h.holds_perform hr)]
    exact a.one_le_effort

/-- An update deletes the workload that mounts the data. -/
theorem doomed_of_update (h : c.Wants v e images k a) (hk : c.Keyed) (hu : a.isUpdate = true)
    (hl : k.dependent? = some l) : c.doomed v e images l = true := by
  rw [doomed, Slot.mounted?_eq_some_iff.2 hl, Option.any_some, h.demand hk, Option.any_some, hu]

/-- An action of a slot that is no update leaves the workload that mounts its data alone, and does not
make its deletion necessary. -/
theorem dependent_of_not_update (h : c.Wants v e images k a) (hk : c.Keyed)
    (ha : c.Applies a (.ok (), c.perform a)) (hu : a.isUpdate = false)
    (hl : k.dependent? = some l) :
    c.doomed v e images l = false ∧ (c.perform a).doomed v e images l = false ∧
      (c.perform a).objects.find? (l.id v.ns) = c.objects.find? (l.id v.ns) := by
  have hr : a ≠ .recreate (k.id v.ns) := by
    rintro rfl
    cases h with
    | stale _ _ hw =>
        rw [(Slot.kind_of_dependent? hl).1] at hw
        contradiction
  refine ⟨?_, ?_, ha.frame ?_ ?_⟩
  · rw [doomed, Slot.mounted?_eq_some_iff.2 hl, Option.any_some, h.demand hk, Option.any_some, hu]
  · rw [doomed, Slot.mounted?_eq_some_iff.2 hl, Option.any_some,
      ((ha.keyed hk).demand_entry_eq_none_iff k).2 (h.holds_perform hr), Option.any_none]
  · rw [h.target]
    exact Slot.id_ne (Slot.ne_of_dependent? hl).symm
  · cases a with
    | updatePayload => contradiction
    | create | delete | recreate => simp [Action.dependent?]

/-- An update removes the workload that mounts the data. -/
theorem missing_dependent (h : c.Wants v e images k a) (hu : a.isUpdate = true)
    (hl : k.dependent? = some l) : (c.perform a).objects.find? (l.id v.ns) = none := by
  refine find?_perform_removed ?_
  cases h with
  | drifted => simp [Action.removed?, hl]
  | missing | stale | disabled => contradiction

/-- A workload needs no more once the data that it mounts was dealt with. -/
theorem backlog_dependent (h : c.Wants v e images k a) (hk : c.Keyed)
    (hl : k.dependent? = some l) (hf : ∀ call ∈ a.calls, call ∉ c.failures) :
    (c.perform a).backlog v e images l ≤ c.backlog v e images l := by
  have ha : c.Applies a (.ok (), c.perform a) := .done hf
  cases hu : a.isUpdate with
  | true =>
      rw [backlog.eq_def c, if_pos (h.doomed_of_update hk hu hl)]
      exact (ha.keyed hk).backlog_of_missing (h.missing_dependent hu hl)
  | false =>
      obtain ⟨hd, hd', hfind⟩ := h.dependent_of_not_update hk ha hu hl
      rw [backlog, backlog, hd, hd', demand_entry_congr hfind]

end Wants

/-! ## The backlog of several slots -/

/-- The number of actions that several slots still need. -/
def pending (c : Cluster) (v : ValidPipeline) (e : Endpoint) (images : Images) (ks : List Slot) :
    Nat :=
  (ks.map (c.backlog v e images)).sum

/-- So the backlog of several slots is bounded. -/
theorem Keyed.pending_le (hk : c.Keyed) (v : ValidPipeline) (e : Endpoint) (images : Images)
    (ks : List Slot) :
    c.pending v e images ks ≤ (ks.map effortBound).sum :=
  List.sum_le_sum fun k _ => hk.backlog_le v e images k

/-- Nothing is left to do for slots that hold together with the data that they mount. -/
theorem Keyed.pending_eq_zero (hk : c.Keyed) (h : ∀ k ∈ ks, c.Holds v e images k)
    (hm : ∀ k ∈ ks, ∀ l : Slot, l.dependent? = some k → l ∈ ks) : c.pending v e images ks = 0 := by
  have hzero : ∀ k ∈ ks, c.backlog v e images k = 0 := fun k hks =>
    hk.backlog_eq_zero (hk.doomed_eq_false fun l hl => h l (hm k hks l hl)) (h k hks)
  rw [pending, List.map_congr_left hzero]
  simp

/-- **Performing an action leaves less to do.** -/
theorem Wants.pending_perform_lt (h : c.Wants v e images k a) (hk : c.Keyed) (hks : k ∈ ks)
    (hb : ∀ l ∈ k.before, c.Holds v e images l) (hf : ∀ call ∈ a.calls, call ∉ c.failures) :
    (c.perform a).pending v e images ks < c.pending v e images ks := by
  have hself := h.backlog_self hk hb hf
  refine List.sum_lt_sum _ _ (fun l _ => ?_) ⟨k, hks, hself⟩
  by_cases hlk : l = k
  · rw [hlk]
    exact Nat.le_of_lt hself
  · by_cases hd : k.dependent? = some l
    · exact h.backlog_dependent hk hd hf
    · exact Nat.le_of_eq (h.backlog_off (.done hf) hlk hd)

/-- **An action that fails leaves no more to do**, even if it was carried out by half: the update
was one of two actions for data and workload, and the workload needs two at most. -/
theorem Wants.pending_le (h : c.Wants v e images k a) (hk : c.Keyed) (hnodup : ks.Nodup)
    (hks : k ∈ ks) (hdep : ∀ l, k.dependent? = some l → l ∈ ks) {err : ReconcileError}
    (ha : c.Applies a reply) (herr : reply.1 = .error err) :
    reply.2.pending v e images ks ≤ c.pending v e images ks := by
  cases ha with
  | refused => exact Nat.le_refl _
  | done => contradiction
  | @halved r dependent hu hf =>
      have ha : c.Applies (.updatePayload r (some dependent)) _ := .halved hu hf
      have hk' := ha.keyed hk
      obtain ⟨l, hl, -⟩ := h.dependent? rfl
      have hkind := (Slot.kind_of_dependent? hl).1
      have hnone : ∀ j : Slot, j.dependent? ≠ some k := fun j hj => by
        have hw := (Slot.kind_of_dependent? hj).2
        rw [hkind] at hw
        contradiction
      have hsum := sum_map_off_pair
        (f := ((c.write .update r).spend .delete dependent).backlog v e images)
        (g := c.backlog v e images) hnodup hks (hdep l hl) (Slot.ne_of_dependent? hl).symm
        fun j _ hjk hjl => h.backlog_off ha hjk fun hkj => hjl (Option.some.inj (hkj.symm.trans hl))
      have hself : c.backlog v e images k = 1 := by
        have hd : c.doomed v e images k = false :=
          hk.doomed_eq_false fun j hj => absurd hj (hnone j)
        rw [backlog, if_neg (by simp [hd]), h.demand hk]
        rfl
      have hself' : ((c.write .update r).spend .delete dependent).backlog v e images k = 0 := by
        refine hk'.backlog_eq_zero (hk'.doomed_eq_false fun j hj => absurd hj (hnone j)) ?_
        refine h.holds_written rfl (n := c.revision + 1) ?_
        have hid : r.id = k.id v.ns := h.target
        rw [← hid]
        exact find?_write_self c .update r
      have hother : c.backlog v e images l = 1 := by
        rw [backlog, if_pos (h.doomed_of_update hk rfl hl)]
      have hother' : ((c.write .update r).spend .delete dependent).backlog v e images l ≤ 2 := by
        have hle := hk'.backlog_le v e images l
        rw [effortBound, if_pos (Slot.kind_of_dependent? hl).2] at hle
        exact hle
      show (ks.map (((c.write .update r).spend .delete dependent).backlog v e images)).sum
        ≤ (ks.map (c.backlog v e images)).sum
      omega

end Cluster

end LogOperator
