import LogOperator.Proofs.Cluster.Log
import LogOperator.Proofs.Text.Lines
import LogOperator.Proofs.Text.Numerals

/-!
# LogOperator.Proofs.Cluster.Admission

What a cluster in memory assigns to the objects that are written to it: a version to every one, and an
address to a Service that has none.  Both are made of the revision of the write, and no two writes of a
run are at the same one:

* `assignedAddress_inj` — different revisions make different addresses;
* `Resource.address?_stamp` — a Service that was given an address can be reached;
* `Call.write?_cases` — a call writes at the next revision, or leaves the revision as it is;
* `Cluster.pairwise_writes` — the writes of a run are at increasing revisions;
* `Cluster.admission_of_run` — what follows for objects, versions and addresses.
-/

namespace LogOperator

/-! ## Addresses -/

/-- The parts of an address are separated by dots, and a number has no dot in it. -/
theorem assignedAddress_inj {m n : Nat} (h : assignedAddress m = assignedAddress n) : m = n := by
  have hchars (k : Nat) : (assignedAddress k).toList
      = "10.96.".toList ++ (Nat.toDigits 10 (k / 256) ++ '.' :: Nat.toDigits 10 (k % 256)) := by
    simp [assignedAddress]
  have hlist := congrArg String.toList h
  rw [hchars, hchars, List.append_cancel_left_eq] at hlist
  obtain ⟨hhigh, hlow⟩ := Text.append_cons_inj_of_not_mem_left (Text.not_mem_toDigits rfl _)
    (Text.not_mem_toDigits rfl _) hlist
  have hdiv : m / 256 = n / 256 := Text.toDigits_inj hhigh
  have hmod : m % 256 = n % 256 := Text.toDigits_inj hlow
  omega

/-- The addresses that the cluster assigns can be used. -/
theorem isUsableAddress_assignedAddress (n : Nat) :
    Resource.isUsableAddress (assignedAddress n) = true := by
  have hne (s : String) (hs : s.toList.head? ≠ some '1') : assignedAddress n ≠ s := by
    intro h
    apply hs
    rw [← h]
    simp [assignedAddress]
  simp only [Resource.isUsableAddress, Bool.and_eq_true, bne_iff_ne]
  exact ⟨hne "" (by decide), hne "None" (by decide)⟩

/-- The first port of a Service. -/
def ServiceSpec.firstPort? (spec : ServiceSpec) : Option Int :=
  (spec.ports.bind List.head?).map (·.port)

namespace Resource

/-- The specification of a Service. -/
def serviceSpec? (r : Resource) : Option ServiceSpec :=
  match r.content with
  | .service spec _ => spec
  | _ => none

/-- Only a Service has the specification of one. -/
theorem content_of_serviceSpec? {r : Resource} {spec : ServiceSpec}
    (h : r.serviceSpec? = some spec) : ∃ rest, r.content = .service (some spec) rest := by
  unfold serviceSpec? at h
  split at h
  · next rest hcontent => exact ⟨rest, hcontent.trans (by rw [h])⟩
  · contradiction

/-- The address that a Service has, if it has one. -/
def clusterIP? (r : Resource) : Option String :=
  r.serviceSpec?.bind (·.clusterIP)

/-- The version of an object, as a number. -/
def version? (r : Resource) : Option Nat :=
  r.metadata.resourceVersion.bind fun version => Text.numeral? 10 version.toList

/-- The version of a stamped object is the revision it was stamped with. -/
@[simp] theorem version?_stamp (n : Nat) (r : Resource) : (r.stamp n).version? = some n := by
  rw [version?, stamp, Option.bind_some, Nat.toList_repr, Text.numeral?_toDigits]

/-- A stamp gives an address to a Service that has none, and changes nothing else in it. -/
theorem serviceSpec?_stamp (n : Nat) (r : Resource) : (r.stamp n).serviceSpec? =
    r.serviceSpec?.map fun spec =>
      { spec with clusterIP := some (spec.clusterIP.getD (assignedAddress n)) } := by
  obtain ⟨m, content⟩ := r
  cases content with
  | service spec rest => cases spec <;> rfl
  | _ => rfl

/-- A Service that has no address is given that of the revision. -/
theorem clusterIP?_stamp {r : Resource} (h : r.clusterIP? = none) (n : Nat) :
    (r.stamp n).clusterIP? = r.serviceSpec?.map fun _ => assignedAddress n := by
  rw [clusterIP?] at h
  rw [clusterIP?, serviceSpec?_stamp]
  cases hspec : r.serviceSpec? with
  | none => rfl
  | some spec =>
      rw [hspec, Option.bind_some] at h
      simp [h]

/-- **A Service that was given an address can be reached** at its first port. -/
theorem address?_stamp {r : Resource} {spec : ServiceSpec} {port : Int}
    (hspec : r.serviceSpec? = some spec) (hip : spec.clusterIP = none)
    (hport : spec.firstPort? = some port) (hlow : 0 ≤ port) (hhigh : port ≤ 65535) (n : Nat) :
    (r.stamp n).address? = some (assignedAddress n, port.toNat.toUInt16) := by
  obtain ⟨rest, hcontent⟩ := content_of_serviceSpec? hspec
  obtain ⟨first, hfirst, rfl⟩ := Option.map_eq_some_iff.1 hport
  obtain ⟨ports, hports, hhead⟩ := Option.bind_eq_some_iff.1 hfirst
  have husable : (some (assignedAddress n)).filter isUsableAddress = some (assignedAddress n) :=
    Option.filter_some_pos (isUsableAddress_assignedAddress n)
  simp [address?, stamp, Content.assign, hcontent, hip, husable, hports, hhead, hlow, hhigh]

end Resource

/-! ## Writes -/

/-- An object that was written as asked, and what is stored under its identity then. -/
structure Write where
  asked : Resource
  stored : Option Resource

namespace Write

/-- The version that the object was given. -/
def version? (w : Write) : Option Nat :=
  w.stored.bind Resource.version?

/-- The address that a Service was given, if it had none. -/
def assigned? (w : Write) : Option String :=
  if w.asked.clusterIP? = none then w.stored.bind Resource.clusterIP? else none

/-- The object is stored with the fields that are assigned at a revision. -/
def IsAt (w : Write) (revision : Nat) : Prop :=
  w.stored = some (w.asked.stamp revision)

variable {w : Write} {n : Nat}

/-- A write at a revision has this revision as its version. -/
theorem IsAt.version?_eq (h : w.IsAt n) : w.version? = some n := by
  rw [version?, h, Option.bind_some, Resource.version?_stamp]

/-- And an address that it assigned is the one of this revision. -/
theorem IsAt.eq_of_assigned? {address : String} (h : w.IsAt n) (ha : w.assigned? = some address) :
    address = assignedAddress n := by
  obtain ⟨hnone, hstored⟩ := Option.ite_none_right_eq_some.1 ha
  rw [h, Option.bind_some, Resource.clusterIP?_stamp hnone] at hstored
  obtain ⟨-, -, rfl⟩ := Option.map_eq_some_iff.1 hstored
  rfl

end Write

/-- The object that a call asks to be written. -/
def Call.asked? : Call → Option Resource
  | .create o | .update o => some o
  | .get _ | .delete _ => none

/-- The write of a call that succeeded. -/
def Call.write? (c : Cluster) (call : Call) : Option Write :=
  match (call.inMemory c).1 with
  | .ok _ => call.asked?.map fun o => ⟨o, (call.inMemory c).2.objects.find? o.id⟩
  | .error _ => none

/-- **A call writes at the next revision**, or leaves the revision as it is. -/
theorem Call.write?_cases (c : Cluster) (call : Call) :
    (∃ w, call.write? c = some w ∧ w.IsAt (c.revision + 1) ∧
      (call.inMemory c).2.revision = c.revision + 1) ∨
    call.write? c = none ∧ (call.inMemory c).2.revision = c.revision := by
  have hend := call.ends_inMemory c
  unfold write?
  generalize call.inMemory c = answer at hend ⊢
  cases hend with
  | injected | occupied | vacant | found => exact .inr ⟨rfl, rfl⟩
  | created | updated => exact .inl ⟨_, rfl, Cluster.find?_write_self .., rfl⟩
  | deleted => exact .inr ⟨rfl, Cluster.revision_discard⟩

/-- Objects stay stored under their own identities. -/
theorem Cluster.Keyed.inMemory {c : Cluster} (hk : c.Keyed) (call : Call) :
    (call.inMemory c).2.Keyed := by
  have hend := call.ends_inMemory c
  generalize call.inMemory c = answer at hend
  cases hend with
  | injected => exact hk.spend
  | occupied | vacant | found => exact hk
  | created | updated => exact hk.write
  | deleted => exact hk.discard

/-! ## Runs -/

/-- What a cluster goes through: what its callers do, that an object is put there or removed from
outside, or that its log is cleared. -/
inductive Happening where
  | incident (incident : Incident)
  | seed (r : Resource)
  | evict (id : Id)
  | clearLog

namespace Cluster

variable {c : Cluster} {w w' : Write}

/-- The cluster after what it went through. -/
def undergo (c : Cluster) : Happening → Cluster
  | .incident incident => c.meet incident
  | .seed r => c.seed r
  | .evict id => c.evict id
  | .clearLog => c.clearLog

/-- The write that this is, if it is one. -/
def write? (c : Cluster) : Happening → Option Write
  | .incident (.call call) => call.write? c
  | _ => none

/-- The cluster after a run. -/
def undergoAll (c : Cluster) (run : List Happening) : Cluster :=
  run.foldl undergo c

/-- The writes of a run, in order. -/
def writes (c : Cluster) : List Happening → List Write
  | [] => []
  | happening :: run => (c.write? happening).toList ++ (c.undergo happening).writes run

/-- Nothing that happens puts an object under the identity of another. -/
theorem Keyed.undergo (hk : c.Keyed) (happening : Happening) : (c.undergo happening).Keyed := by
  cases happening with
  | incident incident =>
      cases incident with
      | call call => exact hk.inMemory call
      | failure op id => exact hk.injectFailure
  | seed r => exact hk.seed
  | evict id => exact hk.evict
  | clearLog => exact hk

/-- Nor does a whole run. -/
theorem Keyed.undergoAll (hk : c.Keyed) (run : List Happening) : (c.undergoAll run).Keyed := by
  induction run generalizing c with
  | nil => exact hk
  | cons happening run ih => exact ih (hk.undergo happening)

/-- The revision counts the writes. -/
theorem write?_cases (c : Cluster) (happening : Happening) :
    (∃ w, c.write? happening = some w ∧ w.IsAt (c.revision + 1) ∧
      (c.undergo happening).revision = c.revision + 1) ∨
    c.write? happening = none ∧ (c.undergo happening).revision = c.revision := by
  cases happening with
  | incident incident =>
      cases incident with
      | call call => exact call.write?_cases c
      | failure op id => exact .inr ⟨rfl, rfl⟩
  | seed | evict | clearLog => exact .inr ⟨rfl, rfl⟩

/-- The writes of a run are at revisions that are still to come. -/
theorem exists_isAt_of_mem_writes {run : List Happening} (h : w ∈ c.writes run) :
    ∃ n, c.revision < n ∧ w.IsAt n := by
  induction run generalizing c with
  | nil => contradiction
  | cons happening run ih =>
      rw [writes] at h
      rcases c.write?_cases happening with ⟨w', hw', hat, hrevision⟩ | ⟨hnone, hrevision⟩
      · rw [hw', Option.toList_some, List.singleton_append, List.mem_cons] at h
        rcases h with rfl | h
        · exact ⟨c.revision + 1, Nat.lt_succ_self _, hat⟩
        · obtain ⟨n, hlt, hn⟩ := ih h
          exact ⟨n, by omega, hn⟩
      · rw [hnone, Option.toList_none, List.nil_append] at h
        rw [← hrevision]
        exact ih h

/-- **Later writes are at greater revisions.** -/
theorem pairwise_writes (c : Cluster) (run : List Happening) :
    (c.writes run).Pairwise fun w w' => ∃ m n, m < n ∧ w.IsAt m ∧ w'.IsAt n := by
  induction run generalizing c with
  | nil => exact .nil
  | cons happening run ih =>
      rw [writes]
      rcases c.write?_cases happening with ⟨w, hw, hat, hrevision⟩ | ⟨hnone, -⟩
      · rw [hw, Option.toList_some, List.singleton_append, List.pairwise_cons]
        refine ⟨fun w' hw' => ?_, ih _⟩
        obtain ⟨n, hlt, hn⟩ := exists_isAt_of_mem_writes hw'
        exact ⟨c.revision + 1, n, by omega, hat, hn⟩
      · rw [hnone, Option.toList_none, List.nil_append]
        exact ih _

/-- No two writes of a run give the same address. -/
theorem nodup_assigned (c : Cluster) (run : List Happening) :
    ((c.writes run).filterMap Write.assigned?).Nodup := by
  refine (c.pairwise_writes run).filterMap _ ?_
  rintro w w' ⟨m, n, hlt, hm, hn⟩ address haddress address' haddress' heq
  rw [hm.eq_of_assigned? haddress, hn.eq_of_assigned? haddress'] at heq
  exact absurd (assignedAddress_inj heq) (Nat.ne_of_lt hlt)

/-- A Service that was given an address can be reached once it is stored. -/
theorem address?_of_mem_writes {run : List Happening} {spec : ServiceSpec} {port : Int}
    (h : w ∈ c.writes run) (hspec : w.asked.serviceSpec? = some spec) (hip : spec.clusterIP = none)
    (hport : spec.firstPort? = some port) (hlow : 0 ≤ port) (hhigh : port ≤ 65535) :
    ∃ stored address exposed, w.stored = some stored ∧
      stored.address? = some (address, exposed) ∧
      Resource.isUsableAddress address = true ∧ (exposed.toNat : Int) = port := by
  obtain ⟨n, -, hn⟩ := exists_isAt_of_mem_writes h
  refine ⟨_, _, _, hn, Resource.address?_stamp hspec hip hport hlow hhigh n,
    isUsableAddress_assignedAddress n, ?_⟩
  have hbound : port.toNat < UInt16.size := by rw [UInt16.size]; omega
  rw [Nat.toUInt16, UInt16.toNat_ofNat_of_lt' hbound]
  exact Int.toNat_of_nonneg hlow

/-- **What a cluster assigns.**  Over every run from the empty cluster, of calls, failures that are asked
for, and objects that are put there or removed from outside: every object is stored under its own
identity; every write gives the object a version, which is a greater number than all that were given
before; no two writes give a Service the same address; and a Service that is written without an address
is stored so that it can be reached at its first port, if that is the number of a port. -/
theorem admission_of_run (run : List Happening) :
    (empty.undergoAll run).Keyed ∧
    (∀ before w later, empty.writes run = before ++ w :: later →
      ∃ n, w.version? = some n ∧ ∀ w' ∈ before, ∃ m, w'.version? = some m ∧ m < n) ∧
    ((empty.writes run).filterMap Write.assigned?).Nodup ∧
    ∀ w ∈ empty.writes run, ∀ spec port, w.asked.serviceSpec? = some spec → spec.clusterIP = none →
      spec.firstPort? = some port → 0 ≤ port → port ≤ 65535 →
      ∃ stored address exposed, w.stored = some stored ∧
        stored.address? = some (address, exposed) ∧
        Resource.isUsableAddress address = true ∧ (exposed.toNat : Int) = port := by
  refine ⟨keyed_empty.undergoAll run, fun before w later hsplit => ?_, empty.nodup_assigned run,
    fun w hw spec port => address?_of_mem_writes hw⟩
  have hw : w ∈ empty.writes run := by simp [hsplit]
  obtain ⟨n, -, hn⟩ := exists_isAt_of_mem_writes hw
  refine ⟨n, hn.version?_eq, fun w' hw' => ?_⟩
  have hpairwise := empty.pairwise_writes run
  rw [hsplit, List.pairwise_append] at hpairwise
  obtain ⟨m, n', hlt, hm, hn'⟩ := hpairwise.2.2 w' hw' w List.mem_cons_self
  have heq : n' = n := Option.some.inj (hn'.version?_eq.symm.trans hn.version?_eq)
  exact ⟨m, hm.version?_eq, heq ▸ hlt⟩

/-! ### A run -/

/-- A Service without an address. -/
def outlet (name : String) (port : Int) : Resource where
  metadata := { Metadata.empty with name := some name, ns := some "logs" }
  content := .service (some ⟨none, some [⟨none, port, none, []⟩], none, none, []⟩) []

/-- A Service is created at the second attempt.  Another one is put there from outside, updated, removed
from outside and created again, which works only once. -/
def traffic : List Happening :=
  [.incident (.failure .create (outlet "search" 9200).id),
   .incident (.call (.create (outlet "search" 9200))),
   .incident (.call (.create (outlet "search" 9200))),
   .seed (outlet "dashboard" 5601),
   .incident (.call (.update (outlet "dashboard" 5601))),
   .evict (outlet "dashboard" 5601).id, .clearLog,
   .incident (.call (.create (outlet "dashboard" 5601))),
   .incident (.call (.create (outlet "dashboard" 5601)))]

/-- What is stored when a Service is written at a revision. -/
def outletAt (name : String) (port : Int) (revision : Nat) : Write :=
  ⟨outlet name port, some ((outlet name port).stamp revision)⟩

/-- Three of the five calls write, and the Service that is written twice is given an address each time. -/
theorem admission_of_run_traffic :
    (empty.undergoAll traffic).Keyed ∧
    (∃ n, (outletAt "dashboard" 5601 3).version? = some n ∧
      ∀ w' ∈ [outletAt "search" 9200 1, outletAt "dashboard" 5601 2],
        ∃ m, w'.version? = some m ∧ m < n) ∧
    ["10.96.0.1", "10.96.0.2", "10.96.0.3"].Nodup ∧
    ∃ stored address exposed, (outletAt "dashboard" 5601 3).stored = some stored ∧
      stored.address? = some (address, exposed) ∧
      Resource.isUsableAddress address = true ∧ (exposed.toNat : Int) = 5601 := by
  have hwrites : empty.writes traffic = [outletAt "search" 9200 1, outletAt "dashboard" 5601 2]
      ++ outletAt "dashboard" 5601 3 :: [] := by rfl
  obtain ⟨hkeyed, hversions, hnodup, haddress⟩ := admission_of_run traffic
  refine ⟨hkeyed, hversions _ _ _ hwrites, ?_, ?_⟩
  · rw [hwrites] at hnodup
    exact hnodup
  · exact haddress _ (by simp [hwrites]) _ _ rfl rfl rfl (by decide) (by decide)

end Cluster

end LogOperator
