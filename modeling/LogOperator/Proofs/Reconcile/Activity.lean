import LogOperator.Proofs.Reconcile.Rejection

/-!
# LogOperator.Proofs.Reconcile.Activity

The loop among other things that happen: time passes, others change the pipeline and the cluster,
and the loop may be stopped, before it runs, during a turn, while it waits, or just when a wait ends.
What it does is a matter of steps (`Activity.Step`), which are noted in a log (`Activity.Unfolds`):

* `Operator.requeueAfter_once` — which delay an outcome calls for (`Outcome.wait`);
* `Operator.once_with_stopped` — a turn neither heeds nor changes the stop signal;
* `Operator.Consistent.step` — a step keeps the log true to where the loop is, and notes nothing that
  what was noted before does not justify (`Operator.Justified`);
* `Operator.exists_realises` — a run on a clock is one way in which the steps can go;
* `Operator.schedule_kept` — the schedule of the loop, for every course of events.
-/

namespace LogOperator

/-! ## Turns -/

/-- The delay that is due after an outcome, by the settings of passes and those of the loop. -/
def Outcome.wait (passes loop : Timing) : Outcome → Nat
  | reconciled r => if r.action.isSome then passes.change else passes.resync
  | missing | rejected | skipped => loop.resync
  | failed _ => loop.error

/-- A pass asks for the delay that is due after it. -/
theorem Cluster.requeueAfter_of_reconcile {c : Cluster} {s : Settings} {p : Pipeline} {r : PassResult}
    (h : (c.reconcile s p).1 = .ok r) :
    r.requeueAfter = if r.action.isSome then s.timing.change else s.timing.resync := by
  cases hv : p.validate with
  | error violations =>
      rw [reconcile_of_invalid hv] at h
      contradiction
  | ok v =>
      have hcourse := course_reconcile hv s c
      generalize c.reconcile s p = reply at h hcourse
      cases hcourse with
      | unread | unavailable => contradiction
      | settled =>
          cases h
          rfl
      | @foundation _ _ a | @consumer _ _ _ _ a =>
          cases happly : (c.apply a).1 with
          | error err =>
              rw [happly] at h
              contradiction
          | ok =>
              rw [happly] at h
              cases h
              rfl

namespace Operator

/-- **The delay of a turn** is the one that is due after its outcome. -/
theorem requeueAfter_once (o : Operator) (t : Timing) :
    o.once.1.requeueAfter t = o.once.1.wait o.settings.timing t := by
  have hturn := o.comesTo_once
  generalize o.once.1 = outcome at hturn
  generalize o.once.2.loop.rejected = memory at hturn
  cases hturn with
  | reconciled _ _ hr => exact Cluster.requeueAfter_of_reconcile hr
  | unfetched | missing | skipped | rejected | failed => rfl

/-- A turn with a pipeline neither heeds nor changes the stop signal. -/
theorem turn_with_stopped (o : Operator) (p : Pipeline) : ∃ x memory c, ∀ stopped : Bool,
    { o with loop := ⟨o.loop.rejected, stopped⟩ }.turn p =
      (x, { o with loop := ⟨memory, stopped⟩, cluster := c }) := by
  by_cases hm : o.loop.rejected = some p.spec
  · exact ⟨.skipped, o.loop.rejected, o.cluster, fun _ => if_pos hm⟩
  · simp only [turn, if_neg hm, pass]
    cases o.cluster.reconcile o.settings p with
    | mk answer c =>
        cases answer with
        | ok r => exact ⟨.reconciled r, none, c, fun _ => rfl⟩
        | error err => cases err <;> exact ⟨_, _, c, fun _ => rfl⟩

/-- **A turn neither heeds nor changes the stop signal.** -/
theorem once_with_stopped (o : Operator) : ∃ x source memory c, ∀ stopped : Bool,
    { o with loop := ⟨o.loop.rejected, stopped⟩ }.once =
      (x, ⟨o.settings, source, ⟨memory, stopped⟩, c⟩) := by
  simp only [once]
  cases o.source.fetch with
  | mk fetched source =>
      cases fetched with
      | error err => exact ⟨_, source, _, _, fun _ => rfl⟩
      | ok found =>
          cases found with
          | none => exact ⟨_, source, _, _, fun _ => rfl⟩
          | some p =>
              obtain ⟨x, memory, c, hturn⟩ := turn_with_stopped { o with source := source } p
              exact ⟨x, source, memory, c, hturn⟩

/-- A stopped loop completes its turn as if it had not been stopped. -/
theorem once_stop (o : Operator) : o.stop.once = (o.once.1, o.once.2.stop) := by
  obtain ⟨x, source, memory, c, hturn⟩ := o.once_with_stopped
  have honce : o.once = _ := hturn o.loop.stopped
  have hstop : o.stop.once = _ := hturn true
  rw [honce, hstop]
  rfl

/-- A turn does not stop the loop. -/
theorem stopped_once (o : Operator) : o.once.2.loop.stopped = o.loop.stopped := by
  obtain ⟨x, source, memory, c, hturn⟩ := o.once_with_stopped
  have honce : o.once = _ := hturn o.loop.stopped
  rw [honce]

/-! ## Steps -/

/-- Where a loop is. -/
inductive Stage where
  /-- It does not run. -/
  | idle
  /-- It is in a turn, whose fetch has begun. -/
  | turning
  /-- It waits until a moment. -/
  | waiting (wake : Nat)

/-- A loop at a moment. -/
structure Activity where
  operator : Operator
  stage : Stage
  now : Nat
  /-- The loop was stopped, and has not been told of it since. -/
  signalled : Bool

/-- What is noted of a loop. -/
inductive Notice where
  | started
  | fetched
  | completed (outcome : Outcome)
  | returned
  | stopped

/-- The loop was stopped, which is no doing of its own. -/
def Notice.isStop : Notice → Bool
  | stopped => true
  | _ => false

/-- What a turn came to that is completed. -/
def Notice.outcome? : Notice → Option Outcome
  | completed x => some x
  | _ => none

/-- A turn begins. -/
def Notice.isFetch : Notice → Bool
  | fetched => true
  | _ => false

namespace Activity

/-- The loop looks whether it was stopped: it returns, or it begins a turn with a fetch. -/
def enter (a : Activity) : Notice × Activity :=
  if a.operator.loop.stopped then (.returned, { a with stage := .idle })
  else (.fetched, { a with stage := .turning })

/-- A loop that was stopped returns before it fetches. -/
theorem enter_of_stopped {a : Activity} (h : a.operator.loop.stopped = true) :
    a.enter = (.returned, { a with stage := .idle }) :=
  if_pos h

theorem enter_of_running {a : Activity} (h : a.operator.loop.stopped = false) :
    a.enter = (.fetched, { a with stage := .turning }) :=
  if_neg (by simp [h])

/-- The time may go by that long.  A wait does not last longer than it has to. -/
def Lets (a : Activity) (time : Nat) : Prop :=
  match a.stage with
  | .waiting wake => a.signalled = false ∧ a.now + time ≤ wake
  | _ => True

/-- What can happen next, and what is noted of it.  The delays of the loop are given, and how many
moments there are to a unit of them. -/
inductive Step (loop : Timing) (unit : Nat) : Activity → List Notice → Activity → Prop where
  /-- The loop is run. -/
  | run {a : Activity} (h : a.stage = .idle) : Step loop unit a [.started, a.enter.1] a.enter.2
  /-- The loop is stopped from outside. -/
  | stop (a : Activity) :
      Step loop unit a [.stopped] { a with operator := a.operator.stop, signalled := true }
  | elapse {a : Activity} {time : Nat} (h : a.Lets time) :
      Step loop unit a [] { a with now := a.now + time }
  /-- A turn ends, in whatever circumstances it took place. -/
  | complete {a : Activity} (w : Circumstances) (h : a.stage = .turning) :
      Step loop unit a [.completed (a.operator.meets w).once.1]
        { a with
          operator := (a.operator.meets w).once.2
          stage := .waiting (a.now + unit * (a.operator.meets w).once.1.requeueAfter loop) }
  /-- A wait is over. -/
  | wake {a : Activity} (h : a.stage = .waiting a.now) : Step loop unit a [a.enter.1] a.enter.2
  /-- A waiting loop is told that it was stopped.  At the end of a wait, this or the end may come
  first. -/
  | tell {a : Activity} {wake : Nat} (h : a.stage = .waiting wake) (hs : a.signalled = true) :
      Step loop unit a [{ a with signalled := false }.enter.1] { a with signalled := false }.enter.2

namespace Step

variable {loop : Timing} {unit wake : Nat} {a : Activity}

/-- Run once more, a stopped loop returns at once. -/
theorem run_of_stopped (h : a.stage = .idle) (hs : a.operator.loop.stopped = true) :
    Step loop unit a [.started, .returned] { a with stage := .idle } := by
  have hstep : Step loop unit a [.started, a.enter.1] a.enter.2 := .run h
  rwa [enter_of_stopped hs] at hstep

theorem run_of_running (h : a.stage = .idle) (hs : a.operator.loop.stopped = false) :
    Step loop unit a [.started, .fetched] { a with stage := .turning } := by
  have hstep : Step loop unit a [.started, a.enter.1] a.enter.2 := .run h
  rwa [enter_of_running hs] at hstep

/-- When its wait is over, the loop fetches again. -/
theorem wake_of_running (h : a.stage = .waiting a.now) (hs : a.operator.loop.stopped = false) :
    Step loop unit a [.fetched] { a with stage := .turning } := by
  have hstep : Step loop unit a [a.enter.1] a.enter.2 := .wake h
  rwa [enter_of_running hs] at hstep

/-- A waiting loop that hears of the stop returns. -/
theorem tell_of_stopped (h : a.stage = .waiting wake) (hsignal : a.signalled = true)
    (hs : a.operator.loop.stopped = true) :
    Step loop unit a [.returned] { a with stage := .idle, signalled := false } := by
  have hstep : Step loop unit a [{ a with signalled := false }.enter.1]
      { a with signalled := false }.enter.2 := .tell h hsignal
  rwa [enter_of_stopped (a := { a with signalled := false }) hs] at hstep

end Step

/-- Steps lead from one activity to another one, and this is what is noted, each at its moment. -/
inductive Unfolds (loop : Timing) (unit : Nat) (a : Activity) :
    List (Nat × Notice) → Activity → Prop where
  | refl : Unfolds loop unit a [] a
  | step {log : List (Nat × Notice)} {ns : List Notice} {b c : Activity}
      (h : Unfolds loop unit a log b) (hs : Step loop unit b ns c) :
      Unfolds loop unit a (log ++ ns.map (b.now, ·)) c

/-- A step in front of steps makes steps. -/
theorem Unfolds.head {loop : Timing} {unit : Nat} {a b c : Activity} {ns : List Notice}
    {log : List (Nat × Notice)} (h : Unfolds loop unit b log c) (hs : Step loop unit a ns b) :
    Unfolds loop unit a (ns.map (a.now, ·) ++ log) c := by
  induction h with
  | refl =>
      rw [List.append_nil]
      exact .step .refl hs
  | step _ hlast ih =>
      rw [← List.append_assoc]
      exact ih.step hlast

end Activity

/-! ## Logs -/

variable {passes loop : Timing} {unit : Nat} {log : List (Nat × Notice)} {a b : Activity}
  {m : Nat} {n : Notice}

/-- What the loop did last. -/
def latest (log : List (Nat × Notice)) : Option (Nat × Notice) :=
  (log.filter fun e => !e.2.isStop).getLast?

/-- The loop was stopped. -/
def wasStopped (log : List (Nat × Notice)) : Bool :=
  log.any (·.2.isStop)

/-- The latest notice is the last that is no stop. -/
@[simp] theorem latest_concat :
    latest (log ++ [(m, n)]) = if n.isStop then latest log else some (m, n) := by
  cases h : n.isStop <;> simp [latest, h]

/-- A loop was stopped if some notice says so. -/
@[simp] theorem wasStopped_concat : wasStopped (log ++ [(m, n)]) = (wasStopped log || n.isStop) := by
  simp [wasStopped]

/-- What may be noted of a loop after a log: the loop is run again only after it returned; a turn
begins right when the loop is run, or exactly one delay after the end of the last turn, and never once
the loop was stopped; a turn that has begun is completed; the loop returns only because it was stopped,
right when it is run or in the wait after a turn.  It may be stopped at any time. -/
inductive Justified (passes loop : Timing) (unit : Nat) (log : List (Nat × Notice)) :
    Nat → Notice → Prop where
  | stopped {m : Nat} : Justified passes loop unit log m .stopped
  | started {m : Nat} (h : latest log = none) : Justified passes loop unit log m .started
  | restarted {m m' : Nat} (h : latest log = some (m', .returned)) :
      Justified passes loop unit log m .started
  | first {m : Nat} (hs : wasStopped log = false) (h : latest log = some (m, .started)) :
      Justified passes loop unit log m .fetched
  | next {m : Nat} {x : Outcome} (hs : wasStopped log = false)
      (h : latest log = some (m, .completed x)) :
      Justified passes loop unit log (m + unit * x.wait passes loop) .fetched
  | completed {m m' : Nat} {x : Outcome} (h : latest log = some (m', .fetched)) :
      Justified passes loop unit log m (.completed x)
  | refused {m : Nat} (hs : wasStopped log = true) (h : latest log = some (m, .started)) :
      Justified passes loop unit log m .returned
  | interrupted {m m' : Nat} {x : Outcome} (hs : wasStopped log = true)
      (h : latest log = some (m', .completed x)) (hm : m ≤ m' + unit * x.wait passes loop) :
      Justified passes loop unit log m .returned

/-- All that is noted is justified by what was noted before. -/
def Kept (passes loop : Timing) (unit : Nat) (log : List (Nat × Notice)) : Prop :=
  ∀ before m n after, log = before ++ (m, n) :: after → Justified passes loop unit before m n

/-- A log that was kept is kept with one more notice, if the notice is justified. -/
theorem Kept.concat (h : Kept passes loop unit log) (hj : Justified passes loop unit log m n) :
    Kept passes loop unit (log ++ [(m, n)]) := by
  intro before m' n' after heq
  obtain rfl | ⟨after, e, rfl⟩ := List.eq_nil_or_concat' after
  · obtain ⟨hlog, hlast⟩ := List.append_inj' heq rfl
    obtain ⟨hm, hn⟩ := Prod.mk.inj (List.singleton_injective hlast)
    rwa [← hlog, ← hm, ← hn]
  · rw [← List.cons_append, ← List.append_assoc] at heq
    obtain ⟨hlog, -⟩ := List.append_inj' heq rfl
    exact h _ _ _ _ hlog

/-- The log was kept in order up to the moment of an activity, and tells whether the loop was stopped. -/
structure Recorded (passes loop : Timing) (unit : Nat) (log : List (Nat × Notice)) (a : Activity) :
    Prop where
  kept : Kept passes loop unit log
  ordered : log.Pairwise fun e f => e.1 ≤ f.1
  past : ∀ e ∈ log, e.1 ≤ a.now
  timing : a.operator.settings.timing = passes
  stopped : a.operator.loop.stopped = wasStopped log

/-- What is justified may be noted. -/
theorem Recorded.note (h : Recorded passes loop unit log a)
    (hj : Justified passes loop unit log a.now n) (hnow : b.now = a.now)
    (htiming : b.operator.settings = a.operator.settings)
    (hstopped : b.operator.loop.stopped = (a.operator.loop.stopped || n.isStop)) :
    Recorded passes loop unit (log ++ [(a.now, n)]) b where
  kept := h.kept.concat hj
  ordered := by
    refine List.pairwise_append.2 ⟨h.ordered, List.pairwise_singleton _ _, fun e he f hf => ?_⟩
    rw [List.mem_singleton.1 hf]
    exact h.past e he
  past := by
    intro e he
    rw [hnow]
    rcases List.mem_append.1 he with he | he
    · exact h.past e he
    · rw [List.mem_singleton.1 he]
  timing := by rw [htiming, h.timing]
  stopped := by rw [hstopped, h.stopped, wasStopped_concat]

/-- The log tells where the loop is. -/
def Stands (passes loop : Timing) (unit : Nat) (log : List (Nat × Notice)) (a : Activity) : Prop :=
  match a.stage with
  | .idle => latest log = none ∨ ∃ m, latest log = some (m, .returned)
  | .turning => ∃ m, latest log = some (m, .fetched)
  | .waiting wake => ∃ m x, latest log = some (m, .completed x) ∧
      wake = m + unit * x.wait passes loop ∧ a.now ≤ wake

/-- The log is true to an activity. -/
structure Consistent (passes loop : Timing) (unit : Nat) (log : List (Nat × Notice)) (a : Activity) :
    Prop extends Recorded passes loop unit log a where
  -- once it has returned, the loop may have been told of a stop or not
  signalled : a.stage ≠ .idle → a.signalled = a.operator.loop.stopped
  unsignalled : a.operator.loop.stopped = false → a.signalled = false
  stands : Stands passes loop unit log a

/-! ## What steps preserve -/

/-- The loop may do what it does when it looks whether it was stopped. -/
theorem Recorded.enter (h : Recorded passes loop unit log a)
    (hsignal : a.operator.loop.stopped = false → a.signalled = false)
    (hreturn : wasStopped log = true → Justified passes loop unit log a.now .returned)
    (hfetch : wasStopped log = false → Justified passes loop unit log a.now .fetched) :
    Consistent passes loop unit (log ++ [(a.now, a.enter.1)]) a.enter.2 := by
  rw [← h.stopped] at hreturn hfetch
  cases hs : a.operator.loop.stopped with
  | true =>
      rw [Activity.enter_of_stopped hs]
      exact {
        toRecorded := h.note (hreturn hs) rfl rfl (Bool.or_false _).symm
        signalled := fun hstage => absurd rfl hstage
        unsignalled := fun hnot => absurd (hs.symm.trans hnot) nofun
        stands := .inr ⟨a.now, latest_concat⟩ }
  | false =>
      rw [Activity.enter_of_running hs]
      exact {
        toRecorded := h.note (hfetch hs) rfl rfl (Bool.or_false _).symm
        signalled := fun _ => (hsignal hs).trans hs.symm
        unsignalled := hsignal
        stands := ⟨a.now, latest_concat⟩ }

/-- **A step keeps the log true** to where the loop is, and notes only what is justified. -/
theorem Consistent.step {ns : List Notice} (h : Consistent passes loop unit log a)
    (hstep : Activity.Step loop unit a ns b) :
    Consistent passes loop unit (log ++ ns.map (a.now, ·)) b := by
  have hstands := h.stands
  cases hstep with
  | run hstage =>
      simp only [Stands, hstage] at hstands
      have hj : Justified passes loop unit log a.now .started := by
        obtain hnone | ⟨m, hreturned⟩ := hstands
        · exact .started hnone
        · exact .restarted hreturned
      -- the run itself is noted first, then what the loop finds when it looks
      have hstarted := h.toRecorded.note hj rfl rfl (Bool.or_false _).symm
      have hentered := hstarted.enter h.unsignalled (.refused · latest_concat)
        (.first · latest_concat)
      rwa [List.append_assoc] at hentered
  | stop =>
      exact {
        toRecorded := h.toRecorded.note .stopped rfl rfl (Bool.or_true _).symm
        signalled := fun _ => rfl
        unsignalled := nofun
        stands := by simpa [Stands, Notice.isStop] using hstands }
  | @elapse time hlets =>
      rw [List.map_nil, List.append_nil]
      refine {
        kept := h.kept
        ordered := h.ordered
        past := fun e he => (h.past e he).trans (Nat.le_add_right _ _)
        timing := h.timing
        stopped := h.stopped
        signalled := h.signalled
        unsignalled := h.unsignalled
        stands := ?_ }
      cases hstage : a.stage with
      | idle | turning => simpa [Stands, hstage] using hstands
      | waiting wake =>
          simp only [Stands, hstage, Activity.Lets] at hstands hlets ⊢
          obtain ⟨m, x, hlatest, hwake, -⟩ := hstands
          exact ⟨m, x, hlatest, hwake, hlets.2⟩
  | complete w hstage =>
      simp only [Stands, hstage] at hstands
      obtain ⟨m, hfetched⟩ := hstands
      have hkept : (a.operator.meets w).once.2.loop.stopped = a.operator.loop.stopped :=
        stopped_once _
      have hdelay := requeueAfter_once (a.operator.meets w) loop
      rw [show (a.operator.meets w).settings.timing = passes from h.timing] at hdelay
      exact {
        toRecorded := h.toRecorded.note (.completed hfetched) rfl (settings_once _)
          (hkept.trans (Bool.or_false _).symm)
        signalled := fun _ => (h.signalled (by simp [hstage])).trans hkept.symm
        unsignalled := fun hs => h.unsignalled (hkept.symm.trans hs)
        stands := ⟨a.now, _, latest_concat, by rw [hdelay], Nat.le_add_right _ _⟩ }
  | wake hstage =>
      simp only [Stands, hstage] at hstands
      obtain ⟨m, x, hcompleted, hwake, -⟩ := hstands
      -- the loop may have been stopped at this very moment, and returns from here as well
      refine h.toRecorded.enter h.unsignalled (fun hs => ?_) (fun hs => ?_)
      · exact .interrupted hs hcompleted hwake.le
      · rw [hwake]
        exact .next hs hcompleted
  | @tell wake hstage hs =>
      simp only [Stands, hstage] at hstands
      obtain ⟨m, x, hcompleted, hwake, hnow⟩ := hstands
      -- what the loop is told is true, so no turn begins before its time
      have htold : a.operator.loop.stopped = true := by
        rw [← h.signalled (by simp [hstage]), hs]
      have hrecorded : Recorded passes loop unit log { a with signalled := false } :=
        { h.toRecorded with }
      refine hrecorded.enter (fun _ => rfl) (fun hs => ?_) (fun hs => ?_)
      · exact .interrupted hs hcompleted (hwake ▸ hnow)
      · rw [← h.stopped, htold] at hs
        contradiction

/-- A loop that has not run yet, at a moment. -/
def atRest (o : Operator) (m : Nat) : Activity :=
  ⟨o, .idle, m, false⟩

/-- **What holds after all steps**, from a loop on that has not run yet. -/
theorem consistent_of_unfolds {o : Operator} (ho : o.loop.stopped = false) {m₀ : Nat}
    (h : Activity.Unfolds loop unit (o.atRest m₀) log a) :
    Consistent o.settings.timing loop unit log a := by
  induction h with
  | refl =>
      exact {
        kept := fun before m n after heq => by simp at heq
        ordered := .nil
        past := by simp
        timing := rfl
        stopped := ho
        signalled := fun hstage => absurd rfl hstage
        unsignalled := fun _ => rfl
        stands := .inl rfl }
  | step _ hstep ih => exact ih.step hstep

/-! ## What comes next -/

/-- What can come next.  A loop that is run begins a turn at once, or returns at once if it was
stopped.  A turn can be completed, whatever it comes to, which is not for the stop signal to change.  A
wait goes on until its end, when the next turn can begin; but no time goes by any more when the loop was
stopped, and it can return. -/
def Ahead (loop : Timing) (unit : Nat) (log : List (Nat × Notice)) (a : Activity) : Prop :=
  match a.stage with
  | .idle => ∃ b, Activity.Step loop unit a
      [.started, if wasStopped log then .returned else .fetched] b
  | .turning => ∀ w, (a.operator.stop.meets w).once.1 = (a.operator.meets w).once.1 ∧
      ∃ b, Activity.Step loop unit a [.completed (a.operator.meets w).once.1] b
  | .waiting wake =>
      if wasStopped log then
        (∀ time, ¬ a.Lets time) ∧ ∃ b, Activity.Step loop unit a [.returned] b
      else a.Lets (wake - a.now) ∧ ∃ b, Activity.Step loop unit { a with now := wake } [.fetched] b

/-- The loop is never stuck. -/
theorem Consistent.ahead (h : Consistent passes loop unit log a) : Ahead loop unit log a := by
  unfold Ahead
  rw [← h.stopped]
  split
  · next hstage =>
    cases hs : a.operator.loop.stopped with
    | true => exact ⟨_, .run_of_stopped hstage hs⟩
    | false => exact ⟨_, .run_of_running hstage hs⟩
  · next hstage =>
    intro w
    have hsame : (a.operator.stop.meets w).once =
        ((a.operator.meets w).once.1, (a.operator.meets w).once.2.stop) :=
      once_stop (a.operator.meets w)
    exact ⟨by rw [hsame], _, .complete w hstage⟩
  · next wake hstage =>
    have hsignal := h.signalled (by simp [hstage])
    have hstands := h.stands
    simp only [Stands, hstage] at hstands
    obtain ⟨m, x, -, -, hnow⟩ := hstands
    cases hs : a.operator.loop.stopped with
    | true =>
        rw [hs] at hsignal
        refine ⟨fun time hlets => ?_, _, .tell_of_stopped hstage hsignal hs⟩
        simp [Activity.Lets, hstage, hsignal] at hlets
    | false =>
        rw [hs] at hsignal
        refine ⟨?_, _, .wake_of_running hstage hs⟩
        simp [Activity.Lets, hstage, hsignal]
        omega

/-! ## Runs on a clock -/

/-- The moments at which turns begin. -/
def fetches (log : List (Nat × Notice)) : List Nat :=
  (log.filter (·.2.isFetch)).map (·.1)

/-- The turns that are completed: when, and what they come to. -/
def completions (log : List (Nat × Notice)) : List (Nat × Outcome) :=
  log.filterMap fun e => e.2.outcome?.map (e.1, ·)

@[simp] theorem fetches_append (log log' : List (Nat × Notice)) :
    fetches (log ++ log') = fetches log ++ fetches log' := by
  simp [fetches]

@[simp] theorem completions_append (log log' : List (Nat × Notice)) :
    completions (log ++ log') = completions log ++ completions log' :=
  List.filterMap_append

/-- From an activity on, the steps can go so that turns begin at these moments, the turns come to this,
and the loop then returns, with this operator. -/
def CanReturn (loop : Timing) (unit : Nat) (a : Activity) (moments : List Nat)
    (ends : List (Nat × Outcome)) (o : Operator) : Prop :=
  ∃ log b, Activity.Unfolds loop unit a log b ∧ fetches log = moments ∧ completions log = ends ∧
    b.operator = o ∧ b.stage = .idle

/-- A loop that is idle has returned. -/
theorem CanReturn.of_idle (h : a.stage = .idle) : CanReturn loop unit a [] [] a.operator :=
  ⟨[], a, .refl, rfl, rfl, rfl, h⟩

/-- What can return after a step can return before it, with the notices of the step. -/
theorem CanReturn.step {ns : List Notice} {moments : List Nat} {ends : List (Nat × Outcome)}
    {o : Operator} (h : CanReturn loop unit b moments ends o) (hstep : Activity.Step loop unit a ns b) :
    CanReturn loop unit a (fetches (ns.map (a.now, ·)) ++ moments)
      (completions (ns.map (a.now, ·)) ++ ends) o := by
  obtain ⟨log, c, hunfolds, rfl, rfl, hc⟩ := h
  exact ⟨_, c, hunfolds.head hstep, fetches_append _ _, completions_append _ _, hc⟩

section Turns

variable {w : Surroundings} {v : Circumstances} {t : Timing} {x : Outcome} {o o' : Operator}
  {left n now : Nat}

/-- A turn that is completed is followed by a wait. -/
theorem step_complete (hturn : (o.meets v).once = (x, o')) (signalled : Bool) :
    Activity.Step loop unit ⟨o, .turning, now, signalled⟩ [.completed x]
      ⟨o', .waiting (now + unit * x.requeueAfter loop), now, signalled⟩ := by
  have hstep : Activity.Step loop unit ⟨o, .turning, now, signalled⟩ _ _ := .complete v rfl
  simpa only [hturn] using hstep

/-- A loop can be stopped in a turn, which is completed. -/
theorem canReturn_of_stop_turning (hturn : (o.meets v).once = (x, o')) :
    CanReturn loop unit ⟨o, .turning, now, false⟩ [] [(now, x)] o'.stop := by
  have hstopped : (o.stop.meets v).once = (x, o'.stop) := by
    have honce := once_stop (o.meets v)
    rwa [hturn] at honce
  have hlast : CanReturn loop unit ⟨o'.stop, .idle, now, false⟩ [] [] o'.stop := .of_idle rfl
  have hstop : Activity.Step loop unit ⟨o, .turning, now, false⟩ [.stopped]
      ⟨o.stop, .turning, now, true⟩ := .stop _
  exact ((hlast.step (.tell_of_stopped rfl rfl rfl)).step (step_complete hstopped true)).step hstop

/-- A loop can be stopped while it waits after a turn. -/
theorem canReturn_of_stop_waiting (hturn : (o.meets v).once = (x, o')) {stopAt : Nat}
    (hstop : stopAt ≤ now + unit * x.requeueAfter loop) :
    CanReturn loop unit ⟨o, .turning, now, false⟩ [] [(now, x)] o'.stop := by
  let wake := now + unit * x.requeueAfter loop
  let moment := now + (stopAt - now)
  have hlets : moment ≤ wake := by
    simp only [moment, wake]
    omega
  have hlast : CanReturn loop unit ⟨o'.stop, .idle, moment, false⟩ [] [] o'.stop := .of_idle rfl
  have hstop : Activity.Step loop unit ⟨o', .waiting wake, moment, false⟩ [.stopped]
      ⟨o'.stop, .waiting wake, moment, true⟩ := .stop _
  have helapse : Activity.Step loop unit ⟨o', .waiting wake, now, false⟩ []
      ⟨o', .waiting wake, moment, false⟩ := .elapse ⟨rfl, hlets⟩
  exact (((hlast.step (.tell_of_stopped rfl rfl rfl)).step hstop).step helapse).step
    (step_complete hturn false)

/-- A loop that is not stopped can begin the next turn at the end of its wait. -/
theorem CanReturn.next {moments : List Nat} {ends : List (Nat × Outcome)} {o'' : Operator}
    (h : CanReturn loop unit ⟨o', .turning, now + unit * x.requeueAfter loop, false⟩ moments ends o'')
    (hturn : (o.meets v).once = (x, o')) (ho : o'.loop.stopped = false) :
    CanReturn loop unit ⟨o, .turning, now, false⟩
      ((now + unit * x.requeueAfter loop) :: moments) ((now, x) :: ends) o'' := by
  let wake := now + unit * x.requeueAfter loop
  have hwake : Activity.Step loop unit ⟨o', .waiting wake, wake, false⟩ [.fetched]
      ⟨o', .turning, wake, false⟩ := .wake_of_running rfl ho
  have helapse : Activity.Step loop unit ⟨o', .waiting wake, now, false⟩ []
      ⟨o', .waiting wake, wake, false⟩ := .elapse ⟨rfl, le_rfl⟩
  exact ((h.step hwake).step helapse).step (step_complete hturn false)

/-- What a turn of a run finds, by how many there were before. -/
def Surroundings.around (w : Surroundings) (n : Nat) (o : Operator) : Circumstances :=
  ⟨w.beforeFetch n o.source, o.cluster⟩

/-- The operator after so many turns of a run. -/
def afterTurns (o : Operator) (w : Surroundings) : Nat → Operator
  | 0 => o
  | n + 1 => ((o.afterTurns w n).meets (w.around n (o.afterTurns w n))).once.2

/-- What a turn of a run comes to, by how many there were before. -/
def turnOutcome (o : Operator) (w : Surroundings) (n : Nat) : Outcome :=
  ((o.afterTurns w n).meets (w.around n (o.afterTurns w n))).once.1

theorem settings_afterTurns (o : Operator) (w : Surroundings) (n : Nat) :
    (o.afterTurns w n).settings = o.settings := by
  induction n with
  | zero => rfl
  | succ n ih => rw [afterTurns, settings_once, meets, ih]

/-- Turns do not stop the loop; only the outside does. -/
theorem stopped_afterTurns (o : Operator) (w : Surroundings) (n : Nat) :
    (o.afterTurns w n).loop.stopped = o.loop.stopped := by
  induction n with
  | zero => rfl
  | succ n ih => rw [afterTurns, stopped_once, meets, ih]

/-- The turns of a run that begin at these moments, after others. -/
def endsFrom (o : Operator) (w : Surroundings) (n : Nat) (moments : List Nat) : List (Nat × Outcome) :=
  moments.mapIdx fun i moment => (moment, o.turnOutcome w (n + i))

/-- The outcomes of turns are that of the first and those of the others. -/
theorem endsFrom_cons (o : Operator) (w : Surroundings) (n moment : Nat) (moments : List Nat) :
    o.endsFrom w n (moment :: moments)
      = (moment, o.turnOutcome w n) :: o.endsFrom w (n + 1) moments := by
  simp only [endsFrom, List.mapIdx_cons, Nat.add_zero, Nat.add_assoc, Nat.add_comm 1]

/-- **A run, turn by turn**: the loop is stopped after the turn, or it waits and goes on. -/
theorem turns_succ (ho : o.loop.stopped = false) (hn : n + left = w.lastFetch)
    (hturn : (o.meets (w.around n o)).once = (x, o')) :
    turns w (left + 1) now o =
      if left = 0 ∨ w.stopAt ≤ now + 1000 * x.requeueAfter o.settings.timing then ([now], o'.stop)
      else
        let later := turns w left (now + 1000 * x.requeueAfter o.settings.timing) o'
        (now :: later.1, later.2) := by
  obtain rfl : w.lastFetch - left = n := by omega
  have honce : { o with source := w.beforeFetch (w.lastFetch - left) o.source }.once = (x, o') := hturn
  have hsettings : o'.settings = o.settings := by
    have hkept := settings_once (o.meets (w.around (w.lastFetch - left) o))
    rwa [hturn] at hkept
  rw [turns, if_neg (by simp [ho])]
  simp only [honce, hsettings]

/-- Turns on the clock are a way in which the steps can go: they come to what they should, one after
the other, and the loop is stopped after the last one. -/
theorem canReturn_turns (w : Surroundings) (hn : n + left = w.lastFetch) (now : Nat)
    (ho : o.loop.stopped = false) :
    ∃ moments, (turns w (left + 1) now (o.afterTurns w n)).1 = now :: moments ∧
      (turns w (left + 1) now (o.afterTurns w n)).2
        = (o.afterTurns w (n + (moments.length + 1))).stop ∧
      CanReturn o.settings.timing 1000 ⟨o.afterTurns w n, .turning, now, false⟩ moments
        (o.endsFrom w n (now :: moments)) (turns w (left + 1) now (o.afterTurns w n)).2 := by
  have hturn (n : Nat) : ((o.afterTurns w n).meets (w.around n (o.afterTurns w n))).once
      = (o.turnOutcome w n, o.afterTurns w (n + 1)) := rfl
  have hrunning (n : Nat) : (o.afterTurns w n).loop.stopped = false :=
    (stopped_afterTurns o w n).trans ho
  induction left generalizing now n with
  | zero =>
      rw [turns_succ (hrunning n) hn (hturn n), if_pos (.inl rfl)]
      refine ⟨[], rfl, rfl, ?_⟩
      rw [endsFrom_cons]
      exact canReturn_of_stop_turning (hturn n)
  | succ left ih =>
      rw [turns_succ (hrunning n) hn (hturn n), settings_afterTurns]
      split
      · next hlast =>
        obtain hzero | hstop := hlast
        · contradiction
        · refine ⟨[], rfl, rfl, ?_⟩
          rw [endsFrom_cons]
          exact canReturn_of_stop_waiting (hturn n) hstop
      · obtain ⟨moments, hmoments, hend, hreturn⟩ :=
          ih (n := n + 1) (by omega)
            (now + 1000 * (o.turnOutcome w n).requeueAfter o.settings.timing)
        refine ⟨_ :: moments, congrArg (now :: ·) hmoments, ?_, ?_⟩
        · rw [hend, List.length_cons, Nat.add_assoc, Nat.add_comm 1]
        · rw [endsFrom_cons]
          exact hreturn.next (hturn n) (hrunning (n + 1))

end Turns

/-- A run on a clock, as steps: it is started at once, and its first turn begins then; the turns begin
at the moments of the run and come to what they should, one after the other; and the loop returns,
stopped after the last turn. -/
structure Realises (o : Operator) (w : Surroundings) (log : List (Nat × Notice)) (a : Activity) :
    Prop where
  unfolds : Activity.Unfolds o.settings.timing 1000 (o.atRest 0)
    ((0, .started) :: (0, .fetched) :: log) a
  moments : (o.run w).1 = 0 :: fetches log
  ends : completions log = o.endsFrom w 0 (o.run w).1
  operator : a.operator = (o.run w).2
  last : (o.run w).2 = (o.afterTurns w (o.run w).1.length).stop
  returned : a.stage = .idle

/-- **A run on a clock** is a way in which the steps can go. -/
theorem exists_realises (w : Surroundings) {o : Operator} (ho : o.loop.stopped = false) :
    ∃ log a, o.Realises w log a := by
  obtain ⟨moments, hmoments, hlast, log, a, hunfolds, rfl, hends, hoperator, hidle⟩ :=
    canReturn_turns w (Nat.zero_add w.lastFetch) 0 ho
  have hrun : Activity.Step o.settings.timing 1000 (o.atRest 0) [.started, .fetched]
      ⟨o, .turning, 0, false⟩ := .run_of_running rfl ho
  have hrest : (o.run w).1 = 0 :: fetches log := hmoments
  refine ⟨log, a, hunfolds.head hrun, hrest, hrest ▸ hends, hoperator, ?_, hidle⟩
  rw [hrest, List.length_cons, ← Nat.zero_add ((fetches log).length + 1)]
  exact hlast

/-! ## The schedule -/

/-- **The schedule of the loop.** Whatever happens to a loop from its first run on, and whenever it is
stopped: what it does is justified each time by what it did before (`Justified`), moment by moment; the
log tells where it is, and it is never stuck.  A run on a clock is one of the ways in which this can
go (`Realises`). -/
theorem schedule_kept {o : Operator} (ho : o.loop.stopped = false) (loop : Timing) (unit m₀ : Nat) :
    (∀ log a, Activity.Unfolds loop unit (o.atRest m₀) log a →
      Kept o.settings.timing loop unit log ∧ (log.Pairwise fun e f => e.1 ≤ f.1) ∧
      Stands o.settings.timing loop unit log a ∧ Ahead loop unit log a) ∧
    ∀ w, ∃ log a, o.Realises w log a := by
  refine ⟨fun log a h => ?_, fun w => exists_realises w ho⟩
  have hlog := consistent_of_unfolds ho h
  exact ⟨hlog.kept, hlog.ordered, hlog.stands, hlog.ahead⟩

/-- A loop that is stopped just when its first wait ends, and then run again. -/
def stoppedAtWake : List (Nat × Notice) :=
  [(0, .started), (0, .fetched), (0, .completed .missing), (30, .stopped), (30, .returned),
    (30, .started), (30, .returned)]

/-- The loop is stopped at the moment at which its wait ends. -/
theorem unfolds_stoppedAtWake :
    Activity.Unfolds .standard 1 (idle.atRest 0) stoppedAtWake ⟨idle.stop, .idle, 30, true⟩ := by
  have hrun : Activity.Step .standard 1 (idle.atRest 0) [.started, .fetched]
      ⟨idle, .turning, 0, false⟩ := .run_of_running rfl rfl
  have hcomplete : Activity.Step .standard 1 ⟨idle, .turning, 0, false⟩ [.completed .missing]
      ⟨idle, .waiting 30, 0, false⟩ := .complete ⟨.empty, .empty⟩ rfl
  have hlets : (⟨idle, .waiting 30, 0, false⟩ : Activity).Lets 30 := ⟨rfl, le_rfl⟩
  have helapse : Activity.Step .standard 1 ⟨idle, .waiting 30, 0, false⟩ []
      ⟨idle, .waiting 30, 30, false⟩ := .elapse hlets
  have hstop : Activity.Step .standard 1 ⟨idle, .waiting 30, 30, false⟩ [.stopped]
      ⟨idle.stop, .waiting 30, 30, true⟩ := .stop _
  have hwake : Activity.Step .standard 1 ⟨idle.stop, .waiting 30, 30, true⟩ [.returned]
      ⟨idle.stop, .idle, 30, true⟩ := .wake rfl
  have hagain : Activity.Step .standard 1 ⟨idle.stop, .idle, 30, true⟩ [.started, .returned]
      ⟨idle.stop, .idle, 30, true⟩ := .run_of_stopped rfl rfl
  exact (((((Activity.Unfolds.refl.step hrun).step hcomplete).step helapse).step hstop).step
    hwake).step hagain

/-- Nothing changes around a run, which is stopped in its second wait. -/
def unhurried : Surroundings :=
  ⟨fun _ source => source, 45000, 9⟩

/-- The loop is run again and returns at once; and a run on a clock begins two turns, both in vain. -/
theorem schedule_kept_stoppedAtWake : idle.loop.stopped = false ∧
    Activity.Unfolds .standard 1 (idle.atRest 0) stoppedAtWake ⟨idle.stop, .idle, 30, true⟩ ∧
    Kept idle.settings.timing .standard 1 stoppedAtWake ∧
    ∃ log a, idle.Realises unhurried log a ∧ fetches log = [30000] ∧
      completions log = [(0, .missing), (30000, .missing)] := by
  have ho : idle.loop.stopped = false := rfl
  obtain ⟨hkept, hruns⟩ := schedule_kept ho .standard 1 0
  obtain ⟨log, a, hrealises⟩ := hruns unhurried
  have hmoments : (idle.run unhurried).1 = [0, 30000] := by decide +kernel
  refine ⟨ho, unfolds_stoppedAtWake, (hkept _ _ unfolds_stoppedAtWake).1, log, a, hrealises, ?_, ?_⟩
  · exact (List.cons.inj (hrealises.moments.symm.trans hmoments)).2
  · rw [hrealises.ends, hmoments]
    rfl

end Operator

end LogOperator
