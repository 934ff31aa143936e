import Intercept.Proofs.Throttle.Turns
import Mathlib.Algebra.BigOperators.Group.Finset.Basic
import Mathlib.Algebra.Order.BigOperators.Group.Finset
import Mathlib.Tactic.IntervalCases

/-!
# One job at a time

At any time a throttle runs at most one job, jobs are begun in the order in which the slot was
granted, each at most once, and a job that has failed gives up the slot like any other
(`ThrottleSystem.Serial`). All this follows from the order of turns. That every job is run needs more:
whoever can go on must do so in the end (`ThrottleSystem.Fair`), and then whoever holds the slot has
less and less to do until it leaves. The main statement is `ThrottleSystem.serialises_jobs`.
-/

namespace Intercept

namespace ThrottleSystem

variable {w w' : ThrottleSystem} {k : Nat}

/-! ### Runs -/

/-- A run from the beginning, in which nothing may happen for any time. -/
structure IsRun (run : Nat → ThrottleSystem) : Prop where
  start : run 0 = {}
  step : ∀ i, run (i + 1) = run i ∨ Step (run i) (run (i + 1))

/-- Whoever can do a step does one in the end. For a job that was handed over this is what the
runtime is trusted to do. -/
def Fair (run : Nat → ThrottleSystem) : Prop :=
  ∀ i k w, Goes k (run i) w → ∃ j, i ≤ j ∧ Goes k (run j) (run (j + 1))

/-- Whatever a run comes to is reached by steps. -/
lemma IsRun.steps {run : Nat → ThrottleSystem} (hrun : IsRun run) (i : Nat) :
    Steps {} (run i) := by
  induction i with
  | zero =>
    rw [hrun.start]
  | succ i ih =>
    rcases hrun.step i with hstay | hstep
    · rw [hstay]
      exact ih
    · exact ih.tail hstep

/-! ### What is left to do -/

/-- How many steps a call can still do at most. -/
def remaining (w : ThrottleSystem) (k : Nat) : Nat :=
  (w.tasks[k]?.map fun t => t.phase.remaining).getD 0

/-- A call that does a step comes to a phase from which it has less to do. -/
lemma Goes.exists_goto (hgo : Goes k w w') :
    ∃ t phase, w.tasks[k]? = some t ∧ w'.tasks = (w.goto k phase).tasks ∧
      phase.remaining < t.phase.remaining := by
  cases hgo with
  | handOver htask => exact ⟨_, _, htask, rfl, by decide⟩
  | beginHanded htask => exact ⟨_, _, htask, rfl, by decide⟩
  | beginInline htask => exact ⟨_, _, htask, rfl, by decide⟩
  | finish failed htask => exact ⟨_, .ended failed, htask, rfl, Nat.lt_succ_self 2⟩
  | leave htask => exact ⟨_, .left, htask, rfl, Nat.lt_succ_self 1⟩
  | pass htask => exact ⟨_, .left, htask, rfl, Nat.lt_add_of_pos_left (by decide)⟩
  | comeBack htask => exact ⟨_, .returned, htask, rfl, Nat.zero_lt_one⟩

/-- A call that does a step has less to do after it. -/
lemma Goes.remaining_lt (hgo : Goes k w w') : w'.remaining k < w.remaining k := by
  obtain ⟨t, phase, htask, htasks, hlt⟩ := hgo.exists_goto
  rw [remaining, remaining, htasks, getElem?_goto_self htask, htask]
  exact hlt

/-- The other calls have as much to do as before. -/
lemma Goes.remaining_of_ne (hgo : Goes k w w') {j : Nat} (hne : j ≠ k) :
    w'.remaining j = w.remaining j := by
  obtain ⟨t, phase, -, htasks, -⟩ := hgo.exists_goto
  rw [remaining, remaining, htasks, getElem?_goto_of_ne hne]

/-- A call that does a step was not done. -/
lemma Goes.not_isDone (hgo : Goes k w w') :
    ∃ t, w.tasks[k]? = some t ∧ t.isDone = false := by
  cases hgo with
  | comeBack htask hcall =>
    refine ⟨_, htask, ?_⟩
    simp [ThrottleTask.isDone, hcall]
  | pass htask hjob =>
    refine ⟨_, htask, ?_⟩
    simp [ThrottleTask.isDone]
  | handOver htask => exact ⟨_, htask, rfl⟩
  | beginHanded htask => exact ⟨_, htask, rfl⟩
  | beginInline htask => exact ⟨_, htask, rfl⟩
  | finish failed htask => exact ⟨_, htask, by simp [ThrottleTask.isDone]⟩
  | leave htask => exact ⟨_, htask, by simp [ThrottleTask.isDone]⟩

/-- After a step of another call, or a new call, a call has come as far as before. -/
lemma Step.getElem?_eq (hstep : Step w w') {t : ThrottleTask} (htask : w.tasks[k]? = some t)
    (hgo : ¬Goes k w w') : w'.tasks[k]? = some t := by
  cases hstep with
  | enter call => exact (List.getElem?_append_left (List.getElem?_eq_some_iff.1 htask).1).trans htask
  | @go j _ hgo' =>
    obtain ⟨-, phase, -, htasks, -⟩ := hgo'.exists_goto
    have hne : k ≠ j := by
      rintro rfl
      exact hgo hgo'
    rw [htasks, getElem?_goto_of_ne hne, htask]

/-- No call has more to do after a step. -/
lemma remaining_step (hstep : Step w w') {j : Nat} (hlt : j < w.tasks.length) :
    w'.remaining j ≤ w.remaining j := by
  cases hstep with
  | enter call =>
    have hsame : (w.enter call).tasks[j]? = w.tasks[j]? := List.getElem?_append_left hlt
    rw [remaining, remaining, hsame]
  | @go k _ hgo =>
    by_cases hj : j = k
    · subst hj
      exact hgo.remaining_lt.le
    · exact (hgo.remaining_of_ne hj).le

/-- Calls stay what they are. -/
lemma call_step (hstep : Step w w') {j : Nat} (hlt : j < w.tasks.length) :
    w'.tasks[j]?.map (·.call) = w.tasks[j]?.map (·.call) := by
  cases hstep with
  | enter call => exact congrArg _ (List.getElem?_append_left hlt)
  | @go k _ hgo =>
    obtain ⟨t, phase, -, htasks, -⟩ := hgo.exists_goto
    rw [htasks]
    exact w.call_goto k phase j

/-- No call is lost. -/
lemma length_step (hstep : Step w w') : w.tasks.length ≤ w'.tasks.length := by
  cases hstep with
  | enter call => exact (List.prefix_append _ _).length_le
  | @go k _ hgo =>
    obtain ⟨t, phase, -, htasks, -⟩ := hgo.exists_goto
    rw [htasks]
    exact (w.length_goto k phase).ge

namespace IsRun

variable {run : Nat → ThrottleSystem} {i j : Nat}

/-- No call of a run is lost. -/
lemma length_le (hrun : IsRun run) (hle : i ≤ j) :
    (run i).tasks.length ≤ (run j).tasks.length := by
  induction j, hle using Nat.le_induction with
  | base => exact le_rfl
  | succ j _ ih =>
    rcases hrun.step j with hstay | hstep
    · rw [hstay]
      exact ih
    · exact ih.trans (length_step hstep)

/-- The calls of a run stay what they are. -/
lemma call_eq (hrun : IsRun run) (hle : i ≤ j) (hlt : k < (run i).tasks.length) :
    (run j).tasks[k]?.map (·.call) = (run i).tasks[k]?.map (·.call) := by
  induction j, hle using Nat.le_induction with
  | base => rfl
  | succ j hij ih =>
    rcases hrun.step j with hstay | hstep
    · rw [hstay]
      exact ih
    · exact (call_step hstep (hlt.trans_le (hrun.length_le hij))).trans ih

/-- No call of a run gets more to do. -/
lemma remaining_le (hrun : IsRun run) (hle : i ≤ j) (hlt : k < (run i).tasks.length) :
    (run j).remaining k ≤ (run i).remaining k := by
  induction j, hle using Nat.le_induction with
  | base => exact le_rfl
  | succ j hij ih =>
    rcases hrun.step j with hstay | hstep
    · rw [hstay]
      exact ih
    · exact (remaining_step hstep (hlt.trans_le (hrun.length_le hij))).trans ih

/-- A run in which every call is done in the end is fair. -/
lemma fair_of_isDone (hrun : IsRun run) {n : Nat}
    (hdone : ∀ i, n ≤ i → ∀ t ∈ (run i).tasks, t.isDone = true) : Fair run := by
  intro i k w hw
  obtain ⟨t, htask, hnot⟩ := hw.not_isDone
  -- otherwise the call would stay as it is until everything is done
  by_contra hnever
  have hstays : ∀ j, i ≤ j → (run j).tasks[k]? = some t := by
    intro j hij
    induction j, hij using Nat.le_induction with
    | base => exact htask
    | succ j hij ih =>
      rcases hrun.step j with hstay | hstep
      · rw [hstay]
        exact ih
      · exact hstep.getElem?_eq ih fun hgo => hnever ⟨j, hij, hgo⟩
  have hmem := List.mem_of_getElem? (hstays (max i n) (le_max_left i n))
  have := hdone (max i n) (le_max_right i n) t hmem
  rw [hnot] at this
  contradiction

end IsRun

/-! ### Whoever has the slot leaves it -/

/-- How many steps this call, and those before it, can still do at most. -/
def remainingUpTo (w : ThrottleSystem) (k : Nat) : Nat := ∑ j ∈ Finset.range (k + 1), w.remaining j

/-- Whoever holds the slot can do a step. -/
lemma Sound.exists_goes {first : Nat} (h : Sound w first) (hlt : first < w.tasks.length) :
    ∃ w', Goes first w w' := by
  obtain ⟨t, htask⟩ : ∃ t, w.tasks[first]? = some t := ⟨_, List.getElem?_eq_getElem hlt⟩
  have hholder := h.holder_of_first htask
  have hfits := h.turn t htask
  obtain ⟨call, phase⟩ := t
  cases phase with
  | waiting =>
    cases call with
    | submit inRuntime =>
      cases inRuntime with
      | true => exact ⟨_, .handOver htask hholder⟩
      | false => exact ⟨_, .beginInline htask hholder⟩
    | waitIdle => exact ⟨_, .pass htask rfl hholder⟩
    | look => exact ⟨_, .pass htask rfl hholder⟩
  | handed =>
    obtain rfl : call = .submit true := of_decide_eq_true hfits
    exact ⟨_, .beginHanded htask⟩
  | running =>
    cases call with
    | submit inRuntime => exact ⟨_, .finish false htask⟩
    | waitIdle => contradiction
    | look => contradiction
  | ended failed =>
    cases call with
    | submit inRuntime => exact ⟨_, .leave htask⟩
    | waitIdle => contradiction
    | look => contradiction
  | left => contradiction
  | returned => contradiction

/-- In a fair run every call leaves the slot. -/
lemma IsRun.exists_isLeft {run : Nat → ThrottleSystem} (hrun : IsRun run) (hfair : Fair run)
    {i : Nat} (hlt : k < (run i).tasks.length) :
    ∃ j, i ≤ j ∧ ∃ t, (run j).tasks[k]? = some t ∧ t.phase.isLeft = true := by
  -- whoever holds the slot goes on in the end, and then there is less to do up to this call
  induction hn : (run i).remainingUpTo k using Nat.strong_induction_on generalizing i with
  | h n ih =>
    obtain ⟨first, hsound⟩ := exists_sound (hrun.steps i)
    obtain ⟨t, htask⟩ : ∃ t, (run i).tasks[k]? = some t := ⟨_, List.getElem?_eq_getElem hlt⟩
    by_cases hleft : t.phase.isLeft = true
    · exact ⟨i, le_rfl, t, htask, hleft⟩
    · have hle : first ≤ k := Nat.le_of_not_lt fun hk => hleft ((hsound.isLeft_iff htask).2 hk)
      obtain ⟨w, hw⟩ := hsound.exists_goes (hle.trans_lt hlt)
      obtain ⟨j, hij, hgo⟩ := hfair i first w hw
      have hless : (run (j + 1)).remainingUpTo k < n := by
        rw [← hn]
        apply Finset.sum_lt_sum
        · intro m hm
          have hm' : m < (run i).tasks.length :=
            (Nat.lt_succ_iff.1 (Finset.mem_range.1 hm)).trans_lt hlt
          exact hrun.remaining_le (hij.trans (Nat.le_succ j)) hm'
        · refine ⟨first, Finset.mem_range.2 (Nat.lt_succ_of_le hle), ?_⟩
          exact hgo.remaining_lt.trans_le (hrun.remaining_le hij (hle.trans_lt hlt))
      obtain ⟨j', hj', hresult⟩ :=
        ih _ hless (hlt.trans_le (hrun.length_le (hij.trans (Nat.le_succ j)))) rfl
      exact ⟨j', (hij.trans (Nat.le_succ j)).trans hj', hresult⟩

/-! ### One job at a time -/

/-- Whether the job of a call is running. -/
def Runs (w : ThrottleSystem) (k : Nat) : Prop := ∃ call, w.tasks[k]? = some ⟨call, .running⟩

/-- What can be said of a throttle at any time. -/
structure Serial (w : ThrottleSystem) : Prop where
  /-- At most one job is running. -/
  exclusive : ∀ j k, w.Runs j → w.Runs k → j = k
  counted : w.throttle.running.length ≤ 1
  /-- No job is begun twice. -/
  once : w.begun.Nodup
  /-- Jobs are begun in the order in which the slot was granted. -/
  inOrder : w.begun <+: w.granted.filter w.isJob
  /-- A job that was granted the slot has been begun, or holds the slot and is about to begin. -/
  aboutToBegin : ∀ k ∈ w.granted, w.isJob k = true → k ∉ w.begun →
    w.throttle.holder = some ⟨k, true⟩
  /-- Jobs end in the order in which they were begun. -/
  endInOrder : w.throttle.ended <+: w.begun
  /-- The slot is taken while there is a job that was granted it and has not ended. -/
  busy : ∀ k ∈ w.granted, w.isJob k = true → k ∉ w.throttle.ended →
    w.throttle.holder = some ⟨k, true⟩ ∧ w.throttle.isBusy = true
  /-- The slot is free once all jobs have ended and every other call has left it: nobody is waiting for
  it to be free, and no look at it, which takes it for the moment, is still under way. -/
  free : (∀ k, w.isJob k = true → k ∈ w.throttle.ended) →
    (∀ t ∈ w.tasks, t.call.isJob = false → t.phase.isLeft = true) → w.throttle.isBusy = false
  /-- A job that has failed gives up its slot like one that has not, to the claim that is next. -/
  gives : ∀ k inRuntime failed, w.tasks[k]? = some ⟨.submit inRuntime, .ended failed⟩ →
    w.throttle.holder = some ⟨k, true⟩ ∧ Goes k w (w.letGo k) ∧
      (∀ w', Goes k w w' → w' = w.letGo k) ∧
      (w.letGo k).throttle.holder = w.throttle.waiting.head? ∧
      (w.letGo k).throttle.ended = w.throttle.ended ++ [k] ∧
      (w.goto k (.ended (!failed))).letGo k = w.letGo k
  /-- When somebody has waited for the throttle to be idle, all jobs that were granted the slot
  before have ended. -/
  waited : ∀ k phase, w.tasks[k]? = some ⟨.waitIdle, phase⟩ → phase.isLeft = true →
    ∀ j, [j, k].Sublist w.granted → w.isJob j = true → j ∈ w.throttle.ended

namespace Sound

variable {first : Nat}

/-- A call that was granted the slot has left it or holds it. -/
lemma le_first_of_granted (h : Sound w first) (hgranted : k ∈ w.granted) :
    k ≤ first ∧ k < w.tasks.length := by
  rw [h.granted, List.mem_range] at hgranted
  omega

/-- Which jobs have ended. -/
lemma mem_ended_iff (h : Sound w first) :
    k ∈ w.throttle.ended ↔ k < first ∧ w.isJob k = true := by
  rw [h.ended, List.mem_filter, List.mem_range]

/-- A job that was granted the slot and has not ended holds it. -/
lemma holder_of_not_ended (h : Sound w first) (hgranted : k ∈ w.granted)
    (hjob : w.isJob k = true) (hended : k ∉ w.throttle.ended) :
    w.throttle.holder = some ⟨k, true⟩ := by
  obtain ⟨hle, hlt⟩ := h.le_first_of_granted hgranted
  have hk : k = first := by
    rcases Nat.lt_or_eq_of_le hle with hlt' | heq
    · exact absurd (h.mem_ended_iff.2 ⟨hlt', hjob⟩) hended
    · exact heq
  subst hk
  obtain ⟨t, htask⟩ : ∃ t, w.tasks[k]? = some t := ⟨_, List.getElem?_eq_getElem hlt⟩
  rw [h.holder_of_first htask, ← isJob_of_getElem? htask, hjob]

/-- The jobs that have begun are those that have ended, and after them the one that is under way. -/
lemma begun_eq (h : Sound w first) :
    w.begun = w.throttle.ended ++ if w.isUnderWay first then [first] else [] := by
  rw [h.begun, h.ended]

/-- What is under way is a job. -/
lemma isJob_of_isUnderWay (h : Sound w first) (hunderWay : w.isUnderWay first = true) :
    w.isJob first = true ∧ first < w.tasks.length := by
  rw [isUnderWay, Option.any_eq_true] at hunderWay
  obtain ⟨t, htask, hphase⟩ := hunderWay
  have hfits := h.turn t htask
  refine ⟨?_, (List.getElem?_eq_some_iff.1 htask).1⟩
  rw [isJob_of_getElem? htask]
  cases hp : t.phase with
  | running =>
    rw [hp] at hfits
    exact hfits
  | ended failed =>
    rw [hp] at hfits
    exact hfits
  | _ =>
    rw [hp] at hphase
    contradiction

/-- The jobs that have begun are the first of those that were granted the slot. -/
lemma begun_prefix (h : Sound w first) : w.begun <+: w.granted.filter w.isJob := by
  rw [h.begun, h.granted]
  cases hunderWay : w.isUnderWay first with
  | true =>
    obtain ⟨hjob, hlt⟩ := h.isJob_of_isUnderWay hunderWay
    rw [Nat.min_eq_left hlt, List.range_succ, List.filter_append,
      List.filter_cons_of_pos hjob]
    exact List.prefix_refl _
  | false =>
    rw [if_neg Bool.false_ne_true, List.append_nil]
    rcases Nat.lt_or_eq_of_le h.first_le with hlt | heq
    · rw [Nat.min_eq_left hlt, List.range_succ, List.filter_append]
      exact List.prefix_append _ _
    · rw [heq, Nat.min_eq_right (Nat.le_succ _)]

/-- No job has begun twice. -/
lemma nodup_begun (h : Sound w first) : w.begun.Nodup := by
  have hgranted : (w.granted.filter w.isJob).Nodup := by
    rw [h.granted]
    exact List.nodup_range.filter _
  exact hgranted.sublist h.begun_prefix.sublist

/-- A job that was granted the slot and has not begun holds it. -/
lemma holder_of_not_begun (h : Sound w first) (hgranted : k ∈ w.granted)
    (hjob : w.isJob k = true) (hbegun : k ∉ w.begun) : w.throttle.holder = some ⟨k, true⟩ := by
  apply h.holder_of_not_ended hgranted hjob
  intro hended
  apply hbegun
  rw [h.begun_eq]
  exact List.mem_append_left _ hended

/-- The job that has come to its end holds the slot. -/
lemma gives {inRuntime failed : Bool} (h : Sound w first)
    (htask : w.tasks[k]? = some ⟨.submit inRuntime, .ended failed⟩) :
    w.throttle.holder = some ⟨k, true⟩ ∧ Goes k w (w.letGo k) ∧
      (∀ w', Goes k w w' → w' = w.letGo k) ∧
      (w.letGo k).throttle.holder = w.throttle.waiting.head? ∧
      (w.letGo k).throttle.ended = w.throttle.ended ++ [k] ∧
      (w.goto k (.ended (!failed))).letGo k = w.letGo k := by
  obtain rfl := h.eq_first_of_phase htask rfl TurnPhase.noConfusion
  have hholder := h.holder_of_first htask
  have hrelease : (w.letGo k).throttle = w.throttle.release := rfl
  refine ⟨hholder, Goes.leave htask, ?_, ?_, ?_, ?_⟩
  · intro w' hgo
    cases hgo with
    | leave => rfl
    | _ => simp_all
  · rw [hrelease, Throttle.release, hholder]
  · rw [hrelease, Throttle.release, hholder]
    rfl
  · exact w.letGo_goto k _

/-- Whoever has waited for the throttle to be idle has let all jobs before end. -/
lemma waited (h : Sound w first) {t : ThrottleTask} (htask : w.tasks[k]? = some t)
    (hleft : t.phase.isLeft = true) {j : Nat} (hbefore : [j, k].Sublist w.granted)
    (hjob : w.isJob j = true) : j ∈ w.throttle.ended := by
  have hjk : j < k := by
    rw [h.granted] at hbefore
    have hpair := List.pairwise_lt_range.sublist hbefore
    exact List.rel_of_pairwise_cons hpair (List.mem_singleton_self k)
  have hk : k < first := (h.isLeft_iff htask).1 hleft
  exact h.mem_ended_iff.2 ⟨hjk.trans hk, hjob⟩

/-- A throttle that grants its slot in turn runs one job at a time. -/
lemma serial (h : Sound w first) : Serial w where
  exclusive := by
    intro j k hj hk
    obtain ⟨_, hj⟩ := hj
    obtain ⟨_, hk⟩ := hk
    rw [h.eq_first_of_phase hj rfl TurnPhase.noConfusion,
      h.eq_first_of_phase hk rfl TurnPhase.noConfusion]
  counted := by
    rw [h.running]
    split
    · exact le_rfl
    · exact Nat.zero_le 1
  once := h.nodup_begun
  inOrder := h.begun_prefix
  aboutToBegin := fun k => h.holder_of_not_begun
  endInOrder := by
    rw [h.begun_eq]
    exact List.prefix_append _ _
  busy := by
    intro k hgranted hjob hended
    have hholder := h.holder_of_not_ended hgranted hjob hended
    exact ⟨hholder, by rw [Throttle.isBusy, hholder, Option.isSome_some]⟩
  free := by
    intro hjobs hothers
    rw [← Bool.not_eq_true, h.isBusy_iff]
    intro hlt
    obtain ⟨t, htask⟩ : ∃ t, w.tasks[first]? = some t := ⟨_, List.getElem?_eq_getElem hlt⟩
    cases hjob : t.call.isJob with
    | true =>
      have hended := hjobs first ((isJob_of_getElem? htask).trans hjob)
      exact lt_irrefl first (h.mem_ended_iff.1 hended).1
    | false =>
      have hleft := hothers t (List.mem_of_getElem? htask) hjob
      exact lt_irrefl first ((h.isLeft_iff htask).1 hleft)
  gives := fun k _ _ => h.gives
  waited := fun k _ htask hleft j => h.waited htask hleft

end Sound

/-- A throttle runs one job at a time, in the order in which its slot is granted, and in a fair run
every call leaves the slot again, so every job that is submitted is run. -/
theorem serialises_jobs {run : Nat → ThrottleSystem} (hrun : IsRun run) :
    (∀ i, Serial (run i)) ∧
      (Fair run → ∀ i k t, (run i).tasks[k]? = some t →
        ∃ j, i ≤ j ∧ (∃ phase, (run j).tasks[k]? = some ⟨t.call, phase⟩ ∧ phase.isLeft = true) ∧
          (t.call.isJob = true → k ∈ (run j).throttle.ended)) := by
  constructor
  · intro i
    obtain ⟨first, hsound⟩ := exists_sound (hrun.steps i)
    exact hsound.serial
  · intro hfair i k t htask
    have hlt : k < (run i).tasks.length := (List.getElem?_eq_some_iff.1 htask).1
    obtain ⟨j, hij, u, hu, hleft⟩ := hrun.exists_isLeft hfair hlt
    have hcall : u.call = t.call := by
      have hsame := hrun.call_eq hij hlt
      rw [hu, htask] at hsame
      exact Option.some.inj hsame
    obtain ⟨first, hsound⟩ := exists_sound (hrun.steps j)
    refine ⟨j, hij, ⟨u.phase, ?_, hleft⟩, ?_⟩
    · rw [hu, ← hcall]
    · intro hjob
      refine hsound.mem_ended_iff.2 ⟨(hsound.isLeft_iff hu).1 hleft, ?_⟩
      rw [isJob_of_getElem? hu, hcall, hjob]

/-- A job that fails in the thread that submits it, a job that is submitted meanwhile and handed
over, and somebody who waits for the throttle to be idle. -/
def threeCalls (i : Nat) : ThrottleSystem :=
  let moves : List (ThrottleSystem → ThrottleSystem) :=
    [(·.enter (.submit false)), (·.enter (.submit true)), (·.startJob 0), (·.enter .waitIdle),
      (·.goto 0 (.ended true)), (·.letGo 0), (·.goto 1 .handed), (·.goto 0 .returned),
      (·.startJob 1), (·.goto 1 (.ended false)), (·.letGo 1), (·.letGo 2), (·.goto 2 .returned)]
  (moves.take i).foldl (fun w move => move w) {}

/-- After the last move nothing happens. -/
lemma threeCalls_of_le {i : Nat} (hle : 13 ≤ i) : threeCalls i = threeCalls 13 := by
  rw [threeCalls, List.take_of_length_le hle]
  rfl

/-- The three calls make a run. -/
lemma isRun_threeCalls : IsRun threeCalls where
  start := rfl
  step := by
    intro i
    rcases Nat.lt_or_ge i 13 with hlt | hge
    · right
      interval_cases i
      · exact .enter _ (fun _ => rfl)
      · exact .enter _ ThrottleCall.noConfusion
      · exact .go (.beginInline rfl rfl)
      · exact .enter _ ThrottleCall.noConfusion
      · exact .go (.finish true rfl)
      · exact .go (.leave rfl)
      · exact .go (.handOver rfl rfl)
      · exact .go (.comeBack rfl (by decide))
      · exact .go (.beginHanded rfl)
      · exact .go (.finish false rfl)
      · exact .go (.leave rfl)
      · exact .go (.pass rfl rfl rfl)
      · exact .go (.comeBack rfl (by decide))
    · left
      rw [threeCalls_of_le hge, threeCalls_of_le (hge.trans (Nat.le_succ i))]

/-- In the end the three calls are done, so nobody is kept from going on. -/
lemma fair_threeCalls : Fair threeCalls := by
  apply isRun_threeCalls.fair_of_isDone (n := 13)
  intro i hle
  rw [threeCalls_of_le hle]
  decide

/-- While the first job is running the second has to wait, whose turn it is when the first has failed;
and both have been run when the third call has come back. -/
theorem serialises_jobs_of_failure :
    IsRun threeCalls ∧ Fair threeCalls ∧ Serial (threeCalls 4) ∧ (threeCalls 4).Runs 0 ∧
      (threeCalls 6).throttle.holder = some ⟨1, true⟩ ∧ (threeCalls 13).begun = [0, 1] ∧
      (threeCalls 13).throttle.isBusy = false ∧
      ∃ j, 2 ≤ j ∧ 1 ∈ (threeCalls j).throttle.ended := by
  obtain ⟨hserial, hlive⟩ := serialises_jobs isRun_threeCalls
  obtain ⟨j, hle, -, hended⟩ := hlive fair_threeCalls 2 1 ⟨.submit true, .waiting⟩ rfl
  exact ⟨isRun_threeCalls, fair_threeCalls, hserial 4, ⟨.submit false, rfl⟩, rfl, rfl, rfl, j, hle,
    hended rfl⟩

end ThrottleSystem

end Intercept
