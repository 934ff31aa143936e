import Intercept.Proofs.Throttle.Calls
import Mathlib.Data.List.Nodup
import Mathlib.Data.List.Range

/-!
# Whose turn it is

The slot of a throttle goes from claim to claim in the order in which they were made. So at any time
the calls fall into those that have left the slot, the one that holds it, if any, and those that are
waiting, in this order. `ThrottleSystem.Sound` says so, and what the throttle has counted then; every
step keeps it (`ThrottleSystem.exists_sound`).
-/

namespace Intercept

/-- Whether the call that holds the slot can have come as far as this. -/
def TurnPhase.fits (call : ThrottleCall) : TurnPhase → Bool
  | waiting => true
  | handed => call = .submit true
  | running => call.isJob
  | ended _ => call.isJob
  | left => false
  | returned => false

namespace ThrottleSystem

variable {w w' : ThrottleSystem} {k : Nat}

/-- Whether the job of a call was begun and has not left the slot. -/
def isUnderWay (w : ThrottleSystem) (k : Nat) : Bool := w.tasks[k]?.any fun t => t.phase.isUnderWay

/-- Whether the job of a call is under way, read off its phase. -/
lemma isUnderWay_of_getElem? {t : ThrottleTask} (h : w.tasks[k]? = some t) :
    w.isUnderWay k = t.phase.isUnderWay := by
  rw [isUnderWay, h, Option.any_some]

/-- The claim of the next call comes after those of the first so many. -/
lemma range_append_claim (w : ThrottleSystem) {n : Nat} (hle : n ≤ w.tasks.length) :
    List.range n ++ w.claims[n]?.toList.map (·.id) = List.range (min (n + 1) w.tasks.length) := by
  rw [getElem?_claims]
  cases htask : w.tasks[n]? with
  | none =>
    have hge := List.getElem?_eq_none_iff.1 htask
    rw [Nat.min_eq_right (by omega), Nat.le_antisymm hle hge]
    exact List.append_nil _
  | some t =>
    have hlt := (List.getElem?_eq_some_iff.1 htask).1
    rw [Nat.min_eq_left hlt, List.range_succ]
    rfl

/-- The state after the first so many calls have left the slot. -/
structure Sound (w : ThrottleSystem) (first : Nat) : Prop where
  first_le : first ≤ w.tasks.length
  nextId : w.throttle.nextId = w.tasks.length
  holder : w.throttle.holder = w.claims[first]?
  waiting : w.throttle.waiting = w.claims.drop (first + 1)
  running : w.throttle.running = if w.isUnderWay first then [first] else []
  ended : w.throttle.ended = (List.range first).filter w.isJob
  granted : w.granted = List.range (min (first + 1) w.tasks.length)
  begun : w.begun =
    (List.range first).filter w.isJob ++ if w.isUnderWay first then [first] else []
  before : ∀ k t, w.tasks[k]? = some t → k < first → t.phase.isLeft = true
  turn : ∀ t, w.tasks[first]? = some t → t.phase.fits t.call = true
  after : ∀ k t, w.tasks[k]? = some t → first < k → t.phase = .waiting

namespace Sound

variable {first : Nat}

/-- In the beginning no call has come. -/
lemma start : Sound {} 0 where
  first_le := le_rfl
  nextId := rfl
  holder := rfl
  waiting := rfl
  running := rfl
  ended := rfl
  granted := rfl
  begun := rfl
  before := by
    intro k t h
    contradiction
  turn := by
    intro t h
    contradiction
  after := by
    intro k t h
    contradiction

/-! ### Whose turn it is -/

/-- Whoever holds the slot is the first that has not left it. -/
lemma eq_first_of_holder (h : Sound w first) {isJob : Bool}
    (hholder : w.throttle.holder = some ⟨k, isJob⟩) : k = first := by
  rw [h.holder, getElem?_claims, Option.map_eq_some_iff] at hholder
  obtain ⟨t, -, hclaim⟩ := hholder
  exact (Claim.mk.inj hclaim).1.symm

/-- A call that has not left the slot, and is not just waiting, is the one that holds it. -/
lemma eq_first_of_phase (h : Sound w first) {t : ThrottleTask} (htask : w.tasks[k]? = some t)
    (hleft : t.phase.isLeft = false) (hwaiting : t.phase ≠ .waiting) : k = first := by
  rcases Nat.lt_trichotomy k first with hlt | heq | hgt
  · have := h.before k t htask hlt
    rw [hleft] at this
    contradiction
  · exact heq
  · exact absurd (h.after k t htask hgt) hwaiting

/-- A call that comes after the one that holds the slot is not under way. -/
lemma isUnderWay_of_first_lt (h : Sound w first) (hgt : first < k) : w.isUnderWay k = false := by
  cases htask : w.tasks[k]? with
  | none => rw [isUnderWay, htask, Option.any_none]
  | some t =>
    rw [isUnderWay_of_getElem? htask, h.after k t htask hgt]
    rfl

/-- A call has left the slot if its place is among the first. -/
lemma isLeft_iff (h : Sound w first) {t : ThrottleTask} (htask : w.tasks[k]? = some t) :
    t.phase.isLeft = true ↔ k < first := by
  constructor
  · intro hleft
    by_contra hlt
    rcases Nat.eq_or_lt_of_not_lt hlt with heq | hgt
    · subst heq
      have hfits := h.turn t htask
      cases hphase : t.phase with
      | left =>
        rw [hphase] at hfits
        contradiction
      | returned =>
        rw [hphase] at hfits
        contradiction
      | _ =>
        rw [hphase] at hleft
        contradiction
    · rw [h.after k t htask hgt] at hleft
      contradiction
  · exact h.before k t htask

/-- The claim of the call that holds the slot. -/
lemma holder_of_first (h : Sound w first) {t : ThrottleTask} (htask : w.tasks[first]? = some t) :
    w.throttle.holder = some ⟨first, t.call.isJob⟩ := by
  rw [h.holder, getElem?_claims, htask, Option.map_some]

/-- The slot is taken unless all calls have left it. -/
lemma isBusy_iff (h : Sound w first) :
    w.throttle.isBusy = true ↔ first < w.tasks.length := by
  rw [Throttle.isBusy, h.holder, getElem?_claims, Option.isSome_map, Option.isSome_iff_exists]
  constructor
  · rintro ⟨t, htask⟩
    exact (List.getElem?_eq_some_iff.1 htask).1
  · intro hlt
    exact ⟨_, List.getElem?_eq_getElem hlt⟩

/-! ### What is kept -/

/-- A call comes further without giving up the slot, its job being under way as it was before. -/
lemma goto (h : Sound w first) {t : ThrottleTask} (htask : w.tasks[k]? = some t) {phase : TurnPhase}
    (hunderWay : phase.isUnderWay = t.phase.isUnderWay)
    (hbefore : k < first → phase.isLeft = true) (hturn : k = first → phase.fits t.call = true)
    (hle : k ≤ first) : Sound (w.goto k phase) first := by
  have hjob : (w.goto k phase).isJob = w.isJob := isJob_congr (w.call_goto k phase)
  have hclaims : (w.goto k phase).claims = w.claims := claims_congr (w.call_goto k phase)
  have hlength := w.length_goto k phase
  have hself := getElem?_goto_self htask phase
  have hway : ∀ j, (w.goto k phase).isUnderWay j = w.isUnderWay j := by
    intro j
    by_cases hj : j = k
    · subst hj
      rw [isUnderWay_of_getElem? hself, isUnderWay_of_getElem? htask]
      exact hunderWay
    · rw [isUnderWay, getElem?_goto_of_ne hj, isUnderWay]
  constructor
  case first_le =>
    rw [hlength]
    exact h.first_le
  case nextId =>
    rw [hlength]
    exact h.nextId
  case holder =>
    rw [hclaims]
    exact h.holder
  case waiting =>
    rw [hclaims]
    exact h.waiting
  case running =>
    rw [hway]
    exact h.running
  case ended =>
    rw [hjob]
    exact h.ended
  case granted =>
    rw [hlength]
    exact h.granted
  case begun =>
    rw [hjob, hway]
    exact h.begun
  case before =>
    intro j u hu hlt
    by_cases hj : j = k
    · subst hj
      rw [hself] at hu
      obtain rfl := Option.some.inj hu
      exact hbefore hlt
    · rw [getElem?_goto_of_ne hj] at hu
      exact h.before j u hu hlt
  case turn =>
    intro u hu
    by_cases hj : first = k
    · subst hj
      rw [hself] at hu
      obtain rfl := Option.some.inj hu
      exact hturn rfl
    · rw [getElem?_goto_of_ne hj] at hu
      exact h.turn u hu
  case after =>
    intro j u hu hgt
    rw [getElem?_goto_of_ne (by omega)] at hu
    exact h.after j u hu hgt

/-- The job of the call that holds the slot begins. -/
lemma startJob (h : Sound w first) {t : ThrottleTask} (htask : w.tasks[first]? = some t)
    (hjob : t.call.isJob = true) (hunderWay : t.phase.isUnderWay = false) :
    Sound (w.startJob first) first := by
  have hjobs : (w.startJob first).isJob = w.isJob := isJob_congr (w.call_goto first .running)
  have hclaims : (w.startJob first).claims = w.claims := claims_congr (w.call_goto first .running)
  have hlength : (w.startJob first).tasks.length = w.tasks.length := w.length_goto first .running
  have hself : (w.startJob first).tasks[first]? = some { t with phase := .running } :=
    getElem?_goto_self htask .running
  have hothers : ∀ j, j ≠ first → (w.startJob first).tasks[j]? = w.tasks[j]? :=
    fun j hne => getElem?_goto_of_ne hne .running
  have hway : (w.startJob first).isUnderWay first = true := isUnderWay_of_getElem? hself
  have hidle : w.throttle.running = [] := by
    rw [h.running, isUnderWay_of_getElem? htask, hunderWay]
    rfl
  have hstart : (w.startJob first).throttle = { w.throttle with running := [first] } := by
    change w.throttle.start = _
    have hholder := h.holder_of_first htask
    rw [hjob] at hholder
    simp only [Throttle.start, hholder, hidle, List.not_mem_nil, if_false]
  constructor
  case first_le =>
    rw [hlength]
    exact h.first_le
  case nextId =>
    rw [hlength, hstart]
    exact h.nextId
  case holder =>
    rw [hclaims, hstart]
    exact h.holder
  case waiting =>
    rw [hclaims, hstart]
    exact h.waiting
  case running =>
    rw [hway, hstart]
    rfl
  case ended =>
    rw [hjobs, hstart]
    exact h.ended
  case granted =>
    rw [granted_startJob, hlength]
    exact h.granted
  case begun =>
    rw [begun_startJob, h.begun, isUnderWay_of_getElem? htask, hunderWay, hjobs, hway,
      if_neg Bool.false_ne_true, List.append_nil, if_pos rfl]
  case before =>
    intro j u hu hlt
    rw [hothers j hlt.ne] at hu
    exact h.before j u hu hlt
  case turn =>
    intro u hu
    rw [hself] at hu
    obtain rfl := Option.some.inj hu
    exact hjob
  case after =>
    intro j u hu hgt
    rw [hothers j hgt.ne'] at hu
    exact h.after j u hu hgt

/-- The call that holds the slot gives it up, and its job has been under way if it has one. -/
lemma letGo (h : Sound w first) {t : ThrottleTask} (htask : w.tasks[first]? = some t)
    (hunderWay : t.phase.isUnderWay = t.call.isJob) : Sound (w.letGo first) (first + 1) := by
  have hjobs : (w.letGo first).isJob = w.isJob := isJob_congr (w.call_goto first .left)
  have hclaims : (w.letGo first).claims = w.claims := claims_congr (w.call_goto first .left)
  have hlength : (w.letGo first).tasks.length = w.tasks.length := w.length_goto first .left
  have hself : (w.letGo first).tasks[first]? = some { t with phase := .left } :=
    getElem?_goto_self htask .left
  have hothers : ∀ j, j ≠ first → (w.letGo first).tasks[j]? = w.tasks[j]? :=
    fun j hne => getElem?_goto_of_ne hne .left
  have hlt : first < w.tasks.length := (List.getElem?_eq_some_iff.1 htask).1
  have hjob : w.isJob first = t.call.isJob := isJob_of_getElem? htask
  have hfilter : (List.range (first + 1)).filter w.isJob =
      (List.range first).filter w.isJob ++ if t.call.isJob then [first] else [] := by
    rw [List.range_succ, List.filter_append, List.filter_singleton, hjob, Bool.cond_eq_ite]
  have hrelease : (w.letGo first).throttle =
      { w.throttle with
        holder := w.throttle.waiting.head?
        waiting := w.throttle.waiting.tail
        running := w.throttle.running.filter (· ≠ first)
        ended := if t.call.isJob then w.throttle.ended ++ [first] else w.throttle.ended } := by
    change w.throttle.release = _
    rw [Throttle.release, h.holder_of_first htask]
  have hhead : w.throttle.waiting.head? = w.claims[first + 1]? := by
    rw [h.waiting, List.head?_drop]
  -- the next call has done nothing so far
  have hway : (w.letGo first).isUnderWay (first + 1) = false := by
    rw [isUnderWay, hothers _ (by omega)]
    exact h.isUnderWay_of_first_lt (Nat.lt_succ_self first)
  constructor
  case first_le =>
    rw [hlength]
    exact hlt
  case nextId =>
    rw [hlength, hrelease]
    exact h.nextId
  case holder =>
    rw [hclaims, hrelease]
    exact hhead
  case waiting =>
    rw [hclaims, hrelease, h.waiting]
    exact List.tail_drop
  case running =>
    rw [hway, hrelease]
    change w.throttle.running.filter (· ≠ first) = []
    rw [h.running]
    split
    · simp
    · rfl
  case ended =>
    rw [hjobs, hrelease, hfilter, ← h.ended]
    split
    · rfl
    · exact (List.append_nil _).symm
  case granted =>
    rw [granted_letGo, h.granted, hhead, hlength, Nat.min_eq_left hlt]
    exact w.range_append_claim hlt
  case begun =>
    rw [begun_letGo, h.begun, isUnderWay_of_getElem? htask, hunderWay, hjobs, hway, hfilter,
      if_neg Bool.false_ne_true, List.append_nil]
  case before =>
    intro j u hu hle
    rcases Nat.lt_succ_iff_lt_or_eq.1 hle with hlt | rfl
    · rw [hothers j hlt.ne] at hu
      exact h.before j u hu hlt
    · rw [hself] at hu
      obtain rfl := Option.some.inj hu
      rfl
  case turn =>
    intro u hu
    rw [hothers _ (by omega)] at hu
    rw [h.after _ u hu (by omega)]
    rfl
  case after =>
    intro j u hu hgt
    rw [hothers j (by omega)] at hu
    exact h.after j u hu (by omega)

/-- The slot after a new call has come. -/
lemma slot_enter (h : Sound w first) (call : ThrottleCall) :
    let claims := w.claims ++ [⟨w.tasks.length, call.isJob⟩]
    (w.enter call).throttle.holder = claims[first]? ∧
      (w.enter call).throttle.waiting = claims.drop (first + 1) := by
  intro claims
  have hlength := w.length_claims
  rcases Nat.lt_or_eq_of_le h.first_le with hlt | heq
  · obtain ⟨t, htask⟩ : ∃ t, w.tasks[first]? = some t := ⟨_, List.getElem?_eq_getElem hlt⟩
    rw [enter_of_busy (h.holder_of_first htask)]
    constructor
    · rw [List.getElem?_append_left (by omega)]
      exact h.holder
    · rw [List.drop_append_of_le_length (by omega), ← h.waiting, ← h.nextId]
  · have hfree : w.throttle.holder = none := by
      rw [h.holder]
      exact List.getElem?_eq_none_iff.2 (by omega)
    rw [enter_of_free hfree, h.nextId]
    constructor
    · rw [heq]
      exact ((congrArg _ hlength.symm).trans List.getElem?_concat_length).symm
    · change w.throttle.waiting = _
      rw [h.waiting, List.drop_eq_nil_of_le (by omega), List.drop_eq_nil_of_le]
      rw [List.length_append, List.length_singleton]
      omega

/-- A new call comes. -/
lemma enter (h : Sound w first) (call : ThrottleCall) : Sound (w.enter call) first := by
  have htasks : (w.enter call).tasks = w.tasks ++ [⟨call, .waiting⟩] := rfl
  have hlength : (w.enter call).tasks.length = w.tasks.length + 1 := by
    rw [htasks, List.length_append, List.length_singleton]
  have hclaims : (w.enter call).claims = w.claims ++ [⟨w.tasks.length, call.isJob⟩] :=
    List.mapIdx_concat
  have hold : ∀ j, j < w.tasks.length → (w.enter call).tasks[j]? = w.tasks[j]? :=
    fun j hj => List.getElem?_append_left hj
  have hnew : ∀ (j : Nat) (t : ThrottleTask), (w.enter call).tasks[j]? = some t →
      w.tasks[j]? = some t ∨ (w.tasks[j]? = none ∧ t.phase = .waiting) := by
    intro j t ht
    rw [htasks, List.getElem?_append] at ht
    split at ht
    next hlt => exact Or.inl ht
    next hge =>
      right
      constructor
      · exact List.getElem?_eq_none_iff.2 (Nat.le_of_not_lt hge)
      · rw [List.mem_singleton.1 (List.mem_of_getElem? ht)]
  have hjobs : (List.range first).filter (w.enter call).isJob =
      (List.range first).filter w.isJob := by
    apply List.filter_congr
    intro j hj
    rw [isJob, hold j ((List.mem_range.1 hj).trans_le h.first_le), isJob]
  have hway : (w.enter call).isUnderWay first = w.isUnderWay first := by
    rw [isUnderWay, isUnderWay]
    cases ht : (w.enter call).tasks[first]? with
    | none =>
      have hge := List.getElem?_eq_none_iff.1 ht
      have := h.first_le
      omega
    | some t =>
      rcases hnew first t ht with hsame | ⟨hnone, hphase⟩
      · rw [hsame]
      · rw [hnone, Option.any_some, hphase]
        rfl
  obtain ⟨hnextId, hrunning, hended⟩ := w.jobs_enter call
  constructor
  case first_le =>
    rw [hlength]
    exact h.first_le.trans (Nat.le_succ _)
  case nextId =>
    rw [hlength, hnextId, h.nextId]
  case holder =>
    rw [hclaims]
    exact (h.slot_enter call).1
  case waiting =>
    rw [hclaims]
    exact (h.slot_enter call).2
  case running =>
    rw [hrunning, hway]
    exact h.running
  case ended =>
    rw [hended, hjobs]
    exact h.ended
  case granted =>
    rw [granted_enter, h.granted, hlength, h.nextId]
    rcases Nat.lt_or_eq_of_le h.first_le with hlt | heq
    · rw [if_pos (h.isBusy_iff.2 hlt), Nat.min_eq_left hlt, Nat.min_eq_left (by omega)]
      exact List.append_nil _
    · have hfree : ¬w.throttle.isBusy = true := fun hbusy => by
        have := h.isBusy_iff.1 hbusy
        omega
      rw [if_neg hfree, heq, Nat.min_eq_right (Nat.le_succ _), Nat.min_self, List.range_succ]
  case begun =>
    rw [begun_enter, hjobs, hway]
    exact h.begun
  case before =>
    intro j t ht hlt
    rw [hold j (hlt.trans_le h.first_le)] at ht
    exact h.before j t ht hlt
  case turn =>
    intro t ht
    rcases hnew first t ht with hsame | ⟨-, hphase⟩
    · exact h.turn t hsame
    · rw [hphase]
      rfl
  case after =>
    intro j t ht hgt
    rcases hnew j t ht with hsame | ⟨-, hphase⟩
    · exact h.after j t hsame hgt
    · exact hphase

/-- A call does a step. -/
lemma go (h : Sound w first) (hgo : Goes k w w') : ∃ first', Sound w' first' := by
  cases hgo with
  | handOver htask hholder =>
    obtain rfl := h.eq_first_of_holder hholder
    exact ⟨k, h.goto htask rfl (fun hlt => absurd hlt (lt_irrefl k)) (fun _ => rfl) le_rfl⟩
  | beginHanded htask =>
    obtain rfl := h.eq_first_of_phase htask rfl TurnPhase.noConfusion
    exact ⟨k, h.startJob htask rfl rfl⟩
  | beginInline htask hholder =>
    obtain rfl := h.eq_first_of_holder hholder
    exact ⟨k, h.startJob htask rfl rfl⟩
  | finish failed htask =>
    obtain rfl := h.eq_first_of_phase htask rfl TurnPhase.noConfusion
    exact ⟨k, h.goto htask rfl (fun hlt => absurd hlt (lt_irrefl k)) (fun _ => rfl) le_rfl⟩
  | leave htask =>
    obtain rfl := h.eq_first_of_phase htask rfl TurnPhase.noConfusion
    exact ⟨k + 1, h.letGo htask rfl⟩
  | pass htask hjob hholder =>
    obtain rfl := h.eq_first_of_holder hholder
    exact ⟨k + 1, h.letGo htask hjob.symm⟩
  | comeBack htask =>
    have hlt : k < first := (h.isLeft_iff htask).1 rfl
    exact ⟨first, h.goto htask rfl (fun _ => rfl) (fun heq => absurd heq hlt.ne) hlt.le⟩

/-- Anything that can happen keeps the order of turns. -/
lemma step (h : Sound w first) (hstep : Step w w') : ∃ first', Sound w' first' := by
  cases hstep with
  | enter call => exact ⟨first, h.enter call⟩
  | go hgo => exact h.go hgo

end Sound

/-- At any time the first so many calls have left the slot. -/
theorem exists_sound (hsteps : Steps {} w) : ∃ first, Sound w first := by
  induction hsteps with
  | refl => exact ⟨0, Sound.start⟩
  | tail _ hstep ih =>
    obtain ⟨first, h⟩ := ih
    exact h.step hstep

end ThrottleSystem

end Intercept
