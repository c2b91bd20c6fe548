import Mathlib.Algebra.Ring.Nat
import Mathlib.Data.List.TakeWhile
import UniMrcp.Apt.TimerQueue
import UniMrcp.Lib.Traces

/-!
# The time at which timers fire

`Agenda` says what a timer queue is for: each timer that is set has a deadline,
and an advance fires the timers whose deadline it reaches.  `timers_fire_on_time`
shows that the queue does so, in the order of the deadlines.

The queue keeps the deadlines relative to the elapsed time, and takes it off
the timers when it gets to 0xFFFF.  It does so before it looks for the timers
that are due, so the scheduled time of one that is overdue wraps around, and the
timer does not fire: `overdue_timer_lost`.  The condition is that no timer is
overdue then, and that the sums do not wrap around.
-/

namespace UniMrcp.Apt

open UniMrcp.Lib.Traces

/-! ## The calls -/

inductive TimerCall (T : Type) where
  | set (timer : T) (timeout : UInt32)
  | kill (timer : T)
  | advance (elapsedTime : UInt32)

/-- What a call returns, and the timers whose callback it called. -/
inductive TimerAnswer (T : Type) where
  | done (status : Bool)
  | fired (timers : List T)
  deriving DecidableEq

section

variable {T : Type} [DecidableEq T]

/-- The queue advances, and the timers whose callback is called are noted. -/
def timersAdvance (queue : TimerQueue T) (elapsedTime : UInt32) : TimerQueue T × List T :=
  aptTimerQueueAdvance (W := TimerQueue T × List T) Prod.fst (fun world queue => (queue, world.2))
    (fun world timer => (world.1, world.2 ++ [timer])) (queue, []) elapsedTime

def timerStep (queue : TimerQueue T) : TimerCall T → Option (TimerQueue T × TimerAnswer T)
  | .set timer timeout =>
    some ((aptTimerSet queue timer timeout).2, .done (aptTimerSet queue timer timeout).1)
  | .kill timer => some ((aptTimerKill queue timer).2, .done (aptTimerKill queue timer).1)
  | .advance elapsedTime =>
    some ((timersAdvance queue elapsedTime).1, .fired (timersAdvance queue elapsedTime).2)

/-! ## The agenda -/

/-- The time advanced so far, and the deadlines of the timers that are set. -/
structure Agenda (T : Type) where
  now : Nat
  due : T → Option Nat

variable {queue : TimerQueue T} {agenda : Agenda T} {timer : T} {timeout elapsedTime : UInt32}

def Agenda.empty : Agenda T := ⟨0, fun _ => none⟩

def Agenda.after (agenda : Agenda T) : TimerCall T → Agenda T
  | .set timer timeout =>
    if timeout = 0 then agenda
    else { agenda with
      due := fun t => if t = timer then some (agenda.now + timeout.toNat) else agenda.due t }
  | .kill timer => { agenda with due := fun t => if t = timer then none else agenda.due t }
  | .advance elapsedTime =>
    { now := agenda.now + elapsedTime.toNat
      due := fun t => (agenda.due t).filter (fun deadline =>
        agenda.now + elapsedTime.toNat < deadline) }

/-- The agenda behind a list of calls. -/
def agendaOf (calls : List (TimerCall T)) : Agenda T := calls.foldl Agenda.after .empty

/-- The time that a list of calls advances. -/
def advanced : List (TimerCall T) → Nat
  | [] => 0
  | .advance elapsedTime :: calls => elapsedTime.toNat + advanced calls
  | _ :: calls => advanced calls

/-- The call neither sets nor kills the timer. -/
def TimerCall.Leaves (timer : T) : TimerCall T → Prop
  | .set t _ => t ≠ timer
  | .kill t => t ≠ timer
  | .advance _ => True

instance (timer : T) (call : TimerCall T) : Decidable (call.Leaves timer) :=
  match call with
  | .set _ _ => inferInstanceAs (Decidable (_ ≠ _))
  | .kill _ => inferInstanceAs (Decidable (_ ≠ _))
  | .advance _ => isTrue trivial

/-- A timer that is left alone keeps its deadline until it is reached. -/
theorem due_after_left (deadline : Nat) (calls : List (TimerCall T)) (agenda : Agenda T)
    (hleft : ∀ call ∈ calls, call.Leaves timer)
    (hdue : agenda.due timer = if agenda.now < deadline then some deadline else none) :
    (calls.foldl Agenda.after agenda).now = agenda.now + advanced calls ∧
      (calls.foldl Agenda.after agenda).due timer =
        if agenda.now + advanced calls < deadline then some deadline else none := by
  induction calls generalizing agenda with
  | nil => exact ⟨rfl, hdue⟩
  | cons call calls ih =>
    have hcall := hleft call List.mem_cons_self
    have hrest : ∀ call ∈ calls, call.Leaves timer :=
      fun call h => hleft call (List.mem_cons_of_mem _ h)
    cases call with
    | set t timeout =>
      have hsame : (agenda.after (.set t timeout)).now = agenda.now ∧
          (agenda.after (.set t timeout)).due timer = agenda.due timer := by
        simp only [Agenda.after]
        split
        · exact ⟨rfl, rfl⟩
        · exact ⟨rfl, if_neg (Ne.symm hcall)⟩
      obtain ⟨hnow, hdue'⟩ := ih (agenda.after (.set t timeout)) hrest
        (by rw [hsame.1, hsame.2]; exact hdue)
      rw [hsame.1] at hnow hdue'
      exact ⟨hnow, hdue'⟩
    | kill t =>
      exact ih (agenda.after (.kill t)) hrest
        ((if_neg (Ne.symm hcall)).trans hdue)
    | advance elapsedTime =>
      have hfilter : (agenda.after (.advance elapsedTime)).due timer =
          if agenda.now + elapsedTime.toNat < deadline then some deadline else none := by
        simp only [Agenda.after, hdue]
        split
        · split <;> simp_all
        · rw [if_neg (by omega)]
          rfl
      obtain ⟨hnow, hdue'⟩ := ih (agenda.after (.advance elapsedTime)) hrest hfilter
      have hsum : agenda.now + elapsedTime.toNat + advanced calls =
          agenda.now + advanced (.advance elapsedTime :: calls) := Nat.add_assoc _ _ _
      refine ⟨hnow.trans hsum, ?_⟩
      rw [← hsum]
      exact hdue'

/-! ## The queue follows the agenda -/

/-- The timers of the ring are those with a deadline, and the scheduled times are
the deadlines relative to the elapsed time. -/
structure Tracks (queue : TimerQueue T) (now : Nat) (due : T → Option Nat) : Prop where
  nodup : queue.ring.Nodup
  sorted : queue.ring.Pairwise (fun a b => queue.scheduledTime a ≤ queue.scheduledTime b)
  set : ∀ t ∈ queue.ring, ∃ deadline, due t = some deadline ∧
    (queue.scheduledTime t).toNat + now = queue.elapsedTime.toNat + deadline
  unset : ∀ t, t ∉ queue.ring → due t = none ∧ queue.scheduledTime t = 0

/-- Between the calls no timer is due. -/
structure Keeps (queue : TimerQueue T) (agenda : Agenda T) : Prop
    extends Tracks queue agenda.now agenda.due where
  ahead : ∀ t ∈ queue.ring, queue.elapsedTime < queue.scheduledTime t

omit [DecidableEq T] in
theorem keeps_create : Keeps (aptTimerQueueCreate T) .empty :=
  ⟨⟨List.nodup_nil, List.Pairwise.nil, fun _ h => (nomatch h), fun _ _ => ⟨rfl, rfl⟩⟩,
    fun _ h => (nomatch h)⟩

/-- The sums of a call do not wrap around, and no timer is overdue when the
elapsed time is taken off the timers.  A timer is set only while it is not. -/
def CallTimely (queue : TimerQueue T) : TimerCall T → Prop
  | .set timer timeout =>
    timer ∉ queue.ring ∧ queue.elapsedTime.toNat + timeout.toNat < 2 ^ 32
  | .kill _ => True
  | .advance elapsedTime => queue.ring = [] ∨
    queue.elapsedTime.toNat + elapsedTime.toNat < 2 ^ 32 ∧
      (0xFFFF ≤ queue.elapsedTime.toNat + elapsedTime.toNat → ∀ t ∈ queue.ring,
        queue.elapsedTime.toNat + elapsedTime.toNat ≤ (queue.scheduledTime t).toNat)

instance (queue : TimerQueue T) (call : TimerCall T) : Decidable (CallTimely queue call) :=
  match call with
  | .set _ _ => inferInstanceAs (Decidable (_ ∧ _))
  | .kill _ => isTrue trivial
  | .advance _ => inferInstanceAs (Decidable (_ ∨ _ ∧ (_ → _)))

/-! ### Setting a timer -/

theorem ring_aptTimerSet_sorted (hne : timeout ≠ 0) (hmem : timer ∉ queue.ring)
    (h : queue.ring.Pairwise (fun a b => queue.scheduledTime a ≤ queue.scheduledTime b)) :
    (aptTimerSet queue timer timeout).2.ring.Pairwise (fun a b =>
      (aptTimerSet queue timer timeout).2.scheduledTime a ≤
        (aptTimerSet queue timer timeout).2.scheduledTime b) := by
  have hold : ∀ t ∈ queue.ring,
      (queue.schedule timer (queue.elapsedTime + timeout)).scheduledTime t =
        queue.scheduledTime t := by
    intro t ht
    exact if_neg (fun heq : t = timer => hmem (heq ▸ ht))
  have hsorted : queue.ring.Pairwise (fun a b =>
      (queue.schedule timer (queue.elapsedTime + timeout)).scheduledTime a ≤
        (queue.schedule timer (queue.elapsedTime + timeout)).scheduledTime b) := by
    refine h.imp_of_mem (fun ha hb hab => ?_)
    rw [hold _ ha, hold _ hb]
    exact hab
  simp only [aptTimerSet, if_neg hne]
  split
  · exact List.pairwise_singleton _ _
  · exact List.pairwise_reverse.mpr
      (sorted_timerInsertLoop (List.pairwise_reverse.mpr hsorted))

theorem scheduledTime_aptTimerSet (hne : timeout ≠ 0) (t : T) :
    (aptTimerSet queue timer timeout).2.scheduledTime t =
      if t = timer then queue.elapsedTime + timeout else queue.scheduledTime t := by
  simp only [aptTimerSet, if_neg hne]
  split <;> rfl

theorem elapsedTime_aptTimerSet (queue : TimerQueue T) (timer : T) (timeout : UInt32) :
    (aptTimerSet queue timer timeout).2.elapsedTime = queue.elapsedTime := by
  unfold aptTimerSet
  split
  · rfl
  · dsimp only
    split <;> rfl

theorem Keeps.setTimer (h : Keeps queue agenda) (htimely : CallTimely queue (.set timer timeout)) :
    Keeps (aptTimerSet queue timer timeout).2 (agenda.after (.set timer timeout)) := by
  obtain ⟨hmem, hwrap⟩ := htimely
  by_cases hne : timeout = 0
  · simp only [aptTimerSet, Agenda.after, if_pos hne]
    exact h
  · have htime : (queue.elapsedTime + timeout).toNat =
        queue.elapsedTime.toNat + timeout.toNat := by
      rw [UInt32.toNat_add, Nat.mod_eq_of_lt hwrap]
    have hpos : 0 < timeout.toNat := UInt32.pos_iff_ne_zero.mpr hne
    simp only [Agenda.after, if_neg hne]
    refine ⟨⟨nodup_ring_aptTimerSet h.nodup hmem, ring_aptTimerSet_sorted hne hmem h.sorted,
      fun t ht => ?_, fun t ht => ?_⟩, fun t ht => ?_⟩
    · rw [scheduledTime_aptTimerSet hne, elapsedTime_aptTimerSet]
      rcases mem_ring_aptTimerSet.mp ht with ⟨rfl, -⟩ | ht
      · refine ⟨agenda.now + timeout.toNat, if_pos rfl, ?_⟩
        rw [if_pos rfl]
        show _ + agenda.now = _
        omega
      · have htimer : t ≠ timer := fun heq => hmem (heq ▸ ht)
        rw [if_neg htimer]
        obtain ⟨deadline, hdue, heq⟩ := h.set t ht
        exact ⟨deadline, (if_neg htimer).trans hdue, heq⟩
    · rw [mem_ring_aptTimerSet, not_or, not_and] at ht
      have htimer : t ≠ timer := fun heq => ht.1 heq hne
      obtain ⟨hdue, hzero⟩ := h.unset t ht.2
      rw [scheduledTime_aptTimerSet hne, if_neg htimer]
      exact ⟨(if_neg htimer).trans hdue, hzero⟩
    · rw [scheduledTime_aptTimerSet hne, elapsedTime_aptTimerSet]
      rcases mem_ring_aptTimerSet.mp ht with ⟨rfl, -⟩ | ht
      · rw [if_pos rfl, UInt32.lt_iff_toNat_lt]
        omega
      · rw [if_neg (fun heq : t = timer => hmem (heq ▸ ht))]
        exact h.ahead t ht

/-! ### Killing a timer -/

theorem elapsedTime_aptTimerKill : (aptTimerKill queue timer).2.ring = [] ∨
    (aptTimerKill queue timer).2.elapsedTime = queue.elapsedTime := by
  unfold aptTimerKill
  split
  · exact .inr rfl
  · dsimp only
    split
    · rename_i hempty
      exact .inl (List.isEmpty_iff.mp hempty)
    · exact .inr rfl

theorem Keeps.killTimer (h : Keeps queue agenda) (timer : T) :
    Keeps (aptTimerKill queue timer).2 (agenda.after (.kill timer)) := by
  have hring : (aptTimerKill queue timer).2.ring = queue.ring.erase timer := by
    rw [ring_aptTimerKill]
    split
    · -- no timer of the ring has the time 0
      rename_i hzero
      refine (List.erase_of_not_mem fun hmem => ?_).symm
      have hahead := h.ahead timer hmem
      rw [hzero] at hahead
      exact absurd hahead (Nat.not_lt_zero _)
    · rfl
  have hold : ∀ t ∈ queue.ring.erase timer, t ∈ queue.ring ∧ t ≠ timer := by
    intro t ht
    have hother := (h.nodup.mem_erase_iff.mp ht).1
    exact ⟨List.mem_of_mem_erase ht, hother⟩
  have hscheduled : ∀ t ∈ queue.ring.erase timer,
      (aptTimerKill queue timer).2.scheduledTime t = queue.scheduledTime t := by
    intro t ht
    rw [scheduledTime_aptTimerKill]
    exact if_neg (hold t ht).2
  have helapsed : ∀ t ∈ queue.ring.erase timer,
      (aptTimerKill queue timer).2.elapsedTime = queue.elapsedTime := by
    intro t ht
    refine elapsedTime_aptTimerKill.resolve_left fun hempty => ?_
    rw [← hring, hempty] at ht
    exact nomatch ht
  refine ⟨⟨?_, ?_, fun t ht => ?_, fun t ht => ?_⟩, fun t ht => ?_⟩
  · rw [hring]
    exact h.nodup.erase timer
  · rw [hring]
    refine (h.sorted.sublist List.erase_sublist).imp_of_mem (fun ha hb hab => ?_)
    rw [hscheduled _ ha, hscheduled _ hb]
    exact hab
  · rw [hring] at ht
    rw [hscheduled t ht, helapsed t ht]
    obtain ⟨deadline, hdue, heq⟩ := h.set t (hold t ht).1
    exact ⟨deadline, (if_neg (hold t ht).2).trans hdue, heq⟩
  · rw [hring, h.nodup.mem_erase_iff, not_and'] at ht
    rw [scheduledTime_aptTimerKill]
    by_cases heq : t = timer
    · exact ⟨if_pos heq, if_pos heq⟩
    · obtain ⟨hdue, hzero⟩ := h.unset t (fun hin => ht hin heq)
      exact ⟨(if_neg heq).trans hdue, (if_neg heq).trans hzero⟩
  · rw [hring] at ht
    rw [hscheduled t ht, helapsed t ht]
    exact h.ahead t (hold t ht).1

/-! ### Advancing -/

/-- The loop fires the timers at the front of the ring that are due. -/
theorem timerLoop_spec (due : T → Bool) (passes : Nat) (noted : List T)
    (hdue : ∀ t ∈ queue.ring, due t = true ↔ queue.scheduledTime t ≤ queue.elapsedTime)
    (hnodup : queue.ring.Nodup) (hpasses : queue.ring.length ≤ passes) :
    timerLoop (W := TimerQueue T × List T) Prod.fst (fun world queue => (queue, world.2))
      (fun world timer => (world.1, world.2 ++ [timer])) passes (queue, noted) =
      ({ queue with
        ring := queue.ring.dropWhile due
        scheduledTime := fun t =>
          if t ∈ queue.ring.takeWhile due then 0 else queue.scheduledTime t },
        noted ++ queue.ring.takeWhile due) := by
  obtain ⟨ring, elapsedTime, scheduledTime⟩ := queue
  dsimp only at hdue hnodup hpasses ⊢
  induction passes generalizing ring scheduledTime noted with
  | zero =>
    obtain rfl := List.eq_nil_of_length_eq_zero (Nat.le_zero.mp hpasses)
    simp [timerLoop]
  | succ passes ih =>
    cases ring with
    | nil => simp [timerLoop]
    | cons timer ring =>
      obtain ⟨hmem, hnodup⟩ := List.nodup_cons.mp hnodup
      have hfirst := hdue timer List.mem_cons_self
      simp only [timerLoop]
      by_cases hle : scheduledTime timer ≤ elapsedTime
      · rw [if_neg (UInt32.not_lt.mpr hle), List.takeWhile_cons_of_pos (hfirst.mpr hle),
          List.dropWhile_cons_of_pos (hfirst.mpr hle)]
        simp only [TimerQueue.schedule]
        rw [ih]
        · have hcleared : (fun t => if t ∈ ring.takeWhile due then 0
              else if t = timer then 0 else scheduledTime t) =
              fun t => if t ∈ timer :: ring.takeWhile due then 0 else scheduledTime t := by
            funext t
            by_cases heq : t = timer <;> simp [heq]
          rw [hcleared, List.append_assoc]
          rfl
        · intro t ht
          rw [if_neg (fun heq : t = timer => hmem (heq ▸ ht))]
          exact hdue t (List.mem_cons_of_mem _ ht)
        · exact hnodup
        · simpa using hpasses
      · have hnot : ¬ due timer = true := fun h => hle (hfirst.mp h)
        rw [if_pos (UInt32.not_le.mp hle), List.takeWhile_cons_of_neg hnot,
          List.dropWhile_cons_of_neg hnot]
        simp

/-- The timer is due. -/
def TimerQueue.isDue (queue : TimerQueue T) (t : T) : Bool :=
  queue.scheduledTime t ≤ queue.elapsedTime

omit [DecidableEq T] in
/-- In an ordered ring the timers at the front that are due are all that are. -/
theorem mem_takeWhile_due
    (h : queue.ring.Pairwise (fun a b => queue.scheduledTime a ≤ queue.scheduledTime b)) (t : T) :
    (t ∈ queue.ring.takeWhile queue.isDue ↔
      t ∈ queue.ring ∧ queue.scheduledTime t ≤ queue.elapsedTime) ∧
    (t ∈ queue.ring.dropWhile queue.isDue ↔
      t ∈ queue.ring ∧ queue.elapsedTime < queue.scheduledTime t) := by
  have htake : ∀ t ∈ queue.ring.takeWhile queue.isDue,
      queue.scheduledTime t ≤ queue.elapsedTime :=
    fun t ht => by simpa [TimerQueue.isDue] using List.mem_takeWhile_imp ht
  have hdrop : ∀ t ∈ queue.ring.dropWhile queue.isDue,
      queue.elapsedTime < queue.scheduledTime t := by
    intro t ht
    have hsorted := h.sublist (List.dropWhile_sublist queue.isDue)
    have hhead := List.head?_dropWhile_not queue.isDue queue.ring
    cases hring : queue.ring.dropWhile queue.isDue with
    | nil =>
      rw [hring] at ht
      cases ht
    | cons timer later =>
      rw [hring] at ht hsorted hhead
      have hfirst : queue.elapsedTime < queue.scheduledTime timer := by
        simpa [TimerQueue.isDue] using hhead
      rcases List.mem_cons.mp ht with rfl | ht
      · exact hfirst
      · exact UInt32.lt_of_lt_of_le hfirst ((List.pairwise_cons.mp hsorted).1 t ht)
  have hsplit : t ∈ queue.ring ↔
      t ∈ queue.ring.takeWhile queue.isDue ∨ t ∈ queue.ring.dropWhile queue.isDue := by
    rw [← List.mem_append, List.takeWhile_append_dropWhile]
  rw [hsplit]
  constructor
  · refine ⟨fun ht => ⟨.inl ht, htake t ht⟩, fun ⟨ht, hdue⟩ => ht.resolve_right ?_⟩
    exact fun hlater => UInt32.not_le.mpr (hdrop t hlater) hdue
  · refine ⟨fun ht => ⟨.inr ht, hdrop t ht⟩, fun ⟨ht, hlater⟩ => ht.resolve_left ?_⟩
    exact fun hdue => UInt32.not_le.mpr hlater (htake t hdue)

/-- The elapsed time is added, and perhaps taken off the timers. -/
theorem Tracks.elapse {now : Nat} {due : T → Option Nat} (h : Tracks queue now due)
    (hwrap : queue.elapsedTime.toNat + elapsedTime.toNat < 2 ^ 32)
    (hoverdue : 0xFFFF ≤ queue.elapsedTime.toNat + elapsedTime.toNat → ∀ t ∈ queue.ring,
      queue.elapsedTime.toNat + elapsedTime.toNat ≤ (queue.scheduledTime t).toNat) :
    Tracks (elapsedTimeAdd queue elapsedTime) (now + elapsedTime.toNat) due := by
  have hsum : (queue.elapsedTime + elapsedTime).toNat =
      queue.elapsedTime.toNat + elapsedTime.toNat := by
    rw [UInt32.toNat_add, Nat.mod_eq_of_lt hwrap]
  unfold elapsedTimeAdd
  dsimp only
  split
  · rename_i hlarge
    have hlarge : 0xFFFF ≤ queue.elapsedTime.toNat + elapsedTime.toNat := by
      rw [← hsum]
      exact UInt32.le_iff_toNat_le.mp hlarge
    have htaken : ∀ t ∈ queue.ring,
        (queue.scheduledTime t - (queue.elapsedTime + elapsedTime)).toNat =
          (queue.scheduledTime t).toNat - (queue.elapsedTime.toNat + elapsedTime.toNat) := by
      intro t ht
      rw [UInt32.toNat_sub_of_le, hsum]
      rw [UInt32.le_iff_toNat_le, hsum]
      exact hoverdue hlarge t ht
    refine ⟨h.nodup, ?_, fun t ht => ?_, fun t ht => ?_⟩
    · refine h.sorted.imp_of_mem (fun {a b} ha hb hab => ?_)
      change a ∈ queue.ring at ha
      change b ∈ queue.ring at hb
      simp only [aptTimersReschedule]
      rw [if_pos ha, if_pos hb, UInt32.le_iff_toNat_le, htaken a ha, htaken b hb]
      exact Nat.sub_le_sub_right (UInt32.le_iff_toNat_le.mp hab) _
    · change t ∈ queue.ring at ht
      obtain ⟨deadline, hdue, heq⟩ := h.set t ht
      have hbound := hoverdue hlarge t ht
      refine ⟨deadline, hdue, ?_⟩
      simp only [aptTimersReschedule]
      rw [if_pos ht, htaken t ht]
      show _ = 0 + deadline
      omega
    · obtain ⟨hdue, hzero⟩ := h.unset t ht
      exact ⟨hdue, (if_neg ht).trans hzero⟩
  · refine ⟨h.nodup, h.sorted, fun t ht => ?_, h.unset⟩
    obtain ⟨deadline, hdue, heq⟩ := h.set t ht
    refine ⟨deadline, hdue, ?_⟩
    dsimp only
    omega

/-- The timers that an advance fires: those whose deadline it reaches, each once
and in the order of the deadlines. -/
structure FiresDue (agenda : Agenda T) (elapsedTime : UInt32) (fired : List T) : Prop where
  nodup : fired.Nodup
  mem : ∀ t, t ∈ fired ↔
    ∃ deadline, agenda.due t = some deadline ∧ deadline ≤ agenda.now + elapsedTime.toNat
  ordered : fired.Pairwise (fun a b =>
    ∀ deadline ∈ agenda.due a, ∀ deadline' ∈ agenda.due b, deadline ≤ deadline')

/-- The loop fires what is due, and the others stay. -/
theorem Tracks.fire (h : Tracks queue (agenda.now + elapsedTime.toNat) agenda.due) :
    Keeps { queue with
        ring := queue.ring.dropWhile queue.isDue
        scheduledTime := fun t =>
          if t ∈ queue.ring.takeWhile queue.isDue then 0 else queue.scheduledTime t }
        (agenda.after (.advance elapsedTime)) ∧
      FiresDue agenda elapsedTime (queue.ring.takeWhile queue.isDue) := by
  have hdue : ∀ t ∈ queue.ring, ∃ deadline, agenda.due t = some deadline ∧
      (queue.scheduledTime t).toNat + (agenda.now + elapsedTime.toNat) =
        queue.elapsedTime.toNat + deadline ∧
      (queue.scheduledTime t ≤ queue.elapsedTime ↔
        deadline ≤ agenda.now + elapsedTime.toNat) := by
    intro t ht
    obtain ⟨deadline, hdue, heq⟩ := h.set t ht
    refine ⟨deadline, hdue, heq, ?_⟩
    rw [UInt32.le_iff_toNat_le]
    omega
  have htake := fun t => (mem_takeWhile_due h.sorted t).1
  have hdrop := fun t => (mem_takeWhile_due h.sorted t).2
  have hkept : ∀ t ∈ queue.ring.dropWhile queue.isDue,
      (if t ∈ queue.ring.takeWhile queue.isDue then 0 else queue.scheduledTime t) =
        queue.scheduledTime t := by
    intro t ht
    refine if_neg (fun hin => ?_)
    exact UInt32.not_le.mpr ((hdrop t).mp ht).2 ((htake t).mp hin).2
  refine ⟨⟨⟨h.nodup.sublist (List.dropWhile_sublist _), ?_, fun t ht => ?_, fun t ht => ?_⟩,
    fun t ht => ?_⟩, ⟨h.nodup.sublist (List.takeWhile_sublist _), fun t => ?_, ?_⟩⟩
  · refine (h.sorted.sublist (List.dropWhile_sublist _)).imp_of_mem (fun ha hb hab => ?_)
    dsimp only
    rw [hkept _ ha, hkept _ hb]
    exact hab
  · obtain ⟨hmem, hahead⟩ := (hdrop t).mp ht
    obtain ⟨deadline, hdue, heq, hiff⟩ := hdue t hmem
    have hlater : agenda.now + elapsedTime.toNat < deadline :=
      Nat.lt_of_not_le (fun hle => UInt32.not_le.mpr hahead (hiff.mpr hle))
    refine ⟨deadline, ?_, ?_⟩
    · simp [Agenda.after, hdue, hlater]
    · dsimp only
      rw [hkept t ht]
      exact heq
  · by_cases hmem : t ∈ queue.ring
    · have hle : queue.scheduledTime t ≤ queue.elapsedTime :=
        UInt32.not_lt.mp (fun hlt => ht ((hdrop t).mpr ⟨hmem, hlt⟩))
      obtain ⟨deadline, hdue, -, hiff⟩ := hdue t hmem
      refine ⟨?_, if_pos ((htake t).mpr ⟨hmem, hle⟩)⟩
      have hpassed := hiff.mp hle
      simp only [Agenda.after, hdue, Option.filter]
      rw [if_neg (by simpa using hpassed)]
    · obtain ⟨hnone, hzero⟩ := h.unset t hmem
      refine ⟨by simp [Agenda.after, hnone], ?_⟩
      dsimp only
      rw [hzero, ite_self]
  · dsimp only
    rw [hkept t ht]
    exact ((hdrop t).mp ht).2
  · rw [htake]
    constructor
    · rintro ⟨hmem, hle⟩
      obtain ⟨deadline, hdue, -, hiff⟩ := hdue t hmem
      exact ⟨deadline, hdue, hiff.mp hle⟩
    · rintro ⟨deadline, hsome, hpassed⟩
      by_cases hmem : t ∈ queue.ring
      · obtain ⟨deadline', hdue, -, hiff⟩ := hdue t hmem
        cases hsome.symm.trans hdue
        exact ⟨hmem, hiff.mpr hpassed⟩
      · rw [(h.unset t hmem).1] at hsome
        exact nomatch hsome
  · refine (h.sorted.sublist (List.takeWhile_sublist _)).imp_of_mem
      (fun {a b} ha hb hab deadline hdeadline deadline' hdeadline' => ?_)
    obtain ⟨_, hfirst, heq, -⟩ := hdue a ((htake a).mp ha).1
    obtain ⟨_, hsecond, heq', -⟩ := hdue b ((htake b).mp hb).1
    cases hdeadline.symm.trans hfirst
    cases hdeadline'.symm.trans hsecond
    have hle := UInt32.le_iff_toNat_le.mp hab
    omega

theorem Keeps.advance (h : Keeps queue agenda) (htimely : CallTimely queue (.advance elapsedTime)) :
    Keeps (timersAdvance queue elapsedTime).1 (agenda.after (.advance elapsedTime)) ∧
      FiresDue agenda elapsedTime (timersAdvance queue elapsedTime).2 := by
  by_cases hempty : queue.ring = []
  · have hnone : ∀ t, agenda.due t = none ∧ queue.scheduledTime t = 0 := by
      intro t
      exact h.unset t (by rw [hempty]; exact List.not_mem_nil)
    have hsame : timersAdvance queue elapsedTime = (queue, []) := by
      simp [timersAdvance, aptTimerQueueAdvance, hempty]
    rw [hsame]
    refine ⟨⟨⟨h.nodup, h.sorted, ?_, fun t _ => ?_⟩, h.ahead⟩, ⟨List.nodup_nil, fun t => ?_, .nil⟩⟩
    · intro t ht
      rw [hempty] at ht
      exact nomatch ht
    · refine ⟨?_, (hnone t).2⟩
      simp [Agenda.after, (hnone t).1]
    · simp [(hnone t).1]
  · obtain ⟨hwrap, hoverdue⟩ := htimely.resolve_left hempty
    have htracks := h.toTracks.elapse hwrap hoverdue
    have hloop : timersAdvance queue elapsedTime = _ :=
      (if_neg (by simpa using hempty)).trans (timerLoop_spec
        (elapsedTimeAdd queue elapsedTime).isDue queue.ring.length []
        (fun t _ => decide_eq_true_iff) htracks.nodup
        (Nat.le_of_eq (congrArg List.length (ring_elapsedTimeAdd queue elapsedTime))))
    rw [hloop]
    exact htracks.fire

/-! ## The runs -/

/-- A call keeps the agenda, and an advance fires what is due. -/
theorem timerStep_keeps (h : Keeps queue agenda) {call : TimerCall T}
    (htimely : CallTimely queue call) :
    ∃ queue' answer, timerStep queue call = some (queue', answer) ∧
      Keeps queue' (agenda.after call) ∧
      ∀ elapsedTime, call = .advance elapsedTime →
        ∃ fired, answer = .fired fired ∧ FiresDue agenda elapsedTime fired := by
  cases call with
  | set timer timeout => exact ⟨_, _, rfl, h.setTimer htimely, fun _ heq => (nomatch heq)⟩
  | kill timer => exact ⟨_, _, rfl, h.killTimer timer, fun _ heq => (nomatch heq)⟩
  | advance elapsedTime =>
    obtain ⟨hkeeps, hfires⟩ := h.advance htimely
    refine ⟨_, _, rfl, hkeeps, fun time heq => ?_⟩
    cases heq
    exact ⟨_, rfl, hfires⟩

theorem run_keeps (calls : List (TimerCall T)) (h : Keeps queue agenda)
    (htimely : Along timerStep CallTimely queue calls) :
    ∃ final, run timerStep queue calls = some final ∧
      Keeps final.1 (calls.foldl Agenda.after agenda) := by
  induction calls generalizing queue agenda with
  | nil => exact ⟨_, rfl, h⟩
  | cons call calls ih =>
    obtain ⟨queue', answer, hstep, hkeeps, -⟩ := timerStep_keeps h htimely.1
    obtain ⟨final, hrun, hfinal⟩ := ih hkeeps (htimely.2 _ hstep)
    refine ⟨(final.1, answer :: final.2), ?_, hfinal⟩
    simp [run, hstep, hrun]

/-- A timer that is set, and neither killed nor set again, fires once, in the
advance with which the time advanced since reaches its timeout.  The timers of
an advance fire in the order of their deadlines. -/
theorem timers_fire_on_time (before between : List (TimerCall T)) (timer : T)
    (timeout elapsedTime : UInt32) (hset : timeout ≠ 0)
    (hleft : ∀ call ∈ between, call.Leaves timer)
    (htimely : Along timerStep CallTimely (aptTimerQueueCreate T)
      ((before ++ .set timer timeout :: between) ++ [.advance elapsedTime])) :
    ∃ final answers fired,
      run timerStep (aptTimerQueueCreate T)
        ((before ++ .set timer timeout :: between) ++ [.advance elapsedTime]) =
        some (final, answers ++ [.fired fired]) ∧
      fired.Nodup ∧
      (timer ∈ fired ↔ advanced between < timeout.toNat ∧
        timeout.toNat ≤ advanced between + elapsedTime.toNat) ∧
      fired.Pairwise (fun a b =>
        ∀ deadline ∈ (agendaOf (before ++ .set timer timeout :: between)).due a,
        ∀ deadline' ∈ (agendaOf (before ++ .set timer timeout :: between)).due b,
          deadline ≤ deadline') := by
  obtain ⟨hbefore, hlast⟩ := along_append _ _ htimely
  obtain ⟨reached, hrun, hkeeps⟩ := run_keeps _ keeps_create hbefore
  obtain ⟨final, answer, hstep, -, hanswer⟩ := timerStep_keeps hkeeps (hlast reached hrun).1
  obtain ⟨fired, rfl, hfires⟩ := hanswer elapsedTime rfl
  refine ⟨final, reached.2, fired, ?_, hfires.nodup, ?_, hfires.ordered⟩
  · rw [run_append, hrun]
    simp [run, hstep]
  · -- the agenda has the deadline since the timer was set
    have hstart : ((agendaOf before).after (.set timer timeout)).due timer =
        some ((agendaOf before).now + timeout.toNat) := by
      simp [Agenda.after, hset]
    have hnow : ((agendaOf before).after (.set timer timeout)).now = (agendaOf before).now := by
      simp [Agenda.after, hset]
    have hpos : 0 < timeout.toNat := UInt32.pos_iff_ne_zero.mpr hset
    obtain ⟨hnow', hdue⟩ := due_after_left ((agendaOf before).now + timeout.toNat)
      between ((agendaOf before).after (.set timer timeout)) hleft
      (by rw [hstart, hnow, if_pos (by omega)])
    have hagenda : (before ++ .set timer timeout :: between).foldl Agenda.after .empty =
        between.foldl Agenda.after ((agendaOf before).after (.set timer timeout)) := by
      rw [List.foldl_append]
      rfl
    rw [hfires.mem, hagenda, hnow', hdue, hnow]
    split
    · rename_i hpending
      simp only [Option.some.injEq, exists_eq_left']
      omega
    · rename_i hpassed
      simp only [reduceCtorEq, false_and, exists_false, false_iff]
      omega

end

/-- Two timers, set at different times, fire in the order of their deadlines;
between the advances the elapsed time is taken off the timers. -/
theorem timers_fire_on_time_rebased :
    ∃ final answers fired,
      run timerStep (aptTimerQueueCreate Nat)
        (([.set 0 70000, .advance 60000] ++ .set 1 9000 :: [.set 2 8000, .kill 2,
          .advance 6000]) ++ [.advance 4500]) = some (final, answers ++ [.fired fired]) ∧
      fired.Nodup ∧ (1 ∈ fired ↔ 6000 < 9000 ∧ 9000 ≤ 6000 + 4500) ∧
      fired.Pairwise (fun a b => ∀ deadline ∈ (agendaOf ([.set 0 70000, .advance 60000] ++
          .set 1 9000 :: [.set 2 8000, .kill 2, .advance 6000])).due a,
        ∀ deadline' ∈ (agendaOf ([.set 0 70000, .advance 60000] ++
          .set 1 9000 :: [.set 2 8000, .kill 2, .advance 6000])).due b, deadline ≤ deadline') :=
  timers_fire_on_time _ _ 1 9000 4500 (by decide) (by decide) (by decide +kernel)

/-- A timer of 10 ms is overdue when an advance of 65535 ms is made, and does not
fire. -/
theorem overdue_timer_lost :
    (run timerStep (aptTimerQueueCreate Nat) [.set 0 10, .advance 65535]).map (·.2) =
      some [.done true, .fired []] ∧
    advanced ([] : List (TimerCall Nat)) < 10 ∧
      10 ≤ advanced ([] : List (TimerCall Nat)) + (65535 : UInt32).toNat := by
  decide +kernel

end UniMrcp.Apt
