import Mathlib.Data.List.Sort

/-!
# Timers

The timer queue of a poller task (`apr-toolkit/src/apt_timer_queue.c`).

The ring holds the timers that are set, and `scheduledTime` is the field of
each timer, 0 in one that was never set, has fired or was killed.  The kill
takes a timer for unset when its `scheduled_time` is 0, whether it is in the
ring or not.
-/

namespace UniMrcp.Apt

/-- `apt_timer_queue_t`, with the `scheduled_time` of its timers. -/
structure TimerQueue (T : Type) where
  ring : List T
  elapsedTime : UInt32
  scheduledTime : T → UInt32

/-- `apt_timer_queue_create` -/
def aptTimerQueueCreate (T : Type) : TimerQueue T := ⟨[], 0, fun _ => 0⟩

section Timers

variable {T : Type} [DecidableEq T]

section

variable (queue : TimerQueue T)

/-- `timer->scheduled_time = time` -/
def TimerQueue.schedule (timer : T) (time : UInt32) : TimerQueue T :=
  { queue with
    scheduledTime := fun t => if t = timer then time else queue.scheduledTime t }

/-- The loop of `apt_timer_insert`, from the last timer to the first. -/
def timerInsertLoop (scheduledTime : T → UInt32) (timer : T) : List T → List T
  | [] => [timer]
  | it :: ring =>
    if scheduledTime it ≤ scheduledTime timer then timer :: it :: ring
    else it :: timerInsertLoop scheduledTime timer ring

/-- `apt_timer_insert` -/
def aptTimerInsert (timer : T) : TimerQueue T :=
  { queue with
    ring := (timerInsertLoop queue.scheduledTime timer queue.ring.reverse).reverse }

/-- `apt_timer_set`, for a timer with a callback. -/
def aptTimerSet (timer : T) (timeout : UInt32) : Bool × TimerQueue T :=
  if timeout = 0 then (false, queue)
  else
    let queue := queue.schedule timer (queue.elapsedTime + timeout)
    if queue.ring.isEmpty then (true, { queue with ring := [timer] })
    else (true, aptTimerInsert queue timer)

/-- `apt_timer_kill` -/
def aptTimerKill (timer : T) : Bool × TimerQueue T :=
  if queue.scheduledTime timer = 0 then (false, queue)
  else
    let queue := { queue.schedule timer 0 with ring := queue.ring.erase timer }
    (true, if queue.ring.isEmpty then { queue with elapsedTime := 0 } else queue)

/-- `apt_timers_reschedule` -/
def aptTimersReschedule : TimerQueue T :=
  { queue with
    elapsedTime := 0
    scheduledTime := fun t =>
      if t ∈ queue.ring then queue.scheduledTime t - queue.elapsedTime
      else queue.scheduledTime t }

/-- The time passed to `apt_timer_queue_advance` is added up, and taken off
the timers when it gets large. -/
def elapsedTimeAdd (elapsedTime : UInt32) : TimerQueue T :=
  let queue := { queue with elapsedTime := queue.elapsedTime + elapsedTime }
  if queue.elapsedTime ≥ 0xFFFF then aptTimersReschedule queue else queue

end

/-! ## Advancing

The callbacks act on a world that the queue is part of. -/

section Advance

variable {W : Type} (queue : W → TimerQueue T) (setQueue : W → TimerQueue T → W)
variable (proc : W → T → W)

/-- The loop of `apt_timer_queue_advance`, for at most so many timers. -/
def timerLoop : Nat → W → W
  | 0, world => world
  | passes + 1, world =>
    match (queue world).ring with
    | [] => world
    | timer :: ring =>
      if (queue world).scheduledTime timer > (queue world).elapsedTime then world
      else
        timerLoop passes
          (proc (setQueue world { (queue world).schedule timer 0 with ring := ring }) timer)

/-- `apt_timer_queue_advance`.  The loop is given as many passes as there are
timers set, which is enough for callbacks that set none. -/
def aptTimerQueueAdvance (world : W) (elapsedTime : UInt32) : W :=
  if (queue world).ring.isEmpty then world
  else
    timerLoop queue setQueue proc (queue world).ring.length
      (setQueue world (elapsedTimeAdd (queue world) elapsedTime))

end Advance

end Timers

/-! ## What the operations do to the ring -/

section Ring

variable {T : Type} {timer t : T}

theorem timerInsertLoop_eq (scheduledTime : T → UInt32) (timer : T) (ring : List T) :
    timerInsertLoop scheduledTime timer ring =
      ring.orderedInsert (fun a b => scheduledTime b ≤ scheduledTime a) timer := by
  induction ring with
  | nil => rfl
  | cons it ring ih => rw [timerInsertLoop, List.orderedInsert_cons, ih]

theorem mem_timerInsertLoop (scheduledTime : T → UInt32) (timer t : T) (ring : List T) :
    t ∈ timerInsertLoop scheduledTime timer ring ↔ t = timer ∨ t ∈ ring := by
  rw [timerInsertLoop_eq, List.mem_orderedInsert]

theorem nodup_timerInsertLoop (scheduledTime : T → UInt32) {ring : List T}
    (hnodup : ring.Nodup) (hmem : timer ∉ ring) :
    (timerInsertLoop scheduledTime timer ring).Nodup := by
  rw [timerInsertLoop_eq, (List.perm_orderedInsert _ timer ring).nodup_iff]
  exact List.nodup_cons.mpr ⟨hmem, hnodup⟩

/-- Inserting into a ring whose last timers come first keeps the order. -/
theorem sorted_timerInsertLoop {scheduledTime : T → UInt32} {timer : T} {ring : List T}
    (h : ring.Pairwise (fun a b => scheduledTime b ≤ scheduledTime a)) :
    (timerInsertLoop scheduledTime timer ring).Pairwise
      (fun a b => scheduledTime b ≤ scheduledTime a) := by
  have : Std.Total (fun a b : T => scheduledTime b ≤ scheduledTime a) :=
    ⟨fun a b => UInt32.le_total _ _⟩
  have : IsTrans T (fun a b => scheduledTime b ≤ scheduledTime a) :=
    ⟨fun a b c hab hbc => UInt32.le_trans hbc hab⟩
  rw [timerInsertLoop_eq]
  exact h.orderedInsert timer ring

variable [DecidableEq T] {queue : TimerQueue T}

/-- A timer that is set is in the ring, unless its timeout is 0. -/
theorem mem_ring_aptTimerSet {timeout : UInt32} :
    t ∈ (aptTimerSet queue timer timeout).2.ring ↔
      (t = timer ∧ timeout ≠ 0) ∨ t ∈ queue.ring := by
  unfold aptTimerSet
  split
  · rename_i hzero
    simp [hzero]
  · rename_i hne
    dsimp only
    split
    · rename_i hempty
      have hring : queue.ring = [] := List.isEmpty_iff.mp hempty
      simp [hring, hne]
    · simp [aptTimerInsert, TimerQueue.schedule, mem_timerInsertLoop, hne]

theorem nodup_ring_aptTimerSet {timeout : UInt32} (hnodup : queue.ring.Nodup)
    (hmem : timer ∉ queue.ring) : (aptTimerSet queue timer timeout).2.ring.Nodup := by
  unfold aptTimerSet
  split
  · exact hnodup
  · dsimp only
    split
    · exact List.nodup_singleton _
    · simp only [aptTimerInsert, TimerQueue.schedule, List.nodup_reverse]
      apply nodup_timerInsertLoop
      · exact List.nodup_reverse.mpr hnodup
      · simpa using hmem

theorem ring_aptTimerKill : (aptTimerKill queue timer).2.ring =
    if queue.scheduledTime timer = 0 then queue.ring else queue.ring.erase timer := by
  unfold aptTimerKill
  split
  · rfl
  · dsimp only
    split <;> rfl

theorem scheduledTime_aptTimerKill : (aptTimerKill queue timer).2.scheduledTime =
    fun t => if t = timer then 0 else queue.scheduledTime t := by
  funext t
  unfold aptTimerKill
  split
  · rename_i hzero
    by_cases ht : t = timer
    · rw [if_pos ht, ht, hzero]
    · rw [if_neg ht]
  · dsimp only
    split <;> rfl

theorem ring_elapsedTimeAdd (queue : TimerQueue T) (elapsedTime : UInt32) :
    (elapsedTimeAdd queue elapsedTime).ring = queue.ring := by
  unfold elapsedTimeAdd
  dsimp only
  split <;> rfl

/-- What every pass of the loop keeps, the loop keeps. -/
theorem timerLoop_invariant {W : Type} {queue : W → TimerQueue T}
    {setQueue : W → TimerQueue T → W} {proc : W → T → W} {I : W → Prop}
    (hpass : ∀ world timer ring, I world → (queue world).ring = timer :: ring →
      I (proc (setQueue world { (queue world).schedule timer 0 with ring := ring }) timer)) :
    ∀ (passes : Nat) (world : W), I world → I (timerLoop queue setQueue proc passes world)
  | 0, _, h => h
  | passes + 1, world, h => by
    rw [timerLoop]
    split
    · exact h
    · rename_i timer ring hring
      split
      · exact h
      · exact timerLoop_invariant hpass passes _ (hpass world timer ring h hring)

end Ring

end UniMrcp.Apt
