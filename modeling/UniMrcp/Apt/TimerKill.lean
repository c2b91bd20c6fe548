import UniMrcp.Apt.TimerQueue
import UniMrcp.Lib.Runs

/-!
# Killed timers

A timer that has been killed is out of the queue, and does not fire until it is
set again.  The kill takes a timer for unset when its scheduled time is 0.  A
timer that is due when the elapsed time is taken off the timers has this time
while it waits for its callback, and cannot be killed by the callback of another
one: `killed_timer_fires`.
-/

namespace UniMrcp.Apt

open UniMrcp.Lib.Runs

variable {T : Type} [DecidableEq T]

/-- The calls, and the passes of the loop of `apt_timer_queue_advance`.  Between
two passes the callback of the timer that has fired makes its calls. -/
inductive TimerMove (T : Type) where
  | set (timer : T) (timeout : UInt32)
  | kill (timer : T)
  | advance (elapsedTime : UInt32)
  | pass
  deriving DecidableEq

/-- The queue, whether its loop is running, the timers that have been killed and
not set again, and those of them that have fired. -/
structure TimerHistory (T : Type) where
  queue : TimerQueue T
  advancing : Bool
  killed : List T
  revenants : List T

def TimerHistory.start (T : Type) : TimerHistory T := ⟨aptTimerQueueCreate T, false, [], []⟩

/-- There is no outcome when a timer is set that is scheduled. -/
def timerMove (s : TimerHistory T) : TimerMove T → Option (TimerHistory T)
  | .set timer timeout =>
    if timer ∈ s.queue.ring then none
    else
      some { s with
        queue := (aptTimerSet s.queue timer timeout).2
        killed := if timeout = 0 then s.killed else s.killed.filter (· ≠ timer) }
  | .kill timer =>
    some { s with queue := (aptTimerKill s.queue timer).2, killed := timer :: s.killed }
  | .advance elapsedTime =>
    if s.advancing then none
    else if s.queue.ring.isEmpty then some s
    else some { s with queue := elapsedTimeAdd s.queue elapsedTime, advancing := true }
  | .pass =>
    match s.advancing, s.queue.ring with
    | false, _ => none
    | true, [] => some { s with advancing := false }
    | true, timer :: ring =>
      if s.queue.scheduledTime timer > s.queue.elapsedTime then
        some { s with advancing := false }
      else
        some { s with
          queue := { s.queue.schedule timer 0 with ring := ring }
          revenants := if timer ∈ s.killed then timer :: s.revenants else s.revenants }

/-- No timer of the queue with the scheduled time 0 is killed. -/
abbrev KillSeen (s : TimerHistory T) (move : TimerMove T) : Prop :=
  ∀ timer ∈ s.queue.ring, s.queue.scheduledTime timer = 0 → move ≠ .kill timer

structure Buried (s : TimerHistory T) : Prop where
  nodup : s.queue.ring.Nodup
  killed : ∀ timer ∈ s.killed, timer ∉ s.queue.ring
  revenants : s.revenants = []

theorem Buried.move {s s' : TimerHistory T} {move : TimerMove T} (h : Buried s)
    (hseen : KillSeen s move) (hmove : timerMove s move = some s') : Buried s' := by
  cases move with
  | set timer timeout =>
    simp only [timerMove, Option.ite_none_left_eq_some, Option.some.injEq] at hmove
    obtain ⟨hout, rfl⟩ := hmove
    refine ⟨nodup_ring_aptTimerSet h.nodup hout, fun t ht => ?_, h.revenants⟩
    have hkilled : t ∈ s.killed ∧ (timeout ≠ 0 → t ≠ timer) := by
      dsimp only at ht
      split at ht
      · exact ⟨ht, fun hne => absurd ‹_› hne⟩
      · simpa [‹¬ timeout = 0›] using ht
    rw [mem_ring_aptTimerSet]
    rintro (⟨rfl, hne⟩ | hring)
    · exact hkilled.2 hne rfl
    · exact h.killed t hkilled.1 hring
  | kill timer =>
    obtain rfl := Option.some.inj hmove
    have hring : (aptTimerKill s.queue timer).2.ring = _ := ring_aptTimerKill
    refine ⟨?_, fun t ht => ?_, h.revenants⟩ <;> dsimp only <;> rw [hring]
    · split
      · exact h.nodup
      · exact h.nodup.erase timer
    · split
      · rename_i hzero
        rcases List.mem_cons.mp ht with rfl | ht
        · exact fun hmem => hseen t hmem hzero rfl
        · exact h.killed t ht
      · rw [h.nodup.mem_erase_iff]
        rcases List.mem_cons.mp ht with rfl | ht
        · exact fun hmem => hmem.1 rfl
        · exact fun hmem => h.killed t ht hmem.2
  | advance elapsedTime =>
    simp only [timerMove, Option.ite_none_left_eq_some] at hmove
    split at hmove <;> obtain ⟨-, hmove⟩ := hmove <;> cases hmove
    · exact h
    · have hring := ring_elapsedTimeAdd s.queue elapsedTime
      exact ⟨hring ▸ h.nodup, hring ▸ h.killed, h.revenants⟩
  | pass =>
    simp only [timerMove] at hmove
    split at hmove
    · cases hmove
    · cases hmove
      exact { h with }
    · rename_i timer ring _ hring
      have hnodup := h.nodup
      have hkilled := h.killed
      rw [hring] at hnodup hkilled
      split at hmove <;> cases hmove
      · exact { h with }
      · refine ⟨hnodup.of_cons, fun t ht hmem => hkilled t ht (List.mem_cons_of_mem _ hmem), ?_⟩
        dsimp only
        rw [if_neg fun hmem => hkilled timer hmem List.mem_cons_self]
        exact h.revenants

/-- A timer that is killed does not fire until it is set again, if no kill
finds it scheduled for the time 0. -/
theorem killed_timers_stay_dead (moves : List (TimerMove T))
    (h : Along timerMove KillSeen (TimerHistory.start T) moves) :
    Always timerMove (fun s => s.revenants = []) (TimerHistory.start T) moves := by
  have hstart : Buried (TimerHistory.start T) := ⟨List.nodup_nil, fun _ _ => List.not_mem_nil, rfl⟩
  have hburied := always_of_along (fun _ _ _ hs hseen hmove => hs.move hseen hmove) moves _ hstart h
  exact hburied.mono fun _ hs => hs.revenants

theorem killed_timers_stay_dead_advance :
    let moves : List (TimerMove Nat) := [.set 0 20, .set 1 20, .advance 20, .pass, .kill 1, .pass]
    Along timerMove KillSeen (TimerHistory.start Nat) moves ∧
      Always timerMove (fun s => s.revenants = []) (TimerHistory.start Nat) moves :=
  ⟨by decide, killed_timers_stay_dead _ (by decide)⟩

/-- Two timers elapse when the time is taken off them, and the callback of the
first kills the second. -/
theorem killed_timer_fires :
    (after timerMove (TimerHistory.start Nat)
      [.set 0 0xFFFF, .set 1 0xFFFF, .advance 0xFFFF, .pass, .kill 1, .pass]).map
        TimerHistory.revenants = some [1] := by
  decide

end UniMrcp.Apt
