import UniMrcp.Lib.Ring
import UniMrcp.Lib.Traces

/-!
# Cyclic queue

A model of `apr-toolkit/src/apt_cyclic_queue.c`, and that it is a FIFO queue.

A cell of `data` is `none` as long as nothing was written to it since `malloc`.
A call has no outcome (`none`) where the source reads such a cell, accesses
`data` outside its bounds or divides by a `max_size` of 0.  This happens with
a capacity of 0 or 1, which `apt_cyclic_queue_resize` does not enlarge.
-/

namespace UniMrcp.Apt

open UniMrcp.Lib UniMrcp.Lib.Traces

variable {α : Type}

/-- `apt_cyclic_queue_t` -/
structure CyclicQueue (α : Type) where
  data : List (Option α)
  maxSize : Nat
  actualSize : Nat
  head : Nat
  tail : Nat
  deriving Repr, DecidableEq

/-- `apt_cyclic_queue_create` -/
def aptCyclicQueueCreate (α : Type) (size : Nat) : CyclicQueue α :=
  ⟨List.replicate size none, size, 0, 0, 0⟩

section

variable (queue : CyclicQueue α)

/-- `apt_cyclic_queue_resize` -/
def aptCyclicQueueResize : CyclicQueue α :=
  let newSize := queue.maxSize + queue.maxSize / 2
  { queue with
    data := queue.data.drop queue.head ++ queue.data.take queue.head ++
      List.replicate (newSize - queue.maxSize) none
    tail := 0
    head := queue.maxSize
    maxSize := newSize }

/-- `apt_cyclic_queue_push` of a queue that has a free cell. -/
def cellPush (obj : α) : Option (CyclicQueue α) :=
  if queue.head < queue.data.length ∧ queue.maxSize ≠ 0 then
    some { queue with
      data := queue.data.set queue.head (some obj)
      head := (queue.head + 1) % queue.maxSize
      actualSize := queue.actualSize + 1 }
  else none

/-- `apt_cyclic_queue_push`, which returns TRUE. -/
def aptCyclicQueuePush (obj : α) : Option (CyclicQueue α) :=
  cellPush (if queue.maxSize ≤ queue.actualSize then aptCyclicQueueResize queue else queue) obj

/-- `apt_cyclic_queue_pop`: the object, or `none` for NULL. -/
def aptCyclicQueuePop : Option (CyclicQueue α × Option α) :=
  if queue.actualSize = 0 then some (queue, none)
  else
    match queue.data[queue.tail]? with
    | some (some obj) =>
      if queue.maxSize = 0 then none
      else some ({ queue with
        tail := (queue.tail + 1) % queue.maxSize
        actualSize := queue.actualSize - 1 }, some obj)
    | _ => none

/-- `apt_cyclic_queue_clear` -/
def aptCyclicQueueClear : CyclicQueue α :=
  { queue with actualSize := 0, head := 0, tail := 0 }

/-! ## Calls -/

/-- A call of the library. -/
inductive QueueCall (α : Type) where
  | push (obj : α)
  | pop
  | clear
  deriving Repr, DecidableEq

/-- What a call returns. -/
inductive QueueAnswer (α : Type) where
  | pushed
  | popped (obj : Option α)
  | cleared
  deriving Repr, DecidableEq

/-- A call on a cyclic queue. -/
def cyclicStep : QueueCall α → Option (CyclicQueue α × QueueAnswer α)
  | .push obj => (aptCyclicQueuePush queue obj).map (fun queue => (queue, .pushed))
  | .pop => (aptCyclicQueuePop queue).map (fun next => (next.1, .popped next.2))
  | .clear => some (aptCyclicQueueClear queue, .cleared)

end

/-- A call on a FIFO queue, the list of its elements from the oldest on. -/
def fifoStep (contents : List α) : QueueCall α → Option (List α × QueueAnswer α)
  | .push obj => some (contents ++ [obj], .pushed)
  | .pop => some (contents.tail, .popped contents.head?)
  | .clear => some ([], .cleared)

/-! ## Refinement -/

/-- The cyclic queue holds the elements of the FIFO queue. -/
structure QueueHolds (queue : CyclicQueue α) (contents : List α) : Prop where
  holds : Ring.Holds queue.data queue.tail contents
  maxSize : queue.maxSize = queue.data.length
  grows : 2 ≤ queue.maxSize
  actualSize : queue.actualSize = contents.length
  head : queue.head = Ring.cell queue.maxSize queue.tail contents.length

theorem queueHolds_create {size : Nat} (h : 2 ≤ size) :
    QueueHolds (aptCyclicQueueCreate α size) [] := by
  have hlength : (aptCyclicQueueCreate α size).data.length = size := List.length_replicate
  refine ⟨Ring.holds_nil ?_, hlength.symm, h, rfl, ?_⟩
  · rw [hlength]
    show 0 < size
    omega
  · simp [aptCyclicQueueCreate, Ring.cell]

variable {queue : CyclicQueue α} {contents : List α}

section

variable (h : QueueHolds queue contents)
include h

theorem QueueHolds.clear : QueueHolds (aptCyclicQueueClear queue) [] := by
  have hgrows := h.grows
  have hsize := h.maxSize
  refine ⟨Ring.holds_nil ?_, h.maxSize, h.grows, rfl, ?_⟩
  · show 0 < queue.data.length
    omega
  · simp [aptCyclicQueueClear, Ring.cell]

/-- A full queue has its head at its tail, so the array is unwrapped at the
oldest element. -/
theorem QueueHolds.resize (hfull : queue.maxSize ≤ queue.actualSize) :
    QueueHolds (aptCyclicQueueResize queue) contents ∧
      contents.length < (aptCyclicQueueResize queue).maxSize := by
  have hle := h.holds.length_le
  have htail := h.holds.start_lt
  have hsize := h.maxSize
  have hactual := h.actualSize
  have hgrows := h.grows
  have hlength : contents.length = queue.maxSize := by omega
  have hhead : queue.head = queue.tail := by
    rw [h.head, hlength, Ring.cell_eq (by omega) (Nat.le_refl _), if_neg (by omega)]
    omega
  have hdata : (aptCyclicQueueResize queue).data.length =
      (aptCyclicQueueResize queue).maxSize := by
    simp only [aptCyclicQueueResize, List.length_append, List.length_drop, List.length_take,
      List.length_replicate]
    omega
  have hmore : contents.length < (aptCyclicQueueResize queue).maxSize := by
    show contents.length < queue.maxSize + queue.maxSize / 2
    omega
  refine ⟨⟨?_, hdata.symm, ?_, hactual, ?_⟩, hmore⟩
  · simp only [aptCyclicQueueResize, hhead]
    exact h.holds.unwrap _
  · omega
  · show queue.maxSize = Ring.cell (queue.maxSize + queue.maxSize / 2) 0 contents.length
    rw [Ring.cell_eq (by omega) (by omega), if_pos (by omega)]
    omega

theorem QueueHolds.cellPush (hroom : contents.length < queue.maxSize) (obj : α) :
    ∃ queue', cellPush queue obj = some queue' ∧ QueueHolds queue' (contents ++ [obj]) := by
  have hsize := h.maxSize
  have hgrows := h.grows
  have hactual := h.actualSize
  have hhead : queue.head < queue.data.length := by
    rw [h.head, ← hsize]
    exact Ring.cell_lt (by omega) _ _
  refine ⟨_, if_pos ⟨hhead, by omega⟩, ?_⟩
  constructor
  · have hput := h.holds.put (by omega) obj
    rw [← hsize, ← h.head] at hput
    exact hput
  · simp [hsize]
  · exact hgrows
  · simp [hactual]
  · show (queue.head + 1) % queue.maxSize =
      Ring.cell queue.maxSize queue.tail (contents ++ [obj]).length
    rw [h.head, List.length_append, List.length_singleton, Ring.cell, Ring.cell, Nat.mod_add_mod,
      Nat.add_assoc]

theorem QueueHolds.push (obj : α) :
    ∃ queue', aptCyclicQueuePush queue obj = some queue' ∧
      QueueHolds queue' (contents ++ [obj]) := by
  have hactual := h.actualSize
  by_cases hfull : queue.maxSize ≤ queue.actualSize
  · obtain ⟨hresized, hroom⟩ := h.resize hfull
    rw [aptCyclicQueuePush, if_pos hfull]
    exact hresized.cellPush hroom obj
  · rw [aptCyclicQueuePush, if_neg hfull]
    exact h.cellPush (by omega) obj

theorem QueueHolds.pop :
    ∃ queue', aptCyclicQueuePop queue = some (queue', contents.head?) ∧
      QueueHolds queue' contents.tail := by
  have hsize := h.maxSize
  have hgrows := h.grows
  have hactual := h.actualSize
  cases contents with
  | nil => exact ⟨queue, if_pos hactual, h⟩
  | cons obj contents =>
    obtain ⟨hfirst, hrest⟩ := h.holds.take
    have hsome : queue.actualSize ≠ 0 := by
      rw [hactual]
      exact Nat.succ_ne_zero _
    have hnonzero : queue.maxSize ≠ 0 := by omega
    refine ⟨{ queue with
      tail := (queue.tail + 1) % queue.maxSize
      actualSize := queue.actualSize - 1 }, ?_, ?_⟩
    · simp only [aptCyclicQueuePop, hsome, hfirst, hnonzero, if_false]
      rfl
    · refine ⟨?_, hsize, hgrows, ?_, ?_⟩
      · rw [← hsize] at hrest
        exact hrest
      · simp [hactual]
      · show queue.head = Ring.cell queue.maxSize (Ring.cell queue.maxSize queue.tail 1)
          contents.length
        rw [Ring.cell_succ]
        exact h.head

end

/-- A call on the cyclic queue answers as the call on the FIFO queue. -/
theorem cyclicStep_alike (queue : CyclicQueue α) (contents : List α) (call : QueueCall α)
    (h : QueueHolds queue contents) :
    Alike QueueHolds (cyclicStep queue call) (fifoStep contents call) := by
  cases call with
  | push obj =>
    obtain ⟨queue', hpush, h'⟩ := h.push obj
    simp only [cyclicStep, hpush]
    exact .some ⟨h', rfl⟩
  | pop =>
    obtain ⟨queue', hpop, h'⟩ := h.pop
    simp only [cyclicStep, hpop]
    exact .some ⟨h', rfl⟩
  | clear => exact .some ⟨h.clear, rfl⟩

theorem run_fifo (contents : List α) (calls : List (QueueCall α)) :
    ∃ final, run fifoStep contents calls = some final := by
  induction calls generalizing contents with
  | nil => exact ⟨_, rfl⟩
  | cons call calls ih =>
    have hnext : ∃ next, fifoStep contents call = some next := by cases call <;> exact ⟨_, rfl⟩
    obtain ⟨next, hnext⟩ := hnext
    obtain ⟨final, hrun⟩ := ih next.1
    exact ⟨(final.1, next.2 :: final.2), by simp [run, hnext, hrun]⟩

/-- Whatever the calls are, the queue of a capacity of at least 2 answers them as
a FIFO queue does, and then holds what the FIFO queue holds. -/
theorem cyclicQueue_fifo (size : Nat) (hsize : 2 ≤ size) (calls : List (QueueCall α)) :
    ∃ queue contents answers,
      run cyclicStep (aptCyclicQueueCreate α size) calls = some (queue, answers) ∧
      run fifoStep [] calls = some (contents, answers) ∧
      QueueHolds queue contents := by
  have halike := run_related
    (fun queue contents call h _ => cyclicStep_alike queue contents call h) calls _ _
    (queueHolds_create hsize) (along_true calls [])
  rw [List.map_id'] at halike
  obtain ⟨final, hfifo⟩ := run_fifo [] calls
  rcases halike.cases with ⟨-, hnone⟩ | ⟨queue, contents, answers, hcyclic, hsome, hholds⟩
  · exact nomatch hfifo.symm.trans hnone
  · exact ⟨queue, contents, answers, hcyclic, hsome, hholds⟩

/-- Two elements fill the queue in the middle of the array, and a third one
makes it grow. -/
def growingCalls : List (QueueCall Nat) :=
  [.push 1, .pop, .push 2, .push 3, .push 4, .pop, .pop, .pop, .pop]

theorem cyclicQueue_fifo_growingCalls :
    ∃ queue contents answers,
      run cyclicStep (aptCyclicQueueCreate Nat 2) growingCalls = some (queue, answers) ∧
      run fifoStep [] growingCalls = some (contents, answers) ∧
      QueueHolds queue contents :=
  cyclicQueue_fifo 2 (Nat.le_refl 2) growingCalls

end UniMrcp.Apt
