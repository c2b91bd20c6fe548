import Mathlib.Data.List.Nodup
import UniMrcp.Engine.RecogEffect

/-!
# A recognition completes once

In the state RECOGNIZED the machine keeps the RECOGNIZE request for GET-RESULT.
`recog_event_start_of_input` and `recog_event_recognition_complete` look at the
request and not at the state, so that a completed recognition can go on
reporting.  `completes_once_iff` says that there is no other way to a second
completion.

The invariant counts where an id is in use: at the engine, in the queue, in
progress, completed.  A request is in one place at a time.
-/

namespace UniMrcp.Engine

open UniMrcp.Lib UniMrcp.Mrcp

/-- Nothing is reported of a request behind its completion event. -/
def CompletesOnce (k : Methods) (events : List Request) : Prop :=
  events.Pairwise (fun e e' => e.method = k.completion → e'.id = e.id →
    e'.method ≠ k.completion ∧ e'.method ≠ k.marker)

instance (k : Methods) (events : List Request) : Decidable (CompletesOnce k events) :=
  inferInstanceAs (Decidable (List.Pairwise _ _))

/-- Ids tell requests apart, and the engine answers what it has got, once. -/
def Identified (log : Log) : Signal → Prop
  | .request r => ∀ q ∈ log.sent, q.id ≠ r.id
  | .response r _ => r ∈ log.outstanding
  | .event _ | .unknown => True

instance (log : Log) : (signal : Signal) → Decidable (Identified log signal)
  | .request _ => inferInstanceAs (Decidable (∀ q ∈ _, _))
  | .response _ _ => inferInstanceAs (Decidable (_ ∈ _))
  | .event _ | .unknown => isTrue trivial

/-- The events of the stored request that the machine forwards come while it is
in progress. -/
def Timely (k : Methods) (v : View) : Signal → Prop
  | .event r => r.method = k.marker ∨ r.method = k.completion ∧ ¬ v.Stops k →
      v.Stores r → v.busy = true
  | .request _ | .response _ _ | .unknown => True

instance (k : Methods) (v : View) : (signal : Signal) → Decidable (Timely k v signal)
  | .event r => inferInstanceAs (Decidable (r.method = k.marker ∨
      r.method = k.completion ∧ ¬ v.Stops k → v.Stores r → v.busy = true))
  | .request _ | .response _ _ | .unknown => isTrue trivial

/-! ## The invariant -/

/-- The id of the request in progress. -/
def begun (busy : Bool) (stored : Option Request) : List UInt32 :=
  if busy then stored.toList.map Request.id else []

/-- The ids of completed requests. -/
def completedIds (k : Methods) (events : List Request) : List UInt32 :=
  (events.filter (fun e => e.method = k.completion)).map Request.id

/-- In how many places an id is in use. -/
def uses (k : Methods) (v : View) (log : Log) (id : UInt32) : Nat :=
  (log.outstanding.map Request.id).count id + (v.queue.map Request.id).count id +
    (begun v.busy v.stored).count id + (completedIds k log.events).count id

structure CompletionInv (k : Methods) (v : View) (log : Log) : Prop where
  sent_nodup : (log.sent.map Request.id).Nodup
  uses_le : ∀ id, uses k v log id ≤ (log.sent.map Request.id).count id
  finished : v.busy = false → ∀ s, v.stored = some s → s.id ∈ completedIds k log.events
  once : CompletesOnce k log.events

variable {r : Request} {emissions : List Emission}

section Step

variable {k : Methods} {v v' : View} {log : Log}

theorem mem_completedIds {events : List Request} {id : UInt32} :
    id ∈ completedIds k events ↔ ∃ e ∈ events, e.method = k.completion ∧ e.id = id := by
  simp [completedIds, and_assoc]

/-- One more event. -/
theorem completesOnce_append {events : List Request} (h : CompletesOnce k events) :
    CompletesOnce k (events ++ [r]) ↔
      (r.method = k.marker ∨ r.method = k.completion → r.id ∉ completedIds k events) := by
  unfold CompletesOnce at h ⊢
  rw [List.pairwise_append]
  simp only [h, List.pairwise_singleton, List.mem_singleton, forall_eq, true_and,
    mem_completedIds]
  constructor
  · rintro hnew hmethod ⟨e, he, hcompletion, hid⟩
    have := hnew e he hcompletion hid.symm
    exact hmethod.elim this.2 this.1
  · intro hnew e he hcompletion hid
    constructor
    · intro hmethod
      exact hnew (.inr hmethod) ⟨e, he, hcompletion, hid.symm⟩
    · intro hmethod
      exact hnew (.inl hmethod) ⟨e, he, hcompletion, hid.symm⟩

/-- A request in progress has not completed. -/
theorem CompletionInv.not_completed (h : CompletionInv k v log) {s : Request}
    (hbusy : v.busy = true) (hstored : v.stored = some s) :
    s.id ∉ completedIds k log.events := by
  intro hmem
  have hle := h.uses_le s.id
  have hone := List.nodup_iff_count_le_one.mp h.sent_nodup s.id
  have hbegun : (begun v.busy v.stored).count s.id = 1 := by simp [begun, hbusy, hstored]
  have hcompleted := List.count_pos_iff.mpr hmem
  unfold uses at hle
  omega

theorem begun_stored {stored : Option Request} (h : StoredKept v stored) :
    begun v.busy stored = begun v.busy v.stored := by
  rcases h with rfl | ⟨hbusy, -⟩
  · rfl
  · simp [begun, hbusy]

theorem finished_stored {stored : Option Request} {ids : List UInt32}
    (h : v.busy = false → ∀ s, v.stored = some s → s.id ∈ ids) (hstored : StoredKept v stored)
    (hbusy : v.busy = false) : ∀ s, stored = some s → s.id ∈ ids := by
  rcases hstored with rfl | ⟨-, rfl⟩
  · exact h hbusy
  · intro s hs
    cases hs

theorem count_append_id (requests : List Request) (r : Request) (id : UInt32) :
    ((requests ++ [r]).map Request.id).count id =
      (requests.map Request.id).count id + [r.id].count id := by
  rw [List.map_append, List.count_append]
  rfl

theorem count_cons_id (r : Request) (requests : List Request) (id : UInt32) :
    ((r :: requests).map Request.id).count id =
      [r.id].count id + (requests.map Request.id).count id := by
  rw [List.map_cons, ← List.singleton_append, List.count_append]

section

variable (h : CompletionInv k v log)
include h

/-- Taking a request from the queue to the engine leaves the number of places. -/
theorem CompletionInv.pop : CompletionInv k v.pop.1 (v.pop.2.foldl Log.emit log) := by
  rcases v.pop_cases with ⟨hqueue, hpop⟩ | ⟨r, queue, hqueue, hpop⟩
  · rw [hpop]
    exact h
  · rw [hpop]
    refine ⟨h.sent_nodup, fun id => ?_, h.finished, h.once⟩
    refine le_of_eq_of_le ?_ (h.uses_le id)
    simp only [uses, List.foldl_cons, List.foldl_nil, Log.emit, hqueue, count_append_id,
      count_cons_id]
    omega

theorem completionInv_request (hnew : Identified log (.request r))
    (heffect : Effect k v (.request r) v' emissions) :
    CompletionInv k v' (log.next k (.request r) emissions) := by
  have hnodup := nodup_ids_append h.sent_nodup hnew
  have hsent : ∀ id, uses k v log id + [r.id].count id ≤
      ((log.sent ++ [r]).map Request.id).count id := by
    intro id
    rw [count_append_id]
    exact Nat.add_le_add_right (h.uses_le id) _
  cases heffect with
  | ignoredRequest =>
    exact ⟨hnodup, fun id => (Nat.le_add_right _ _).trans (hsent id), h.finished, h.once⟩
  | dispatched _ stored hmethod hfree hstored hfollows =>
    refine ⟨hnodup, fun id => le_of_eq_of_le ?_ (hsent id),
      finished_stored (v := v) h.finished hstored, h.once⟩
    simp only [uses, Log.next, Log.receive, List.foldl_cons, List.foldl_nil, Log.emit,
      count_append_id, begun_stored hstored]
    omega
  | enqueued _ hmain hbusy =>
    refine ⟨hnodup, fun id => le_of_eq_of_le ?_ (hsent id), h.finished, h.once⟩
    simp only [uses, Log.next, Log.receive, List.foldl_cons, List.foldl_nil, Log.emit,
      count_append_id]
    omega
  | replied _ stored queue hmain hstored hqueue =>
    refine ⟨hnodup, fun id => le_trans ?_ (hsent id),
      finished_stored (v := v) h.finished hstored, h.once⟩
    have hle := (hqueue.map Request.id).count_le id
    simp only [uses, Log.next, Log.receive, List.foldl_cons, List.foldl_nil, Log.emit,
      begun_stored hstored]
    omega

/-- The engine has answered, and the answer has been taken off the requests it
has to answer. -/
theorem CompletionInv.answer (hr : r ∈ log.outstanding) {log' : Log} {running : List UInt32}
    (hlog : log' = { log with outstanding := log.outstanding.erase r, running := running }) :
    CompletionInv k v log' ∧
      ∀ id, uses k v log' id + [r.id].count id ≤ (log'.sent.map Request.id).count id := by
  subst hlog
  have hle : ∀ id, uses k v { log with outstanding := log.outstanding.erase r, running := running }
      id + [r.id].count id ≤ (log.sent.map Request.id).count id := by
    intro id
    refine le_of_eq_of_le ?_ (h.uses_le id)
    simp only [uses]
    rw [((List.perm_cons_erase hr).map Request.id).count_eq id, count_cons_id]
    omega
  exact ⟨⟨h.sent_nodup, fun id => (Nat.le_add_right _ _).trans (hle id), h.finished, h.once⟩, hle⟩

theorem CompletionInv.begin {a : Request} (answer : Answer)
    (huses : ∀ id, uses k v log id + [a.id].count id ≤ (log.sent.map Request.id).count id) :
    CompletionInv k (v.begin a answer) log := by
  unfold View.begin
  split
  · refine ⟨h.sent_nodup, fun id => le_trans ?_ (huses id), fun hbusy => (by cases hbusy),
      h.once⟩
    simp only [uses, begun, if_true, Option.toList_some, List.map_cons, List.map_nil]
    omega
  · exact h

theorem CompletionInv.sublist (active : Option Request) (isPending : Bool) {queue : List Request}
    (hqueue : queue.Sublist v.queue) :
    CompletionInv k ⟨active, isPending, none, false, queue⟩ log := by
  refine ⟨h.sent_nodup, fun id => le_trans ?_ (h.uses_le id),
    fun _ s hs => (by cases hs), h.once⟩
  have hle := (hqueue.map Request.id).count_le id
  simp only [uses, begun, Bool.false_eq_true, if_false, List.count_nil]
  omega

end

theorem completionInv_response (hannounces : k.announces = false) (h : CompletionInv k v log)
    {answer : Answer} (hr : Identified log (.response r answer))
    (heffect : Effect k v (.response r answer) v' emissions) :
    CompletionInv k v' (log.next k (.response r answer) emissions) := by
  obtain ⟨running, hreceive⟩ := Log.receive_response k hr answer
  obtain ⟨hinv, huses⟩ := h.answer hr hreceive
  cases heffect with
  | ignoredResponse => exact hinv
  | mainAnswered a _ _ hactive hid =>
    rw [← hid] at huses
    exact { hinv.begin answer huses with }
  | pendingAnswered a _ _ hactive hid =>
    rw [← hid] at huses
    rw [hannounces]
    exact { hinv.begin answer huses with }
  | stopped a _ _ queue hactive hid hstop hqueue =>
    exact CompletionInv.pop { hinv.sublist none v.isPending hqueue with }
  | barged a _ _ queue hactive hid hbarge hqueue =>
    exact { hinv.sublist none v.isPending hqueue with }
  | answered => exact { hinv with }

theorem completionInv_event (h : CompletionInv k v log) (htimely : Timely k v (.event r))
    (heffect : Effect k v (.event r) v' emissions) :
    CompletionInv k v' (log.next k (.event r) emissions) := by
  obtain ⟨running, hreceive⟩ := Log.receive_event k log r
  have hlog : CompletionInv k v (log.receive k (.event r)) := by
    rw [hreceive]
    exact { h with }
  cases heffect with
  | ignoredEvent => exact hlog
  | forwarded _ hcompletion hmarker =>
    have hids : ∀ events, completedIds k (events ++ [r]) = completedIds k events := by
      intro events
      simp [completedIds, hcompletion]
    refine ⟨hlog.sent_nodup, fun id => ?_, fun hbusy s hs => ?_, ?_⟩
    · refine le_of_eq_of_le ?_ (hlog.uses_le id)
      simp [uses, Log.next, Log.emit, hids]
    · simp only [Log.next, List.foldl_cons, List.foldl_nil, Log.emit, hids]
      exact hlog.finished hbusy s hs
    · refine (completesOnce_append hlog.once).mpr (fun hmethod => ?_)
      have hr := hmethod.resolve_right hcompletion
      obtain ⟨s, hstored, hid⟩ := hmarker hr
      rw [← hid]
      exact hlog.not_completed (htimely (.inl hr) ⟨s, hstored, hid⟩) hstored
  | completed s _ hstored hid hcompletion hstop =>
    have hbusy := htimely (.inr ⟨hcompletion, hstop⟩) ⟨s, hstored, hid⟩
    have hids : ∀ events, completedIds k (events ++ [r]) = completedIds k events ++ [r.id] := by
      intro events
      simp [completedIds, hcompletion]
    refine CompletionInv.pop ?_
    refine ⟨hlog.sent_nodup, fun id => ?_, fun _ q hq => ?_, ?_⟩
    · refine le_of_eq_of_le ?_ (hlog.uses_le id)
      simp only [uses, Log.emit, hids, List.count_append, begun, hbusy, hstored, if_true,
        Bool.false_eq_true, if_false, Option.toList_some, List.map_cons, List.map_nil, hid,
        List.count_nil]
      omega
    · have hq : q.id = r.id := by
        split at hq
        · cases hq
          exact hid
        · cases hq
      simp only [Log.emit, hids, hq]
      exact List.mem_append_right _ (List.mem_singleton_self _)
    · refine (completesOnce_append hlog.once).mpr (fun _ => ?_)
      rw [← hid]
      exact hlog.not_completed hbusy hstored

/-- An event that is forwarded late is a second report. -/
theorem timely_of_once (hmarker : k.marker < k.eventCount)
    (hcompletion : k.completion < k.eventCount) (h : CompletionInv k v log)
    (heffect : Effect k v (.event r) v' emissions)
    (honce : CompletesOnce k (log.next k (.event r) emissions).events) :
    Timely k v (.event r) := by
  intro hmethod hstores
  by_contra hbusy
  have hfree : v.busy = false := Bool.eq_false_of_not_eq_true hbusy
  obtain ⟨s, hstored, hid⟩ := hstores
  have hdone : r.id ∈ completedIds k log.events := by
    rw [← hid]
    exact h.finished hfree s hstored
  obtain ⟨running, hreceive⟩ := Log.receive_event k log r
  have hforwarded : ¬ CompletesOnce k (log.events ++ [r]) := by
    intro hcontra
    refine (completesOnce_append h.once).mp hcontra ?_ hdone
    exact hmethod.imp_right And.left
  cases heffect with
  | ignoredEvent _ hignored =>
    rcases hignored with hcount | ⟨-, hnot⟩ | ⟨hr, hstops⟩
    · rcases hmethod with hr | ⟨hr, -⟩ <;> omega
    · exact hnot ⟨s, hstored, hid⟩
    · rcases hmethod with hr' | ⟨-, hnot⟩
      · exact k.marker_ne (hr'.symm.trans hr)
      · exact hnot hstops
  | forwarded =>
    apply hforwarded
    rw [Log.next, hreceive] at honce
    exact honce
  | completed s' _ hstored' =>
    apply hforwarded
    rw [Log.next, hreceive] at honce
    rcases View.pop_cases { v with stored := if k.keeps then some s' else none, busy := false }
      with ⟨-, hpop⟩ | ⟨p, queue, -, hpop⟩
    · rw [hpop] at honce
      exact honce
    · rw [hpop] at honce
      exact honce

end Step

/-! ## Runs -/

/-- What carries the run of a channel. -/
def CompletionWorld (w : World RecogState) : Prop :=
  recognizer.Live w.machine ∧ CompletionInv recogMethods (recognizer.view w.machine) w.log

/-- No recognition is reported on behind its RECOGNITION-COMPLETE, if and only
if START-OF-INPUT and RECOGNITION-COMPLETE of the stored request come while it
is in progress. -/
theorem completes_once_iff (version : MrcpVersion) (inputs : List Received)
    (h : Runs.Along recognizer.step
      (fun w input => Prepared input.message ∧ Identified w.log (signalOf input.message))
      (recognizer.start version) inputs) :
    Runs.Always recognizer.step (fun w => CompletesOnce recogMethods w.log.events)
        (recognizer.start version) inputs ↔
      Runs.Along recognizer.step
        (fun w input => Timely recogMethods (recognizer.view w.machine) (signalOf input.message))
        (recognizer.start version) inputs := by
  refine Runs.always_iff_along (K := CompletionWorld) (fun w hw => hw.2.once) ?_ ?_ inputs _ ?_ h
  · rintro w input w' ⟨hlive, hinv⟩ ⟨-, hidentified⟩ htimely hstep
    rcases Resource.step_cases recognizer_refines hlive hstep with
      ⟨emissions, -, hlive', heffect, hlog, -⟩ | ⟨pointer, rfl, -⟩
    · refine ⟨hlive', ?_⟩
      rw [hlog]
      revert hidentified htimely heffect
      generalize recognizer.view w'.machine = v'
      cases signalOf input.message with
      | request r =>
        intro hidentified _ heffect
        exact completionInv_request hinv hidentified heffect
      | response r answer =>
        intro hidentified _ heffect
        exact completionInv_response rfl hinv hidentified heffect
      | event r =>
        intro _ htimely heffect
        exact completionInv_event hinv htimely heffect
      | unknown =>
        intro _ _ heffect
        cases heffect
        exact hinv
    · exact ⟨hlive, hinv⟩
  · rintro w input w' ⟨hlive, hinv⟩ ⟨hprepared, -⟩ honce hstep
    rcases Resource.step_cases recognizer_refines hlive hstep with
      ⟨emissions, -, -, heffect, hlog, -⟩ | ⟨pointer, rfl, hadmits⟩
    · rw [hlog] at honce
      revert honce heffect
      cases signalOf input.message with
      | event r =>
        intro honce heffect
        exact timely_of_once (by decide) (by decide) hinv heffect honce
      | request _ => exact fun _ _ => trivial
      | response _ _ => exact fun _ _ => trivial
      | unknown => exact fun _ _ => trivial
    · -- the message has its headers, so only a response can end the channel
      rcases hadmits with ⟨-, ⟨r, answer, hsignal, -⟩, -⟩ | ⟨-, hnot⟩
      · rw [hsignal]
        trivial
      · exact absurd hprepared hnot
  · refine ⟨recognizer_refines.create version, ?_⟩
    constructor <;> simp [Resource.start, Resource.view, recognizer, Log.empty, uses, begun,
      completedIds, CompletesOnce, mrcpRecogStateMachineCreate]

/-- A recognition starts, completes and leaves the engine to the next one. -/
def reportedRecognitions : List Received :=
  [received (recogRequest 3 1), received (inProgress (recogRequest 3 1)),
   received (mrcpEventCreate (recogRequest 3 1) 0), received (recogRequest 3 2),
   received (mrcpEventCreate (recogRequest 3 1) 1), received (inProgress (recogRequest 3 2)),
   received (mrcpEventCreate (recogRequest 3 2) 0),
   received (mrcpEventCreate (recogRequest 3 2) 1)]

theorem completes_once_two :
    Runs.Always recognizer.step (fun w => CompletesOnce recogMethods w.log.events)
      (recognizer.start .v2) reportedRecognitions :=
  (completes_once_iff .v2 reportedRecognitions (by decide +kernel)).mpr (by decide +kernel)

/-- The engine reports the completion twice, and the start of input behind it. -/
def repeatedCompletion : List Received :=
  [received (recogRequest 3 1), received (inProgress (recogRequest 3 1)),
   received (mrcpEventCreate (recogRequest 3 1) 1),
   received (mrcpEventCreate (recogRequest 3 1) 1),
   received (mrcpEventCreate (recogRequest 3 1) 0)]

theorem recognition_completed_twice :
    ∃ w, Runs.after recognizer.step (recognizer.start .v2) repeatedCompletion = some w ∧
      w.log.events = [⟨1, 1⟩, ⟨1, 1⟩, ⟨1, 0⟩] ∧
      ¬ CompletesOnce recogMethods w.log.events := by
  refine ⟨_, rfl, ?_, ?_⟩ <;> decide +kernel

end UniMrcp.Engine
