import Mathlib.Data.List.Nodup
import UniMrcp.Engine.RecogEffect
import UniMrcp.Engine.SynthEffect

/-!
# Every request gets one response

The client sends a request when its earlier ones have been answered, with a
new id, and the engine answers each message it gets once.  A request taken
from the queue shares the slot of the active request with the requests of the
client, and the response to one of the two may then be lost.
`responses_complete` says for which runs every request of the client gets
exactly one response, and no NULL pointer is followed.

The invariant has two cases.  `Quiet`: every request has been answered, and
the active request is one of the queue or is no longer at the engine.
`Waiting`: the last request of the client is the active one.
-/

namespace UniMrcp.Engine

open UniMrcp.Lib UniMrcp.Mrcp

/-- The number of responses the client has got to a request. -/
def Log.answers (log : Log) (r : Request) : Nat := (log.responses.map Request.id).count r.id

/-- No pointer was NULL, no request has two responses, and none is without one
when the engine has answered everything. -/
def ResponsesComplete {State : Type} (w : World State) : Prop :=
  w.fault = none ∧ (∀ r ∈ w.log.sent, w.log.answers r ≤ 1) ∧
    (w.log.outstanding = [] → ∀ r ∈ w.log.sent, w.log.answers r = 1)

instance {State : Type} (w : World State) : Decidable (ResponsesComplete w) :=
  inferInstanceAs (Decidable (_ ∧ _ ∧ _))

/-- What the client and the engine keep to: a request has a new id and comes
when the earlier ones have been answered, and a response answers a message the
engine has got and not answered before. -/
def Orderly (log : Log) : Signal → Prop
  | .request r => (∀ q ∈ log.sent, q.id ≠ r.id) ∧ ∀ q ∈ log.sent, 0 < log.answers q
  | .response r _ => r ∈ log.outstanding
  | .event _ | .unknown => True

instance (log : Log) : (signal : Signal) → Decidable (Orderly log signal)
  | .request _ => inferInstanceAs (Decidable (_ ∧ _))
  | .response _ _ => inferInstanceAs (Decidable (_ ∈ _))
  | .event _ | .unknown => isTrue trivial

/-- A request of the client is at the engine. -/
def View.Waits (v : View) (log : Log) (r : Request) : Prop :=
  v.isPending = false ∧ v.active = some r ∧ r ∈ log.outstanding

/-- The slot of the active request is not taken away from a request: the
client sends requests of known methods, and none while a pending request is on
its way to the engine; no completion event comes while a request of the client
is at the engine and another is pending, or while the response handler of that
request needs the one completed. -/
def Undisturbed (k : Methods) (v : View) (log : Log) : Signal → Prop
  | .request r => r.method < k.count ∧ v.isPending = false
  | .event r => r.method = k.completion → v.Stores r → ¬ v.Stops k →
      ∀ q ∈ log.outstanding, v.Waits log q →
        v.queue = [] ∧ (q.method ∈ k.follows → k.keeps = true)
  | .response _ _ | .unknown => True

instance (k : Methods) (v : View) (log : Log) :
    (signal : Signal) → Decidable (Undisturbed k v log signal)
  | .request _ => inferInstanceAs (Decidable (_ ∧ _))
  | .event r =>
    have (q : Request) : Decidable (v.Waits log q) := inferInstanceAs (Decidable (_ ∧ _ ∧ _))
    inferInstanceAs (Decidable (r.method = k.completion → v.Stores r → ¬ v.Stops k →
      ∀ q ∈ log.outstanding, v.Waits log q →
        v.queue = [] ∧ (q.method ∈ k.follows → k.keeps = true)))
  | .response _ _ | .unknown => isTrue trivial

/-- A message that comes in order and disturbs nothing. -/
def Resource.Regular {State : Type} (R : Resource State) (w : World State)
    (input : Received) : Prop :=
  Prepared input.message ∧ Orderly w.log (signalOf input.message) ∧
    Undisturbed R.methods (R.view w.machine) w.log (signalOf input.message)

instance {State : Type} (R : Resource State) (w : World State) (input : Received) :
    Decidable (R.Regular w input) := inferInstanceAs (Decidable (_ ∧ _ ∧ _))

/-! ## Requests, where they are -/

/-- The requests at the engine and in the queue are different requests of the
client. -/
structure Tidy (k : Methods) (active : Option Request) (queue : List Request)
    (log : Log) : Prop where
  sent_nodup : (log.sent.map Request.id).Nodup
  active_sent : ∀ a, active = some a → a ∈ log.sent
  queue_main : ∀ r ∈ queue, r.method = k.main
  known : ∀ r ∈ log.outstanding, r.method < k.count
  sent : ∀ r ∈ log.outstanding ++ queue, r ∈ log.sent
  nodup : (log.outstanding ++ queue).Nodup
  responses : ∀ r ∈ log.responses, r.id ∈ log.sent.map Request.id

namespace Tidy

variable {k : Methods} {active : Option Request} {queue : List Request} {log : Log}
  {r : Request} {emissions : List Emission}

section

variable (h : Tidy k active queue log)
include h

theorem eq_of_id {q : Request} (hr : r ∈ log.sent) (hq : q ∈ log.sent) (hid : r.id = q.id) :
    r = q :=
  List.inj_on_of_nodup_map h.sent_nodup hr hq hid

/-- Nothing depends on what is in progress, and on the events. -/
theorem events (running : List UInt32) (events : List Request) :
    Tidy k active queue { log with running := running, events := events } := { h with }

theorem release : Tidy k none queue log :=
  { h with active_sent := fun _ ha => by cases ha }

theorem sublist {queue' : List Request} (hqueue : queue'.Sublist queue) :
    Tidy k active queue' log :=
  have hsub := (List.Sublist.refl log.outstanding).append hqueue
  { h with
    queue_main := fun r hr => h.queue_main r (hqueue.subset hr)
    sent := fun r hr => h.sent r (hsub.subset hr)
    nodup := h.nodup.sublist hsub }

/-- The client sends a request with a new id. -/
theorem send (hnew : ∀ q ∈ log.sent, q.id ≠ r.id) :
    Tidy k active queue { log with sent := log.sent ++ [r] } :=
  { h with
    sent_nodup := nodup_ids_append h.sent_nodup hnew
    active_sent := fun a ha => List.mem_append_left _ (h.active_sent a ha)
    sent := fun q hq => List.mem_append_left _ (h.sent q hq)
    responses := fun q hq => by
      rw [List.map_append]
      exact List.mem_append_left _ (h.responses q hq) }

theorem enqueue (hmain : r.method = k.main) (hsent : r ∈ log.sent)
    (hnew : r ∉ log.outstanding ++ queue) :
    Tidy k active (queue ++ [r]) log :=
  { h with
    queue_main := List.forall_mem_append.mpr ⟨h.queue_main, List.forall_mem_singleton.mpr hmain⟩
    sent := by
      rw [← List.append_assoc]
      exact List.forall_mem_append.mpr ⟨h.sent, List.forall_mem_singleton.mpr hsent⟩
    nodup := by
      rw [← List.append_assoc]
      exact h.nodup.append (List.nodup_singleton r) (List.disjoint_singleton.mpr hnew) }

/-- A request goes to the engine. -/
theorem engine (hmethod : r.method < k.count) (hsent : r ∈ log.sent)
    (hnew : r ∉ log.outstanding ++ queue) :
    Tidy k (some r) queue (log.emit (.toEngine r)) :=
  have hperm : (log.outstanding ++ [r] ++ queue).Perm (r :: (log.outstanding ++ queue)) := by
    rw [List.append_assoc]
    exact List.perm_middle
  { h with
    active_sent := fun a ha => by
      cases ha
      exact hsent
    known := List.forall_mem_append.mpr ⟨h.known, List.forall_mem_singleton.mpr hmethod⟩
    sent := fun q hq => List.forall_mem_cons.mpr ⟨hsent, h.sent⟩ q (hperm.mem_iff.mp hq)
    nodup := hperm.nodup_iff.mpr (List.nodup_cons.mpr ⟨hnew, h.nodup⟩) }

end

/-- The next pending request goes to the engine. -/
theorem pop (h : Tidy k active (r :: queue) log) :
    Tidy k (some r) queue (log.emit (.toEngine r)) := by
  have hnodup := h.nodup
  rw [List.perm_middle.nodup_iff, List.nodup_cons] at hnodup
  refine (h.sublist (List.sublist_cons_self r queue)).engine ?_ ?_ hnodup.1
  · rw [h.queue_main r List.mem_cons_self]
    exact k.main_lt
  · exact h.sent r (List.mem_append_right _ List.mem_cons_self)

/-- A request is answered by the engine. -/
theorem answer (h : Tidy k active queue log) (r : Request) (running : List UInt32) :
    Tidy k active queue
      { log with outstanding := log.outstanding.erase r, running := running } :=
  have hsub : (log.outstanding.erase r ++ queue).Sublist (log.outstanding ++ queue) :=
    List.erase_sublist.append (List.Sublist.refl _)
  { h with
    known := fun q hq => h.known q (List.mem_of_mem_erase hq)
    sent := fun q hq => h.sent q (hsub.subset hq)
    nodup := h.nodup.sublist hsub }

/-- A response goes to the client. -/
theorem respond (h : Tidy k active queue log) (hsent : r ∈ log.sent) :
    Tidy k none queue (log.emit (.response r)) :=
  { h.release with
    responses := List.forall_mem_append.mpr
      ⟨h.responses, List.forall_mem_singleton.mpr (List.mem_map_of_mem hsent)⟩ }

end Tidy

/-! ## The invariant -/

/-- Every request of the client has been answered. -/
structure Quiet (k : Methods) (v : View) (log : Log) : Prop where
  answered : ∀ r ∈ log.sent, log.answers r = 1
  pending : v.isPending = true →
    ∃ a ∈ log.outstanding, v.active = some a ∧ a.method = k.main
  stale : v.isPending = false → ∀ a, v.active = some a → a ∉ log.outstanding

/-- The client waits for the response to `a`. -/
structure Waiting (k : Methods) (v : View) (log : Log) (a : Request) : Prop where
  waits : v.Waits log a
  unanswered : log.answers a = 0
  answered : ∀ r ∈ log.sent, r ≠ a → log.answers r = 1
  follows : a.method ∈ k.follows → v.stored.isSome = true

/-- What holds in every state of an undisturbed run. -/
def ResponsesInv (k : Methods) (v : View) (log : Log) : Prop :=
  Tidy k v.active v.queue log ∧ (Quiet k v log ∨ ∃ a, Waiting k v log a)

section Step

variable {k : Methods} {v v' : View} {log : Log}

theorem answers_emit_response (log : Log) (r q : Request) :
    (log.emit (.response r)).answers q = log.answers q + if r.id = q.id then 1 else 0 := by
  simp [Log.answers, Log.emit, List.count_singleton]

theorem answers_new {active : Option Request} (h : Tidy k active queue log)
    (hnew : ∀ q ∈ log.sent, q.id ≠ r.id) : log.answers r = 0 := by
  apply List.count_eq_zero.mpr
  intro hmem
  obtain ⟨s, hs, hid⟩ := List.mem_map.mp hmem
  obtain ⟨q, hq, hqid⟩ := List.mem_map.mp (h.responses s hs)
  exact hnew q hq (hqid.trans hid)

/-- The response that the client waits for. -/
theorem quiet_respond {active : Option Request} (h : Tidy k active queue log) (hr : r ∈ log.sent)
    (hunanswered : log.answers r = 0) (hanswered : ∀ q ∈ log.sent, q ≠ r → log.answers q = 1)
    (hpending : v'.isPending = false) (hactive : v'.active = none) :
    Quiet k v' (log.emit (.response r)) := by
  constructor
  · intro q hq
    rw [answers_emit_response]
    by_cases hqr : q = r
    · rw [hqr, hunanswered, if_pos rfl]
    · rw [hanswered q hq hqr, if_neg]
      intro hid
      exact hqr (h.eq_of_id hq hr hid.symm)
  · intro htrue
    rw [hpending] at htrue
    cases htrue
  · intro _ a ha
    rw [hactive] at ha
    cases ha

/-- The next pending request goes to the engine when nobody waits. -/
theorem responsesInv_pop (h : Tidy k v.active v.queue log)
    (hanswered : ∀ r ∈ log.sent, log.answers r = 1)
    (hempty : v.queue = [] → Quiet k v log ∨ ∃ a, Waiting k v log a) :
    ResponsesInv k v.pop.1 (v.pop.2.foldl Log.emit log) := by
  rcases v.pop_cases with ⟨hqueue, hpop⟩ | ⟨r, queue, hqueue, hpop⟩
  · rw [hpop]
    exact ⟨h, hempty hqueue⟩
  · rw [hpop]
    rw [hqueue] at h
    refine ⟨h.pop, .inl ⟨hanswered, ?_, ?_⟩⟩
    · intro _
      exact ⟨r, List.mem_append_right _ (List.mem_singleton_self r), rfl,
        h.queue_main r List.mem_cons_self⟩
    · intro hfalse
      cases hfalse

section

variable (h : ResponsesInv k v log)
include h

/-- A client that keeps to the order sends when every request has been
answered. -/
theorem ResponsesInv.quiet (hanswered : ∀ q ∈ log.sent, 0 < log.answers q) : Quiet k v log := by
  rcases h.2 with hquiet | ⟨a, hwaiting⟩
  · exact hquiet
  · have hsent := h.1.active_sent a hwaiting.waits.2.1
    have hpos := hanswered a hsent
    rw [hwaiting.unanswered] at hpos
    omega

/-- A response to the active request is one to a request taken from the queue,
or the one the client waits for. -/
theorem ResponsesInv.answered {a : Request} (hactive : v.active = some a) (hid : a.id = r.id)
    (hr : r ∈ log.outstanding) :
    a = r ∧ (Quiet k v log ∧ v.isPending = true ∧ a.method = k.main ∨ Waiting k v log a) := by
  have har : a = r := h.1.eq_of_id (h.1.active_sent a hactive)
    (h.1.sent r (List.mem_append_left _ hr)) hid
  refine ⟨har, ?_⟩
  rcases h.2 with hquiet | ⟨b, hwaiting⟩
  · cases hpending : v.isPending with
    | true =>
      obtain ⟨b, -, hb, hmain⟩ := hquiet.pending hpending
      cases hactive.symm.trans hb
      exact .inl ⟨hquiet, rfl, hmain⟩
    | false =>
      rw [← har] at hr
      exact absurd hr (hquiet.stale hpending a hactive)
  · cases hactive.symm.trans hwaiting.waits.2.1
    exact .inr hwaiting

/-- A response that is not one to the active request. -/
theorem responsesInv_ignored (running : List UInt32) (hne : ∀ a, v.active = some a → a ≠ r) :
    ResponsesInv k v
      { log with outstanding := log.outstanding.erase r, running := running } := by
  refine ⟨h.1.answer r running, ?_⟩
  rcases h.2 with hquiet | ⟨a, hwaiting⟩
  · refine .inl ⟨hquiet.answered, ?_, ?_⟩
    · intro hpending
      obtain ⟨a, ha, hactive, hmain⟩ := hquiet.pending hpending
      exact ⟨a, (List.mem_erase_of_ne (hne a hactive)).mpr ha, hactive, hmain⟩
    · intro hpending a hactive hmem
      exact hquiet.stale hpending a hactive (List.mem_of_mem_erase hmem)
  · obtain ⟨hpending, hactive, hmem⟩ := hwaiting.waits
    have hmem := (List.mem_erase_of_ne (hne a hactive)).mpr hmem
    exact .inr ⟨a, ⟨hpending, hactive, hmem⟩, hwaiting.unanswered, hwaiting.answered,
      hwaiting.follows⟩

/-- The response that the client waits for is passed on. -/
theorem responsesInv_respond (v' : View) {a : Request} (hwaiting : Waiting k v log a)
    (running : List UInt32) (hqueue : queue.Sublist v.queue) (hpending : v'.isPending = false)
    (hactive : v'.active = none) :
    let log' := ({ log with outstanding := log.outstanding.erase a, running := running } :
      Log).emit (.response a)
    Tidy k none queue log' ∧ Quiet k v' log' := by
  have htidy := (h.1.answer a running).sublist hqueue
  have hsent : a ∈ log.sent := h.1.active_sent a hwaiting.waits.2.1
  exact ⟨htidy.respond hsent, quiet_respond htidy hsent hwaiting.unanswered
    hwaiting.answered hpending hactive⟩

theorem responsesInv_request (horder : Orderly log (.request r))
    (hslot : Undisturbed k v log (.request r)) (heffect : Effect k v (.request r) v' emissions) :
    ResponsesInv k v' (log.next k (.request r) emissions) := by
  obtain ⟨hnew, hanswered⟩ := horder
  obtain ⟨hmethod, hpending⟩ := hslot
  have hquiet := h.quiet hanswered
  have hsent := h.1.send hnew
  have hmem : r ∈ log.sent ++ [r] := List.mem_append_right _ (List.mem_singleton_self r)
  have hunanswered : log.answers r = 0 := answers_new h.1 hnew
  have hother : ∀ q ∈ log.sent ++ [r], q ≠ r → log.answers q = 1 := by
    intro q hq hne
    rcases List.mem_append.mp hq with hq | hq
    · exact hquiet.answered q hq
    · exact absurd (List.mem_singleton.mp hq) hne
  have hfree : r ∉ log.outstanding ++ v.queue := by
    intro hr
    exact hnew r (h.1.sent r hr) rfl
  cases heffect with
  | ignoredRequest _ hcount => omega
  | dispatched _ stored _ hbusy hstored hfollows =>
    refine ⟨hsent.engine hmethod hmem hfree, .inr ⟨r, ⟨hpending, rfl, ?_⟩, hunanswered,
      hother, hfollows⟩⟩
    exact List.mem_append_right _ (List.mem_singleton_self r)
  | enqueued _ hmain hbusy =>
    have htidy := hsent.enqueue hmain hmem hfree
    exact ⟨htidy.respond hmem,
      .inl (quiet_respond htidy hmem hunanswered hother hpending rfl)⟩
  | replied _ stored queue hmain hstored hqueue =>
    have htidy := hsent.sublist hqueue
    exact ⟨htidy.respond hmem,
      .inl (quiet_respond htidy hmem hunanswered hother hpending rfl)⟩

theorem responsesInv_response {answer : Answer} (hr : r ∈ log.outstanding)
    (heffect : Effect k v (.response r answer) v' emissions) :
    ResponsesInv k v' (log.next k (.response r answer) emissions) := by
  obtain ⟨running, hreceive⟩ := Log.receive_response k hr answer
  unfold Log.next
  rw [hreceive]
  cases heffect with
  | ignoredResponse _ _ hignored =>
    apply responsesInv_ignored h
    rintro a ha rfl
    rcases hignored with hawaits | hcount
    · exact hawaits ⟨a, ha, rfl⟩
    · have := h.1.known a hr
      omega
  | mainAnswered a _ _ hactive hid hmain hpending =>
    obtain ⟨rfl, ⟨-, htrue, -⟩ | hwaiting⟩ := h.answered hactive hid hr
    · rw [hpending] at htrue
      cases htrue
    · rw [View.begin_eq]
      obtain ⟨htidy, hquiet⟩ := responsesInv_respond h ⟨none, v.isPending, _, _, v.queue⟩
        hwaiting running (List.Sublist.refl v.queue) hpending rfl
      exact ⟨htidy, .inl hquiet⟩
  | pendingAnswered a _ _ hactive hid hmain hpending =>
    obtain ⟨rfl, ⟨hquiet, -, -⟩ | hwaiting⟩ := h.answered hactive hid hr
    · have htidy := h.1.answer a running
      have hstale : a ∉ log.outstanding.erase a :=
        (h.1.nodup.sublist (List.sublist_append_left _ _)).not_mem_erase
      -- the event that announces the request changes nothing that matters
      have hlog : ∀ events, ResponsesInv k { v.begin a answer with isPending := false }
          { log with
            outstanding := log.outstanding.erase a, running := running, events := events } := by
        intro events
        rw [View.begin_eq]
        refine ⟨htidy.events running events,
          .inl ⟨hquiet.answered, (fun hfalse => by cases hfalse), fun _ b hb => ?_⟩⟩
        cases hactive.symm.trans hb
        exact hstale
      split
      · exact hlog _
      · exact hlog _
    · rw [hwaiting.waits.1] at hpending
      cases hpending
  | stopped a _ _ queue hactive hid hstop hqueue =>
    obtain ⟨rfl, ⟨-, -, hmain⟩ | hwaiting⟩ := h.answered hactive hid hr
    · exact absurd (hmain.symm.trans hstop) k.main_ne_stop
    · obtain ⟨htidy, hquiet⟩ := responsesInv_respond h
        ⟨none, v.isPending, none, false, queue⟩ hwaiting running hqueue hwaiting.waits.1 rfl
      exact responsesInv_pop htidy
        hquiet.answered (fun _ => .inl hquiet)
  | barged a _ _ queue hactive hid hbarge hqueue =>
    obtain ⟨rfl, ⟨-, -, hmain⟩ | hwaiting⟩ := h.answered hactive hid hr
    · exact absurd (hmain ▸ hbarge) k.main_not_bargeIn
    · obtain ⟨htidy, hquiet⟩ := responsesInv_respond h
        ⟨none, v.isPending, none, false, queue⟩ hwaiting running hqueue hwaiting.waits.1 rfl
      exact ⟨htidy, .inl hquiet⟩
  | answered a _ _ hactive hid hmethod hmain hstop hbarge =>
    obtain ⟨rfl, ⟨-, -, hmain'⟩ | hwaiting⟩ := h.answered hactive hid hr
    · exact absurd hmain' hmain
    · obtain ⟨htidy, hquiet⟩ := responsesInv_respond h { v with active := none }
        hwaiting running (List.Sublist.refl v.queue) hwaiting.waits.1 rfl
      exact ⟨htidy, .inl hquiet⟩

end

section

variable (h : ResponsesInv k v log)
include h

/-- Events of the engine change nothing in the history that matters. -/
theorem ResponsesInv.events (running : List UInt32) (events : List Request) :
    ResponsesInv k v { log with running := running, events := events } := by
  refine ⟨h.1.events running events, ?_⟩
  rcases h.2 with hquiet | ⟨a, hwaiting⟩
  · exact .inl { hquiet with }
  · exact .inr ⟨a, { hwaiting with }⟩

theorem responsesInv_event (hslot : Undisturbed k v log (.event r))
    (heffect : Effect k v (.event r) v' emissions) :
    ResponsesInv k v' (log.next k (.event r) emissions) := by
  obtain ⟨running, hreceive⟩ := Log.receive_event k log r
  unfold Log.next
  rw [hreceive]
  cases heffect with
  | ignoredEvent => exact h.events running log.events
  | forwarded => exact h.events running _
  | completed s _ hstored hid hcompletion hstop =>
    -- the view with the request completed and the queue not yet looked at
    let v1 : View := { v with stored := if k.keeps then some s else none, busy := false }
    let log1 : Log := { log with running := running, events := log.events ++ [r] }
    have htidy : Tidy k v1.active v1.queue log1 := h.1.events running _
    rcases h.2 with hquiet | ⟨a, hwaiting⟩
    · have hquiet : Quiet k v1 log1 := ⟨hquiet.answered, hquiet.pending, hquiet.stale⟩
      exact responsesInv_pop htidy hquiet.answered (fun _ => .inl hquiet)
    · obtain ⟨hqueue, hkeeps⟩ :=
        hslot hcompletion ⟨s, hstored, hid⟩ hstop a hwaiting.waits.2.2 hwaiting.waits
      have hwaiting : Waiting k v1 log1 a := by
        refine ⟨hwaiting.waits, hwaiting.unanswered, hwaiting.answered, ?_⟩
        intro hfollows
        show (if k.keeps then some s else none).isSome = true
        rw [hkeeps hfollows]
        rfl
      have hpop : v1.pop = (v1, []) := by
        unfold View.pop
        rw [show v1.queue = [] from hqueue]
      rw [hpop]
      exact ⟨htidy, .inr ⟨a, hwaiting⟩⟩

/-- The invariant keeps the response handlers from the NULL pointer. -/
theorem responsesInv_follows {a : Request} (hactive : v.active = some a) (hid : a.id = r.id)
    (hr : r ∈ log.outstanding) (hfollows : r.method ∈ k.follows) : v.stored.isSome = true := by
  obtain ⟨rfl, ⟨-, -, hmain⟩ | hwaiting⟩ := h.answered hactive hid hr
  · exact absurd (hmain ▸ hfollows) k.main_not_follows
  · exact hwaiting.follows hfollows

theorem responsesInv_effect {signal : Signal} (horder : Orderly log signal)
    (hslot : Undisturbed k v log signal) (heffect : Effect k v signal v' emissions) :
    ResponsesInv k v' (log.next k signal emissions) := by
  cases signal with
  | request r => exact responsesInv_request h horder hslot heffect
  | response r answer => exact responsesInv_response h horder heffect
  | event r => exact responsesInv_event h hslot heffect
  | unknown =>
    cases heffect
    exact h

end

end Step

/-! ## Runs -/

/-- The invariant of a channel. -/
def Resource.Responds {State : Type} (R : Resource State) (w : World State) : Prop :=
  w.fault = none ∧ R.Live w.machine ∧ ResponsesInv R.methods (R.view w.machine) w.log

variable {State : Type} {R : Resource State}

theorem Resource.Responds.step (href : R.Refines) {w w' : World State}
    {input : Received} (h : R.Responds w) (hregular : R.Regular w input)
    (hstep : R.step w input = some w') : R.Responds w' := by
  obtain ⟨hfault, hlive, hinv⟩ := h
  obtain ⟨hprepared, horder, hslot⟩ := hregular
  rcases Resource.step_cases href hlive hstep with
    ⟨emissions, hfault', hlive', heffect, hlog, -⟩ | ⟨pointer, -, hadmits⟩
  · refine ⟨hfault', hlive', ?_⟩
    rw [hlog]
    exact responsesInv_effect hinv horder hslot heffect
  · -- no pointer is NULL
    exfalso
    rcases hadmits with ⟨-, ⟨r, answer, hsignal, ⟨a, hactive, hid⟩, hfollows⟩, hnone⟩ | ⟨-, h⟩
    · rw [hsignal] at horder
      have hsome := responsesInv_follows hinv hactive hid horder hfollows
      simp [Resource.view, hnone] at hsome
    · exact h hprepared

theorem Resource.Responds.complete {w : World State} (h : R.Responds w) :
    ResponsesComplete w := by
  obtain ⟨hfault, -, -, hquiet | ⟨a, hwaiting⟩⟩ := h
  · exact ⟨hfault, fun r hr => (hquiet.answered r hr).le, fun _ => hquiet.answered⟩
  · refine ⟨hfault, ?_, ?_⟩
    · intro r hr
      by_cases hra : r = a
      · rw [hra, hwaiting.unanswered]
        omega
      · exact (hwaiting.answered r hr hra).le
    · intro hempty
      have := hwaiting.waits.2.2
      rw [hempty] at this
      cases this

theorem Resource.always_complete (href : R.Refines) (version : MrcpVersion)
    (hstart : R.view (R.create version) = ⟨none, false, none, false, []⟩) (inputs : List Received)
    (h : Runs.Along R.step R.Regular (R.start version) inputs) :
    Runs.Always R.step ResponsesComplete (R.start version) inputs := by
  have hinv : ResponsesInv R.methods (R.view (R.create version)) .empty := by
    rw [hstart]
    refine ⟨?_, .inl ?_⟩
    · constructor <;> simp [Log.empty]
    · constructor <;> simp [Log.empty]
  have hrun : Runs.Always R.step R.Responds (R.start version) inputs :=
    Runs.always_of_along (fun w input w' hI hP hstep => hI.step href hP hstep) inputs _
      ⟨rfl, href.create version, hinv⟩ h
  exact hrun.mono (fun w hw => hw.complete)

/-- Every request of the client gets exactly one response, in every run that
is in order and undisturbed. -/
theorem responses_complete (version : MrcpVersion) (inputs : List Received) :
    (Runs.Along recognizer.step recognizer.Regular (recognizer.start version) inputs →
      Runs.Always recognizer.step ResponsesComplete (recognizer.start version) inputs) ∧
    (Runs.Along synthesizer.step synthesizer.Regular (synthesizer.start version) inputs →
      Runs.Always synthesizer.step ResponsesComplete (synthesizer.start version) inputs) := by
  constructor
  · intro h
    exact Resource.always_complete recognizer_refines version rfl inputs h
  · intro h
    exact Resource.always_complete synthesizer_refines version rfl inputs h

/-- A RECOGNIZE is answered, a second one waits and is taken from the queue
when the first completes; a SPEAK is stopped while another waits. -/
def queuedRecognition : List Received :=
  [received (recogRequest 3 1), received (inProgress (recogRequest 3 1)),
   received (recogRequest 3 2), received (mrcpEventCreate (recogRequest 3 1) 1),
   received (inProgress (recogRequest 3 2)), received (recogRequest 1 3),
   received (mrcpResponseCreate (recogRequest 1 3))]

def stoppedSpeech : List Received :=
  [received (synthRequest 2 1), received (inProgress (synthRequest 2 1)),
   received (synthRequest 2 2), received (synthRequest 3 3),
   received (mrcpResponseCreate (synthRequest 3 3))]

theorem responses_complete_queued :
    Runs.Always recognizer.step ResponsesComplete (recognizer.start .v2) queuedRecognition ∧
      Runs.Always synthesizer.step ResponsesComplete (synthesizer.start .v2) stoppedSpeech :=
  ⟨(responses_complete .v2 queuedRecognition).1 (by decide +kernel),
    (responses_complete .v2 stoppedSpeech).2 (by decide +kernel)⟩

/-- GET-PARAMS is at the engine when the recognition completes.  The pending
RECOGNIZE takes its slot, and the response to GET-PARAMS is dropped. -/
def overtakenGetParams : List Received :=
  [received (recogRequest 3 1), received (inProgress (recogRequest 3 1)),
   received (recogRequest 3 2), received (recogRequest 1 3),
   received (mrcpEventCreate (recogRequest 3 1) 1),
   received (mrcpResponseCreate (recogRequest 1 3)),
   received (inProgress (recogRequest 3 2))]

theorem getParams_without_response :
    Runs.Along recognizer.step
        (fun w input => Prepared input.message ∧ Orderly w.log (signalOf input.message))
        (recognizer.start .v2) overtakenGetParams ∧
      ∃ w, Runs.after recognizer.step (recognizer.start .v2) overtakenGetParams = some w ∧
        w.log.outstanding = [] ∧ ⟨3, 1⟩ ∈ w.log.sent ∧ w.log.answers ⟨3, 1⟩ = 0 := by
  refine ⟨by decide +kernel, ?_⟩
  refine ⟨_, rfl, ?_, ?_, ?_⟩ <;> decide +kernel

end UniMrcp.Engine
