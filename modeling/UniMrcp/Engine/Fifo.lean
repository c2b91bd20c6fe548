import UniMrcp.Engine.RecogEffect
import UniMrcp.Engine.SynthEffect

/-!
# RECOGNIZE and SPEAK requests reach the engine in order

A RECOGNIZE or SPEAK waits when the machine knows of one in progress.  It does
not look at a request that is on its way to the engine.  `fifo_order` says for
which runs the engine gets the requests in the order the client sent them, and
never has two of them at a time.
-/

namespace UniMrcp.Engine

open UniMrcp.Lib UniMrcp.Mrcp

/-- The RECOGNIZE or SPEAK requests of a list. -/
def mains (k : Methods) (requests : List Request) : List Request :=
  requests.filter (fun r => r.method = k.main)

/-- The engine got the requests in the order they were sent, and has at most
one that it has not answered or that is in progress. -/
def FifoOrder (k : Methods) (log : Log) : Prop :=
  (mains k log.dispatched).Sublist (mains k log.sent) ∧
    (mains k log.outstanding).length + log.running.length ≤ 1

instance (k : Methods) (log : Log) : Decidable (FifoOrder k log) :=
  inferInstanceAs (Decidable (_ ∧ _))

/-- The machine knows what the engine has: no request of the client comes while
a RECOGNIZE or SPEAK waits for its answer, and none of these while the queue is
stalled; the engine answers what it has got, with the method of the request and
once for each, and STOP and BARGE-IN-OCCURRED succeed; a completion event does
not take a pending request while another waits for its answer. -/
def FifoKept (k : Methods) (v : View) (log : Log) : Signal → Prop
  | .request r => mains k log.outstanding = [] ∧
      (r.method = k.main → v.busy = true ∨ v.queue = [])
  | .response r answer => r ∈ log.outstanding ∧
      (∀ a ∈ v.active, a.id = r.id → a.method = r.method) ∧
      (r.method = k.stop ∨ r.method ∈ k.bargeIn → answer.success = true)
  | .event r => r.method = k.completion → v.Stores r → ¬ v.Stops k →
      mains k log.outstanding = [] ∨ v.queue = []
  | .unknown => True

instance (k : Methods) (v : View) (log : Log) :
    (signal : Signal) → Decidable (FifoKept k v log signal)
  | .request _ => inferInstanceAs (Decidable (_ ∧ _))
  | .response _ _ => inferInstanceAs (Decidable (_ ∧ _ ∧ _))
  | .event r => inferInstanceAs (Decidable (r.method = k.completion → v.Stores r →
      ¬ v.Stops k → mains k log.outstanding = [] ∨ v.queue = []))
  | .unknown => isTrue trivial

/-! ## The invariant -/

/-- A RECOGNIZE or SPEAK at the engine is the active request, and nothing is in
progress then. -/
def MainOutstanding (k : Methods) (v : View) (log : Log) : Prop :=
  mains k log.outstanding = [] ∨
    ∃ m, mains k log.outstanding = [m] ∧ v.active = some m ∧ v.busy = false ∧ log.running = []

/-- What the engine has in progress is what the machine has stored. -/
def RunningStored (v : View) (running : List UInt32) : Prop :=
  running = [] ∨ ∃ s, v.stored = some s ∧ running = [s.id] ∧ v.busy = true

structure FifoInv (k : Methods) (v : View) (log : Log) : Prop where
  order : (mains k log.dispatched ++ v.queue).Sublist (mains k log.sent)
  outstanding : MainOutstanding k v log
  running : RunningStored v log.running

variable {requests : List Request} {r : Request} {emissions : List Emission}

section Step

variable {k : Methods} {v v' : View} {log : Log} {running : List UInt32}

theorem FifoInv.fifoOrder (h : FifoInv k v log) : FifoOrder k log := by
  refine ⟨(List.sublist_append_left _ _).trans h.order, ?_⟩
  rcases h.outstanding with hnone | ⟨m, hone, -, -, hrunning⟩
  · rw [hnone]
    rcases h.running with hrunning | ⟨s, -, hrunning, -⟩
    · rw [hrunning]; simp
    · rw [hrunning]; simp
  · rw [hone, hrunning]
    simp

theorem mains_append_main (h : r.method = k.main) :
    mains k (requests ++ [r]) = mains k requests ++ [r] := by
  simp [mains, h]

theorem mains_append_other (h : r.method ≠ k.main) :
    mains k (requests ++ [r]) = mains k requests := by
  simp [mains, h]

theorem mains_erase_other (h : r.method ≠ k.main) :
    mains k (requests.erase r) = mains k requests := by
  unfold mains
  rw [← List.erase_filter]
  simp [h]

/-- Nothing is in progress at the engine when the machine is free. -/
theorem RunningStored.free (h : RunningStored v running) (hbusy : v.busy = false) :
    running = [] := by
  rcases h with h | ⟨s, -, -, hbusy'⟩
  · exact h
  · rw [hbusy] at hbusy'
    cases hbusy'

theorem RunningStored.kept (h : RunningStored v running) {stored : Option Request}
    (hstored : StoredKept v stored) (active : Option Request) (queue : List Request)
    (isPending : Bool) :
    RunningStored ⟨active, isPending, stored, v.busy, queue⟩ running := by
  rcases h with h | ⟨s, hs, hrunning, hbusy⟩
  · exact .inl h
  · right
    rcases hstored with hsame | ⟨hfree, -⟩
    · exact ⟨s, hsame.trans hs, hrunning, hbusy⟩
    · rw [hbusy] at hfree
      cases hfree

/-- The next pending request goes to the engine, which has nothing. -/
theorem fifoInv_pop (hmain : ∀ r ∈ v.queue, r.method = k.main) (h : FifoInv k v log)
    (hfree : v.busy = false) (hnone : v.queue ≠ [] → mains k log.outstanding = []) :
    FifoInv k v.pop.1 (v.pop.2.foldl Log.emit log) := by
  have hrunning := h.running.free hfree
  rcases v.pop_cases with ⟨hqueue, hpop⟩ | ⟨r, queue, hqueue, hpop⟩
  · rw [hpop]
    exact h
  · rw [hpop]
    have hr : r.method = k.main := hmain r (by rw [hqueue]; exact List.mem_cons_self)
    refine ⟨?_, ?_, .inl hrunning⟩
    · show (mains k (log.dispatched ++ [r]) ++ queue).Sublist (mains k log.sent)
      rw [mains_append_main hr, List.append_assoc, List.singleton_append, ← hqueue]
      exact h.order
    · right
      refine ⟨r, ?_, rfl, hfree, hrunning⟩
      show mains k (log.outstanding ++ [r]) = [r]
      rw [mains_append_main hr, hnone (by rw [hqueue]; simp)]
      rfl

theorem fifoInv_request (h : FifoInv k v log) (hkept : FifoKept k v log (.request r))
    (heffect : Effect k v (.request r) v' emissions) :
    FifoInv k v' (log.next k (.request r) emissions) := by
  obtain ⟨hnone, hmain⟩ := hkept
  have hother : r.method ≠ k.main → mains k (log.sent ++ [r]) = mains k log.sent :=
    mains_append_other
  cases heffect with
  | ignoredRequest _ hmethod =>
    have hne : r.method ≠ k.main := by
      have := k.main_lt
      omega
    refine ⟨?_, .inl hnone, h.running⟩
    show (mains k log.dispatched ++ v.queue).Sublist (mains k (log.sent ++ [r]))
    rw [hother hne]
    exact h.order
  | dispatched _ stored hmethod hfree hstored hfollows =>
    by_cases hr : r.method = k.main
    · have hbusy := hfree hr
      have hqueue : v.queue = [] := by
        rcases hmain hr with htrue | hqueue
        · rw [hbusy] at htrue
          cases htrue
        · exact hqueue
      have horder := h.order
      rw [hqueue, List.append_nil] at horder
      have hrunning := h.running.free hbusy
      refine ⟨?_, .inr ⟨r, ?_, rfl, hbusy, hrunning⟩, .inl hrunning⟩
      · show (mains k (log.dispatched ++ [r]) ++ v.queue).Sublist (mains k (log.sent ++ [r]))
        rw [mains_append_main hr, mains_append_main hr, hqueue, List.append_nil]
        exact horder.append (List.Sublist.refl _)
      · show mains k (log.outstanding ++ [r]) = [r]
        rw [mains_append_main hr, hnone]
        rfl
    · refine ⟨?_, .inl ?_, h.running.kept hstored _ _ _⟩
      · show (mains k (log.dispatched ++ [r]) ++ v.queue).Sublist (mains k (log.sent ++ [r]))
        rw [mains_append_other hr, hother hr]
        exact h.order
      · show mains k (log.outstanding ++ [r]) = []
        rw [mains_append_other hr]
        exact hnone
  | enqueued _ hr hbusy =>
    refine ⟨?_, .inl hnone, h.running⟩
    show (mains k log.dispatched ++ (v.queue ++ [r])).Sublist (mains k (log.sent ++ [r]))
    rw [mains_append_main hr, ← List.append_assoc]
    exact h.order.append (List.Sublist.refl _)
  | replied _ stored queue hr hstored hqueue =>
    refine ⟨?_, .inl hnone, h.running.kept hstored _ _ _⟩
    show (mains k log.dispatched ++ queue).Sublist (mains k (log.sent ++ [r]))
    rw [hother hr]
    exact ((List.Sublist.refl _).append hqueue).trans h.order

/-- Less may be in progress than was. -/
theorem FifoInv.running_less (h : FifoInv k v log)
    (hrunning : running = log.running ∨ running = []) :
    FifoInv k v { log with running := running } := by
  rcases hrunning with rfl | rfl
  · exact h
  · refine ⟨h.order, ?_, .inl rfl⟩
    rcases h.outstanding with hnone | ⟨m, hone, hactive, hbusy, -⟩
    · exact .inl hnone
    · exact .inr ⟨m, hone, hactive, hbusy, rfl⟩

/-- What an answer of the engine does to its part of the history. -/
theorem receive_answer (hr : r ∈ log.outstanding) (answer : Answer) :
    (log.receive k (.response r answer)).sent = log.sent ∧
      (log.receive k (.response r answer)).dispatched = log.dispatched ∧
      (log.receive k (.response r answer)).outstanding = log.outstanding.erase r ∧
      (log.receive k (.response r answer)).running =
        if r.method = k.main ∧ answer.inProgress = true then log.running ++ [r.id]
        else if (r.method = k.stop ∨ r.method ∈ k.bargeIn) ∧ answer.success = true then []
        else log.running := by
  unfold Log.receive
  dsimp only
  rw [if_pos hr]
  exact ⟨rfl, rfl, rfl, rfl⟩

/-- The answer to a RECOGNIZE or SPEAK that the engine has is one to the active
request. -/
theorem MainOutstanding.active (h : MainOutstanding k v log) (hr : r ∈ log.outstanding)
    (hmain : r.method = k.main) :
    mains k log.outstanding = [r] ∧ v.active = some r ∧ v.busy = false ∧ log.running = [] := by
  have hmem : r ∈ mains k log.outstanding := List.mem_filter.mpr ⟨hr, by simpa using hmain⟩
  rcases h with hnone | ⟨m, hone, hactive, hbusy, hrunning⟩
  · rw [hnone] at hmem
    cases hmem
  · rw [hone] at hmem
    obtain rfl := List.mem_singleton.mp hmem
    exact ⟨hone, hactive, hbusy, hrunning⟩

/-- Another answer to the active request shows that there is none. -/
theorem MainOutstanding.none (h : MainOutstanding k v log) {a : Request}
    (hactive : v.active = some a) (hmain : a.method ≠ k.main) :
    mains k log.outstanding = [] := by
  rcases h with hnone | ⟨m, hone, hm, -, -⟩
  · exact hnone
  · cases hactive.symm.trans hm
    have hmem : a ∈ mains k log.outstanding := by
      rw [hone]
      exact List.mem_singleton_self a
    exact absurd (by simpa using (List.mem_filter.mp hmem).2) hmain

/-- The machine behind the answer to a RECOGNIZE or SPEAK. -/
theorem fifoInv_begin (h : FifoInv k v log) {a : Request} (answer : Answer)
    (hactive : v.active = some a) (hid : a.id = r.id) (hmain : r.method = k.main)
    (hr : r ∈ log.outstanding) {active : Option Request} {isPending : Bool} {log' : Log}
    (hsent : log'.sent = log.sent) (hdispatched : log'.dispatched = log.dispatched)
    (houtstanding : log'.outstanding = log.outstanding.erase r)
    (hrunning : log'.running = (log.receive k (.response r answer)).running) :
    FifoInv k { v.begin a answer with active := active, isPending := isPending } log' := by
  obtain ⟨hone, hactive', hbusy, hempty⟩ := h.outstanding.active hr hmain
  obtain rfl := Option.some.inj (hactive.symm.trans hactive')
  rw [View.begin_eq]
  refine ⟨?_, .inl ?_, ?_⟩
  · rw [hdispatched, hsent]
    exact h.order
  · rw [houtstanding, mains, ← List.erase_filter, ← mains, hone]
    simp
  · rw [hrunning, (receive_answer hr answer).2.2.2, hempty]
    by_cases hprogress : answer.inProgress = true
    · refine .inr ⟨a, ?_, ?_, ?_⟩ <;> simp [hmain, hprogress]
    · left
      rw [if_neg (fun hand => hprogress hand.2)]
      split <;> rfl

section

variable (hqueue_main : ∀ r ∈ v.queue, r.method = k.main) (h : FifoInv k v log)
include hqueue_main h

theorem fifoInv_response {answer : Answer} (hkept : FifoKept k v log (.response r answer))
    (heffect : Effect k v (.response r answer) v' emissions) :
    FifoInv k v' (log.next k (.response r answer) emissions) := by
  obtain ⟨hr, hmethod, hsuccess⟩ := hkept
  obtain ⟨hsent, hdispatched, houtstanding, hrunning⟩ := receive_answer hr answer
  -- the request in progress is ended, and the engine has no other
  have hend : r.method ≠ k.main → r.method = k.stop ∨ r.method ∈ k.bargeIn →
      (log.receive k (.response r answer)).running = [] := by
    intro hmain hends
    rw [hrunning, if_neg (fun hand => hmain hand.1), if_pos ⟨hends, hsuccess hends⟩]
  have hnone : r.method ≠ k.main → ∀ a, v.active = some a → a.id = r.id →
      mains k (log.receive k (.response r answer)).outstanding = [] := by
    intro hmain a hactive hid
    rw [houtstanding, mains_erase_other hmain]
    exact h.outstanding.none hactive (hmethod a hactive hid ▸ hmain)
  have horder : ∀ queue, queue.Sublist v.queue →
      (mains k (log.receive k (.response r answer)).dispatched ++ queue).Sublist
        (mains k (log.receive k (.response r answer)).sent) := by
    intro queue hqueue
    rw [hdispatched, hsent]
    exact ((List.Sublist.refl _).append hqueue).trans h.order
  cases heffect with
  | ignoredResponse _ _ hignored =>
    have hmain : r.method ≠ k.main := by
      intro hmain
      obtain ⟨-, hactive, -, -⟩ := h.outstanding.active hr hmain
      rcases hignored with hawaits | hcount
      · exact hawaits ⟨r, hactive, rfl⟩
      · have := k.main_lt
        omega
    have hless : FifoInv k v
        { log with running := (log.receive k (.response r answer)).running } := by
      apply h.running_less
      rw [hrunning, if_neg (fun hand => hmain hand.1)]
      split
      · exact .inr rfl
      · exact .inl rfl
    refine ⟨horder v.queue (.refl _), ?_, hless.running⟩
    show MainOutstanding k v (log.receive k (.response r answer))
    unfold MainOutstanding
    rw [houtstanding, mains_erase_other hmain]
    exact hless.outstanding
  | mainAnswered a _ _ hactive hid hmain hpending =>
    exact fifoInv_begin h answer hactive hid hmain hr hsent hdispatched houtstanding rfl
  | pendingAnswered a _ _ hactive hid hmain hpending =>
    split
    · exact fifoInv_begin h answer hactive hid hmain hr hsent hdispatched houtstanding rfl
    · exact fifoInv_begin h answer hactive hid hmain hr hsent hdispatched houtstanding rfl
  | stopped a _ _ queue hactive hid hstop hqueue =>
    have hmain : r.method ≠ k.main := fun hmain => k.main_ne_stop (hmain.symm.trans hstop)
    have hnil := hnone hmain a hactive hid
    apply fifoInv_pop
    · intro q hq
      exact hqueue_main q (hqueue.subset hq)
    · exact ⟨horder queue hqueue, .inl hnil, .inl (hend hmain (.inl hstop))⟩
    · rfl
    · exact fun _ => hnil
  | barged a _ _ queue hactive hid hbarge hqueue =>
    have hmain : r.method ≠ k.main := fun hmain => k.main_not_bargeIn (hmain ▸ hbarge)
    exact ⟨horder queue hqueue, .inl (hnone hmain a hactive hid), .inl (hend hmain (.inr hbarge))⟩
  | answered a _ _ hactive hid hcount hmain hstop hbarge =>
    refine ⟨horder v.queue (.refl _), .inl (hnone hmain a hactive hid), ?_⟩
    · show RunningStored _ (log.receive k _).running
      rw [hrunning, if_neg (fun hand => hmain hand.1), if_neg]
      · exact h.running
      · rintro ⟨hends | hends, -⟩
        · exact hstop hends
        · exact hbarge hends

theorem fifoInv_event (hkept : FifoKept k v log (.event r))
    (heffect : Effect k v (.event r) v' emissions) :
    FifoInv k v' (log.next k (.event r) emissions) := by
  -- an event may only end what is in progress
  have hreceive : ∃ running, log.receive k (.event r) = { log with running := running } ∧
      (running = log.running ∨ running = []) ∧
      (r.method = k.completion → ∀ s, v.stored = some s → s.id = r.id → running = []) := by
    unfold Log.receive
    dsimp only
    split
    · refine ⟨_, rfl, ?_, ?_⟩
      · rcases h.running with hempty | ⟨s, -, hs, -⟩
        · rw [hempty]
          exact .inl rfl
        · rw [hs]
          by_cases hid : s.id = r.id <;> simp [hid]
      · intro _ s hs hid
        rcases h.running with hempty | ⟨s', hs', hrunning, -⟩
        · rw [hempty]
          rfl
        · cases hs.symm.trans hs'
          rw [hrunning]
          simp [hid]
    · next hcompletion =>
      exact ⟨log.running, rfl, .inl rfl, fun hc => absurd hc hcompletion⟩
  obtain ⟨running, hlog, hrunning, hcompleted⟩ := hreceive
  have hinv := h.running_less hrunning
  unfold Log.next
  rw [hlog]
  cases heffect with
  | ignoredEvent => exact hinv
  | forwarded => exact ⟨hinv.order, hinv.outstanding, hinv.running⟩
  | completed s _ hstored hid hcompletion hstop =>
    have hnil := hcompleted hcompletion s hstored hid
    have hfree := hkept hcompletion ⟨s, hstored, hid⟩ hstop
    apply fifoInv_pop
    · exact hqueue_main
    · refine ⟨hinv.order, ?_, .inl hnil⟩
      rcases hinv.outstanding with hnone | ⟨m, hone, hactive, -, hempty⟩
      · exact .inl hnone
      · exact .inr ⟨m, hone, hactive, rfl, hempty⟩
    · rfl
    · intro hne
      rcases hfree with hnone | hqueue
      · exact hnone
      · exact absurd hqueue hne

theorem fifoInv_effect {signal : Signal} (hkept : FifoKept k v log signal)
    (heffect : Effect k v signal v' emissions) : FifoInv k v' (log.next k signal emissions) := by
  cases signal with
  | request r => exact fifoInv_request h hkept heffect
  | response r answer => exact fifoInv_response hqueue_main h hkept heffect
  | event r => exact fifoInv_event hqueue_main h hkept heffect
  | unknown =>
    cases heffect
    exact h

end

end Step

/-! ## Runs -/

/-- The condition on a message of a channel. -/
def Resource.KeepsFifo {State : Type} (R : Resource State) (w : World State)
    (input : Received) : Prop :=
  FifoKept R.methods (R.view w.machine) w.log (signalOf input.message)

instance {State : Type} (R : Resource State) (w : World State) (input : Received) :
    Decidable (R.KeepsFifo w input) := inferInstanceAs (Decidable (FifoKept _ _ _ _))

theorem Resource.always_fifo {State : Type} {R : Resource State} (href : R.Refines)
    (version : MrcpVersion) (hstart : R.view (R.create version) = ⟨none, false, none, false, []⟩)
    (inputs : List Received) (h : Runs.Along R.step R.KeepsFifo (R.start version) inputs) :
    Runs.Always R.step (fun w => FifoOrder R.methods w.log) (R.start version) inputs := by
  have hinv := Resource.always_of_effect href
    (fun w input update emissions _ hlive hP hI heffect =>
      fifoInv_effect hlive.queue_main hI hP heffect) version inputs ?_ h
  · exact hinv.mono (fun w hw => hw.2.fifoOrder)
  · rw [hstart]
    exact ⟨List.Sublist.refl _, .inl rfl, .inl rfl⟩

/-- The second request waits for the first to complete. -/
def twoRecognitions : List Received :=
  [received (recogRequest 3 1), received (inProgress (recogRequest 3 1)),
   received (recogRequest 3 2), received (mrcpEventCreate (recogRequest 3 1) 1),
   received (inProgress (recogRequest 3 2))]

def twoSpeeches : List Received :=
  [received (synthRequest 2 1), received (inProgress (synthRequest 2 1)),
   received (synthRequest 2 2), received (mrcpEventCreate (synthRequest 2 1) 1),
   received (inProgress (synthRequest 2 2))]

/-- A third SPEAK comes while the second is on its way from the queue to the
engine. -/
def thirdSpeech : List Received :=
  [received (synthRequest 2 1), received (inProgress (synthRequest 2 1)),
   received (synthRequest 2 2), received (mrcpEventCreate (synthRequest 2 1) 1),
   received (synthRequest 2 3)]

end UniMrcp.Engine
