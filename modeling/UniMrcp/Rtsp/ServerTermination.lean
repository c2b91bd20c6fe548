import UniMrcp.Rtsp.ServerRequests

/-!
# A server session ends once

`terminate_session` is called at most once for a session, and a session is
destroyed at most once, in every run of the application and the network.

Two kinds of step break this, and no other does.  The close of the connection
asks for the termination of a session while the application still has a
request in hand; the response to that request may ask again.  And a session
whose first request could not be handled has been destroyed, but the close
finds it in the table.
-/

namespace UniMrcp.Rtsp

open UniMrcp.Lib UniMrcp.Lib.Runs UniMrcp.Apt

/-- Every session is asked to terminate at most once, and destroyed at most
once. -/
def SessionsEndOnce (connection : ServerConnection) : Prop :=
  ∀ session ∈ connection.sessions, session.asked ≤ 1 ∧ session.destroyed ≤ 1

/-- The response asks for the termination of the session, or the next request
of the queue does. -/
def AsksEnd (session : ServerSession) (request message : Message) : Prop :=
  ¬ ResponseCrashes request message ∧
    (ResponseEnds session request message ∨ ∃ next ∈ session.requestQueue.head?,
      LastTeardown { session with resourceTable := respondedTable session request message } next)

/-- The steps that ask again, or destroy again. -/
def EndsAgain (connection : ServerConnection) : ServerInput → Prop
  | .respond j message => message.isRequest = false ∧ ∃ session ∈ connection.sessions[j]?,
      session.terminating = true ∧ ∃ request ∈ session.activeRequest,
        AsksEnd session request message
  | .terminate j => ∃ session ∈ connection.sessions[j]?, session.destroyed ≠ 0
  | _ => False

/-! ## A session -/

/-- The invariant of a session.  A session whose first request could not be
handled is destroyed before it is asked to terminate; it keeps that request,
so nothing is given to the application any more. -/
structure Once (session : ServerSession) : Prop where
  asked : session.asked = session.terminating.toNat
  ended : session.ended ≤ session.asked
  destroyed : session.destroyed = session.ended ∨
    (session.destroyed = 1 ∧ session.ended = 0 ∧ session.owed = none ∧
      session.activeRequest.isSome = true)

/-- The session has been asked twice, or destroyed twice. -/
def Twice (session : ServerSession) : Prop := 1 < session.asked ∨ 1 < session.destroyed

/-- What becomes of a session that a function works on. -/
inductive Counted (again : Prop) : Option ServerSession → Prop where
  | crashed (well : ¬ again) : Counted again none
  | once {session : ServerSession} (well : ¬ again) (once : Once session) :
      Counted again (some session)
  | twice {session : ServerSession} (bad : again) (twice : Twice session) :
      Counted again (some session)

section Session

variable {session session' : ServerSession} {app : Application} {sock : Bool}
variable {message request : Message}

theorem Once.le_one (h : Once session) : session.asked ≤ 1 ∧ session.destroyed ≤ 1 := by
  have hasked : session.asked ≤ 1 := h.asked.trans_le (Bool.toNat_le _)
  refine ⟨hasked, ?_⟩
  rcases h.destroyed with hended | ⟨hone, -⟩
  · exact hended.trans_le (h.ended.trans hasked)
  · exact hone.le

theorem Counted.iff {again again' : Prop} {result : Option ServerSession}
    (h : Counted again result) (hiff : again ↔ again') : Counted again' result := by
  rwa [propext hiff] at h

/-- The termination of a session is requested. -/
theorem Once.terminateRequest (h : Once session) :
    Counted (session.terminating = true) (some (rtspServerSessionTerminateRequest session)) := by
  cases hterm : session.terminating with
  | false =>
    refine .once (by simp) ⟨?_, Nat.le_succ_of_le h.ended, h.destroyed⟩
    rw [rtspServerSessionTerminateRequest, h.asked, hterm]
    rfl
  | true =>
    refine .twice rfl (.inl ?_)
    change 1 < session.asked + 1
    rw [h.asked, hterm]
    exact Nat.lt_succ_self 1

theorem Mishandled.not_last (h : Mishandled app session message) :
    ¬ LastTeardown session message := by
  rintro ⟨hteardown, name, hname, hempty⟩
  rcases h with ⟨-, hnone⟩ | ⟨-, hnot⟩
  · cases hname.symm.trans hnone
  · exact hnot ⟨hteardown, name, hname, hempty⟩

section

variable (app : Application) (sock : Bool) (message : Message) (h : Once session)
include h

/-- The message handler. -/
theorem Once.handle (hlive : session.destroyed = session.ended) :
    Counted (session.terminating = true ∧ LastTeardown session message)
      ((rtspServerSessionMessageHandle app sock session message).map Prod.fst) := by
  have hcase := messageHandle_case app sock session message
  generalize rtspServerSessionMessageHandle app sock session message = result at hcase ⊢
  cases hcase with
  | crashed mishandled => exact .crashed (fun hbad => mishandled.not_last hbad.2)
  | last table well teardown =>
    refine .iff (Once.terminateRequest ?_) (and_iff_left teardown).symm
    exact ⟨h.asked, h.ended, .inl hlive⟩
  | taken table well more =>
    exact .once (fun hbad => more hbad.2) ⟨h.asked, h.ended, .inl hlive⟩
  | failed table mishandled more =>
    refine .once (fun hbad => more hbad.2) ?_
    cases sock <;> exact ⟨h.asked, h.ended, .inl hlive⟩

/-- A request for a session that is not being terminated. -/
theorem Once.request_counted (hgoing : session.terminating = false) :
    Counted False (sessionRequest app sock session message) := by
  unfold sessionRequest
  dsimp only
  split
  · exact .once not_false ⟨h.asked, h.ended, h.destroyed⟩
  · rename_i hidle
    have hlive : session.destroyed = session.ended := by
      rcases h.destroyed with hlive | ⟨-, -, -, hactive⟩
      · exact hlive
      · exact absurd hactive hidle
    refine .iff (Once.handle app sock message ?_ hlive) (by simp [hgoing])
    exact ⟨h.asked, h.ended, .inl hlive⟩

end

/-- The first request of a new session. -/
theorem first_counted (app : Application) (sock : Bool) (id : Bytes) (message : Message) :
    Counted False (sessionFirst app sock (rtspServerSessionCreate id) message) := by
  have hcase := messageHandle_case app sock { rtspServerSessionCreate id with
    activeRequest := some message
    accepted := (rtspServerSessionCreate id).accepted ++ [message] } message
  unfold sessionFirst
  generalize rtspServerSessionMessageHandle app sock _ message = result at hcase ⊢
  cases hcase with
  | crashed => exact .crashed not_false
  | last | taken => exact .once not_false ⟨rfl, Nat.zero_le _, .inl rfl⟩
  | failed =>
    refine .once not_false ?_
    cases sock <;> exact ⟨rfl, Nat.zero_le _, .inr ⟨rfl, rfl, rfl, rfl⟩⟩

theorem Once.send (h : Once session) (sock : Bool) (message : Message) :
    Once (session.send sock message) := by
  cases sock <;> exact ⟨h.asked, h.ended, h.destroyed⟩

section

variable (app : Application) (sock : Bool) (h : Once session)
  (hlive : session.destroyed = session.ended)
include h hlive

/-- The next request of the queue. -/
theorem Once.next_counted :
    Counted (session.terminating = true ∧ ∃ next ∈ session.requestQueue.head?,
      LastTeardown session next) (requestNext app sock session) := by
  unfold requestNext
  cases hqueue : session.requestQueue with
  | nil =>
    refine .once ?_ ⟨h.asked, h.ended, .inl hlive⟩
    rintro ⟨-, next, hnext, -⟩
    cases hnext
  | cons next queue =>
    refine .iff (Once.handle app sock next ?_ ?_) (and_congr_right fun _ => ?_)
    · exact ⟨h.asked, h.ended, .inl hlive⟩
    · exact hlive
    · simp [LastTeardown]

/-- The application responds to the active request. -/
theorem Once.respond_counted (hactive : session.activeRequest = some request)
    (hmessage : message.isRequest = false) :
    Counted (session.terminating = true ∧ AsksEnd session request message)
      (rtspServerSessionResponseProcess app sock session message) := by
  obtain ⟨sent, hsent⟩ : ∃ sent, respondedSession sock session request message = { session with
      resourceTable := respondedTable session request message
      lastCseq := message.header.cseq
      owed := none
      sent := sent } := by
    cases sock <;> exact ⟨_, rfl⟩
  have hcase := responseProcess_case app sock hmessage hactive
  generalize rtspServerSessionResponseProcess app sock session message = result at hcase ⊢
  cases hcase with
  | crashed crashes => exact .crashed (fun hbad => hbad.2.1 crashes)
  | ended goes ends =>
    rw [hsent]
    refine .iff (Once.terminateRequest ?_) (and_iff_left ⟨goes, .inl ends⟩).symm
    exact ⟨h.asked, h.ended, .inl hlive⟩
  | next goes more =>
    rw [hsent]
    refine .iff (Once.next_counted app sock ?_ ?_) (and_congr_right fun _ => ?_)
    · exact ⟨h.asked, h.ended, .inl hlive⟩
    · exact hlive
    · exact ⟨fun hnext => ⟨goes, .inr hnext⟩, fun hbad => hbad.2.resolve_left more⟩

end

/-- The end of the termination. -/
theorem Once.end_counted (sock : Bool) (h : Once session)
    (hasked : session.ended < session.asked) :
    Counted (session.destroyed ≠ 0) (some (sessionEnd sock session)) := by
  obtain ⟨sent, hsent⟩ : ∃ sent, sessionEnd sock session = { session with
      sent := sent, ended := session.ended + 1, destroyed := session.destroyed + 1 } := by
    unfold sessionEnd
    split
    · exact ⟨_, rfl⟩
    · cases sock <;> exact ⟨_, rfl⟩
  rw [hsent]
  by_cases hlive : session.destroyed = 0
  · refine .once (fun hbad => hbad hlive) ⟨h.asked, hasked, .inl ?_⟩
    rcases h.destroyed with hended | ⟨hone, -⟩
    · exact congrArg (· + 1) hended
    · cases hlive.symm.trans hone
  · exact .twice hlive (.inr (Nat.succ_lt_succ (Nat.pos_of_ne_zero hlive)))

theorem Once.event (sock : Bool) (message : Message) (h : Once session) :
    Once (sessionEvent sock session message) := by
  unfold sessionEvent
  split
  · exact h
  · exact h.send _ _

end Session

/-! ## The connection -/

/-- The invariant of a connection. -/
def AllOnce (connection : ServerConnection) : Prop :=
  ∀ session ∈ connection.sessions, Once session

section Connection

variable {connection connection' : ServerConnection} {session : ServerSession} {j : Nat}

theorem AllOnce.of_core (h : AllOnce connection) (hcore : connection'.core = connection.core) :
    AllOnce connection' := fun session hsession => h session ((Prod.mk.inj hcore).2 ▸ hsession)

/-- The sessions end once behind a step exactly if it ends none again. -/
def OnceUnless (again : Prop) (connection : ServerConnection) : Prop :=
  (¬ again → AllOnce connection) ∧ (again → ¬ SessionsEndOnce connection)

theorem AllOnce.keep {again : Prop} {result : Option ServerSession} (h : AllOnce connection)
    (hj : j < connection.sessions.length) (hcounted : Counted again result) :
    OnceUnless again (connection.keep j result) := by
  cases hcounted with
  | crashed well => exact ⟨fun _ => h, fun bad => absurd bad well⟩
  | once well once =>
    refine ⟨fun _ session hsession => ?_, fun bad => absurd bad well⟩
    rcases List.mem_or_eq_of_mem_set hsession with hsession | rfl
    · exact h session hsession
    · exact once
  | twice bad twice =>
    refine ⟨absurd bad, fun _ hends => ?_⟩
    have hsession := hends _ (List.mem_of_getElem? (List.getElem?_set_self hj))
    rcases twice with htwice | htwice
    · exact absurd hsession.1 (Nat.not_le_of_lt htwice)
    · exact absurd hsession.2 (Nat.not_le_of_lt htwice)

/-- The close asks the sessions that have not been asked. -/
theorem sessionsTerminate_once (js : List Nat) (sessions : List ServerSession)
    (h : ∀ session ∈ sessions, Once session) :
    ∀ session ∈ sessionsTerminate js sessions, Once session := by
  induction js generalizing sessions with
  | nil => exact h
  | cons j js ih =>
    refine ih _ (fun session hsession => ?_)
    obtain ⟨k, hk⟩ := List.mem_iff_getElem?.mp hsession
    rw [List.getElem?_modify] at hk
    obtain ⟨before, hbefore, rfl⟩ := Option.map_eq_some_iff.mp hk
    have honce := h before (List.mem_of_getElem? hbefore)
    split
    · split
      · exact honce
      · rename_i hgoing
        cases honce.terminateRequest with
        | once well once => exact once
        | twice bad => exact absurd bad hgoing
    · exact honce

section

variable (app : Application) (message : Message) (h : AllOnce connection)
include h

/-- A message that has been received. -/
theorem process_once : AllOnce (rtspServerSessionRequestProcess app connection message) := by
  rcases requestProcess_case app connection message with
    ⟨-, hsame | ⟨j, session, hj, hgoing, hkeep⟩⟩ | ⟨-, hadd⟩
  · exact h.of_core hsame
  · have honce := h session (List.mem_of_getElem? hj)
    have hkept := h.keep (List.getElem?_eq_some_iff.mp hj).1
      (honce.request_counted app connection.sock message hgoing)
    exact (hkept.1 not_false).of_core hkeep
  · refine ((AllOnce.keep ?_ (by simp) (first_counted app connection.sock app.id message)).1
      not_false).of_core hadd
    intro session hsession
    rcases List.mem_append.mp hsession with hsession | hsession
    · exact h session hsession
    · rw [List.mem_singleton.mp hsession]
      exact ⟨rfl, Nat.zero_le _, .inl rfl⟩

/-- What the application sends. -/
theorem respond_once (hj : connection.sessions[j]? = some session)
    (howed : message.isRequest = false → ∃ request ∈ session.owed,
      message.isResponse = true ∧ message.carried = request.carried) :
    OnceUnless (EndsAgain connection (.respond j message)) (connection.keep j
      (rtspServerSessionResponseProcess app connection.sock session message)) := by
  have honce := h session (List.mem_of_getElem? hj)
  refine h.keep (List.getElem?_eq_some_iff.mp hj).1 ?_
  cases hrequest : message.isRequest with
  | true =>
    rw [rtspServerSessionResponseProcess, if_pos hrequest]
    exact .once (fun hbad => by cases hrequest.symm.trans hbad.1) (honce.event _ message)
  | false =>
    obtain ⟨request, howed, -, -⟩ := howed hrequest
    have hlive : session.destroyed = session.ended := by
      rcases honce.destroyed with hlive | ⟨-, -, hnone, -⟩
      · exact hlive
      · cases hnone.symm.trans howed
    rcases Option.eq_none_or_eq_some session.activeRequest with hactive | ⟨active, hactive⟩
    · rw [rtspServerSessionResponseProcess, if_neg (by simp [hrequest]), hactive]
      exact .once (by simp [EndsAgain, hj, hactive]) honce
    · refine (honce.respond_counted app connection.sock hlive hactive hrequest).iff ?_
      simp [EndsAgain, hrequest, hj, hactive]

end

theorem step_once {app : Application} {input : ServerInput}
    (h : AllOnce connection) (hpermitted : AppPermitted connection input)
    (hstep : serverStep connection (app, input) = some connection') :
    OnceUnless (EndsAgain connection input) connection' := by
  rw [serverStep] at hstep
  split at hstep
  · cases hstep
  cases input with
  | receive message =>
    dsimp only at hstep
    split at hstep
    · cases hstep
      exact ⟨fun _ => process_once app message h, False.elim⟩
    · cases hstep
  | invalid message =>
    dsimp only at hstep
    split at hstep
    · cases hstep
      refine ⟨fun _ => ?_, False.elim⟩
      cases message with
      | none => exact h
      | some message =>
        exact h.of_core (errorRespond_core _ message _ _)
    · cases hstep
  | respond j message =>
    obtain ⟨session, hj, -, -, howed⟩ := hpermitted
    dsimp only at hstep
    rw [Option.mem_def.mp hj] at hstep
    cases hstep
    exact respond_once app message h hj howed
  | terminate j =>
    obtain ⟨session, hj, hasked⟩ := hpermitted
    dsimp only at hstep
    rw [Option.mem_def.mp hj] at hstep
    cases hstep
    have hcounted := (h session (List.mem_of_getElem? hj)).end_counted connection.sock hasked
    have hiff : session.destroyed ≠ 0 ↔ EndsAgain connection (.terminate j) := by
      simp [EndsAgain, Option.mem_def.mp hj]
    exact h.keep (List.getElem?_eq_some_iff.mp hj).1 (hcounted.iff hiff)
  | close =>
    dsimp only at hstep
    split at hstep
    · cases hstep
      exact ⟨fun _ => sessionsTerminate_once _ _ h, False.elim⟩
    · cases hstep

end Connection

/-- Every session ends once in every state of a run exactly if no step of the
run ends one again. -/
theorem sessions_end_once_iff (inputs : List (Application × ServerInput))
    (hpermitted : Along serverStep (fun connection input => AppPermitted connection input.2)
      rtspServerConnectionAccept inputs) :
    Always serverStep SessionsEndOnce rtspServerConnectionAccept inputs ↔
      Along serverStep (fun connection input => ¬ EndsAgain connection input.2)
        rtspServerConnectionAccept inputs :=
  always_iff_along (fun _ h session hsession => (h session hsession).le_one)
    (fun _ _ _ h hpermitted hwell hstep => (step_once h hpermitted hstep).1 hwell)
    (fun _ _ _ h hpermitted hends hstep hbad => (step_once h hpermitted hstep).2 hbad hends)
    inputs rtspServerConnectionAccept (fun _ hsession => (nomatch hsession)) hpermitted

/-- The connection is closed while the application has the SETUP in hand, and
the application then fails it. -/
def closedSetupRun : List (Application × ServerInput) :=
  [(readyApp, .receive (resourceRequest .setup 1)), (readyApp, .close),
    (readyApp, .respond 0 (rtspResponseCreate (resourceRequest .setup 1)
      statusCodeInternalServerError reasonPhraseInternalServerError))]

theorem sessions_end_once_sessionRun :
    Along serverStep (fun connection input => AppPermitted connection input.2)
        rtspServerConnectionAccept sessionRun ∧
      (Always serverStep SessionsEndOnce rtspServerConnectionAccept sessionRun ↔
        Along serverStep (fun connection input => ¬ EndsAgain connection input.2)
          rtspServerConnectionAccept sessionRun) :=
  (and_iff_left_of_imp (sessions_end_once_iff sessionRun)).mpr (by decide +kernel)

/-- `terminate_session` is called twice for the session. -/
theorem session_asked_twice :
    Along serverStep (fun connection input => AppPermitted connection input.2)
        rtspServerConnectionAccept closedSetupRun ∧
      ∃ connection ∈ after serverStep rtspServerConnectionAccept closedSetupRun,
        connection.sessions.map ServerSession.asked = [2] ∧ ¬ SessionsEndOnce connection := by
  refine ⟨by decide +kernel, ?_⟩
  unfold SessionsEndOnce
  decide +kernel

end UniMrcp.Rtsp
