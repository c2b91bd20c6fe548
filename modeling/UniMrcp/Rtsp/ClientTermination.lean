import UniMrcp.Rtsp.ClientRequests

/-!
# Every termination is responded to once

When the application has requested the termination of a session, its active
request and the pending ones are finished first, then there is one TEARDOWN for
each resource, and the last response gives the terminate response.  All this
time a request of the session is in progress on an open connection, and each
answer to it brings the session closer to the end: `ClientSession.remaining`
counts the answers that are left at most.

The session is stranded exactly when a request in progress is lost by a
disconnect: the termination of a session is requested after that, or the
connection is closed while the session is not in the table of the connection.
-/

namespace UniMrcp.Rtsp

open UniMrcp.Lib UniMrcp.Lib.Runs UniMrcp.Apt

/-! ## What the handlers leave -/

/-- How often the termination has been requested. -/
def ClientSession.asked (session : ClientSession) : Nat := session.log.count .terminateRequest

/-- How often the termination has been responded to. -/
def ClientSession.told (session : ClientSession) : Nat := session.log.count .terminateResponse

variable {session session' : ClientSession} {input : Net × ClientInput}

theorem gone_iff_told : session.gone = true ↔ session.told ≠ 0 := by
  rw [ClientSession.gone, List.contains_iff_mem, ClientSession.told, ← Nat.pos_iff_ne_zero,
    List.count_pos_iff]

theorem live_iff_told : session.gone = false ↔ session.told = 0 := by
  rw [← Bool.not_eq_true, gone_iff_told, not_not]

/-- The number of resources that have been set up. -/
def ClientSession.resources (session : ClientSession) : Nat := session.resourceTable.entries.length

/-- Nothing is added about the termination. -/
structure Mute (session session' : ClientSession) : Prop where
  asked : session'.asked = session.asked
  told : session'.told = session.told

section Handlers

variable {net : Net} {timeout j : Nat} {link : Link} {request response message : Message}

theorem Mute.of_log (h : session'.log = session.log) : Mute session session' :=
  ⟨by rw [ClientSession.asked, h]; rfl, by rw [ClientSession.told, h]; rfl⟩

theorem Mute.of_append {more : List Note} (h : session'.log = session.log ++ more)
    (hasked : .terminateRequest ∉ more) (htold : .terminateResponse ∉ more) :
    Mute session session' := by
  constructor
  · rw [ClientSession.asked, h, List.count_append, List.count_eq_zero.mpr hasked]
    rfl
  · rw [ClientSession.told, h, List.count_append, List.count_eq_zero.mpr htold]
    rfl

theorem Mute.trans {a b c : ClientSession} (h : Mute a b) (h' : Mute b c) : Mute a c :=
  ⟨h'.asked.trans h.asked, h'.told.trans h.told⟩

theorem length_erase_le {table : AList (fun _ : Bytes => Message)} (key : Bytes) :
    (table.erase key).entries.length ≤ table.entries.length :=
  (List.kerase_sublist key table.entries).length_le

/-- What `rtsp_client_session_response_process` does to the session. -/
theorem responseProcess_session (j : Nat) (link : Link) (request response : Message) :
    let session' := (rtspClientSessionResponseProcess j link request response).session
    Mute link.session session' ∧ session'.waiting = link.session.waiting ∧
      session'.activeRequest = link.session.activeRequest ∧
      session'.resources ≤ link.session.resources + 1 ∧
      (response.statusCode ≠ statusCodeOk → session'.resources ≤ link.session.resources) ∧
      (request.methodId = .teardown → session'.resourceTable =
        link.session.resourceTable.erase request.resourceKey) := by
  have hupdate : ∃ id resources, (resourceUpdate j link request response).session =
        { link.session with id := id, resourceTable := resources } ∧
      resources.entries.length ≤ link.session.resources + 1 ∧
      (response.statusCode ≠ statusCodeOk → resources.entries.length ≤ link.session.resources) ∧
      (request.methodId = .teardown → resources =
        link.session.resourceTable.erase request.resourceKey) := by
    unfold resourceUpdate
    split_ifs with hsetup hteardown
    · refine ⟨(resourceAdd j link request response).session.id,
        link.session.resourceTable.insert request.resourceKey request, ?_,
        Nat.succ_le_succ (List.kerase_sublist _ _).length_le,
        fun hne => absurd hsetup.2 hne, fun hm => ?_⟩
      · unfold resourceAdd
        dsimp only
        split <;> rfl
      · rw [hsetup.1] at hm
        cases hm
    · exact ⟨_, link.session.resourceTable.erase request.resourceKey, rfl,
        (length_erase_le _).trans (Nat.le_succ _), fun _ => length_erase_le _, fun _ => rfl⟩
    · exact ⟨_, _, rfl, Nat.le_succ _, fun _ => Nat.le_refl _, fun hm => absurd hm hteardown⟩
  obtain ⟨id, resources, hsession, hgrow, hless, herase⟩ := hupdate
  dsimp only [rtspClientSessionResponseProcess]
  rw [hsession]
  unfold responseRaise
  split
  · exact ⟨.of_log rfl, rfl, rfl, hgrow, hless, herase⟩
  · exact ⟨.of_append rfl (by simp) (by simp), rfl, rfl, hgrow, hless, herase⟩

/-- Every resource that is left has a TEARDOWN that waits, and nothing else
waits. -/
structure Covered (session : ClientSession) : Prop where
  teardowns : ∀ m ∈ session.waiting, m.methodId = .teardown
  covered : ∀ key, key ∈ session.resourceTable → ∃ m ∈ session.waiting, m.resourceKey = key

theorem Covered.done (h : Covered session) (hnone : session.waiting = []) :
    session.resourceTable.entries = [] := by
  rw [List.eq_nil_iff_forall_not_mem]
  rintro ⟨key, m⟩ he
  have hkey : key ∈ session.resourceTable := by
    rw [AList.mem_keys, AList.keys, List.mem_keys]
    exact ⟨m, he⟩
  obtain ⟨m, hm, -⟩ := h.covered key hkey
  rw [hnone] at hm
  cases hm

/-- What the pending queue leaves. -/
structure Drawn (queue : List Message) (link link' : Link) : Prop where
  mute : Mute link.session link'.session
  waiting : link'.session.waiting.length ≤ queue.length
  resources : link'.session.resources ≤ link.session.resources
  covered : (∀ m ∈ queue, m.methodId = .teardown) →
    (∀ key, key ∈ link.session.resourceTable → ∃ m ∈ queue, m.resourceKey = key) →
      Covered link'.session

theorem errorRespond_session (j : Nat) (link : Link) (message : Message) :
    Mute link.session (errorRespond j link message).session ∧
      (errorRespond j link message).session.activeRequest = link.session.activeRequest ∧
      (errorRespond j link message).session.resources ≤ link.session.resources := by
  obtain ⟨hmute, -, hactive, -, hless, -⟩ := responseProcess_session j link message
    (rtspResponseCreate message statusCodeInternalServerError reasonPhraseInternalServerError)
  exact ⟨hmute, hactive, hless (by rw [responseCreate_statusCode]; decide)⟩

section

variable (net : Net) (timeout j : Nat)

theorem pendingLoop_drawn (queue : List Message) {link : Link}
    (hidle : link.session.activeRequest = none) :
    Drawn queue link (pendingLoop net timeout j queue link).1 := by
  induction queue generalizing link with
  | nil =>
    have hwaiting : ({ link.session with pendingRequestQueue := [] } : ClientSession).waiting =
        [] := by
      simp [ClientSession.waiting, hidle]
    refine ⟨.of_log rfl, ?_, Nat.le_refl _, fun _ hcovered => ⟨?_, ?_⟩⟩
    · rw [pendingLoop, hwaiting]
    · intro m hm
      rw [pendingLoop, hwaiting] at hm
      cases hm
    · intro key hkey
      obtain ⟨m, hm, -⟩ := hcovered key hkey
      cases hm
  | cons request queue ih =>
    obtain ⟨hattempt, hcontent, -⟩ := requestProcess_spec net timeout j
      ⟨link.connection, { link.session with pendingRequestQueue := queue }⟩ request hidle
    dsimp only [pendingLoop]
    generalize rtspClientSessionRequestProcess net timeout j _ request = attempt
      at hattempt hcontent ⊢
    obtain ⟨⟨connection1, session1⟩, message, sent⟩ := attempt
    have hmethod : message.methodId = request.methodId := congrArg (·.1) hcontent
    cases hattempt with
    | sent hsent hsession =>
      dsimp only at hsent hsession
      subst hsent hsession
      refine ⟨.of_log rfl, Nat.le_refl _, Nat.le_refl _, fun hqueue hcovered => ⟨?_, ?_⟩⟩
      · intro m hm
        rcases List.mem_cons.mp hm with rfl | hm
        · exact hmethod.trans (hqueue request (by simp))
        · exact hqueue m (List.mem_cons_of_mem _ hm)
      · intro key hkey
        obtain ⟨m, hm, hmkey⟩ := hcovered key hkey
        rcases List.mem_cons.mp hm with rfl | hm
        · exact ⟨message, List.mem_cons_self, (resourceKey_of_content hcontent).trans hmkey⟩
        · exact ⟨m, List.mem_cons_of_mem _ hm, hmkey⟩
    | failed hsent hsession =>
      dsimp only at hsent hsession
      subst hsent hsession
      obtain ⟨hmute, hactive, hless⟩ := errorRespond_session j
        ⟨connection1, { link.session with pendingRequestQueue := queue }⟩ message
      have hnext := ih (hactive.trans hidle)
      refine ⟨⟨hnext.mute.asked.trans hmute.asked, hnext.mute.told.trans hmute.told⟩,
        hnext.waiting.trans (Nat.le_succ _), hnext.resources.trans hless,
        fun hqueue hcovered => hnext.covered (fun m hm => hqueue m (List.mem_cons_of_mem _ hm)) ?_⟩
      intro key hkey
      rw [errorRespond_teardown (hmethod.trans (hqueue request (by simp))), AList.mem_erase,
        resourceKey_of_content hcontent] at hkey
      obtain ⟨m, hm, hmkey⟩ := hcovered key hkey.2
      rcases List.mem_cons.mp hm with rfl | hm
      · exact absurd hmkey.symm hkey.1
      · exact ⟨m, hm, hmkey⟩

theorem pendingRequestsProcess_drawn (hidle : link.session.activeRequest = none) :
    Drawn link.session.pendingRequestQueue link
      (rtspClientSessionPendingRequestsProcess net timeout j link).1 :=
  pendingLoop_drawn net timeout j _ hidle

theorem messageProcess_mute (link : Link) (message : Message) :
    Mute link.session (rtspClientSessionMessageProcess net timeout j link message).session := by
  unfold rtspClientSessionMessageProcess
  split
  · exact .of_log rfl
  · rename_i hactive
    obtain ⟨hattempt, -⟩ := requestProcess_spec net timeout j link message
      (Option.not_isSome_iff_eq_none.mp hactive)
    cases hattempt with
    | sent hsent hsession =>
      rw [if_pos hsent]
      exact .of_log (by rw [hsession])
    | failed hsent hsession =>
      rw [if_neg (by rw [hsent]; simp)]
      exact (Mute.of_log (by rw [hsession])).trans (errorRespond_session j _ _).1

theorem resourcesTeardown_mute (link : Link) :
    Mute link.session (rtspClientSessionResourcesTeardown net timeout j link).session := by
  have hloop : ∀ (setups : List Message) (link : Link),
      Mute link.session (teardownLoop net timeout j setups link).session := by
    intro setups
    induction setups with
    | nil => exact fun link => .of_log rfl
    | cons setup setups ih =>
      exact fun link => (messageProcess_mute net timeout j link _).trans (ih _)
  have hstart : Mute link.session { link.session with termState := .inprogress } := .of_log rfl
  have hrest := hloop (link.session.resourceTable.entries.map Sigma.snd)
    ⟨link.connection, { link.session with termState := .inprogress }⟩
  exact hstart.trans hrest

end

end Handlers

/-! ## The stages of a termination -/

/-- Where a session is. -/
inductive Ending (j : Nat) (link : Link) : Prop where
  | fresh (asked : link.session.asked = 0) (told : link.session.told = 0)
      (term : link.session.termState = .none)
  | ended (asked : link.session.asked = 1) (told : link.session.told = 1)
  | underway (asked : link.session.asked = 1) (told : link.session.told = 0)
      (queued : j ∈ (link.conn j).inprogressRequestQueue)
      (stage : link.session.termState = .requested ∨
        (link.session.termState = .inprogress ∧ Covered link.session))

/-- The answers that are left at most, when the termination is requested. -/
def ClientSession.remaining (session : ClientSession) : Nat :=
  match session.termState with
  | .none => 0
  | .requested => 2 * session.waiting.length + session.resources + 1
  | .inprogress => session.waiting.length

section Stages

variable {net : Net} {timeout j : Nat} {link link' : Link} {request response : Message}

theorem note_asked_told (session : ClientSession) (n : Note) :
    (session.note n).asked = session.asked + (if n = .terminateRequest then 1 else 0) ∧
      (session.note n).told = session.told + (if n = .terminateResponse then 1 else 0) := by
  simp only [ClientSession.asked, ClientSession.told, ClientSession.note, List.count_append,
    List.count_singleton, beq_iff_eq]
  exact ⟨trivial, trivial⟩

/-- The session ends. -/
theorem respond_ended (hasked : link.session.asked = 1) (htold : link.session.told = 0) :
    Ending j (connectionRelease (rtspClientSessionTerminateRespond j link)) := by
  obtain ⟨hasked', htold'⟩ :=
    note_asked_told { link.session with termState := .none } .terminateResponse
  exact .ended (hasked'.trans hasked) (htold'.trans (by
    exact congrArg (· + 1) htold))

/-- The resources of a session are torn down. -/
theorem teardown_ending (net : Net) (timeout : Nat) (hsound : Sound False j [] link)
    (hidle : link.session.Idle) (hactive : link.session.activeRequest = none)
    (hasked : link.session.asked = 1) (htold : link.session.told = 0) :
    let link' := terminateCheck j (rtspClientSessionResourcesTeardown net timeout j link)
    Ending j link' ∧ (link'.session.gone = true ∨
      link'.session.remaining ≤ link.session.resources) := by
  have htorn := resourcesTeardown_tornDown net timeout hsound hidle hactive
  have hmute := resourcesTeardown_mute net timeout j link
  generalize rtspClientSessionResourcesTeardown net timeout j link = link1 at htorn hmute
  have hcovered : Covered link1.session := by
    refine ⟨fun m hm => (htorn.teardowns m hm).resolve_left (fun hold => ?_), fun key hkey => ?_⟩
    · simp [ClientSession.waiting, hactive, hidle hactive] at hold
    · have hold := htorn.less key hkey
      rw [AList.mem_keys, AList.keys, List.mem_keys] at hold
      obtain ⟨setup, hsetup⟩ := hold
      have hname := hsound.tables.named _ hsetup
      obtain ⟨m, hm, hteardown⟩ := htorn.covered setup
        (List.mem_map.mpr ⟨_, hsetup, rfl⟩) (hname ▸ hkey)
      exact ⟨m, hm, hteardown.2.trans hname⟩
  unfold terminateCheck
  split
  · exact ⟨respond_ended (hmute.asked.trans hasked) (hmute.told.trans htold),
      .inl (note_terminateResponse_gone _)⟩
  · rename_i hmore
    have hwaiting : link1.session.waiting ≠ [] := fun hnone =>
      hmore (List.isEmpty_iff.mpr (hcovered.done hnone))
    have hsome : link1.session.activeRequest ≠ none := fun hnone => hwaiting (by
      simp [ClientSession.waiting, hnone, htorn.idle hnone])
    refine ⟨.underway (hmute.asked.trans hasked) (hmute.told.trans htold) ?_
      (.inr ⟨htorn.term, hcovered⟩), .inr ?_⟩
    · cases htorn.moved.queue with
      | kept queue active => exact absurd (active.trans hactive) hsome
      | sent m idle queue =>
        rw [queue]
        simp
    · have hcount := htorn.count
      rw [ClientSession.remaining, htorn.term]
      simpa [ClientSession.waiting, hactive, hidle hactive, ClientSession.resources] using hcount

theorem note_terminateRequest (hasked : session.asked = 0) (htold : session.told = 0) :
    (session.note .terminateRequest).asked = 1 ∧
      (session.note .terminateRequest).told = 0 := by
  obtain ⟨hasked', htold'⟩ := note_asked_told session .terminateRequest
  exact ⟨hasked'.trans (by rw [hasked]; rfl), htold'.trans (by rw [htold]; rfl)⟩

/-- TASK_MSG_TERMINATE_SESSION, when the request in progress is in the queue. -/
theorem terminate_ending (net : Net) (h : Owned timeout j (link.conn j) link.session)
    (hasked : link.session.asked = 0) (htold : link.session.told = 0)
    (hqueued : link.connection.isSome = true → link.session.activeRequest.isSome = true →
      j ∈ (link.conn j).inprogressRequestQueue) :
    Ending j (rtspClientSessionTerminateProcess net timeout j
      { link with session := link.session.note .terminateRequest }) := by
  obtain ⟨hasked', htold'⟩ := note_terminateRequest hasked htold
  unfold rtspClientSessionTerminateProcess
  split_ifs with hnone hactive
  · obtain ⟨hasked'', htold''⟩ :=
      note_asked_told (link.session.note .terminateRequest) .terminateResponse
    exact .ended (hasked''.trans (by rw [hasked']; rfl)) (htold''.trans (by rw [htold']; rfl))
  · exact .underway hasked' htold'
      (hqueued (Option.isSome_iff_ne_none.mpr (by simpa using hnone)) hactive) (.inl rfl)
  · have hactive' : link.session.activeRequest = none := by
      simpa [ClientSession.note] using hactive
    have hsound : Sound False j [] { link with session := link.session.note .terminateRequest } :=
      ⟨h.tables.of_eq rfl rfl rfl, False.elim, live_iff_told.mpr htold'⟩
    exact (teardown_ending net timeout hsound h.idle hactive' hasked' htold').1

/-- Nothing waits for a response any more. -/
theorem proceed_ending (net : Net) (timeout : Nat) {link1 : Link} (hsound : Sound False j [] link1)
    (hidle : link1.session.Idle) (hactive : link1.session.activeRequest = none)
    (hasked : link1.session.asked = 1) (htold : link1.session.told = 0)
    (hstage : link1.session.termState = .requested ∨
      (link1.session.termState = .inprogress ∧ Covered link1.session)) :
    let link' := terminationProceed net timeout j link1
    Ending j link' ∧ (link'.session.gone = true ∨
      link'.session.remaining ≤ link1.session.resources ∧
        link1.session.termState = .requested) := by
  unfold terminationProceed
  rcases hstage with hterm | ⟨hterm, hcovered⟩
  · rw [hterm]
    obtain ⟨hending, hless⟩ := teardown_ending net timeout hsound hidle hactive hasked htold
    exact ⟨hending, hless.imp id (fun h => ⟨h, rfl⟩)⟩
  · rw [hterm]
    have hempty := hcovered.done (by simp [ClientSession.waiting, hactive, hidle hactive])
    dsimp only
    rw [terminateCheck, hempty, List.isEmpty_nil]
    exact ⟨respond_ended hasked htold, .inl (note_terminateResponse_gone _)⟩

/-- A response, or a timeout. -/
theorem response_ending (net : Net) (response : Message)
    (h : Owned timeout j (link.conn j) link.session) (hlive : link.session.gone = false)
    (hactive : link.session.activeRequest = some request) (hending : Ending j link) :
    let link' := responseHandle net timeout j (rtspClientRequestPop j link) request response
    Ending j link' ∧ (link.session.asked = 1 → link'.session.gone = true ∨
      link'.session.remaining < link.session.remaining) := by
  have hpopped := requestPop_sound h hlive (fun hfalse : False => hfalse.elim) hactive
  obtain ⟨hsound1, hmoved1, hunmoved⟩ := responseProcess_sound timeout response hpopped
  obtain ⟨hmute1, -, hactive1, hgrow1, -, herase1⟩ :=
    responseProcess_session j (rtspClientRequestPop j link) request response
  generalize hlink1 : rtspClientSessionResponseProcess j (rtspClientRequestPop j link) request
    response = link1 at hsound1 hmoved1 hunmoved hmute1 hactive1 hgrow1 herase1
  obtain ⟨hsound2, hmoved2, hidle2, hmore, hterm2⟩ :=
    pendingRequestsProcess_sound net timeout hsound1 hactive1
  have hdrawn := pendingRequestsProcess_drawn net timeout j hactive1
  have hpending : link1.session.pendingRequestQueue = link.session.pendingRequestQueue :=
    hunmoved.pending
  have hterm1 : link1.session.termState = link.session.termState := hunmoved.term
  have hmoved := hmoved1.trans hmoved2
  unfold responseHandle
  dsimp only
  rw [hlink1]
  generalize rtspClientSessionPendingRequestsProcess net timeout j link1 = result
    at hsound2 hmoved2 hidle2 hmore hterm2 hdrawn hmoved ⊢
  have hpop : Mute link.session (rtspClientRequestPop j link).session := .of_log rfl
  have hmute : Mute link.session result.1.session := (hpop.trans hmute1).trans hdrawn.mute
  have hterm : result.1.session.termState = link.session.termState := hterm2.trans hterm1
  have hresources : result.1.session.resources ≤ link.session.resources + 1 :=
    hdrawn.resources.trans hgrow1
  have hwaiting : link.session.waiting = request :: link.session.pendingRequestQueue := by
    rw [ClientSession.waiting, hactive]
    rfl
  have hcount : result.1.session.waiting.length + 1 ≤ link.session.waiting.length := by
    rw [hwaiting]
    exact Nat.succ_le_succ (hpending ▸ hdrawn.waiting)
  cases hending with
  | ended asked told =>
    rw [live_iff_told, told] at hlive
    cases hlive
  | fresh asked told term =>
    refine ⟨?_, fun hasked => by rw [asked] at hasked; cases hasked⟩
    have hfresh : Ending j result.1 :=
      .fresh (hmute.asked.trans asked) (hmute.told.trans told) (hterm.trans term)
    split
    · exact hfresh
    · rw [terminationProceed, hterm.trans term]
      exact hfresh
  | underway asked told queued stage =>
    have hstage : result.1.session.termState = .requested ∨
        (result.1.session.termState = .inprogress ∧ Covered result.1.session) := by
      refine stage.imp hterm.trans ?_
      rintro ⟨hin, hcovered⟩
      refine ⟨hterm.trans hin, ?_⟩
      refine hdrawn.covered (fun m hm => ?_) (fun key hkey => ?_)
      · rw [hpending] at hm
        exact hcovered.teardowns m (by rw [hwaiting]; exact List.mem_cons_of_mem _ hm)
      · have hteardown := hcovered.teardowns request (by rw [hwaiting]; simp)
        rw [herase1 hteardown, AList.mem_erase] at hkey
        obtain ⟨m, hm, hmkey⟩ := hcovered.covered key hkey.2
        rw [hwaiting] at hm
        rcases List.mem_cons.mp hm with rfl | hm
        · exact absurd hmkey.symm hkey.1
        · exact ⟨m, hpending ▸ hm, hmkey⟩
    split
    · rename_i htrue
      refine ⟨.underway (hmute.asked.trans asked) (hmute.told.trans told) ?_ hstage,
        fun _ => .inr ?_⟩
      · cases hmoved.queue with
        | kept queue active =>
          rw [htrue, active] at hmore
          cases hmore
        | sent m idle queue =>
          rw [queue]
          simp
      · rw [ClientSession.remaining, ClientSession.remaining, hterm]
        rcases stage with hin | ⟨hin, -⟩ <;> rw [hin] <;> dsimp only <;> omega
    · rename_i hfalse
      have hnone : result.1.session.activeRequest = none := by
        rw [← Option.not_isSome_iff_eq_none, hmore]
        exact hfalse
      obtain ⟨hend, hless⟩ := proceed_ending net timeout hsound2 hidle2 hnone
        (hmute.asked.trans asked) (hmute.told.trans told) hstage
      refine ⟨hend, fun _ => hless.imp id ?_⟩
      rintro ⟨hle, hreq⟩
      rw [hterm] at hreq
      rw [show link.session.remaining = 2 * link.session.waiting.length +
        link.session.resources + 1 by rw [ClientSession.remaining, hreq]]
      omega

/-- A session that says nothing stays where it is, as long as its request is in
the queue. -/
theorem Ending.of_mute (h : Ending j link) (hmute : Mute link.session link'.session)
    (hterm : link'.session.termState = link.session.termState)
    (hcovered : Covered link.session → Covered link'.session)
    (hqueue : j ∈ (link.conn j).inprogressRequestQueue →
      j ∈ (link'.conn j).inprogressRequestQueue) : Ending j link' := by
  cases h with
  | fresh asked told term =>
    exact .fresh (hmute.asked.trans asked) (hmute.told.trans told) (hterm.trans term)
  | ended asked told => exact .ended (hmute.asked.trans asked) (hmute.told.trans told)
  | underway asked told queued stage =>
    exact .underway (hmute.asked.trans asked) (hmute.told.trans told) (hqueue queued)
      (stage.imp hterm.trans (fun ⟨hin, hcov⟩ => ⟨hterm.trans hin, hcovered hcov⟩))

/-- Of a session that is not terminating nothing has been requested. -/
theorem Ending.unasked (h : Ending j link) (hlive : link.session.gone = false)
    (hterm : link.session.termState = .none) :
    link.session.asked = 0 ∧ link.session.told = 0 := by
  cases h with
  | fresh asked told term => exact ⟨asked, told⟩
  | ended asked told =>
    rw [live_iff_told, told] at hlive
    cases hlive
  | underway asked told queued stage =>
    rw [hterm] at stage
    rcases stage with hreq | ⟨hin, -⟩
    · cases hreq
    · cases hin

section

variable {client : Client} {input : ClientInput} (h : Base timeout client)
  (hlink : client.link j = some link) (hhandled : Handled net timeout j link input link')
  (hpermitted : ∀ m, input = .request j m → link.session.asked = 0)
include h hlink hhandled hpermitted

/-- A handler of the session `j`, of which no termination is lost. -/
theorem Handled.ending
    (hkeeps : input = .terminate j → link.connection.isSome = true →
      link.session.activeRequest.isSome = true → j ∈ (link.conn j).inprogressRequestQueue)
    (hending : Ending j link) : Ending j link' := by
  cases hhandled with
  | request message live =>
    have hasked := hpermitted message rfl
    have hsubmit : Mute link.session (submit link.session message) := by
      unfold submit
      split
      · exact .of_log rfl
      · exact .of_append rfl (by simp) (by simp)
    have hmute := hsubmit.trans (messageProcess_mute net timeout j
      { link with session := submit link.session message } message)
    have hterm := (request_stepped net message (h.owned hlink (.inr live)) live
      (fun hfalse : False => hfalse.elim)).2
    cases hending with
    | fresh asked told term =>
      exact .fresh (hmute.asked.trans asked) (hmute.told.trans told) (hterm.trans term)
    | ended asked told => rw [asked] at hasked; cases hasked
    | underway asked told queued stage => rw [asked] at hasked; cases hasked
  | terminate live fresh =>
    obtain ⟨asked, told⟩ := hending.unasked live fresh
    exact terminate_ending net (h.owned hlink (.inr live)) asked told (hkeeps rfl)
  | response request response attached queued active =>
    have howned := h.owned hlink (.inl attached)
    exact (response_ending net response howned (howned.queued queued).2.1 active hending).1
  | event message attached live =>
    exact hending.of_mute (.of_append rfl (by simp) (by simp)) rfl
      (fun hcovered => ⟨hcovered.teardowns, hcovered.covered⟩) id

/-- No handler takes a session further from its end. -/
theorem Handled.remaining_le (hasked : link.session.asked = 1) (hending : Ending j link) :
    link'.session.gone = true ∨ link'.session.remaining ≤ link.session.remaining := by
  cases hhandled with
  | request message live =>
    rw [hpermitted message rfl] at hasked
    cases hasked
  | terminate live fresh =>
    rw [(hending.unasked live fresh).1] at hasked
    cases hasked
  | response request response attached queued active =>
    have howned := h.owned hlink (.inl attached)
    exact ((response_ending net response howned (howned.queued queued).2.1 active hending).2
      hasked).imp id Nat.le_of_lt
  | event message attached live => exact .inr (Nat.le_refl _)

end

end Stages

/-! ## All sessions -/

/-- The session is closer to its end. -/
def Closer (client client' : Client) (j : Nat) : Prop :=
  ∃ session session' : ClientSession, client.sessions[j]? = some session ∧
    client'.sessions[j]? = some session' ∧
    (session'.gone = true ∨ session'.remaining < session.remaining)

/-- The application sends no request in a session after it has requested the
termination. -/
def Permitted (client : Client) (input : Net × ClientInput) : Prop :=
  ∀ (j : Nat) (message : Message) (session : ClientSession), input.2 = .request j message →
    client.sessions[j]? = some session → session.asked = 0

/-- The termination goes on: a request is in progress on an open connection,
every answer to it brings the session closer to its end, and nothing takes it
further away. -/
structure Proceeds (timeout : Nat) (client : Client) (j : Nat) (session : ClientSession) :
    Prop where
  answer : ∃ c connection request, session.connection = some c ∧
    client.connections[c]? = some connection ∧ connection.sock = true ∧
    session.activeRequest = some request ∧
    ∀ net response, response.isResponse = true → response.header.cseq = request.header.cseq →
      Closer client (rtspClientMessageHandler net timeout client c response) j
  timer : timeout ≠ 0 → ∀ net, ∃ client',
    clientStep timeout client (net, .timer j) = some client' ∧ Closer client client' j
  steady : ∀ input client' session', Permitted client input →
    clientStep timeout client input = some client' → client'.sessions[j]? = some session' →
      session'.gone = true ∨ session'.remaining ≤ session.remaining

/-- Every termination is responded to once, or it goes on. -/
def TerminationsOnce (timeout : Nat) (client : Client) : Prop :=
  ∀ (j : Nat) (session : ClientSession), client.sessions[j]? = some session →
    session.told ≤ session.asked ∧ session.asked ≤ 1 ∧
    (session.asked = 1 → session.gone = false → Proceeds timeout client j session)

/-- A session is stranded: the termination is requested when its request has
been lost, or the connection is closed while the session is terminating and not
in the table. -/
def Strands (client : Client) (input : Net × ClientInput) : Prop :=
  (∃ (j : Nat) (session : ClientSession) (c : Nat) (connection : ClientConnection),
    input.2 = .terminate j ∧ client.sessions[j]? = some session ∧ session.connection = some c ∧
      client.connections[c]? = some connection ∧ session.activeRequest.isSome = true ∧
      j ∉ connection.inprogressRequestQueue) ∨
  (∃ (c : Nat) (connection : ClientConnection) (j : Nat) (session : ClientSession),
    input.2 = .disconnect c ∧ client.connections[c]? = some connection ∧ connection.sock = true ∧
      j ∈ connection.inprogressRequestQueue ∧ client.sessions[j]? = some session ∧
      session.termState ≠ .none ∧ j ∉ connection.seated)

/-- The invariant behind it. -/
structure Concluding (timeout : Nat) (client : Client) : Prop where
  base : Base timeout client
  links : ∀ k link, client.link k = some link → Ending k link ∧ Moored k link

section Concluding

variable {net : Net} {timeout c j : Nat} {client client' : Client} {connection : ClientConnection}
  {link link' : Link}

theorem Start.concluding (h : Start client) : Concluding timeout client := by
  refine ⟨h.base, fun k link hk => ?_⟩
  obtain ⟨hlog, hactive, -, -, -, hterm⟩ := h.sessions k _ (link_session hk)
  refine ⟨.fresh ?_ ?_ hterm, fun hsome => ?_⟩
  · rw [ClientSession.asked, hlog]
    rfl
  · rw [ClientSession.told, hlog]
    rfl
  · rw [hactive] at hsome
    cases hsome

theorem Moored.other {k : Nat} (hk : k ≠ j) (hstep : Stepped timeout j link link')
    (h : Moored k ⟨some (link.conn j), session⟩) :
    Moored k ⟨some (link'.conn j), session⟩ := fun hsome => by
  refine (h hsome).imp (hstep.members k hk).mpr (fun hsock => ?_)
  rw [Link.conn, Option.getD_some] at hsock ⊢
  rcases hstep.sock with hsame | ⟨hclosed, -⟩
  · rw [hsame, hsock]
  · exact hclosed

theorem Ending.other {k : Nat} (hk : k ≠ j) (hstep : Stepped timeout j link link')
    (h : Ending k ⟨some (link.conn j), session⟩) : Ending k ⟨some (link'.conn j), session⟩ :=
  h.of_mute (.of_log rfl) rfl id (hstep.members k hk).mpr

theorem Concluding.store (h : Concluding timeout client) (hlink : client.link j = some link)
    (hstep : Stepped timeout j link link') (hending : Ending j link') :
    Concluding timeout (client.store j link') := by
  refine ⟨h.base.store hlink hstep, fun k l hk => ?_⟩
  refine h.base.forall_links hlink hstep
    (fun k l _ hk => h.links k l hk) (fun p _ => ⟨?_, hstep.moored (h.links j link hlink).2⟩)
    (fun k session hk ⟨hending, hmoored⟩ => ⟨hending.other hk hstep, hmoored.other hk hstep⟩) hk
  exact hending.of_mute (.of_log rfl) rfl (fun hcovered =>
    ⟨hcovered.teardowns, hcovered.covered⟩) id

theorem Concluding.created (h : Concluding timeout client) (serverIp : Bytes) (serverPort : Nat)
    (resourceLocation : Bytes) :
    Concluding timeout { client with sessions := client.sessions ++
      [rtspClientSessionCreate serverIp serverPort resourceLocation] } := by
  refine ⟨h.base.created serverIp serverPort resourceLocation, fun k link hk => ?_⟩
  rcases created_link hk with hk | rfl
  · exact h.links k link hk
  · exact ⟨.fresh rfl rfl rfl, fun hsome => by cases hsome⟩

/-- What a raised termination adds about the termination. -/
theorem Raised.asked_told (h : Raised link link') :
    link'.session.asked = link.session.asked ∧ link'.session.told = link.session.told +
      (if link.session.termState = .none then 0 else 1) := by
  obtain ⟨answers, hlog, -, hall, -⟩ := h.log
  have hnone : ∀ n, (∀ m m', n ≠ .response m m') → answers.count n = 0 := fun n hn => by
    rw [List.count_eq_zero]
    intro hmem
    obtain ⟨m, m', rfl⟩ := hall n hmem
    exact hn m m' rfl
  constructor
  · rw [ClientSession.asked, hlog, List.count_append, List.count_append, hnone _ (by simp)]
    split <;> rfl
  · rw [ClientSession.told, hlog, List.count_append, List.count_append, hnone _ (by simp)]
    split <;> rfl

section

variable (h : Concluding timeout client)
include h

theorem Concluding.disconnect (hc : client.connections[c]? = some connection)
    (hsock : connection.sock = true) (hkeeps : ¬ Strands client (net, .disconnect c))
    (hstep : rtspClientOnDisconnect net timeout client c connection = some client') :
    Concluding timeout client' := by
  -- a session that is terminating may lose its request when it is still to be visited
  have hend := h.base.disconnect
    (R := fun js k l => (Ending k l ∨ (k ∈ js ∧ l.session.asked = 1 ∧ l.session.told = 0 ∧
      l.session.termState ≠ .none)) ∧ Moored k l) hc hsock ?_ ?_ ?_ ?_ hstep
  · refine ⟨hend.1, fun k link hk => ?_⟩
    obtain ⟨⟨hending, hmoored⟩, -⟩ := hend.2.2 k link hk
    exact ⟨hending.resolve_right (fun ⟨hmem, _⟩ => absurd hmem List.not_mem_nil), hmoored⟩
  · intro j js k link hkj ⟨hending, hmoored⟩
    exact ⟨hending.imp id (fun ⟨hmem, hrest⟩ =>
      ⟨(List.mem_cons.mp hmem).resolve_left hkj, hrest⟩), hmoored⟩
  · intro js j k link link' session hkj hstepped ⟨hending, hmoored⟩
    exact ⟨hending.imp (·.other hkj hstepped) id, hmoored.other hkj hstepped⟩
  · intro j js link link' ⟨hending, hmoored⟩ hlive howned hclosed hstepped hraised
    obtain ⟨hasked, htold⟩ := hraised.asked_told
    refine ⟨.inl ?_, hstepped.moored hmoored⟩
    rcases hending with hending | ⟨-, asked, told, hterm⟩
    · cases hending with
      | fresh asked told term =>
        rw [if_pos term] at htold
        exact .fresh (hasked.trans asked) (htold.trans told) hraised.term
      | ended asked told => rw [live_iff_told, told] at hlive; cases hlive
      | underway asked told queued stage =>
        rw [(howned.queued queued).1] at hclosed
        cases hclosed
    · rw [if_neg hterm, told] at htold
      exact .ended (hasked.trans asked) htold
  · intro k link hk
    obtain ⟨link0, _, hlink0, hsession, hplaces⟩ := h.base.drained_link hc hk
    obtain ⟨hending, hmoored⟩ := h.links k link0 hlink0
    obtain ⟨_, session⟩ := link
    obtain rfl : session = _ := hsession
    rcases hplaces with ⟨-, hconn0, hconn⟩ | ⟨-, hconn⟩
    · obtain rfl : _ = some _ := hconn
      refine ⟨?_, fun _ => .inr rfl⟩
      cases hending with
      | fresh asked told term => exact .inl (.fresh asked told term)
      | ended asked told => exact .inl (.ended asked told)
      | underway asked told queued stage =>
        have hne : link0.session.termState ≠ .none := fun hnone => by
          rw [((h.links k link0 hlink0).1.unasked (live_iff_told.mpr told) hnone).1] at asked
          cases asked
        refine .inr ⟨?_, asked, told, hne⟩
        by_contra hseated
        rw [Link.conn, hconn0] at queued
        exact hkeeps (.inr ⟨c, connection, k, link0.session, rfl, hc, hsock, queued,
          link_session hlink0, hne, hseated⟩)
    · obtain rfl : _ = link0.connection := hconn
      exact ⟨.inl (hending.of_mute (.of_log rfl) rfl
        (fun hcovered => ⟨hcovered.teardowns, hcovered.covered⟩) id), hmoored⟩

theorem Concluding.step (hpermitted : Permitted client input) (hkeeps : ¬ Strands client input)
    (hstep : clientStep timeout client input = some client') :
    Concluding timeout client' := by
  obtain ⟨net, input⟩ := input
  cases clientStep_outcome h.base hstep with
  | nothing => exact h
  | created serverIp serverPort resourceLocation =>
    exact h.created serverIp serverPort resourceLocation
  | moved found handled =>
    obtain ⟨hstepped, -⟩ := handled.stepped h.base found (fun hfalse : False => hfalse.elim)
    refine h.store found hstepped (handled.ending h.base found
      (fun m hm => hpermitted _ m _ hm (link_session found)) (fun hm hsome hactive => ?_)
      (h.links _ _ found).1)
    rcases h.base.link_cases found with ⟨c, hplace, hc, -, -⟩ | ⟨-, hnone, -⟩
    · by_contra hout
      exact hkeeps (.inl ⟨_, _, c, _, hm, link_session found, hplace, hc, hactive, hout⟩)
    · rw [hnone] at hsome
      cases hsome
  | disconnected found sock left => exact h.disconnect found sock hkeeps left

/-- No step takes a session further from its end. -/
theorem Concluding.steady (hlink : client.link j = some link) (hasked : link.session.asked = 1)
    (hpermitted : Permitted client input) (hstep : clientStep timeout client input = some client')
    (hs' : client'.sessions[j]? = some session') :
    session'.gone = true ∨ session'.remaining ≤ link.session.remaining := by
  obtain ⟨net, input⟩ := input
  have hs := link_session hlink
  have hsame : client'.sessions[j]? = client.sessions[j]? →
      session'.gone = true ∨ session'.remaining ≤ link.session.remaining := fun heq => by
    rw [heq, hs] at hs'
    cases hs'
    exact .inr (Nat.le_refl _)
  cases clientStep_outcome h.base hstep with
  | nothing => exact hsame rfl
  | created serverIp serverPort resourceLocation =>
    exact hsame ((getElem?_created _ hs).trans hs.symm)
  | @moved _ k link1 link1' found handled =>
    by_cases hkj : k = j
    · subst hkj
      obtain rfl : link1 = link := Option.some.inj (found.symm.trans hlink)
      obtain ⟨hstepped, -⟩ := handled.stepped h.base found (fun hfalse : False => hfalse.elim)
      obtain ⟨p, hp⟩ := h.base.store_session found hstepped
      rw [hp] at hs'
      obtain rfl := Option.some.inj hs'
      exact handled.remaining_le h.base found
        (fun m hm => hpermitted _ m _ hm (link_session found)) hasked (h.links k link1 found).1
    · refine hsame ?_
      unfold Client.store
      split <;> exact List.getElem?_set_ne hkj
  | disconnected found sock left =>
    have hend := h.base.disconnect
      (R := fun _ k l => k = j → l.session.gone = true ∨
        l.session.remaining ≤ link.session.remaining) found sock
      (fun _ _ _ _ _ h => h) (fun _ _ _ _ _ _ _ _ h => h) ?_ ?_ left
    · exact (hend.2.2 j _ (link_of_session hs')).1 rfl
    · intro k _ link1 link1' _ _ _ _ _ hraised _
      refine .inr ?_
      rw [ClientSession.remaining, hraised.term]
      exact Nat.zero_le _
    · intro k link1 hk hkj
      subst hkj
      obtain ⟨link0, _, hlink0, hsession, -⟩ := h.base.drained_link found hk
      cases hlink0.symm.trans hlink
      refine .inr ?_
      rw [hsession]
      exact Nat.le_refl _

/-- The answer to the request in progress. -/
theorem Concluding.closer {request : Message}
    (hq : Queued timeout client c connection j link request) (hasked : link.session.asked = 1)
    (net : Net) (response : Message) :
    Closer client (client.store j (responseHandle net timeout j (rtspClientRequestPop j link)
      request response)) j := by
  have howned : Owned timeout j (link.conn j) link.session := by rw [hq.conn_eq]; exact hq.owned
  obtain ⟨hstepped, -⟩ := (hq.handled net (.receive c response) response).stepped h.base hq.found
    (fun hfalse : False => hfalse.elim)
  obtain ⟨p, hp⟩ := h.base.store_session hq.found hstepped
  exact ⟨link.session, _, link_session hq.found, hp,
    (response_ending net response howned hq.live hq.active (h.links j link hq.found).1).2 hasked⟩

theorem Concluding.terminationsOnce :
    TerminationsOnce timeout client := by
  intro j session hs
  obtain ⟨link, hlink, rfl⟩ : ∃ link, client.link j = some link ∧ link.session = session :=
    ⟨_, link_of_session hs, rfl⟩
  cases (h.links j link hlink).1 with
  | fresh asked told term =>
    exact ⟨by omega, by omega, fun hasked => by rw [asked] at hasked; cases hasked⟩
  | ended asked told =>
    exact ⟨by omega, by omega, fun _ hlive => by rw [live_iff_told, told] at hlive; cases hlive⟩
  | underway asked told queued stage =>
    refine ⟨by omega, by omega, fun _ hlive => ?_⟩
    rcases h.base.link_cases hlink with ⟨c, hplace, hc, -, howned⟩ | ⟨-, -, hnew⟩
    · obtain ⟨link', request, hq⟩ := h.base.queued hc queued
      obtain rfl : link' = link := Option.some.inj (hq.found.symm.trans hlink)
      obtain ⟨hsock, -, htimer, -⟩ := howned.queued queued
      refine ⟨⟨c, _, request, hplace, hc, hsock, hq.active, fun net response hr hcseq => ?_⟩,
        fun htimeout net => ?_, fun input client' session' => h.steady hlink asked⟩
      · rw [messageHandler_response hr hc, h.base.responseReceive_eq hc hq hcseq]
        exact h.closer hq asked net response
      · have hset : link'.session.requestTimer = true := by rw [htimer]; simpa using htimeout
        obtain ⟨c', connection', request', -, hq', heq⟩ := h.base.timer_eq hlink hset net
        exact ⟨_, heq, h.closer hq' asked net _⟩
    · rw [hnew] at queued
      cases queued

end

/-- A termination that waits on a connection that is closed. -/
theorem not_once_of_closed (hs : client.sessions[j]? = some session)
    (hplace : session.connection = some c) (hc : client.connections[c]? = some connection)
    (hclosed : connection.sock = false) (hasked : session.asked = 1)
    (hlive : session.gone = false) : ¬ TerminationsOnce timeout client := by
  intro honce
  obtain ⟨c', connection', -, hplace', hc', hopen, -⟩ :=
    ((honce j session hs).2.2 hasked hlive).answer
  cases hplace.symm.trans hplace'
  cases hc.symm.trans hc'
  rw [hopen] at hclosed
  cases hclosed

/-- The termination is requested when the request of the session has been
lost. -/
theorem Concluding.terminate_stranded (h : Concluding timeout client)
    (hs : client.sessions[j]? = some session) (hplace : session.connection = some c)
    (hc : client.connections[c]? = some connection)
    (hactive : session.activeRequest.isSome = true) (hout : j ∉ connection.inprogressRequestQueue)
    (hstep : clientStep timeout client (net, .terminate j) = some client') :
    ¬ TerminationsOnce timeout client' := by
  have hlink : client.link j = some ⟨some connection, session⟩ := by
    simp [Client.link, hs, hplace, hc]
  obtain ⟨hending, hmoored⟩ := h.links j _ hlink
  have hclosed : connection.sock = false := (hmoored hactive).resolve_left hout
  rw [clientStep] at hstep
  simp only [hlink, Option.bind_some] at hstep
  split at hstep
  · cases hstep
  · rename_i hok
    simp only [Bool.or_eq_true, not_or, Bool.not_eq_true] at hok
    obtain ⟨hunasked, huntold⟩ := hending.unasked hok.1 (by simpa using hok.2)
    obtain ⟨hasked, htold⟩ := note_terminateRequest hunasked huntold
    have hprocess : rtspClientSessionTerminateProcess net timeout j
        ⟨some connection, session.note .terminateRequest⟩ =
        ⟨some connection, { session.note .terminateRequest with termState := .requested }⟩ := by
      have hactive' : (session.note .terminateRequest).activeRequest.isSome = true := hactive
      exact if_pos hactive'
    rw [hprocess] at hstep
    cases hstep
    have hj := (List.getElem?_eq_some_iff.mp hs).1
    have hc' := (List.getElem?_eq_some_iff.mp hc).1
    have hs' : (client.store j ⟨some connection,
        { session.note .terminateRequest with termState := .requested }⟩).sessions[j]? =
        some { session.note .terminateRequest with termState := .requested } := by
      simp [Client.store, ClientSession.note, hplace, hj]
    have hc'' : (client.store j ⟨some connection,
        { session.note .terminateRequest with termState := .requested }⟩).connections[c]? =
        some connection := by
      simp [Client.store, ClientSession.note, hplace, hc']
    exact not_once_of_closed hs' hplace hc'' hclosed hasked (live_iff_told.mpr htold)

/-- The connection is closed while a session that is terminating is not in its
table. -/
theorem Concluding.disconnect_stranded (h : Concluding timeout client)
    (hc : client.connections[c]? = some connection) (hsock : connection.sock = true)
    (hj : j ∈ connection.inprogressRequestQueue) (hs : client.sessions[j]? = some session)
    (hterm : session.termState ≠ .none) (hseated : j ∉ connection.seated)
    (hstep : clientStep timeout client (net, .disconnect c) = some client') :
    ¬ TerminationsOnce timeout client' := by
  obtain ⟨link, request, hq⟩ := h.base.queued hc hj
  cases (link_session hq.found).symm.trans hs
  have hasked : link.session.asked = 1 ∧ link.session.told = 0 := by
    cases (h.links j link hq.found).1 with
    | fresh asked told term => exact absurd term hterm
    | ended asked told => exact absurd (live_iff_told.mp hq.live) (by rw [told]; simp)
    | underway asked told queued stage => exact ⟨asked, told⟩
  rw [clientStep_disconnect hc hsock] at hstep
  have hend := h.base.disconnect
    (R := fun js k l => k = j → k ∉ js ∧ l.session.connection = some c ∧ l.session.asked = 1 ∧
      l.session.told = 0) hc hsock
    (fun _ _ _ _ _ hR hk => ⟨fun hmem => (hR hk).1 (List.mem_cons_of_mem _ hmem), (hR hk).2⟩)
    (fun _ _ _ _ _ _ _ _ h => h)
    (fun k _ _ _ hR _ _ _ _ _ hk => absurd (by simp) (hR hk).1) ?_ hstep
  · have hj' : j < client'.sessions.length := hend.2.1 ▸ (List.getElem?_eq_some_iff.mp hs).1
    obtain ⟨link', hlink'⟩ : ∃ link', client'.link j = some link' :=
      ⟨_, link_of_session (List.getElem?_eq_getElem hj')⟩
    obtain ⟨hR, hclosed⟩ := hend.2.2 j link' hlink'
    obtain ⟨-, hplace, hasked', htold'⟩ := hR rfl
    rcases hend.1.link_cases hlink' with ⟨c', hplace', hc', -, -⟩ | ⟨hplace', -, -⟩
    · cases hplace.symm.trans hplace'
      exact not_once_of_closed (link_session hlink') hplace hc' (hclosed.closed hplace).2 hasked'
        (live_iff_told.mpr htold')
    · rw [hplace] at hplace'
      cases hplace'
  · intro k link1 hk hkj
    subst hkj
    obtain ⟨link0, _, hlink0, hsession, -⟩ := h.base.drained_link hc hk
    cases hlink0.symm.trans hq.found
    rw [hsession]
    exact ⟨hseated, hq.place, hasked⟩

theorem Concluding.stranded (h : Concluding timeout client) (hstrands : Strands client input)
    (hstep : clientStep timeout client input = some client') :
    ¬ TerminationsOnce timeout client' := by
  obtain ⟨net, input⟩ := input
  rcases hstrands with ⟨j, session, c, connection, hinput, hs, hplace, hc, hactive, hout⟩ |
    ⟨c, connection, j, session, hinput, hc, hsock, hj, hs, hterm, hseated⟩
  · obtain rfl : input = .terminate j := hinput
    exact h.terminate_stranded hs hplace hc hactive hout hstep
  · obtain rfl : input = .disconnect c := hinput
    exact h.disconnect_stranded hc hsock hj hs hterm hseated hstep

/-- In every run from sessions that have not been used, in which the
application sends no request after the termination, every termination is
responded to once, or goes on towards that, as long as no session is stranded;
and whatever step strands a session loses its response. -/
theorem terminations_once_iff (timeout : Nat) (client : Client) (hstart : Start client)
    (inputs : List (Net × ClientInput))
    (hpermitted : Along (clientStep timeout) Permitted client inputs) :
    Always (clientStep timeout) (TerminationsOnce timeout) client inputs ↔
      Along (clientStep timeout) (fun client input => ¬ Strands client input) client inputs :=
  always_iff_along (fun _ h => h.terminationsOnce)
    (fun _ _ _ h hpermitted hkeeps hstep => h.step hpermitted hkeeps hstep)
    (fun _ _ _ h _ honce hstep hstrands => h.stranded hstrands hstep honce) inputs client
    hstart.concluding hpermitted

/-- Two sessions share a connection; one is terminated while its SETUP is in
progress. -/
def terminateRun : List (Net × ClientInput) :=
  [(openNet, .request 0 setupRequest), (openNet, .request 1 setupRequest),
    (openNet, .terminate 1), (openNet, .timer 1)]

theorem terminateRun_permitted :
    Along (clientStep 5000) Permitted sharedClient terminateRun := by
  intro client1 hstep1
  refine ⟨fun j message session hinput hs => ?_, fun client2 hstep2 =>
    ⟨fun j message session hinput hs => ?_, fun client3 hstep3 =>
      ⟨fun j message session hinput => ?_, fun client4 hstep4 =>
        ⟨fun j message session hinput => ?_, trivial⟩⟩⟩⟩
  · obtain ⟨rfl, -⟩ := ClientInput.request.inj hinput
    cases hs
    rfl
  · obtain ⟨rfl, -⟩ := ClientInput.request.inj hinput
    cases hstep1
    cases hs
    rfl
  · cases hinput
  · cases hinput

theorem terminations_once_shared :
    Start sharedClient ∧ Along (clientStep 5000) Permitted sharedClient terminateRun ∧
      (Always (clientStep 5000) (TerminationsOnce 5000) sharedClient terminateRun ↔
        Along (clientStep 5000) (fun client input => ¬ Strands client input) sharedClient
          terminateRun) :=
  ⟨sharedClient_start, terminateRun_permitted,
    terminations_once_iff 5000 sharedClient sharedClient_start _ terminateRun_permitted⟩

/-- The first SETUP of a session is sent, the termination is requested, and the
connection is closed: the session has no id yet, so that it is not in the table,
and the application gets no terminate response. -/
theorem termination_lost_on_disconnect :
    ∃ client ∈ after (clientStep 5000) ⟨[], []⟩
        [(openNet, .create (bytesOf "10.0.0.1") 1554 []), (openNet, .request 0 setupRequest),
          (openNet, .terminate 0), (openNet, .disconnect 0)],
      ((∃ session ∈ client.sessions[0]?, session.asked = 1 ∧ session.told = 0 ∧
          session.requestTimer = false) ∧
        ∀ connection ∈ client.connections, connection.sock = false ∧
          connection.inprogressRequestQueue = []) ∧
      ¬ TerminationsOnce 5000 client := by
  refine ⟨_, rfl, by decide +kernel, ?_⟩
  exact not_once_of_closed (j := 0) (c := 0) rfl rfl rfl rfl (by decide +kernel) (by decide +kernel)

end Concluding

end UniMrcp.Rtsp
