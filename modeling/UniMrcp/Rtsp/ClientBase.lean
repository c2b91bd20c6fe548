import UniMrcp.Rtsp.ClientLink

/-!
# The invariant of the client

`Owned` is what a session and its connection know of each other, and `Base`
adds what holds between the sessions of one connection: those with a request in
progress have different CSeqs.  So a response, and also the timer of a session,
finds the right session.

A handler of a session is a `Stepped` change of its link, and such a change
keeps `Base`.
-/

namespace UniMrcp.Rtsp

open UniMrcp.Lib UniMrcp.Apt

/-- What the queue of a connection knows of a session. -/
structure Attached (timeout j : Nat) (connection : ClientConnection) (session : ClientSession) :
    Prop where
  queued : j ∈ connection.inprogressRequestQueue → connection.sock = true ∧
    session.gone = false ∧ session.requestTimer = (timeout != 0) ∧
    ∃ m, session.activeRequest = some m ∧ m.header.cseq ≤ connection.lastCseq ∧
      rtspHeaderPropertyCheck m.header .cseq = true
  timed : session.requestTimer = true → j ∈ connection.inprogressRequestQueue
  handle : session.gone = false → j ∈ connection.handleTable

/-- What a session and its connection know of each other. -/
structure Owned (timeout j : Nat) (connection : ClientConnection) (session : ClientSession) : Prop
    extends Attached timeout j connection session where
  idle : session.Idle
  tables : Tables j connection session
  gone : session.gone = true → connection.sock = true →
    session.activeRequest = none ∧ session.resourceTable.entries = []

/-- A request in progress is in the queue, unless the session is terminating. -/
def Flown (j : Nat) (link : Link) : Prop :=
  link.session.activeRequest.isSome = true →
    j ∈ (link.conn j).inprogressRequestQueue ∨ link.session.terminating = true

/-- A request in progress is in the queue, unless the connection is closed. -/
def Moored (j : Nat) (link : Link) : Prop :=
  link.session.activeRequest.isSome = true →
    j ∈ (link.conn j).inprogressRequestQueue ∨ (link.conn j).sock = false

/-- Nothing is in progress. -/
def ClientSession.Still (session : ClientSession) : Prop :=
  session.activeRequest = none ∧ session.requestTimer = false

/-- The effect of a whole handler on the session and its connection. -/
structure Stepped (timeout j : Nat) (link link' : Link) : Prop where
  grows : link.session.log <+: link'.session.log
  index : link'.session.connection = link.session.connection
  attached : link.connection.isSome = true → link'.connection.isSome = true
  bare : link.session.Still → link'.connection = none → link'.session.Still
  sock : (link'.conn j).sock = (link.conn j).sock ∨
    ((link'.conn j).sock = false ∧ (link'.conn j).handleTable = [])
  cseq : (link.conn j).lastCseq ≤ (link'.conn j).lastCseq
  members : ∀ k, k ≠ j → (k ∈ (link'.conn j).inprogressRequestQueue ↔
    k ∈ (link.conn j).inprogressRequestQueue)
  nodup : (link.conn j).inprogressRequestQueue.Nodup →
    (link'.conn j).inprogressRequestQueue.Nodup
  own : j ∈ (link'.conn j).inprogressRequestQueue →
    (j ∈ (link.conn j).inprogressRequestQueue ∧
      link'.session.activeRequest = link.session.activeRequest) ∨
    ∃ m, link'.session.activeRequest = some m ∧ (link.conn j).lastCseq < m.header.cseq
  handles : ∀ k, k ≠ j → k ∈ (link.conn j).handleTable → k ∈ (link'.conn j).handleTable
  others : ∀ id k, k ≠ j → (link'.conn j).sessionTable.lookup id = some k →
    (link.conn j).sessionTable.lookup id = some k
  flown : Flown j link → Flown j link'
  moored : Moored j link → Moored j link'
  owned : link'.connection.isSome = true ∨ link'.session.gone = false →
    Owned timeout j (link'.conn j) link'.session

section Stepped

variable {full : Prop} {timeout j : Nat} {link link' link1 : Link}

section

variable (h : Attached timeout j (link.conn j) link.session)
include h

theorem not_queued (hactive : link.session.activeRequest = none) :
    j ∉ (link.conn j).inprogressRequestQueue := fun hj => by
  obtain ⟨-, -, -, m, hm, -⟩ := h.queued hj
  rw [hactive] at hm
  cases hm

theorem Attached.quiet (hactive : link.session.activeRequest = none) :
    link.session.requestTimer = false :=
  Bool.eq_false_iff.mpr fun htimer => not_queued h hactive (h.timed htimer)

/-- The queue after a handler that has moved. -/
theorem Attached.queued_of_moved (hmoved : Moved timeout j link link')
    (hlive : link'.session.gone = false) (hj : j ∈ (link'.conn j).inprogressRequestQueue) :
    (link'.conn j).sock = true ∧ link'.session.gone = false ∧
      link'.session.requestTimer = (timeout != 0) ∧
      ∃ m, link'.session.activeRequest = some m ∧ m.header.cseq ≤ (link'.conn j).lastCseq ∧
        rtspHeaderPropertyCheck m.header .cseq = true := by
  rw [hmoved.sock]
  cases hmoved.queue with
  | kept queue active timer =>
    rw [queue] at hj
    obtain ⟨hsock, -, htimer, m, hm, hlast, hcheck⟩ := h.queued hj
    exact ⟨hsock, hlive, timer.trans htimer, m, active.trans hm, hlast.trans hmoved.cseq, hcheck⟩
  | sent m idle queue active timer fresh last check sock =>
    exact ⟨sock, hlive, by rw [timer, h.quiet idle, Bool.false_or], m, active, last, check⟩

theorem Attached.timed_of_moved (hmoved : Moved timeout j link link')
    (htimer : link'.session.requestTimer = true) : j ∈ (link'.conn j).inprogressRequestQueue := by
  cases hmoved.queue with
  | kept queue active timer =>
    rw [queue]
    exact h.timed (timer ▸ htimer)
  | sent m idle queue =>
    rw [queue]
    simp

theorem Attached.of_moved (hlive : link.session.gone = false)
    (hmoved : Moved timeout j link link') (hsound : Sound full j [] link')
    (hidle : link'.session.Idle) :
    Owned timeout j (link'.conn j) link'.session where
  queued := h.queued_of_moved hmoved hsound.live
  idle := hidle
  timed := h.timed_of_moved hmoved
  tables := hsound.tables
  handle := fun _ => hmoved.handles j (h.handle hlive)
  gone := fun hgone => by rw [hsound.live] at hgone; cases hgone

end

section

variable (h : Moved timeout j link link')
include h

theorem Moved.terminating (hterm : link.session.terminating = true) :
    link'.session.terminating = true := by
  rw [ClientSession.terminating, ClientSession.gone, Bool.or_eq_true, beq_iff_eq,
    List.contains_iff_mem] at hterm ⊢
  exact hterm.imp h.term (h.grows.subset ·)

theorem Moved.flown (hflown : Flown j link) : Flown j link' := by
  intro hsome
  cases h.queue with
  | kept queue active =>
    rw [active] at hsome
    rw [queue]
    exact (hflown hsome).imp id h.terminating
  | sent m idle queue =>
    rw [queue]
    exact .inl (by simp)

theorem Moved.moored (hmoored : Moored j link) : Moored j link' := by
  intro hsome
  cases h.queue with
  | kept queue active =>
    rw [active] at hsome
    rw [queue, h.sock]
    exact hmoored hsome
  | sent m idle queue =>
    rw [queue]
    exact .inl (by simp)

end

/-- A handler that does not end the session. -/
theorem Stepped.of_moved (h : Attached timeout j (link.conn j) link.session)
    (hlive : link.session.gone = false) (hmoved : Moved timeout j link link')
    (hsound : Sound full j [] link') (hidle : link'.session.Idle) :
    Stepped timeout j link link' where
  grows := hmoved.grows
  index := hmoved.index
  attached := hmoved.attached
  bare := fun hstill hnone =>
    ⟨(hmoved.bare hnone).1.trans hstill.1, (hmoved.bare hnone).2.trans hstill.2⟩
  sock := .inl hmoved.sock
  cseq := hmoved.cseq
  members := fun k hk => by
    cases hmoved.queue with
    | kept queue => rw [queue]
    | sent m idle queue => simp [queue, hk]
  nodup := fun hnodup => by
    cases hmoved.queue with
    | kept queue => rw [queue]; exact hnodup
    | sent m idle queue =>
      rw [queue, List.nodup_append]
      refine ⟨hnodup, List.nodup_singleton j, fun a ha b hb hab => ?_⟩
      have hja : a = j := hab.trans (List.mem_singleton.mp hb)
      rw [hja] at ha
      exact not_queued h idle ha
  own := fun hj => by
    cases hmoved.queue with
    | kept queue active => exact .inl ⟨queue ▸ hj, active⟩
    | sent m idle queue active timer fresh => exact .inr ⟨m, active, fresh⟩
  handles := fun k _ => hmoved.handles k
  others := hmoved.others
  flown := hmoved.flown
  moored := hmoved.moored
  owned := fun _ => h.of_moved hlive hmoved hsound hidle

/-- The connection after the termination of a session. -/
structure ReleasedFrom (j : Nat) (connection connection' : ClientConnection) : Prop where
  queue : connection'.inprogressRequestQueue = connection.inprogressRequestQueue
  cseq : connection'.lastCseq = connection.lastCseq
  table : connection'.sessionTable = connection.sessionTable
  handles : ∀ k, k ≠ j → k ∈ connection.handleTable → k ∈ connection'.handleTable
  sock : connection'.sock = connection.sock ∨
    (connection'.sock = false ∧ connection'.handleTable = [])

theorem terminateRespond_released (j : Nat) (link : Link) :
    ReleasedFrom j (link.conn j) ((rtspClientSessionTerminateRespond j link).conn j) := by
  obtain ⟨connection, session⟩ := link
  cases connection with
  | none => exact ⟨rfl, rfl, rfl, fun _ _ hk => hk, .inl rfl⟩
  | some connection =>
    exact ⟨rfl, rfl, rfl, fun k hk hmem => (List.mem_erase_of_ne hk).mpr hmem, .inl rfl⟩

theorem connectionRelease_released (j : Nat) (link : Link) :
    ReleasedFrom j (link.conn j) ((connectionRelease link).conn j) := by
  obtain ⟨connection, session⟩ := link
  cases connection with
  | none => exact ⟨rfl, rfl, rfl, fun _ _ hk => hk, .inl rfl⟩
  | some connection =>
    dsimp only [connectionRelease, Link.conn, Option.map_some]
    split
    · rename_i hempty
      exact ⟨rfl, rfl, rfl, fun _ _ hk => hk, .inr ⟨rfl, List.isEmpty_iff.mp hempty⟩⟩
    · exact ⟨rfl, rfl, rfl, fun _ _ hk => hk, .inl rfl⟩

theorem ReleasedFrom.trans {c c' c'' : ClientConnection} (h : ReleasedFrom j c c')
    (hsock : c'.sock = c.sock) (h' : ReleasedFrom j c' c'') : ReleasedFrom j c c'' where
  queue := h'.queue.trans h.queue
  cseq := h'.cseq.trans h.cseq
  table := h'.table.trans h.table
  handles := fun k hk hmem => h'.handles k hk (h.handles k hk hmem)
  sock := by rw [← hsock]; exact h'.sock

theorem terminateRespond_sock (j : Nat) (link : Link) :
    ((rtspClientSessionTerminateRespond j link).conn j).sock = (link.conn j).sock := by
  obtain ⟨connection, session⟩ := link
  cases connection <;> rfl

theorem note_terminateResponse_gone (session : ClientSession) :
    (session.note .terminateResponse).gone = true := by
  simp [ClientSession.gone, ClientSession.note]

/-- A session that has no request in progress ends. -/
theorem Stepped.of_ended (h : Attached timeout j (link.conn j) link.session)
    (hmoved : Moved timeout j link link1) (hidle : link1.session.Idle)
    (htables : Tables j (link1.conn j) link1.session)
    (hactive : link1.session.activeRequest = none)
    (hempty : link1.session.resourceTable.entries = [])
    (hreleased : ReleasedFrom j (link1.conn j) (link'.conn j))
    (hattached : link'.connection.isSome = link1.connection.isSome)
    (hsession : link'.session = { link1.session with termState := .none }.note .terminateResponse) :
    Stepped timeout j link link' := by
  have hkept : (link1.conn j).inprogressRequestQueue = (link.conn j).inprogressRequestQueue ∧
      link.session.activeRequest = none := by
    cases hmoved.queue with
    | kept queue active => exact ⟨queue, active ▸ hactive⟩
    | sent m idle queue active =>
      rw [hactive] at active
      cases active
  have hqueue := hreleased.queue.trans hkept.1
  have hout : j ∉ (link'.conn j).inprogressRequestQueue := by
    rw [hqueue]
    exact not_queued h hkept.2
  obtain ⟨connection', session'⟩ := link'
  dsimp only at hattached hsession
  subst hsession
  have hidle' := Option.not_isSome_iff_eq_none.mpr hactive
  exact {
    grows := hmoved.grows.trans (List.prefix_append _ _)
    index := hmoved.index
    attached := fun hl => hattached.trans (hmoved.attached hl)
    bare := fun hstill hnone => by
      have hnone' : link1.connection = none := by
        obtain rfl : connection' = none := hnone
        simpa using hattached.symm
      exact ⟨hactive, (hmoved.bare hnone').2.trans hstill.2⟩
    sock := by rw [← hmoved.sock]; exact hreleased.sock
    cseq := by rw [hreleased.cseq]; exact hmoved.cseq
    members := fun k _ => by rw [hqueue]
    nodup := fun hnodup => by rw [hqueue]; exact hnodup
    own := fun hj => absurd hj hout
    handles := fun k hk hmem => hreleased.handles k hk (hmoved.handles k hmem)
    others := fun id k hk hid => hmoved.others id k hk (hreleased.table ▸ hid)
    flown := fun _ hsome => absurd hsome hidle'
    moored := fun _ hsome => absurd hsome hidle'
    owned := fun _ => {
      queued := fun hj => absurd hj hout
      idle := hidle
      timed := fun htimer => by
        rw [hreleased.queue]
        exact h.timed_of_moved hmoved htimer
      tables := htables.of_eq hreleased.table rfl rfl
      handle := fun hgone => by
        rw [note_terminateResponse_gone] at hgone
        cases hgone
      gone := fun _ _ => ⟨hactive, hempty⟩ } }

theorem note_submitted (session : ClientSession) {n : Note} (hn : ∀ m, n ≠ .request m) :
    (session.note n).submitted = session.submitted := by
  cases n with
  | request m => exact absurd rfl (hn m)
  | _ => simp [ClientSession.submitted, ClientSession.note]

theorem note_responded (session : ClientSession) {n : Note} (hn : ∀ m m', n ≠ .response m m') :
    (session.note n).responded = session.responded := by
  cases n with
  | response m m' => exact absurd rfl (hn m m')
  | _ => simp [ClientSession.responded, ClientSession.note]

/-- The accounts of a session that ends when there is nothing to respond to. -/
theorem Accounts.ended {session : ClientSession} (h : Accounts session [])
    (hnone : session.awaiting = []) (state : TerminationState) :
    Accounts ({ session with termState := state }.note .terminateResponse) [] := by
  have hterminating : ({ session with termState := state }.note
      .terminateResponse).terminating = true := by
    rw [ClientSession.terminating, note_terminateResponse_gone, Bool.or_true]
  rw [accounts_iff, hnone, List.append_nil] at h
  rw [Accounts, hterminating, if_pos rfl, List.append_nil, note_submitted _ (by simp),
    note_responded _ (by simp)]
  exact h

section

variable (h : Attached timeout j (link.conn j) link.session)
  (hlive : link.session.gone = false) (hmoved : Moved timeout j link link1)
  (hsound : Sound full j [] link1) (hidle : link1.session.Idle)
include h hlive hmoved hsound hidle

/-- The session is terminated if no resources are left. -/
theorem terminateCheck_stepped
    (hterm : link1.session.termState = .inprogress)
    (hleft : link1.session.activeRequest.isSome = true →
      link1.session.resourceTable.entries ≠ []) :
    Stepped timeout j link (terminateCheck j link1) ∧
      (full → Accounts (terminateCheck j link1).session []) := by
  unfold terminateCheck
  split
  · rename_i hempty
    rw [List.isEmpty_iff] at hempty
    have hactive : link1.session.activeRequest = none := by
      by_contra hsome
      exact hleft (Option.isSome_iff_ne_none.mpr hsome) hempty
    refine ⟨Stepped.of_ended h hmoved hidle hsound.tables hactive hempty
      ((terminateRespond_released j link1).trans (terminateRespond_sock j link1)
        (connectionRelease_released j _)) ?_ rfl,
      fun hfull => (hsound.accounts hfull).ended ?_ .none⟩
    · simp [connectionRelease, rtspClientSessionTerminateRespond]
    · simp [ClientSession.awaiting, ClientSession.terminating, hterm]
  · exact ⟨.of_moved h hlive hmoved hsound hidle, hsound.accounts⟩

theorem teardown_stepped (net : Net) (hactive : link1.session.activeRequest = none) :
    let link' := terminateCheck j (rtspClientSessionResourcesTeardown net timeout j link1)
    Stepped timeout j link link' ∧ (full → Accounts link'.session []) := by
  have htorn := resourcesTeardown_tornDown net timeout hsound hidle hactive
  have hstart : Moved timeout j link1 { link1 with session :=
      { link1.session with termState := .inprogress } } :=
    .of_session List.prefix_rfl (fun _ => rfl) rfl rfl rfl
  refine terminateCheck_stepped h hlive ((hmoved.trans hstart).trans htorn.moved) htorn.sound
    htorn.idle htorn.term (fun hsome => htorn.left ?_)
  obtain ⟨m, hm⟩ := Option.isSome_iff_exists.mp hsome
  simp [ClientSession.waiting, hm]

/-- What is done when no request is in progress any more. -/
theorem terminationProceed_stepped (net : Net) (hactive : link1.session.activeRequest = none) :
    Stepped timeout j link (terminationProceed net timeout j link1) ∧
      (full → Accounts (terminationProceed net timeout j link1).session []) := by
  unfold terminationProceed
  split
  · exact ⟨.of_moved h hlive hmoved hsound hidle, hsound.accounts⟩
  · exact teardown_stepped h hlive hmoved hsound hidle net hactive
  · rename_i hterm
    refine terminateCheck_stepped h hlive hmoved hsound hidle hterm (fun hsome => ?_)
    rw [hactive] at hsome
    cases hsome

end

end Stepped

/-! ## The handlers -/

section Handlers

variable {full : Prop} {net : Net} {timeout j : Nat} {link : Link}
  {message request response : Message} {session : ClientSession}

theorem submit_fields (session : ClientSession) (message : Message) :
    ∃ log, submit session message = { session with log := log } ∧
      session.log <+: log ∧ (submit session message).gone = session.gone := by
  unfold submit
  split
  · exact ⟨session.log, rfl, List.prefix_rfl, rfl⟩
  · exact ⟨_, rfl, List.prefix_append _ _, note_gone session (by simp)⟩

/-- A request that is submitted goes behind the others. -/
theorem Accounts.submit (h : Accounts session []) (hlive : session.gone = false)
    (message : Message) :
    Accounts { submit session message with
      pendingRequestQueue := session.pendingRequestQueue ++ [message] } [] := by
  unfold UniMrcp.Rtsp.submit
  split
  · rename_i hterm
    exact h.terminating hterm _ _ _
  · rename_i hterm
    have hbefore : session.terminating = false := by simp [ClientSession.terminating, hterm, hlive]
    have hafter : ({ session.note (.request message) with pendingRequestQueue :=
        session.pendingRequestQueue ++ [message] }).terminating = false := by
      have hgone := note_gone session (n := .request message) (by simp)
      simp [ClientSession.terminating, ClientSession.note, ClientSession.gone,
        hterm] at hgone hlive ⊢
      exact hlive
    rw [Accounts, hbefore] at h
    rw [Accounts, hafter]
    simp only [Bool.false_eq_true, if_false, List.nil_append] at h ⊢
    simpa [ClientSession.submitted, ClientSession.responded, ClientSession.note,
      List.filterMap_cons, ← List.append_assoc] using h

/-- TASK_MSG_SEND_MESSAGE -/
theorem request_stepped (net : Net) (message : Message)
    (h : Owned timeout j (link.conn j) link.session) (hlive : link.session.gone = false)
    (haccounts : full → Accounts link.session []) :
    let link' := rtspClientSessionMessageProcess net timeout j
      { link with session := submit link.session message } message
    (Stepped timeout j link link' ∧ (full → Accounts link'.session [])) ∧
      link'.session.termState = link.session.termState := by
  have haccounts' := fun hfull => (haccounts hfull).submit hlive message
  obtain ⟨log, hsubmit, hgrows, hgone⟩ := submit_fields link.session message
  rw [hsubmit] at hgone haccounts' ⊢
  have hmoved : Moved timeout j link { link with session := { link.session with log := log } } :=
    .of_session hgrows id rfl rfl rfl
  obtain ⟨hsound, hmoved', hidle', hterm⟩ := messageProcess_sound net timeout
    { link with session := { link.session with log := log } }
    (hgone.trans hlive) (h.tables.of_eq rfl rfl rfl) haccounts' h.idle
  exact ⟨⟨.of_moved h.toAttached hlive (hmoved.trans hmoved') hsound hidle', hsound.accounts⟩,
    hterm⟩

theorem Accounts.note {held : List Message} (h : Accounts session held) {n : Note}
    (hrequest : ∀ m, n ≠ .request m) (hresponse : ∀ m m', n ≠ .response m m')
    (hend : n ≠ .terminateResponse) : Accounts (session.note n) held := by
  have hterminating : (session.note n).terminating = session.terminating := by
    rw [ClientSession.terminating, note_gone session hend]
    rfl
  rw [Accounts, hterminating, note_submitted session hrequest, note_responded session hresponse]
  exact h

theorem Sound.note {held : List Message} (h : Sound full j held link) {n : Note}
    (hrequest : ∀ m, n ≠ .request m) (hresponse : ∀ m m', n ≠ .response m m')
    (hend : n ≠ .terminateResponse) :
    Sound full j held { link with session := link.session.note n } :=
  ⟨h.tables.of_eq rfl rfl rfl, fun hfull => (h.accounts hfull).note hrequest hresponse hend,
    (note_gone link.session hend).trans h.live⟩

/-- TASK_MSG_TERMINATE_SESSION -/
theorem terminate_stepped (net : Net) (h : Owned timeout j (link.conn j) link.session)
    (hlive : link.session.gone = false) (hterm : link.session.termState = .none)
    (haccounts : full → Accounts link.session [])
    (hbare : link.connection = none → link.session.activeRequest = none) :
    let link' := rtspClientSessionTerminateProcess net timeout j
      { link with session := link.session.note .terminateRequest }
    Stepped timeout j link link' ∧ (full → Accounts link'.session []) := by
  have hsound : Sound full j [] { link with session := link.session.note .terminateRequest } :=
    Sound.note ⟨h.tables, haccounts, hlive⟩ (by simp) (by simp) (by simp)
  have hidle : (link.session.note .terminateRequest).Idle := h.idle
  unfold rtspClientSessionTerminateProcess
  split_ifs with hnone hactive
  · -- the session has not been used, so there is nothing to account for
    have hconnection : link.connection = none := by simpa using hnone
    have hactive := hbare hconnection
    refine ⟨?_, ?_⟩
    · exact {
        grows := (List.prefix_append _ _).trans (List.prefix_append _ _)
        index := rfl
        attached := fun hsome => by rw [hconnection] at hsome; cases hsome
        bare := fun hnone _ => hnone
        sock := .inl rfl
        cseq := Nat.le_refl _
        members := fun _ _ => Iff.rfl
        nodup := fun hnodup => hnodup
        own := fun hj => .inl ⟨hj, rfl⟩
        handles := fun _ _ hk => hk
        others := fun _ _ _ hid => hid
        flown := fun _ hsome => absurd hsome (Option.not_isSome_iff_eq_none.mpr hactive)
        moored := fun _ hsome => absurd hsome (Option.not_isSome_iff_eq_none.mpr hactive)
        owned := fun hor => by
          rcases hor with hsome | hgone
          · rw [show ({ link with session := _ } : Link).connection = none from hconnection]
              at hsome
            cases hsome
          · rw [note_terminateResponse_gone] at hgone
            cases hgone }
    · refine fun hfull => (hsound.accounts hfull).ended ?_ link.session.termState
      have hnil : (link.session.note .terminateRequest).activeRequest.toList ++
          (link.session.note .terminateRequest).pendingRequestQueue = [] := by
        simp [ClientSession.note, hactive, h.idle hactive]
      simp [ClientSession.awaiting, hnil]
  · -- the session goes on until its requests have been responded to
    have hrequested : Sound full j [] { link with session :=
        { link.session.note .terminateRequest with termState := .requested } } := by
      refine ⟨hsound.tables.of_eq rfl rfl rfl, fun hfull => ?_, hsound.live⟩
      have haccounts := hsound.accounts hfull
      simp only [Accounts, ClientSession.note, hterm] at haccounts ⊢
      exact haccounts
    have hstart : Moved timeout j link { link with session :=
        { link.session.note .terminateRequest with termState := .requested } } :=
      .of_session (List.prefix_append _ _) (fun h => by rw [hterm] at h; cases h) rfl rfl rfl
    exact ⟨.of_moved h.toAttached hlive hstart hrequested hidle,
      hrequested.accounts⟩
  · have hnone : link.session.activeRequest = none := by simpa [ClientSession.note] using hactive
    have hstart : Moved timeout j link
        { link with session := link.session.note .terminateRequest } :=
      .of_session (List.prefix_append _ _) id rfl rfl rfl
    exact teardown_stepped h.toAttached hlive hstart hsound hidle net hnone

theorem requestPop_conn (j : Nat) (link : Link) :
    (rtspClientRequestPop j link).conn j = { link.conn j with
      inprogressRequestQueue := (link.conn j).inprogressRequestQueue.erase j } := by
  obtain ⟨connection, session⟩ := link
  cases connection <;> rfl

/-- The request in progress is taken from the queue. -/
theorem requestPop_attached (h : Owned timeout j (link.conn j) link.session)
    (hnodup : (link.conn j).inprogressRequestQueue.Nodup) :
    Attached timeout j ((rtspClientRequestPop j link).conn j)
      (rtspClientRequestPop j link).session := by
  rw [requestPop_conn]
  exact ⟨fun hj => absurd hj hnodup.not_mem_erase, fun htimer => (by cases htimer), h.handle⟩

theorem requestPop_sound (h : Owned timeout j (link.conn j) link.session)
    (hlive : link.session.gone = false) (haccounts : full → Accounts link.session [])
    (hactive : link.session.activeRequest = some request) :
    Sound full j [request] (rtspClientRequestPop j link) := by
  refine ⟨h.tables.of_eq (by rw [requestPop_conn]) rfl rfl, ?_, hlive⟩
  refine fun hfull => (haccounts hfull).of_eq rfl rfl ?_
  simp [rtspClientRequestPop, hactive]

/-- The step of a session whose request has been taken from the queue. -/
theorem Stepped.of_pop {link' : Link} (hnodup : (link.conn j).inprogressRequestQueue.Nodup)
    (hactive : link.session.activeRequest = some request)
    (h : Stepped timeout j (rtspClientRequestPop j link) link') : Stepped timeout j link link' := by
  obtain ⟨connection, session⟩ := link
  cases connection with
  | none | some connection =>
    exact {
      h with
      bare := fun hstill => by rw [ClientSession.Still, hactive] at hstill; cases hstill.1
      members := fun k hk => by
        rw [h.members k hk, requestPop_conn]
        exact List.mem_erase_of_ne hk
      nodup := fun _ => h.nodup (hnodup.erase j)
      own := fun hj => by
        rcases h.own hj with ⟨hj, -⟩ | hfresh
        · exact absurd hj hnodup.not_mem_erase
        · exact .inr hfresh
      flown := fun _ => h.flown (fun hsome => by cases hsome)
      moored := fun _ => h.moored (fun hsome => by cases hsome) }

/-- A response, or a timeout. -/
theorem response_stepped (net : Net) (response : Message)
    (h : Owned timeout j (link.conn j) link.session)
    (hnodup : (link.conn j).inprogressRequestQueue.Nodup) (hlive : link.session.gone = false)
    (haccounts : full → Accounts link.session [])
    (hactive : link.session.activeRequest = some request) :
    let link' := responseHandle net timeout j (rtspClientRequestPop j link) request response
    Stepped timeout j link link' ∧ (full → Accounts link'.session []) ∧
      (rtspClientSessionResponseProcess j (rtspClientRequestPop j link) request
        response).session.log <+: link'.session.log := by
  have hattached := requestPop_attached h hnodup
  have hpopped := requestPop_sound h hlive haccounts hactive
  obtain ⟨hsound1, hmoved1, hunmoved⟩ := responseProcess_sound timeout response hpopped
  obtain ⟨hsound2, hmoved2, hidle2, hmore, -⟩ := pendingRequestsProcess_sound net timeout hsound1
    (hunmoved.active.trans rfl)
  have hmoved := hmoved1.trans hmoved2
  unfold responseHandle
  dsimp only
  generalize rtspClientSessionPendingRequestsProcess net timeout j _ = result
    at hsound2 hmoved2 hidle2 hmore hmoved ⊢
  cases hresult : result.2 with
  | true =>
    exact ⟨.of_pop hnodup hactive (.of_moved hattached hlive hmoved hsound2 hidle2),
      hsound2.accounts, hmoved2.grows⟩
  | false =>
    have hnone : result.1.session.activeRequest = none := by
      rw [hresult] at hmore
      simpa using hmore
    obtain ⟨hstepped, haccounts'⟩ :=
      terminationProceed_stepped hattached hlive hmoved hsound2 hidle2 net hnone
    obtain ⟨hrest, -⟩ := terminationProceed_stepped (hattached.of_moved hlive hmoved hsound2
      hidle2).toAttached hsound2.live (.refl result.1) hsound2 hidle2 net hnone
    exact ⟨.of_pop hnodup hactive hstepped, haccounts', hmoved2.grows.trans hrest.grows⟩

end Handlers

/-! ## All sessions -/

/-- The CSeq of the request in progress. -/
def ClientSession.cseq (session : ClientSession) : Option Nat :=
  session.activeRequest.map (fun request => request.header.cseq)

/-- The invariant of the client. -/
structure Base (timeout : Nat) (client : Client) : Prop where
  attached : ∀ (j : Nat) (session : ClientSession) (c : Nat),
    client.sessions[j]? = some session → session.connection = some c →
      ∃ connection, client.connections[c]? = some connection ∧ Owned timeout j connection session
  bare : ∀ (j : Nat) (session : ClientSession),
    client.sessions[j]? = some session → session.connection = none →
      session.Still ∧
        (session.gone = false → Owned timeout j (rtspClientConnectionCreate j) session)
  nodup : ∀ (c : Nat) (connection : ClientConnection), client.connections[c]? = some connection →
    connection.inprogressRequestQueue.Nodup
  queue : ∀ (c : Nat) (connection : ClientConnection), client.connections[c]? = some connection →
    ∀ j ∈ connection.inprogressRequestQueue,
      ∃ session, client.sessions[j]? = some session ∧ session.connection = some c
  table : ∀ (c : Nat) (connection : ClientConnection) (id : Bytes) (j : Nat),
    client.connections[c]? = some connection → connection.sessionTable.lookup id = some j →
      ∃ session, client.sessions[j]? = some session ∧ session.connection = some c
  /-- requests in progress have different CSeqs -/
  cseq : ∀ (c : Nat) (connection : ClientConnection), client.connections[c]? = some connection →
    ∀ j ∈ connection.inprogressRequestQueue, ∀ k ∈ connection.inprogressRequestQueue,
      ∀ sj sk : ClientSession, client.sessions[j]? = some sj → client.sessions[k]? = some sk →
        sj.cseq = sk.cseq → j = k

section Base

variable {timeout j : Nat} {client : Client} {link link' : Link} {session : ClientSession}

theorem link_session (h : client.link j = some link) :
    client.sessions[j]? = some link.session := by
  obtain ⟨session, hs, rfl⟩ := Option.map_eq_some_iff.mp h
  exact hs

theorem link_of_session (hs : client.sessions[j]? = some session) :
    client.link j = some ⟨session.connection.bind (client.connections[·]?), session⟩ := by
  rw [Client.link, hs]
  rfl

section

variable (h : Base timeout client) (hlink : client.link j = some link)
include h hlink

/-- The link of a session with and without a connection. -/
theorem Base.link_cases :
    (∃ c, link.session.connection = some c ∧ client.connections[c]? = some (link.conn j) ∧
      link.connection = some (link.conn j) ∧ Owned timeout j (link.conn j) link.session) ∨
    (link.session.connection = none ∧ link.connection = none ∧
      link.conn j = rtspClientConnectionCreate j) := by
  obtain ⟨session, hs, rfl⟩ := Option.map_eq_some_iff.mp hlink
  cases hc : session.connection with
  | none => exact .inr ⟨rfl, rfl, rfl⟩
  | some c =>
    obtain ⟨connection, hconnection, howned⟩ := h.attached j session c hs hc
    refine .inl ⟨c, rfl, ?_, ?_, ?_⟩
    · simp [Link.conn, hconnection]
    · simp [Link.conn, hconnection]
    · simpa [Link.conn, hconnection] using howned

/-- What is known of the link of a session. -/
theorem Base.owned (hlive : link.connection.isSome = true ∨ link.session.gone = false) :
    Owned timeout j (link.conn j) link.session := by
  rcases h.link_cases hlink with ⟨c, -, -, -, howned⟩ | ⟨hc, hnone, hnew⟩
  · exact howned
  · rw [hnone] at hlive
    rw [hnew]
    rcases hlive with hsome | hgone
    · cases hsome
    · exact (h.bare j _ (link_session hlink) hc).2 hgone

theorem Base.idle_of_bare (hnone : link.connection = none) :
    link.session.activeRequest = none := by
  rcases h.link_cases hlink with ⟨c, -, -, hsome, -⟩ | ⟨hc, -, -⟩
  · rw [hnone] at hsome
    cases hsome
  · exact (h.bare j _ (link_session hlink) hc).1.1

theorem Base.link_nodup : (link.conn j).inprogressRequestQueue.Nodup := by
  rcases h.link_cases hlink with ⟨c, -, hconnection, -, -⟩ | ⟨-, -, hnew⟩
  · exact h.nodup c _ hconnection
  · rw [hnew]
    exact List.nodup_nil

end

/-- What a session knows of its connection does not change by a step of another
session. -/
theorem Owned.other {k : Nat} (h : Owned timeout k (link.conn j) session)
    (hstep : Stepped timeout j link link') (hk : k ≠ j) :
    Owned timeout k (link'.conn j) session where
  queued := fun hmem => by
    rw [hstep.members k hk] at hmem
    obtain ⟨hsock, hlive, htimer, m, hm, hlast, hcheck⟩ := h.queued hmem
    refine ⟨?_, hlive, htimer, m, hm, hlast.trans hstep.cseq, hcheck⟩
    rcases hstep.sock with hsame | ⟨-, hempty⟩
    · exact hsame.trans hsock
    · have hhandle := hstep.handles k hk (h.handle hlive)
      rw [hempty] at hhandle
      cases hhandle
  timed := fun htimer => (hstep.members k hk).mpr (h.timed htimer)
  handle := fun hlive => hstep.handles k hk (h.handle hlive)
  idle := h.idle
  tables := ⟨h.tables.named, fun id hid => h.tables.table id (hstep.others id k hk hid)⟩
  gone := fun hgone hsock => by
    rcases hstep.sock with hsame | ⟨hclosed, -⟩
    · exact h.gone hgone (hsame ▸ hsock)
    · rw [hclosed] at hsock
      cases hsock

/-- Nothing of what is owned depends on the position of the connection. -/
theorem Owned.position {connection : ClientConnection} (h : Owned timeout j connection session)
    (c : Option Nat) :
    Owned timeout j connection { session with connection := c } :=
  ⟨⟨h.queued, h.timed, h.handle⟩, h.idle, ⟨h.tables.named, h.tables.table⟩, h.gone⟩

/-- The place of the connection of a session: it is there, or it is new. -/
def Placed (j : Nat) (client : Client) (link : Link) (c : Nat) : Prop :=
  (client.connections[c]? = some (link.conn j) ∧ link.session.connection = some c) ∨
    (client.connections[c]? = none ∧ link.session.connection = none ∧
      link.conn j = rtspClientConnectionCreate j)

/-- A connection knows the sessions of its queue and of its table. -/
def ClientConnection.Knows (connection : ClientConnection) (k : Nat) : Prop :=
  k ∈ connection.inprogressRequestQueue ∨ ∃ id, connection.sessionTable.lookup id = some k

theorem Stepped.knows (hstep : Stepped timeout j link link') {k : Nat} (hk : k ≠ j)
    (h : (link'.conn j).Knows k) : (link.conn j).Knows k :=
  h.imp (hstep.members k hk).mp (fun ⟨id, hid⟩ => ⟨id, hstep.others id k hk hid⟩)

theorem Base.known (h : Base timeout client) {c k : Nat} {connection : ClientConnection}
    (hc : client.connections[c]? = some connection) (hk : connection.Knows k) :
    ∃ s, client.sessions[k]? = some s ∧ s.connection = some c := by
  rcases hk with hk | ⟨id, hk⟩
  · exact h.queue c connection hc k hk
  · exact h.table c connection id k hc hk

/-- A session after a step of the session `j`. -/
theorem sessions_set {sessions : List ClientSession} {k : Nat} {s : ClientSession}
    (h : (sessions.set j session)[k]? = some s) :
    k = j ∧ s = session ∨ k ≠ j ∧ sessions[k]? = some s := by
  rw [List.getElem?_set] at h
  split_ifs at h with hkj
  · exact .inl ⟨hkj.symm, (Option.some.inj h).symm⟩
  · exact .inr ⟨Ne.symm hkj, h⟩

section

variable (h : Base timeout client) (hs : client.sessions[j]? = some link.session)
include h hs

/-- A step of a session that has a connection afterwards. -/
theorem Base.put (hstep : Stepped timeout j link link') {c : Nat}
    (hplaced : Placed j client link c) (hsome : link'.connection.isSome = true)
    (connections : List ClientConnection) (hat : connections[c]? = some (link'.conn j))
    (hother : ∀ d, d ≠ c → connections[d]? = client.connections[d]?) :
    Base timeout ⟨client.sessions.set j { link'.session with connection := some c },
      connections⟩ := by
  have howned := (hstep.owned (.inl hsome)).position (some c)
  -- what is on the connection before the step is known to the client
  have hold : ∀ k s, k ≠ j → client.sessions[k]? = some s → s.connection = some c →
      Owned timeout k (link.conn j) s := by
    intro k s hk hks hkc
    obtain ⟨connection, hconnection, hk⟩ := h.attached k s c hks hkc
    rcases hplaced with ⟨hc, -⟩ | ⟨hc, -⟩
    · rw [hc] at hconnection
      cases hconnection
      exact hk
    · rw [hc] at hconnection
      cases hconnection
  have hbefore : ∀ k, (link.conn j).Knows k →
      ∃ s, client.sessions[k]? = some s ∧ s.connection = some c := by
    intro k hk
    rcases hplaced with ⟨hc, -⟩ | ⟨-, -, hnew⟩
    · exact h.known hc hk
    · rw [hnew] at hk
      rcases hk with hk | ⟨id, hk⟩ <;> cases hk
  have hapart : ∀ d k s, d ≠ c → client.sessions[k]? = some s → s.connection = some d → k ≠ j := by
    intro d k s hd hks hsd hkj
    rw [hkj, hs] at hks
    cases hks
    rcases hplaced with ⟨-, hc⟩ | ⟨-, hc, -⟩
    · rw [hc] at hsd
      exact hd (Option.some.inj hsd).symm
    · rw [hc] at hsd
      cases hsd
  have hafter : ∀ d (connection : ClientConnection), connections[d]? = some connection →
      ∀ k, connection.Knows k → ∃ s : ClientSession,
        (client.sessions.set j { link'.session with connection := some c })[k]? = some s ∧
          s.connection = some d := by
    intro d connection hd k hk
    by_cases hdc : d = c
    · subst hdc
      rw [hat] at hd
      cases hd
      by_cases hkj : k = j
      · rw [hkj]
        exact ⟨_, List.getElem?_set_self (List.getElem?_eq_some_iff.mp hs).1, rfl⟩
      · rw [List.getElem?_set_ne (Ne.symm hkj)]
        exact hbefore k (hstep.knows hkj hk)
    · rw [hother d hdc] at hd
      obtain ⟨s, hks, hkd⟩ := h.known hd hk
      rw [List.getElem?_set_ne (hapart d k s hdc hks hkd).symm]
      exact ⟨s, hks, hkd⟩
  exact {
    attached := fun k s d hks hkd => by
      rcases sessions_set hks with ⟨rfl, rfl⟩ | ⟨hk, hkept⟩
      · cases hkd
        exact ⟨_, hat, howned⟩
      · by_cases hd : d = c
        · subst hd
          exact ⟨_, hat, (hold k s hk hkept hkd).other hstep hk⟩
        · rw [show (connections[d]?) = client.connections[d]? from hother d hd]
          exact h.attached k s d hkept hkd
    bare := fun k s hks hkd => by
      rcases sessions_set hks with ⟨rfl, rfl⟩ | ⟨-, hks⟩
      · cases hkd
      · exact h.bare k s hks hkd
    nodup := fun d connection hd => by
      by_cases hdc : d = c
      · subst hdc
        rw [hat] at hd
        cases hd
        refine hstep.nodup ?_
        rcases hplaced with ⟨hc, -⟩ | ⟨-, -, hnew⟩
        · exact h.nodup d _ hc
        · rw [hnew]
          exact List.nodup_nil
      · rw [hother d hdc] at hd
        exact h.nodup d connection hd
    queue := fun d connection hd k hk => hafter d connection hd k (.inl hk)
    table := fun d connection id k hd hk => hafter d connection hd k (.inr ⟨id, hk⟩)
    cseq := fun d connection hd a ha b hb sa sb hsa hsb hcseq => by
      by_cases hdc : d = c
      · subst hdc
        rw [hat] at hd
        cases hd
        -- a request of another session is older than what this session has sent
        have holder : ∀ k s, k ≠ j → k ∈ (link'.conn j).inprogressRequestQueue →
            client.sessions[k]? = some s →
            j ∈ (link'.conn j).inprogressRequestQueue → s.cseq ≠ link'.session.cseq := by
          intro k s hk hmem hks hjmem heq
          rw [hstep.members k hk] at hmem
          obtain ⟨s', hks', hkc⟩ := hbefore k (.inl hmem)
          rw [hks] at hks'
          cases hks'
          obtain ⟨-, -, -, m, hm, hlast, -⟩ := (hold k s hk hks hkc).queued hmem
          rcases hstep.own hjmem with ⟨hjold, hsame⟩ | ⟨m', hm', hfresh⟩
          · rcases hplaced with ⟨hc, -⟩ | ⟨-, -, hnew⟩
            · refine hk (h.cseq d _ hc k hmem j hjold s link.session hks hs ?_)
              rw [heq, ClientSession.cseq, ClientSession.cseq, hsame]
            · rw [hnew] at hjold
              cases hjold
          · simp only [ClientSession.cseq, hm, hm', Option.map_some, Option.some.injEq] at heq
            omega
        rcases sessions_set hsa with ⟨haj, rfl⟩ | ⟨haj, hsa⟩ <;>
          rcases sessions_set hsb with ⟨hbj, rfl⟩ | ⟨hbj, hsb⟩
        · rw [haj, hbj]
        · exact absurd hcseq.symm (holder b sb hbj hb hsb (haj ▸ ha))
        · exact absurd hcseq (holder a sa haj ha hsa (hbj ▸ hb))
        · rw [hstep.members a haj] at ha
          rw [hstep.members b hbj] at hb
          rcases hplaced with ⟨hc, -⟩ | ⟨-, -, hnew⟩
          · exact h.cseq d _ hc a ha b hb sa sb hsa hsb hcseq
          · rw [hnew] at ha
            cases ha
      · rw [hother d hdc] at hd
        have hrest : ∀ k ∈ connection.inprogressRequestQueue, ∀ s, (client.sessions.set j
            { link'.session with connection := some c })[k]? = some s →
            client.sessions[k]? = some s := fun k hk s hks => by
          obtain ⟨s', hks', hkd⟩ := h.queue d connection hd k hk
          rwa [List.getElem?_set_ne (hapart d k s' hdc hks' hkd).symm] at hks
        exact h.cseq d connection hd a ha b hb sa sb (hrest a ha sa hsa) (hrest b hb sb hsb) hcseq }

/-- A step of a session that has no connection. -/
theorem Base.put_bare (hbefore : link.session.connection = none)
    (hstep : Stepped timeout j link link') (hstill : link.session.Still)
    (hnone : link'.connection = none) :
    Base timeout { client with sessions := client.sessions.set j link'.session } := by
  have hafter : link'.session.connection = none := hstep.index.trans hbefore
  -- the session is not known to a connection
  have hrest : ∀ (d : Nat) (connection : ClientConnection),
      client.connections[d]? = some connection → ∀ k, connection.Knows k →
        (client.sessions.set j link'.session)[k]? = client.sessions[k]? := by
    intro d connection hd k hk
    refine List.getElem?_set_ne fun hjk => ?_
    obtain ⟨s, hks, hkd⟩ := h.known hd hk
    rw [← hjk, hs] at hks
    cases hks
    rw [hbefore] at hkd
    cases hkd
  exact {
    attached := fun k s d hks hkd => by
      rcases sessions_set hks with ⟨rfl, rfl⟩ | ⟨-, hks⟩
      · rw [hafter] at hkd
        cases hkd
      · exact h.attached k s d hks hkd
    bare := fun k s hks hkd => by
      rcases sessions_set hks with ⟨rfl, rfl⟩ | ⟨-, hks⟩
      · refine ⟨hstep.bare hstill hnone, fun hgone => ?_⟩
        have howned := hstep.owned (.inr hgone)
        rwa [Link.conn, hnone] at howned
      · exact h.bare k s hks hkd
    nodup := h.nodup
    queue := fun d connection hd k hk => by
      rw [hrest d connection hd k (.inl hk)]
      exact h.queue d connection hd k hk
    table := fun d connection id k hd hk => by
      rw [hrest d connection hd k (.inr ⟨id, hk⟩)]
      exact h.table d connection id k hd hk
    cseq := fun d connection hd a ha b hb sa sb hsa hsb hcseq => by
      rw [hrest d connection hd a (.inl ha)] at hsa
      rw [hrest d connection hd b (.inl hb)] at hsb
      exact h.cseq d connection hd a ha b hb sa sb hsa hsb hcseq }

end

/-- What `Client.store` leaves, with the place of the connection. -/
inductive Stored (j : Nat) (client : Client) (link link' : Link) : Client → Prop where
  | put (c : Nat) (connections : List ClientConnection) (placed : Placed j client link c)
      (attached : link'.connection.isSome = true)
      (here : connections[c]? = some (link'.conn j))
      (others : ∀ d, d ≠ c → connections[d]? = client.connections[d]?) :
      Stored j client link link'
        ⟨client.sessions.set j { link'.session with connection := some c }, connections⟩
  | bare (before : link.session.connection = none) (after : link'.connection = none) :
      Stored j client link link' { client with sessions := client.sessions.set j link'.session }

section

variable (h : Base timeout client) (hlink : client.link j = some link)
  (hstep : Stepped timeout j link link')
include h hlink hstep

theorem Base.stored : Stored j client link link' (client.store j link') := by
  rcases h.link_cases hlink with ⟨c, hc, hconnection, hsome, -⟩ | ⟨hc, hnone, hnew⟩
  · have hsome' : link'.connection.isSome = true := hstep.attached (by rw [hsome]; rfl)
    obtain ⟨connection', hconnection'⟩ := Option.isSome_iff_exists.mp hsome'
    have hindex : link'.session.connection = some c := hstep.index.trans hc
    have hat : (client.connections.set c connection')[c]? = some (link'.conn j) := by
      rw [List.getElem?_set_self (List.getElem?_eq_some_iff.mp hconnection).1, Link.conn,
        hconnection']
      rfl
    have hput := Stored.put c (client.connections.set c connection') (.inl ⟨hconnection, hc⟩)
      hsome' hat (fun d hd => List.getElem?_set_ne (Ne.symm hd))
    have hsession : { link'.session with connection := some c } = link'.session := by
      rw [← hindex]
    rw [hsession] at hput
    simp only [Client.store, hindex, hconnection']
    exact hput
  · cases hconnection' : link'.connection with
    | none =>
      rw [Client.store, hstep.index.trans hc, hconnection']
      exact .bare hc hconnection'
    | some connection' =>
      rw [Client.store, hstep.index.trans hc, hconnection']
      refine .put client.connections.length (client.connections ++ [connection'])
        (.inr ⟨by simp, hc, hnew⟩) (by rw [hconnection']; rfl)
        (by rw [List.getElem?_concat_length, Link.conn, hconnection']; rfl) (fun d hd => ?_)
      rcases Nat.lt_or_gt_of_ne hd with hlt | hgt
      · exact List.getElem?_append_left hlt
      · rw [List.getElem?_eq_none (by simp; omega), List.getElem?_eq_none (by omega)]

/-- A step of a session keeps the invariant. -/
theorem Base.store : Base timeout (client.store j link') := by
  have hs := link_session hlink
  have hstored := h.stored hlink hstep
  generalize client.store j link' = client' at hstored ⊢
  cases hstored with
  | put c connections placed attached here others =>
    exact h.put hs hstep placed attached connections here others
  | bare before after => exact h.put_bare hs before hstep (h.bare j _ hs before).1 after

/-- What is known of every session after a step of the session `j`: its own
link is the new one, and the others see what it has done to the connection. -/
theorem Base.forall_links {Q : Nat → Link → Prop}
    (hbefore : ∀ k l, k ≠ j → client.link k = some l → Q k l)
    (hself : ∀ p, (link.session.connection.isSome = true → p = link.session.connection) →
      Q j ⟨link'.connection, { link'.session with connection := p }⟩)
    (hothers : ∀ k s, k ≠ j → Q k ⟨some (link.conn j), s⟩ → Q k ⟨some (link'.conn j), s⟩)
    {k : Nat} {l : Link} (hk : (client.store j link').link k = some l) : Q k l := by
  have hstored := h.stored hlink hstep
  generalize client.store j link' = client' at hstored hk
  obtain ⟨s, hks, rfl⟩ := Option.map_eq_some_iff.mp hk
  have hold : k ≠ j → client.sessions[k]? = some s →
      Q k ⟨s.connection.bind (client.connections[·]?), s⟩ :=
    fun hkj hks => hbefore k _ hkj (link_of_session hks)
  cases hstored with
  | put c connections placed attached here others =>
    rcases sessions_set hks with ⟨rfl, rfl⟩ | ⟨hkj, hkept⟩
    · obtain ⟨connection', hconnection'⟩ := Option.isSome_iff_exists.mp attached
      have hsame : (connections[c]?) = link'.connection := by
        rw [here, Link.conn, hconnection', Option.getD_some]
      simp only [Option.bind_some, hsame]
      refine hself (some c) (fun hsome => ?_)
      rcases placed with ⟨-, hc⟩ | ⟨-, hc, -⟩
      · exact hc.symm
      · rw [hc] at hsome
        cases hsome
    · have hq := hold hkj hkept
      cases hd : s.connection with
      | none => rwa [hd] at hq
      | some d =>
        rw [hd, Option.bind_some] at hq
        rw [Option.bind_some]
        by_cases hdc : d = c
        · subst hdc
          rw [here]
          rcases placed with ⟨hc, -⟩ | ⟨hc, -⟩
          · rw [hc] at hq
            exact hothers k s hkj hq
          · obtain ⟨connection, hconnection, -⟩ := h.attached k s d hkept hd
            rw [hc] at hconnection
            cases hconnection
        · rwa [others d hdc]
  | bare before after =>
    rcases sessions_set hks with ⟨rfl, rfl⟩ | ⟨hkj, hks⟩
    · have hindex : link'.session.connection = none := hstep.index.trans before
      have hown := hself none (fun hsome => by rw [before] at hsome; cases hsome)
      rw [after] at hown
      rw [hindex]
      rwa [← hindex] at hown
    · exact hold hkj hks

end

end Base

end UniMrcp.Rtsp
