import UniMrcp.Rtsp.Client

/-!
# What a session does to its connection

Every handler of a session ends in one of two ways: the request in progress
stays, or a request has been sent, with a CSeq that is new on the connection.
`Moved` says this, and that nothing else on the connection changes for the
other sessions.

A session without a connection is about to get a fresh one, so `Link.conn`
takes the fresh one for it.
-/

namespace UniMrcp.Rtsp

open UniMrcp.Lib UniMrcp.Apt

/-- The connection of a session, or the one that it would create. -/
def Link.conn (j : Nat) (link : Link) : ClientConnection :=
  link.connection.getD (rtspClientConnectionCreate j)

/-- What a session does to its queue: nothing, or it has sent a request. -/
inductive QueueMove (timeout j : Nat) (connection : ClientConnection) (session : ClientSession)
    (connection' : ClientConnection) (session' : ClientSession) : Prop where
  | kept (queue : connection'.inprogressRequestQueue = connection.inprogressRequestQueue)
      (active : session'.activeRequest = session.activeRequest)
      (timer : session'.requestTimer = session.requestTimer)
  | sent (message : Message) (idle : session.activeRequest = none)
      (queue : connection'.inprogressRequestQueue = connection.inprogressRequestQueue ++ [j])
      (active : session'.activeRequest = some message)
      (timer : session'.requestTimer = (session.requestTimer || timeout != 0))
      (fresh : connection.lastCseq < message.header.cseq)
      (last : message.header.cseq ≤ connection'.lastCseq)
      (check : rtspHeaderPropertyCheck message.header .cseq = true)
      (sock : connection.sock = true)

/-- The effect of a handler of the session `j` on its connection. -/
structure Moved (timeout j : Nat) (link link' : Link) : Prop where
  grows : link.session.log <+: link'.session.log
  term : link.session.termState = .inprogress → link'.session.termState = .inprogress
  index : link'.session.connection = link.session.connection
  attached : link.connection.isSome = true → link'.connection.isSome = true
  bare : link'.connection = none → link'.session.activeRequest = link.session.activeRequest ∧
    link'.session.requestTimer = link.session.requestTimer
  sock : (link'.conn j).sock = (link.conn j).sock
  cseq : (link.conn j).lastCseq ≤ (link'.conn j).lastCseq
  queue : QueueMove timeout j (link.conn j) link.session (link'.conn j) link'.session
  handles : ∀ k, k ∈ (link.conn j).handleTable → k ∈ (link'.conn j).handleTable
  others : ∀ id k, k ≠ j → (link'.conn j).sessionTable.lookup id = some k →
    (link.conn j).sessionTable.lookup id = some k

namespace Moved

variable {timeout j : Nat} {link link' link'' : Link}

/-- Nothing happens to the connection, or only the table of the session's id
changes. -/
theorem of_table {table : AList (fun _ : Bytes => Nat)}
    (hgrows : link.session.log <+: link'.session.log)
    (hterm : link.session.termState = .inprogress → link'.session.termState = .inprogress)
    (hindex : link'.session.connection = link.session.connection)
    (hattached : link'.connection.isSome = link.connection.isSome)
    (hconn : link'.conn j = { link.conn j with sessionTable := table })
    (hactive : link'.session.activeRequest = link.session.activeRequest)
    (htimer : link'.session.requestTimer = link.session.requestTimer)
    (hothers : ∀ id k, k ≠ j → table.lookup id = some k →
      (link.conn j).sessionTable.lookup id = some k) : Moved timeout j link link' where
  grows := hgrows
  term := hterm
  index := hindex
  attached := fun h => hattached.trans h
  bare := fun _ => ⟨hactive, htimer⟩
  sock := by rw [hconn]
  cseq := by rw [hconn]
  queue := .kept (by rw [hconn]) hactive htimer
  handles := fun k hk => by rw [hconn]; exact hk
  others := fun id k hk h => hothers id k hk (by rwa [hconn] at h)

/-- Only the session changes. -/
theorem of_session {session : ClientSession} (hgrows : link.session.log <+: session.log)
    (hterm : link.session.termState = .inprogress → session.termState = .inprogress)
    (hindex : session.connection = link.session.connection)
    (hactive : session.activeRequest = link.session.activeRequest)
    (htimer : session.requestTimer = link.session.requestTimer) :
    Moved timeout j link ⟨link.connection, session⟩ :=
  of_table hgrows hterm hindex rfl rfl hactive htimer (fun _ _ _ h => h)

theorem refl (link : Link) : Moved timeout j link link :=
  of_session List.prefix_rfl id rfl rfl rfl

theorem trans (h : Moved timeout j link link') (h' : Moved timeout j link' link'') :
    Moved timeout j link link'' where
  grows := h.grows.trans h'.grows
  term := fun hterm => h'.term (h.term hterm)
  index := h'.index.trans h.index
  attached := fun hl => h'.attached (h.attached hl)
  bare := fun hnone => by
    have hnone' : link'.connection = none := by
      by_contra hsome
      have hsome' := h'.attached (Option.isSome_iff_ne_none.mpr hsome)
      rw [hnone] at hsome'
      cases hsome'
    exact ⟨(h'.bare hnone).1.trans (h.bare hnone').1, (h'.bare hnone).2.trans (h.bare hnone').2⟩
  sock := h'.sock.trans h.sock
  cseq := h.cseq.trans h'.cseq
  queue := by
    cases h.queue with
    | kept queue active timer =>
      cases h'.queue with
      | kept queue' active' timer' =>
        exact .kept (queue'.trans queue) (active'.trans active) (timer'.trans timer)
      | sent message idle' queue' active' timer' fresh' last' check' sock' =>
        exact .sent message (active ▸ idle') (by rw [queue', queue]) active' (timer ▸ timer')
          (Nat.lt_of_le_of_lt h.cseq fresh') last' check' (h.sock ▸ sock')
    | sent message idle queue active timer fresh last check sock =>
      cases h'.queue with
      | kept queue' active' timer' =>
        exact .sent message idle (queue'.trans queue) (active'.trans active) (timer'.trans timer)
          fresh (last.trans h'.cseq) check sock
      | sent _ idle' =>
        rw [active] at idle'
        cases idle'
  handles := fun k hk => h'.handles k (h.handles k hk)
  others := fun id k hk hid => h.others id k hk (h'.others id k hk hid)

end Moved

/-! ## The tables -/

/-- The keys of the resources are their names, and a session in the table of
its connection has resources. -/
structure Tables (j : Nat) (connection : ClientConnection) (session : ClientSession) : Prop where
  named : ∀ e ∈ session.resourceTable.entries, e.2.resourceKey = e.1
  table : ∀ id, connection.sessionTable.lookup id = some j →
    session.id = id ∧ session.resourceTable.entries ≠ []

section Tables

variable {j : Nat} {link : Link} {request response : Message}

theorem Tables.of_eq {connection connection' : ClientConnection} {session session' : ClientSession}
    (h : Tables j connection session) (htable : connection'.sessionTable = connection.sessionTable)
    (hid : session'.id = session.id) (hresources : session'.resourceTable = session.resourceTable) :
    Tables j connection' session' :=
  ⟨by rw [hresources]; exact h.named, by rw [htable, hid, hresources]; exact h.table⟩

/-- What a response does to the tables. -/
structure Updated (j : Nat) (link : Link) (link' : Link) : Prop where
  shape : ∃ table id resources, link'.conn j = { link.conn j with sessionTable := table } ∧
    link'.session = { link.session with id := id, resourceTable := resources }
  attached : link'.connection.isSome = link.connection.isSome
  tables : Tables j (link'.conn j) link'.session
  others : ∀ id k, k ≠ j → (link'.conn j).sessionTable.lookup id = some k →
    (link.conn j).sessionTable.lookup id = some k

section

variable (h : Tables j (link.conn j) link.session)
include h

theorem resourceAdd_updated : Updated j link (resourceAdd j link request response) := by
  have hnamed : ∀ e ∈ (link.session.resourceTable.insert request.resourceKey request).entries,
      e.2.resourceKey = e.1 := by
    intro e he
    rcases List.mem_cons.mp he with rfl | he
    · rfl
    · exact h.named e ((List.kerase_sublist _ _).subset he)
  have hne : (link.session.resourceTable.insert request.resourceKey request).entries ≠ [] := by
    exact List.cons_ne_nil _ _
  unfold resourceAdd
  cases hfirst : (link.session.resourceTable.entries.isEmpty &&
      rtspHeaderPropertyCheck response.header .sessionId) with
  | false =>
    exact ⟨⟨_, _, _, rfl, rfl⟩, rfl, ⟨hnamed, fun id hid => ⟨(h.table id hid).1, hne⟩⟩,
      fun _ _ _ hid => hid⟩
  | true =>
    simp only [if_true]
    rw [Bool.and_eq_true, List.isEmpty_iff] at hfirst
    -- the session was not in the table before
    have hnone : ∀ id, (link.conn j).sessionTable.lookup id ≠ some j := fun id hid =>
      (h.table id hid).2 hfirst.1
    obtain ⟨connection, session⟩ := link
    cases connection with
    | none =>
      refine ⟨⟨_, _, _, rfl, rfl⟩, rfl, ⟨hnamed, fun id hid => ?_⟩, fun _ _ _ hid => hid⟩
      cases hid
    | some connection =>
      refine ⟨⟨_, _, _, rfl, rfl⟩, rfl, ⟨hnamed, fun id hid => ?_⟩, fun id k hk hid => ?_⟩
      · rcases lookup_of_insert hid with ⟨hnew, -⟩ | hid
        · exact ⟨hnew.symm, hne⟩
        · exact absurd hid (hnone id)
      · exact (lookup_of_insert hid).resolve_left fun hown => hk hown.2

theorem resourceRemove_updated : Updated j link (resourceRemove link request) := by
  have hnamed : ∀ e ∈ (link.session.resourceTable.erase request.resourceKey).entries,
      e.2.resourceKey = e.1 := fun e he =>
    h.named e ((List.kerase_sublist _ _).subset he)
  unfold resourceRemove
  dsimp only
  split
  · obtain ⟨connection, session⟩ := link
    cases connection with
    | none =>
      refine ⟨⟨_, _, _, rfl, rfl⟩, rfl, ⟨hnamed, fun id hid => ?_⟩, fun _ _ _ hid => hid⟩
      cases hid
    | some connection =>
      refine ⟨⟨_, _, _, rfl, rfl⟩, rfl, ⟨hnamed, fun id hid => ?_⟩,
        fun id k hk hid => (lookup_of_erase hid).2⟩
      -- the only entry of the session was that of its id
      obtain ⟨hown, hid⟩ := lookup_of_erase hid
      exact absurd (h.table id hid).1.symm hown
  · rename_i hmore
    exact ⟨⟨_, _, _, rfl, rfl⟩, rfl,
      ⟨hnamed, fun id hid => ⟨(h.table id hid).1, by simpa using hmore⟩⟩, fun _ _ _ hid => hid⟩

theorem resourceUpdate_updated : Updated j link (resourceUpdate j link request response) := by
  unfold resourceUpdate
  split_ifs
  · exact resourceAdd_updated h
  · exact resourceRemove_updated h
  · exact ⟨⟨_, _, _, rfl, rfl⟩, rfl, h, fun _ _ _ hid => hid⟩

end

end Tables

/-! ## The history of a session -/

/-- What the application has put into a request. -/
def Message.content (message : Message) : MethodId × Option Bytes × Bytes :=
  (message.methodId, message.resourceName, message.body)

theorem resourceKey_of_content {m m' : Message} (h : m.content = m'.content) :
    m.resourceKey = m'.resourceKey := by
  simp only [Message.content, Prod.mk.injEq] at h
  rw [Message.resourceKey, Message.resourceKey, h.2.1]

@[simp] def Note.submission : Note → Option Message
  | .request message => some message
  | .response _ _ | .event _ | .terminateEvent | .terminateRequest | .terminateResponse => none

@[simp] def Note.answer : Note → Option Message
  | .response sent _ => some sent
  | .request _ | .event _ | .terminateEvent | .terminateRequest | .terminateResponse => none

/-- The requests that have been submitted while the session was not
terminating. -/
def ClientSession.submitted (session : ClientSession) : List Message :=
  session.log.filterMap Note.submission

/-- The requests that `on_session_response` has been called for. -/
def ClientSession.responded (session : ClientSession) : List Message :=
  session.log.filterMap Note.answer

/-- The session does not respond to requests any more. -/
def ClientSession.terminating (session : ClientSession) : Bool :=
  session.termState == .inprogress || session.gone

/-- The requests that are still to be responded to, in their order. -/
def ClientSession.awaiting (session : ClientSession) : List Message :=
  if session.terminating then []
  else session.activeRequest.toList ++ session.pendingRequestQueue

/-- Every request is responded to, in hand, active or pending. -/
def Accounts (session : ClientSession) (held : List Message) : Prop :=
  session.submitted.map Message.content = (session.responded ++ if session.terminating then []
    else held ++ session.activeRequest.toList ++ session.pendingRequestQueue).map Message.content

section Accounts

variable {session session' : ClientSession} {held : List Message} {request response : Message}

theorem accounts_iff : Accounts session [] ↔
    session.submitted.map Message.content =
      (session.responded ++ session.awaiting).map Message.content := by
  rw [Accounts, ClientSession.awaiting, List.nil_append]

theorem Accounts.of_eq (h : Accounts session held) (hlog : session'.log = session.log)
    (hterm : session'.termState = session.termState)
    (hwaiting : held' ++ session'.activeRequest.toList ++ session'.pendingRequestQueue =
      held ++ session.activeRequest.toList ++ session.pendingRequestQueue) :
    Accounts session' held' := by
  have hterminating : session'.terminating = session.terminating := by
    rw [ClientSession.terminating, ClientSession.terminating, ClientSession.gone,
      ClientSession.gone, hterm, hlog]
  rw [Accounts, ClientSession.submitted, ClientSession.responded, hlog, hterminating, hwaiting]
  exact h

/-- The request in hand may be the one that is sent. -/
theorem Accounts.content {m m' : Message} (h : Accounts session (m :: held))
    (hm : m'.content = m.content) : Accounts session (m' :: held) := by
  unfold Accounts at h ⊢
  rw [h]
  split
  · rfl
  · simp [hm]

theorem note_gone (session : ClientSession) {n : Note} (hn : n ≠ .terminateResponse) :
    (session.note n).gone = session.gone := by
  simp [ClientSession.gone, ClientSession.note, hn.symm]

/-- The request in hand is responded to. -/
theorem Accounts.raise (h : Accounts session (request :: held)) (hlive : session.gone = false) :
    Accounts (responseRaise session request response) held := by
  unfold responseRaise
  split
  · rename_i hterm
    simp only [Accounts, ClientSession.terminating, hterm] at h ⊢
    exact h
  · rename_i hterm
    have hbefore : session.terminating = false := by
      simp [ClientSession.terminating, hterm, hlive]
    have hafter : (session.note (.response request response)).terminating = false := by
      rw [← hbefore, ClientSession.terminating,
        note_gone session (by simp)]
      rfl
    unfold Accounts at h ⊢
    rw [hbefore] at h
    rw [hafter]
    simpa [ClientSession.submitted, ClientSession.responded, ClientSession.note,
      List.filterMap_cons] using h

end Accounts

/-! ## The handlers -/

/-- What holds of a session all through its handlers; `held` is the request in
hand, and `full` says that no request has been lost before. -/
structure Sound (full : Prop) (j : Nat) (held : List Message) (link : Link) : Prop where
  tables : Tables j (link.conn j) link.session
  accounts : full → Accounts link.session held
  live : link.session.gone = false

/-- The handler leaves the requests alone. -/
structure Unmoved (link link' : Link) : Prop where
  active : link'.session.activeRequest = link.session.activeRequest
  pending : link'.session.pendingRequestQueue = link.session.pendingRequestQueue
  term : link'.session.termState = link.session.termState

section Handlers

variable {full : Prop} {net : Net} {timeout j : Nat} {link : Link} {held : List Message}
  {request response message : Message}

theorem responseRaise_fields (session : ClientSession) (request response : Message) :
    ∃ log, responseRaise session request response = { session with log := log } ∧
      session.log <+: log ∧ (responseRaise session request response).gone = session.gone := by
  unfold responseRaise
  split
  · exact ⟨session.log, rfl, List.prefix_rfl, rfl⟩
  · exact ⟨_, rfl, List.prefix_append _ _, note_gone session (by simp)⟩

/-- A response changes the tables and the log. -/
theorem responseProcess_frame (timeout : Nat) (link : Link) (request response : Message)
    (h : Tables j (link.conn j) link.session) :
    let link' := rtspClientSessionResponseProcess j link request response
    Tables j (link'.conn j) link'.session ∧ Moved timeout j link link' ∧ Unmoved link link' ∧
      link'.session.gone = link.session.gone := by
  have hupdated : Updated j link (resourceUpdate j link request response) :=
    resourceUpdate_updated h
  unfold rtspClientSessionResponseProcess
  dsimp only
  generalize resourceUpdate j link request response = link1 at hupdated ⊢
  obtain ⟨connection1, session1⟩ := link1
  obtain ⟨⟨table, id, resources, hconn, ⟨⟩⟩, hattached, htables, hothers⟩ := hupdated
  obtain ⟨log, hraise, hgrows, hgone⟩ := responseRaise_fields
    { link.session with id := id, resourceTable := resources } request response
  rw [hraise] at hgone ⊢
  refine ⟨htables.of_eq rfl rfl rfl, ?_, ⟨rfl, rfl, rfl⟩, hgone⟩
  refine Moved.of_table hgrows (fun h => h) rfl hattached hconn rfl rfl
    (fun id k hk hid => hothers id k hk ?_)
  rw [hconn]
  exact hid

/-- A response is passed on to the application. -/
theorem responseProcess_sound (timeout : Nat) (response : Message)
    (h : Sound full j (request :: held) link) :
    let link' := rtspClientSessionResponseProcess j link request response
    Sound full j held link' ∧ Moved timeout j link link' ∧ Unmoved link link' := by
  obtain ⟨htables, hmoved, hunmoved, hgone⟩ :=
    responseProcess_frame timeout link request response h.tables
  refine ⟨⟨htables, fun hfull => ?_, hgone.trans h.live⟩, hmoved, hunmoved⟩
  have hupdated : Updated j link (resourceUpdate j link request response) :=
    resourceUpdate_updated h.tables
  obtain ⟨table, id, resources, -, hsession⟩ := hupdated.shape
  dsimp only [rtspClientSessionResponseProcess]
  rw [hsession]
  exact Accounts.raise ((h.accounts hfull).of_eq rfl rfl rfl) h.live

theorem setUrl_content (message : Message) (url : Bytes) :
    (message.setUrl url).content = message.content := by
  obtain ⟨startLine, header, body⟩ := message
  cases startLine <;> rfl

theorem outgoing_content (session : ClientSession) (cseq : Nat) (message : Message) :
    (outgoing session cseq message).content = message.content := by
  unfold outgoing
  split
  · exact setUrl_content message _
  · exact setUrl_content message _

/-- A request is sent, or it cannot be sent. -/
inductive Attempted (timeout j : Nat) (link : Link) (message : Message) : Attempt → Prop where
  | sent {attempt : Attempt} (hsent : attempt.sent = true)
      (session : attempt.link.session = { link.session with
        activeRequest := some attempt.message
        requestTimer := link.session.requestTimer || timeout != 0 }) :
      Attempted timeout j link message attempt
  | failed {attempt : Attempt} (hsent : attempt.sent = false)
      (session : attempt.link.session = link.session) : Attempted timeout j link message attempt

/-- `rtsp_client_session_request_process`, for a session without a request in
progress. -/
theorem requestProcess_spec (net : Net) (timeout j : Nat) (link : Link) (message : Message)
    (hidle : link.session.activeRequest = none) :
    let attempt := rtspClientSessionRequestProcess net timeout j link message
    Attempted timeout j link message attempt ∧ attempt.message.content = message.content ∧
      Moved timeout j link attempt.link ∧
      (attempt.link.conn j).sessionTable = (link.conn j).sessionTable ∧
      (attempt.link.conn j).handleTable = (link.conn j).handleTable := by
  obtain ⟨connection, session⟩ := link
  unfold rtspClientSessionRequestProcess
  dsimp only
  split
  · exact ⟨.failed rfl rfl, rfl, .refl _, rfl, rfl⟩
  · rename_i connection1 hconn
    obtain rfl : (⟨connection, session⟩ : Link).conn j = connection1 := by
      cases connection with
      | some connection => exact Option.some.inj hconn
      | none =>
        cases hconnect : net.connect with
        | false => simp [hconnect] at hconn
        | true =>
          simp only [hconnect, if_true, Option.none_or, Option.some.injEq] at hconn
          exact hconn
    split
    · rename_i hsend
      rw [Bool.and_eq_true] at hsend
      refine ⟨.sent rfl rfl, outgoing_content session _ message, ?_, rfl, rfl⟩
      exact {
        grows := List.prefix_rfl
        term := id
        index := rfl
        attached := fun _ => rfl
        bare := fun hnone => by cases hnone
        sock := rfl
        cseq := Nat.le_succ _
        queue := by
          refine .sent (outgoing session _ message) hidle rfl rfl rfl ?_ ?_ (setCseq_check _ _)
            hsend.1
          · rw [outgoing, setCseq_cseq]
            exact Nat.lt_succ_self _
          · rw [outgoing, setCseq_cseq]
            exact Nat.le_refl _
        handles := fun _ hk => hk
        others := fun _ _ _ hid => hid }
    · refine ⟨.failed rfl rfl, outgoing_content session _ message, ?_, rfl, rfl⟩
      exact {
        grows := List.prefix_rfl
        term := id
        index := rfl
        attached := fun _ => rfl
        bare := fun _ => ⟨rfl, rfl⟩
        sock := rfl
        cseq := Nat.le_succ _
        queue := .kept rfl rfl rfl
        handles := fun _ hk => hk
        others := fun _ _ _ hid => hid }

/-- The request in hand is sent, or responded to with an error. -/
theorem attempt_sound (net : Net) (timeout : Nat) (h : Sound full j [request] link)
    (hidle : link.session.activeRequest = none) :
    let attempt := rtspClientSessionRequestProcess net timeout j link request
    let link' := if attempt.sent then attempt.link else errorRespond j attempt.link attempt.message
    Sound full j [] link' ∧ Moved timeout j link link' ∧
      link'.session.activeRequest = (if attempt.sent then some attempt.message else none) ∧
      link'.session.pendingRequestQueue = link.session.pendingRequestQueue ∧
      link'.session.termState = link.session.termState := by
  obtain ⟨hattempt, hcontent, hmoved, htable, -⟩ :=
    requestProcess_spec net timeout j link request hidle
  generalize rtspClientSessionRequestProcess net timeout j link request = attempt
    at hattempt hcontent hmoved htable ⊢
  dsimp only
  have haccounts := fun hfull => (h.accounts hfull).content hcontent
  obtain ⟨⟨connection1, session1⟩, message, sent⟩ := attempt
  cases hattempt with
  | sent hsent hsession =>
    dsimp only at hsent hsession
    subst hsent hsession
    refine ⟨⟨h.tables.of_eq htable rfl rfl, fun hfull => ?_, h.live⟩, hmoved, rfl, rfl, rfl⟩
    exact (haccounts hfull).of_eq rfl rfl (by simp [hidle])
  | failed hsent hsession =>
    dsimp only at hsent hsession
    subst hsent hsession
    have hsound : Sound full j [message] ⟨connection1, link.session⟩ :=
      ⟨h.tables.of_eq htable rfl rfl, haccounts, h.live⟩
    obtain ⟨hsound', hmoved', hunmoved⟩ := responseProcess_sound timeout
      (rtspResponseCreate message statusCodeInternalServerError
        reasonPhraseInternalServerError) hsound
    exact ⟨hsound', hmoved.trans hmoved', hunmoved.active.trans hidle, hunmoved.pending,
      hunmoved.term⟩

/-- A session without a request in progress has no pending ones. -/
def ClientSession.Idle (session : ClientSession) : Prop :=
  session.activeRequest = none → session.pendingRequestQueue = []

section

variable (net : Net) (timeout : Nat)

/-- The pending queue is processed; the result says whether a request is in
progress. -/
theorem pendingLoop_sound (queue : List Message) {link : Link}
    (h : Sound full j queue { link with session :=
      { link.session with pendingRequestQueue := [] } })
    (hidle : link.session.activeRequest = none) : let result := pendingLoop net timeout j queue link
    Sound full j [] result.1 ∧ Moved timeout j link result.1 ∧ result.1.session.Idle ∧
      result.1.session.activeRequest.isSome = result.2 ∧
      result.1.session.termState = link.session.termState := by
  induction queue generalizing link with
  | nil =>
    have hmoved : Moved timeout j link
      ⟨link.connection, { link.session with pendingRequestQueue := [] }⟩ :=
      .of_session List.prefix_rfl id rfl rfl rfl
    exact ⟨h, hmoved, fun _ => rfl, by simp [pendingLoop, hidle], rfl⟩
  | cons request queue ih =>
    have hstart : Moved timeout j link
        ⟨link.connection, { link.session with pendingRequestQueue := queue }⟩ :=
      .of_session List.prefix_rfl id rfl rfl rfl
    have hheld : Sound full j [request]
        ⟨link.connection, { link.session with pendingRequestQueue := queue }⟩ :=
      ⟨h.tables.of_eq rfl rfl rfl,
        fun hfull => (h.accounts hfull).of_eq rfl rfl (by simp [hidle]), h.live⟩
    obtain ⟨hsound, hmoved, hactive, hpending, hterm⟩ := attempt_sound net timeout hheld hidle
    dsimp only [pendingLoop]
    generalize rtspClientSessionRequestProcess net timeout j _ request = attempt
      at hsound hmoved hactive hpending hterm ⊢
    cases hsent : attempt.sent with
    | true =>
      simp only [hsent, if_true] at hsound hmoved hactive hterm ⊢
      refine ⟨hsound, hstart.trans hmoved, fun hnone => ?_, by rw [hactive]; rfl, hterm⟩
      rw [hnone] at hactive
      cases hactive
    | false =>
      simp only [hsent, Bool.false_eq_true, if_false] at hsound hmoved hactive hpending hterm ⊢
      have hnext : Sound full j queue { errorRespond j attempt.link attempt.message with
          session := { (errorRespond j attempt.link attempt.message).session with
            pendingRequestQueue := [] } } :=
        ⟨hsound.tables.of_eq rfl rfl rfl,
          fun hfull => (hsound.accounts hfull).of_eq rfl rfl (by simp [hactive, hpending]),
          hsound.live⟩
      obtain ⟨hsound', hmoved', hrest⟩ := ih hnext hactive
      refine ⟨hsound', (hstart.trans hmoved).trans hmoved', hrest.1, hrest.2.1, ?_⟩
      exact hrest.2.2.trans hterm

theorem pendingRequestsProcess_sound (h : Sound full j [] link)
    (hidle : link.session.activeRequest = none) :
    let result := rtspClientSessionPendingRequestsProcess net timeout j link
    Sound full j [] result.1 ∧ Moved timeout j link result.1 ∧ result.1.session.Idle ∧
      result.1.session.activeRequest.isSome = result.2 ∧
      result.1.session.termState = link.session.termState :=
  pendingLoop_sound net timeout link.session.pendingRequestQueue
    ⟨h.tables.of_eq rfl rfl rfl, fun hfull => (h.accounts hfull).of_eq rfl rfl (by simp [hidle]),
      h.live⟩ hidle

/-- A request goes to the pending queue, or it is sent, or responded to with
an error. -/
theorem messageProcess_sound (link : Link) (hlive : link.session.gone = false)
    (htables : Tables j (link.conn j) link.session)
    (haccounts : full → Accounts { link.session with
      pendingRequestQueue := link.session.pendingRequestQueue ++ [message] } [])
    (hidle : link.session.Idle) :
    let link' := rtspClientSessionMessageProcess net timeout j link message
    Sound full j [] link' ∧ Moved timeout j link link' ∧ link'.session.Idle ∧
      link'.session.termState = link.session.termState := by
  unfold rtspClientSessionMessageProcess
  cases hactive : link.session.activeRequest with
  | some active =>
    simp only [Option.isSome_some, if_true]
    refine ⟨⟨htables.of_eq rfl rfl rfl, haccounts, hlive⟩,
      .of_session List.prefix_rfl id rfl rfl rfl,
      fun hnone => ?_, trivial⟩
    rw [hactive] at hnone
    cases hnone
  | none =>
    have hheld : Sound full j [message] link :=
      ⟨htables, fun hfull => (haccounts hfull).of_eq rfl rfl (by simp [hactive, hidle hactive]),
        hlive⟩
    obtain ⟨hsound, hmoved, -, hpending, hterm⟩ := attempt_sound net timeout hheld hactive
    exact ⟨hsound, hmoved, fun _ => hpending.trans (hidle hactive), hterm⟩

end

/-! ## The teardown -/

/-- The requests that the session has not finished. -/
def ClientSession.waiting (session : ClientSession) : List Message :=
  session.activeRequest.toList ++ session.pendingRequestQueue

/-- The accounts of a session that is terminating do not depend on what it
waits for. -/
theorem Accounts.terminating {session : ClientSession} (h : Accounts session held)
    (hterm : session.termState = .inprogress) (active : Option Message)
    (queue held' : List Message) :
    Accounts { session with activeRequest := active, pendingRequestQueue := queue } held' := by
  simp only [Accounts, ClientSession.terminating, hterm] at h ⊢
  exact h

/-- A TEARDOWN that cannot be sent removes the resource at once. -/
theorem errorRespond_teardown (hm : message.methodId = .teardown) :
    (errorRespond j link message).session.resourceTable =
      link.session.resourceTable.erase message.resourceKey := by
  unfold errorRespond rtspClientSessionResponseProcess resourceUpdate
  simp only [hm, reduceCtorEq, false_and, if_false, if_true]
  obtain ⟨log, hraise, -, -⟩ := responseRaise_fields (resourceRemove link message).session message
    (rtspResponseCreate message statusCodeInternalServerError reasonPhraseInternalServerError)
  rw [hraise]
  rfl

/-- A TEARDOWN waits behind the others, or it has removed its resource. -/
theorem messageProcess_teardown (net : Net) (timeout : Nat) (message : Message)
    (hm : message.methodId = .teardown)
    (hsound : Sound full j [message] link) (hidle : link.session.Idle) :
    let session' := (rtspClientSessionMessageProcess net timeout j link message).session
    (∃ m', m'.content = message.content ∧ session'.waiting = link.session.waiting ++ [m'] ∧
      session'.resourceTable = link.session.resourceTable) ∨
    (link.session.waiting = [] ∧ session'.waiting = [] ∧
      session'.resourceTable = link.session.resourceTable.erase message.resourceKey) := by
  unfold rtspClientSessionMessageProcess ClientSession.waiting
  cases hactive : link.session.activeRequest with
  | some active =>
    simp only [Option.isSome_some, if_true]
    exact .inl ⟨message, rfl, by simp [hactive], trivial⟩
  | none =>
    simp only [Option.isSome_none, Bool.false_eq_true, if_false, hidle hactive]
    obtain ⟨-, -, hactive', hpending', -⟩ := attempt_sound net timeout hsound hactive
    obtain ⟨hattempt, hcontent, -⟩ := requestProcess_spec net timeout j link message hactive
    generalize rtspClientSessionRequestProcess net timeout j link message = attempt
      at hattempt hcontent hactive' hpending' ⊢
    cases hattempt with
    | sent hsent hsession =>
      simp only [hsent, if_true] at hactive' hpending' ⊢
      refine .inl ⟨attempt.message, hcontent, ?_, by rw [hsession]⟩
      rw [hactive', hpending', hidle hactive]
      rfl
    | failed hsent hsession =>
      simp only [hsent, Bool.false_eq_true, if_false] at hactive' hpending' ⊢
      refine .inr ⟨rfl, ?_, ?_⟩
      · rw [hactive', hpending', hidle hactive]
        rfl
      · have hteardown : attempt.message.methodId = .teardown := by
          simp only [Message.content, Prod.mk.injEq] at hcontent
          exact hcontent.1.trans hm
        rw [errorRespond_teardown hteardown, hsession, resourceKey_of_content hcontent]

/-- The loop of the teardown. -/
def teardownLoop (net : Net) (timeout j : Nat) (setups : List Message) (link : Link) : Link :=
  setups.foldl (fun link setup => rtspClientSessionMessageProcess net timeout j link
    (rtspRequestCreate .teardown setup.resourceName)) link

/-- The TEARDOWN for a resource that has been set up. -/
def IsTeardown (message setup : Message) : Prop :=
  message.methodId = .teardown ∧ message.resourceKey = setup.resourceKey

theorem isTeardown_of_content {m setup : Message}
    (h : m.content = (rtspRequestCreate .teardown setup.resourceName).content) :
    IsTeardown m setup := by
  have hkey := resourceKey_of_content h
  simp only [Message.content, Prod.mk.injEq] at h
  exact ⟨h.1, hkey⟩

/-- What the loop of the teardown leaves. -/
structure TornDown (full : Prop) (timeout j : Nat) (setups : List Message) (link link' : Link) :
    Prop where
  sound : Sound full j [] link'
  moved : Moved timeout j link link'
  idle : link'.session.Idle
  term : link'.session.termState = .inprogress
  /-- the resource of a TEARDOWN that has been sent is still there -/
  left : link'.session.waiting ≠ [] → link'.session.resourceTable.entries ≠ []
  less : ∀ key, key ∈ link'.session.resourceTable → key ∈ link.session.resourceTable
  /-- every resource that is left has a TEARDOWN -/
  covered : ∀ setup ∈ setups, setup.resourceKey ∈ link'.session.resourceTable →
    ∃ m ∈ link'.session.waiting, IsTeardown m setup
  kept : ∀ m ∈ link.session.waiting, m ∈ link'.session.waiting
  count : link'.session.waiting.length ≤ link.session.waiting.length + setups.length
  teardowns : ∀ m ∈ link'.session.waiting,
    m ∈ link.session.waiting ∨ m.methodId = .teardown

theorem teardownLoop_tornDown (net : Net) (timeout : Nat) (setups : List Message) {link : Link}
    (hsound : Sound full j [] link) (hidle : link.session.Idle)
    (hterm : link.session.termState = .inprogress)
    (hnodup : (setups.map Message.resourceKey).Nodup)
    (hin : ∀ setup ∈ setups, setup.resourceKey ∈ link.session.resourceTable)
    (hleft : link.session.waiting ≠ [] → link.session.resourceTable.entries ≠ []) :
    TornDown full timeout j setups link (teardownLoop net timeout j setups link) := by
  induction setups generalizing link with
  | nil =>
    exact ⟨hsound, .refl link, hidle, hterm, hleft, fun _ h => h,
      fun _ h => absurd h List.not_mem_nil, fun _ h => h, Nat.le_refl _, fun _ h => .inl h⟩
  | cons setup setups ih =>
    have hheld : Sound full j [rtspRequestCreate .teardown setup.resourceName] link :=
      ⟨hsound.tables, fun hfull => (hsound.accounts hfull).terminating hterm _ _ _, hsound.live⟩
    obtain ⟨hsound1, hmoved1, hidle1, hterm1⟩ := messageProcess_sound net timeout link hsound.live
      hsound.tables (fun hfull => (hsound.accounts hfull).terminating hterm
        link.session.activeRequest
        (link.session.pendingRequestQueue ++
          [rtspRequestCreate .teardown setup.resourceName]) [])
      hidle
    have hcases := messageProcess_teardown net timeout
      (rtspRequestCreate .teardown setup.resourceName) rfl hheld hidle
    rw [teardownLoop, List.foldl_cons]
    generalize rtspClientSessionMessageProcess net timeout j link
      (rtspRequestCreate .teardown setup.resourceName) = link1
      at hsound1 hmoved1 hidle1 hterm1 hcases ⊢
    rw [List.map_cons, List.nodup_cons] at hnodup
    have hkey : setup.resourceKey ∈ link.session.resourceTable := hin setup (by simp)
    rcases hcases with ⟨m, hcontent, hwaiting, htable⟩ | ⟨hnil, hnil1, htable⟩
    · have hteardown : IsTeardown m setup := isTeardown_of_content hcontent
      have hne : link1.session.resourceTable.entries ≠ [] := fun hempty => by
        rw [htable] at hempty
        rw [AList.mem_keys, AList.keys, hempty] at hkey
        cases hkey
      have hrest := ih hsound1 hidle1 (hterm1.trans hterm) hnodup.2
        (fun s hs => htable ▸ hin s (by simp [hs])) (fun _ => hne)
      exact {
        hrest with
        moved := hmoved1.trans hrest.moved
        less := fun key h => htable ▸ hrest.less key h
        covered := fun s hs h => by
          rcases List.mem_cons.mp hs with rfl | hs
          · exact ⟨m, hrest.kept m (by simp [hwaiting]), hteardown⟩
          · exact hrest.covered s hs h
        kept := fun m' hm' => hrest.kept m' (by simp [hwaiting, hm'])
        count := hrest.count.trans (by
          rw [hwaiting, List.length_append, List.length_singleton, List.length_cons]
          omega)
        teardowns := fun m' hm' => by
          rcases hrest.teardowns m' hm' with h | h
          · rw [hwaiting, List.mem_append, List.mem_singleton] at h
            rcases h with h | rfl
            · exact .inl h
            · exact .inr hteardown.1
          · exact .inr h }
    · have hrest := ih hsound1 hidle1 (hterm1.trans hterm) hnodup.2 (fun s hs => by
          rw [htable, AList.mem_erase]
          refine ⟨fun heq => hnodup.1 ?_, hin s (by simp [hs])⟩
          exact List.mem_map.mpr ⟨s, hs, heq⟩)
        (fun h => absurd hnil1 h)
      exact {
        hrest with
        moved := hmoved1.trans hrest.moved
        less := fun key h => by
          have hkey' := hrest.less key h
          rw [htable, AList.mem_erase] at hkey'
          exact hkey'.2
        covered := fun s hs h => by
          rcases List.mem_cons.mp hs with rfl | hs
          · have hkey' := hrest.less _ h
            rw [htable, AList.mem_erase] at hkey'
            exact absurd rfl hkey'.1
          · exact hrest.covered s hs h
        kept := fun m' hm' => by rw [hnil] at hm'; cases hm'
        count := hrest.count.trans (by
          rw [hnil1, List.length_nil, List.length_cons]
          omega)
        teardowns := fun m' hm' => by
          rcases hrest.teardowns m' hm' with h | h
          · rw [hnil1] at h
            cases h
          · exact .inr h }

theorem Accounts.inprogress {session : ClientSession} (h : Accounts session [])
    (hactive : session.activeRequest = none) (hpending : session.pendingRequestQueue = []) :
    Accounts { session with termState := .inprogress } [] := by
  simp only [Accounts, hactive, hpending, Option.toList_none, List.append_nil, ite_self] at h ⊢
  exact h

/-- The resources are torn down when there is no request in progress. -/
theorem resourcesTeardown_tornDown (net : Net) (timeout : Nat) (h : Sound full j [] link)
    (hidle : link.session.Idle) (hactive : link.session.activeRequest = none) :
    TornDown full timeout j (link.session.resourceTable.entries.map Sigma.snd)
      { link with session := { link.session with termState := .inprogress } }
      (rtspClientSessionResourcesTeardown net timeout j link) := by
  have hkeys : (link.session.resourceTable.entries.map Sigma.snd).map Message.resourceKey =
      link.session.resourceTable.keys := by
    rw [List.map_map, AList.keys]
    exact List.map_congr_left fun e he => h.tables.named e he
  refine teardownLoop_tornDown net timeout _
    ⟨h.tables.of_eq rfl rfl rfl,
      fun hfull => (h.accounts hfull).inprogress hactive (hidle hactive), h.live⟩
    hidle rfl ?_ ?_ ?_
  · rw [hkeys]
    exact link.session.resourceTable.keys_nodup
  · intro setup hsetup
    rw [AList.mem_keys]
    rw [← hkeys]
    exact List.mem_map.mpr ⟨setup, hsetup, rfl⟩
  · intro hwaiting
    simp [ClientSession.waiting, hactive, hidle hactive] at hwaiting

end Handlers

end UniMrcp.Rtsp
