import UniMrcp.Rtsp.ClientBase

/-!
# The steps of the client

`Outcome` says once what an input can do: nothing, add a session, move one
session by one of its handlers, or disconnect.  The invariant makes the search
by CSeq exact: a response that carries the CSeq of a request in progress finds
the session of that request, and the timer of a session finds the session
itself.
-/

namespace UniMrcp.Rtsp

open UniMrcp.Lib UniMrcp.Apt

section Find

variable {timeout c j : Nat} {client : Client} {connection : ClientConnection}

/-- The link of a session whose request is in progress. -/
structure Queued (timeout : Nat) (client : Client) (c : Nat) (connection : ClientConnection)
    (j : Nat) (link : Link) (request : Message) : Prop where
  found : client.link j = some link
  conn : link.connection = some connection
  place : link.session.connection = some c
  member : j ∈ connection.inprogressRequestQueue
  live : link.session.gone = false
  active : link.session.activeRequest = some request
  owned : Owned timeout j connection link.session

section

variable (h : Base timeout client) (hc : client.connections[c]? = some connection)
include h hc

theorem Base.queued (hj : j ∈ connection.inprogressRequestQueue) :
    ∃ link request, Queued timeout client c connection j link request := by
  obtain ⟨session, hs, hplace⟩ := h.queue c connection hc j hj
  obtain ⟨connection', hconnection, howned⟩ := h.attached j session c hs hplace
  rw [hc] at hconnection
  cases hconnection
  obtain ⟨-, hlive, -, request, hactive, -⟩ := howned.queued hj
  have hlink : client.link j = some ⟨some connection, session⟩ := by
    simp [Client.link, hs, hplace, hc]
  exact ⟨⟨some connection, session⟩, request, hlink, rfl, hplace, hj, hlive, hactive, howned⟩

/-- What the search finds. -/
theorem Base.inprogressFind_some {cseq : Nat}
    (hfind : inprogressFind client connection cseq = some j) :
    ∃ link request, Queued timeout client c connection j link request ∧
      request.header.cseq = cseq := by
  obtain ⟨link, request, hq⟩ := h.queued hc (List.mem_of_find?_eq_some hfind)
  refine ⟨link, request, hq, ?_⟩
  have hmatch := List.find?_some hfind
  rw [link_session hq.found, Option.any_some, hq.active, Option.any_some, beq_iff_eq] at hmatch
  exact hmatch

/-- The search finds the session of the request. -/
theorem Base.inprogressFind_eq {link : Link} {request : Message}
    (hq : Queued timeout client c connection j link request) :
    inprogressFind client connection request.header.cseq = some j := by
  cases hfind : inprogressFind client connection request.header.cseq with
  | none =>
    have hnone := List.find?_eq_none.mp hfind j hq.member
    rw [link_session hq.found, Option.any_some, hq.active, Option.any_some, beq_iff_eq] at hnone
    exact absurd rfl hnone
  | some k =>
    obtain ⟨link', request', hq', hcseq⟩ := h.inprogressFind_some hc hfind
    have hkj : k = j := by
      refine h.cseq c connection hc k hq'.member j hq.member _ _ (link_session hq'.found)
        (link_session hq.found) ?_
      rw [ClientSession.cseq, ClientSession.cseq, hq'.active, hq.active, Option.map_some,
        Option.map_some, hcseq]
    rw [hkj]

end

theorem modifyLink_of_link {link : Link} (h : client.link j = some link) (f : Link → Link) :
    client.modifyLink j f = client.store j (f link) := by
  rw [Client.modifyLink, h]

/-- The response to a request in progress. -/
theorem Base.responseReceive_eq (h : Base timeout client)
    (hc : client.connections[c]? = some connection) {link : Link} {request response : Message}
    (hq : Queued timeout client c connection j link request)
    (hcseq : response.header.cseq = request.header.cseq) (net : Net) :
    responseReceive net timeout client connection response =
      client.store j (responseHandle net timeout j (rtspClientRequestPop j link) request
        response) := by
  rw [responseReceive, hcseq, h.inprogressFind_eq hc hq]
  dsimp only
  rw [modifyLink_of_link hq.found, hq.active]

theorem messageHandler_response {response : Message} (hr : response.isResponse = true)
    (hc : client.connections[c]? = some connection) (net : Net) :
    rtspClientMessageHandler net timeout client c response =
      responseReceive net timeout client connection response := by
  rw [rtspClientMessageHandler, hc]
  cases hline : response.startLine with
  | response line => rfl
  | request line => simp [Message.isResponse, hline] at hr
  | unknown => simp [Message.isResponse, hline] at hr

end Find

/-! ## The outcome of an input -/

/-- A handler of the session `j`. -/
inductive Handled (net : Net) (timeout j : Nat) (link : Link) : ClientInput → Link → Prop where
  | request (message : Message) (live : link.session.gone = false) :
      Handled net timeout j link (.request j message)
        (rtspClientSessionMessageProcess net timeout j
          { link with session := submit link.session message } message)
  | terminate (live : link.session.gone = false) (fresh : link.session.termState = .none) :
      Handled net timeout j link (.terminate j)
        (rtspClientSessionTerminateProcess net timeout j
          { link with session := link.session.note .terminateRequest })
  /-- a response or a timeout -/
  | response {input : ClientInput} (request response : Message)
      (attached : link.connection.isSome = true)
      (queued : j ∈ (link.conn j).inprogressRequestQueue)
      (active : link.session.activeRequest = some request) :
      Handled net timeout j link input
        (responseHandle net timeout j (rtspClientRequestPop j link) request response)
  | event {input : ClientInput} (message : Message) (attached : link.connection.isSome = true)
      (live : link.session.gone = false) :
      Handled net timeout j link input
        { link with session := link.session.note (.event message) }

/-- What an input can do. -/
inductive Outcome (net : Net) (timeout : Nat) (client : Client) : ClientInput → Client → Prop where
  | nothing (input : ClientInput) : Outcome net timeout client input client
  | created (serverIp : Bytes) (serverPort : Nat) (resourceLocation : Bytes) :
      Outcome net timeout client (.create serverIp serverPort resourceLocation)
        { client with sessions := client.sessions ++
          [rtspClientSessionCreate serverIp serverPort resourceLocation] }
  | moved {input : ClientInput} {j : Nat} {link link' : Link} (found : client.link j = some link)
      (handled : Handled net timeout j link input link') :
      Outcome net timeout client input (client.store j link')
  | disconnected {c : Nat} {connection : ClientConnection} {client' : Client}
      (found : client.connections[c]? = some connection) (sock : connection.sock = true)
      (left : rtspClientOnDisconnect net timeout client c connection = some client') :
      Outcome net timeout client (.disconnect c) client'

section Outcome

variable {net : Net} {timeout c j : Nat} {client client' : Client} {connection : ClientConnection}
  {link : Link} {request : Message}

theorem Queued.conn_eq (hq : Queued timeout client c connection j link request) :
    link.conn j = connection := by
  rw [Link.conn, hq.conn, Option.getD_some]

theorem Queued.handled (hq : Queued timeout client c connection j link request) (net : Net)
    (input : ClientInput) (response : Message) :
    Handled net timeout j link input
      (responseHandle net timeout j (rtspClientRequestPop j link) request response) :=
  .response request response (by rw [hq.conn]; rfl) (by rw [hq.conn_eq]; exact hq.member) hq.active

section

variable (h : Base timeout client) (hc : client.connections[c]? = some connection)
  (hsock : connection.sock = true)
include h hc hsock

/-- A session that is in the table of an open connection is not gone. -/
theorem Base.live_of_table {id : Bytes} (hid : connection.sessionTable.lookup id = some j) :
    ∃ session, client.link j = some ⟨some connection, session⟩ ∧ session.connection = some c ∧
      session.gone = false := by
  obtain ⟨session, hs, hplace⟩ := h.table c connection id j hc hid
  obtain ⟨connection', hconnection, howned⟩ := h.attached j session c hs hplace
  rw [hc] at hconnection
  cases hconnection
  refine ⟨session, by simp [Client.link, hs, hplace, hc], hplace, ?_⟩
  by_contra hgone
  exact (howned.tables.table id hid).2 (howned.gone (by simpa using hgone) hsock).2

theorem Base.receive_outcome (message : Message) :
    Outcome net timeout client (.receive c message)
      (rtspClientMessageHandler net timeout client c message) := by
  rw [rtspClientMessageHandler, hc]
  cases message.startLine with
  | unknown => exact .nothing _
  | response line =>
    dsimp only
    cases hfind : inprogressFind client connection message.header.cseq with
    | none =>
      rw [show responseReceive net timeout client connection message = client by
        rw [responseReceive, hfind]]
      exact .nothing _
    | some j =>
      obtain ⟨link, request, hq, hcseq⟩ := h.inprogressFind_some hc hfind
      rw [h.responseReceive_eq hc hq hcseq.symm]
      exact .moved hq.found (hq.handled net _ message)
  | request line =>
    unfold rtspClientSessionEventProcess
    dsimp only
    split
    · cases hid : connection.sessionTable.lookup message.header.sessionId with
      | none => exact .nothing _
      | some j =>
        obtain ⟨session, hlink, -, hlive⟩ := h.live_of_table hc hsock hid
        dsimp only
        rw [modifyLink_of_link hlink]
        exact .moved hlink (.event message rfl hlive)
    · exact .nothing _

end

theorem timerKill_getElem? (client : Client) (j k : Nat) :
    (timerKill client j).sessions[k]? = (client.sessions[k]?).map (fun session =>
      if j = k then { session with requestTimer := false } else session) := by
  rw [timerKill, List.getElem?_modify]
  rfl

theorem inprogressFind_timerKill (client : Client) (k : Nat) (connection : ClientConnection)
    (cseq : Nat) :
    inprogressFind (timerKill client k) connection cseq =
      inprogressFind client connection cseq := by
  refine congrArg (List.find? · connection.inprogressRequestQueue) (funext fun j => ?_)
  rw [timerKill_getElem?]
  cases client.sessions[j]? with
  | none => rfl
  | some session =>
    split <;> rfl

theorem timerKill_store (client : Client) (j : Nat) (link : Link) :
    (timerKill client j).store j link = client.store j link := by
  have hset : ∀ s, (timerKill client j).sessions.set j s = client.sessions.set j s := fun s => by
    apply List.ext_getElem?
    intro k
    rw [List.getElem?_set, List.getElem?_set, timerKill_getElem?, timerKill, List.length_modify]
    split
    · rfl
    · simp
  unfold Client.store
  split
  · rw [hset]; rfl
  · rw [hset]; rfl
  · rw [hset]; rfl

theorem timerKill_link (h : client.link j = some link) :
    (timerKill client j).link j =
      some { link with session := { link.session with requestTimer := false } } := by
  unfold Client.link at h ⊢
  obtain ⟨session, hs, rfl⟩ := Option.map_eq_some_iff.mp h
  rw [timerKill_getElem?, hs]
  simp [timerKill]

/-- The timer of a session ends the request of that session. -/
theorem Base.timer_eq (h : Base timeout client) (hlink : client.link j = some link)
    (htimer : link.session.requestTimer = true) (net : Net) :
    ∃ c connection request, client.connections[c]? = some connection ∧
      Queued timeout client c connection j link request ∧
      clientStep timeout client (net, .timer j) =
      some (client.store j (responseHandle net timeout j (rtspClientRequestPop j link) request
        (rtspResponseCreate request statusCodeRequestTimeout reasonPhraseRequestTimeout))) := by
  rcases h.link_cases hlink with ⟨c, hplace, hc, hconn, howned⟩ | ⟨hplace, hconn, -⟩
  · have hmember := howned.timed htimer
    obtain ⟨link', request, hq⟩ := h.queued hc hmember
    have hsame : link' = link := Option.some.inj (hq.found.symm.trans hlink)
    subst hsame
    refine ⟨c, _, request, hc, hq, ?_⟩
    obtain ⟨-, -, -, m, hm, -, hcheck⟩ := howned.queued hmember
    rw [hq.active] at hm
    cases hm
    have hs := link_session (timerKill_link hlink)
    have hc' : (timerKill client j).connections[c]? = some (link'.conn j) := hc
    simp only [clientStep, link_session hlink, Option.bind_some, htimer, if_true]
    rw [rtspClientRequestCancel, hs]
    dsimp only
    rw [hq.active, hplace]
    dsimp only
    rw [messageHandler_response (responseCreate_isResponse _ _ _) hc', responseReceive,
      responseCreate_cseq _ _ _ hcheck, inprogressFind_timerKill, h.inprogressFind_eq hc hq]
    dsimp only
    rw [modifyLink_of_link (timerKill_link hlink)]
    rw [hq.active, timerKill_store]
    rfl
  · rw [(h.bare j _ (link_session hlink) hplace).1.2] at htimer
    cases htimer

theorem clientStep_disconnect (hc : client.connections[c]? = some connection)
    (hsock : connection.sock = true) : clientStep timeout client (net, .disconnect c) =
      rtspClientOnDisconnect net timeout client c connection := by
  simp [clientStep, hc, hsock]

theorem clientStep_outcome (h : Base timeout client) {input : Net × ClientInput}
    (hstep : clientStep timeout client input = some client') :
    Outcome input.1 timeout client input.2 client' := by
  obtain ⟨net, input⟩ := input
  cases input with
  | create serverIp serverPort resourceLocation =>
    cases hstep
    exact .created serverIp serverPort resourceLocation
  | request j message =>
    obtain ⟨link, hlink, hstep⟩ := Option.bind_eq_some_iff.mp hstep
    split at hstep
    · cases hstep
    · rename_i hok
      cases hstep
      simp only [Bool.or_eq_true, not_or, Bool.not_eq_true] at hok
      exact .moved hlink (.request message hok.1)
  | terminate j =>
    obtain ⟨link, hlink, hstep⟩ := Option.bind_eq_some_iff.mp hstep
    split at hstep
    · cases hstep
    · rename_i hok
      cases hstep
      simp only [Bool.or_eq_true, not_or, Bool.not_eq_true, bne_eq_false_iff_eq] at hok
      exact .moved hlink (.terminate hok.1 hok.2)
  | receive c message =>
    obtain ⟨connection, hc, rfl⟩ := Option.map_eq_some_iff.mp hstep
    split
    · rename_i hsock
      exact h.receive_outcome hc hsock message
    · exact .nothing _
  | disconnect c =>
    obtain ⟨connection, hc, hstep⟩ := Option.bind_eq_some_iff.mp hstep
    split at hstep
    · rename_i hsock
      exact .disconnected hc hsock hstep
    · cases hstep
      exact .nothing _
  | timer j =>
    obtain ⟨session, hs, hset⟩ := Option.bind_eq_some_iff.mp hstep
    split at hset
    · rename_i htimer
      have hlink := link_of_session hs
      obtain ⟨c, connection, request, -, hq, heq⟩ := h.timer_eq hlink htimer net
      cases heq.symm.trans hstep
      exact .moved hlink (hq.handled net _ _)
    · cases hset

/-- A handler is a step of its session. -/
theorem Handled.stepped {full : Prop} {input : ClientInput} {link' : Link}
    (h : Base timeout client) (hlink : client.link j = some link)
    (hhandled : Handled net timeout j link input link')
    (haccounts : full → Accounts link.session []) :
    Stepped timeout j link link' ∧ (full → Accounts link'.session []) := by
  cases hhandled with
  | request message live =>
    exact (request_stepped net message (h.owned hlink (.inr live)) live haccounts).1
  | terminate live fresh =>
    exact terminate_stepped net (h.owned hlink (.inr live)) live fresh haccounts
      (h.idle_of_bare hlink)
  | response request response attached queued active =>
    have howned := h.owned hlink (.inl attached)
    obtain ⟨hstepped, haccounts', -⟩ := response_stepped net response howned
      (h.link_nodup hlink) (howned.queued queued).2.1 haccounts active
    exact ⟨hstepped, haccounts'⟩
  | event message attached live =>
    have howned := h.owned hlink (.inl attached)
    have hsound : Sound full j [] { link with session := link.session.note (.event message) } :=
      Sound.note ⟨howned.tables, haccounts, live⟩ (by simp) (by simp) (by simp)
    exact ⟨.of_moved howned.toAttached live
      (.of_session (List.prefix_append _ _) id rfl rfl rfl) hsound howned.idle, hsound.accounts⟩

end Outcome

end UniMrcp.Rtsp
