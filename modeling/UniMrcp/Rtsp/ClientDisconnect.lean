import UniMrcp.Lib.Loops
import UniMrcp.Rtsp.ClientSteps

/-!
# The disconnect

`rtsp_client_on_disconnect` takes every session from the queue of the
connection before it cancels the request of the session.  So the search by CSeq
does not find the session: the requests are not responded to, only the timers
are killed (`inprogressCancel_eq`).

Then the termination of the sessions in the table of the connection is raised.
-/

namespace UniMrcp.Rtsp

open UniMrcp.Lib UniMrcp.Apt

/-! ## The requests in progress -/

section Drain

variable {net : Net} {timeout c j : Nat} {client : Client} {connection : ClientConnection}
  {queue : List Nat}

def killTimers (client : Client) (queue : List Nat) : Client := queue.foldl timerKill client

section

variable (client : Client) (queue : List Nat)

theorem killTimers_connections : (killTimers client queue).connections = client.connections := by
  induction queue generalizing client with
  | nil => rfl
  | cons j queue ih => exact ih (timerKill client j)

theorem killTimers_length :
    (killTimers client queue).sessions.length = client.sessions.length := by
  induction queue generalizing client with
  | nil => rfl
  | cons j queue ih => exact (ih (timerKill client j)).trans (List.length_modify _ _ _)

theorem killTimers_getElem? (k : Nat) :
    (killTimers client queue).sessions[k]? = (client.sessions[k]?).map (fun session =>
      if k ∈ queue then { session with requestTimer := false } else session) := by
  induction queue generalizing client with
  | nil => simp [killTimers]
  | cons j queue ih =>
    refine (ih (timerKill client j)).trans ?_
    rw [timerKill_getElem?, Option.map_map]
    refine congrArg (Option.map · _) (funext fun session => ?_)
    by_cases hjk : j = k <;> by_cases hk : k ∈ queue <;>
      simp [hjk, hk, Ne.symm]

theorem killTimers_setConnection (c : Nat) (connection : ClientConnection) :
    killTimers (client.setConnection c connection) queue =
      (killTimers client queue).setConnection c connection := by
  induction queue generalizing client with
  | nil => rfl
  | cons j queue ih => exact ih (timerKill client j)

end

/-- The sessions in a queue, with requests that have different CSeqs. -/
structure Drainable (c : Nat) (client : Client) (queue : List Nat) : Prop where
  nodup : queue.Nodup
  active : ∀ j ∈ queue, ∃ (session : ClientSession) (request : Message),
    client.sessions[j]? = some session ∧ session.connection = some c ∧
      session.activeRequest = some request ∧
      rtspHeaderPropertyCheck request.header .cseq = true
  apart : ∀ j ∈ queue, ∀ k ∈ queue, ∀ sj sk : ClientSession, client.sessions[j]? = some sj →
    client.sessions[k]? = some sk → sj.cseq = sk.cseq → j = k

theorem Base.drainable (h : Base timeout client) (hc : client.connections[c]? = some connection) :
    Drainable c client connection.inprogressRequestQueue where
  nodup := h.nodup c connection hc
  active := fun j hj => by
    obtain ⟨link, request, hq⟩ := h.queued hc hj
    obtain ⟨-, -, -, m, hm, -, hcheck⟩ := hq.owned.queued hj
    exact ⟨link.session, m, link_session hq.found, hq.place, hm, hcheck⟩
  apart := h.cseq c connection hc

/-- The rest of the queue, when the timer of the first session is killed. -/
theorem Drainable.tail (h : Drainable c client (j :: queue)) :
    Drainable c (timerKill client j) queue := by
  have hne : ∀ k ∈ queue, (timerKill client j).sessions[k]? = client.sessions[k]? := by
    intro k hk
    have hjk : j ≠ k := fun hjk => (List.nodup_cons.mp h.nodup).1 (hjk ▸ hk)
    rw [timerKill_getElem?]
    simp [hjk]
  refine ⟨(List.nodup_cons.mp h.nodup).2, fun k hk => ?_, fun a ha b hb sa sb hsa hsb => ?_⟩
  · rw [hne k hk]
    exact h.active k (List.mem_cons_of_mem j hk)
  · rw [hne a ha] at hsa
    rw [hne b hb] at hsb
    exact h.apart a (List.mem_cons_of_mem j ha) b (List.mem_cons_of_mem j hb) sa sb hsa hsb

/-- The request of a session that has been taken from the queue is not found. -/
theorem Drainable.cancel_eq (h : Drainable c client (j :: queue))
    (hc : client.connections[c]? = some connection)
    (hqueue : connection.inprogressRequestQueue = queue) (statusCode reason : Nat) :
    rtspClientRequestCancel net timeout client j statusCode reason = (client, true) := by
  obtain ⟨session, request, hs, hplace, hactive, hcheck⟩ := h.active j (by simp)
  rw [rtspClientRequestCancel, hs]
  dsimp only
  rw [hactive, hplace]
  dsimp only
  rw [messageHandler_response (responseCreate_isResponse _ _ _) hc, responseReceive,
    responseCreate_cseq _ _ _ hcheck]
  have hnone : inprogressFind client connection request.header.cseq = none := by
    rw [inprogressFind, List.find?_eq_none, hqueue]
    intro k hk hmatch
    obtain ⟨sk, rk, hsk, -, hrk, -⟩ := h.active k (List.mem_cons_of_mem j hk)
    rw [hsk, Option.any_some, hrk, Option.any_some, beq_iff_eq] at hmatch
    have hkj : k = j := h.apart k (List.mem_cons_of_mem j hk) j (by simp) sk session hsk hs (by
      rw [ClientSession.cseq, ClientSession.cseq, hrk, hactive, Option.map_some, Option.map_some,
        hmatch])
    exact (List.nodup_cons.mp h.nodup).1 (hkj ▸ hk)
  rw [hnone]

theorem setConnection_getElem? (hc : client.connections[c]? = some connection)
    (connection' : ClientConnection) :
    (client.setConnection c connection').connections[c]? = some connection' := by
  rw [Client.setConnection, List.getElem?_set_self (List.getElem?_eq_some_iff.mp hc).1]

theorem setConnection_setConnection (client : Client) (c : Nat)
    (connection connection' : ClientConnection) :
    (client.setConnection c connection).setConnection c connection' =
      client.setConnection c connection' := by
  simp [Client.setConnection]

/-- The loop only empties the queue, and kills the timers. -/
theorem inprogressCancel_eq (h : Drainable c client queue)
    (hc : client.connections[c]? = some connection)
    (hqueue : connection.inprogressRequestQueue = queue) :
    inprogressCancel net timeout c queue.length client =
      (killTimers client queue).setConnection c
        { connection with inprogressRequestQueue := [] } := by
  induction queue generalizing client connection with
  | nil =>
    have hsame : { connection with inprogressRequestQueue := [] } = connection := by rw [← hqueue]
    rw [hsame]
    simp only [List.length_nil, inprogressCancel, killTimers, List.foldl_nil, Client.setConnection]
    obtain ⟨hlt, heq⟩ := List.getElem?_eq_some_iff.mp hc
    rw [← heq, List.set_getElem_self]
  | cons j queue ih =>
    have hc1 := setConnection_getElem? hc { connection with inprogressRequestQueue := queue }
    have h1 : Drainable c (client.setConnection c
        { connection with inprogressRequestQueue := queue }) (j :: queue) :=
      ⟨h.nodup, h.active, h.apart⟩
    rw [List.length_cons, inprogressCancel, hc]
    dsimp only
    rw [hqueue]
    dsimp only
    rw [h1.cancel_eq hc1 rfl, if_pos rfl, ih h1.tail hc1 rfl]
    change (killTimers ((timerKill client j).setConnection c _) queue).setConnection c _ = _
    rw [killTimers_setConnection, setConnection_setConnection]
    rfl

/-- What the first loop leaves. -/
def Client.drained (client : Client) (c : Nat) (connection : ClientConnection) : Client :=
  (killTimers client connection.inprogressRequestQueue).setConnection c
    { connection with sock := false, inprogressRequestQueue := [] }

theorem Base.inprogressCancel_drained (h : Base timeout client)
    (hc : client.connections[c]? = some connection) (net : Net) :
    inprogressCancel net timeout c connection.inprogressRequestQueue.length
      (client.setConnection c { connection with sock := false }) = client.drained c connection := by
  have hd := h.drainable hc
  have hd' : Drainable c (client.setConnection c { connection with sock := false })
      connection.inprogressRequestQueue := ⟨hd.nodup, hd.active, hd.apart⟩
  rw [inprogressCancel_eq hd' (setConnection_getElem? hc _) rfl, killTimers_setConnection,
    setConnection_setConnection]
  rfl

theorem drained_connection (hc : client.connections[c]? = some connection) :
    (client.drained c connection).connections[c]? =
      some { connection with sock := false, inprogressRequestQueue := [] } := by
  have hc' : (killTimers client connection.inprogressRequestQueue).connections[c]? =
      some connection := by
    rw [killTimers_connections]
    exact hc
  exact setConnection_getElem? hc' _

theorem drained_other {d : Nat} (hd : d ≠ c) :
    (client.drained c connection).connections[d]? = client.connections[d]? := by
  rw [Client.drained, Client.setConnection, List.getElem?_set_ne (Ne.symm hd),
    killTimers_connections]

theorem drained_session (client : Client) (c : Nat) (connection : ClientConnection) (k : Nat) :
    (client.drained c connection).sessions[k]? = (client.sessions[k]?).map (fun session =>
      if k ∈ connection.inprogressRequestQueue then { session with requestTimer := false }
      else session) :=
  killTimers_getElem? client connection.inprogressRequestQueue k

/-- A session after the first loop: its timer has been killed if it was in the
queue. -/
theorem Base.drained_cases (h : Base timeout client)
    (hc : client.connections[c]? = some connection) {k : Nat} {session' : ClientSession}
    (hs : (client.drained c connection).sessions[k]? = some session') :
    ∃ session timer, client.sessions[k]? = some session ∧
      session' = { session with requestTimer := timer } ∧
      (timer = session.requestTimer ∧ k ∉ connection.inprogressRequestQueue ∨
        timer = false ∧ session.connection = some c) := by
  rw [drained_session] at hs
  obtain ⟨session, hsession, rfl⟩ := Option.map_eq_some_iff.mp hs
  split
  · rename_i hk
    obtain ⟨session', hs', hplace⟩ := h.queue c connection hc k hk
    rw [hsession] at hs'
    cases hs'
    exact ⟨session, false, hsession, rfl, .inr ⟨rfl, hplace⟩⟩
  · rename_i hk
    exact ⟨session, _, hsession, rfl, .inl ⟨rfl, hk⟩⟩

theorem Owned.drained {session : ClientSession} {timer : Bool} {k : Nat}
    (h : Owned timeout k connection session)
    (hcases : timer = session.requestTimer ∧ k ∉ connection.inprogressRequestQueue ∨
      timer = false ∧ session.connection = some c) :
    Owned timeout k { connection with sock := false, inprogressRequestQueue := [] }
      { session with requestTimer := timer } := by
  refine ⟨⟨fun hmem => absurd hmem List.not_mem_nil, fun htimer => ?_, h.handle⟩, h.idle,
    h.tables.of_eq rfl rfl rfl, fun _ hsock => by cases hsock⟩
  rcases hcases with ⟨rfl, hk⟩ | ⟨rfl, -⟩
  · exact absurd (h.timed htimer) hk
  · cases htimer

/-- The connections after the first loop. -/
theorem drained_of {d : Nat} {connection' : ClientConnection}
    (hc : client.connections[c]? = some connection)
    (hd : (client.drained c connection).connections[d]? = some connection') :
    ∃ old, client.connections[d]? = some old ∧
      connection'.inprogressRequestQueue.Sublist old.inprogressRequestQueue ∧
      connection'.sessionTable = old.sessionTable := by
  by_cases hdc : d = c
  · subst hdc
    rw [drained_connection hc] at hd
    cases hd
    exact ⟨connection, hc, List.nil_sublist _, rfl⟩
  · rw [drained_other hdc] at hd
    exact ⟨connection', hd, .refl _, rfl⟩

theorem drained_place {d k : Nat}
    (h : ∃ session, client.sessions[k]? = some session ∧ session.connection = some d) :
    ∃ session, (client.drained c connection).sessions[k]? = some session ∧
      session.connection = some d := by
  obtain ⟨session, hs, hplace⟩ := h
  rw [drained_session, hs]
  refine ⟨_, rfl, ?_⟩
  split <;> exact hplace

/-- The first loop keeps the invariant. -/
theorem Base.drained (h : Base timeout client) (hc : client.connections[c]? = some connection) :
    Base timeout (client.drained c connection) where
  attached := fun k session' d hs hd => by
    obtain ⟨session, timer, hold, rfl, hcases⟩ := h.drained_cases hc hs
    obtain ⟨connection0, hconnection, howned⟩ := h.attached k session d hold hd
    by_cases hdc : d = c
    · subst hdc
      rw [hc] at hconnection
      cases hconnection
      exact ⟨_, drained_connection hc, howned.drained hcases⟩
    · rw [drained_other hdc]
      rcases hcases with ⟨rfl, -⟩ | ⟨-, hplace⟩
      · exact ⟨connection0, hconnection, howned⟩
      · exact absurd (Option.some.inj (hd.symm.trans hplace)) hdc
  bare := fun k session' hs hnone => by
    obtain ⟨session, timer, hold, rfl, ⟨rfl, -⟩ | ⟨-, hplace⟩⟩ := h.drained_cases hc hs
    · exact h.bare k session hold hnone
    · exact nomatch hplace.symm.trans hnone
  nodup := fun d connection' hd => by
    obtain ⟨old, hd, hqueue, -⟩ := drained_of hc hd
    exact (h.nodup d old hd).sublist hqueue
  queue := fun d connection' hd k hk => by
    obtain ⟨old, hd, hqueue, -⟩ := drained_of hc hd
    exact drained_place (h.queue d old hd k (hqueue.subset hk))
  table := fun d connection' id k hd hid => by
    obtain ⟨old, hd, -, htable⟩ := drained_of hc hd
    exact drained_place (h.table d old id k hd (htable ▸ hid))
  cseq := fun d connection' hd a ha b hb sa sb hsa hsb hcseq => by
    obtain ⟨old, hd, hqueue, -⟩ := drained_of hc hd
    obtain ⟨sa', _, ha', rfl, -⟩ := h.drained_cases hc hsa
    obtain ⟨sb', _, hb', rfl, -⟩ := h.drained_cases hc hsb
    exact h.cseq d old hd a (hqueue.subset ha) b (hqueue.subset hb) sa' sb' ha' hb' hcseq

end Drain

/-! ## The sessions in the table -/

section Raise

variable {timeout c j : Nat} {link link' : Link}

/-- What a response adds to the history. -/
theorem responseProcess_log (link : Link) (request response : Message)
    (h : Tables j (link.conn j) link.session) :
    (rtspClientSessionResponseProcess j link request response).session.log =
      if link.session.termState = .inprogress then link.session.log
      else link.session.log ++ [.response request response] := by
  have hupdated : Updated j link (resourceUpdate j link request response) :=
    resourceUpdate_updated h
  obtain ⟨table, id, resources, -, hsession⟩ := hupdated.shape
  dsimp only [rtspClientSessionResponseProcess]
  rw [hsession]
  unfold responseRaise
  split <;> rfl

/-- The pending requests are responded to with errors. -/
structure Cancelled (timeout j n : Nat) (link link' : Link) : Prop where
  tables : Tables j (link'.conn j) link'.session
  moved : Moved timeout j link link'
  active : link'.session.activeRequest = link.session.activeRequest
  pending : link'.session.pendingRequestQueue = []
  term : link'.session.termState = link.session.termState
  log : ∃ answers : List Note, link'.session.log = link.session.log ++ answers ∧
    answers.length ≤ n ∧ (∀ a ∈ answers, ∃ m m', a = .response m m') ∧
    (link.session.termState = .inprogress → answers = [])

theorem pendingCancel_cancelled (timeout : Nat) (queue : List Message) {link link' : Link}
    (htables : Tables j (link.conn j) link.session)
    (h : pendingCancel j queue link = some link') :
    Cancelled timeout j queue.length link link' := by
  induction queue generalizing link with
  | nil =>
    cases h
    exact ⟨htables.of_eq rfl rfl rfl, .of_session List.prefix_rfl id rfl rfl rfl, rfl, rfl, rfl,
      [], by simp, Nat.le_refl _, fun a ha => absurd ha List.not_mem_nil, fun _ => rfl⟩
  | cons request queue ih =>
    obtain ⟨active, hactive, h⟩ := Option.bind_eq_some_iff.mp h
    have hstart : Moved timeout j link
        ⟨link.connection, { link.session with pendingRequestQueue := queue }⟩ :=
      .of_session List.prefix_rfl id rfl rfl rfl
    have htables1 : Tables j (link.conn j) { link.session with pendingRequestQueue := queue } :=
      htables.of_eq rfl rfl rfl
    obtain ⟨htables2, hmoved2, hunmoved, -⟩ := responseProcess_frame timeout
      ⟨link.connection, { link.session with pendingRequestQueue := queue }⟩ request
      (rtspResponseCreate active statusCodeInternalServerError reasonPhraseInternalServerError)
      htables1
    have hlog := responseProcess_log
      ⟨link.connection, { link.session with pendingRequestQueue := queue }⟩ request
      (rtspResponseCreate active statusCodeInternalServerError reasonPhraseInternalServerError)
      htables1
    have hrest := ih htables2 h
    obtain ⟨answers, hanswers, hlength, hall, hnone⟩ := hrest.log
    refine ⟨hrest.tables, (hstart.trans hmoved2).trans hrest.moved,
      hrest.active.trans hunmoved.active, hrest.pending, hrest.term.trans hunmoved.term, ?_⟩
    rw [hlog] at hanswers
    rw [hunmoved.term] at hnone
    split at hanswers
    · rename_i hterm
      exact ⟨answers, hanswers, by rw [List.length_cons]; omega, hall, fun _ => hnone hterm⟩
    · rename_i hterm
      refine ⟨_ :: answers, hanswers.trans (by rw [List.append_assoc]; rfl), ?_, ?_,
        fun hterm' => absurd hterm' hterm⟩
      · rw [List.length_cons, List.length_cons]
        omega
      · intro a ha
        rcases List.mem_cons.mp ha with rfl | ha
        · exact ⟨_, _, rfl⟩
        · exact hall a ha

/-- The termination of a session is raised. -/
structure Raised (link link' : Link) : Prop where
  active : link'.session.activeRequest = link.session.activeRequest
  pending : link'.session.pendingRequestQueue = []
  term : link'.session.termState = .none
  index : link'.session.connection = link.session.connection
  log : ∃ answers : List Note, link'.session.log = link.session.log ++ answers ++
      [if link.session.termState = .none then .terminateEvent else .terminateResponse] ∧
    answers.length ≤ link.session.pendingRequestQueue.length ∧
    (∀ a ∈ answers, ∃ m m', a = .response m m') ∧
    (link.session.termState = .inprogress → answers = [])

/-- `rtsp_client_session_terminate_raise` on a connection that is closed. -/
theorem terminateRaise_stepped (h : Owned timeout j (link.conn j) link.session)
    (hsome : link.connection.isSome = true) (hsock : (link.conn j).sock = false)
    (hraise : rtspClientSessionTerminateRaise j link = some link') :
    Stepped timeout j link link' ∧ Raised link link' := by
  have hout : j ∉ (link.conn j).inprogressRequestQueue := fun hmem => by
    rw [(h.queued hmem).1] at hsock
    cases hsock
  obtain ⟨link1, hcancel, rfl⟩ := Option.map_eq_some_iff.mp hraise
  have hc := pendingCancel_cancelled timeout _ h.tables hcancel
  obtain ⟨answers, hlog, hlength, hall, hnone⟩ := hc.log
  have hqueue : (link1.conn j).inprogressRequestQueue = (link.conn j).inprogressRequestQueue ∧
      link1.session.requestTimer = link.session.requestTimer := by
    cases hc.moved.queue with
    | kept queue active timer => exact ⟨queue, timer⟩
    | sent m idle queue active =>
      rw [hc.active, idle] at active
      cases active
  have hout1 : j ∉ (link1.conn j).inprogressRequestQueue := by rw [hqueue.1]; exact hout
  have hidle1 : link1.session.Idle := fun _ => hc.pending
  have hsock1 : (link1.conn j).sock = false := hc.moved.sock.trans hsock
  have htimer1 : link1.session.requestTimer = false := by
    rw [hqueue.2]
    exact Bool.eq_false_iff.mpr fun htimer => hout (h.timed htimer)
  have hsome1 := hc.moved.attached hsome
  have hgone1 : link1.session.gone = link.session.gone := by
    rw [ClientSession.gone, hlog, ClientSession.gone, List.contains_append]
    have hanswers : answers.contains .terminateResponse = false := by
      rw [← Bool.not_eq_true, List.contains_iff_mem]
      intro hmem
      obtain ⟨m, m', hm⟩ := hall _ hmem
      cases hm
    rw [hanswers, Bool.or_false]
  -- the two ways to tell the application leave the same of the connection
  have hstepped : ∀ (connection' : Option ClientConnection) (state : TerminationState) (n : Note),
      let link' : Link := ⟨connection', { link1.session with termState := state }.note n⟩
      connection'.isSome = true → ReleasedFrom j (link1.conn j) (link'.conn j) →
      (link'.conn j).sock = false →
      (link'.session.gone = false → j ∈ (link'.conn j).handleTable) →
      (link1.session.terminating = true → link'.session.terminating = true) →
      Stepped timeout j link link' := by
    intro connection' state n link' hsome' hreleased hsock' hhandle hterminating
    have hout' : j ∉ (link'.conn j).inprogressRequestQueue := by
      rw [hreleased.queue]
      exact hout1
    exact {
      grows := hc.moved.grows.trans (List.prefix_append _ _)
      index := hc.moved.index
      attached := fun _ => hsome'
      bare := fun _ hbare => by
        obtain rfl : connection' = none := hbare
        cases hsome'
      sock := .inl (hsock'.trans hsock.symm)
      cseq := by rw [hreleased.cseq]; exact hc.moved.cseq
      members := fun k _ => by rw [hreleased.queue, hqueue.1]
      nodup := fun hnodup => by rw [hreleased.queue, hqueue.1]; exact hnodup
      own := fun hmem => absurd hmem hout'
      handles := fun k hk hmem => hreleased.handles k hk (hc.moved.handles k hmem)
      others := fun id k hk hid => hc.moved.others id k hk (hreleased.table ▸ hid)
      flown := fun hflown hactive => by
        have hactive' : link.session.activeRequest.isSome = true := by
          rw [← hc.active]
          exact hactive
        exact .inr (hterminating (hc.moved.terminating ((hflown hactive').resolve_left hout)))
      moored := fun _ _ => .inr hsock'
      owned := fun _ => {
        queued := fun hmem => absurd hmem hout'
        timed := fun htimer => by
          rw [show link'.session.requestTimer = false from htimer1] at htimer
          cases htimer
        handle := hhandle
        idle := hidle1
        tables := hc.tables.of_eq hreleased.table rfl rfl
        gone := fun _ hopen => by rw [hsock'] at hopen; cases hopen } }
  split
  · rename_i hterm
    rw [hc.term] at hterm
    refine ⟨hstepped link1.connection link1.session.termState .terminateEvent hsome1
      ⟨rfl, rfl, rfl, fun _ _ hk => hk, .inl rfl⟩ hsock1 (fun hlive => ?_) (fun hterminating => ?_),
      hc.active, hc.pending, hc.term.trans hterm, hc.moved.index, answers, ?_, hlength, hall, hnone⟩
    · rw [note_gone _ (by simp)] at hlive
      exact hc.moved.handles j (h.handle (hgone1.symm.trans hlive))
    · rw [ClientSession.terminating, note_gone _ (by simp)]
      exact hterminating
    · change link1.session.log ++ [.terminateEvent] = _
      rw [hlog, if_pos hterm]
  · rename_i hterm
    rw [hc.term] at hterm
    refine ⟨hstepped _ .none .terminateResponse (by rw [Option.isSome_map]; exact hsome1)
      (terminateRespond_released j link1) ((terminateRespond_sock j link1).trans hsock1)
      (fun hlive => ?_) (fun _ => ?_),
      hc.active, hc.pending, rfl, hc.moved.index, answers, ?_, hlength, hall, hnone⟩
    · rw [note_terminateResponse_gone] at hlive
      cases hlive
    · rw [ClientSession.terminating, note_terminateResponse_gone, Bool.or_true]
    · change link1.session.log ++ [.terminateResponse] = _
      rw [hlog, if_neg hterm]

end Raise

/-! ## The whole disconnect -/

section Disconnect

variable {net : Net} {timeout c : Nat} {client client' : Client} {connection : ClientConnection}

/-- The sessions in the table of a connection. -/
def ClientConnection.seated (connection : ClientConnection) : List Nat :=
  connection.sessionTable.entries.map Sigma.snd

theorem mem_seated {j : Nat} : j ∈ connection.seated ↔
    ∃ id, connection.sessionTable.lookup id = some j := by
  constructor
  · intro hj
    obtain ⟨⟨id, k⟩, he, rfl⟩ := List.mem_map.mp hj
    exact ⟨id, AList.mem_lookup_iff.mpr he⟩
  · rintro ⟨id, hid⟩
    exact List.mem_map.mpr ⟨⟨id, j⟩, AList.mem_lookup_iff.mp hid, rfl⟩

section

variable (h : Base timeout client) (hc : client.connections[c]? = some connection)
include h hc

/-- A session is in the table only once, as it has one id. -/
theorem Base.seated_nodup : connection.seated.Nodup := by
  refine List.Nodup.map_on ?_ connection.sessionTable.nodupKeys.nodup
  rintro ⟨id, j⟩ hx ⟨id', j'⟩ hy hjj
  obtain rfl : j = j' := hjj
  have hid : connection.sessionTable.lookup id = some j := AList.mem_lookup_iff.mpr hx
  have hid' : connection.sessionTable.lookup id' = some j := AList.mem_lookup_iff.mpr hy
  obtain ⟨session, hs, hplace⟩ := h.table c connection id j hc hid
  obtain ⟨connection', hconnection, howned⟩ := h.attached j session c hs hplace
  rw [hc] at hconnection
  cases hconnection
  have hsame : id = id' :=
    (howned.tables.table id hid).1.symm.trans (howned.tables.table id' hid').1
  rw [hsame]

theorem Base.onDisconnect_eq (hsock : connection.sock = true) (net : Net) :
    rtspClientOnDisconnect net timeout client c connection =
      connection.seated.foldlM terminateRaise (client.drained c connection) := by
  unfold rtspClientOnDisconnect
  dsimp only
  rw [h.inprogressCancel_drained hc, drained_connection hc]
  dsimp only
  split
  · -- a session in the table is not gone, so that it has a handle
    rename_i hempty
    have hnone : connection.seated = [] := by
      rw [List.eq_nil_iff_forall_not_mem]
      intro j hj
      obtain ⟨id, hid⟩ := mem_seated.mp hj
      obtain ⟨session, hlink, -, hlive⟩ := h.live_of_table hc hsock hid
      have hhandle := (h.owned hlink (.inl rfl)).handle hlive
      rw [Link.conn, Option.getD_some, List.isEmpty_iff.mp hempty] at hhandle
      cases hhandle
    rw [hnone]
    rfl
  · rfl

end

/-- The sessions that the loop has still to visit, and those of the connection. -/
structure Seated (c : Nat) (js : List Nat) (k : Nat) (link : Link) : Prop where
  closed : link.session.connection = some c →
    link.connection.isSome = true ∧ (link.conn k).sock = false
  left : k ∈ js → link.session.connection = some c ∧ link.session.gone = false

theorem Seated.other {js : List Nat} {j k : Nat} {link link' : Link} {session : ClientSession}
    (h : Seated c js k ⟨some (link.conn j), session⟩) (hstep : Stepped timeout j link link') :
    Seated c js k ⟨some (link'.conn j), session⟩ := by
  refine ⟨fun hplace => ⟨rfl, ?_⟩, h.left⟩
  have hsock := (h.closed hplace).2
  rw [Link.conn, Option.getD_some] at hsock ⊢
  rcases hstep.sock with hsame | ⟨hclosed, -⟩
  · rw [hsame, hsock]
  · exact hclosed

section Loop

variable {R : List Nat → Nat → Link → Prop} (h : Base timeout client)
    (hc : client.connections[c]? = some connection) (hsock : connection.sock = true)
    (hmono : ∀ j js k link, k ≠ j → R (j :: js) k link → R js k link)
    (hother : ∀ js j k link link' session, k ≠ j → Stepped timeout j link link' →
      R js k ⟨some (link.conn j), session⟩ → R js k ⟨some (link'.conn j), session⟩)
    (hraise : ∀ j js link link', R (j :: js) j link → link.session.gone = false →
      Owned timeout j (link.conn j) link.session → (link.conn j).sock = false →
      Stepped timeout j link link' → Raised link link' → R js j link')
include h hmono hother hraise

/-- The loop of the disconnect: `R js` holds of every session when `js` are
still to be visited. -/
theorem Base.raiseLoop
    {js : List Nat} (hnodup : js.Nodup)
    (hmem : ∀ j ∈ js, j < client.sessions.length)
    (hseated : ∀ k link, client.link k = some link → Seated c js k link)
    (hR : ∀ k link, client.link k = some link → R js k link)
    (hloop : js.foldlM terminateRaise client = some client') :
    Base timeout client' ∧ client'.sessions.length = client.sessions.length ∧
      ∀ k link, client'.link k = some link → R [] k link ∧ Seated c [] k link := by
  have hend := foldlM_invariant
    (P := fun js client1 => Base timeout client1 ∧ js.Nodup ∧
      client1.sessions.length = client.sessions.length ∧
      (∀ j ∈ js, j < client.sessions.length) ∧
      ∀ k link, client1.link k = some link → R js k link ∧ Seated c js k link) ?_
    ⟨h, hnodup, rfl, hmem, fun k link hk => ⟨hR k link hk, hseated k link hk⟩⟩ hloop
  · exact ⟨hend.1, hend.2.2.1, hend.2.2.2.2⟩
  · rintro j js s s' ⟨h, hnodup, hlength, hmem, hall⟩ hbody
    have hj : j < s.sessions.length := hlength ▸ hmem j (by simp)
    have hlink := link_of_session (List.getElem?_eq_getElem hj)
    generalize (⟨_, s.sessions[j]⟩ : Link) = link at hlink
    rw [terminateRaise, hlink] at hbody
    obtain ⟨link', hraised, rfl⟩ := Option.map_eq_some_iff.mp hbody
    obtain ⟨hRj, hseat⟩ := hall j link hlink
    obtain ⟨hplace, hlive⟩ := hseat.left (by simp)
    obtain ⟨hsome, hsock⟩ := hseat.closed hplace
    have howned := h.owned hlink (.inl hsome)
    obtain ⟨hstep, hfacts⟩ := terminateRaise_stepped howned hsome hsock hraised
    have hjs : j ∉ js := (List.nodup_cons.mp hnodup).1
    refine ⟨h.store hlink hstep, (List.nodup_cons.mp hnodup).2, ?_,
      fun k hk => hmem k (List.mem_cons_of_mem j hk), ?_⟩
    · rw [← hlength]
      cases hstored : s.store j link' with
      | mk sessions connections =>
        have hshape := h.stored hlink hstep
        rw [hstored] at hshape
        cases hshape <;> simp
    · intro k l hk
      refine h.forall_links (Q := fun k l => R js k l ∧ Seated c js k l) hlink hstep ?_ ?_ ?_ hk
      · intro k l hkj hk
        obtain ⟨hRk, hseatk⟩ := hall k l hk
        exact ⟨hmono j js k l hkj hRk, hseatk.closed,
          fun hmem => hseatk.left (List.mem_cons_of_mem j hmem)⟩
      · intro p hp
        have hsession : { link'.session with connection := p } = link'.session := by
          rw [hp (by rw [hplace]; rfl), ← hfacts.index]
        rw [hsession]
        refine ⟨hraise j js link link' hRj hlive howned hsock hstep hfacts, ?_,
          fun hmem => absurd hmem hjs⟩
        refine fun _ => ⟨hstep.attached hsome, ?_⟩
        rcases hstep.sock with hsame | ⟨hclosed, -⟩
        · exact hsame.trans hsock
        · exact hclosed
      · exact fun k session hkj ⟨hRk, hseatk⟩ =>
          ⟨hother js j k link link' session hkj hstep hRk, hseatk.other hstep⟩

include hc hsock in
/-- What holds of every session after a disconnect: `R js` is given for the
sessions that the first loop leaves. -/
theorem Base.disconnect
    (hstart : ∀ k link, (client.drained c connection).link k = some link →
      R connection.seated k link)
    (hstep : rtspClientOnDisconnect net timeout client c connection = some client') :
    Base timeout client' ∧ client'.sessions.length = client.sessions.length ∧
      ∀ k link, client'.link k = some link → R [] k link ∧ Seated c [] k link := by
  rw [h.onDisconnect_eq hc hsock] at hstep
  have hlength : (client.drained c connection).sessions.length = client.sessions.length := by
    exact killTimers_length client connection.inprogressRequestQueue
  rw [← hlength]
  refine (h.drained hc).raiseLoop hmono hother hraise (h.seated_nodup hc) ?_ ?_ hstart hstep
  · intro j hj
    obtain ⟨id, hid⟩ := mem_seated.mp hj
    obtain ⟨session, hs, -⟩ := h.table c connection id j hc hid
    rw [hlength]
    exact (List.getElem?_eq_some_iff.mp hs).1
  · intro k link hk
    have hs := link_session hk
    refine ⟨fun hplace => ?_, fun hj => ?_⟩
    · obtain ⟨session', -, rfl⟩ := Option.map_eq_some_iff.mp hk
      have hplace' : session'.connection = some c := hplace
      simp [Link.conn, hplace', drained_connection hc]
    · obtain ⟨id, hid⟩ := mem_seated.mp hj
      obtain ⟨session, hlink, hplace, hlive⟩ := h.live_of_table hc hsock hid
      obtain ⟨session', _, hs', hsame, -⟩ := h.drained_cases hc hs
      rw [link_session hlink] at hs'
      cases hs'
      rw [hsame]
      exact ⟨hplace, hlive⟩

end Loop

end Disconnect

end UniMrcp.Rtsp
