import UniMrcp.Lib.Runs
import UniMrcp.Rtsp.ClientDisconnect

/-!
# Every request is responded to once

For a session that is not terminating, the requests that have been submitted
are those that have been responded to, followed by those that wait, in the same
order; and the first one that waits is in progress, so that any response that
carries its CSeq, and its timeout, makes it the next one that is responded to.

This is lost exactly when a connection is closed with a request in progress of
a session that is not terminating: the request is taken from the queue before
it is cancelled.
-/

namespace UniMrcp.Rtsp

open UniMrcp.Lib UniMrcp.Lib.Runs UniMrcp.Apt

/-- The request is the next one that the application gets a response for. -/
def Answered (client client' : Client) (j : Nat) (request : Message) : Prop :=
  ∃ session session' more, client.sessions[j]? = some session ∧
    client'.sessions[j]? = some session' ∧
    session'.responded = session.responded ++ request :: more

/-- Any response that carries the CSeq of the request, and also the timer of
the session, answers the request. -/
structure Answerable (timeout : Nat) (client : Client) (j : Nat) (session : ClientSession)
    (request : Message) : Prop where
  response : ∃ c connection, session.connection = some c ∧
    client.connections[c]? = some connection ∧ connection.sock = true ∧
    ∀ net response, response.isResponse = true → response.header.cseq = request.header.cseq →
      Answered client (rtspClientMessageHandler net timeout client c response) j request
  timer : timeout ≠ 0 → ∀ net, ∃ client',
    clientStep timeout client (net, .timer j) = some client' ∧ Answered client client' j request

/-- Every request of a session that is not terminating is responded to once and
in order, or it waits for that. -/
def RequestsAnswered (timeout : Nat) (client : Client) : Prop :=
  ∀ (j : Nat) (session : ClientSession), client.sessions[j]? = some session →
    session.submitted.map Message.content =
      (session.responded ++ session.awaiting).map Message.content ∧
    ∀ request rest, session.awaiting = request :: rest →
      Answerable timeout client j session request

/-- A connection is closed with a request in progress of a session that is not
terminating. -/
def Loses (client : Client) (input : Net × ClientInput) : Prop :=
  ∃ (c : Nat) (connection : ClientConnection) (j : Nat) (session : ClientSession),
    input.2 = .disconnect c ∧ client.connections[c]? = some connection ∧ connection.sock = true ∧
      j ∈ connection.inprogressRequestQueue ∧ client.sessions[j]? = some session ∧
      session.termState ≠ .inprogress

/-- Sessions that have not been used; they may share connections. -/
structure Start (client : Client) : Prop where
  sessions : ∀ (j : Nat) (session : ClientSession), client.sessions[j]? = some session →
    session.log = [] ∧ session.activeRequest = none ∧ session.pendingRequestQueue = [] ∧
      session.requestTimer = false ∧ session.resourceTable = ∅ ∧ session.termState = .none
  attached : ∀ (j : Nat) (session : ClientSession) (c : Nat),
    client.sessions[j]? = some session → session.connection = some c →
      ∃ connection, client.connections[c]? = some connection ∧ j ∈ connection.handleTable
  connections : ∀ (c : Nat) (connection : ClientConnection),
    client.connections[c]? = some connection →
      connection.inprogressRequestQueue = [] ∧ connection.sessionTable = ∅

/-- The invariant behind it. -/
structure Kept (timeout : Nat) (client : Client) : Prop where
  base : Base timeout client
  links : ∀ k link, client.link k = some link → Accounts link.session [] ∧ Flown k link

section Start

variable {timeout j : Nat} {client : Client} {connection : ClientConnection}
  {session : ClientSession}

/-- A session that has not been used, on a connection where nothing is in
progress. -/
theorem owned_of_fresh (hlog : session.log = [])
    (hpending : session.pendingRequestQueue = []) (htimer : session.requestTimer = false)
    (hresources : session.resourceTable = ∅) (hhandle : j ∈ connection.handleTable)
    (hqueue : connection.inprogressRequestQueue = []) (htable : connection.sessionTable = ∅) :
    Owned timeout j connection session where
  queued := fun hj => by rw [hqueue] at hj; cases hj
  timed := fun ht => by rw [htimer] at ht; cases ht
  handle := fun _ => hhandle
  idle := fun _ => hpending
  tables := by
    refine ⟨fun e he => ?_, fun id hid => ?_⟩
    · rw [hresources] at he
      cases he
    · rw [htable] at hid
      cases hid
  gone := fun hgone => by
    rw [ClientSession.gone, hlog] at hgone
    cases hgone

theorem Start.base (h : Start client) : Base timeout client where
  attached := fun j session c hs hplace => by
    obtain ⟨hlog, hactive, hpending, htimer, hresources, -⟩ := h.sessions j session hs
    obtain ⟨connection, hc, hhandle⟩ := h.attached j session c hs hplace
    obtain ⟨hqueue, htable⟩ := h.connections c connection hc
    exact ⟨connection, hc, owned_of_fresh hlog hpending htimer hresources hhandle hqueue htable⟩
  bare := fun j session hs _ => by
    obtain ⟨hlog, hactive, hpending, htimer, hresources, -⟩ := h.sessions j session hs
    exact ⟨⟨hactive, htimer⟩, fun _ => owned_of_fresh hlog hpending htimer hresources
      (by simp [rtspClientConnectionCreate]) rfl rfl⟩
  nodup := fun c connection hc => by
    rw [(h.connections c connection hc).1]
    exact List.nodup_nil
  queue := fun c connection hc j hj => by
    rw [(h.connections c connection hc).1] at hj
    cases hj
  table := fun c connection id j hc hid => by
    rw [(h.connections c connection hc).2] at hid
    cases hid
  cseq := fun c connection hc j hj => by
    rw [(h.connections c connection hc).1] at hj
    cases hj

theorem accounts_of_fresh (hlog : session.log = []) (hactive : session.activeRequest = none)
    (hpending : session.pendingRequestQueue = []) : Accounts session [] := by
  simp [Accounts, ClientSession.submitted, ClientSession.responded, hlog, hactive, hpending]

theorem Start.kept (h : Start client) : Kept timeout client := by
  refine ⟨h.base, fun k link hk => ?_⟩
  obtain ⟨hlog, hactive, hpending, -⟩ := h.sessions k _ (link_session hk)
  refine ⟨accounts_of_fresh hlog hactive hpending, fun hsome => ?_⟩
  rw [hactive] at hsome
  cases hsome

/-- The sessions after one has been created. -/
theorem created_getElem? {session' : ClientSession} {k : Nat} (client : Client)
    (session : ClientSession)
    (hk : (client.sessions ++ [session])[k]? = some session') :
    client.sessions[k]? = some session' ∨ (client.sessions.length = k ∧ session' = session) := by
  grind

theorem getElem?_created {k : Nat} (session' : ClientSession)
    (hk : client.sessions[k]? = some session) :
    (client.sessions ++ [session'])[k]? = some session :=
  (List.getElem?_append_left (List.getElem?_eq_some_iff.mp hk).1).trans hk

/-- A session is created. -/
theorem Base.created (h : Base timeout client) (serverIp : Bytes) (serverPort : Nat)
    (resourceLocation : Bytes) :
    Base timeout { client with sessions := client.sessions ++
      [rtspClientSessionCreate serverIp serverPort resourceLocation] } where
  attached := fun j session c hs hplace => by
    rcases created_getElem? client _ hs with hs | ⟨-, rfl⟩
    · exact h.attached j session c hs hplace
    · cases hplace
  bare := fun j session hs hplace => by
    rcases created_getElem? client _ hs with hs | ⟨-, rfl⟩
    · exact h.bare j session hs hplace
    · exact ⟨⟨rfl, rfl⟩, fun _ => owned_of_fresh rfl rfl rfl rfl
        (by simp [rtspClientConnectionCreate]) rfl rfl⟩
  nodup := h.nodup
  queue := fun c connection hc j hj => by
    obtain ⟨session, hs, hplace⟩ := h.queue c connection hc j hj
    exact ⟨session, getElem?_created _ hs, hplace⟩
  table := fun c connection id j hc hid => by
    obtain ⟨session, hs, hplace⟩ := h.table c connection id j hc hid
    exact ⟨session, getElem?_created _ hs, hplace⟩
  cseq := fun c connection hc a ha b hb sa sb hsa hsb => by
    obtain ⟨sa', hsa', -⟩ := h.queue c connection hc a ha
    obtain ⟨sb', hsb', -⟩ := h.queue c connection hc b hb
    rw [getElem?_created _ hsa'] at hsa
    rw [getElem?_created _ hsb'] at hsb
    exact h.cseq c connection hc a ha b hb sa sb (hsa ▸ hsa') (hsb ▸ hsb')

/-- The links after a session has been created. -/
theorem created_link {link : Link} {k : Nat} {serverIp resourceLocation : Bytes} {serverPort : Nat}
    (hk : ({ client with sessions := client.sessions ++
      [rtspClientSessionCreate serverIp serverPort resourceLocation] }
        : Client).link k = some link) :
    client.link k = some link ∨
      link = ⟨none, rtspClientSessionCreate serverIp serverPort resourceLocation⟩ := by
  unfold Client.link at hk ⊢
  obtain ⟨session, hs, rfl⟩ := Option.map_eq_some_iff.mp hk
  rcases created_getElem? client _ hs with hs | ⟨-, rfl⟩
  · rw [hs]
    exact .inl rfl
  · exact .inr rfl

end Start

/-! ## The steps keep the invariant -/

section Kept

variable {net : Net} {timeout c j : Nat} {client client' : Client} {connection : ClientConnection}
  {link link' : Link} {session : ClientSession}

theorem Flown.other {k : Nat} (hk : k ≠ j) (hstep : Stepped timeout j link link')
    (h : Flown k ⟨some (link.conn j), session⟩) :
    Flown k ⟨some (link'.conn j), session⟩ := fun hsome =>
  (h hsome).imp (hstep.members k hk).mpr id

theorem Kept.store (h : Kept timeout client) (hlink : client.link j = some link)
    (hstep : Stepped timeout j link link') (haccounts : Accounts link'.session []) :
    Kept timeout (client.store j link') := by
  refine ⟨h.base.store hlink hstep, fun k l hk => ?_⟩
  refine h.base.forall_links hlink hstep
    (fun k l _ hk => h.links k l hk) (fun p _ => ⟨haccounts.of_eq rfl rfl rfl, ?_⟩)
    (fun k session hk ⟨haccounts, hflown⟩ => ⟨haccounts, hflown.other hk hstep⟩) hk
  exact hstep.flown (h.links j link hlink).2

theorem Kept.created (h : Kept timeout client) (serverIp : Bytes) (serverPort : Nat)
    (resourceLocation : Bytes) :
    Kept timeout { client with sessions := client.sessions ++
      [rtspClientSessionCreate serverIp serverPort resourceLocation] } := by
  refine ⟨h.base.created serverIp serverPort resourceLocation, fun k link hk => ?_⟩
  rcases created_link hk with hk | rfl
  · exact h.links k link hk
  · exact ⟨accounts_of_fresh rfl rfl rfl, fun hsome => by cases hsome⟩

/-- The links after the first loop of a disconnect. -/
theorem Base.drained_link (h : Base timeout client)
    (hc : client.connections[c]? = some connection) {k : Nat} {link : Link}
    (hk : (client.drained c connection).link k = some link) :
    ∃ link0 timer, client.link k = some link0 ∧
      link.session = { link0.session with requestTimer := timer } ∧
      ((link.session.connection = some c ∧ link0.connection = some connection ∧
          link.connection = some { connection with sock := false, inprogressRequestQueue := [] }) ∨
        (link.session.connection ≠ some c ∧ link.connection = link0.connection)) := by
  obtain ⟨session, timer, hs, hsession, -⟩ := h.drained_cases hc (link_session hk)
  have hplace : session.connection = link.session.connection := by rw [hsession]
  refine ⟨_, timer, link_of_session hs, hsession, ?_⟩
  · have hconnection : link.connection =
        link.session.connection.bind ((client.drained c connection).connections[·]?) := by
      obtain ⟨session', -, rfl⟩ := Option.map_eq_some_iff.mp hk
      rfl
    rw [hconnection, hplace]
    cases hd : link.session.connection with
    | none => exact .inr ⟨by simp, rfl⟩
    | some d =>
      by_cases hdc : d = c
      · subst hdc
        exact .inl ⟨rfl, hc, drained_connection hc⟩
      · exact .inr ⟨by simpa using hdc, drained_other hdc⟩

/-- What a raised termination adds to the history of requests. -/
theorem Raised.history (h : Raised link link') :
    link'.session.submitted = link.session.submitted ∧
      ∃ more : List Message, link'.session.responded = link.session.responded ++ more ∧
        more.length ≤ link.session.pendingRequestQueue.length ∧
        (link.session.termState = .inprogress → more = []) := by
  obtain ⟨answers, hlog, hlength, hall, hnone⟩ := h.log
  have hsubmitted : answers.filterMap Note.submission = [] := by
    rw [List.filterMap_eq_nil_iff]
    intro a ha
    obtain ⟨m, m', rfl⟩ := hall a ha
    rfl
  refine ⟨?_, answers.filterMap Note.answer, ?_, (List.length_filterMap_le _ _).trans hlength,
    fun hterm => ?_⟩
  · rw [ClientSession.submitted, hlog, List.filterMap_append, List.filterMap_append, hsubmitted]
    split <;> simp [ClientSession.submitted]
  · rw [ClientSession.responded, hlog, List.filterMap_append]
    split <;> simp [ClientSession.responded]
  · rw [hnone hterm]
    rfl

/-- A session that has nothing in progress, or is terminating, loses nothing
when its termination is raised. -/
theorem Raised.accounts (h : Raised link link') (hidle : link.session.Idle)
    (haccounts : Accounts link.session [])
    (hnone : link.session.activeRequest = none ∨ link.session.termState = .inprogress) :
    Accounts link'.session [] := by
  obtain ⟨hsubmitted, more, hresponded, hlength, hmore⟩ := h.history
  have hbefore : link.session.submitted.map Message.content =
      link.session.responded.map Message.content := by
    rcases hnone with hactive | hterm
    · simpa [Accounts, hactive, hidle hactive] using haccounts
    · simpa [Accounts, ClientSession.terminating, hterm] using haccounts
  have hnil : more = [] := by
    rcases hnone with hactive | hterm
    · rw [hidle hactive] at hlength
      exact List.eq_nil_of_length_eq_zero (Nat.le_zero.mp hlength)
    · exact hmore hterm
  rw [hnil, List.append_nil] at hresponded
  have hafter : (if link'.session.terminating then [] else
      [] ++ link'.session.activeRequest.toList ++ link'.session.pendingRequestQueue) = [] := by
    rcases hnone with hactive | hterm
    · rw [h.active, hactive, h.pending]
      simp
    · have hgone : link'.session.gone = true := by
        obtain ⟨answers, hlog, -⟩ := h.log
        rw [ClientSession.gone, hlog, if_neg (by rw [hterm]; simp)]
        simp
      rw [ClientSession.terminating, hgone, Bool.or_true, if_pos rfl]
  rw [Accounts, hafter, List.append_nil, hsubmitted, hresponded]
  exact hbefore

theorem Kept.disconnect (h : Kept timeout client)
    (hc : client.connections[c]? = some connection) (hsock : connection.sock = true)
    (hkeeps : ¬ Loses client (net, .disconnect c))
    (hstep : rtspClientOnDisconnect net timeout client c connection = some client') :
    Kept timeout client' := by
  have hend := h.base.disconnect (R := fun _ k l => Accounts l.session [] ∧ Flown k l) hc hsock
    (fun _ _ _ _ _ h => h)
    (fun _ _ _ _ _ _ hk hstep ⟨haccounts, hflown⟩ => ⟨haccounts, hflown.other hk hstep⟩)
    ?_ ?_ hstep
  · exact ⟨hend.1, fun k link hk => (hend.2.2 k link hk).1⟩
  · intro j js link link' ⟨haccounts, hflown⟩ hlive howned hclosed hstepped hraised
    refine ⟨hraised.accounts howned.idle haccounts ?_, hstepped.flown hflown⟩
    cases hactive : link.session.activeRequest with
    | none => exact .inl rfl
    | some request =>
      refine .inr ?_
      rcases hflown (by rw [hactive]; rfl) with hmem | hterm
      · rw [(howned.queued hmem).1] at hclosed
        cases hclosed
      · simpa [ClientSession.terminating, hlive] using hterm
  · intro k link hk
    obtain ⟨link0, _, hlink0, hsession, hplaces⟩ := h.base.drained_link hc hk
    obtain ⟨haccounts, hflown⟩ := h.links k link0 hlink0
    obtain ⟨_, session⟩ := link
    obtain rfl : session = _ := hsession
    refine ⟨haccounts.of_eq rfl rfl rfl, fun hsome => ?_⟩
    rcases hplaces with ⟨-, hconn0, -⟩ | ⟨-, hconn⟩
    · -- what was in the queue of this connection is terminating
      refine .inr ((hflown hsome).elim (fun hmem => ?_) id)
      rw [Link.conn, hconn0] at hmem
      have hterm : link0.session.termState = .inprogress := by
        by_contra hne
        exact hkeeps ⟨c, connection, k, link0.session, rfl, hc, hsock, hmem, link_session hlink0,
          hne⟩
      simp [ClientSession.terminating, hterm]
    · obtain rfl : _ = link0.connection := hconn
      exact hflown hsome

theorem Kept.step (h : Kept timeout client) {input : Net × ClientInput}
    (hkeeps : ¬ Loses client input) (hstep : clientStep timeout client input = some client') :
    Kept timeout client' := by
  obtain ⟨net, input⟩ := input
  cases clientStep_outcome h.base hstep with
  | nothing => exact h
  | created serverIp serverPort resourceLocation =>
    exact h.created serverIp serverPort resourceLocation
  | moved found handled =>
    obtain ⟨hstepped, haccounts⟩ := handled.stepped h.base found
      (fun _ : True => (h.links _ _ found).1)
    exact h.store found hstepped (haccounts trivial)
  | disconnected found sock left => exact h.disconnect found sock hkeeps left

/-! ## What the invariant says -/

/-- The session after a step of it. -/
theorem Base.store_session (h : Base timeout client) (hlink : client.link j = some link)
    (hstep : Stepped timeout j link link') :
    ∃ p, (client.store j link').sessions[j]? = some { link'.session with connection := p } := by
  have hj : j < client.sessions.length := (List.getElem?_eq_some_iff.mp (link_session hlink)).1
  have hstored := h.stored hlink hstep
  generalize client.store j link' = client' at hstored ⊢
  cases hstored with
  | put c connections placed attached here others =>
    exact ⟨some c, List.getElem?_set_self hj⟩
  | bare before after => exact ⟨link'.session.connection, List.getElem?_set_self hj⟩

/-- The response to the request in progress is the next one. -/
theorem Kept.answered (h : Kept timeout client) {request : Message}
    (hc : client.connections[c]? = some connection)
    (hq : Queued timeout client c connection j link request)
    (hterm : link.session.termState ≠ .inprogress) (net : Net) (response : Message) :
    Answered client (client.store j (responseHandle net timeout j (rtspClientRequestPop j link)
      request response)) j request := by
  have howned : Owned timeout j (link.conn j) link.session := by rw [hq.conn_eq]; exact hq.owned
  have hnodup : (link.conn j).inprogressRequestQueue.Nodup := by
    rw [hq.conn_eq]
    exact h.base.nodup c connection hc
  obtain ⟨hstepped, -, hprefix⟩ := response_stepped net response howned hnodup
    hq.live (fun _ : True => (h.links j link hq.found).1) hq.active
  obtain ⟨p, hs'⟩ := h.base.store_session hq.found hstepped
  have htables : Tables j ((rtspClientRequestPop j link).conn j)
      (rtspClientRequestPop j link).session :=
    howned.tables.of_eq (by rw [requestPop_conn]) rfl rfl
  have hterm' : (rtspClientRequestPop j link).session.termState ≠ .inprogress := hterm
  rw [responseProcess_log (rtspClientRequestPop j link) request response htables,
    if_neg hterm'] at hprefix
  obtain ⟨more, hmore⟩ := hprefix
  refine ⟨link.session, _, more.filterMap Note.answer, link_session hq.found, hs', ?_⟩
  rw [ClientSession.responded, ← hmore, List.filterMap_append]
  simp [ClientSession.responded, rtspClientRequestPop]

theorem Kept.requestsAnswered (h : Kept timeout client) : RequestsAnswered timeout client := by
  intro j session hs
  obtain ⟨link, hlink, rfl⟩ : ∃ link, client.link j = some link ∧ link.session = session :=
    ⟨_, link_of_session hs, rfl⟩
  obtain ⟨haccounts, hflown⟩ := h.links j link hlink
  refine ⟨accounts_iff.mp haccounts, fun request rest hawaiting => ?_⟩
  have hterminating : link.session.terminating = false := by
    by_contra hterm
    rw [ClientSession.awaiting, if_pos (by simpa using hterm)] at hawaiting
    cases hawaiting
  have hterm : link.session.termState ≠ .inprogress := fun hterm => by
    simp [ClientSession.terminating, hterm] at hterminating
  have hlive : link.session.gone = false := by
    rw [ClientSession.terminating, Bool.or_eq_false_iff] at hterminating
    exact hterminating.2
  rw [ClientSession.awaiting, hterminating, if_neg (by simp)] at hawaiting
  have howned := h.base.owned hlink (.inr hlive)
  have hactive : link.session.activeRequest = some request := by
    cases hactive : link.session.activeRequest with
    | none =>
      rw [hactive, howned.idle hactive] at hawaiting
      cases hawaiting
    | some active =>
      rw [hactive] at hawaiting
      simp only [Option.toList_some, List.cons_append, List.cons.injEq]
        at hawaiting
      rw [hawaiting.1]
  have hmem : j ∈ (link.conn j).inprogressRequestQueue :=
    (hflown (by rw [hactive]; rfl)).resolve_right (by rw [hterminating]; simp)
  rcases h.base.link_cases hlink with ⟨c, hplace, hc, hconn, -⟩ | ⟨-, hconn, -⟩
  · obtain ⟨link', request', hq⟩ := h.base.queued hc hmem
    obtain rfl : link' = link := Option.some.inj (hq.found.symm.trans hlink)
    obtain rfl : request' = request := Option.some.inj (hq.active.symm.trans hactive)
    obtain ⟨hsock, -, htimer, -⟩ := howned.queued hmem
    refine ⟨⟨c, _, hplace, hc, hsock, fun net response hr hcseq => ?_⟩, fun htimeout net => ?_⟩
    · rw [messageHandler_response hr hc, h.base.responseReceive_eq hc hq hcseq]
      exact h.answered hc hq hterm net response
    · have hset : link'.session.requestTimer = true := by rw [htimer]; simpa using htimeout
      obtain ⟨c', connection', request'', hc', hq', heq⟩ := h.base.timer_eq hlink hset net
      cases hq'.active.symm.trans hactive
      exact ⟨_, heq, h.answered hc' hq' hterm net _⟩
  · rw [h.base.idle_of_bare hlink hconn] at hactive
    cases hactive

/-- What the application has not got a response for is more than what waits
behind the request in progress. -/
def Overdue (session : ClientSession) : Prop :=
  session.activeRequest.isSome = true ∧
    session.responded.length + session.pendingRequestQueue.length < session.submitted.length

theorem Raised.overdue (h : Raised link link') (hover : Overdue link.session) :
    Overdue link'.session := by
  obtain ⟨hsubmitted, more, hresponded, hlength, -⟩ := h.history
  obtain ⟨hactive, hcount⟩ := hover
  refine ⟨by rw [h.active]; exact hactive, ?_⟩
  rw [hsubmitted, hresponded, h.pending, List.length_append, List.length_nil]
  omega

/-- A request that waits on a connection that is closed. -/
theorem not_answered_of_closed {active : Message} (hs : client.sessions[j]? = some session)
    (hplace : session.connection = some c) (hc : client.connections[c]? = some connection)
    (hclosed : connection.sock = false) (hterm : session.terminating = false)
    (hactive : session.activeRequest = some active) :
    ¬ RequestsAnswered timeout client := by
  intro hanswered
  have hawaiting : session.awaiting = active :: session.pendingRequestQueue := by
    rw [ClientSession.awaiting, hterm, hactive]
    rfl
  obtain ⟨c', connection', hplace', hc', hopen, -⟩ :=
    ((hanswered j session hs).2 _ _ hawaiting).response
  cases hplace.symm.trans hplace'
  cases hc.symm.trans hc'
  rw [hopen] at hclosed
  cases hclosed

theorem Kept.lost (h : Kept timeout client) {input : Net × ClientInput}
    (hloses : Loses client input) (hstep : clientStep timeout client input = some client') :
    ¬ RequestsAnswered timeout client' := by
  obtain ⟨net, input⟩ := input
  obtain ⟨c, connection, j, session, hinput, hc, hsock, hj, hs, hterm⟩ := hloses
  obtain rfl : input = .disconnect c := hinput
  obtain ⟨link, request, hq⟩ := h.base.queued hc hj
  cases (link_session hq.found).symm.trans hs
  have hterminating : link.session.terminating = false := by
    simp [ClientSession.terminating, hterm, hq.live]
  have hover : Overdue link.session := by
    refine ⟨by rw [hq.active]; rfl, ?_⟩
    have hcount := congrArg List.length (h.links j link hq.found).1
    simp only [hterminating, Bool.false_eq_true, if_false, hq.active, List.length_map,
      List.length_append, Option.toList_some, List.length_singleton] at hcount
    omega
  rw [clientStep_disconnect hc hsock] at hstep
  have hdrained : ∀ k link', (client.drained c connection).link k = some link' → k = j →
      link'.session.connection = some c ∧ Overdue link'.session := by
    intro k link' hk hkj
    subst hkj
    obtain ⟨link0, _, hlink0, hsession, -⟩ := h.base.drained_link hc hk
    cases hlink0.symm.trans hq.found
    rw [hsession]
    exact ⟨hq.place, hover⟩
  obtain ⟨hbase, hlength, hend⟩ := h.base.disconnect
    (R := fun _ k l => k = j → l.session.connection = some c ∧ Overdue l.session) hc hsock
    (fun _ _ _ _ _ h => h) (fun _ _ _ _ _ _ _ _ h => h)
    (fun k _ link link' hR _ _ _ _ hraised hk =>
      ⟨hraised.index.trans (hR hk).1, hraised.overdue (hR hk).2⟩)
    hdrained hstep
  have hj' : j < client'.sessions.length :=
    hlength ▸ (List.getElem?_eq_some_iff.mp hs).1
  obtain ⟨link', hlink'⟩ : ∃ link', client'.link j = some link' :=
    ⟨_, link_of_session (List.getElem?_eq_getElem hj')⟩
  obtain ⟨hR, hseated⟩ := hend j link' hlink'
  obtain ⟨hplace, hactive, hcount⟩ := hR rfl
  intro hanswered
  obtain ⟨haccounts, hanswerable⟩ := hanswered j link'.session (link_session hlink')
  obtain ⟨active, hactive⟩ := Option.isSome_iff_exists.mp hactive
  cases hterm' : link'.session.terminating with
  | true =>
    -- the history is closed, and it is not complete
    have hlengths := congrArg List.length haccounts
    rw [ClientSession.awaiting, hterm', if_pos rfl, List.append_nil, List.length_map,
      List.length_map] at hlengths
    omega
  | false =>
    rcases hbase.link_cases hlink' with ⟨c', hplace', hc', -, -⟩ | ⟨hplace', -, -⟩
    · cases hplace.symm.trans hplace'
      exact not_answered_of_closed (link_session hlink') hplace hc' (hseated.closed hplace).2
        hterm' hactive hanswered
    · rw [hplace] at hplace'
      cases hplace'

/-- In every run from sessions that have not been used, every request of a
session that is not terminating is responded to once and in order, as long as
no connection is closed with such a request in progress; and whatever step
closes one loses a request. -/
theorem requests_answered_iff (timeout : Nat) (client : Client) (hstart : Start client)
    (inputs : List (Net × ClientInput)) :
    Always (clientStep timeout) (RequestsAnswered timeout) client inputs ↔
      Along (clientStep timeout) (fun client input => ¬ Loses client input) client inputs :=
  always_iff_along (fun _ h => h.requestsAnswered)
    (fun _ _ _ h _ hkeeps hstep => h.step hkeeps hstep)
    (fun _ _ _ h _ hanswered hstep hloses => h.lost hloses hstep hanswered) inputs client
    hstart.kept (Along.true inputs client)

/-- Two sessions that share a connection. -/
def sharedClient : Client :=
  let session := rtspClientSessionCreate (bytesOf "10.0.0.1") 1554 []
  ⟨[{ session with connection := some 0 }, { session with connection := some 0 }],
    [⟨true, [0, 1], ∅, [], 0⟩]⟩

theorem sharedClient_start : Start sharedClient where
  sessions := fun j session hs => by
    have hmem := List.mem_of_getElem? hs
    simp only [sharedClient, List.mem_cons, List.not_mem_nil, or_false, or_self] at hmem
    rw [hmem]
    exact ⟨rfl, rfl, rfl, rfl, rfl, rfl⟩
  attached := fun j session c hs hc => by
    have hlt : j < 2 := (List.getElem?_eq_some_iff.mp hs).1
    have hmem := List.mem_of_getElem? hs
    simp only [sharedClient, List.mem_cons, List.not_mem_nil, or_false, or_self] at hmem
    rw [hmem] at hc
    cases hc
    refine ⟨⟨true, [0, 1], ∅, [], 0⟩, rfl, ?_⟩
    simp only [List.mem_cons]
    omega
  connections := fun c connection hc => by
    have hmem := List.mem_of_getElem? hc
    simp only [sharedClient, List.mem_singleton] at hmem
    rw [hmem]
    exact ⟨rfl, rfl⟩

def setupRequest : Message := rtspRequestCreate .setup (some (bytesOf "speechsynthesizer"))

def openNet : Net := ⟨true, fun _ => true⟩

theorem requests_answered_shared :
    Start sharedClient ∧
      (Always (clientStep 5000) (RequestsAnswered 5000) sharedClient
          [(openNet, .request 0 setupRequest), (openNet, .request 1 setupRequest),
            (openNet, .timer 1)] ↔
        Along (clientStep 5000) (fun client input => ¬ Loses client input) sharedClient
          [(openNet, .request 0 setupRequest), (openNet, .request 1 setupRequest),
            (openNet, .timer 1)]) :=
  ⟨sharedClient_start, requests_answered_iff 5000 sharedClient sharedClient_start _⟩

/-- The first SETUP of a session is sent, and the connection is closed: the
application gets no response, and the timer is not set any more. -/
theorem request_lost_on_disconnect :
    ∃ client ∈ after (clientStep 5000) ⟨[], []⟩
        [(openNet, .create (bytesOf "10.0.0.1") 1554 []), (openNet, .request 0 setupRequest),
          (openNet, .disconnect 0)],
      ((∃ session ∈ client.sessions[0]?, session.submitted = [setupRequest] ∧
          session.responded = [] ∧ session.terminating = false ∧
          session.requestTimer = false) ∧
        ∀ connection ∈ client.connections, connection.sock = false ∧
          connection.inprogressRequestQueue = []) ∧
      ¬ RequestsAnswered 5000 client := by
  refine ⟨_, rfl, by decide +kernel, ?_⟩
  exact not_answered_of_closed (j := 0) (c := 0) rfl rfl rfl rfl (by decide +kernel) rfl

end Kept

/-! ## Every run -/

theorem Base.step {timeout : Nat} {client client' : Client} {input : Net × ClientInput}
    (h : Base timeout client) (hstep : clientStep timeout client input = some client') :
    Base timeout client' := by
  obtain ⟨net, input⟩ := input
  cases clientStep_outcome h hstep with
  | nothing => exact h
  | created serverIp serverPort resourceLocation =>
    exact h.created serverIp serverPort resourceLocation
  | moved found handled => exact h.store found (handled.stepped h found False.elim).1
  | disconnected found sock left =>
    -- nothing else is asked of the sessions the loop has passed
    refine (h.disconnect (R := fun _ _ _ => True) found sock ?_ ?_ ?_ ?_ left).1 <;> simp

/-- Whatever happens, sessions and connections agree on what is in progress,
and no two requests in progress on a connection have the same CSeq. -/
theorem client_consistent (timeout : Nat) (client : Client) (hstart : Start client)
    (inputs : List (Net × ClientInput)) :
    Always (clientStep timeout) (Base timeout) client inputs :=
  always_of_along (fun _ _ _ h _ hstep => h.step hstep) inputs client hstart.base
    (Along.true inputs client)

theorem client_consistent_shared :
    Always (clientStep 5000) (Base 5000) sharedClient
      [(openNet, .request 0 setupRequest), (openNet, .request 1 setupRequest),
        (openNet, .disconnect 0)] :=
  client_consistent 5000 sharedClient sharedClient_start _

end UniMrcp.Rtsp
