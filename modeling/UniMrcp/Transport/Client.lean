import UniMrcp.Apt.TimerQueue
import UniMrcp.Transport.Receive
import UniMrcp.Transport.Send

/-!
# The client of a connection

The connection agent of an MRCPv2 client
(`mrcpv2-transport/src/mrcp_client_connection.c`), for one connection and the
channels on it: sending a request, handling a received message, the timeout
of a request and the end of the connection.  All of these run in the agent's
task, one after another.

A channel is known by its place in the channel table, and so is its request
timer.  `trace` records what the channels are told, and which requests they
have sent.
-/

namespace UniMrcp.Transport

open UniMrcp.Lib UniMrcp.Apt UniMrcp.Mrcp

/-- `mrcp_control_channel_t` -/
structure ControlChannel where
  identifier : Bytes
  activeRequest : Option MrcpMessage
  deriving Repr, DecidableEq

/-- What happens at a channel: it sends a request, it is handed a message
(`on_receive`), it is told of the end of the connection (`on_disconnect`). -/
inductive ChannelEvent where
  | sent (request : MrcpMessage)
  | received (message : MrcpMessage)
  | disconnected
  deriving Repr, DecidableEq

/-- `mrcp_connection_t` with the timers and the settings of its agent.  The
keys of the channel table are distinct. -/
structure ClientConnection where
  /-- whether `sock` is not NULL -/
  sock : Bool
  channels : List ControlChannel
  distinct : (channels.map ControlChannel.identifier).Nodup
  timers : TimerQueue Nat
  requestTimeout : UInt32
  txBufferSize : Nat
  trace : List (Nat × ChannelEvent)

namespace ClientConnection

variable (connection : ClientConnection)

/-- `channel->active_request` -/
def activeRequest (channel : Nat) : Option MrcpMessage :=
  match connection.channels[channel]? with
  | some controlChannel => controlChannel.activeRequest
  | none => none

theorem distinct_modify (channels : List ControlChannel) (channel : Nat)
    (request : Option MrcpMessage) :
    (channels.modify channel (fun c => { c with activeRequest := request })).map
      ControlChannel.identifier = channels.map ControlChannel.identifier := by
  induction channels generalizing channel with
  | nil => simp
  | cons c channels ih =>
    cases channel with
    | zero => simp
    | succ channel => simp [ih]

/-- `channel->active_request = request` -/
def setActiveRequest (channel : Nat) (request : Option MrcpMessage) : ClientConnection :=
  { connection with
    channels := connection.channels.modify channel
      (fun c => { c with activeRequest := request })
    distinct := by rw [distinct_modify]; exact connection.distinct }

def setTimers (timers : TimerQueue Nat) : ClientConnection :=
  { connection with timers := timers }

def record (channel : Nat) (event : ChannelEvent) : ClientConnection :=
  { connection with trace := connection.trace ++ [(channel, event)] }

end ClientConnection

section

variable (memory : Nat → UInt8) (connection : ClientConnection) (channel : Nat)

/-- `mrcp_connection_message_receive` -/
def mrcpConnectionMessageReceive (message : MrcpMessage) : ClientConnection :=
  connection.record channel (.received message)

/-- `apt_timer_kill(channel->request_timer)` -/
def requestTimerKill : ClientConnection :=
  connection.setTimers (aptTimerKill connection.timers channel).2

/-- `mrcp_client_agent_request_cancel` -/
def mrcpClientAgentRequestCancel (message : MrcpMessage) : ClientConnection :=
  let response := mrcpResponseCreate message
  mrcpConnectionMessageReceive connection channel { response with
    startLine := { response.startLine with statusCode := statusCodeMethodFailed } }

/-- The body of the loop of `mrcp_client_agent_disconnect_raise`. -/
def channelDisconnect : ClientConnection :=
  match connection.activeRequest channel with
  | some request =>
    requestTimerKill
      ((mrcpClientAgentRequestCancel connection channel request).setActiveRequest channel none)
      channel
  | none => connection.record channel .disconnected

/-- `mrcp_client_agent_disconnect_raise`, which walks through the channel
table. -/
def mrcpClientAgentDisconnectRaise : ClientConnection :=
  (List.range connection.channels.length).foldl channelDisconnect connection

/-- The loop of `mrcp_client_agent_messsage_send`: whether anything was sent,
and the message as the generator leaves it.  `socket` says whether
`apr_socket_send` succeeds, by the number of passes left; `none` if these do
not suffice. -/
def clientSendLoop (memory : Nat → UInt8) (size : Nat) (socket : Nat → Bool) :
    Nat → GeneratorStage → MrcpMessage → Bool → Option (Bool × MrcpMessage)
  | 0, _, _, _ => none
  | passes + 1, stage, message, status =>
    let result := mrcpGeneratorRun memory stage message ⟨[], size⟩
    let status := if result.status ≠ .invalid ∧ socket passes = true then true else status
    if result.status = .incomplete then
      clientSendLoop memory size socket passes result.stage result.message status
    else some (status, result.message)

/-- `mrcp_client_agent_messsage_send` -/
def mrcpClientAgentMessageSend (socket : Nat → Bool) (passes : Nat) (connection : ClientConnection)
    (channel : Nat) (message : MrcpMessage) : Option (ClientConnection × Bool) :=
  let connection := connection.record channel (.sent message)
  if !connection.sock then
    some (mrcpClientAgentRequestCancel connection channel message, false)
  else
    match clientSendLoop memory connection.txBufferSize socket passes .startLine message
      false with
    | none => none
    | some (true, message) =>
      let connection := connection.setActiveRequest channel (some message)
      if connection.requestTimeout ≠ 0 then
        some (connection.setTimers
          (aptTimerSet connection.timers channel connection.requestTimeout).2, true)
      else some (connection, true)
    | some (false, message) =>
      some (mrcpClientAgentRequestCancel connection channel message, false)

/-- `mrcp_connection_channel_find` -/
def mrcpConnectionChannelFind (identifier : Bytes) : Option Nat :=
  connection.channels.findIdx? (fun c => c.identifier == identifier)

/-- The channel a message names. -/
def messageChannel (message : MrcpMessage) : Option Nat :=
  mrcpConnectionChannelFind connection
    (aptIdResourceGenerate message.channelId.sessionId message.channelId.resourceName 64)

/-- `mrcp_client_message_handler` -/
def mrcpClientMessageHandler (status : MessageStatus) (message : Option MrcpMessage) :
    ClientConnection × Bool :=
  match status, message with
  | .complete, some message =>
    match messageChannel connection message with
    | some channel =>
      if message.startLine.messageType = .response then
        match connection.activeRequest channel with
        | none => (connection, false)
        | some request =>
          if request.requestId ≠ message.requestId then (connection, false)
          else
            let connection :=
              (requestTimerKill connection channel).setActiveRequest channel none
            (mrcpConnectionMessageReceive connection channel message, true)
      else (mrcpConnectionMessageReceive connection channel message, true)
    | none => (connection, true)
  | _, _ => (connection, true)

/-- `mrcp_client_timer_proc` -/
def mrcpClientTimerProc : ClientConnection :=
  match connection.activeRequest channel with
  | some request =>
    (mrcpClientAgentRequestCancel connection channel request).setActiveRequest channel none
  | none => connection

/-- `apt_timer_queue_advance` on the timers of the agent's task. -/
def clientTimersAdvance (elapsedTime : UInt32) : ClientConnection :=
  aptTimerQueueAdvance ClientConnection.timers ClientConnection.setTimers mrcpClientTimerProc
    connection elapsedTime

/-- The end of the connection in `mrcp_client_poller_signal_process`. -/
def clientDisconnect : ClientConnection :=
  mrcpClientAgentDisconnectRaise { connection with sock := false }

/-! ## Steps of the agent's task -/

/-- What the agent's task does besides receiving. -/
inductive TaskStep where
  | send (memory : Nat → UInt8) (socket : Nat → Bool) (passes channel : Nat)
      (message : MrcpMessage)
  | advance (elapsedTime : UInt32)
  | disconnect

/-- A step of the agent's task, which may receive something of type `R`. -/
inductive ClientStep (R : Type) where
  | task (step : TaskStep)
  | received (r : R)

/-- The connection after a step, and what the step returns; `none` if a send
does not return. -/
def taskStep : TaskStep → Option (ClientConnection × Bool)
  | .send memory socket passes channel message =>
    if channel < connection.channels.length then
      mrcpClientAgentMessageSend memory socket passes connection channel message
    else none
  | .advance elapsedTime => some (clientTimersAdvance connection elapsedTime, true)
  | .disconnect => if connection.sock then some (clientDisconnect connection, true) else none

end

/-! ## What the handler does -/

/-- A complete message is for no channel, or is no response, or is a response
that its channel does not wait for, or is the one it waits for. -/
theorem mrcpClientMessageHandler_cases (connection : ClientConnection)
    (message : MrcpMessage) :
    (messageChannel connection message = none ∧
      mrcpClientMessageHandler connection .complete (some message) = (connection, true)) ∨
    (∃ channel, messageChannel connection message = some channel ∧
      message.startLine.messageType ≠ .response ∧
      mrcpClientMessageHandler connection .complete (some message) =
        (mrcpConnectionMessageReceive connection channel message, true)) ∨
    (∃ channel, messageChannel connection message = some channel ∧
      message.startLine.messageType = .response ∧
      (∀ request, connection.activeRequest channel = some request →
        request.requestId ≠ message.requestId) ∧
      mrcpClientMessageHandler connection .complete (some message) = (connection, false)) ∨
    (∃ channel request, messageChannel connection message = some channel ∧
      message.startLine.messageType = .response ∧
      connection.activeRequest channel = some request ∧
      request.requestId = message.requestId ∧
      mrcpClientMessageHandler connection .complete (some message) =
        (mrcpConnectionMessageReceive
          ((requestTimerKill connection channel).setActiveRequest channel none) channel
          message, true)) := by
  cases hchannel : messageChannel connection message with
  | none => exact .inl ⟨rfl, by simp [mrcpClientMessageHandler, hchannel]⟩
  | some channel =>
    refine .inr ?_
    by_cases htype : message.startLine.messageType = .response
    · refine .inr ?_
      cases hactive : connection.activeRequest channel with
      | none =>
        refine .inl ⟨channel, rfl, htype, ?_, ?_⟩
        · rw [hactive]
          intro request h
          cases h
        · simp [mrcpClientMessageHandler, hchannel, htype, hactive]
      | some request =>
        by_cases hid : request.requestId = message.requestId
        · refine .inr ⟨channel, request, rfl, htype, hactive, hid, ?_⟩
          simp [mrcpClientMessageHandler, hchannel, htype, hactive, hid]
        · refine .inl ⟨channel, rfl, htype, ?_, ?_⟩
          · intro request' h
            rw [hactive] at h
            cases h
            exact hid
          · simp [mrcpClientMessageHandler, hchannel, htype, hactive, hid]
    · refine .inl ⟨channel, rfl, htype, ?_⟩
      simp [mrcpClientMessageHandler, hchannel, htype]

end UniMrcp.Transport
