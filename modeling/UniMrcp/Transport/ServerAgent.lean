import UniMrcp.Mrcp.Message

/-!
# The connection agent of the server

The channels of `mrcpv2-transport/src/mrcp_server_connection.c` and
`mrcp_connection.c`.  A channel that has been offered is attached to the null
connection, a container for channels that no client has used yet.  The first
message that names it attaches it to the connection of the client.

A channel is known by its place in `channels`.
-/

namespace UniMrcp.Transport.ServerAgent

open UniMrcp.Lib UniMrcp.Apt UniMrcp.Mrcp

/-- A connection of the agent: the null connection or an accepted one. -/
inductive Place where
  | null
  | accepted (k : Nat)
  deriving Repr, DecidableEq

/-- `mrcp_connection_t`; the keys of the channel table are identifiers. -/
structure Connection where
  channelTable : List (Bytes × Nat)
  accessCount : UInt64
  deriving Repr, DecidableEq

/-- `mrcp_control_channel_t` -/
structure ControlChannel where
  identifier : Bytes
  connection : Option Place
  deriving Repr, DecidableEq

/-- `mrcp_connection_agent_t` -/
structure Agent where
  nullConnection : Option Connection
  connections : List Connection
  channels : List ControlChannel
  deriving Repr, DecidableEq

namespace Agent

def connection (agent : Agent) : Place → Option Connection
  | .null => agent.nullConnection
  | .accepted k => agent.connections[k]?

def modifyConnection (agent : Agent) (place : Place) (f : Connection → Connection) : Agent :=
  match place with
  | .null => { agent with nullConnection := agent.nullConnection.map f }
  | .accepted k => { agent with connections := agent.connections.modify k f }

def attach (agent : Agent) (channel : Nat) (place : Option Place) : Agent :=
  { agent with
    channels := agent.channels.modify channel (fun c => { c with connection := place }) }

end Agent

section

variable (agent : Agent) (place : Place)

/-- `mrcp_connection_channel_add` of a connection that is there -/
def mrcpConnectionChannelAdd (channel : Nat) (identifier : Bytes) : Agent :=
  (agent.modifyConnection place (fun connection =>
    { channelTable := (identifier, channel) ::
        connection.channelTable.filter (fun entry => entry.1 != identifier)
      accessCount := connection.accessCount + 1 })).attach channel (some place)

/-- `mrcp_connection_channel_find` -/
def mrcpConnectionChannelFind (connection : Option Connection) (identifier : Bytes) :
    Option Nat :=
  match connection with
  | none => none
  | some connection => connection.channelTable.lookup identifier

/-- `mrcp_connection_channel_remove` of a connection that is there -/
def mrcpConnectionChannelRemove (channel : Nat) (identifier : Bytes) : Agent :=
  (agent.modifyConnection place (fun connection =>
    { channelTable := connection.channelTable.filter (fun entry => entry.1 != identifier)
      accessCount := connection.accessCount - 1 })).attach channel none

/-- `mrcp_connection_channel_associate` -/
def mrcpConnectionChannelAssociate (message : MrcpMessage) : Agent × Option Nat :=
  let identifier :=
    aptIdResourceGenerate message.channelId.sessionId message.channelId.resourceName 64
  match mrcpConnectionChannelFind (agent.connection place) identifier with
  | some channel => (agent, some channel)
  | none =>
    match mrcpConnectionChannelFind (agent.connection .null) identifier with
    | some channel =>
      let agent := mrcpConnectionChannelRemove agent .null channel identifier
      (mrcpConnectionChannelAdd agent place channel identifier, some channel)
    | none => (agent, none)

/-- What the handler of a received message does: the message goes to a
channel, or a response goes back. -/
inductive Handled where
  | receive (channel : Nat) (message : MrcpMessage)
  | reply (response : MrcpMessage)
  | nothing
  deriving Repr, DecidableEq

/-- `mrcp_server_message_handler` -/
def mrcpServerMessageHandler (status : MessageStatus) (message : Option MrcpMessage) :
    Agent × Handled :=
  match status, message with
  | .complete, some message =>
    match mrcpConnectionChannelAssociate agent place message with
    | (agent, some channel) => (agent, .receive channel message)
    | (agent, none) => (agent, .nothing)
  | .invalid, some message =>
    if message.resource.isSome then
      let response := mrcpResponseCreate message
      (agent, .reply { response with
        startLine := { response.startLine with statusCode := statusCodeUnrecognizedMessage } })
    else (agent, .nothing)
  | _, _ => (agent, .nothing)

end

end UniMrcp.Transport.ServerAgent
