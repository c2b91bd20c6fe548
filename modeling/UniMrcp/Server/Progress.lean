import UniMrcp.Server.Accounting

/-!
# Messages of a client

The state machine that a message on a channel goes to.
-/

namespace UniMrcp.Server

open UniMrcp.Lib UniMrcp.Apt UniMrcp.Mrcp UniMrcp.Engine

def machineOf (s : Session) (i : Nat) : Option Machine := (s.channels[i]?).bind Channel.stateMachine

/-- The channel and the state machine that get a message of the client. -/
def receiver (s : Session) (channel : Option Nat) (message : MrcpMessage) :
    Option (Nat × Machine) :=
  (channel.or (mrcpServerChannelFind s message.channelId.resourceName)).bind (fun i =>
    (machineOf s i).map (fun machine => (i, machine)))

variable (profile : Profile) (plugin : Plugin)

theorem mrcpServerOnMessageReceive_eq (s : Session) (channel : Option Nat) (message : MrcpMessage) :
    mrcpServerOnMessageReceive profile plugin s channel message =
      match receiver s channel message with
      | none => .ok (.keep s)
      | some (i, machine) => stateMachineUpdate profile plugin s i machine message := by
  unfold mrcpServerOnMessageReceive receiver
  cases channel.or (mrcpServerChannelFind s message.channelId.resourceName) with
  | none => rfl
  | some i =>
    simp only [Option.bind_some, machineOf]
    cases (s.channels[i]?).bind Channel.stateMachine <;> rfl

/-- The session of `setupAndTermination` when it is set up. -/
def sessionSetup : List (Plugin × Input) := setupAndTermination.take 8

end UniMrcp.Server
