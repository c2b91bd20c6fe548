import UniMrcp.Mrcp.Stream

/-!
# The send loop

The loop of `mrcp_client_agent_messsage_send` and
`mrcp_server_agent_messsage_send` (`mrcpv2-transport/src`): the generator is
run into a transmit buffer until the message is complete, and what is in the
buffer is sent each time.
-/

namespace UniMrcp.Transport

open UniMrcp.Lib UniMrcp.Apt UniMrcp.Mrcp

/-- `MRCP_STREAM_BUFFER_SIZE` -/
def mrcpStreamBufferSize : Nat := 1024

/-- `mrcp_client_connection_tx_size_set`: the size of the transmit buffer for
a configured size. -/
def mrcpConnectionTxSizeSet (size : Nat) : Nat :=
  if size < mrcpStreamBufferSize then mrcpStreamBufferSize else size

/-- The loop: the message as the generator leaves it, its body as long as the
generator says, and the bytes sent.  `none` if the generator fails, or is still
incomplete at the end of the fuel. -/
def sendLoop (memory : Nat → UInt8) (size : Nat) :
    Nat → GeneratorStage → MrcpMessage → Option (MrcpMessage × Bytes)
  | 0, _, _ => none
  | fuel + 1, stage, message =>
    let result := mrcpGeneratorRun memory stage message ⟨[], size⟩
    match result.status with
    | .invalid => none
    | .complete =>
      some ({ result.message with body := result.message.body.take result.bodyLength },
        result.stream.out)
    | .incomplete =>
      match sendLoop memory size fuel result.stage result.message with
      | none => none
      | some (message, bytes) => some (message, result.stream.out ++ bytes)

/-- The bytes of a message on a connection with the configured size of the
transmit buffer.  Every pass behind the header section writes a byte of the
body, so its length is fuel enough. -/
def messageSend (memory : Nat → UInt8) (size : Nat) (message : MrcpMessage) :
    Option (MrcpMessage × Bytes) :=
  sendLoop memory (mrcpConnectionTxSizeSet size) (message.body.length + 1) .startLine message

end UniMrcp.Transport
