import UniMrcp.Mrcp.Stream

/-!
# The receive loop

The part of `mrcp_server_poller_signal_process` and
`mrcp_client_poller_signal_process` (`mrcpv2-transport/src`) that the two
share: append what the socket delivers to the bytes kept from before, run the
parser until the end of the stream, hand each result to the message handler,
scroll.

`held` is the buffer up to `rx_stream.pos`, where the next `apr_socket_recv`
writes.  After a scroll that is the unread rest.  A handler that returns
FALSE leaves the function before the scroll, and then it is what has been
read.
-/

namespace UniMrcp.Transport

open UniMrcp.Lib UniMrcp.Apt UniMrcp.Mrcp

/-- What a connection keeps between two receives. -/
structure RxState (M : Type) where
  parser : MessageParser M
  held : Bytes
  deriving Repr, DecidableEq

/-- A fresh connection. -/
def RxState.init (M : Type) : RxState M := ⟨aptMessageParserCreate M, []⟩

section Loop

variable {M W : Type} (vtable : ParserVtable M)
variable (handler : W → MessageStatus → Option M → W × Bool)

/-- The `do ... while` loop: the world of the handler, the parser, the stream
and whether the loop ran to its end.  Every pass consumes a byte or ends the
stream, so the number of unread bytes is fuel enough. -/
def messageLoop : Nat → W → MessageParser M → TextStream →
    W × MessageParser M × TextStream × Bool
  | 0, world, parser, stream => (world, parser, stream, true)
  | fuel + 1, world, parser, stream =>
    let result := aptMessageParserRun vtable parser stream
    let (world, accepted) := handler world result.status result.message
    if !accepted then (world, result.parser, result.stream, false)
    else if result.stream.isEnd then (world, result.parser, result.stream, true)
    else messageLoop fuel world result.parser result.stream

/-- One receive of a non-empty chunk. -/
def receive (world : W) (state : RxState M) (chunk : Bytes) : W × RxState M :=
  let text := state.held ++ chunk
  let (world, parser, stream, scrolled) :=
    messageLoop vtable handler (text.length + 1) world state.parser ⟨[], text, [], false⟩
  (world, ⟨parser, if scrolled then aptTextStreamScroll stream else stream.before⟩)

end Loop

/-- A handler that takes every message and never fails, as
`mrcp_server_message_handler` does. -/
def collect {M : Type} (messages : List M) (_ : MessageStatus) (message : Option M) :
    List M × Bool :=
  (messages ++ message.toList, true)

/-- One call of the poller on a connection whose receive buffer has `rxSize`
bytes: the messages of the chunk, or `none` when the buffer is full.  Then
`apr_socket_recv` is asked for 0 bytes and the connection is closed. -/
def pollerReceive {M : Type} (vtable : ParserVtable M) (rxSize : Nat)
    (state : RxState M) (chunk : Bytes) : Option (RxState M × List M) :=
  if state.held.length ≥ rxSize then none
  else
    let (messages, state) := receive vtable collect [] state chunk
    some (state, messages)

end UniMrcp.Transport
