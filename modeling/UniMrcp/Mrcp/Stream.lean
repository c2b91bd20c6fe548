import UniMrcp.Mrcp.Message

/-!
# MRCP stream parser and generator

A model of `mrcp/control/src/mrcp_stream.c`: the vtables that make the text
message parser and generator those of MRCP.
-/

namespace UniMrcp.Mrcp

open UniMrcp.Lib UniMrcp.Apt

/-- `mrcp_parser_t` without its base: the factory, and the resource for the
messages of version 1, which do not name theirs. -/
structure MrcpParserObject where
  factory : ResourceFactory
  resource : Option MrcpResource

section

variable (parser : MrcpParserObject)

/-- `mrcp_parser_on_start` behind the reading of the line. -/
def mrcpStartLineMessage (line : AptStr) : Option MrcpMessage :=
  match mrcpStartLineParse line with
  | none => none
  | some startLine =>
    let message := { mrcpMessageCreate with startLine := startLine }
    if startLine.version = .v1 then
      match parser.resource with
      | none => none
      | some resource =>
        let message := { message with
          channelId := { message.channelId with resourceName := resource.name } }
        let (ok, message) := mrcpMessageResourceSet message resource
        if ok then some message else none
    else some message

/-- `mrcp_parser_on_start` -/
def mrcpParserOnStart (stream : TextStream) : Option MrcpMessage × TextStream :=
  let (ok, line, stream) := aptTextLineRead stream
  if ok then (mrcpStartLineMessage parser line, stream) else (none, stream)

/-- The channel identifier and the resource of a version 2 message in
`mrcp_parser_on_header_complete`. -/
def mrcpParserResourceSet (message : MrcpMessage) : Bool × MrcpMessage :=
  match mrcpChannelIdParse message.channelId message.header with
  | none => (false, message)
  | some (channelId, header) =>
    let message := { message with channelId := channelId, header := header }
    match mrcpResourceFind parser.factory channelId.resourceName with
    | none => (false, message)
    | some resource => mrcpMessageResourceSet message resource

/-- `mrcp_parser_on_header_complete`: the status, the message and the length
of its body. -/
def mrcpParserOnHeaderComplete (message : MrcpMessage) : Bool × MrcpMessage × Nat :=
  let (ok, message) :=
    if message.startLine.version = .v2 then mrcpParserResourceSet parser message
    else (true, message)
  if !ok then (false, message, 0)
  else
    let message := { message with header := mrcpHeaderFieldsParse message.header }
    let length :=
      match message.header.data with
      | none => 0
      | some data =>
        if mrcpGenericHeaderPropertyCheck message genericHeaderContentLength then
          data.generic.contentLength
        else 0
    (true, message, length)

/-- The vtable of the MRCP parser. -/
def mrcpParserVtable : ParserVtable MrcpMessage where
  onStart := mrcpParserOnStart parser
  header message := message.header.headerSection
  setHeader message fields :=
    { message with header := { message.header with headerSection := fields } }
  onHeaderComplete := mrcpParserOnHeaderComplete parser
  setBody message body := { message with body := body }

end

/-- `mrcp_parser_run` -/
def mrcpParserRun (object : MrcpParserObject) (parser : MessageParser MrcpMessage)
    (stream : TextStream) : ParseResult MrcpMessage :=
  aptMessageParserRun (mrcpParserVtable object) parser stream

/-! ## Generator -/

/-- `mrcp_generator_on_start`: a channel identifier that does not fit is left
out. -/
def mrcpGeneratorOnStart (memory : Nat → UInt8) (message : MrcpMessage) (stream : TxStream) :
    Bool × MrcpMessage × TxStream :=
  match mrcpMessageValidate memory message with
  | (false, message) => (false, message, stream)
  | (true, message) =>
    match mrcpStartLineGenerate message.startLine stream with
    | (false, startLine, stream) => (false, { message with startLine := startLine }, stream)
    | (true, startLine, stream) =>
      let stream :=
        if startLine.version = .v2 then (mrcpChannelIdGenerate message.channelId stream).2
        else stream
      (true, { message with startLine := startLine }, stream)

/-- `mrcp_generator_on_header_complete` -/
def mrcpGeneratorOnHeaderComplete (message : MrcpMessage) (stream : TxStream) :
    MrcpMessage × TxStream :=
  let (_, startLine, stream) :=
    mrcpStartLineFinalize message.startLine message.body.length stream
  ({ message with startLine := startLine }, stream)

/-- The vtable of the MRCP generator. -/
def mrcpGeneratorVtable (memory : Nat → UInt8) : GeneratorVtable MrcpMessage where
  onStart := mrcpGeneratorOnStart memory
  header message := message.header.headerSection
  body message := message.body
  onHeaderComplete := mrcpGeneratorOnHeaderComplete

/-- `mrcp_generator_run` -/
def mrcpGeneratorRun (memory : Nat → UInt8) (stage : GeneratorStage)
    (message : MrcpMessage) (stream : TxStream) : GenerateResult MrcpMessage :=
  aptMessageGeneratorRun (mrcpGeneratorVtable memory) stage message stream

end UniMrcp.Mrcp
