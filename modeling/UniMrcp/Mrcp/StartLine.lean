import UniMrcp.Apt.TextMessage

/-!
# MRCP start line

A model of `mrcp/message/src/mrcp_start_line.c`.  The numbers of a start line
are read with `atol` straight from the receive buffer: the fields carry the
memory behind them (`AptStr.beyond`), because `atol` skips white space past
the end of a field.
-/

namespace UniMrcp.Mrcp

open UniMrcp.Lib UniMrcp.Apt

/-- `mrcp_version_e` -/
inductive MrcpVersion where
  | unknown
  | v1
  | v2
  deriving Repr, DecidableEq

/-- The number of a version. -/
def MrcpVersion.number : MrcpVersion → Nat
  | .unknown => 0
  | .v1 => 1
  | .v2 => 2

/-- `mrcp_message_type_e` -/
inductive MessageType where
  | unknown
  | request
  | response
  | event
  deriving Repr, DecidableEq

/-- `mrcp_request_state_e`; `unknown` is `MRCP_REQUEST_STATE_COUNT` -/
inductive RequestState where
  | complete
  | inProgress
  | pending
  | unknown
  deriving Repr, DecidableEq

/-- The request state with the given number. -/
def requestStateOfId : Nat → RequestState
  | 0 => .complete
  | 1 => .inProgress
  | 2 => .pending
  | _ => .unknown

/-- The number of a request state. -/
def RequestState.id : RequestState → Nat
  | .complete => 0
  | .inProgress => 1
  | .pending => 2
  | .unknown => 3

/-- The codes of `mrcp_status_code_e` the library itself sets or tests. -/
def statusCodeUnknown : UInt32 := 0
def statusCodeSuccess : UInt32 := 200
def statusCodeMethodNotValid : UInt32 := 402
def statusCodeMethodFailed : UInt32 := 407
def statusCodeUnrecognizedMessage : UInt32 := 408

/-- `mrcp_start_line_t` -/
structure StartLine where
  messageType : MessageType
  version : MrcpVersion
  length : Nat
  requestId : UInt32
  methodName : Bytes
  methodId : Nat
  statusCode : UInt32
  requestState : RequestState
  deriving Repr, DecidableEq

/-- `mrcp_start_line_init`; it leaves `method_id` as it finds it, and the
model takes 0 for the fresh memory. -/
def mrcpStartLineInit : StartLine :=
  ⟨.unknown, .unknown, 0, 0, [], 0, statusCodeUnknown, .unknown⟩

def mrcpName : Bytes := bytesOf "MRCP"

def mrcpRequestStateStringTable : List StrTableItem :=
  [strTableItem "COMPLETE" 0, strTableItem "IN-PROGRESS" 0, strTableItem "PENDING" 0]

/-! ## Parsing -/

/-- `mrcp_version_parse` -/
def mrcpVersionParse (field : AptStr) : MrcpVersion :=
  if field.text.length ≤ 4 || !strncasecmpEq (field.text.take 4) mrcpName then .unknown
  else if field.memory.getD 4 0 == 47 then
    let major := field.memory.getD 5 0
    if major == 49 then .v1 else if major == 50 then .v2 else .unknown
  else .unknown

/-- `mrcp_request_state_parse` -/
def mrcpRequestStateParse (field : AptStr) : RequestState :=
  requestStateOfId (aptStringTableIdFind mrcpRequestStateStringTable field.text)

/-- `mrcp_request_id_parse`: `atol` converted to 32 bits. -/
def mrcpRequestIdParse (memory : Bytes) : UInt32 :=
  .ofNat (strtol memory % 2 ^ 32).toNat

/-- `mrcp_status_code_parse` -/
def mrcpStatusCodeParse (memory : Bytes) : UInt32 := .ofNat (aptSizeValueParse memory)

/-- `apt_text_field_read` up to the next space; `none` is FALSE. -/
def fieldRead (stream : TextStream) : Option (AptStr × TextStream) :=
  let (field, stream) := aptTextFieldRead tokenSp stream
  if field.text.isEmpty then none else some (field, stream)

/-- `mrcp_request_line_parse` -/
def mrcpRequestLineParse (line : StartLine) (stream : TextStream) :
    Option StartLine := do
  let (field, stream) ← fieldRead stream
  let line := { line with requestId := mrcpRequestIdParse field.memory }
  let (field, stream) ← fieldRead stream
  let line := { line with requestState := mrcpRequestStateParse field }
  let (line, field) ←
    if line.requestState = .unknown then
      some ({ line with messageType := .request }, field)
    else do
      let (field, _) ← fieldRead stream
      some ({ line with messageType := .event }, field)
  let line := { line with version := mrcpVersionParse field }
  if line.version = .unknown then none else some line

/-- `mrcp_response_line_parse`, which is only called for version 1 here. -/
def mrcpResponseLineParse (line : StartLine) (stream : TextStream) :
    Option StartLine := do
  let line := { line with length := 0 }
  let (line, stream) ←
    if line.version = .v2 then do
      let (field, stream) ← fieldRead stream
      some ({ line with length := aptSizeValueParse field.memory }, stream)
    else some (line, stream)
  let (field, stream) ← fieldRead stream
  let line := { line with requestId := mrcpRequestIdParse field.memory }
  let (field, stream) ← fieldRead stream
  let line := { line with statusCode := mrcpStatusCodeParse field.memory }
  let (field, _) ← fieldRead stream
  some { line with requestState := mrcpRequestStateParse field }

/-- `mrcp_v2_start_line_parse` -/
def mrcpV2StartLineParse (line : StartLine) (stream : TextStream) :
    Option StartLine := do
  let (field, stream) ← fieldRead stream
  let line := { line with length := aptSizeValueParse field.memory }
  let (field, stream) ← fieldRead stream
  let line := { line with requestId := mrcpRequestIdParse field.memory }
  if line.requestId == (0 : UInt32) && field.text.head? != some 48 then
    let line := { line with messageType := .request, methodName := field.text }
    let (field, stream) ← fieldRead stream
    let line := { line with requestId := mrcpRequestIdParse field.memory }
    match fieldRead stream with
    | none => some line
    | some (field, _) =>
      some { line with
        requestState := mrcpRequestStateParse field, messageType := .event }
  else
    let line := { line with messageType := .response }
    let (field, stream) ← fieldRead stream
    let line := { line with statusCode := mrcpStatusCodeParse field.memory }
    let (field, _) ← fieldRead stream
    some { line with requestState := mrcpRequestStateParse field }

/-- `mrcp_start_line_parse` on a fresh start line. -/
def mrcpStartLineParse (str : AptStr) : Option StartLine := do
  let line := { mrcpStartLineInit with messageType := .unknown }
  let (field, stream) ← fieldRead (TextStream.ofStr str)
  if mrcpName.isPrefixOf field.memory then
    let line := { line with version := mrcpVersionParse field }
    match line.version with
    | .v1 => mrcpResponseLineParse { line with messageType := .response } stream
    | .v2 => mrcpV2StartLineParse line stream
    | .unknown => none
  else mrcpRequestLineParse { line with methodName := field.text } stream

/-! ## Generation -/

/-- `MAX_DIGIT_COUNT` -/
def maxDigitCount : Nat := 6

/-- `mrcp_version_generate` -/
def mrcpVersionGenerate (version : MrcpVersion) (stream : TxStream) : Bool × TxStream :=
  if !stream.hasRoom (mrcpName.length + 1) then (false, stream)
  else
    match aptTextSizeValueInsert version.number (stream.put (mrcpName ++ [47])) with
    | (false, stream) => (false, stream)
    | (true, stream) =>
      if !stream.hasRoom 2 then (false, stream) else (true, stream.put [46, 48])

/-- `mrcp_request_state_generate`, which writes nothing for an unknown state. -/
def mrcpRequestStateGenerate (state : RequestState) (stream : TxStream) : TxStream :=
  match aptStringTableStrGet mrcpRequestStateStringTable state.id with
  | some name => stream.put name
  | none => stream

/-- The text `%d` prints for a request id. -/
def requestIdText (requestId : UInt32) : Bytes := decimalInt requestId.toInt32.toInt

theorem length_requestIdText_le (id : UInt32) : (requestIdText id).length ≤ 11 := by
  have hlt := id.toInt32.toInt_lt
  have hge := id.toInt32.le_toInt
  unfold requestIdText
  generalize id.toInt32.toInt = z at hlt hge ⊢
  cases z with
  | ofNat n => exact (length_decimal_le_iff (by decide)).mpr (by simp at hlt; omega)
  | negSucc n => exact Nat.succ_le_succ ((length_decimal_le_iff (by decide)).mpr (by omega))

/-- `mrcp_request_id_generate` -/
def mrcpRequestIdGenerate (requestId : UInt32) (stream : TxStream) : Bool × TxStream :=
  stream.printf (requestIdText requestId)

/-- `mrcp_status_code_generate` -/
def mrcpStatusCodeGenerate (statusCode : UInt32) (stream : TxStream) : Bool × TxStream :=
  aptTextSizeValueInsert statusCode.toNat stream

/-- `mrcp_request_line_generate` -/
def mrcpRequestLineGenerate (line : StartLine) (stream : TxStream) : TxStream :=
  let stream := (stream.put line.methodName).put [tokenSp]
  let stream := (mrcpRequestIdGenerate line.requestId stream).2.put [tokenSp]
  let stream :=
    match line.messageType with
    | .request =>
      if line.statusCode != statusCodeUnknown then
        (mrcpStatusCodeGenerate line.statusCode stream).2.put [tokenSp]
      else stream
    | .event => (mrcpRequestStateGenerate line.requestState stream).put [tokenSp]
    | _ => stream
  (mrcpVersionGenerate line.version stream).2

/-- `mrcp_response_line_generate` -/
def mrcpResponseLineGenerate (line : StartLine) (stream : TxStream) : TxStream :=
  let stream := (mrcpVersionGenerate line.version stream).2.put [tokenSp]
  let stream := (mrcpRequestIdGenerate line.requestId stream).2.put [tokenSp]
  let stream := (mrcpStatusCodeGenerate line.statusCode stream).2.put [tokenSp]
  mrcpRequestStateGenerate line.requestState stream

/-- `mrcp_v2_start_line_generate`: `length` holds the offset of the space kept
for the length of the message. -/
def mrcpV2StartLineGenerate (line : StartLine) (stream : TxStream) : StartLine × TxStream :=
  let start := stream.out.length
  let stream := (mrcpVersionGenerate line.version stream).2.put [tokenSp]
  let line := { line with length := stream.out.length - start }
  let stream := stream.put (List.replicate (maxDigitCount + 1) tokenSp)
  let stream :=
    if line.messageType = .response then
      let stream := (mrcpRequestIdGenerate line.requestId stream).2.put [tokenSp]
      let stream := (mrcpStatusCodeGenerate line.statusCode stream).2.put [tokenSp]
      mrcpRequestStateGenerate line.requestState stream
    else
      let stream := (stream.put line.methodName).put [tokenSp]
      let stream := (mrcpRequestIdGenerate line.requestId stream).2
      if line.messageType = .event then
        mrcpRequestStateGenerate line.requestState (stream.put [tokenSp])
      else stream
  (line, stream)

/-- `mrcp_start_line_generate` -/
def mrcpStartLineGenerate (line : StartLine) (stream : TxStream) :
    Bool × StartLine × TxStream :=
  let finish (line : StartLine) (stream : TxStream) : Bool × StartLine × TxStream :=
    ((aptTextEolInsert stream).1, line, (aptTextEolInsert stream).2)
  match line.version with
  | .v1 =>
    match line.messageType with
    | .request => finish line (mrcpRequestLineGenerate line stream)
    | .response => finish line (mrcpResponseLineGenerate line stream)
    | .event => finish line (mrcpRequestLineGenerate line stream)
    | .unknown => (false, line, stream)
  | .v2 =>
    finish (mrcpV2StartLineGenerate line stream).1 (mrcpV2StartLineGenerate line stream).2
  | .unknown => (false, line, stream)

/-- `mrcp_start_line_finalize`: the length is written into the space kept for
it, and what stands before moves up to it. -/
def mrcpStartLineFinalize (line : StartLine) (contentLength : Nat) (stream : TxStream) :
    Bool × StartLine × TxStream :=
  let length := stream.out.length + contentLength
  if line.version = .v2 then
    match aptVarLengthValueGenerate (length - maxDigitCount) maxDigitCount with
    | (_, none) => (false, line, stream)
    | (length, some digits) =>
      let stream := stream.overwrite line.length (digits ++ [tokenSp])
      let start := line.length + digits.length
      let moved := maxDigitCount - digits.length
      let stream :=
        if moved = 0 then stream
        else (stream.overwrite moved (stream.out.take start)).skip moved
      (true, { line with length := length }, stream)
  else (true, { line with length := length }, stream)

end UniMrcp.Mrcp
