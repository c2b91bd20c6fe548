import UniMrcp.Mrcp.Resource

/-!
# MRCP messages

A model of `mrcp/message/src`: the generic header, the header accessors, the
channel identifier and the message itself.

Of the typed header values the model keeps those that modelled code reads:
`Active-Request-Id-List` and `Content-Length` of the generic header, and
`Completion-Cause` and `Kill-On-Barge-In` of the resource header.  The header
fields themselves, names and values, are all kept.
-/

namespace UniMrcp.Mrcp

open UniMrcp.Lib UniMrcp.Apt

/-! ## Generic header -/

def genericHeaderStringTable : List StrTableItem :=
  [strTableItem "Active-Request-Id-List" 3,
   strTableItem "Proxy-Sync-Id" 0,
   strTableItem "Accept-Charset" 7,
   strTableItem "Content-Type" 9,
   strTableItem "Content-Id" 9,
   strTableItem "Content-Base" 8,
   strTableItem "Content-Encoding" 9,
   strTableItem "Content-Location" 9,
   strTableItem "Content-Length" 10,
   strTableItem "Cache-Control" 1,
   strTableItem "Logging-Tag" 0,
   strTableItem "Vendor-Specific-Parameters" 0,
   strTableItem "Accept" 6,
   strTableItem "Fetch-Timeout" 0,
   strTableItem "Set-Cookie" 10,
   strTableItem "Set-Cookie2" 10]

/-- `GENERIC_HEADER_COUNT` -/
def genericHeaderCount : Nat := 16

/-- `GENERIC_HEADER_ACTIVE_REQUEST_ID_LIST` -/
def genericHeaderActiveRequestIdList : Nat := 0

/-- `GENERIC_HEADER_CONTENT_LENGTH` -/
def genericHeaderContentLength : Nat := 8

/-- `MAX_ACTIVE_REQUEST_ID_COUNT` -/
def maxActiveRequestIdCount : Nat := 5

/-- `mrcp_request_id_list_t`: the array has room for five ids. -/
structure RequestIdList where
  ids : List UInt32
  count_le : ids.length ≤ maxActiveRequestIdCount
  deriving Repr, DecidableEq

/-- The list with `count` 0. -/
def RequestIdList.empty : RequestIdList := ⟨[], by decide⟩

/-- `active_request_id_list_append`: the status and the list. -/
def activeRequestIdListAppend (list : RequestIdList) (requestId : UInt32) :
    Bool × RequestIdList :=
  if h : list.ids.length ≥ maxActiveRequestIdCount then (false, list)
  else (true, ⟨list.ids ++ [requestId], by
    rw [List.length_append, List.length_singleton]; omega⟩)

/-- `active_request_id_list_find` -/
def activeRequestIdListFind (list : RequestIdList) (requestId : UInt32) : Bool :=
  list.ids.contains requestId

/-- The loop of `mrcp_request_id_list_parse`. -/
def requestIdListLoop : Nat → TextStream → List UInt32
  | 0, _ => []
  | room + 1, stream =>
    let (field, stream) := aptTextFieldRead 44 stream
    if field.text.isEmpty then []
    else mrcpRequestIdParse field.memory :: requestIdListLoop room stream

theorem requestIdListLoop_length (room : Nat) (stream : TextStream) :
    (requestIdListLoop room stream).length ≤ room := by
  induction room generalizing stream with
  | zero => simp [requestIdListLoop]
  | succ room ih =>
    rcases h : aptTextFieldRead 44 stream with ⟨field, behind⟩
    simp only [requestIdListLoop]
    split
    · simp
    · exact Nat.succ_le_succ (ih _)

/-- `mrcp_request_id_list_parse` -/
def mrcpRequestIdListParse (value : Bytes) : RequestIdList :=
  ⟨requestIdListLoop maxActiveRequestIdCount (TextStream.ofStr ⟨value, []⟩),
    requestIdListLoop_length _ _⟩

/-- The loop of `mrcp_request_id_list_generate`: the bytes written so far into
a buffer of `length` bytes, from id `i` on.  `apr_snprintf` keeps a byte for
the NUL. -/
def requestIdListWrite (length : Nat) : Nat → List UInt32 → Bytes → Bytes
  | _, [], written => written
  | i, id :: ids, written =>
    let written := if i = 0 then written else written ++ [44]
    requestIdListWrite length (i + 1) ids
      (written ++ (requestIdText id).take (length - written.length - 1))

/-- `mrcp_request_id_list_generate`: ten bytes for each id and one for each
comma.  `str->length` stays at that estimate, so the string ends in a NUL and
in whatever `apr_palloc` left in the memory, which is `memory` here. -/
def mrcpRequestIdListGenerate (memory : Nat → UInt8) (list : RequestIdList) : Bytes :=
  let count := list.ids.length
  let length := 10 * count + (count - 1)
  let written := requestIdListWrite length 0 list.ids []
  (written ++ 0 :: (List.range length).map (fun i => memory (written.length + 1 + i))).take
    length

/-- `mrcp_generic_header_t` -/
structure GenericHeader where
  activeRequestIdList : RequestIdList
  contentLength : Nat
  deriving Repr, DecidableEq

/-- `mrcp_generic_header_init` -/
def mrcpGenericHeaderInit : GenericHeader := ⟨.empty, 0⟩

/-- `mrcp_generic_header_parse` of one field; it succeeds for every id of the
table. -/
def mrcpGenericHeaderParse (header : GenericHeader) (id : Nat) (value : Bytes) :
    GenericHeader :=
  if id = genericHeaderActiveRequestIdList then
    { header with activeRequestIdList := mrcpRequestIdListParse value }
  else if id = genericHeaderContentLength then
    { header with contentLength := aptSizeValueParse value }
  else header

/-- `mrcp_generic_header_generate` for the two fields the model keeps. -/
def mrcpGenericHeaderGenerate (memory : Nat → UInt8) (header : GenericHeader)
    (id : Nat) : Bytes :=
  if id = genericHeaderActiveRequestIdList then
    mrcpRequestIdListGenerate memory header.activeRequestIdList
  else if id = genericHeaderContentLength then aptSizeValueGenerate header.contentLength
  else []

/-! ## Message header -/

/-- `RECOGNIZER_HEADER_COMPLETION_CAUSE` and its like. -/
def completionCauseId : MrcpResource → Nat
  | .synthesizer => 3
  | .recognizer => 7
  | .recorder => 2
  | .verifier => 15

/-- The number of completion causes, which stands for an unknown one. -/
def completionCauseCount : MrcpResource → Nat
  | .synthesizer => 8
  | .recognizer => 17
  | .recorder => 5
  | .verifier => 12

/-- `SYNTHESIZER_HEADER_KILL_ON_BARGE_IN` -/
def synthesizerHeaderKillOnBargeIn : Nat := 1

/-- The data of the two header accessors.  The vtables are those of
`resource` and `version`. -/
structure HeaderData where
  resource : MrcpResource
  version : MrcpVersion
  generic : GenericHeader
  completionCause : Nat
  /-- `kill_on_barge_in` of a synthesizer header -/
  killOnBargeIn : Bool
  deriving Repr, DecidableEq

/-- `mrcp_message_header_t`; `data` is `none` while the accessors have no
vtable. -/
structure MessageHeader where
  headerSection : HeaderSection
  data : Option HeaderData
  deriving Repr, DecidableEq

/-- The name and value of a field. -/
def fieldPair (field : HeaderField) : Bytes × Bytes := (field.name, field.value)

/-- `mrcp_message_header_init` -/
def mrcpMessageHeaderInit : MessageHeader := ⟨.empty, none⟩

/-- `mrcp_message_header_data_alloc` -/
def mrcpMessageHeaderDataAlloc (header : MessageHeader) (resource : MrcpResource)
    (version : MrcpVersion) : MessageHeader :=
  { headerSection := aptHeaderSectionArrayAlloc header.headerSection
      (genericHeaderCount + (resource.headerStrTable version).length)
    data := some ⟨resource, version, mrcpGenericHeaderInit,
      completionCauseCount resource, false⟩ }

section

variable (header : MessageHeader) (resource : MrcpResource) (version : MrcpVersion)

/-- The number of known header ids. -/
def knownCount : Nat := genericHeaderCount + (resource.headerStrTable version).length

theorem knownCount_le : knownCount resource version ≤ unknownHeaderFieldId := by
  cases resource <;> cases version <;> decide

theorem headerSection_dataAlloc :
    (mrcpMessageHeaderDataAlloc header resource version).headerSection =
      { header.headerSection with arr := List.replicate (knownCount resource version) none } := by
  have hpos : knownCount resource version ≠ 0 := by
    unfold knownCount genericHeaderCount
    omega
  show aptHeaderSectionArrayAlloc _ (knownCount resource version) = _
  unfold aptHeaderSectionArrayAlloc
  rw [if_neg hpos]

end

theorem getD_replicate_none (count id : Nat) :
    (List.replicate count (none : Option Nat)).getD id none = none := by
  rw [List.getD_eq_getElem?_getD, List.getElem?_replicate]
  split <;> rfl

/-- `apt_boolean_value_parse` of a copied string, which ends in a NUL; `none`
leaves the value as it was. -/
def aptBooleanValueParse (value : Bytes) : Option Bool :=
  if strncasecmpEq ((value ++ [0]).take 4) (bytesOf "true") then some true
  else if strncasecmpEq ((value ++ [0]).take 5) (bytesOf "false") then some false
  else none

/-- The `parse_field` of the resource headers.  What it makes of the other
fields is not looked at by any function here, and it does not fail. -/
def resourceHeaderParse (data : HeaderData) (id : Nat) (value : Bytes) : HeaderData :=
  if id = completionCauseId data.resource then
    { data with completionCause := aptSizeValueParse value }
  else if data.resource = .synthesizer ∧ id = synthesizerHeaderKillOnBargeIn then
    { data with killOnBargeIn := (aptBooleanValueParse value).getD data.killOnBargeIn }
  else data

/-- `mrcp_header_field_value_parse` through the resource accessor: the id and
the new data. -/
def resourceFieldValueParse (data : HeaderData) (field : HeaderField) :
    Option (Nat × HeaderData) :=
  let table := data.resource.headerStrTable data.version
  let id := aptStringTableIdFind table field.name
  if id ≥ table.length then none
  else if field.value.isEmpty then some (id, data)
  else some (id, resourceHeaderParse data id field.value)

/-- `mrcp_header_field_value_parse` through the generic accessor. -/
def genericFieldValueParse (data : HeaderData) (field : HeaderField) :
    Option (Nat × HeaderData) :=
  let id := aptStringTableIdFind genericHeaderStringTable field.name
  if id ≥ genericHeaderCount then none
  else if field.value.isEmpty then some (id, data)
  else some (id, { data with generic := mrcpGenericHeaderParse data.generic id field.value })

/-- The id `mrcp_header_fields_parse` gives a field, and the new data. -/
def fieldValueParse (data : HeaderData) (field : HeaderField) :
    Option (Nat × HeaderData) :=
  match resourceFieldValueParse data field with
  | some (id, data) => some (id + genericHeaderCount, data)
  | none => genericFieldValueParse data field

/-- The loop of `mrcp_header_fields_parse` over the ring: the fields with
their ids, the section and the data. -/
def headerFieldsLoop : List HeaderField → HeaderSection → HeaderData →
    List HeaderField × HeaderSection × HeaderData
  | [], header, data => ([], header, data)
  | field :: fields, header, data =>
    match fieldValueParse data field with
    | some (id, data) =>
      let field := { field with id := id }
      let header := (aptHeaderSectionFieldSet header field).2
      let (fields, header, data) := headerFieldsLoop fields header data
      (field :: fields, header, data)
    | none =>
      let (fields, header, data) := headerFieldsLoop fields header data
      (field :: fields, header, data)

/-- `mrcp_header_fields_parse`, which always succeeds. -/
def mrcpHeaderFieldsParse (header : MessageHeader) : MessageHeader :=
  match header.data with
  | none => header
  | some data =>
    let (ring, fields, data) :=
      headerFieldsLoop header.headerSection.ring header.headerSection data
    { headerSection := { fields with ring := ring }, data := some data }

/-! ## Channel identifier -/

/-- `mrcp_channel_id` -/
structure ChannelId where
  sessionId : Bytes
  resourceName : Bytes
  deriving Repr, DecidableEq

/-- `MRCP_CHANNEL_ID` -/
def mrcpChannelIdName : Bytes := bytesOf "Channel-Identifier"

/-- The test of `mrcp_channel_id_parse` on a field: the name need only start
with `Channel-Identifier`.  A copied name ends in a NUL. -/
def isChannelIdField (field : HeaderField) : Bool :=
  !field.value.isEmpty &&
    strncasecmpEq ((field.name ++ [0]).take mrcpChannelIdName.length) mrcpChannelIdName

/-- `mrcp_channel_id_parse`: a value without a separator leaves the channel
identifier as it was, and the field is removed all the same. -/
def mrcpChannelIdParse (channelId : ChannelId) (header : MessageHeader) :
    Option (ChannelId × MessageHeader) :=
  match header.headerSection.ring.find? isChannelIdField with
  | none => none
  | some field =>
    let channelId :=
      match aptIdResourceParse field.value 64 with
      | some (id, resource) => ⟨id, resource⟩
      | none => channelId
    some (channelId,
      { header with headerSection := aptHeaderSectionFieldRemove header.headerSection field })

/-- `mrcp_channel_id_generate` -/
def mrcpChannelIdGenerate (channelId : ChannelId) (stream : TxStream) : Bool × TxStream :=
  if stream.hasRoom (mrcpChannelIdName.length + 2 + channelId.sessionId.length + 1 +
      channelId.resourceName.length) then
    aptTextEolInsert (stream.put (mrcpChannelIdName ++ [58, tokenSp] ++
      channelId.sessionId ++ [64] ++ channelId.resourceName))
  else (false, stream)

/-! ## Messages -/

/-- `mrcp_message_t` -/
structure MrcpMessage where
  startLine : StartLine
  channelId : ChannelId
  header : MessageHeader
  body : Bytes
  resource : Option MrcpResource
  deriving Repr, DecidableEq

/-- `mrcp_message_create` -/
def mrcpMessageCreate : MrcpMessage :=
  ⟨mrcpStartLineInit, ⟨[], []⟩, mrcpMessageHeaderInit, [], none⟩

section

variable (memory : Nat → UInt8) (message : MrcpMessage)

/-- `mrcp_generic_header_property_check` -/
def mrcpGenericHeaderPropertyCheck (id : Nat) : Bool :=
  aptHeaderSectionFieldCheck message.header.headerSection id

/-- `mrcp_resource_header_property_check` -/
def mrcpResourceHeaderPropertyCheck (id : Nat) : Bool :=
  aptHeaderSectionFieldCheck message.header.headerSection (id + genericHeaderCount)

/-- `apt_header_section_field_add` of a field with a generated value. -/
def headerFieldAdd (header : MessageHeader) (name value : Bytes) (id : Nat) :
    Bool × MessageHeader :=
  let (field, fields) := aptHeaderFieldAlloc header.headerSection name value id
  let (status, fields) := aptHeaderSectionFieldAdd fields field
  (status, { header with headerSection := fields })

/-- `mrcp_generic_header_property_add` -/
def mrcpGenericHeaderPropertyAdd (id : Nat) : Bool × MrcpMessage :=
  match message.header.data with
  | none => (false, message)
  | some data =>
    let (status, header) := headerFieldAdd message.header
      ((aptStringTableStrGet genericHeaderStringTable id).getD [])
      (mrcpGenericHeaderGenerate memory data.generic id) id
    (status, { message with header := header })

/-- The typed generic header set to a new value. -/
def MrcpMessage.setGeneric (generic : GenericHeader) : MrcpMessage :=
  { message with header := { message.header with
      data := message.header.data.map (fun d => { d with generic := generic }) } }

/-- `mrcp_message_validate` -/
def mrcpMessageValidate : Bool × MrcpMessage :=
  if message.body.isEmpty then (true, message)
  else
    match message.header.data with
    | none => (false, message)
    | some data =>
      if !mrcpGenericHeaderPropertyCheck message genericHeaderContentLength ||
          data.generic.contentLength == 0 then
        let message := message.setGeneric
          { data.generic with contentLength := message.body.length }
        (true, (mrcpGenericHeaderPropertyAdd memory message genericHeaderContentLength).2)
      else (true, message)

/-- `mrcp_message_resource_set`: looks up the method by its name. -/
def mrcpMessageResourceSet (resource : MrcpResource) : Bool × MrcpMessage :=
  let version := message.startLine.version
  let message := { message with
    resource := some resource
    header := mrcpMessageHeaderDataAlloc message.header resource version }
  let lookup (table : List StrTableItem) : Bool × MrcpMessage :=
    let id := aptStringTableIdFind table message.startLine.methodName
    (id < table.length, { message with startLine := { message.startLine with methodId := id } })
  match message.startLine.messageType with
  | .request => lookup (resource.methodStrTable version)
  | .event => lookup (resource.eventStrTable version)
  | _ => (true, message)

/-- `mrcp_message_resource_set_by_id`: sets the method name from its id. -/
def mrcpMessageResourceSetById (resource : Option MrcpResource) : Bool × MrcpMessage :=
  match resource with
  | none => (false, message)
  | some resource =>
    let version := message.startLine.version
    let message := { message with
      resource := some resource
      channelId := { message.channelId with resourceName := resource.name }
      header := mrcpMessageHeaderDataAlloc message.header resource version }
    let lookup (table : List StrTableItem) : Bool × MrcpMessage :=
      match aptStringTableStrGet table message.startLine.methodId with
      | none => (false, message)
      | some name =>
        (true, { message with startLine := { message.startLine with methodName := name } })
    match message.startLine.messageType with
    | .request => lookup (resource.methodStrTable version)
    | .event => lookup (resource.eventStrTable version)
    | _ => (true, message)

end

/-- `mrcp_response_create` -/
def mrcpResponseCreate (request : MrcpMessage) : MrcpMessage :=
  let response := { mrcpMessageCreate with
    channelId := request.channelId
    startLine := { mrcpStartLineInit with
      messageType := .response
      requestState := .complete
      statusCode := statusCodeSuccess
      requestId := request.startLine.requestId
      version := request.startLine.version
      methodId := request.startLine.methodId
      methodName := request.startLine.methodName } }
  (mrcpMessageResourceSetById response request.resource).2

/-- What a new response takes from the request. -/
theorem mrcpResponseCreate_spec (request : MrcpMessage) :
    (mrcpResponseCreate request).startLine.messageType = .response ∧
      (mrcpResponseCreate request).startLine.requestId = request.startLine.requestId ∧
      (mrcpResponseCreate request).startLine.methodId = request.startLine.methodId ∧
      (mrcpResponseCreate request).header.data.isSome = request.resource.isSome ∧
      (mrcpResponseCreate request).startLine.requestState = .complete := by
  unfold mrcpResponseCreate
  cases request.resource <;> exact ⟨rfl, rfl, rfl, rfl, rfl⟩

/-- `mrcp_event_create` -/
def mrcpEventCreate (request : MrcpMessage) (eventId : Nat) : MrcpMessage :=
  let event := { mrcpMessageCreate with
    channelId := request.channelId
    startLine := { mrcpStartLineInit with
      messageType := .event
      methodId := eventId
      requestId := request.startLine.requestId
      version := request.startLine.version } }
  (mrcpMessageResourceSetById event request.resource).2

/-- The id of a message's request. -/
def MrcpMessage.requestId (message : MrcpMessage) : UInt32 := message.startLine.requestId

end UniMrcp.Mrcp
