import UniMrcp.Mrcp.Message

/-!
# Copying header fields

The functions of `mrcp/message/src/mrcp_header.c` that carry fields from one
message header to another, and the ones of `mrcp_message.c` that add a field
of the resource header.  The state machines keep the parameters of a channel
in a header of their own: SET-PARAMS writes it, GET-PARAMS reads it, and RECOGNIZE
and SPEAK inherit from it.
-/

namespace UniMrcp.Mrcp

open UniMrcp.Lib UniMrcp.Apt

/-- `mrcp_message_header_create` with the vtables of `resource` and `version` -/
def mrcpMessageHeaderCreate (resource : MrcpResource) (version : MrcpVersion) :
    MessageHeader :=
  mrcpMessageHeaderDataAlloc mrcpMessageHeaderInit resource version

/-- `mrcp_generic_header_duplicate` for the two fields the model keeps.  The
list of request ids is not copied. -/
def mrcpGenericHeaderDuplicate (header src : GenericHeader) (id : Nat) : GenericHeader :=
  if id = genericHeaderContentLength then { header with contentLength := src.contentLength }
  else header

/-- The `duplicate_field` of the resource headers. -/
def resourceHeaderDuplicate (data src : HeaderData) (id : Nat) : HeaderData :=
  if id = completionCauseId data.resource then
    { data with completionCause := src.completionCause }
  else if data.resource = .synthesizer ∧ id = synthesizerHeaderKillOnBargeIn then
    { data with killOnBargeIn := src.killOnBargeIn }
  else data

/-- `mrcp_header_accessor_value_duplicate`: nothing happens without a vtable,
for an empty value or when the source has no data. -/
def mrcpHeaderAccessorValueDuplicate (header src : MessageHeader) (id : Nat)
    (value : Bytes) : MessageHeader :=
  match header.data, src.data with
  | some data, some srcData =>
    if value.isEmpty then header
    else if id < genericHeaderCount then
      let generic := mrcpGenericHeaderDuplicate data.generic srcData.generic id
      { header with data := some { data with generic := generic } }
    else
      let data := resourceHeaderDuplicate data srcData (id - genericHeaderCount)
      { header with data := some data }
  | _, _ => header

/-- `apt_string_copy` into the value of the field at `addr` -/
def headerValueSet (header : MessageHeader) (addr : Nat) (value : Bytes) : MessageHeader :=
  { header with headerSection := { header.headerSection with
      ring := header.headerSection.ring.map
        (fun f => if f.addr == addr then { f with value := value } else f) } }

/-- `mrcp_header_fields_set` -/
def mrcpHeaderFieldsSet (header src : MessageHeader) : MessageHeader :=
  src.headerSection.ring.foldl
    (fun header field =>
      let header :=
        match aptHeaderSectionFieldGet header.headerSection field.id with
        | some present => headerValueSet header present.addr field.value
        | none => (headerFieldAdd header field.name field.value field.id).2
      mrcpHeaderAccessorValueDuplicate header src field.id field.value)
    header

/-- `mrcp_header_fields_get`: the fields of `mask` with the values of `src`. -/
def mrcpHeaderFieldsGet (header src mask : MessageHeader) : MessageHeader :=
  mask.headerSection.ring.foldl
    (fun header field =>
      match aptHeaderSectionFieldGet header.headerSection field.id with
      | some _ => header
      | none =>
        match aptHeaderSectionFieldGet src.headerSection field.id with
        | some srcField =>
          let header := mrcpHeaderAccessorValueDuplicate header src srcField.id srcField.value
          (headerFieldAdd header srcField.name srcField.value srcField.id).2
        | none => (headerFieldAdd header field.name field.value field.id).2)
    header

/-- `mrcp_header_fields_inherit`: the fields of `src` that are not set. -/
def mrcpHeaderFieldsInherit (header src : MessageHeader) : MessageHeader :=
  src.headerSection.ring.foldl
    (fun header field =>
      match aptHeaderSectionFieldGet header.headerSection field.id with
      | some _ => header
      | none =>
        let header := mrcpHeaderAccessorValueDuplicate header src field.id field.value
        (headerFieldAdd header field.name field.value field.id).2)
    header

/-- `apt_completion_cause_generate`: three digits, a blank and the name. -/
def aptCompletionCauseGenerate (table : List StrTableItem) (cause : Nat) : Option Bytes :=
  (aptStringTableStrGet table cause).map (fun name =>
    let digits := decimal cause
    List.replicate (3 - digits.length) 48 ++ digits ++ [tokenSp] ++ name)

/-- The `generate_field` of the resource headers for the completion cause.
Only the recognizer's passes on that the cause is not in the table; the others
leave the value empty. -/
def completionCauseGenerate (data : HeaderData) : Option Bytes :=
  match aptCompletionCauseGenerate (data.resource.completionCauseStrTable data.version)
      data.completionCause with
  | some value => some value
  | none => if data.resource = .recognizer then none else some []

/-- `mrcp_resource_header_property_add` of the completion cause -/
def completionCausePropertyAdd (message : MrcpMessage) : Bool × MrcpMessage :=
  match message.header.data with
  | none => (false, message)
  | some data =>
    let id := completionCauseId data.resource
    match completionCauseGenerate data with
    | none => (false, message)
    | some value =>
      let (status, header) := headerFieldAdd message.header
        ((aptStringTableStrGet (data.resource.headerStrTable data.version) id).getD [])
        value (id + genericHeaderCount)
      (status, { message with header := header })

/-- `mrcp_request_create` -/
def mrcpRequestCreate (resource : Option MrcpResource) (version : MrcpVersion)
    (methodId : Nat) : MrcpMessage :=
  let request := { mrcpMessageCreate with
    startLine := { mrcpStartLineInit with
      messageType := .request
      version := version
      methodId := methodId } }
  (mrcpMessageResourceSetById request resource).2

end UniMrcp.Mrcp
