import UniMrcp.Mrcp.StartLineRoundTrip
import UniMrcp.Mrcp.Stream

/-!
# Messages a stream can carry

`WireMessage resource message` says that a message has what its kind needs
and nothing that its text would not carry.  `wireText` is that text, with the
header lines as a parameter, because the generator leaves out lines that do
not fit its buffer.
-/

namespace UniMrcp.Mrcp

open UniMrcp.Lib UniMrcp.Apt

/-- A session id that can stand in a channel identifier. -/
structure WireSession (sessionId : Bytes) : Prop where
  separator : ∀ c ∈ sessionId, c ≠ 64 ∧ c ≠ 0
  eol : ∀ c ∈ sessionId, isEol c = false
  wsp : ∀ c ∈ sessionId.head?, aptTextIsWsp c = false

/-- A request, response or event of a resource as an application builds it:
the method is one of the resource's table, the header fields fit on lines,
and `Content-Length` is left to the validation. -/
structure WireMessage (resource : MrcpResource) (message : MrcpMessage) : Prop where
  version_ne : message.startLine.version ≠ .unknown
  type_ne : message.startLine.messageType ≠ .unknown
  request : message.startLine.messageType = .request →
    aptStringTableStrGet (resource.methodStrTable message.startLine.version)
      message.startLine.methodId = some message.startLine.methodName
  event : message.startLine.messageType = .event →
    aptStringTableStrGet (resource.eventStrTable message.startLine.version)
      message.startLine.methodId = some message.startLine.methodName
  status : message.startLine.messageType ≠ .response →
    message.startLine.statusCode = statusCodeUnknown
  state_iff : message.startLine.requestState = .unknown ↔
    message.startLine.messageType = .request
  resourceName : message.channelId.resourceName = resource.name
  session : message.startLine.version = .v2 → WireSession message.channelId.sessionId
  field : ∀ p ∈ message.header.headerSection.pairs, WireField p
  field_ne : ∀ p ∈ message.header.headerSection.pairs,
    aptStringTableIdFind genericHeaderStringTable p.1 ≠ genericHeaderContentLength
  unset : mrcpGenericHeaderPropertyCheck message genericHeaderContentLength = false
  data : message.header.data ≠ none
  /-- an object in memory -/
  body_length : message.body.length < 2 ^ 63

/-! ## Methods -/

/-- The names of a table are method names, and each is found at its own
place. -/
def methodTableOk (table : List StrTableItem) : Bool :=
  (List.range table.length).all (fun id =>
    match aptStringTableStrGet table id with
    | some name => isMethodToken name && aptStringTableIdFind table name == id
    | none => false)

theorem methodTableOk_get {table : List StrTableItem} (h : methodTableOk table = true)
    {id : Nat} {name : Bytes} (hname : aptStringTableStrGet table id = some name) :
    isMethodToken name = true ∧ aptStringTableIdFind table name = id ∧ id < table.length := by
  have hid : id < table.length := by
    by_contra hge
    rw [aptStringTableStrGet, List.getElem?_eq_none (by omega)] at hname
    cases hname
  have hrow := List.all_eq_true.mp h id (List.mem_range.mpr hid)
  rw [hname] at hrow
  simp only [Bool.and_eq_true, beq_iff_eq] at hrow
  exact ⟨hrow.1, hrow.2, hid⟩

theorem methodStrTable_ok (resource : MrcpResource) (version : MrcpVersion) :
    methodTableOk (resource.methodStrTable version) = true := by
  have hv2 : methodTableOk v2RecogMethodStringTable = true := by decide +kernel
  cases resource with
  | synthesizer =>
    show methodTableOk synthMethodStringTable = true
    decide +kernel
  | recorder =>
    show methodTableOk recorderMethodStringTable = true
    decide +kernel
  | verifier =>
    show methodTableOk verifierMethodStringTable = true
    decide +kernel
  | recognizer =>
    cases version with
    | v1 => decide +kernel
    | v2 | unknown => exact hv2

theorem eventStrTable_ok (resource : MrcpResource) (version : MrcpVersion) :
    methodTableOk (resource.eventStrTable version) = true := by
  have hv2 : methodTableOk v2RecogEventStringTable = true := by decide +kernel
  cases resource with
  | synthesizer =>
    show methodTableOk synthEventStringTable = true
    decide +kernel
  | recorder =>
    show methodTableOk recorderEventStringTable = true
    decide +kernel
  | verifier =>
    show methodTableOk verifierEventStringTable = true
    decide +kernel
  | recognizer =>
    cases version with
    | v1 => decide +kernel
    | v2 | unknown => exact hv2

section Message

variable {resource : MrcpResource} {message : MrcpMessage}

theorem WireMessage.startLine (h : WireMessage resource message) :
    WireStartLine message.startLine where
  version_ne := h.version_ne
  type_ne := h.type_ne
  method hne := by
    cases hm : message.startLine.messageType with
    | unknown => exact absurd hm h.type_ne
    | response => exact absurd hm hne
    | request => exact (methodTableOk_get (methodStrTable_ok _ _) (h.request hm)).1
    | event => exact (methodTableOk_get (eventStrTable_ok _ _) (h.event hm)).1
  status := h.status
  state_iff := h.state_iff

/-! ## Header lines -/

/-- `Content-Length` -/
def contentLengthName : Bytes := bytesOf "Content-Length"

/-- The field the validation adds. -/
def contentLengthField (body : Bytes) : List (Bytes × Bytes) :=
  if body.isEmpty then [] else [(contentLengthName, decimal body.length)]

/-- The value of the channel identifier. -/
def channelIdText (channelId : ChannelId) : Bytes :=
  channelId.sessionId ++ 64 :: channelId.resourceName

/-- The line of the channel identifier, which version 1 does not have. -/
def channelIdField (message : MrcpMessage) : List (Bytes × Bytes) :=
  if message.startLine.version = .v2 then
    [(mrcpChannelIdName, channelIdText message.channelId)]
  else []

/-- The header lines of a message. -/
def wireLines (message : MrcpMessage) : List (Bytes × Bytes) :=
  channelIdField message ++
    (message.header.headerSection.pairs ++ contentLengthField message.body)

/-- The header lines behind that of the channel identifier. -/
def wireFields (message : MrcpMessage) : List (Bytes × Bytes) :=
  message.header.headerSection.pairs ++ contentLengthField message.body

theorem wireField_channelId {sessionId : Bytes} (h : WireSession sessionId)
    (resource : MrcpResource) :
    WireField (mrcpChannelIdName, channelIdText ⟨sessionId, resource.name⟩) where
  name_ne := by show mrcpChannelIdName ≠ []; decide
  name_colon := by show ∀ c ∈ mrcpChannelIdName, c ≠ 58; decide +kernel
  name_eol := by show ∀ c ∈ mrcpChannelIdName, isEol c = false; decide +kernel
  name_wsp := by show ∀ c ∈ mrcpChannelIdName.head?, aptTextIsWsp c = false; decide +kernel
  value_eol := by
    intro c hc
    rcases List.mem_append.mp hc with hc | hc
    · exact h.eol c hc
    · have hname : ∀ d ∈ resource.name, isEol d = false := by
        cases resource <;> decide +kernel
      rcases List.mem_cons.mp hc with rfl | hc
      · decide
      · exact hname c hc
  value_wsp := by
    intro c hc
    cases sessionId with
    | nil =>
      obtain rfl : 64 = c := by simpa [channelIdText] using hc
      decide
    | cons d t => exact h.wsp c (by simpa [channelIdText] using hc)

theorem wireField_contentLength (n : Nat) : WireField (contentLengthName, decimal n) where
  name_ne := by show contentLengthName ≠ []; decide
  name_colon := by show ∀ c ∈ contentLengthName, c ≠ 58; decide +kernel
  name_eol := by show ∀ c ∈ contentLengthName, isEol c = false; decide +kernel
  name_wsp := by show ∀ c ∈ contentLengthName.head?, aptTextIsWsp c = false; decide +kernel
  value_eol := decimal_eol n
  value_wsp := by
    intro c hc
    have hdigit := isDigit_of_mem_decimal (List.mem_of_mem_head? hc)
    grind [isDigit, aptTextIsWsp, tokenSp, tokenHtab]

theorem WireMessage.lines (h : WireMessage resource message) :
    ∀ p ∈ wireLines message, WireField p := by
  intro p hp
  rcases List.mem_append.mp hp with hp | hp
  · unfold channelIdField at hp
    split at hp
    · rename_i hversion
      have hid : message.channelId = ⟨message.channelId.sessionId, resource.name⟩ := by
        rw [← h.resourceName]
      rw [List.mem_singleton.mp hp, hid]
      exact wireField_channelId (h.session hversion) resource
    · cases hp
  · rcases List.mem_append.mp hp with hp | hp
    · exact h.field p hp
    · unfold contentLengthField at hp
      split at hp
      · cases hp
      · rw [List.mem_singleton.mp hp]
        exact wireField_contentLength _

/-! ## Generation -/

theorem mrcpChannelIdGenerate_eq (channelId : ChannelId) (stream : TxStream) :
    mrcpChannelIdGenerate channelId stream =
      aptTextNameValueInsert mrcpChannelIdName (channelIdText channelId) stream := by
  have hlen : mrcpChannelIdName.length + 2 + channelId.sessionId.length + 1 +
      channelId.resourceName.length =
      mrcpChannelIdName.length + (channelIdText channelId).length + 2 := by
    rw [channelIdText, List.length_append, List.length_cons]
    omega
  have htext : mrcpChannelIdName ++ [58, tokenSp] ++ channelId.sessionId ++ [64] ++
      channelId.resourceName = mrcpChannelIdName ++ [58, tokenSp] ++ channelIdText channelId := by
    simp [channelIdText]
  rw [mrcpChannelIdGenerate, aptTextNameValueInsert, hlen, htext]

/-- A field whose id is not set goes to the end of the ring. -/
theorem headerFieldAdd_pairs (header : MessageHeader) (name value : Bytes) (id : Nat) :
    (headerFieldAdd header name value id).2.headerSection.pairs =
      header.headerSection.pairs ++
        if header.headerSection.isSet id then [] else [(name, value)] := by
  have hisSet : HeaderSection.isSet
      { header.headerSection with nextAddr := header.headerSection.nextAddr + 1 } id =
      header.headerSection.isSet id := rfl
  simp only [headerFieldAdd, aptHeaderFieldAlloc, aptHeaderSectionFieldAdd, hisSet]
  split
  · split <;> simp [HeaderSection.pairs]
  · next hge =>
    have hunset : header.headerSection.isSet id = false := by
      rw [HeaderSection.isSet, List.getD_eq_default _ _ (Nat.not_lt.mp hge)]
      rfl
    simp [HeaderSection.pairs, hunset]

/-- The validation adds the length of the body, unless there is one. -/
theorem mrcpMessageValidate_eq (memory : Nat → UInt8) (message : MrcpMessage) :
    ∃ header, (mrcpMessageValidate memory message).2 = { message with header := header } ∧
      (message.header.data ≠ none → (mrcpMessageValidate memory message).1 = true ∧
        header.headerSection.pairs = message.header.headerSection.pairs ++
          if mrcpGenericHeaderPropertyCheck message genericHeaderContentLength then []
          else contentLengthField message.body) := by
  unfold mrcpMessageValidate
  split
  · next hempty => exact ⟨_, rfl, fun _ => ⟨rfl, by simp [contentLengthField, hempty]⟩⟩
  · next hbody =>
    cases hdata : message.header.data with
    | none => exact ⟨_, rfl, fun h => absurd rfl h⟩
    | some data =>
      dsimp only
      split
      · simp only [mrcpGenericHeaderPropertyAdd, MrcpMessage.setGeneric, hdata]
        refine ⟨_, rfl, fun _ => ⟨trivial, ?_⟩⟩
        rw [headerFieldAdd_pairs, contentLengthField, if_neg hbody]
        rfl
      · next hset => exact ⟨_, rfl, fun _ => ⟨rfl, by simp_all⟩⟩

theorem mrcpMessageValidate_wire (h : WireMessage resource message) (memory : Nat → UInt8) :
    ∃ message', mrcpMessageValidate memory message = (true, message') ∧
      message'.startLine = message.startLine ∧ message'.channelId = message.channelId ∧
      message'.body = message.body ∧
      message'.header.headerSection.pairs = wireFields message := by
  obtain ⟨header, hkeeps, hpairs⟩ := mrcpMessageValidate_eq memory message
  obtain ⟨hok, hpairs⟩ := hpairs h.data
  rw [h.unset] at hpairs
  exact ⟨_, Prod.ext hok hkeeps, rfl, rfl, rfl, hpairs⟩

end Message

end UniMrcp.Mrcp
