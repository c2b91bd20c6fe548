import UniMrcp.Mrcp.WireMessage

/-!
# The header section of a parsed message

What `mrcp_parser_on_header_complete` makes of the fields a message arrived
with.  It takes away the channel identifier of a version 2 message and gives
ids to the other fields; their names, values and order stay.

* `headerFieldsLoop_pairs`: no field changes its name or value;
* `mrcpHeaderFieldsParse_wire`: the length of the body is that of the
  `Content-Length` field.
-/

namespace UniMrcp.Mrcp

open UniMrcp.Lib UniMrcp.Apt

/-! ## Fields as they arrive -/

/-- Fields as the parser allocates them, from address `addr` on. -/
def fieldsFrom : Nat → List (Bytes × Bytes) → List HeaderField
  | _, [] => []
  | addr, pair :: pairs =>
    ⟨addr, pair.1, pair.2, unknownHeaderFieldId⟩ :: fieldsFrom (addr + 1) pairs

theorem pairs_eq (header : HeaderSection) : header.pairs = header.ring.map fieldPair := rfl

@[simp] theorem fieldsFrom_pairs (addr : Nat) (pairs : List (Bytes × Bytes)) :
    (fieldsFrom addr pairs).map fieldPair = pairs := by
  induction pairs generalizing addr with
  | nil => rfl
  | cons pair pairs ih => simp [fieldsFrom, ih, fieldPair]

variable {field : HeaderField} {object : MrcpParserObject}

theorem le_addr_of_mem_fieldsFrom {addr : Nat} {pairs : List (Bytes × Bytes)}
    (h : field ∈ fieldsFrom addr pairs) : addr ≤ field.addr := by
  induction pairs generalizing addr with
  | nil => cases h
  | cons pair pairs ih =>
    rcases List.mem_cons.mp h with rfl | h
    · exact Nat.le_refl _
    · exact Nat.le_trans (Nat.le_succ addr) (ih h)

theorem fieldsFrom_append (addr : Nat) (ps qs : List (Bytes × Bytes)) :
    fieldsFrom addr (ps ++ qs) = fieldsFrom addr ps ++ fieldsFrom (addr + ps.length) qs := by
  induction ps generalizing addr with
  | nil => rfl
  | cons p ps ih =>
    rw [List.cons_append, fieldsFrom, fieldsFrom, ih, List.length_cons]
    congr 3
    omega

/-- A parsed field has no id yet, so it goes to the end of the ring. -/
theorem appendFields_eq {header : HeaderSection}
    (harr : header.arr.length ≤ unknownHeaderFieldId) (pairs : List (Bytes × Bytes)) :
    appendFields header pairs = { header with
      ring := header.ring ++ fieldsFrom header.nextAddr pairs
      nextAddr := header.nextAddr + pairs.length } := by
  induction pairs generalizing header with
  | nil => simp [appendFields, fieldsFrom]
  | cons pair pairs ih =>
    have hstep : headerFieldAppend header ⟨pair.1, pair.2⟩ = { header with
        ring := header.ring ++ [⟨header.nextAddr, pair.1, pair.2, unknownHeaderFieldId⟩]
        nextAddr := header.nextAddr + 1 } := by
      simp [headerFieldAppend, aptHeaderFieldAlloc, aptHeaderSectionFieldAdd,
        Nat.not_lt.mpr harr]
    show appendFields (headerFieldAppend header ⟨pair.1, pair.2⟩) pairs = _
    rw [hstep, ih]
    · simp [fieldsFrom]
      omega
    · exact harr

/-! ## Names and values -/

theorem headerFieldsLoop_cons_none {data : HeaderData} (h : fieldValueParse data field = none)
    (fields : List HeaderField) (header : HeaderSection) :
    headerFieldsLoop (field :: fields) header data =
      (field :: (headerFieldsLoop fields header data).1,
        (headerFieldsLoop fields header data).2) := by
  rw [headerFieldsLoop, h]

theorem headerFieldsLoop_cons_some {data data' : HeaderData} {id : Nat}
    (h : fieldValueParse data field = some (id, data')) (fields : List HeaderField)
    (header : HeaderSection) :
    let header' := (aptHeaderSectionFieldSet header { field with id := id }).2
    headerFieldsLoop (field :: fields) header data =
      ({ field with id := id } :: (headerFieldsLoop fields header' data').1,
        (headerFieldsLoop fields header' data').2) := by
  rw [headerFieldsLoop, h]

theorem headerFieldsLoop_pairs (fields : List HeaderField) (header : HeaderSection)
    (data : HeaderData) :
    (headerFieldsLoop fields header data).1.map fieldPair = fields.map fieldPair := by
  induction fields generalizing header data with
  | nil => rfl
  | cons field fields ih =>
    cases hparse : fieldValueParse data field with
    | none => rw [headerFieldsLoop_cons_none hparse, List.map_cons, List.map_cons, ih]
    | some pair =>
      rw [headerFieldsLoop_cons_some hparse, List.map_cons, ih]
      rfl

theorem mrcpHeaderFieldsParse_pairs (header : MessageHeader) :
    (mrcpHeaderFieldsParse header).headerSection.pairs = header.headerSection.pairs := by
  unfold mrcpHeaderFieldsParse
  split
  · rfl
  · exact headerFieldsLoop_pairs _ _ _

theorem mrcpMessageResourceSet_pairs (message : MrcpMessage) (resource : MrcpResource) :
    (mrcpMessageResourceSet message resource).2.header.headerSection.pairs =
      message.header.headerSection.pairs := by
  have halloc : (mrcpMessageHeaderDataAlloc message.header resource
      message.startLine.version).headerSection.pairs = message.header.headerSection.pairs := by
    rw [headerSection_dataAlloc]
    rfl
  simp only [mrcpMessageResourceSet]
  cases message.startLine.messageType <;> exact halloc

/-- The field of the channel identifier is gone. -/
theorem mrcpChannelIdParse_length {channelId channelId' : ChannelId}
    {header header' : MessageHeader}
    (h : mrcpChannelIdParse channelId header = some (channelId', header')) :
    header'.headerSection.pairs.length < header.headerSection.pairs.length := by
  unfold mrcpChannelIdParse at h
  split at h
  · cases h
  · rename_i field hfind
    obtain ⟨-, rfl⟩ := h
    have hmem := List.mem_of_find?_eq_some hfind
    simp only [pairs_eq, List.length_map]
    exact List.length_filter_lt_length_iff_exists.mpr ⟨field, hmem, by simp⟩

/-- A version 2 message has lost a field when its header section is
complete. -/
theorem mrcpParserOnHeaderComplete_length {message message' : MrcpMessage} {length : Nat}
    (h : mrcpParserOnHeaderComplete object message = (true, message', length)) :
    message'.header.headerSection.pairs.length +
      (if message.startLine.version = .v2 then 1 else 0) ≤
      message.header.headerSection.pairs.length := by
  unfold mrcpParserOnHeaderComplete at h
  by_cases hversion : message.startLine.version = .v2
  · simp only [hversion, if_true, mrcpParserResourceSet] at h ⊢
    cases hchannel : mrcpChannelIdParse message.channelId message.header with
    | none => simp [hchannel] at h
    | some pair =>
      obtain ⟨channelId, header⟩ := pair
      have hlt := mrcpChannelIdParse_length hchannel
      simp only [hchannel] at h
      cases hfind : mrcpResourceFind object.factory channelId.resourceName with
      | none => simp [hfind] at h
      | some resource =>
        simp only [hfind] at h
        split at h
        · simp at h
        · simp only [Prod.mk.injEq, true_and] at h
          rw [← h.1, mrcpHeaderFieldsParse_pairs, mrcpMessageResourceSet_pairs]
          exact hlt
  · simp only [hversion, if_false, Bool.not_true, Bool.false_eq_true, Prod.mk.injEq,
      true_and] at h
    rw [← h.1, mrcpHeaderFieldsParse_pairs]
    simp [hversion]

/-! ## The length of the body -/

/-- What fields other than `Content-Length` leave as it is. -/
structure SameLength (header header' : HeaderSection) (data data' : HeaderData) : Prop where
  arr_length : header'.arr.length = header.arr.length
  isSet_eq : header'.isSet genericHeaderContentLength = header.isSet genericHeaderContentLength
  contentLength_eq : data'.generic.contentLength = data.generic.contentLength
  resource_eq : data'.resource = data.resource
  version_eq : data'.version = data.version

theorem SameLength.refl (header : HeaderSection) (data : HeaderData) :
    SameLength header header data data := ⟨rfl, rfl, rfl, rfl, rfl⟩

theorem SameLength.trans {h1 h2 h3 : HeaderSection} {d1 d2 d3 : HeaderData}
    (a : SameLength h1 h2 d1 d2) (b : SameLength h2 h3 d2 d3) : SameLength h1 h3 d1 d3 :=
  ⟨b.arr_length.trans a.arr_length, b.isSet_eq.trans a.isSet_eq,
    b.contentLength_eq.trans a.contentLength_eq, b.resource_eq.trans a.resource_eq,
    b.version_eq.trans a.version_eq⟩

/-- The resource's fields are kept apart from the generic ones. -/
theorem resourceHeaderParse_generic (data : HeaderData) (id : Nat) (value : Bytes) :
    (resourceHeaderParse data id value).generic = data.generic ∧
      (resourceHeaderParse data id value).resource = data.resource ∧
      (resourceHeaderParse data id value).version = data.version := by
  unfold resourceHeaderParse
  split
  · exact ⟨rfl, rfl, rfl⟩
  · split <;> exact ⟨rfl, rfl, rfl⟩

/-- The name of a field other than `Content-Length`. -/
def OtherName (name : Bytes) : Prop :=
  aptStringTableIdFind genericHeaderStringTable name ≠ genericHeaderContentLength

/-- The ids of the resource's fields come behind those of the generic
fields. -/
theorem fieldValueParse_other {data data' : HeaderData} {id : Nat}
    (hne : OtherName field.name)
    (h : fieldValueParse data field = some (id, data')) :
    id ≠ genericHeaderContentLength ∧
      data'.generic.contentLength = data.generic.contentLength ∧
      data'.resource = data.resource ∧ data'.version = data.version := by
  unfold fieldValueParse at h
  cases hr : resourceFieldValueParse data field with
  | some pair =>
    obtain ⟨id', data''⟩ := pair
    simp only [hr] at h
    obtain ⟨rfl, rfl⟩ := h
    have hid : id' + genericHeaderCount ≠ genericHeaderContentLength := by
      simp only [genericHeaderCount, genericHeaderContentLength]
      omega
    simp only [resourceFieldValueParse] at hr
    split at hr
    · cases hr
    · split at hr
      all_goals
        obtain ⟨-, rfl⟩ := hr
      · exact ⟨hid, rfl, rfl, rfl⟩
      · obtain ⟨hgeneric, hresource, hversion⟩ := resourceHeaderParse_generic data
          (aptStringTableIdFind (data.resource.headerStrTable data.version) field.name)
          field.value
        exact ⟨hid, by rw [hgeneric], hresource, hversion⟩
  | none =>
    simp only [hr, genericFieldValueParse] at h
    split at h
    · cases h
    · split at h
      all_goals
        obtain ⟨rfl, rfl⟩ := h
      · exact ⟨hne, rfl, rfl, rfl⟩
      · refine ⟨hne, ?_, rfl, rfl⟩
        simp only [mrcpGenericHeaderParse]
        rw [if_neg hne]
        split <;> rfl

theorem aptHeaderSectionFieldSet_other (header : HeaderSection)
    (hne : field.id ≠ genericHeaderContentLength) :
    (aptHeaderSectionFieldSet header field).2.arr.length = header.arr.length ∧
      (aptHeaderSectionFieldSet header field).2.isSet genericHeaderContentLength =
        header.isSet genericHeaderContentLength := by
  unfold aptHeaderSectionFieldSet
  split
  · exact ⟨rfl, rfl⟩
  · split
    · exact ⟨rfl, rfl⟩
    · simp [HeaderSection.isSet, List.getElem?_set_ne hne]

theorem headerFieldsLoop_other {fields : List HeaderField}
    (hne : ∀ f ∈ fields, OtherName f.name) (header : HeaderSection) (data : HeaderData) :
    SameLength header (headerFieldsLoop fields header data).2.1 data
      (headerFieldsLoop fields header data).2.2 := by
  induction fields generalizing header data with
  | nil => exact SameLength.refl header data
  | cons field fields ih =>
    have hrest : ∀ f ∈ fields, OtherName f.name := fun f hf => hne f (by simp [hf])
    cases hparse : fieldValueParse data field with
    | none =>
      rw [headerFieldsLoop_cons_none hparse]
      exact ih hrest header data
    | some pair =>
      obtain ⟨id, data'⟩ := pair
      obtain ⟨hid, hlen, hres, hver⟩ := fieldValueParse_other (hne field (by simp)) hparse
      have hid' : ({ field with id := id } : HeaderField).id ≠ genericHeaderContentLength := hid
      obtain ⟨harr, hset⟩ := aptHeaderSectionFieldSet_other header hid'
      rw [headerFieldsLoop_cons_some hparse]
      exact SameLength.trans ⟨harr, hset, hlen, hres, hver⟩ (ih hrest _ _)

theorem headerFieldsLoop_append (fs gs : List HeaderField) (header : HeaderSection)
    (data : HeaderData) :
    (headerFieldsLoop (fs ++ gs) header data).2 =
      (headerFieldsLoop gs (headerFieldsLoop fs header data).2.1
        (headerFieldsLoop fs header data).2.2).2 := by
  induction fs generalizing header data with
  | nil => rfl
  | cons field fs ih =>
    rw [List.cons_append]
    cases hparse : fieldValueParse data field with
    | none =>
      rw [headerFieldsLoop_cons_none hparse, headerFieldsLoop_cons_none hparse]
      exact ih header data
    | some pair =>
      rw [headerFieldsLoop_cons_some hparse, headerFieldsLoop_cons_some hparse]
      exact ih _ _

theorem contentLength_not_resource (resource : MrcpResource) (version : MrcpVersion) :
    aptStringTableIdFind (resource.headerStrTable version) contentLengthName =
      (resource.headerStrTable version).length := by
  have hv2 : aptStringTableIdFind v2RecogHeaderStringTable contentLengthName =
      v2RecogHeaderStringTable.length := by decide +kernel
  cases resource with
  | synthesizer =>
    show aptStringTableIdFind synthHeaderStringTable _ = synthHeaderStringTable.length
    decide +kernel
  | recorder =>
    show aptStringTableIdFind recorderHeaderStringTable _ = recorderHeaderStringTable.length
    decide +kernel
  | verifier =>
    show aptStringTableIdFind verifierHeaderStringTable _ = verifierHeaderStringTable.length
    decide +kernel
  | recognizer =>
    cases version with
    | v1 => decide +kernel
    | v2 | unknown => exact hv2

/-- The `Content-Length` field sets the length. -/
theorem headerFieldsLoop_contentLength (header : HeaderSection) (data : HeaderData)
    (harr : genericHeaderContentLength < header.arr.length)
    (hset : header.isSet genericHeaderContentLength = false) {n : Nat} (hn : n < 2 ^ 63)
    (addr : Nat) :
    let result := headerFieldsLoop
      [⟨addr, contentLengthName, decimal n, unknownHeaderFieldId⟩] header data
    result.2.1.isSet genericHeaderContentLength = true ∧
      result.2.2.generic.contentLength = n := by
  have hfind : aptStringTableIdFind genericHeaderStringTable contentLengthName =
      genericHeaderContentLength := by decide
  have hvalue : (decimal n).isEmpty = false := by simpa using decimal_ne_nil n
  have hparse : aptSizeValueParse (decimal n) = n := by
    have h := aptSizeValueParse_decimal hn (t := []) (by simp)
    rwa [List.append_nil] at h
  have hfield : fieldValueParse data
      ⟨addr, contentLengthName, decimal n, unknownHeaderFieldId⟩ =
      some (genericHeaderContentLength,
        { data with generic := { data.generic with contentLength := n } }) := by
    simp only [fieldValueParse, resourceFieldValueParse, contentLength_not_resource,
      genericFieldValueParse, hfind, hvalue]
    simp [genericHeaderContentLength, genericHeaderCount, mrcpGenericHeaderParse,
      genericHeaderActiveRequestIdList, hparse]
  simp only [headerFieldsLoop, hfield]
  refine ⟨?_, trivial⟩
  simp only [aptHeaderSectionFieldSet, Nat.not_le.mpr harr, hset]
  simp [HeaderSection.isSet, harr]

/-- The header section of a message with the fields `pairs` and a body, as it
is before the fields get their ids. -/
def arrivedHeader (resource : MrcpResource) (version : MrcpVersion) (addr nextAddr : Nat)
    (pairs : List (Bytes × Bytes)) : MessageHeader :=
  mrcpMessageHeaderDataAlloc ⟨⟨fieldsFrom addr pairs, [], nextAddr⟩, none⟩ resource version

/-- The length the parser takes for the body is that of the body the fields
were written for. -/
theorem mrcpHeaderFieldsParse_wire (resource : MrcpResource) (version : MrcpVersion)
    (addr nextAddr : Nat) {pairs : List (Bytes × Bytes)}
    (hne : ∀ p ∈ pairs, OtherName p.1) {body : Bytes} (hbody : body.length < 2 ^ 63) :
    let header := mrcpHeaderFieldsParse
      (arrivedHeader resource version addr nextAddr (pairs ++ contentLengthField body))
    header.headerSection.pairs = pairs ++ contentLengthField body ∧
      ∃ data, header.data = some data ∧
        (if header.headerSection.isSet genericHeaderContentLength then
          data.generic.contentLength else 0) = body.length := by
  let data : HeaderData :=
    ⟨resource, version, mrcpGenericHeaderInit, completionCauseCount resource, false⟩
  let count := knownCount resource version
  let fields := fieldsFrom addr (pairs ++ contentLengthField body)
  let header : HeaderSection := ⟨fields, List.replicate count none, nextAddr⟩
  have harrived : arrivedHeader resource version addr nextAddr
      (pairs ++ contentLengthField body) = ⟨header, some data⟩ :=
    congrArg (MessageHeader.mk · (some data)) (headerSection_dataAlloc _ resource version)
  have hothers : ∀ f ∈ fieldsFrom addr pairs, OtherName f.name := by
    intro f hf
    have hmem : fieldPair f ∈ (fieldsFrom addr pairs).map fieldPair := List.mem_map_of_mem hf
    rw [fieldsFrom_pairs] at hmem
    exact hne (fieldPair f) hmem
  have hsame := headerFieldsLoop_other hothers header data
  have hunset : header.isSet genericHeaderContentLength = false := by
    rw [HeaderSection.isSet, getD_replicate_none]
    rfl
  have harr : genericHeaderContentLength < header.arr.length := by
    simp [header, count, knownCount, genericHeaderContentLength, genericHeaderCount]
    omega
  refine ⟨?_, (headerFieldsLoop fields header data).2.2, ?_, ?_⟩
  · rw [mrcpHeaderFieldsParse_pairs, harrived]
    exact fieldsFrom_pairs addr _
  · rw [harrived]
    rfl
  · rw [harrived]
    show (if (headerFieldsLoop fields header data).2.1.isSet genericHeaderContentLength then
      (headerFieldsLoop fields header data).2.2.generic.contentLength else 0) = body.length
    by_cases hempty : body.isEmpty = true
    · have hfields : fields = fieldsFrom addr pairs := by
        simp [fields, contentLengthField, hempty]
      have hnil : body = [] := by simpa using hempty
      rw [hfields, hsame.isSet_eq, hunset, hnil]
      rfl
    · have hfields : fields = fieldsFrom addr pairs ++
          [⟨addr + pairs.length, contentLengthName, decimal body.length,
            unknownHeaderFieldId⟩] := by
        simp [fields, contentLengthField, hempty, fieldsFrom_append, fieldsFrom]
      have hlast := headerFieldsLoop_contentLength
        (headerFieldsLoop (fieldsFrom addr pairs) header data).2.1
        (headerFieldsLoop (fieldsFrom addr pairs) header data).2.2
        (by rw [hsame.arr_length]; exact harr) (by rw [hsame.isSet_eq]; exact hunset) hbody
        (addr + pairs.length)
      rw [hfields, headerFieldsLoop_append, hlast.1, hlast.2]
      rfl

/-! ## The resource and the method -/

/-- The start line of a parsed message once its method is known. -/
def arrivedStartLine (line : StartLine) (length : Nat) : StartLine :=
  { parsedStartLine line length with
    methodId := if line.messageType = .response then 0 else line.methodId }

section Wire

variable {resource : MrcpResource} {message : MrcpMessage}

/-- The method is found in the resource's table. -/
theorem mrcpMessageResourceSet_wire (h : WireMessage resource message) {arrived : MrcpMessage}
    {length : Nat} (hline : arrived.startLine = parsedStartLine message.startLine length) :
    mrcpMessageResourceSet arrived resource = (true, { arrived with
      startLine := arrivedStartLine message.startLine length
      resource := some resource
      header := mrcpMessageHeaderDataAlloc arrived.header resource
        message.startLine.version }) := by
  have hversion : arrived.startLine.version = message.startLine.version := by rw [hline]; rfl
  have htype : arrived.startLine.messageType = message.startLine.messageType := by
    rw [hline]; rfl
  have hname : message.startLine.messageType ≠ .response →
      arrived.startLine.methodName = message.startLine.methodName := by
    intro hne
    rw [hline]
    simp [parsedStartLine, hne]
  simp only [mrcpMessageResourceSet, hversion, htype]
  cases hm : message.startLine.messageType with
  | unknown => exact absurd hm h.type_ne
  | response =>
    have : arrived.startLine = arrivedStartLine message.startLine length := by
      rw [hline]
      simp [arrivedStartLine, hm, parsedStartLine]
    simp [this]
  | request =>
    have hne : message.startLine.messageType ≠ .response := by rw [hm]; decide
    obtain ⟨-, hfind, hlt⟩ := methodTableOk_get (methodStrTable_ok _ _) (h.request hm)
    simp only [hname hne, hfind, hlt]
    simp [hline, arrivedStartLine, parsedStartLine, hm]
  | event =>
    have hne : message.startLine.messageType ≠ .response := by rw [hm]; decide
    obtain ⟨-, hfind, hlt⟩ := methodTableOk_get (eventStrTable_ok _ _) (h.event hm)
    simp only [hname hne, hfind, hlt]
    simp [hline, arrivedStartLine, parsedStartLine, hm]

theorem mrcpResourceFind_name {factory : ResourceFactory} (h : resource ∈ factory) :
    mrcpResourceFind factory resource.name = some resource := by
  have hne : resource.name.isEmpty = false := by cases resource <;> decide
  have hinj : ∀ r : MrcpResource, r.name = resource.name → r = resource := by
    cases resource <;> intro r <;> cases r <;> decide
  rw [mrcpResourceFind, hne]
  simp only [Bool.false_eq_true, if_false]
  cases hfind : factory.find? (fun r => r.name == resource.name) with
  | none =>
    have := List.find?_eq_none.mp hfind resource h
    simp at this
  | some r =>
    have := List.find?_some hfind
    rw [hinj r (by simpa using this)]

/-- The channel identifier is split at its separator. -/
theorem aptIdResourceParse_channelIdText {sessionId : Bytes} (h : WireSession sessionId)
    (resourceName : Bytes) :
    aptIdResourceParse (channelIdText ⟨sessionId, resourceName⟩) 64 =
      some (sessionId, resourceName) := by
  have hin : ∀ c ∈ sessionId, (c != 64 && c != 0) = true := by
    intro c hc
    simpa using h.separator c hc
  have htake : (sessionId ++ 64 :: resourceName).takeWhile (fun c => c != 64 && c != 0) =
      sessionId := takeWhile_append_of_stop hin (by simp)
  have hdrop : (sessionId ++ 64 :: resourceName).dropWhile (fun c => c != 64 && c != 0) =
      64 :: resourceName := by
    rw [List.dropWhile_append_of_pos hin]
    simp
  simp only [aptIdResourceParse, channelIdText, htake, hdrop]
  simp

/-- The channel identifier comes first and is taken away. -/
theorem mrcpChannelIdParse_wire {sessionId : Bytes} (h : WireSession sessionId)
    (resourceName : Bytes) (pairs : List (Bytes × Bytes)) (channelId : ChannelId)
    (nextAddr : Nat) :
    mrcpChannelIdParse channelId ⟨⟨fieldsFrom 0
        ((mrcpChannelIdName, channelIdText ⟨sessionId, resourceName⟩) :: pairs), [], nextAddr⟩,
        none⟩ =
      some (⟨sessionId, resourceName⟩, ⟨⟨fieldsFrom 1 pairs, [], nextAddr⟩, none⟩) := by
  have hfield : isChannelIdField ⟨0, mrcpChannelIdName,
      channelIdText ⟨sessionId, resourceName⟩, unknownHeaderFieldId⟩ = true := by
    have hvalue : (channelIdText ⟨sessionId, resourceName⟩).isEmpty = false := by
      simp [channelIdText]
    rw [isChannelIdField, hvalue]
    show (!false && strncasecmpEq ((mrcpChannelIdName ++ [0]).take _) mrcpChannelIdName) = true
    decide
  have hkeep : (fieldsFrom 1 pairs).filter (fun f => f.addr != 0) = fieldsFrom 1 pairs := by
    rw [List.filter_eq_self]
    intro f hf
    have := le_addr_of_mem_fieldsFrom hf
    simp only [bne_iff_ne]
    omega
  simp only [mrcpChannelIdParse, fieldsFrom, List.find?_cons, hfield,
    aptIdResourceParse_channelIdText h, aptHeaderSectionFieldRemove, List.filter_cons, hkeep]
  simp

/-! ## A message on its way through the parser -/

/-- The message behind its start line. -/
def startedMessage (resource : MrcpResource) (line : StartLine) (length : Nat) : MrcpMessage :=
  if line.version = .v2 then
    { mrcpMessageCreate with startLine := parsedStartLine line length }
  else
    { mrcpMessageCreate with
      startLine := arrivedStartLine line length
      channelId := ⟨[], resource.name⟩
      resource := some resource
      header := mrcpMessageHeaderDataAlloc mrcpMessageHeaderInit resource line.version }

/-- The message with the header lines `lines`. -/
def MrcpMessage.withLines (message : MrcpMessage) (lines : List (Bytes × Bytes)) :
    MrcpMessage :=
  { message with header := { message.header with
      headerSection := appendFields message.header.headerSection lines } }

theorem mrcpStartLineMessage_wire (h : WireMessage resource message)
    (hobject : message.startLine.version = .v1 → object.resource = some resource) {n : Nat}
    (hn : n < 2 ^ 63) {e : UInt8} (he : isEol e = true) (x : Bytes) :
    mrcpStartLineMessage object
        ⟨startLineText message.startLine (decimal n ++ [tokenSp]), e :: x⟩ =
      some (startedMessage resource message.startLine n) := by
  have hparse := mrcpStartLineParse_text h.startLine hn he x
  simp only [mrcpStartLineMessage, hparse, startedMessage]
  cases hversion : message.startLine.version with
  | unknown => exact absurd hversion h.version_ne
  | v2 => simp [parsedStartLine, hversion]
  | v1 =>
    have hv1 : (parsedStartLine message.startLine n).version = .v1 := hversion
    simp only [hv1, hobject hversion]
    rw [mrcpMessageResourceSet_wire h rfl, hversion]
    rfl

theorem arr_length_le (header : MessageHeader) (resource : MrcpResource) (version : MrcpVersion) :
    (mrcpMessageHeaderDataAlloc header resource version).headerSection.arr.length ≤
      unknownHeaderFieldId := by
  rw [headerSection_dataAlloc, List.length_replicate]
  exact knownCount_le resource version

/-- Once the resource is set, the fields get their ids and the body its
length. -/
theorem mrcpParserOnHeaderComplete_set (h : WireMessage resource message)
    {started arrived : MrcpMessage} {version : MrcpVersion} {addr nextAddr : Nat}
    (hset : (if started.startLine.version = .v2 then mrcpParserResourceSet object started else
      (true, started)) = (true, arrived))
    (hheader : arrived.header = arrivedHeader resource version addr nextAddr (wireFields message)) :
    mrcpParserOnHeaderComplete object started =
        (true, { arrived with header := mrcpHeaderFieldsParse arrived.header },
          message.body.length) ∧
      (mrcpHeaderFieldsParse arrived.header).headerSection.pairs = wireFields message := by
  obtain ⟨hpairs, data, hdata, hlength⟩ := mrcpHeaderFieldsParse_wire resource version addr
    nextAddr h.field_ne h.body_length
  rw [wireFields] at hheader
  rw [← hheader] at hpairs hdata hlength
  refine ⟨?_, hpairs⟩
  simp only [mrcpParserOnHeaderComplete, hset, Bool.not_true, Bool.false_eq_true, if_false,
    hdata, Prod.mk.injEq, true_and]
  exact hlength

/-- The parts of a message that are known when its header section is
complete: those of the message that was written. -/
structure HeaderArrived (resource : MrcpResource) (message arrived : MrcpMessage)
    (length : Nat) : Prop where
  startLine_eq : arrived.startLine = arrivedStartLine message.startLine length
  resourceName_eq : arrived.channelId.resourceName = resource.name
  sessionId_eq : message.startLine.version = .v2 →
    arrived.channelId.sessionId = message.channelId.sessionId
  pairs_eq : arrived.header.headerSection.pairs =
    message.header.headerSection.pairs ++ contentLengthField message.body

/-- The header section is complete: the channel identifier, the fields and the
length of the body are those of the message that was written. -/
def HeaderCompletes (object : MrcpParserObject) (resource : MrcpResource) (message : MrcpMessage)
    (n : Nat) : Prop :=
  ∃ arrived, mrcpParserOnHeaderComplete object
      ((startedMessage resource message.startLine n).withLines (wireLines message)) =
      (true, arrived, message.body.length) ∧ HeaderArrived resource message arrived n

section

variable (h : WireMessage resource message)
include h

theorem headerCompletes_v1 (hversion : message.startLine.version = .v1)
    (object : MrcpParserObject) (n : Nat) : HeaderCompletes object resource message n := by
  have hlines : wireLines message = wireFields message := by
    simp [wireLines, wireFields, channelIdField, hversion]
  have hstarted : (startedMessage resource message.startLine n).withLines (wireLines message) =
      { mrcpMessageCreate with
        startLine := arrivedStartLine message.startLine n
        channelId := ⟨[], resource.name⟩
        resource := some resource
        header := arrivedHeader resource .v1 0 (wireLines message).length
          (wireFields message) } := by
    simp only [MrcpMessage.withLines, startedMessage, hversion, reduceCtorEq, if_false]
    rw [appendFields_eq (arr_length_le mrcpMessageHeaderInit resource .v1), hlines]
    simp only [arrivedHeader, mrcpMessageHeaderDataAlloc, aptHeaderSectionArrayAlloc,
      mrcpMessageHeaderInit, HeaderSection.empty]
    split <;> simp
  rw [HeaderCompletes]
  generalize (startedMessage resource message.startLine n).withLines
    (wireLines message) = started at hstarted ⊢
  have hset : (if started.startLine.version = .v2 then mrcpParserResourceSet object started
      else (true, started)) = (true, started) := by
    apply if_neg
    rw [hstarted]
    show message.startLine.version ≠ .v2
    rw [hversion]
    decide
  obtain ⟨hcomplete, hpairs⟩ := mrcpParserOnHeaderComplete_set h hset (by rw [hstarted])
  refine ⟨_, hcomplete, by rw [hstarted], by rw [hstarted], fun hv2 => ?_, hpairs⟩
  rw [hversion] at hv2
  cases hv2

theorem headerCompletes_v2 (hversion : message.startLine.version = .v2)
    (hfactory : resource ∈ object.factory) (n : Nat) :
    HeaderCompletes object resource message n := by
  have hlines : wireLines message =
      (mrcpChannelIdName, channelIdText ⟨message.channelId.sessionId, resource.name⟩) ::
        wireFields message := by
    rw [← h.resourceName]
    simp [wireLines, wireFields, channelIdField, hversion]
  have hstarted : (startedMessage resource message.startLine n).withLines (wireLines message) =
      { mrcpMessageCreate with
        startLine := parsedStartLine message.startLine n
        header := ⟨⟨fieldsFrom 0 (wireLines message), [], (wireLines message).length⟩,
          none⟩ } := by
    have happend : appendFields HeaderSection.empty (wireLines message) =
        ⟨fieldsFrom 0 (wireLines message), [], (wireLines message).length⟩ := by
      rw [appendFields_eq (Nat.zero_le _)]
      simp [HeaderSection.empty]
    simp only [MrcpMessage.withLines, startedMessage, hversion]
    simp [mrcpMessageCreate, mrcpMessageHeaderInit, happend]
  rw [HeaderCompletes]
  generalize (startedMessage resource message.startLine n).withLines
    (wireLines message) = started at hstarted ⊢
  have hchannel : mrcpChannelIdParse started.channelId started.header =
      some (⟨message.channelId.sessionId, resource.name⟩,
        ⟨⟨fieldsFrom 1 (wireFields message), [], (wireLines message).length⟩, none⟩) := by
    rw [hstarted]
    simp only [hlines]
    exact mrcpChannelIdParse_wire (h.session hversion) _ _ _ _
  have hline : started.startLine = parsedStartLine message.startLine n := by rw [hstarted]
  have hset : (if started.startLine.version = .v2 then mrcpParserResourceSet object started
      else (true, started)) = (true, { started with
        startLine := arrivedStartLine message.startLine n
        channelId := ⟨message.channelId.sessionId, resource.name⟩
        resource := some resource
        header := arrivedHeader resource message.startLine.version 1 (wireLines message).length
          (wireFields message) }) := by
    have hv2 : started.startLine.version = .v2 := by rw [hline]; exact hversion
    rw [if_pos hv2]
    simp only [mrcpParserResourceSet, hchannel, mrcpResourceFind_name hfactory]
    exact mrcpMessageResourceSet_wire h hline
  obtain ⟨hcomplete, hpairs⟩ := mrcpParserOnHeaderComplete_set h hset rfl
  exact ⟨_, hcomplete, rfl, rfl, fun _ => rfl, hpairs⟩

theorem headerCompletes (hfactory : resource ∈ object.factory) (n : Nat) :
    HeaderCompletes object resource message n := by
  cases hversion : message.startLine.version with
  | unknown => exact absurd hversion h.version_ne
  | v1 => exact headerCompletes_v1 h hversion object n
  | v2 => exact headerCompletes_v2 h hversion hfactory n

end

end Wire

end UniMrcp.Mrcp
