import Mathlib.Data.List.AList
import UniMrcp.Apt.StringTable

/-!
# RTSP messages

Models of `uni-rtsp/src/rtsp_message.c` and of the types of `rtsp_start_line.h`
and `rtsp_header.h`.  A header has a value for every field, and a set of
properties that says which of them are part of the message.

The texts of the header fields and the transport are left out: the client and
the server of this library do not look at them.
-/

namespace UniMrcp.Rtsp

open UniMrcp.Lib UniMrcp.Apt

/-- `rtsp_version_e` -/
inductive Version where
  | unknown
  | v1
  deriving Repr, DecidableEq

/-- `rtsp_method_id` -/
inductive MethodId where
  | setup
  | announce
  | teardown
  | describe
  | unknown
  deriving Repr, DecidableEq

/-! `rtsp_status_code_e` -/

def statusCodeOk : Nat := 200
def statusCodeBadRequest : Nat := 400
def statusCodeNotFound : Nat := 404
def statusCodeNotAcceptable : Nat := 406
def statusCodeRequestTimeout : Nat := 408
def statusCodeInternalServerError : Nat := 500

/-- `rtsp_reason_string_table` -/
def rtspReasonStringTable : List StrTableItem :=
  [strTableItem "OK" 0,
    strTableItem "Created" 0,
    strTableItem "Bad Request" 0,
    strTableItem "Unauthorized" 0,
    strTableItem "Not Found" 4,
    strTableItem "Method Not Allowed" 0,
    strTableItem "Not Acceptable" 4,
    strTableItem "Proxy Auth Required" 0,
    strTableItem "Request Timeout" 0,
    strTableItem "Session Not Found" 0,
    strTableItem "Internal Server Error" 0,
    strTableItem "Not Implemented" 4]

/-! `rtsp_reason_phrase_e` -/

def reasonPhraseOk : Nat := 0
def reasonPhraseBadRequest : Nat := 2
def reasonPhraseNotFound : Nat := 4
def reasonPhraseNotAcceptable : Nat := 6
def reasonPhraseRequestTimeout : Nat := 8
def reasonPhraseInternalServerError : Nat := 10

/-- `rtsp_request_line_t`; the method name is set when the line is generated. -/
structure RequestLine where
  methodId : MethodId
  url : Bytes
  resourceName : Option Bytes
  version : Version
  deriving Repr, DecidableEq

/-- `rtsp_status_line_t` -/
structure StatusLine where
  version : Version
  statusCode : Nat
  reason : Bytes
  deriving Repr, DecidableEq

/-- `rtsp_start_line_t` -/
inductive StartLine where
  | unknown
  | request (line : RequestLine)
  | response (line : StatusLine)
  deriving Repr, DecidableEq

/-- `rtsp_header_field_id` -/
inductive HeaderFieldId where
  | cseq
  | transport
  | sessionId
  | rtpInfo
  | contentType
  | contentLength
  deriving Repr, DecidableEq

/-- `rtsp_content_type_e` -/
inductive ContentType where
  | sdp
  | mrcp
  | none
  deriving Repr, DecidableEq

/-- `rtsp_header_t` -/
structure Header where
  cseq : Nat
  sessionId : Bytes
  contentType : ContentType
  contentLength : Nat
  properties : List HeaderFieldId
  deriving Repr, DecidableEq

/-- `rtsp_header_init` -/
def rtspHeaderInit : Header := ⟨0, [], .none, 0, []⟩

/-- `rtsp_header_property_check` -/
def rtspHeaderPropertyCheck (header : Header) (id : HeaderFieldId) : Bool :=
  header.properties.contains id

/-- `rtsp_header_property_add` -/
def rtspHeaderPropertyAdd (header : Header) (id : HeaderFieldId) : Header :=
  if rtspHeaderPropertyCheck header id then header
  else { header with properties := header.properties ++ [id] }

/-- `rtsp_message_t` -/
structure Message where
  startLine : StartLine
  header : Header
  body : Bytes
  deriving Repr, DecidableEq

namespace Message

section

variable (message : Message)

/-- `message->start_line.common.request_line` -/
def requestLine : Option RequestLine :=
  match message.startLine with
  | .request line => some line
  | _ => none

def methodId : MethodId :=
  (message.requestLine.map RequestLine.methodId).getD .unknown

def resourceName : Option Bytes := message.requestLine.bind RequestLine.resourceName

def url : Bytes := (message.requestLine.map RequestLine.url).getD []

/-- `message->start_line.common.status_line.status_code` -/
def statusCode : Nat :=
  match message.startLine with
  | .response line => line.statusCode
  | _ => 0

/-- `message->start_line.message_type == RTSP_MESSAGE_TYPE_REQUEST` -/
def isRequest : Bool := message.requestLine.isSome

def isResponse : Bool :=
  match message.startLine with
  | .response _ => true
  | _ => false

/-- The sequence number is set, and its property is added. -/
def setCseq (cseq : Nat) : Message :=
  { message with header := rtspHeaderPropertyAdd { message.header with cseq := cseq } .cseq }

/-- The session identifier is set, and its property is added. -/
def setSessionId (id : Bytes) : Message :=
  { message with
    header := rtspHeaderPropertyAdd { message.header with sessionId := id } .sessionId }

/-- The URL of a request is set. -/
def setUrl (url : Bytes) : Message :=
  match message.startLine with
  | .request line => { message with startLine := .request { line with url := url } }
  | _ => message

end

end Message

/-- `rtsp_request_create`, with the method and the resource that every caller
sets. -/
def rtspRequestCreate (methodId : MethodId) (resourceName : Option Bytes) : Message :=
  ⟨.request ⟨methodId, [], resourceName, .v1⟩, rtspHeaderInit, []⟩

/-- `rtsp_response_create` -/
def rtspResponseCreate (request : Message) (statusCode reason : Nat) : Message :=
  let version := (request.requestLine.map RequestLine.version).getD .v1
  let response : Message := ⟨.response ⟨version, statusCode,
    (aptStringTableStrGet rtspReasonStringTable reason).getD []⟩, rtspHeaderInit, []⟩
  if rtspHeaderPropertyCheck request.header .cseq then response.setCseq request.header.cseq
  else response

section Lemmas

section

variable (header : Header) (id : HeaderFieldId) (message : Message) (cseq : Nat)

theorem propertyAdd_check :
    rtspHeaderPropertyCheck (rtspHeaderPropertyAdd header id) id = true := by
  unfold rtspHeaderPropertyAdd
  split
  · assumption
  · simp [rtspHeaderPropertyCheck]

theorem propertyAdd_cseq : (rtspHeaderPropertyAdd header id).cseq = header.cseq := by
  unfold rtspHeaderPropertyAdd
  split <;> rfl

@[simp]
theorem setCseq_cseq : (message.setCseq cseq).header.cseq = cseq := propertyAdd_cseq _ _

@[simp]
theorem setCseq_check :
    rtspHeaderPropertyCheck (message.setCseq cseq).header .cseq = true := propertyAdd_check _ _

@[simp]
theorem setCseq_startLine : (message.setCseq cseq).startLine = message.startLine := rfl

@[simp]
theorem setSessionId_startLine (id : Bytes) :
    (message.setSessionId id).startLine = message.startLine := rfl

end

section

variable (request : Message) (statusCode reason : Nat)

theorem responseCreate_isResponse :
    (rtspResponseCreate request statusCode reason).isResponse = true := by
  unfold rtspResponseCreate
  split <;> rfl

theorem responseCreate_statusCode :
    (rtspResponseCreate request statusCode reason).statusCode = statusCode := by
  unfold rtspResponseCreate
  split <;> rfl

/-- The response carries the CSeq of a request that has one. -/
theorem responseCreate_cseq (h : rtspHeaderPropertyCheck request.header .cseq = true) :
    (rtspResponseCreate request statusCode reason).header.cseq = request.header.cseq := by
  unfold rtspResponseCreate
  rw [if_pos h, setCseq_cseq]

end

end Lemmas

/-! ## The tables of a connection -/

section

variable {α β : Type} [DecidableEq α] {table : AList (fun _ : α => β)} {a x : α} {b c : β}

/-- An entry after an insertion is the new one, or it was there before. -/
theorem lookup_of_insert (h : (table.insert a b).lookup x = some c) :
    x = a ∧ c = b ∨ table.lookup x = some c := by
  by_cases hx : x = a
  · subst hx
    rw [AList.lookup_insert, Option.some.injEq] at h
    exact .inl ⟨rfl, h.symm⟩
  · rw [AList.lookup_insert_ne hx] at h
    exact .inr h

theorem lookup_of_erase (h : (table.erase a).lookup x = some c) :
    x ≠ a ∧ table.lookup x = some c := by
  by_cases hx : x = a
  · rw [hx, AList.lookup_erase] at h
    cases h
  · rw [AList.lookup_erase_ne hx] at h
    exact ⟨hx, h⟩

end

end UniMrcp.Rtsp
