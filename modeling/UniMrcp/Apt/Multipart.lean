import Mathlib.Data.List.DropRight
import UniMrcp.Apt.HeaderText
import UniMrcp.Apt.StringTable

/-!
# Multipart content

A model of `apr-toolkit/src/apt_multipart_content.c`.  The source has one type
for both directions; here `MultipartWriter` is a content that parts are added
to, and `MultipartReader` one that parts are got from.

`aptMultipartContentGet` has no result (`none`) where the source asks its pool
for a negative number of bytes, converted to `apr_size_t`: the pointer
comparison in front of it overflows.
-/

namespace UniMrcp.Apt

open UniMrcp.Lib

def contentLengthHeader : Bytes := bytesOf "Content-Length"
def contentTypeHeader : Bytes := bytesOf "Content-Type"
def contentIdHeader : Bytes := bytesOf "Content-Id"

def defaultBoundary : Bytes := bytesOf "break"
def defaultHyphens : Bytes := bytesOf "--"

def defaultMultipartContentSize : Nat := 4096

/-! ## Adding parts -/

/-- An `apt_multipart_content_t` that is being written. -/
structure MultipartWriter where
  stream : TxStream
  boundary : Bytes
  hyphens : Bytes
  deriving Repr, DecidableEq

/-- `apt_multipart_content_create` -/
def aptMultipartContentCreate (maxContentSize : Nat) (boundary : Option Bytes) : MultipartWriter :=
  let size := if maxContentSize = 0 then defaultMultipartContentSize else maxContentSize
  ⟨⟨[], size⟩, boundary.getD defaultBoundary, defaultHyphens⟩

/-- `apt_text_header_name_insert` -/
def aptTextHeaderNameInsert (name : Bytes) (stream : TxStream) : Bool × TxStream :=
  if stream.hasRoom (name.length + 2) then (true, stream.put (name ++ [58, tokenSp]))
  else (false, stream)

/-- `apt_text_string_insert` -/
def aptTextStringInsert (str : Bytes) (stream : TxStream) : Bool × TxStream :=
  if stream.hasRoom str.length then (true, stream.put str) else (false, stream)

/-- Insertions one after the other, up to the first that returns FALSE. -/
def insertAll : List (TxStream → Bool × TxStream) → TxStream → Bool × TxStream
  | [], stream => (true, stream)
  | insert :: inserts, stream =>
    match insert stream with
    | (true, stream) => insertAll inserts stream
    | (false, stream) => (false, stream)

/-- `apt_multipart_content_initialize` -/
def aptMultipartContentInitialize (m : MultipartWriter) : Bool × MultipartWriter :=
  let (status, stream) := insertAll [aptTextEolInsert, aptTextStringInsert m.hyphens,
    aptTextStringInsert m.boundary, aptTextEolInsert] m.stream
  (status, { m with stream := stream })

/-- What `apt_multipart_content_add2` inserts behind the boundary. -/
def partInserts (contentType contentId body : Option Bytes) :
    List (TxStream → Bool × TxStream) :=
  (contentType.map (aptTextNameValueInsert contentTypeHeader)).toList ++
  (contentId.map (aptTextNameValueInsert contentIdHeader)).toList ++
  (match body with
    | some body => [aptTextHeaderNameInsert contentLengthHeader,
        aptTextSizeValueInsert body.length, aptTextEolInsert]
    | none => []) ++
  [aptTextEolInsert] ++ (body.map aptTextStringInsert).toList

/-- `apt_multipart_content_add2` -/
def aptMultipartContentAdd2 (m : MultipartWriter) (contentType contentId body : Option Bytes) :
    Bool × MultipartWriter :=
  match aptMultipartContentInitialize m with
  | (false, m) => (false, m)
  | (true, m) =>
    let (status, stream) := insertAll (partInserts contentType contentId body) m.stream
    (status, { m with stream := stream })

/-- `apt_multipart_content_finalize`: the text, or `none` for NULL. -/
def aptMultipartContentFinalize (m : MultipartWriter) : Option Bytes × MultipartWriter :=
  let (status, stream) := insertAll [aptTextEolInsert, aptTextStringInsert m.hyphens,
    aptTextStringInsert m.boundary, aptTextStringInsert m.hyphens, aptTextEolInsert] m.stream
  (if status then some stream.out else none, { m with stream := stream })

/-! ## Getting parts -/

/-- An `apt_multipart_content_t` that is being read. -/
structure MultipartReader where
  stream : TextStream
  boundary : Bytes
  deriving Repr, DecidableEq

/-- `apt_multipart_content_assign`.  The text is NUL terminated. -/
def aptMultipartContentAssign (body : Bytes) (boundary : Option Bytes) : MultipartReader :=
  ⟨.ofStr ⟨body, []⟩, boundary.getD []⟩

/-- `apt_content_part_t`: the header section, the body, and the values of the
header fields that `type`, `id` and `length` point to. -/
structure ContentPart where
  header : HeaderSection
  body : Bytes
  type : Option Bytes
  id : Option Bytes
  length : Option Bytes
  deriving DecidableEq

/-- `apt_content_part_reset` -/
def aptContentPartReset : ContentPart := ⟨.empty, [], none, none, none⟩

/-- What `apt_multipart_content_get` answers: FALSE, TRUE with `is_final`, or
TRUE with a part. -/
inductive MultipartAnswer where
  | failed
  | final
  | part (contentPart : ContentPart)
  deriving DecidableEq

/-- `apt_text_skip_to_char` -/
def aptTextSkipToChar (ch : UInt8) (stream : TextStream) : TextStream :=
  stream.advance (stream.rest.takeWhile (· != ch)).length

/-- `apt_text_chars_skip` -/
def aptTextCharsSkip (ch : UInt8) (stream : TextStream) : TextStream :=
  stream.advance (stream.rest.takeWhile (· == ch)).length

/-- `strncmp(s, t, n) == 0` of two C strings: the end of a list is its NUL. -/
def strncmpEq : Nat → Bytes → Bytes → Bool
  | 0, _, _ => true
  | n + 1, s, t =>
    s.headD 0 == t.headD 0 && (s.headD 0 == 0 || strncmpEq n s.tail t.tail)

/-- `atoi`: the `long` that `strtol` reads, converted to `int`. -/
def atoi (s : Bytes) : Int := (strtol s).bmod (2 ^ 32)

/-- The boundary in a line, and whether it is the final one. -/
def boundaryOfLine (line : Bytes) : Bytes × Bool :=
  let boundary := line.rdropWhile (· == tokenSp)
  if defaultHyphens.isSuffixOf boundary then (boundary.take (boundary.length - 2), true)
  else (boundary, false)

/-- One pass of the loop over the header fields of a part. -/
def partFieldAssign (part : ContentPart) (field : HeaderField) : ContentPart :=
  if strncmpEq field.name.length field.name contentLengthHeader then
    { part with length := some field.value }
  else if strncmpEq field.name.length field.name contentTypeHeader then
    { part with type := some field.value }
  else if strncmpEq field.name.length field.name contentIdHeader then
    { part with id := some field.value }
  else part

/-- The body of a part, by the length in its header. -/
def partBodyRead (part : ContentPart) (m : MultipartReader) :
    Option (MultipartAnswer × MultipartReader) :=
  match part.length with
  | none => some (.part part, m)
  | some value =>
    if value.isEmpty then some (.part part, m)
    else if atoi value < 0 then none
    else
      let length := (atoi value).toNat
      if m.stream.rest.length < length then some (.failed, m)
      else some (.part { part with body := m.stream.rest.take length },
        { m with stream := m.stream.advance length })

/-- The header fields and the body of a part. -/
def partRead (m : MultipartReader) : Option (MultipartAnswer × MultipartReader) :=
  match aptHeaderSectionParse aptContentPartReset.header m.stream with
  | (false, _, stream) => some (.failed, { m with stream := stream })
  | (true, header, stream) =>
    partBodyRead (header.ring.foldl partFieldAssign { aptContentPartReset with header := header })
      { m with stream := stream }

/-- What `apt_multipart_content_get` does with the line of a boundary. -/
def boundaryRead (line : Bytes) (m : MultipartReader) :
    Option (MultipartAnswer × MultipartReader) :=
  let (boundary, isFinal) := boundaryOfLine line
  if !m.boundary.isEmpty && !aptStringCompare m.boundary boundary then some (.failed, m)
  else
    -- an empty boundary is learnt from the content
    let m := if m.boundary.isEmpty then { m with boundary := boundary } else m
    if isFinal then some (.final, m) else partRead m

/-- `apt_multipart_content_get` -/
def aptMultipartContentGet (m : MultipartReader) : Option (MultipartAnswer × MultipartReader) :=
  let stream := aptTextSkipToChar 45 m.stream
  if stream.isEnd then some (.failed, { m with stream := stream })
  else
    let stream := aptTextCharsSkip 45 stream
    if stream.isEnd then some (.failed, { m with stream := stream })
    else
      match aptTextLineRead stream with
      | (false, _, stream) => some (.failed, { m with stream := stream })
      | (true, line, stream) => boundaryRead line.text { m with stream := stream }

end UniMrcp.Apt
