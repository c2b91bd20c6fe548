import UniMrcp.Apt.HeaderField

/-!
# Text message parser and generator

A model of `apr-toolkit/src/apt_text_message.c`.  The parser is driven by a
vtable that reads the start line and reacts to a complete header section; it
is generic in the type `M` of messages.  The pointers of
`apt_message_context_t` into the message are the accessors of the vtable.

The loops of the source run on fuel here.  Each pass of the folding loop
consumes a byte, and each pass of the header section loop consumes a line or
ends the stream, so the number of unread bytes is fuel enough.
-/

namespace UniMrcp.Apt

open UniMrcp.Lib

/-- The folding loop of `apt_header_field_parse`: lines that start with white
space continue the value. -/
def foldedLines : Nat → TextStream → Bytes → Bytes × TextStream
  | 0, stream, value => (value, stream)
  | fuel + 1, stream, value =>
    match stream.rest with
    | [] => (value, stream)
    | c :: _ =>
      if aptTextIsWsp c then
        let stream := aptTextWhiteSpacesSkip (stream.advance 1)
        let (_, line, stream) := aptTextLineRead stream
        foldedLines fuel stream (value ++ line.text)
      else (value, stream)

/-- `apt_header_field_parse` -/
def aptHeaderFieldParse (stream : TextStream) : Option AptPair × TextStream :=
  match aptTextHeaderRead stream with
  | (none, stream) => (none, stream)
  | (some pair, stream) =>
    let (value, stream) := foldedLines stream.rest.length stream pair.value
    (some ⟨pair.name, value⟩, stream)

/-- `apt_header_section_field_add` of a field just parsed. -/
def headerFieldAppend (header : HeaderSection) (pair : AptPair) : HeaderSection :=
  let (field, header) :=
    aptHeaderFieldAlloc header pair.name pair.value unknownHeaderFieldId
  (aptHeaderSectionFieldAdd header field).2

/-- The loop of `apt_header_section_parse`. -/
def headerSectionLoop : Nat → HeaderSection → TextStream →
    Bool × HeaderSection × TextStream
  | 0, header, stream => (false, header, stream)
  | fuel + 1, header, stream =>
    let (pair, stream) := aptHeaderFieldParse stream
    let (done, header) :=
      match pair with
      | some pair =>
        if pair.name.isEmpty then (true, header)
        else (false, headerFieldAppend header pair)
      | none => (false, header)
    if done then (true, header, stream)
    else if stream.isEnd then (false, header, stream)
    else headerSectionLoop fuel header stream

/-- `apt_header_section_parse` -/
def aptHeaderSectionParse (header : HeaderSection) (stream : TextStream) :
    Bool × HeaderSection × TextStream :=
  headerSectionLoop (stream.rest.length + 1) header stream

/-! ## Parser -/

/-- `apt_message_status_e` -/
inductive MessageStatus where
  | complete
  | incomplete
  | invalid
  deriving Repr, DecidableEq

/-- `apt_message_parser_vtable_t`, with the accessors that
`apt_message_context_t` points to. -/
structure ParserVtable (M : Type) where
  /-- reads the start line; `none` is FALSE -/
  onStart : TextStream → Option M × TextStream
  /-- `*context.header` -/
  header : M → HeaderSection
  setHeader : M → HeaderSection → M
  /-- the status, the message and `context.body->length` -/
  onHeaderComplete : M → Bool × M × Nat
  /-- stores the bytes read into `context.body->buf` -/
  setBody : M → Bytes → M

/-- The stage of the parser, with the part of its context each stage uses. -/
inductive ParserStage (M : Type) where
  | startLine
  | header (message : M)
  | body (message : M) (contentLength : Nat) (read : Bytes)
  deriving Repr, DecidableEq

/-- `apt_message_parser_t` -/
structure MessageParser (M : Type) where
  stage : ParserStage M
  skipLf : Bool
  deriving Repr, DecidableEq

/-- `apt_message_parser_create` -/
def aptMessageParserCreate (M : Type) : MessageParser M := ⟨.startLine, false⟩

/-- What one `apt_message_parser_run` returns and leaves behind. -/
structure ParseResult (M : Type) where
  status : MessageStatus
  message : Option M
  parser : MessageParser M
  stream : TextStream
  deriving Repr, DecidableEq

/-- `apt_crlf_segmentation_test`: the new value of `skip_lf`. -/
def aptCrlfSegmentationTest (skipLf : Bool) (stream : TextStream) : Bool :=
  if stream.rest.isEmpty && stream.before.getLast? == some tokenCr then true
  else skipLf

/-- `apt_message_body_read`: the status, the body read so far and the stream. -/
def aptMessageBodyRead (contentLength : Nat) (read : Bytes) (stream : TextStream) :
    Bool × Bytes × TextStream :=
  let requiredLength := contentLength - read.length
  if requiredLength > stream.rest.length then
    (false, read ++ stream.rest, stream.advance stream.rest.length)
  else
    (true, read ++ stream.rest.take requiredLength, stream.advance requiredLength)

section Parser

variable {M : Type} (vtable : ParserVtable M)

/-- The body stage of `apt_message_parser_run`. -/
def bodyStage (message : M) (contentLength : Nat) (read : Bytes) (skipLf : Bool)
    (stream : TextStream) : ParseResult M :=
  let (done, read, stream) := aptMessageBodyRead contentLength read stream
  if done then
    ⟨.complete, some (vtable.setBody message read), ⟨.startLine, skipLf⟩, stream⟩
  else ⟨.incomplete, none, ⟨.body message contentLength read, skipLf⟩, stream⟩

/-- The header stage of `apt_message_parser_run` behind the header section. -/
def headerCompleteStage (message : M) (skipLf : Bool) (stream : TextStream) :
    ParseResult M :=
  match vtable.onHeaderComplete message with
  | (false, message, _) =>
    -- the parser stays in the header stage with this message
    ⟨.invalid, none, ⟨.header message, skipLf⟩, stream⟩
  | (true, message, length) =>
    if length = 0 then ⟨.complete, some message, ⟨.startLine, skipLf⟩, stream⟩
    else bodyStage vtable message length [] skipLf stream

/-- The header stage of `apt_message_parser_run`. -/
def headerStage (message : M) (skipLf : Bool) (stream : TextStream) :
    ParseResult M :=
  match aptHeaderSectionParse (vtable.header message) stream with
  | (false, header, stream) =>
    ⟨.incomplete, none,
      ⟨.header (vtable.setHeader message header), aptCrlfSegmentationTest skipLf stream⟩,
      stream⟩
  | (true, header, stream) =>
    headerCompleteStage vtable (vtable.setHeader message header)
      (aptCrlfSegmentationTest skipLf stream) stream

/-- The start line stage of `apt_message_parser_run`. -/
def startStage (stream : TextStream) : ParseResult M :=
  match vtable.onStart stream with
  | (none, stream) =>
    ⟨if stream.isEnd then .incomplete else .invalid, none, ⟨.startLine, false⟩, stream⟩
  | (some message, stream) =>
    headerStage vtable message (aptCrlfSegmentationTest false stream) stream

/-- `apt_message_parser_run`: every path through the loop body breaks. -/
def aptMessageParserRun (parser : MessageParser M) (stream : TextStream) :
    ParseResult M :=
  let stream := if parser.skipLf then aptTextCharSkip tokenLf stream else stream
  match parser.stage with
  | .startLine => startStage vtable stream
  | .header message => headerStage vtable message false stream
  | .body message contentLength read =>
    bodyStage vtable message contentLength read false stream

end Parser

/-! ## Generator -/

/-- `apt_header_field_generate` -/
def aptHeaderFieldGenerate (field : HeaderField) (stream : TxStream) : Bool × TxStream :=
  aptTextNameValueInsert field.name field.value stream

/-- `apt_header_section_generate`: a field that does not fit is left out, and
only the status of the empty line counts. -/
def aptHeaderSectionGenerate (header : HeaderSection) (stream : TxStream) :
    Bool × TxStream :=
  aptTextEolInsert
    (header.ring.foldl (fun stream field => (aptHeaderFieldGenerate field stream).2) stream)

/-- `apt_message_generator_vtable_t`, with the accessors that
`apt_message_context_t` points to. -/
structure GeneratorVtable (M : Type) where
  /-- writes the start line -/
  onStart : M → TxStream → Bool × M × TxStream
  /-- `*context.header` -/
  header : M → HeaderSection
  /-- `*context.body` -/
  body : M → Bytes
  /-- the result of `on_header_complete` is not looked at -/
  onHeaderComplete : M → TxStream → M × TxStream

/-- The stage of the generator; `written` is `context.body->length` while the
body is being written. -/
inductive GeneratorStage where
  | startLine
  | body (written : Nat)
  deriving Repr, DecidableEq

/-- What one `apt_message_generator_run` returns and leaves behind. -/
structure GenerateResult (M : Type) where
  status : MessageStatus
  stage : GeneratorStage
  message : M
  /-- `context.body->length` -/
  bodyLength : Nat
  stream : TxStream
  deriving Repr, DecidableEq

/-- `apt_message_body_write`: the status, the number of bytes of the body
written so far and the stream. -/
def aptMessageBodyWrite (body : Bytes) (written : Nat) (stream : TxStream) :
    Bool × Nat × TxStream :=
  if written < body.length then
    let streamLength := stream.size - stream.out.length
    if body.length - written > streamLength then
      (false, written + streamLength, stream.put ((body.drop written).take streamLength))
    else (true, body.length, stream.put (body.drop written))
  else (true, written, stream)

/-- `apt_message_generator_break` -/
def aptMessageGeneratorBreak (stream : TxStream) : MessageStatus :=
  if stream.isEnd then .incomplete else .invalid

section Generator

variable {M : Type} (vtable : GeneratorVtable M)

/-- The body stage of `apt_message_generator_run`. -/
def generatorBodyStage (message : M) (written : Nat) (stream : TxStream) :
    GenerateResult M :=
  match aptMessageBodyWrite (vtable.body message) written stream with
  | (true, written, stream) => ⟨.complete, .startLine, message, written, stream⟩
  | (false, written, stream) =>
    ⟨aptMessageGeneratorBreak stream, .body written, message, written, stream⟩

/-- `apt_message_generator_run`, in the stage of a message not begun or in
that of the same message as before. -/
def aptMessageGeneratorRun (stage : GeneratorStage) (message : M) (stream : TxStream) :
    GenerateResult M :=
  match stage with
  | .startLine =>
    match vtable.onStart message stream with
    | (false, message, stream) =>
      ⟨aptMessageGeneratorBreak stream, .startLine, message, (vtable.body message).length, stream⟩
    | (true, message, stream) =>
      match aptHeaderSectionGenerate (vtable.header message) stream with
      | (false, stream) => ⟨aptMessageGeneratorBreak stream, .startLine, message,
          (vtable.body message).length, stream⟩
      | (true, stream) =>
        match vtable.onHeaderComplete message stream with
        | (message, stream) =>
          if (vtable.body message).isEmpty then ⟨.complete, .startLine, message, 0, stream⟩
          else generatorBodyStage vtable message 0 stream
  | .body written => generatorBodyStage vtable message written stream

end Generator

end UniMrcp.Apt
