import UniMrcp.Lib.Decimal

/-!
# Text streams

A model of `apt_text_stream_t` (`apr-toolkit/src/apt_text_stream.c`).

A stream that is read is a zipper: `before` holds the bytes from `text.buf`
to `pos`, `rest` the bytes from `pos` to `end`, and `beyond` the memory
behind `end` up to the terminating NUL.  Nothing of the library reads
`beyond` through the stream, but `atol` and `strstr` are called on pointers
into it and stop only at a NUL, so it is part of the model.  For the same
reason a string `AptStr` that points into a buffer carries the memory
behind it; a string that was copied is NUL terminated and is just `Bytes`.

A stream that is written is a `TxStream`: the bytes written so far and the
size of the buffer.
-/

namespace UniMrcp.Apt

open UniMrcp.Lib

/-- A string of bytes that owns its memory. -/
abbrev Bytes := List UInt8

def tokenSp : UInt8 := 0x20
def tokenHtab : UInt8 := 0x09
def tokenCr : UInt8 := 0x0D
def tokenLf : UInt8 := 0x0A

/-- `apt_text_is_wsp` -/
def aptTextIsWsp (ch : UInt8) : Bool := ch == tokenSp || ch == tokenHtab

/-- The two bytes that end a line. -/
def isEol (ch : UInt8) : Bool := ch == tokenCr || ch == tokenLf

/-- A string inside a buffer: `text` is the `length` bytes from `buf`, and
`beyond` is the memory behind them up to the terminating NUL. -/
structure AptStr where
  text : Bytes
  beyond : Bytes
  deriving Repr, DecidableEq

/-- The memory `buf` points to, as a C string sees it. -/
def AptStr.memory (s : AptStr) : Bytes := s.text ++ s.beyond

/-- A text stream being read. -/
structure TextStream where
  before : Bytes
  rest : Bytes
  beyond : Bytes
  isEos : Bool
  deriving Repr, DecidableEq

namespace TextStream

/-- `apt_text_stream_init` and `apt_text_stream_reset` on a string. -/
def ofStr (s : AptStr) : TextStream := ⟨[], s.text, s.beyond, false⟩

/-- `pos += n` -/
def advance (s : TextStream) (n : Nat) : TextStream :=
  { s with before := s.before ++ s.rest.take n, rest := s.rest.drop n }

/-- `apt_text_is_eos` -/
def isEnd (s : TextStream) : Bool := s.rest.isEmpty || s.isEos

end TextStream

/-- The number of bytes of the end of line at the head of `s`: CR LF is taken
together. -/
def eolLength : Bytes → Nat
  | [] => 0
  | [_] => 1
  | c :: d :: _ => if c == tokenCr && d == tokenLf then 2 else 1

/-- `apt_text_line_read`: the status, the line and the stream behind it. -/
def aptTextLineRead (stream : TextStream) : Bool × AptStr × TextStream :=
  let text := stream.rest.takeWhile (fun c => !isEol c)
  let tail := stream.rest.dropWhile (fun c => !isEol c)
  match tail with
  | [] => (false, ⟨text, stream.beyond⟩, { stream with isEos := true })
  | _ :: _ =>
    (true, ⟨text, tail ++ stream.beyond⟩,
      stream.advance (text.length + eolLength tail))

/-- The state of the loop of `apt_text_header_read` inside a line.  `name` is
the bytes from `name.buf` to `pos` (or to the colon once `named` holds),
`none` while `name.buf` is NULL; `named` says that `name.length` is not 0. -/
structure HeaderScan where
  name : Option Bytes
  named : Bool
  value : Option Bytes
  deriving Repr, DecidableEq

/-- One byte of the loop of `apt_text_header_read`. -/
def HeaderScan.step (s : HeaderScan) (c : UInt8) : HeaderScan :=
  if s.named then
    match s.value with
    | none => if aptTextIsWsp c then s else { s with value := some [c] }
    | some v => { s with value := some (v ++ [c]) }
  else
    let name := if s.name.isNone && !aptTextIsWsp c then some [] else s.name
    match name with
    | none => s
    | some n =>
      -- a colon at `name.buf` leaves `name.length` at 0: the scan goes on
      if c == 58 && !n.isEmpty then { s with name := some n, named := true }
      else { s with name := some (n ++ [c]) }

/-- The pair of strings `apt_text_header_read` returns, copied. -/
structure AptPair where
  name : Bytes
  value : Bytes
  deriving Repr, DecidableEq

/-- `apt_text_header_read` of one line: `none` for a malformed header, which
is a line with some text and no name. -/
def headerOfLine (line : Bytes) : Option AptPair :=
  let scan := line.foldl HeaderScan.step ⟨none, false, none⟩
  if scan.named then some ⟨scan.name.getD [], scan.value.getD []⟩
  else if scan.name.isSome then none
  else some ⟨[], []⟩

/-- `apt_text_header_read`: the pair, or `none` for FALSE. -/
def aptTextHeaderRead (stream : TextStream) : Option AptPair × TextStream :=
  let line := stream.rest.takeWhile (fun c => !isEol c)
  let tail := stream.rest.dropWhile (fun c => !isEol c)
  match tail with
  | [] => (none, { stream with isEos := true })
  | _ :: _ => (headerOfLine line, stream.advance (line.length + eolLength tail))

/-- `apt_text_field_read` with `skip_spaces`: the field (FALSE is an empty
one) and the stream behind the separator. -/
def aptTextFieldRead (separator : UInt8) (stream : TextStream) :
    AptStr × TextStream :=
  let skipped := stream.rest.takeWhile (· == tokenSp)
  let tail := stream.rest.dropWhile (· == tokenSp)
  let field := tail.takeWhile (· != separator)
  let behind := tail.dropWhile (· != separator)
  (⟨field, behind ++ stream.beyond⟩,
    stream.advance (skipped.length + field.length + min 1 behind.length))

/-- `apt_text_char_skip` -/
def aptTextCharSkip (ch : UInt8) (stream : TextStream) : TextStream :=
  match stream.rest with
  | c :: _ => if c == ch then stream.advance 1 else stream
  | [] => stream

/-- `apt_text_white_spaces_skip` -/
def aptTextWhiteSpacesSkip (stream : TextStream) : TextStream :=
  stream.advance (stream.rest.takeWhile aptTextIsWsp).length

/-- `apt_text_stream_scroll` moves the unread bytes to the front of the
buffer and leaves `pos` behind them: they are what the next receive appends
to. -/
def aptTextStreamScroll (stream : TextStream) : Bytes := stream.rest

/-- `apt_id_resource_parse`: the parts before and after the first separator
of a copied string.  `strchr` stops at a NUL inside the string. -/
def aptIdResourceParse (str : Bytes) (separator : UInt8) : Option (Bytes × Bytes) :=
  let field := str.takeWhile (fun c => c != separator && c != 0)
  match str.dropWhile (fun c => c != separator && c != 0) with
  | c :: resource => if c == separator then some (field, resource) else none
  | [] => none

/-- `apt_id_resource_generate` -/
def aptIdResourceGenerate (id resource : Bytes) (separator : UInt8) : Bytes :=
  id ++ [separator] ++ resource

/-- `apt_size_value_parse`: `atol` converted to `apr_size_t`. -/
def aptSizeValueParse (memory : Bytes) : Nat := (strtol memory % 2 ^ 64).toNat

/-! ## Streams being written -/

/-- A text stream being written: `out` is the bytes from `text.buf` to `pos`
and `size` is `text.length`, the distance from `text.buf` to `end`. -/
structure TxStream where
  out : Bytes
  size : Nat
  deriving Repr, DecidableEq

namespace TxStream

/-- `pos + n < end` -/
def hasRoom (s : TxStream) (n : Nat) : Bool := s.out.length + n < s.size

/-- `memcpy` to `pos`, which then moves behind the copy. -/
def put (s : TxStream) (bytes : Bytes) : TxStream :=
  { s with out := s.out ++ bytes }

/-- `apr_snprintf` to `pos`: one byte of the buffer is kept for the NUL. -/
def printf (s : TxStream) (bytes : Bytes) : Bool × TxStream :=
  let written := bytes.take (s.size - s.out.length - 1)
  if written.isEmpty then (false, s) else (true, s.put written)

/-- `memcpy` to `text.buf + i`, over bytes written before. -/
def overwrite (s : TxStream) (i : Nat) (bytes : Bytes) : TxStream :=
  { s with out := s.out.take i ++ bytes ++ s.out.drop (i + bytes.length) }

/-- `text.buf += n; text.length -= n` -/
def skip (s : TxStream) (n : Nat) : TxStream :=
  ⟨s.out.drop n, s.size - n⟩

/-- `apt_text_is_eos` -/
def isEnd (s : TxStream) : Bool := s.size ≤ s.out.length

end TxStream

/-- `apt_text_eol_insert` -/
def aptTextEolInsert (stream : TxStream) : Bool × TxStream :=
  if stream.hasRoom 2 then (true, stream.put [tokenCr, tokenLf])
  else (false, stream)

/-- `apt_text_name_value_insert` -/
def aptTextNameValueInsert (name value : Bytes) (stream : TxStream) :
    Bool × TxStream :=
  if stream.hasRoom (name.length + value.length + 2) then
    aptTextEolInsert (stream.put (name ++ [58, tokenSp] ++ value))
  else (false, stream)

/-- `apt_text_size_value_insert` -/
def aptTextSizeValueInsert (value : Nat) (stream : TxStream) : Bool × TxStream :=
  stream.printf (decimal value)

/-- `apt_size_value_generate` -/
def aptSizeValueGenerate (value : Nat) : Bytes := decimal value

/-- The loop `do { count++; temp /= 10; } while(temp)`, which runs at most
`temp + 1` times. -/
def digitCountLoop : Nat → Nat → Nat → Nat
  | 0, _, count => count
  | fuel + 1, temp, count =>
    if temp / 10 = 0 then count + 1 else digitCountLoop fuel (temp / 10) (count + 1)

/-- `apt_var_length_value_generate`: the value increased by its own number of
digits, and its text unless it has more than `maxCount` digits. -/
def aptVarLengthValueGenerate (value maxCount : Nat) : Nat × Option Bytes :=
  let count := digitCountLoop (value + 1) value 0
  let bounds := 10 ^ count
  let count := if value ≥ bounds - count then count + 1 else count
  let value := value + count
  (value, if count > maxCount then none else some (decimal value))

end UniMrcp.Apt
