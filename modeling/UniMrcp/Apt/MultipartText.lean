import UniMrcp.Apt.Multipart

/-!
# The text of a multipart content

What `apt_multipart_content_add2` and `apt_multipart_content_finalize` write,
and when it fits: `multipartGenerate_eq`.  An insertion either writes its text
or returns FALSE (`Inserts`); this is closed under doing one insertion after
the other.
-/

namespace UniMrcp.Apt

open UniMrcp.Lib

/-- A part to be added: `apt_multipart_content_add2` gets a type and a body,
and an id or NULL. -/
structure PartToAdd where
  type : Bytes
  id : Option Bytes
  body : Bytes
  deriving Repr, DecidableEq

/-- Add the parts one after the other; `none` if one of them fails. -/
def addParts : List PartToAdd → MultipartWriter → Option MultipartWriter
  | [], m => some m
  | part :: parts, m =>
    match aptMultipartContentAdd2 m (some part.type) part.id (some part.body) with
    | (true, m) => addParts parts m
    | (false, _) => none

/-- Create a content, add the parts and finalize it. -/
def multipartGenerate (maxContentSize : Nat) (boundary : Bytes) (parts : List PartToAdd) :
    Option Bytes :=
  (addParts parts (aptMultipartContentCreate maxContentSize (some boundary))).bind
    (fun m => (aptMultipartContentFinalize m).1)

/-! ## Writing -/

/-- The insertion writes `text`, and returns FALSE if it does not fit. -/
structure Inserts (insert : TxStream → Bool × TxStream) (text : Bytes) : Prop where
  fits : ∀ out size, out.length + text.length < size →
    insert ⟨out, size⟩ = (true, ⟨out ++ text, size⟩)
  full : ∀ out size, size ≤ out.length + text.length → (insert ⟨out, size⟩).1 = false

theorem inserts_eol : Inserts aptTextEolInsert crlf := by
  constructor
  · intro out size hfits
    rw [aptTextEolInsert_eq, if_pos (by simpa [crlf] using hfits)]
  · intro out size hfull
    rw [aptTextEolInsert_eq, if_neg]
    simp only [crlf, List.length_cons, List.length_nil] at hfull
    omega

theorem inserts_string (str : Bytes) : Inserts (aptTextStringInsert str) str := by
  constructor
  · intro out size hfits
    simp [aptTextStringInsert, TxStream.hasRoom, TxStream.put, hfits]
  · intro out size hfull
    have hroom : ¬ out.length + str.length < size := by omega
    simp [aptTextStringInsert, TxStream.hasRoom, hroom]

theorem inserts_nameValue (pair : Bytes × Bytes) :
    Inserts (aptTextNameValueInsert pair.1 pair.2) (fieldLine pair ++ crlf) := by
  constructor
  · intro out size hfits
    rw [List.length_append] at hfits
    rw [aptTextNameValueInsert_eq, if_pos (by omega), inserts_eol.fits]
    · simp
    · rw [List.length_append]
      exact hfits
  · intro out size hfull
    rw [List.length_append] at hfull
    rw [aptTextNameValueInsert_eq]
    split
    · apply inserts_eol.full
      rw [List.length_append]
      exact hfull
    · rfl

theorem Inserts.single {insert : TxStream → Bool × TxStream} {text : Bytes}
    (h : Inserts insert text) : Inserts (insertAll [insert]) text := by
  constructor
  · intro out size hfits
    simp [insertAll, h.fits out size hfits]
  · intro out size hfull
    have hfalse := h.full out size hfull
    unfold insertAll
    split
    · simp_all
    · rfl

theorem insertAll_append (first second : List (TxStream → Bool × TxStream)) (stream : TxStream) :
    insertAll (first ++ second) stream =
      match insertAll first stream with
      | (true, stream) => insertAll second stream
      | (false, stream) => (false, stream) := by
  induction first generalizing stream with
  | nil => rfl
  | cons insert first ih =>
    rw [List.cons_append, insertAll, insertAll]
    rcases insert stream with ⟨status, stream⟩
    cases status with
    | false => rfl
    | true => exact ih stream

theorem Inserts.append {first second : List (TxStream → Bool × TxStream)} {text text' : Bytes}
    (h : Inserts (insertAll first) text) (h' : Inserts (insertAll second) text') :
    Inserts (insertAll (first ++ second)) (text ++ text') := by
  constructor
  · intro out size hfits
    rw [List.length_append] at hfits
    rw [insertAll_append, h.fits out size (by omega)]
    show insertAll second ⟨out ++ text, size⟩ = _
    rw [h'.fits, List.append_assoc]
    rw [List.length_append]
    omega
  · intro out size hfull
    rw [List.length_append] at hfull
    rw [insertAll_append]
    by_cases hfirst : out.length + text.length < size
    · rw [h.fits out size hfirst]
      apply h'.full
      rw [List.length_append]
      omega
    · have hfalse := h.full out size (by omega)
      rcases hpair : insertAll first ⟨out, size⟩ with ⟨status, stream⟩
      rw [hpair] at hfalse
      obtain rfl : status = false := hfalse
      rfl

theorem inserts_headerName (name : Bytes) :
    Inserts (aptTextHeaderNameInsert name) (name ++ [58, tokenSp]) := by
  constructor
  · intro out size hfits
    have hroom : out.length + (name.length + 2) < size := by simpa using hfits
    simp [aptTextHeaderNameInsert, TxStream.hasRoom, TxStream.put, hroom]
  · intro out size hfull
    have hroom : ¬ out.length + (name.length + 2) < size := by
      simp only [List.length_append, List.length_cons, List.length_nil] at hfull
      omega
    simp [aptTextHeaderNameInsert, TxStream.hasRoom, hroom]

/-- The digits of a size may be cut, but then the end of the line does not
fit. -/
theorem inserts_sizeValue (value : Nat) :
    Inserts (insertAll [aptTextSizeValueInsert value, aptTextEolInsert])
      (decimal value ++ crlf) := by
  have hcrlf : crlf.length = 2 := rfl
  constructor
  · intro out size hfits
    rw [List.length_append] at hfits
    have hcut : (decimal value).take (size - out.length - 1) = decimal value :=
      List.take_of_length_le (by omega)
    have hsome : (decimal value).isEmpty = false := by simpa using decimal_ne_nil value
    have heol := inserts_eol.fits (out ++ decimal value) size
      (by rw [List.length_append]; omega)
    simp [insertAll, aptTextSizeValueInsert, TxStream.printf, TxStream.put, hcut, hsome, heol]
  · intro out size hfull
    rw [List.length_append] at hfull
    have heol := inserts_eol.full (out ++ (decimal value).take (size - out.length - 1)) size
      (by rw [List.length_append, List.length_take]; omega)
    simp only [insertAll, aptTextSizeValueInsert, TxStream.printf, TxStream.put]
    cases hcut : ((decimal value).take (size - out.length - 1)).isEmpty with
    | true => rfl
    | false =>
      rcases hpair : aptTextEolInsert ⟨out ++ (decimal value).take (size - out.length - 1), size⟩
        with ⟨status, stream⟩
      rw [hpair] at heol
      obtain rfl : status = false := heol
      simp [hpair]

/-- The header fields of a part. -/
def PartToAdd.fields (part : PartToAdd) : List (Bytes × Bytes) :=
  (contentTypeHeader, part.type) :: ((part.id.map (fun id => (contentIdHeader, id))).toList ++
    [(contentLengthHeader, decimal part.body.length)])

/-- The text of a part, from its boundary on. -/
def PartToAdd.text (boundary : Bytes) (part : PartToAdd) : Bytes :=
  crlf ++ defaultHyphens ++ boundary ++ crlf ++ headerText part.fields ++ crlf ++ part.body

/-- The text of the end. -/
def finalText (boundary : Bytes) : Bytes :=
  crlf ++ defaultHyphens ++ boundary ++ defaultHyphens ++ crlf

/-- The text of a content. -/
def multipartText (boundary : Bytes) (parts : List PartToAdd) : Bytes :=
  parts.flatMap (PartToAdd.text boundary) ++ finalText boundary

theorem inserts_opening (boundary : Bytes) :
    Inserts (insertAll [aptTextEolInsert, aptTextStringInsert defaultHyphens,
      aptTextStringInsert boundary, aptTextEolInsert])
      (crlf ++ (defaultHyphens ++ (boundary ++ crlf))) :=
  inserts_eol.single.append ((inserts_string _).single.append
    ((inserts_string _).single.append inserts_eol.single))

theorem inserts_closing (boundary : Bytes) :
    Inserts (insertAll [aptTextEolInsert, aptTextStringInsert defaultHyphens,
      aptTextStringInsert boundary, aptTextStringInsert defaultHyphens, aptTextEolInsert])
      (crlf ++ (defaultHyphens ++ (boundary ++ (defaultHyphens ++ crlf)))) :=
  inserts_eol.single.append ((inserts_string _).single.append
    ((inserts_string _).single.append ((inserts_string _).single.append inserts_eol.single)))

theorem inserts_part (part : PartToAdd) :
    Inserts (insertAll (partInserts (some part.type) part.id (some part.body)))
      (headerText part.fields ++ crlf ++ part.body) := by
  have htype : Inserts (insertAll [aptTextNameValueInsert contentTypeHeader part.type])
      (fieldLine (contentTypeHeader, part.type) ++ crlf) := (inserts_nameValue (_, _)).single
  have hbody : Inserts (insertAll [aptTextEolInsert, aptTextStringInsert part.body])
      (crlf ++ part.body) := inserts_eol.single.append (inserts_string _).single
  have hlength : Inserts (insertAll ([aptTextHeaderNameInsert contentLengthHeader] ++
      [aptTextSizeValueInsert part.body.length, aptTextEolInsert] ++
      [aptTextEolInsert, aptTextStringInsert part.body])) _ :=
    ((inserts_headerName _).single.append (inserts_sizeValue _)).append hbody
  cases hid : part.id with
  | none =>
    have hall := htype.append hlength
    simpa [partInserts, PartToAdd.fields, hid, headerText, fieldLine] using hall
  | some id =>
    have hid' : Inserts (insertAll [aptTextNameValueInsert contentIdHeader id])
      (fieldLine (contentIdHeader, id) ++ crlf) := (inserts_nameValue (_, _)).single
    have hall := htype.append (hid'.append hlength)
    simpa [partInserts, PartToAdd.fields, hid, headerText, fieldLine] using hall

/-- The writer of a content of the size. -/
def writerAt (out : Bytes) (size : Nat) (boundary : Bytes) : MultipartWriter :=
  ⟨⟨out, size⟩, boundary, defaultHyphens⟩

section

variable (boundary : Bytes) (part : PartToAdd) (parts : List PartToAdd)

theorem inserts_text : Inserts (insertAll ([aptTextEolInsert, aptTextStringInsert defaultHyphens,
      aptTextStringInsert boundary, aptTextEolInsert] ++
      partInserts (some part.type) part.id (some part.body))) (part.text boundary) := by
  have h := (inserts_opening boundary).append (inserts_part part)
  simpa [PartToAdd.text] using h

theorem add2_eq (m : MultipartWriter) (contentType contentId body : Option Bytes) :
    aptMultipartContentAdd2 m contentType contentId body =
      ((insertAll ([aptTextEolInsert, aptTextStringInsert m.hyphens,
        aptTextStringInsert m.boundary, aptTextEolInsert] ++
        partInserts contentType contentId body) m.stream).1,
      { m with stream := (insertAll ([aptTextEolInsert, aptTextStringInsert m.hyphens,
        aptTextStringInsert m.boundary, aptTextEolInsert] ++
        partInserts contentType contentId body) m.stream).2 }) := by
  rw [insertAll_append, aptMultipartContentAdd2, aptMultipartContentInitialize]
  generalize insertAll [aptTextEolInsert, aptTextStringInsert m.hyphens,
    aptTextStringInsert m.boundary, aptTextEolInsert] m.stream = answer
  rcases answer with ⟨status, stream⟩
  cases status <;> rfl

theorem multipartText_cons : multipartText boundary (part :: parts) =
      part.text boundary ++ multipartText boundary parts := by
  simp [multipartText]

theorem addParts_finalize (out : Bytes) (size : Nat) :
    (addParts parts (writerAt out size boundary)).bind
        (fun m => (aptMultipartContentFinalize m).1) =
      if out.length + (multipartText boundary parts).length < size then
        some (out ++ multipartText boundary parts)
      else none := by
  induction parts generalizing out with
  | nil =>
    have htext : multipartText boundary [] =
        crlf ++ (defaultHyphens ++ (boundary ++ (defaultHyphens ++ crlf))) := by
      simp [multipartText, finalText]
    rw [htext]
    simp only [addParts, Option.bind_some, aptMultipartContentFinalize, writerAt]
    by_cases hfits : out.length +
        (crlf ++ (defaultHyphens ++ (boundary ++ (defaultHyphens ++ crlf)))).length < size
    · rw [if_pos hfits, (inserts_closing boundary).fits out size hfits]
      rfl
    · rw [if_neg hfits, (inserts_closing boundary).full out size (Nat.le_of_not_lt hfits)]
      rfl
  | cons part parts ih =>
    rw [multipartText_cons, List.length_append, addParts, add2_eq]
    by_cases hfirst : out.length + (part.text boundary).length < size
    · have hadd := (inserts_text boundary part).fits out size hfirst
      have hrest := ih (out ++ part.text boundary)
      rw [List.length_append, Nat.add_assoc, List.append_assoc] at hrest
      simp only [writerAt] at hadd hrest ⊢
      rw [hadd]
      exact hrest
    · have hadd := (inserts_text boundary part).full out size (Nat.le_of_not_lt hfirst)
      simp only [writerAt]
      rw [hadd, if_neg (by omega)]
      rfl

end

/-- The size of a content that is created with the maximum size. -/
def contentSize (maxContentSize : Nat) : Nat :=
  if maxContentSize = 0 then defaultMultipartContentSize else maxContentSize

/-- The generator writes the text, unless it does not stay below the maximum
size. -/
theorem multipartGenerate_eq (maxContentSize : Nat) (boundary : Bytes)
    (parts : List PartToAdd) :
    multipartGenerate maxContentSize boundary parts =
      if (multipartText boundary parts).length < contentSize maxContentSize then
        some (multipartText boundary parts)
      else none := by
  have h := addParts_finalize boundary parts [] (contentSize maxContentSize)
  rw [List.length_nil, Nat.zero_add] at h
  exact h

end UniMrcp.Apt
