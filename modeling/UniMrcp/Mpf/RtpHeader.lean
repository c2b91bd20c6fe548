import Mathlib.Data.List.Basic

/-!
# RTP headers

A model of `rtp_rx_header_skip` (`mpf/src/mpf_rtp_stream.c`), and how it
compares with the layout of an RTP packet: a fixed header of 12 bytes, a list
of `count` CSRC identifiers of 4 bytes, an optional extension, and the payload.
The extension has a header of 4 bytes, whose second half is the number of
4-byte words that follow it.

The receive buffer is the memory from its first byte on.  What stands behind
the bytes that were received is left from earlier packets, and
`rtp_rx_header_skip` may look at it.
-/

namespace UniMrcp.Mpf

/-- `RTP_VERSION` -/
def rtpVersion : Nat := 2

/-- `sizeof(rtp_header_t)` -/
def rtpHeaderSize : Nat := 12

/-- `header->version` -/
def headerVersion (first : UInt8) : Nat := first.toNat / 64

/-- `header->extension` -/
def headerExtension (first : UInt8) : Bool := first.toNat / 16 % 2 = 1

/-- `header->count` -/
def headerCount (first : UInt8) : Nat := first.toNat % 16

/-- `ntohs` of two bytes. -/
def ntohs (high low : UInt8) : Nat := high.toNat * 256 + low.toNat

/-- `rtp_rx_header_skip`: the offset of the payload and its size, or `none` for
NULL. -/
def rtpRxHeaderSkip (buffer : Nat → UInt8) (size : Nat) : Option (Nat × Nat) :=
  if headerVersion (buffer 0) ≠ rtpVersion then none
  else
    let offset := rtpHeaderSize + headerCount (buffer 0) * 4
    let offset :=
      if headerExtension (buffer 0) then
        offset + ntohs (buffer (offset + 2)) (buffer (offset + 3)) * 4
      else offset
    if offset ≥ size then none else some (offset, size - offset)

/-! ## Packets -/

/-- The bytes of the buffer from `offset` on. -/
def bytesAt (buffer : Nat → UInt8) (offset size : Nat) : List UInt8 :=
  (List.range size).map (fun i => buffer (offset + i))

/-- The length of the complete header of a packet, if the packet has one. -/
def packetHeaderLength (packet : List UInt8) : Option Nat :=
  let first := packet.headD 0
  let fixed := rtpHeaderSize + headerCount first * 4
  if headerExtension first then
    match packet[fixed + 2]?, packet[fixed + 3]? with
    | some high, some low => some (fixed + 4 + ntohs high low * 4)
    | _, _ => none
  else some fixed

/-- The payload of a packet: what follows the complete header, if anything
does. -/
def packetPayload (packet : List UInt8) : Option (List UInt8) :=
  (packetHeaderLength packet).bind (fun length =>
    if length < packet.length then some (packet.drop length) else none)

/-- Skipping the header of the packet in the first `size` bytes of the buffer
returns the payload of the packet. -/
def SkipsHeader (buffer : Nat → UInt8) (size : Nat) : Prop :=
  (rtpRxHeaderSkip buffer size).map (fun (offset, length) => bytesAt buffer offset length) =
    packetPayload (bytesAt buffer 0 size)

instance (buffer : Nat → UInt8) (size : Nat) : Decidable (SkipsHeader buffer size) :=
  inferInstanceAs (Decidable (_ = _))

/-! ## Comparison -/

section

variable {buffer : Nat → UInt8} {size : Nat}

@[simp] theorem length_bytesAt (offset size : Nat) :
    (bytesAt buffer offset size).length = size := by
  simp [bytesAt]

theorem drop_bytesAt (offset size : Nat) :
    (bytesAt buffer 0 size).drop offset = bytesAt buffer offset (size - offset) := by
  apply List.ext_getElem
  · simp
  · intro i hi hi'
    simp [bytesAt]

theorem getElem?_bytesAt {i : Nat} (hi : i < size) :
    (bytesAt buffer 0 size)[i]? = some (buffer i) := by
  simp [bytesAt, hi]

theorem headD_bytesAt (hsize : 0 < size) : (bytesAt buffer 0 size).headD 0 = buffer 0 := by
  obtain ⟨n, rfl⟩ : ∃ n, size = n + 1 := ⟨size - 1, by omega⟩
  simp [bytesAt, List.range_succ_eq_map]

/-- The offset that `rtp_rx_header_skip` computes. -/
def skippedOffset (buffer : Nat → UInt8) : Nat :=
  let fixed := rtpHeaderSize + headerCount (buffer 0) * 4
  if headerExtension (buffer 0) then
    fixed + ntohs (buffer (fixed + 2)) (buffer (fixed + 3)) * 4
  else fixed

theorem skip_eq (hversion : headerVersion (buffer 0) = rtpVersion) :
    (rtpRxHeaderSkip buffer size).map (fun (offset, length) => bytesAt buffer offset length) =
      if skippedOffset buffer < size then
        some ((bytesAt buffer 0 size).drop (skippedOffset buffer))
      else none := by
  rw [rtpRxHeaderSkip, if_neg (not_not_intro hversion), drop_bytesAt]
  show Option.map _ (if skippedOffset buffer ≥ size then _ else _) = _
  by_cases hoffset : skippedOffset buffer < size
  · rw [if_neg (by omega), if_pos hoffset]
    rfl
  · rw [if_pos (by omega), if_neg hoffset]
    rfl

/-- A buffer without a received byte has no payload. -/
theorem payload_nil (offset : Nat) :
    packetPayload (bytesAt buffer 0 0) =
      if offset < 0 then some ((bytesAt buffer 0 0).drop offset) else none := by
  show packetPayload [] = none
  decide

/-- Without an extension the offset is the length of the header. -/
theorem payload_plain (hextension : headerExtension (buffer 0) = false) :
    packetPayload (bytesAt buffer 0 size) =
      if skippedOffset buffer < size then
        some ((bytesAt buffer 0 size).drop (skippedOffset buffer))
      else none := by
  by_cases hsize : 0 < size
  · simp only [packetPayload, packetHeaderLength, headD_bytesAt hsize, hextension,
      Bool.false_eq_true, if_false, Option.bind_some, length_bytesAt, skippedOffset]
  · obtain rfl : size = 0 := by omega
    exact payload_nil _

/-- With an extension the header is 4 bytes longer than the offset. -/
theorem payload_extended (hextension : headerExtension (buffer 0) = true) :
    packetPayload (bytesAt buffer 0 size) =
      if skippedOffset buffer + 4 < size then
        some ((bytesAt buffer 0 size).drop (skippedOffset buffer + 4))
      else none := by
  by_cases hsize : 0 < size
  · have hoffset : skippedOffset buffer = rtpHeaderSize + headerCount (buffer 0) * 4 +
        ntohs (buffer (rtpHeaderSize + headerCount (buffer 0) * 4 + 2))
          (buffer (rtpHeaderSize + headerCount (buffer 0) * 4 + 3)) * 4 := by
      simp only [skippedOffset, hextension, if_true]
    simp only [packetPayload, packetHeaderLength, headD_bytesAt hsize, hextension, if_true]
    generalize rtpHeaderSize + headerCount (buffer 0) * 4 = fixed at hoffset ⊢
    by_cases hcomplete : fixed + 3 < size
    · have hlength : fixed + 4 + ntohs (buffer (fixed + 2)) (buffer (fixed + 3)) * 4 =
          skippedOffset buffer + 4 := by omega
      rw [getElem?_bytesAt (by omega), getElem?_bytesAt hcomplete]
      simp only [Option.bind_some, length_bytesAt, hlength]
    · -- the header of the extension is cut off
      have hcut : (bytesAt buffer 0 size)[fixed + 3]? = none :=
        List.getElem?_eq_none (by rw [length_bytesAt]; omega)
      rw [hcut, if_neg (by omega)]
      cases (bytesAt buffer 0 size)[fixed + 2]? <;> rfl
  · obtain rfl : size = 0 := by omega
    exact payload_nil _

end

/-- For a packet of version 2, skipping the header returns the payload exactly if
there is no extension, or the packet ends before the extension does. -/
theorem skipsHeader_iff (buffer : Nat → UInt8) (size : Nat)
    (hversion : headerVersion (buffer 0) = rtpVersion) :
    SkipsHeader buffer size ↔
      headerExtension (buffer 0) = false ∨ size ≤ skippedOffset buffer := by
  unfold SkipsHeader
  rw [skip_eq hversion]
  cases hextension : headerExtension (buffer 0) with
  | false => simp [payload_plain hextension]
  | true =>
    rw [payload_extended hextension]
    by_cases hskipped : skippedOffset buffer < size
    · rw [if_pos hskipped]
      refine iff_of_false (fun hsame => ?_) (by simp; omega)
      split at hsame
      · have hlength := congrArg List.length (Option.some.inj hsame)
        simp only [List.length_drop, length_bytesAt] at hlength
        omega
      · exact nomatch hsame
    · rw [if_neg hskipped, if_neg (by omega)]
      exact iff_of_true rfl (.inr (by omega))

/-- A packet with two CSRC identifiers and one byte of payload. -/
def mixedPacket (i : Nat) : UInt8 := [0x82, 0, 0, 1].getD i 7

theorem skipsHeader_mixedPacket :
    headerVersion (mixedPacket 0) = rtpVersion ∧ SkipsHeader mixedPacket 21 :=
  ⟨by decide, (skipsHeader_iff mixedPacket 21 (by decide)).mpr (.inl (by decide))⟩

/-- A packet with an extension of one word and one byte of payload: the last
word of the extension is returned in front of the payload. -/
def extendedPacket (i : Nat) : UInt8 :=
  [0x90, 0, 0, 1, 0, 0, 0, 0, 0, 0, 0, 0, 0xBE, 0xDE, 0, 1, 1, 2, 3, 4, 5].getD i 0

theorem extension_header_kept :
    headerVersion (extendedPacket 0) = rtpVersion ∧
      (rtpRxHeaderSkip extendedPacket 21).map
        (fun (offset, length) => bytesAt extendedPacket offset length) = some [1, 2, 3, 4, 5] ∧
      packetPayload (bytesAt extendedPacket 0 21) = some [5] ∧
      ¬SkipsHeader extendedPacket 21 := by
  decide

end UniMrcp.Mpf
