import UniMrcp.Mpf.RtpHeader

/-!
# RTCP reception

A model of `mpf_rtcp_compound_packet_receive` (`mpf/src/mpf_rtp_stream.c`) with
the conversions of `mpf_rtcp_packet.h`, on a little-endian host.  The loop goes
from packet to packet by their length words, up to the end of the datagram, and
the fields of a report are converted in place.

Type, count and length of a packet are not compared with the bytes that have
been received.  So the loop stays inside them exactly if every packet that it
comes to is there as far as it is looked at (`Contained`).
-/

namespace UniMrcp.Mpf

/-- `RTCP_SR` -/
def rtcpSr : UInt8 := 200

/-- `RTCP_RR` -/
def rtcpRr : UInt8 := 201

/-- `header.count` -/
def rtcpCount (first : UInt8) : Nat := first.toNat % 32

/-- The state of the loop: the buffer, the offset of the packet, and the fields
that have been read or written, each with its offset and size. -/
structure RtcpReader where
  buffer : Nat → UInt8
  offset : Nat
  accessed : List (Nat × Nat)

namespace RtcpReader

/-- A field is read. -/
def look (r : RtcpReader) (start size : Nat) : RtcpReader :=
  { r with accessed := r.accessed ++ [(start, size)] }

/-- `ntohs` and `ntohl`, and the conversion of `lost`: the bytes of the field
are turned around. -/
def toHost (r : RtcpReader) (start size : Nat) : RtcpReader :=
  { r.look start size with buffer := fun i =>
      if start ≤ i ∧ i < start + size then r.buffer (2 * start + size - 1 - i) else r.buffer i }

/-- `rtcp_sr_get`: six words. -/
def srGet (r : RtcpReader) (start : Nat) : RtcpReader :=
  (List.range 6).foldl (fun r i => r.toHost (start + i * 4) 4) r

/-- `rtcp_rr_get`: `ssrc`, `last_seq`, `jitter` and `lost` are converted, and
`fraction` is written to the log. -/
def rrGet (r : RtcpReader) (start : Nat) : RtcpReader :=
  ((((r.toHost start 4).toHost (start + 8) 4).toHost (start + 12) 4).toHost (start + 5) 3).look
    (start + 4) 1

/-- The body of the loop. -/
def packetGet (r : RtcpReader) : RtcpReader :=
  let start := r.offset
  let r := (r.toHost (start + 2) 2).look (start + 1) 1
  let r :=
    if r.buffer (start + 1) = rtcpSr then
      let r := r.srGet (start + 4)
      if rtcpCount (r.buffer start) ≠ 0 then r.rrGet (start + 28) else r
    else if r.buffer (start + 1) = rtcpRr then
      let r := r.toHost (start + 4) 4
      if rtcpCount (r.buffer start) ≠ 0 then r.rrGet (start + 8) else r
    else r
  { r with offset := start + (ntohs (r.buffer (start + 3)) (r.buffer (start + 2)) + 1) * 4 }

/-- Every field that has been read or written ends inside the datagram. -/
def InBounds (r : RtcpReader) (length : Nat) : Prop :=
  ∀ field ∈ r.accessed, field.1 + field.2 ≤ length

instance (r : RtcpReader) (length : Nat) : Decidable (r.InBounds length) :=
  inferInstanceAs (Decidable (∀ field ∈ r.accessed, _))

end RtcpReader

/-- The loop of `mpf_rtcp_compound_packet_receive`. -/
def rtcpReceiveLoop (length : Nat) : Nat → RtcpReader → RtcpReader
  | 0, r => r
  | fuel + 1, r =>
    if r.offset < length then
      let r := r.look r.offset 1
      if headerVersion (r.buffer r.offset) = rtpVersion then
        rtcpReceiveLoop length fuel r.packetGet
      else r
    else r

/-- `mpf_rtcp_compound_packet_receive`: every packet has a byte at least, so
that there are not more packets than bytes. -/
def mpfRtcpCompoundPacketReceive (buffer : Nat → UInt8) (length : Nat) : RtcpReader × Bool :=
  let r := rtcpReceiveLoop length length ⟨buffer, 0, []⟩
  (r, r.offset = length)

/-! ## Bounds -/

/-- How far a packet is looked at. -/
def rtcpExtent (buffer : Nat → UInt8) (start : Nat) : Nat :=
  if buffer (start + 1) = rtcpSr then if rtcpCount (buffer start) ≠ 0 then 44 else 28
  else if buffer (start + 1) = rtcpRr then if rtcpCount (buffer start) ≠ 0 then 24 else 8
  else 4

/-- Every packet that the loop comes to has its header, and the reports that
its type and count announce, inside the datagram. -/
inductive Contained (length : Nat) : RtcpReader → Prop where
  | ended {r : RtcpReader}
      (h : length ≤ r.offset ∨ headerVersion (r.buffer r.offset) ≠ rtpVersion) : Contained length r
  | packet {r : RtcpReader} (hversion : headerVersion (r.buffer r.offset) = rtpVersion)
      (hfits : r.offset + rtcpExtent r.buffer r.offset ≤ length)
      (hnext : Contained length (r.look r.offset 1).packetGet) : Contained length r

section

variable {length : Nat} {r : RtcpReader}

@[simp] theorem look_inBounds (start size : Nat) :
    (r.look start size).InBounds length ↔ r.InBounds length ∧ start + size ≤ length := by
  simp [RtcpReader.InBounds, RtcpReader.look, or_imp, forall_and]

@[simp] theorem toHost_inBounds (start size : Nat) :
    (r.toHost start size).InBounds length ↔ r.InBounds length ∧ start + size ≤ length :=
  look_inBounds start size

@[simp] theorem srGet_inBounds (start : Nat) :
    (r.srGet start).InBounds length ↔ r.InBounds length ∧ start + 24 ≤ length := by
  simp only [RtcpReader.srGet, show List.range 6 = [0, 1, 2, 3, 4, 5] from rfl, List.foldl_cons,
    List.foldl_nil, toHost_inBounds]
  grind

@[simp] theorem rrGet_inBounds (start : Nat) :
    (r.rrGet start).InBounds length ↔ r.InBounds length ∧ start + 16 ≤ length := by
  simp only [RtcpReader.rrGet, look_inBounds, toHost_inBounds]
  grind

/-- A conversion leaves what is in front of the field. -/
theorem toHost_buffer {start size i : Nat} (hi : i < start) :
    (r.toHost start size).buffer i = r.buffer i :=
  if_neg (by omega)

theorem srGet_buffer {start i : Nat} (hi : i < start) : (r.srGet start).buffer i = r.buffer i := by
  simp (disch := omega) [RtcpReader.srGet, List.range_succ, toHost_buffer]

/-- A packet is looked at up to its extent. -/
theorem packetGet_inBounds : r.packetGet.InBounds length ↔
    r.InBounds length ∧ r.offset + rtcpExtent r.buffer r.offset ≤ length := by
  have hfirst : ∀ i, i < r.offset + 2 →
      ((r.toHost (r.offset + 2) 2).look (r.offset + 1) 1).buffer i = r.buffer i :=
    fun i hi => toHost_buffer hi
  unfold RtcpReader.packetGet rtcpExtent
  dsimp only
  rw [hfirst _ (by omega), srGet_buffer (by omega), toHost_buffer (by omega), hfirst _ (by omega)]
  change RtcpReader.InBounds (ite _ _ _) length ↔ _
  split_ifs <;> simp only [rrGet_inBounds, srGet_inBounds, toHost_inBounds, look_inBounds] <;> grind

theorem packetGet_offset (r : RtcpReader) : r.offset + 4 ≤ r.packetGet.offset := by
  simp only [RtcpReader.packetGet]
  omega

/-- The loop stays in bounds exactly if the packets from here on are contained. -/
theorem rtcpReceiveLoop_inBounds {fuel : Nat} (hfuel : length ≤ r.offset + fuel) :
    (rtcpReceiveLoop length fuel r).InBounds length ↔ r.InBounds length ∧ Contained length r := by
  induction fuel generalizing r with
  | zero => exact ⟨fun h => ⟨h, .ended (.inl hfuel)⟩, And.left⟩
  | succ fuel ih =>
    unfold rtcpReceiveLoop
    split_ifs with hoffset
    · dsimp only
      split_ifs with hversion
      · have hnext := packetGet_offset (r.look r.offset 1)
        change r.offset + 4 ≤ _ at hnext
        rw [ih (by omega), packetGet_inBounds, look_inBounds]
        constructor
        · rintro ⟨⟨⟨h, -⟩, hfits⟩, hcontained⟩
          exact ⟨h, .packet hversion hfits hcontained⟩
        · rintro ⟨h, hended | ⟨-, hfits, hcontained⟩⟩
          · exact absurd hversion (hended.resolve_left (Nat.not_le_of_lt hoffset))
          · exact ⟨⟨⟨h, hoffset⟩, hfits⟩, hcontained⟩
      · rw [look_inBounds]
        exact ⟨fun h => ⟨h.1, .ended (.inr hversion)⟩, fun h => ⟨h.1, hoffset⟩⟩
    · exact ⟨fun h => ⟨h, .ended (.inl (Nat.le_of_not_lt hoffset))⟩, And.left⟩

end

/-- The reception of a datagram reads and writes only what has been received
exactly if every packet that it comes to is contained in it. -/
theorem rtcp_in_bounds_iff (buffer : Nat → UInt8) (length : Nat) :
    (mpfRtcpCompoundPacketReceive buffer length).1.InBounds length ↔
      Contained length ⟨buffer, 0, []⟩ := by
  refine (rtcpReceiveLoop_inBounds (Nat.le_add_left length 0)).trans ⟨And.right, fun h => ⟨?_, h⟩⟩
  exact fun _ hfield => absurd hfield List.not_mem_nil

/-- A datagram of four bytes, the header of an SR: the six words behind it are
converted. -/
theorem rtcp_header_out_of_bounds :
    let r := (mpfRtcpCompoundPacketReceive (fun i => [128, 200, 0, 0].getD i 0) 4).1
    (24, 4) ∈ r.accessed ∧ ¬ r.InBounds 4 := by
  decide +kernel

end UniMrcp.Mpf
