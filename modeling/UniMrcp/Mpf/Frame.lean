/-!
# Media frames

The types of `mpf/include/mpf_frame.h`, which are flags, and the time of a frame
from `mpf/include/mpf_codec_descriptor.h`.
-/

namespace UniMrcp.Mpf

/-- `CODEC_FRAME_TIME_BASE`, in milliseconds -/
def codecFrameTimeBase : UInt32 := 10

/-- `MEDIA_FRAME_TYPE_NONE` -/
def mediaFrameTypeNone : Nat := 0x0

/-- `MEDIA_FRAME_TYPE_AUDIO` -/
def mediaFrameTypeAudio : Nat := 0x1

/-- `MEDIA_FRAME_TYPE_EVENT` -/
def mediaFrameTypeEvent : Nat := 0x4

/-- `(type & flag) == flag` -/
def hasFlag (type flag : Nat) : Bool := type &&& flag == flag

/-- `mpf_frame_marker_e` -/
inductive FrameMarker where
  | none
  | startOfEvent
  | endOfEvent
  | newSegment
  deriving Repr, DecidableEq

end UniMrcp.Mpf
