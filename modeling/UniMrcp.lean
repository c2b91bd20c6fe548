import UniMrcp.Apt.CyclicQueue
import UniMrcp.Apt.MultipartRoundTrip
import UniMrcp.Apt.TimerKill
import UniMrcp.Apt.TimerTiming
import UniMrcp.Client.ChannelAdd
import UniMrcp.Client.Peer
import UniMrcp.Engine.Completion
import UniMrcp.Engine.Fifo
import UniMrcp.Engine.PendingQueue
import UniMrcp.Engine.RecorderLife
import UniMrcp.Engine.Responses
import UniMrcp.Engine.Speaker
import UniMrcp.Engine.StopReport
import UniMrcp.Engine.VerifierLife
import UniMrcp.Mpf.ActivityDetector
import UniMrcp.Mpf.BufferFifo
import UniMrcp.Mpf.JitterConfig
import UniMrcp.Mpf.JitterOrigin
import UniMrcp.Mpf.JitterRestart
import UniMrcp.Mpf.JitterSlots
import UniMrcp.Mpf.Mixer
import UniMrcp.Mpf.RtcpReceive
import UniMrcp.Mpf.RtpHeader
import UniMrcp.Mpf.RtpPorts
import UniMrcp.Mpf.RtpTransmitter
import UniMrcp.Mrcp.HeaderParams
import UniMrcp.Rtsp.ClientTermination
import UniMrcp.Rtsp.ServerTermination
import UniMrcp.Server.Authority
import UniMrcp.Server.Seats
import UniMrcp.Transport.ClientReceive
import UniMrcp.Transport.ClientRequests
import UniMrcp.Transport.InvalidIsolation
import UniMrcp.Transport.SendExact
import UniMrcp.Unirtsp.ClientAgent
