import DecoderSDK.Bytes.Checked
import DecoderSDK.Base.Packet
import DecoderSDK.Bitstream.StartCodes
import DecoderSDK.Bitstream.Avcc
import DecoderSDK.Bitstream.Sei
import DecoderSDK.Bitstream.Framing
import DecoderSDK.Interleaving.Runs
import DecoderSDK.Ring.Contents
import DecoderSDK.Base.Frame
import DecoderSDK.Queues.FrameQueue
import DecoderSDK.Ring.Bounded
import DecoderSDK.Queues.RingRefinement
import DecoderSDK.Log.Reader
import DecoderSDK.Queues.TwoPhase
import DecoderSDK.Base.Double
import DecoderSDK.Base.Compare
import DecoderSDK.Queues.PacketQueue
import DecoderSDK.Queues.Accounting
import DecoderSDK.Bitstream.Sps
import DecoderSDK.Decode.Loop
import DecoderSDK.Decode.Changes
import DecoderSDK.Decode.Generations
import DecoderSDK.Session.Demuxer
import DecoderSDK.Session.Controller
import DecoderSDK.Session.Requests
import DecoderSDK.Decode.SerialChange
import DecoderSDK.Decode.Publishing
import DecoderSDK.Session.SeekingMode
import DecoderSDK.Session.StaleFrames
import DecoderSDK.Session.StreamEnded
import DecoderSDK.Session.Draining
import DecoderSDK.Reconnect.Threads
import DecoderSDK.Reconnect.Closing
import DecoderSDK.Reconnect.Announcing
import DecoderSDK.Waiting.Condition
import DecoderSDK.Waiting.Monitor
import DecoderSDK.Queues.Aborting
import DecoderSDK.Pausing.Worker
import DecoderSDK.PreBuffer.Status
import DecoderSDK.PreBuffer.Player
import DecoderSDK.Filling.Levels
import DecoderSDK.PreBuffer.Progress
import DecoderSDK.Timeline.Lines
import DecoderSDK.Sync.Clock
import DecoderSDK.Session.EndPackets
import DecoderSDK.Timeline.TimeBases
import DecoderSDK.Recorder.Packets
import DecoderSDK.Recorder.DecodingOrder
import DecoderSDK.Recorder.Synchrony
import DecoderSDK.Lifecycle.Demuxer
import DecoderSDK.Bracketing.Blocks
import DecoderSDK.Lifecycle.Opening
import DecoderSDK.Lifecycle.Events
import DecoderSDK.Playback.Controller
import DecoderSDK.Playback.Decoding
import DecoderSDK.Playback.Speed
import DecoderSDK.Bitstream.SeiWriting
import DecoderSDK.Linked.Chains
import DecoderSDK.Events.Dispatcher
import DecoderSDK.AsyncOpen.Tasks
import DecoderSDK.AsyncOpen.Ordering
import DecoderSDK.AsyncOpen.Answers
import DecoderSDK.AsyncOpen.Callbacks
import DecoderSDK.Lifecycle.Recording
import DecoderSDK.Playback.Reconnecting
import DecoderSDK.Audio.Resampler
import DecoderSDK.Video.CodecContext
import DecoderSDK.Recorder.Session
import DecoderSDK.Recorder.Lossless
import DecoderSDK.Decode.DropFilter
import DecoderSDK.Session.SeekFilter
import DecoderSDK.Bytes.Slices
import DecoderSDK.Bitstream.Parsing
import DecoderSDK.Bitstream.SpsRepair
import DecoderSDK.Video.Extradata
import DecoderSDK.PreBuffer.Agreement
import DecoderSDK.Smoothing.Clamp
import DecoderSDK.Sync.Drift
import DecoderSDK.Sync.VideoDelay
import DecoderSDK.Playback.Starting
import DecoderSDK.Decode.Contexts
import DecoderSDK.Recorder.Formats
import DecoderSDK.Recorder.Starting
import DecoderSDK.Draining.Buffers
import DecoderSDK.Audio.Backlog
import DecoderSDK.Framing.LengthPrefixed
import DecoderSDK.Bitstream.EmulationPrevention
import DecoderSDK.Numbered.Selection
import DecoderSDK.Recorder.Mapping
import DecoderSDK.Ownership.Heap
import DecoderSDK.Ownership.Handles
import DecoderSDK.Memory.Packets
import DecoderSDK.Memory.Frames
import DecoderSDK.Hardware.Types
import DecoderSDK.Hardware.Devices
import DecoderSDK.Hardware.Accel
import DecoderSDK.Batching.Handout
import DecoderSDK.Events.Async
import DecoderSDK.Decode.Events
import DecoderSDK.Retrying.Deadline
import DecoderSDK.Session.Reading
import DecoderSDK.Decode.Fallback
import DecoderSDK.Decode.Pacing
import DecoderSDK.Audio.Sharing
import DecoderSDK.Video.Conversion
