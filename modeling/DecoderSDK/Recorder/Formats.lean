import DecoderSDK.Recorder.Packets

/-! # Container formats

The recorder chooses the container from the extension of the output path and
compares the codecs of the input with the lists that the container supports.
The name of a stream's codec is what `avcodec_get_name` answers for it.
-/
namespace DecoderSDK.Recorder

inductive ContainerFormat where
  | MP4
  | AVI
  | MKV
  | MOV
  | FLV
  | TS
  | WEBM
  | OGV
  | UNKNOWN
  deriving DecidableEq

structure ContainerFormatInfo where
  format : ContainerFormat
  formatName : String
  extension : String
  description : String
  supportVideo : Bool
  supportAudio : Bool
  supportedVideoCodecs : List String
  supportedAudioCodecs : List String

def ContainerFormat.info : ContainerFormat → ContainerFormatInfo
  | .MP4 => ⟨.MP4, "mp4", "mp4", "MPEG-4 Part 14", true, true,
      ["h264", "h265", "hevc", "mpeg4", "av1"], ["aac", "mp3", "ac3", "eac3", "opus"]⟩
  | .AVI => ⟨.AVI, "avi", "avi", "Audio Video Interleave", true, true,
      ["h264", "mpeg4", "mjpeg", "rawvideo"], ["mp3", "ac3", "pcm_s16le", "pcm_s24le"]⟩
  | .MKV => ⟨.MKV, "matroska", "mkv", "Matroska", true, true,
      ["h264", "h265", "hevc", "vp8", "vp9", "av1", "mpeg4"],
      ["aac", "mp3", "ac3", "eac3", "opus", "vorbis", "flac", "pcm_s16le"]⟩
  | .MOV => ⟨.MOV, "mov", "mov", "QuickTime", true, true,
      ["h264", "h265", "hevc", "mpeg4", "prores"],
      ["aac", "mp3", "ac3", "pcm_s16le", "pcm_s24le"]⟩
  | .FLV => ⟨.FLV, "flv", "flv", "Flash Video", true, true,
      ["h264", "flv1"], ["aac", "mp3", "pcm_s16le"]⟩
  | .TS => ⟨.TS, "mpegts", "ts", "MPEG Transport Stream", true, true,
      ["h264", "h265", "hevc", "mpeg2video"], ["aac", "mp3", "ac3", "eac3"]⟩
  | .WEBM => ⟨.WEBM, "webm", "webm", "WebM", true, true,
      ["vp8", "vp9", "av1"], ["vorbis", "opus"]⟩
  | .OGV => ⟨.OGV, "ogg", "ogv", "Ogg Video", true, true,
      ["theora", "vp8"], ["vorbis", "opus", "flac"]⟩
  | .UNKNOWN => ⟨.UNKNOWN, "", "", "Unknown Format", false, false, [], []⟩

/-- The entries of the map. Their order does not matter, for no two have the same extension. -/
def getFormatInfoMap : List ContainerFormatInfo :=
  [ContainerFormat.MP4, .AVI, .MKV, .MOV, .FLV, .TS, .WEBM, .OGV, .UNKNOWN].map
    ContainerFormat.info

/-- `std::filesystem::path::extension`: the last component of the path from its last dot. A name
without a dot, or with none but a leading one, has no extension, and `..` has none. -/
def extension (path : String) : List Char :=
  let name := path.toList.reverse.takeWhile (· != '/')
  let suffix := name.takeWhile (· != '.')
  if name = ['.', '.'] ∨ name.length ≤ suffix.length + 1 then [] else '.' :: suffix.reverse

def detectContainerFormat (filePath : String) : ContainerFormat :=
  let lower := (extension filePath).map Char.toLower
  let name := if lower.head? = some '.' then lower.tail else lower
  match getFormatInfoMap.find? fun info => info.extension.toList = name with
  | some info => info.format
  | none => .UNKNOWN

example : detectContainerFormat "rec.2024/a.b.MKV" = .MKV := by decide
example : detectContainerFormat "rec/.mp4" = .UNKNOWN := by decide

/-- A stream of the input with the name of its codec. -/
structure CodedStream extends InStream where
  codecName : String

structure InputFormatContext where
  streams : List CodedStream

namespace ContainerFormatInfo

def supportedCodecs (info : ContainerFormatInfo) : MediaType → List String
  | .video => info.supportedVideoCodecs
  | .audio => info.supportedAudioCodecs

def unsupportedCodec (info : ContainerFormatInfo) (stream : CodedStream) : Option String :=
  match stream.codecType with
  | some .video =>
    if stream.codecName ∈ info.supportedVideoCodecs then none
    else some ("Video: " ++ stream.codecName)
  | some .audio =>
    if stream.codecName ∈ info.supportedAudioCodecs then none
    else some ("Audio: " ++ stream.codecName)
  | none => none

theorem unsupportedCodec_eq_none_iff (info : ContainerFormatInfo) (stream : CodedStream) :
    info.unsupportedCodec stream = none ↔
      ∀ m, stream.codecType = some m → stream.codecName ∈ info.supportedCodecs m := by
  unfold unsupportedCodec
  cases htype : stream.codecType with
  | none => simp
  | some m => cases m <;> simp [supportedCodecs]

end ContainerFormatInfo

def InputFormatContext.has (input : InputFormatContext) (m : MediaType) : Bool :=
  input.streams.any fun stream => decide (stream.codecType = some m)

/-- The error text is what the caller logs. -/
def validateFormatCompatibility (format : ContainerFormat)
    (inputFormatCtx : Option InputFormatContext) : Except String Unit :=
  if format = .UNKNOWN then .error "Unknown container format"
  else match inputFormatCtx with
    | none => .error "Input format context is null"
    | some input =>
      let info := format.info
      let unsupportedCodecs := input.streams.filterMap info.unsupportedCodec
      if input.has .video ∧ info.supportVideo = false then
        .error (info.description ++ " format does not support video streams")
      else if input.has .audio ∧ info.supportAudio = false then
        .error (info.description ++ " format does not support audio streams")
      else if unsupportedCodecs ≠ [] then
        .error ("Unsupported codecs for " ++ info.description ++ " format: " ++
          ", ".intercalate unsupportedCodecs)
      else .ok ()

/-- Every video and audio stream has a codec on the list of the format. -/
def InputFormatContext.Fits (input : InputFormatContext) (format : ContainerFormat) : Prop :=
  ∀ stream ∈ input.streams, ∀ m, stream.codecType = some m →
    stream.codecName ∈ format.info.supportedCodecs m

theorem ContainerFormat.supports {format : ContainerFormat} (h : format ≠ .UNKNOWN) :
    format.info.supportVideo = true ∧ format.info.supportAudio = true := by
  cases format with
  | UNKNOWN => contradiction
  | _ => exact ⟨rfl, rfl⟩

/-- A known format has no other objection than the codecs. -/
theorem validateFormatCompatibility_iff {format : ContainerFormat} (h : format ≠ .UNKNOWN)
    (input : InputFormatContext) :
    validateFormatCompatibility format (some input) = .ok () ↔ input.Fits format := by
  have hcodecs : input.streams.filterMap format.info.unsupportedCodec = [] ↔
      input.Fits format := by
    rw [List.filterMap_eq_nil_iff]
    apply forall₂_congr
    intro stream _
    exact format.info.unsupportedCodec_eq_none_iff stream
  unfold validateFormatCompatibility
  rw [if_neg h, ← hcodecs]
  simp [ContainerFormat.supports h]

end DecoderSDK.Recorder
