import DecoderSDK.Decode.Generations

/-! # What a decode thread reports

A thread reports its first frame, its errors and its recoveries. The reports
of a run are read by an acceptor: a recovery answers an error, comes after a
first frame and clears the error; an audio thread reports its first frame
once. A report that is due is made before the next frame is committed.
-/
namespace DecoderSDK

open Interleaving (run run_invariant run_append)

namespace Pc

/-- The frame in the thread's hands has been announced. -/
@[simp] def announced : Pc → Bool
  | .getWritable _ => true
  | .fill _ _ => true
  | .pace _ _ => true
  | .commit _ _ => true
  | _ => false

end Pc

/-- What the reports have said so far. -/
structure Told where
  firstFrame : Bool
  failing : Bool
  deriving DecidableEq

namespace Told

def nothing : Told := ⟨false, false⟩

/-- The reports that may come next. -/
def next (media : MediaType) (t : Told) : DecodeEvent → Option Told
  | .decodeFirstFrame =>
    if media = .audio ∧ t.firstFrame = true then none else some { t with firstFrame := true }
  | .decodeError => some { t with failing := true }
  | .decodeRecovery =>
    if t.firstFrame = true ∧ t.failing = true then some { t with failing := false } else none

/-- What a list of reports says, if each of them may come where it does. -/
def read (media : MediaType) (events : List DecodeEvent) : Option Told :=
  events.foldlM (next media) nothing

theorem read_append {media : MediaType} {events es : List DecodeEvent} {t : Told}
    (h : read media events = some t) :
    read media (events ++ es) = es.foldlM (next media) t := by
  rw [read] at h ⊢
  rw [List.foldlM_append, h]
  rfl

end Told

namespace Decoder

/-- The thread owes this report. -/
def owes (d : Decoder) : DecodeEvent → Bool
  | .decodeFirstFrame => !d.readFirstFrame
  | .decodeError => false
  | .decodeRecovery => d.occuredError

/-- The reports that a frame is announced with. -/
def announcements (d : Decoder) : List DecodeEvent :=
  (if d.readFirstFrame then [] else [.decodeFirstFrame]) ++
    if d.occuredError then [.decodeRecovery] else []

/-- Everything a step can do to the reports and to what they depend on. -/
inductive Reports (d d' : Decoder) : List DecodeEvent → Prop where
  | quiet (hread : d'.readFirstFrame = d.readFirstFrame) (herr : d'.occuredError = d.occuredError)
      (hcommitted : d'.committed = d.committed)
      (hpc : d'.pc.announced = true → d.pc.announced = true) : Reports d d' []
  | started (hpc : d.pc = .start) (hread : d'.readFirstFrame = false)
      (herr : d'.occuredError = false) (hcommitted : d'.committed = d.committed)
      (hpc' : d'.pc.announced = false) : Reports d d' []
  | resumed (hmedia : d.media = .video) (hread : d'.readFirstFrame = false)
      (herr : d'.occuredError = d.occuredError) (hcommitted : d'.committed = d.committed)
      (hpc' : d'.pc.announced = false) : Reports d d' []
  | failed (hread : d'.readFirstFrame = d.readFirstFrame) (herr : d'.occuredError = true)
      (hcommitted : d'.committed = d.committed) (hpc' : d'.pc.announced = false) :
      Reports d d' [.decodeError]
  | unresampled (hread : d'.readFirstFrame = d.readFirstFrame)
      (herr : d'.occuredError = d.occuredError) (hcommitted : d'.committed = d.committed)
      (hpc' : d'.pc.announced = false) : Reports d d' [.decodeError]
  | announced (tail : List DecodeEvent) (htail : tail = [] ∨ tail = [.decodeError])
      (hread : d'.readFirstFrame = true) (herr : d'.occuredError = false)
      (hcommitted : d'.committed = d.committed) : Reports d d' (d.announcements ++ tail)
  | committed (hpc : d.pc.announced = true) (hread : d'.readFirstFrame = d.readFirstFrame)
      (herr : d'.occuredError = d.occuredError) (hpc' : d'.pc.announced = false) : Reports d d' []

/-- What is owed depends on the two flags alone. -/
theorem owes_congr {d d' : Decoder} (hread : d'.readFirstFrame = d.readFirstFrame)
    (herr : d'.occuredError = d.occuredError) (e : DecodeEvent) : d'.owes e = d.owes e := by
  cases e with
  | decodeFirstFrame => rw [owes, owes, hread]
  | decodeError => rfl
  | decodeRecovery => exact herr

theorem Reports.goto {d : Decoder} {pc : Pc} (h : pc.announced = true → d.pc.announced = true) :
    Reports d (d.goto pc) [] := .quiet rfl rfl rfl h

@[simp] theorem readFirstFrame_reportFirstFrame (d : Decoder) :
    d.reportFirstFrame.readFirstFrame = true := by
  cases h : d.readFirstFrame <;> simp [reportFirstFrame, h]

@[simp] theorem readFirstFrame_reportRecovery (d : Decoder) :
    d.reportRecovery.readFirstFrame = d.readFirstFrame := by
  cases h : d.occuredError <;> simp [reportRecovery, h]

@[simp] theorem occuredError_reportFirstFrame (d : Decoder) :
    d.reportFirstFrame.occuredError = d.occuredError := by
  cases h : d.readFirstFrame <;> simp [reportFirstFrame, h]

@[simp] theorem occuredError_reportRecovery (d : Decoder) :
    d.reportRecovery.occuredError = false := by
  cases h : d.occuredError <;> simp [reportRecovery, h]

@[simp] theorem media_report (d : Decoder) :
    d.reportFirstFrame.reportRecovery.media = d.media := by
  unfold reportFirstFrame reportRecovery
  split_ifs <;> rfl

theorem events_report (d : Decoder) :
    d.reportFirstFrame.reportRecovery.events = d.events ++ d.announcements := by
  have hfirst : d.reportFirstFrame.events =
      d.events ++ if d.readFirstFrame then [] else [.decodeFirstFrame] := by
    cases h : d.readFirstFrame <;> simp [reportFirstFrame, h]
  have hrecovery : d.reportFirstFrame.reportRecovery.events =
      d.reportFirstFrame.events ++ if d.occuredError then [.decodeRecovery] else [] := by
    cases h : d.occuredError <;> simp [reportRecovery, h]
  rw [hrecovery, hfirst, List.append_assoc, announcements]

@[simp] theorem media_sendFailed (d : Decoder) (error : AvError) (now : ℕ) (reopened : Bool) :
    (d.sendFailed error now reopened).media = d.media := by
  unfold sendFailed
  split
  · rfl
  · dsimp only
    split_ifs <;> rfl

/-- A packet that the codec refuses is not reported. -/
theorem sendFailed_quiet (d : Decoder) (error : AvError) (now : ℕ) (reopened : Bool) :
    (d.sendFailed error now reopened).events = d.events ∧
    (d.sendFailed error now reopened).readFirstFrame = d.readFirstFrame ∧
    (d.sendFailed error now reopened).occuredError = d.occuredError := by
  unfold sendFailed
  split
  · exact ⟨rfl, rfl, rfl⟩
  · dsimp only
    split_ifs <;> exact ⟨rfl, rfl, rfl⟩

/-- A step of the thread appends to the reports and leaves the medium alone. -/
structure Reporting (d d' : Decoder) (es : List DecodeEvent) : Prop where
  media : d'.media = d.media
  events : d'.events = d.events ++ es
  reports : Reports d d' es

theorem Reporting.quiet {d d' : Decoder} (hmedia : d'.media = d.media) (hevents : d'.events = d.events)
    (h : Reports d d' []) : Reporting d d' [] :=
  ⟨hmedia, by rw [hevents, List.append_nil], h⟩

theorem Reporting.goto {d : Decoder} {pc : Pc} (h : pc.announced = true → d.pc.announced = true) :
    Reporting d (d.goto pc) [] :=
  .quiet rfl rfl (.goto h)

theorem loop_reporting {d d' : Decoder} {c : Choice} (h : d.loop c = some d') :
    d'.pc.started = true ∧ ∃ es, Reporting d d' es := by
  unfold loop at h
  cases hpc : d.pc with
  | idle => simp [hpc] at h
  | done => simp [hpc] at h
  | start =>
    simp only [hpc, Option.some.injEq] at h
    subst h
    exact ⟨rfl, [], .quiet rfl rfl (.started hpc rfl rfl rfl rfl)⟩
  | startFlush | flushCodec | reread | endSeeking | arrived frame =>
    simp only [hpc, Option.some.injEq] at h
    subst h
    exact ⟨rfl, [], .quiet rfl rfl (.quiet rfl rfl rfl (by simp [goto]))⟩
  | head | preBuffer | pause | check | popFailed | seekingTest frame | seekPosTest frame =>
    simp only [hpc, Option.some.injEq] at h
    subst h
    refine ⟨?_, [], .goto ?_⟩ <;> split_ifs <;> simp
  | paused =>
    simp only [hpc, Option.ite_none_left_eq_some, Option.some.injEq] at h
    rw [← h.2]
    refine ⟨?_, [], .goto ?_⟩ <;> split_ifs <;> simp
  | resumed =>
    simp only [hpc, Option.some.injEq] at h
    subst h
    refine ⟨rfl, [], .quiet rfl rfl ?_⟩
    by_cases hreset : d.media = .video ∧ d.isPaused = false
    · exact .resumed hreset.1 (if_pos hreset) rfl rfl rfl
    · exact .quiet (if_neg hreset) rfl rfl (by simp)
  | pop =>
    simp only [hpc] at h
    cases hpop : d.packetQueue.pop.1 <;> simp only [hpop, Option.some.injEq] at h <;> subst h <;>
      exact ⟨rfl, [], .quiet rfl rfl (.quiet rfl rfl rfl (by simp))⟩
  | staleTest packet =>
    simp only [hpc, Option.some.injEq] at h
    subst h
    cases d.media <;> refine ⟨?_, [], .goto ?_⟩ <;> split_ifs <;> simp
  | keyGate packet =>
    simp only [hpc] at h
    split_ifs at h <;> simp only [Option.some.injEq] at h <;> subst h <;>
      exact ⟨rfl, [], .quiet rfl rfl (.quiet rfl rfl rfl (by simp))⟩
  | send packet =>
    simp only [hpc] at h
    have hfailed (error : AvError) (now : ℕ) (reopened : Bool)
        (hd' : (d.sendPacket packet).sendFailed error now reopened = d') :
        d'.pc.started = true ∧ ∃ es, Reporting d d' es := by
      rw [← hd']
      rcases sendFailed_quiet (d.sendPacket packet) error now reopened with ⟨hevents, hread, herr⟩
      rcases sendFailed_spec (d.sendPacket packet) error now reopened with ⟨hkeeps, -, hpc'⟩
      refine ⟨?_, [], .quiet (media_sendFailed _ _ _ _) hevents
        (.quiet hread herr hkeeps.committed ?_)⟩ <;> rcases hpc' with hpc' | hpc' <;> simp [hpc']
    split at h
    · split at h <;> simp only [Option.some.injEq] at h
      · subst h
        exact ⟨rfl, [], .quiet rfl rfl (.quiet rfl rfl rfl (by simp))⟩
      · subst h
        exact ⟨rfl, [], .quiet rfl rfl (.quiet rfl rfl rfl (by simp))⟩
      · subst h
        exact ⟨rfl, [], .quiet rfl rfl (.quiet rfl rfl rfl (by simp))⟩
      · exact hfailed _ _ _ h
    · simp at h
  | receive =>
    simp only [hpc] at h
    split at h
    · simp only [Option.some.injEq] at h
      subst h
      refine ⟨?_, [], .goto ?_⟩ <;> cases d.media <;> simp
    · simp only [Option.some.injEq] at h
      subst h
      exact ⟨rfl, [], .goto (by simp)⟩
    · next error hne =>
      simp only [Option.some.injEq] at h
      subst h
      unfold handleDecodeError
      split_ifs
      · exact ⟨rfl, [], .quiet rfl rfl (.quiet rfl rfl rfl (by simp))⟩
      · exact ⟨rfl, [.decodeError], rfl, rfl, .failed rfl rfl rfl rfl⟩
    · simp at h
  | resample frame =>
    simp only [hpc] at h
    split at h
    · simp only [Option.some.injEq] at h
      subst h
      exact ⟨rfl, [], .goto (by simp)⟩
    · simp only [Option.some.injEq] at h
      subst h
      unfold handleDecodeError
      split_ifs
      · exact ⟨rfl, [], .goto (by simp)⟩
      · exact ⟨rfl, [.decodeError], rfl, rfl, .unresampled rfl rfl rfl rfl⟩
    · simp at h
  | convert frame =>
    simp only [hpc] at h
    have hcommitted := (keeps_report d).1.committed
    have hannounced : Reporting d (d.reportFirstFrame.reportRecovery.goto (.getWritable frame))
        (d.announcements ++ []) :=
      ⟨media_report d, by rw [List.append_nil]; exact events_report d,
        .announced [] (Or.inl rfl) (by simp [goto]) (by simp [goto]) hcommitted⟩
    split at h
    · simp only [Option.some.injEq] at h
      subst h
      exact ⟨rfl, _, hannounced⟩
    · simp only [Option.some.injEq] at h
      subst h
      refine ⟨rfl, d.announcements ++ [.decodeError], media_report d, ?_,
        .announced [.decodeError] (Or.inr rfl) ?_ ?_ ?_⟩
      · rw [← List.append_assoc, ← events_report]
        rfl
      · exact (readFirstFrame_reportRecovery _).trans (readFirstFrame_reportFirstFrame d)
      · exact occuredError_reportRecovery _
      · exact hcommitted
    · simp only [Option.some.injEq] at h
      subst h
      exact ⟨rfl, _, hannounced⟩
    · simp at h
  | getWritable frame =>
    simp only [hpc, Option.ite_none_left_eq_some] at h
    cases hslot : d.frameQueue.getWritableFrame.1 <;> simp only [hslot, Option.some.injEq] at h <;>
      rw [← h.2] <;> exact ⟨rfl, [], .quiet rfl rfl (.quiet rfl rfl rfl (by simp [hpc]))⟩
  | fill slot frame =>
    simp only [hpc, Option.some.injEq] at h
    subst h
    exact ⟨rfl, [], .quiet rfl rfl (.quiet rfl rfl rfl (by simp [hpc]))⟩
  | pace slot frame =>
    simp only [hpc] at h
    split at h
    · simp only [Option.some.injEq] at h
      subst h
      exact ⟨rfl, [], .goto (by simp)⟩
    · simp only [Option.some.injEq] at h
      subst h
      exact ⟨rfl, [], .goto (by simp [hpc])⟩
    · simp at h
  | commit slot frame =>
    simp only [hpc, Option.some.injEq] at h
    subst h
    exact ⟨rfl, [], .quiet rfl rfl (.committed (by simp [hpc]) rfl rfl rfl)⟩

/-- Before the thread has read the serial nothing is reported. -/
theorem step_reporting {d d' : Decoder} {a : Action} (h : d.step a = some d') :
    (∃ es, Reporting d d' es) ∧
    (d'.pc.started = true ∨
      d.pc.started = false ∧ d'.events = d.events ∧ d'.occuredError = d.occuredError) := by
  cases a with
  | loop c =>
    rcases loop_reporting h with ⟨hstarted, es, hes⟩
    exact ⟨⟨es, hes⟩, Or.inl hstarted⟩
  | start codecId hwAccel needFix =>
    simp only [step, Option.ite_none_right_eq_some, Option.some.injEq] at h
    rcases h with ⟨hpc, rfl⟩
    exact ⟨⟨[], .quiet rfl rfl (.quiet rfl rfl rfl (by simp [startInternal]))⟩,
      Or.inr ⟨by simp [hpc], rfl, rfl⟩⟩
  | _ =>
    simp only [step, Option.some.injEq] at h
    subst h
    refine ⟨⟨[], .quiet rfl rfl (.quiet rfl rfl rfl id)⟩, ?_⟩
    cases hstarted : d.pc.started
    · exact Or.inr ⟨rfl, rfl, rfl⟩
    · exact Or.inl rfl

/-- The thread's own flags agree with what it has reported, and what it is about to commit has
been announced. -/
structure Reported (d : Decoder) : Prop where
  told : ∃ t, Told.read d.media d.events = some t ∧
    (d.readFirstFrame = true → t.firstFrame = true) ∧ (d.occuredError = true → t.failing = true) ∧
    (d.media = .audio → t.firstFrame = true → d.readFirstFrame = true)
  announced : d.pc.announced = true → d.readFirstFrame = true ∧ d.occuredError = false
  unstarted : d.pc.started = false → d.events = [] ∧ d.occuredError = false

theorem reported_new (media : MediaType) (packetQueue : PacketQueue) (maxSize : ℕ)
    (isRealTime enableHardwareFallback enableParseUserSEIData : Bool) :
    Reported (new media packetQueue maxSize isRealTime enableHardwareFallback
      enableParseUserSEIData) where
  told := ⟨.nothing, rfl, by simp [new], by simp [new], by simp [Told.nothing]⟩
  announced := by simp [new]
  unstarted := fun _ => ⟨rfl, rfl⟩

/-- A thread that reports what it owes may do so. -/
theorem read_announcements {d : Decoder} {t : Told}
    (hread : d.readFirstFrame = true → t.firstFrame = true)
    (herr : d.occuredError = true → t.failing = true)
    (haudio : d.media = .audio → t.firstFrame = true → d.readFirstFrame = true) :
    ∃ t', d.announcements.foldlM (Told.next d.media) t = some t' ∧ t'.firstFrame = true := by
  have hfirst : ∃ t₁, (if d.readFirstFrame then [] else [DecodeEvent.decodeFirstFrame]).foldlM
      (Told.next d.media) t = some t₁ ∧ t₁.firstFrame = true ∧ t₁.failing = t.failing := by
    cases hf : d.readFirstFrame with
    | true => exact ⟨t, rfl, hread hf, rfl⟩
    | false =>
      refine ⟨{ t with firstFrame := true }, ?_, rfl, rfl⟩
      have hnot : ¬(d.media = .audio ∧ t.firstFrame = true) := by
        rintro ⟨hm, ht⟩
        rw [haudio hm ht] at hf
        contradiction
      rw [if_neg Bool.false_ne_true, List.foldlM_cons, Told.next, if_neg hnot]
      rfl
  rcases hfirst with ⟨t₁, hrun, hfirst₁, hfailing₁⟩
  rw [announcements, List.foldlM_append, hrun]
  cases he : d.occuredError with
  | false => exact ⟨t₁, rfl, hfirst₁⟩
  | true =>
    refine ⟨{ t₁ with failing := false }, ?_, hfirst₁⟩
    have hmay : t₁.firstFrame = true ∧ t₁.failing = true := ⟨hfirst₁, hfailing₁.trans (herr he)⟩
    rw [if_pos rfl, Option.bind_eq_bind, Option.bind_some, List.foldlM_cons, Told.next, if_pos hmay]
    rfl

theorem Reported.step {d d' : Decoder} {a : Action} (hd : Reported d) (h : d.step a = some d') :
    Reported d' := by
  rcases step_reporting h with ⟨⟨es, hmedia, hevents, hreports⟩, hstarted⟩
  rcases hd.told with ⟨t, hread, hfirst, herr, haudio⟩
  have hunstarted : d'.pc.started = false → d'.events = [] ∧ d'.occuredError = false := by
    intro hfalse
    rcases hstarted with htrue | ⟨hbefore, hsame, hsame'⟩
    · rw [htrue] at hfalse
      contradiction
    · rw [hsame, hsame']
      exact hd.unstarted hbefore
  have hthen {t' : Told} (ht' : es.foldlM (Told.next d.media) t = some t') :
      Told.read d'.media d'.events = some t' := by
    rw [hmedia, hevents, Told.read_append hread, ht']
  have hsilent (hpc' : d'.pc.announced = false) :
      d'.pc.announced = true → d'.readFirstFrame = true ∧ d'.occuredError = false := by
    rw [hpc']
    intro hfalse
    contradiction
  cases hreports with
  | quiet hr he hc hpc =>
    refine ⟨⟨t, hthen rfl, ?_, ?_, ?_⟩, ?_, hunstarted⟩
    · rwa [hr]
    · rwa [he]
    · rwa [hmedia, hr]
    · rw [hr, he]
      exact fun ha => hd.announced (hpc ha)
  | started hpc hr he hc hpc' =>
    have hnil : d.events = [] := (hd.unstarted (by simp [hpc])).1
    have ht : t = .nothing := by
      rw [hnil] at hread
      exact (Option.some.inj hread).symm
    refine ⟨⟨t, hthen rfl, ?_, ?_, ?_⟩, ?_, hunstarted⟩
    · simp [hr]
    · simp [he]
    · simp [ht, Told.nothing]
    · exact hsilent hpc'
  | resumed hvideo hr he hc hpc' =>
    refine ⟨⟨t, hthen rfl, ?_, ?_, ?_⟩, ?_, hunstarted⟩
    · simp [hr]
    · rwa [he]
    · simp [hmedia, hvideo]
    · exact hsilent hpc'
  | failed hr he hc hpc' =>
    refine ⟨⟨{ t with failing := true }, hthen rfl, ?_, fun _ => rfl, ?_⟩, ?_, hunstarted⟩
    · rwa [hr]
    · rwa [hmedia, hr]
    · exact hsilent hpc'
  | unresampled hr he hc hpc' =>
    refine ⟨⟨{ t with failing := true }, hthen rfl, ?_, fun _ => rfl, ?_⟩, ?_, hunstarted⟩
    · rwa [hr]
    · rwa [hmedia, hr]
    · exact hsilent hpc'
  | announced tail htail hr he hc =>
    rcases read_announcements hfirst herr haudio with ⟨t', ht', hfirst'⟩
    have hlast : ∃ t'', tail.foldlM (Told.next d.media) t' = some t'' ∧ t''.firstFrame = true := by
      rcases htail with rfl | rfl
      · exact ⟨t', rfl, hfirst'⟩
      · exact ⟨{ t' with failing := true }, rfl, hfirst'⟩
    rcases hlast with ⟨t'', ht'', hfirst''⟩
    refine ⟨⟨t'', hthen ?_, fun _ => hfirst'', ?_, fun _ _ => hr⟩, fun _ => ⟨hr, he⟩, hunstarted⟩
    · rw [List.foldlM_append, ht']
      exact ht''
    · simp [he]
  | committed hpc hr he hpc' =>
    refine ⟨⟨t, hthen rfl, ?_, ?_, ?_⟩, ?_, hunstarted⟩
    · rwa [hr]
    · rwa [he]
    · rwa [hmedia, hr]
    · exact hsilent hpc'

theorem reported_of_run {media : MediaType} {packetQueue : PacketQueue} {maxSize : ℕ}
    {isRealTime enableHardwareFallback enableParseUserSEIData : Bool} {d : Decoder}
    {actions : List Action}
    (hrun : run Decoder.step (new media packetQueue maxSize isRealTime enableHardwareFallback
      enableParseUserSEIData) actions = some d) : Reported d :=
  run_invariant (fun _ _ _ hd h => hd.step h) (reported_new _ _ _ _ _ _) hrun

/-- A step that commits owes nothing, and what a step owes it reports or owes afterwards. -/
theorem step_pays {d d' : Decoder} {a : Action} (hd : Reported d) (h : d.step a = some d')
    {e : DecodeEvent} (howes : d.owes e = true) :
    ∃ es, d'.events = d.events ++ es ∧ d'.committed = d.committed ∧
      (e ∈ es ∨ d'.owes e = true) := by
  rcases step_reporting h with ⟨⟨es, -, hevents, hreports⟩, hstarted⟩
  refine ⟨es, hevents, ?_⟩
  cases hreports with
  | quiet hr he hc hpc => exact ⟨hc, Or.inr (by rwa [owes_congr hr he])⟩
  | started hpc hr he hc hpc' =>
    refine ⟨hc, Or.inr ?_⟩
    cases e with
    | decodeFirstFrame => simp [owes, hr]
    | decodeError => exact howes
    | decodeRecovery =>
      rw [owes, (hd.unstarted (by simp [hpc])).2] at howes
      contradiction
  | resumed hvideo hr he hc hpc' =>
    refine ⟨hc, Or.inr ?_⟩
    cases e with
    | decodeFirstFrame => simp [owes, hr]
    | decodeError => exact howes
    | decodeRecovery => rwa [owes, he]
  | failed hr he hc hpc' =>
    refine ⟨hc, Or.inr ?_⟩
    cases e with
    | decodeFirstFrame => rwa [owes, hr]
    | decodeError => exact howes
    | decodeRecovery => rwa [owes]
  | unresampled hr he hc hpc' => exact ⟨hc, Or.inr (by rwa [owes_congr hr he])⟩
  | announced tail htail hr he hc =>
    refine ⟨hc, Or.inl (List.mem_append_left _ ?_)⟩
    cases e with
    | decodeFirstFrame =>
      have hread : d.readFirstFrame = false := by simpa [owes] using howes
      simp [announcements, hread]
    | decodeError => contradiction
    | decodeRecovery => simp [announcements, show d.occuredError = true from howes]
  | committed hpc hr he hpc' =>
    rcases hd.announced hpc with ⟨hread, herr⟩
    cases e <;> simp [owes, hread, herr] at howes

/-- What the thread owes is reported before the next frame is committed. -/
theorem run_pays {d d' : Decoder} (hd : Reported d) {e : DecodeEvent} (howes : d.owes e = true)
    {actions : List Action} (hrun : run Decoder.step d actions = some d')
    (hcommit : d'.committed ≠ d.committed) :
    ∃ es, d'.events = d.events ++ es ∧ e ∈ es := by
  have hstep : ∀ s a s', (Reported s ∧ ∃ es, s.events = d.events ++ es ∧
        (e ∈ es ∨ s.owes e = true ∧ s.committed = d.committed)) → Decoder.step s a = some s' →
      Reported s' ∧ ∃ es, s'.events = d.events ++ es ∧
        (e ∈ es ∨ s'.owes e = true ∧ s'.committed = d.committed) := by
    rintro s a s' ⟨hs, es, hevents, hpaid⟩ h
    refine ⟨hs.step h, ?_⟩
    rcases hpaid with hmem | ⟨hstill, hcommitted⟩
    · rcases step_reporting h with ⟨⟨es', -, hevents', -⟩, -⟩
      exact ⟨es ++ es', by rw [hevents', hevents, List.append_assoc],
        Or.inl (List.mem_append_left es' hmem)⟩
    · rcases step_pays hs h hstill with ⟨es', hevents', hcommitted', hpaid⟩
      refine ⟨es ++ es', by rw [hevents', hevents, List.append_assoc], ?_⟩
      rcases hpaid with hmem | hlater
      · exact Or.inl (List.mem_append_right es hmem)
      · exact Or.inr ⟨hlater, hcommitted'.trans hcommitted⟩
  rcases run_invariant hstep ⟨hd, [], (List.append_nil _).symm, Or.inr ⟨howes, rfl⟩⟩ hrun with
    ⟨-, es, hevents, hmem | ⟨-, hcommitted⟩⟩
  · exact ⟨es, hevents, hmem⟩
  · exact absurd hcommitted hcommit

/-- In every run a recovery answers an error and comes after a first frame, an audio thread
reports its first frame once, and what a thread owes it reports before it commits the next frame:
the first frame from the start on and again after a pause of video, a recovery after each error of
the codec. -/
theorem reports_accepted {media : MediaType} {packetQueue : PacketQueue} {maxSize : ℕ}
    {isRealTime enableHardwareFallback enableParseUserSEIData : Bool} {d : Decoder}
    {actions : List Action}
    (hrun : run Decoder.step (new media packetQueue maxSize isRealTime enableHardwareFallback
      enableParseUserSEIData) actions = some d) :
    (Told.read d.media d.events).isSome ∧
    (d.committed ≠ [] → .decodeFirstFrame ∈ d.events) ∧
    (∀ e later d', d.owes e = true → run Decoder.step d later = some d' →
      d'.committed ≠ d.committed → ∃ es, d'.events = d.events ++ es ∧ e ∈ es) ∧
    (∀ error d', d.pc = .receive → error ≠ .eof → error ≠ .eagain →
      d.loop (.received (.error error)) = some d' →
      d'.events = d.events ++ [.decodeError] ∧ d'.owes .decodeRecovery = true) ∧
    (∀ c d', d.media = .video → d.pc = .resumed → d.isPaused = false → d.loop c = some d' →
      d'.owes .decodeFirstFrame = true) := by
  have hd := reported_of_run hrun
  refine ⟨?_, ?_, ?_, ?_, ?_⟩
  · rcases hd.told with ⟨t, hread, -⟩
    rw [hread, Option.isSome_some]
  · intro hne
    have howes : (new media packetQueue maxSize isRealTime enableHardwareFallback
        enableParseUserSEIData).owes .decodeFirstFrame = true := rfl
    rcases run_pays (reported_new _ _ _ _ _ _) howes hrun hne with ⟨es, hevents, hmem⟩
    rw [hevents]
    exact List.mem_append_right _ hmem
  · intro e later d' howes hlater hne
    exact run_pays hd howes hlater hne
  · intro error d' hpc heof heagain h
    simp only [loop, hpc] at h
    have hreported : d.handleDecodeError error =
        (true, { d.flushBuffers with events := d.events ++ [.decodeError] }) := by
      rw [handleDecodeError, if_neg (by simp [heof, heagain])]
    rw [hreported] at h
    cases error with
    | eagain => contradiction
    | _ =>
      simp only [Option.some.injEq] at h
      rw [← h]
      exact ⟨rfl, rfl⟩
  · intro c d' hmedia hpc hpaused h
    simp only [loop, hpc, hmedia, hpaused, and_self, if_true, Option.some.injEq] at h
    rw [← h]
    rfl

/-- The codec fails on the first key frame and decodes the second. -/
def failThenPlay : List Action :=
  let packet : Packet := ⟨some .keyFrame, 0⟩
  List.flatten
    [[.start .h264 none false, .push packet, .push packet], steps 9,
      [.loop (.sent (.ok ()) 0 false), .loop (.received (.error .other))], steps 7,
      [.loop (.sent (.ok ()) 0 false), .loop (.received (.ok (1, 1)))], steps 2,
      [.loop (.converted (.ok ()))], steps 2, [.loop (.paced false), .loop .go]]

theorem failThenPlay_runs :
    (run Decoder.step (new .video (.new 8) 3 false false false) failThenPlay).isSome = true := by
  decide +kernel

theorem failThenPlay_accepted :
    let d := (run Decoder.step (new .video (.new 8) 3 false false false) failThenPlay).get
      failThenPlay_runs
    (Told.read d.media d.events).isSome :=
  (reports_accepted (Option.some_get failThenPlay_runs).symm).1

example : (run Decoder.step (new .video (.new 8) 3 false false false) failThenPlay).map
    (fun d => (d.events, d.committed.length)) =
      some ([.decodeError, .decodeFirstFrame, .decodeRecovery], 1) := by decide +kernel

end Decoder

end DecoderSDK
