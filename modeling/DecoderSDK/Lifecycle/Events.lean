import DecoderSDK.Bracketing.Blocks
import DecoderSDK.Lifecycle.Opening

/-! # The lifecycle events of a demuxer

What listeners see of a demuxer is a log of openings, failures and closes,
each with the url it is about. The log is to be bracketed and to tell how
every call of `open` came out. A close carries the url that was just cleared,
and a failed `avio_seek` is not reported.
-/
namespace DecoderSDK.Lifecycle
open Interleaving Bracketing
open PreBuffer (Config)

def mark : StreamEventType × StreamEventArgs → Mark String
  | (.opening, args) => .announced args.filePath
  | (.openFailed, args) => .failed args.filePath
  | (.opened, args) => .begun args.filePath
  | (.close, args) => .ended args.filePath

namespace Demuxer

/-- The lifecycle events with the file path they carry. -/
def log (d : Demuxer) : List (Mark String) := d.events.map mark

/-- What is reported when the open media is closed. -/
def closing (d : Demuxer) : List (Mark String) := if d.isOpened then [.ended ""] else []

/-- What is reported of an attempt to open. -/
def attempt (url : String) (probe : Probe) : List (Mark String) :=
  if !probe.found then [.announced url, .failed url]
  else if probe.rewindFails then [.announced url]
  else [.announced url, .begun url]

/-- What a call reports. -/
def reported (d : Demuxer) : Call → List (Mark String)
  | .open url _ _ probe => d.closing ++ attempt url probe
  | .close => d.closing
  | _ => []

theorem triggerEvent_log (d : Demuxer) (type : StreamEventType) (url : String)
    (totalTime : Option ℤ) : (d.triggerEvent type url totalTime).log =
      d.log ++ [mark (type, ⟨url, "Demuxer", type.description, totalTime⟩)] := by
  simp [log, triggerEvent]

@[simp] theorem stop_log (d : Demuxer) : d.stop.log = d.log := by
  unfold stop
  split <;> rfl

@[simp] theorem start_log (d : Demuxer) : d.start.log = d.log := by
  unfold start
  split <;> rfl

@[simp] theorem openInput_log (d : Demuxer) : d.openInput.log = d.log := by
  unfold openInput
  split <;> rfl

@[simp] theorem establish_log (d : Demuxer) (url : String) (config : Config) (callback : Bool)
    (probe : Probe) : (d.establish url config callback probe).log = d.log := by
  unfold establish
  split <;> rfl

@[simp] theorem stop_isOpened (d : Demuxer) : d.stop.isOpened = d.isOpened := by
  unfold stop
  split <;> rfl

theorem closeInternal_log (d : Demuxer) : d.closeInternal.log = d.log ++ d.closing := by
  simp only [closeInternal, stop_isOpened, closing]
  cases d.isOpened with
  | false => simp
  | true =>
    rw [← stop_log d]
    simp [log, triggerEvent, clearPreBufferCallback, mark]

theorem released_log (d : Demuxer) : d.released.log = d.log ++ d.closing := by
  unfold released
  cases hopened : d.isOpened with
  | false => simp [closing, hopened]
  | true => rw [if_pos rfl, closeInternal_log]

theorem openInternal_log (d : Demuxer) (url : String) (config : Config) (callback : Bool)
    (probe : Probe) : (d.openInternal url config callback probe).2.log =
      d.log ++ (d.closing ++ attempt url probe) := by
  have hprobed : (d.probed url).log = d.log ++ d.closing ++ [.announced url] := by
    rw [probed, openInput_log, triggerEvent_log, released_log]
    rfl
  cases hfound : probe.found with
  | false =>
    rw [openInternal_of_not_found d url config callback hfound]
    have hrejected : (d.rejected url).log = (d.probed url).log ++ [.failed url] :=
      triggerEvent_log (d.probed url) .openFailed url none
    simp [hrejected, hprobed, attempt, hfound]
  | true =>
    rw [openInternal_of_found d url config callback hfound]
    cases hrewind : probe.rewindFails with
    | false => simp [triggerEvent_log, hprobed, attempt, hfound, hrewind, mark]
    | true => simp [hprobed, attempt, hfound, hrewind]

theorem close_log (d : Demuxer) : d.close.log = d.log ++ d.closing := by
  unfold close
  split
  · rw [closeInternal_log, log, (stopRecording_keeps d).events, closing,
      (stopRecording_keeps d).isOpened]
    rfl
  · exact closeInternal_log d

/-- A call adds to the log and takes nothing from it. -/
theorem step_log {d d' : Demuxer} {c : Call} (h : d.step c = some d') :
    d'.log = d.log ++ d.reported c := by
  rcases step_cases h with ⟨url, config, callback, probe, rfl, rfl⟩ | ⟨rfl, rfl⟩ | ⟨hc, hkeeps⟩
  · exact openInternal_log d url config callback probe
  · exact close_log d
  · have hnone : d.reported c = [] := by
      cases c with
      | «open» url config callback probe => exact absurd rfl (hc.1 url config callback probe)
      | close => exact absurd rfl hc.2
      | _ => rfl
    rw [hnone, List.append_nil, log, hkeeps.events, log]

/-- What a call of `open` returns, with the url it was called with. -/
def returned (d : Demuxer) : Call → List (String × Bool)
  | .open url config callback probe => [(url, (d.openInternal url config callback probe).1)]
  | _ => []

/-- The call reports as it should: an `open` does not fail in going back to the start, and what
it or a `close` closes was opened without a url. -/
def Reports (d : Demuxer) : Call → Prop
  | .open _ _ _ probe =>
    ¬(probe.found = true ∧ probe.rewindFails = true) ∧ (d.isOpened = true → d.url = "")
  | .close => d.isOpened = true → d.url = ""
  | _ => True

/-- An attempt that does not fail in going back to the start says how it came out. -/
theorem outcomes_attempt {url : String} {probe : Probe}
    (h : ¬(probe.found = true ∧ probe.rewindFails = true)) :
    outcomes (attempt url probe) = [(url, probe.found && !probe.rewindFails)] := by
  cases hfound : probe.found with
  | false => simp [attempt, hfound, outcomes]
  | true =>
    have hrewind : probe.rewindFails = false := by simpa [hfound] using h
    simp [attempt, hfound, hrewind, outcomes]

@[simp] theorem outcomes_closing (d : Demuxer) : outcomes d.closing = [] := by
  unfold closing
  split <;> rfl

end Demuxer

/-- A demuxer and what its calls of `open` have returned. -/
structure Observed where
  demuxer : Demuxer
  returns : List (String × Bool)

namespace Observed

def new : Observed := ⟨.new, []⟩

def step (s : Observed) (c : Call) : Option Observed :=
  (s.demuxer.step c).map fun d => ⟨d, s.returns ++ s.demuxer.returned c⟩

/-- The log is bracketed and tells what every `open` returned. -/
def Told (s : Observed) : Prop :=
  Bracketed s.demuxer.log ∧ outcomes s.demuxer.log = s.returns

theorem step_eq {s s' : Observed} {c : Call} (h : s.step c = some s') :
    s.demuxer.step c = some s'.demuxer ∧ s'.returns = s.returns ++ s.demuxer.returned c := by
  rw [step, Option.map_eq_some_iff] at h
  rcases h with ⟨d, hd, rfl⟩
  exact ⟨hd, rfl⟩

/-- Whatever has happened so far was told, and the log stands where the demuxer does. -/
structure Tidy (s : Observed) : Prop where
  coherent : s.demuxer.Coherent
  balanced : s.demuxer.isOpened = false → Balanced s.demuxer.log
  pending : s.demuxer.isOpened = true → Pending s.demuxer.url s.demuxer.log
  outcomes_eq : outcomes s.demuxer.log = s.returns

theorem Tidy.told {s : Observed} (h : s.Tidy) : s.Told := by
  refine ⟨?_, h.outcomes_eq⟩
  cases hopened : s.demuxer.isOpened with
  | false => exact .inl (h.balanced hopened)
  | true => exact .inr ⟨s.demuxer.url, h.pending hopened⟩

/-- Closing a media without a url completes its block. -/
theorem Tidy.closing {s : Observed} (h : s.Tidy)
    (hurl : s.demuxer.isOpened = true → s.demuxer.url = "") :
    Balanced (s.demuxer.log ++ s.demuxer.closing) := by
  unfold Demuxer.closing
  cases hopened : s.demuxer.isOpened with
  | false =>
    rw [if_neg Bool.false_ne_true, List.append_nil]
    exact h.balanced hopened
  | true =>
    rw [if_pos rfl, ← hurl hopened]
    exact (h.pending hopened).end

theorem Tidy.opening {s s' : Observed} {url : String} {config : Config} {callback : Bool}
    {probe : Probe} (h : s.Tidy) (hok : s.demuxer.Reports (.open url config callback probe))
    (hdemuxer : s'.demuxer = (s.demuxer.openInternal url config callback probe).2)
    (hreturns : s'.returns = s.returns ++
      [(url, (s.demuxer.openInternal url config callback probe).1)]) : s'.Tidy := by
  have hlog := Demuxer.openInternal_log s.demuxer url config callback probe
  have hbalanced := h.closing hok.2
  have hfst := Demuxer.openInternal_fst s.demuxer url config callback probe
  rw [← hdemuxer, ← List.append_assoc] at hlog
  constructor
  · rw [hdemuxer]
    exact Demuxer.openInternal_coherent s.demuxer url config callback h.coherent probe
  · intro hopened
    rw [hdemuxer, Demuxer.openInternal_isOpened s.demuxer url config callback h.coherent, hfst]
      at hopened
    have hfound : probe.found = false := by
      cases hfound : probe.found with
      | false => rfl
      | true => exact absurd ⟨hfound, by simpa [hfound] using hopened⟩ hok.1
    rw [hlog]
    simpa [Demuxer.attempt, hfound, Block.marks] using hbalanced.append_block (.failed url)
  · intro hopened
    rw [hdemuxer] at hopened
    obtain ⟨hfound, hrewind, hurl⟩ :=
      Demuxer.openInternal_opened s.demuxer url config callback h.coherent hopened
    rw [hlog, hdemuxer, hurl]
    simpa [Demuxer.attempt, hfound, hrewind] using hbalanced.begin url
  · rw [hlog, hreturns, outcomes_append, outcomes_append, Demuxer.outcomes_closing,
      List.append_nil, h.outcomes_eq, Demuxer.outcomes_attempt hok.1, hfst]

/-- A call that reports as it should keeps the log tidy. -/
theorem step_tidy {s s' : Observed} {c : Call} (h : s.Tidy) (hok : s.demuxer.Reports c)
    (hstep : s.step c = some s') : s'.Tidy := by
  rcases step_eq hstep with ⟨hd, hreturns⟩
  rcases Demuxer.step_cases hd with ⟨url, config, callback, probe, rfl, hdemuxer⟩ |
    ⟨rfl, hdemuxer⟩ | ⟨hc, hkeeps⟩
  · exact h.opening hok hdemuxer hreturns
  · have hreleased := Demuxer.close_released h.coherent
    have hlog := Demuxer.close_log s.demuxer
    rw [← hdemuxer] at hreleased hlog
    constructor
    · exact .inl hreleased
    · intro _
      rw [hlog]
      exact h.closing hok
    · intro hopened
      rw [hreleased.isOpened] at hopened
      cases hopened
    · rw [hlog, outcomes_append, Demuxer.outcomes_closing, h.outcomes_eq, hreturns]
      rfl
  · have hlog : s'.demuxer.log = s.demuxer.log := by
      rw [Demuxer.log, hkeeps.events, Demuxer.log]
    have hsame : s'.returns = s.returns := by
      cases c with
      | «open» url config callback probe => exact absurd rfl (hc.1 url config callback probe)
      | _ => simpa [Demuxer.returned] using hreturns
    constructor
    · exact h.coherent.of_keeps hkeeps
    · rw [hlog, hkeeps.isOpened]
      exact h.balanced
    · rw [hlog, hkeeps.isOpened, hkeeps.url]
      exact h.pending
    · rw [hlog, h.outcomes_eq, hsame]

/-- What holds in every run: an open media was the last thing told, and no more outcomes are
told than calls have returned. -/
structure Behind (s : Observed) : Prop where
  coherent : s.demuxer.Coherent
  last_begun : s.demuxer.isOpened = true →
    ∃ earlier, s.demuxer.log = earlier ++ [.begun s.demuxer.url]
  outcomes_le : (outcomes s.demuxer.log).length ≤ s.returns.length

/-- Every end so far fits its beginning, and no outcome is missing. -/
def Complete (s : Observed) : Prop :=
  s.demuxer.log.IsChain Matched ∧ (outcomes s.demuxer.log).length = s.returns.length

theorem outcomes_reported_le (d : Demuxer) (c : Call) :
    (outcomes (d.reported c)).length ≤ (d.returned c).length := by
  cases c with
  | «open» url config callback probe =>
    rw [Demuxer.reported, outcomes_append, Demuxer.outcomes_closing, Demuxer.attempt]
    split
    · simp [outcomes, Demuxer.returned]
    · split
      · simp [outcomes, Demuxer.returned]
      · simp [outcomes, Demuxer.returned]
  | close => simp [Demuxer.reported]
  | _ => simp [Demuxer.reported, outcomes]

theorem step_behind {s s' : Observed} {c : Call} (h : s.Behind) (hstep : s.step c = some s') :
    s'.Behind := by
  rcases step_eq hstep with ⟨hd, hreturns⟩
  have hlog := Demuxer.step_log hd
  constructor
  · exact Demuxer.step_coherent hd h.coherent
  · intro hopened
    rcases Demuxer.step_cases hd with ⟨url, config, callback, probe, rfl, hdemuxer⟩ |
      ⟨rfl, hdemuxer⟩ | ⟨hc, hkeeps⟩
    · rw [hdemuxer] at hopened
      obtain ⟨hfound, hrewind, hurl⟩ :=
        Demuxer.openInternal_opened s.demuxer url config callback h.coherent hopened
      rw [← hdemuxer] at hurl
      refine ⟨s.demuxer.log ++ s.demuxer.closing ++ [.announced url], ?_⟩
      simp [hlog, Demuxer.reported, Demuxer.attempt, hfound, hrewind, hurl]
    · rw [hdemuxer, (Demuxer.close_released h.coherent).isOpened] at hopened
      cases hopened
    · rw [Demuxer.log, hkeeps.events, hkeeps.url]
      exact h.last_begun (by rw [← hkeeps.isOpened, hopened])
  · have hle := outcomes_reported_le s.demuxer c
    have hbefore := h.outcomes_le
    rw [hlog, outcomes_append, hreturns, List.length_append, List.length_append]
    omega

/-- A log in which an open media is ended by the empty url fits only if it has no other. -/
theorem url_of_isChain {d : Demuxer} {earlier rest : List (Mark String)}
    (hlast : d.log = earlier ++ [.begun d.url])
    (hchain : (d.log ++ .ended "" :: rest).IsChain Matched) : d.url = "" := by
  rw [hlast, List.append_assoc, List.singleton_append, List.isChain_append_cons_cons] at hchain
  exact hchain.2.1

/-- No call makes up for what is missing, and one that leaves nothing missing reports as it
should. -/
theorem step_complete {s s' : Observed} {c : Call} (h : s.Behind) (hstep : s.step c = some s')
    (hs' : s'.Complete) : s.Complete ∧ s.demuxer.Reports c := by
  rcases step_eq hstep with ⟨hd, hreturns⟩
  have hlog := Demuxer.step_log hd
  have hle := outcomes_reported_le s.demuxer c
  have hbefore := h.outcomes_le
  rcases hs' with ⟨hchain, hlength⟩
  rw [hlog, outcomes_append, hreturns, List.length_append, List.length_append] at hlength
  rw [hlog] at hchain
  have hurl : ∀ rest, s.demuxer.reported c = s.demuxer.closing ++ rest →
      s.demuxer.isOpened = true → s.demuxer.url = "" := by
    intro rest hreported hopened
    rcases h.last_begun hopened with ⟨earlier, hlast⟩
    rw [hreported, Demuxer.closing, if_pos hopened] at hchain
    exact url_of_isChain hlast hchain
  refine ⟨⟨hchain.left_of_append, by omega⟩, ?_⟩
  cases c with
  | «open» url config callback probe =>
    refine ⟨?_, hurl _ rfl⟩
    rintro ⟨hfound, hrewind⟩
    have hnone : outcomes (s.demuxer.reported (.open url config callback probe)) = [] := by
      rw [Demuxer.reported, outcomes_append, Demuxer.outcomes_closing, Demuxer.attempt]
      simp [hfound, hrewind, outcomes]
    rw [hnone] at hlength
    simp only [Demuxer.returned, List.length_nil, List.length_singleton] at hlength
    omega
  | close => exact hurl [] (by simp [Demuxer.reported])
  | _ => trivial

/-- In every run, the log is bracketed and tells what every `open` returned exactly when no
`open` fails in going back to the start and nothing that was opened with a url is closed. -/
theorem told_iff {s : Observed} {history : List Call} (hrun : run step new history = some s) :
    s.Told ↔ Each step (fun s c _ => s.demuxer.Reports c) new history := by
  constructor
  · intro htold
    have hcomplete : s.Complete := ⟨htold.1.isChain, by rw [htold.2]⟩
    have hbehind : new.Behind :=
      ⟨.inl Demuxer.new_released, by simp [new, Demuxer.new], by simp [new, Demuxer.new,
        Demuxer.log, outcomes]⟩
    exact (Each.of_final (fun _ _ _ h hstep => step_behind h hstep)
      (fun _ _ _ h hstep hs' => step_complete h hstep hs') hbehind hrun hcomplete).2
  · intro heach
    have htidy : new.Tidy :=
      ⟨.inl Demuxer.new_released, fun _ => balanced_nil, by simp [new, Demuxer.new], rfl⟩
    have hstep : ∀ s c s', s.Tidy → s.demuxer.Reports c → step s c = some s' → s'.Tidy :=
      fun _ _ _ h hok hstep => step_tidy h hok hstep
    exact (Each.run_invariant hstep htidy heach hrun).told

/-- A failed attempt and a media that stays open. -/
def attempts : List Call :=
  [.open "a.mp4" Demuxer.decodeAll false ⟨-2, 0, false, 0, fun _ => -1, none⟩,
    .open "b.mp4" Demuxer.decodeAll false (Demuxer.videoProbe 0)]

theorem told_of_attempts : ∃ s, run step new attempts = some s ∧ s.Told := by
  have hrun : run step new attempts = some _ := rfl
  refine ⟨_, hrun, (told_iff hrun).mpr ?_⟩
  simp [attempts, Each, step, Demuxer.step, Demuxer.Reports, new, Demuxer.new, Probe.found,
    Demuxer.videoProbe, Probe.rewindFails, Demuxer.openInternal, Demuxer.triggerEvent,
    Demuxer.openInput]

/-- A media is closed under the empty url. -/
theorem told_fails :
    ∃ s, run step new [.open "a.mp4" Demuxer.decodeAll false (Demuxer.videoProbe 0), .close] =
        some s ∧
      s.demuxer.log = [.announced "a.mp4", .begun "a.mp4", .ended ""] ∧ ¬s.Told := by
  refine ⟨_, rfl, rfl, ?_⟩
  intro htold
  have hchain : [Mark.announced "a.mp4", .begun "a.mp4", .ended ""].IsChain Matched :=
    htold.1.isChain
  simp [Matched] at hchain

end Observed

end DecoderSDK.Lifecycle
