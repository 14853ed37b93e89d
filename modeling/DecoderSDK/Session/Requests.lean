import DecoderSDK.Session.Controller

/-! # The seek mailbox

An accepted request is in the mailbox, or in the hands of the demux thread,
or done. The demux thread takes a request by a load and a separate store of
`-1`, and loop playback stores `0`; a request that arrives between the load
and the store, or before the store of loop playback, is overwritten.
-/
namespace DecoderSDK.Session
open Interleaving

/-- The last accepted request is pending, or loaded and not yet performed, or performed. -/
def RequestHonoured (dm : Demuxer) : Prop :=
  ∀ ms, dm.accepted = some ms → dm.seekMsPos = ms ∨ dm.pc.loaded = some ms ∨ dm.performed = true

def Action.isDemux : Action → Bool
  | .demux _ => true
  | _ => false

/-- While the last accepted request is not performed, the stores of the thread find the value
it has loaded, or no request. -/
def StoreSafe (dm : Demuxer) : Prop :=
  dm.isRealTime = false → dm.accepted ≠ none → dm.performed = false →
    (∀ ms loop, dm.pc = .store ms loop → dm.seekMsPos = ms) ∧
      (dm.pc = .loopStore → dm.seekMsPos = -1 ∨ dm.seekMsPos = 0)

/-- The demux thread of a file overwrites no request that it has not loaded. -/
def OverwritesNoRequest (s : Session) (a : Action) (_ : Session) : Prop :=
  a.isDemux = true → StoreSafe s.demuxer

/-- What the mailbox of a file can hold besides the last accepted request, at each place of
the demux thread. -/
def Mail (dm : Demuxer) : Prop :=
  match dm.pc with
  | .head => True
  | .stopped => True
  | .dropSeek => False
  | .store ms _ => dm.seekMsPos = ms ∨ dm.accepted = some dm.seekMsPos
  | .loopLoad => dm.seekMsPos = 0 ∨ dm.accepted = some dm.seekMsPos
  | _ => dm.seekMsPos = -1 ∨ dm.accepted = some dm.seekMsPos

structure Mailbox (dm : Demuxer) : Prop where
  low : -1 ≤ dm.seekMsPos
  accepted_nonneg : ∀ ms, dm.accepted = some ms → 0 ≤ ms
  honoured : RequestHonoured dm
  realTime : dm.isRealTime = true → dm.accepted = none
  mail : dm.isRealTime = false → Mail dm

/-- A request just placed in the mailbox is honoured wherever the demux thread stands. -/
theorem Mailbox.request {dm : Demuxer} (hdm : Mailbox dm) {ms : ℤ} (hms : 0 ≤ ms)
    (hfile : dm.isRealTime = false) : Mailbox (dm.request ms) where
  low := by
    simp only [Demuxer.request]
    omega
  accepted_nonneg := by
    intro ms' h
    simp only [Demuxer.request, Option.some.injEq] at h
    omega
  honoured := by
    intro ms' h
    simp only [Demuxer.request, Option.some.injEq] at h
    exact Or.inl h
  realTime := by
    intro h
    simp only [Demuxer.request, hfile] at h
    simp at h
  mail := by
    intro _
    have hmail := hdm.mail hfile
    simp only [Mail, Demuxer.request] at hmail ⊢
    cases hpc : dm.pc <;> simp_all

theorem Mailbox.plain {dm dm' : Demuxer} (hdm : Mailbox dm) (hpc : dm.pc.plain = true)
    (hpc' : dm'.pc.plain = true ∨ dm'.pc = .head ∨ dm'.pc = .loopStore ∨ dm'.pc = .stopped)
    (h : Demuxer.Keeps dm dm') : Mailbox dm' where
  low := by rw [h.seekMsPos]; exact hdm.low
  accepted_nonneg := by rw [h.accepted]; exact hdm.accepted_nonneg
  honoured := by
    intro ms hms
    rw [h.accepted] at hms
    rw [h.seekMsPos, h.performed]
    rcases hdm.honoured ms hms with hms | hms | hms
    · exact Or.inl hms
    · cases hdpc : dm.pc <;> simp_all [Demuxer.Pc.loaded, Demuxer.Pc.plain]
    · exact Or.inr (Or.inr hms)
  realTime := by rw [h.isRealTime, h.accepted]; exact hdm.realTime
  mail := by
    intro hfile
    rw [h.isRealTime] at hfile
    have hmail : dm'.seekMsPos = -1 ∨ dm'.accepted = some dm'.seekMsPos := by
      have hold := hdm.mail hfile
      rw [h.seekMsPos, h.accepted]
      cases hdpc : dm.pc <;> simp_all [Mail, Demuxer.Pc.plain]
    unfold Mail
    split <;> simp_all [Demuxer.Pc.plain]

/-- A request that is pending stays so, and one that is performed stays so. -/
theorem honoured_of_keeps {dm dm' : Demuxer} (hdm : RequestHonoured dm)
    (hloaded : dm.pc.loaded = none) (hpos : dm'.seekMsPos = dm.seekMsPos)
    (haccepted : dm'.accepted = dm.accepted) (hperformed : dm'.performed = dm.performed) :
    RequestHonoured dm' := by
  intro ms hms
  rw [haccepted] at hms
  rw [hpos, hperformed]
  rcases hdm ms hms with h | h | h
  · exact Or.inl h
  · rw [hloaded] at h
    simp at h
  · exact Or.inr (Or.inr h)

theorem Mailbox.poll {dm : Demuxer} (hdm : Mailbox dm) (hpc : dm.pc = .head) :
    Mailbox (dm.goto (if dm.isRealTime then if 0 < dm.seekMsPos then .dropSeek else .read
      else if dm.seekMsPos < 0 then .pauseTest else .store dm.seekMsPos false)) where
  low := hdm.low
  accepted_nonneg := hdm.accepted_nonneg
  honoured := honoured_of_keeps hdm.honoured (by simp [hpc, Demuxer.Pc.loaded]) rfl rfl rfl
  realTime := hdm.realTime
  mail := by
    intro hfile
    have hlow := hdm.low
    have hfile' : dm.isRealTime = false := hfile
    simp only [Mail, Demuxer.goto, hfile', Bool.false_eq_true, if_false]
    split_ifs
    · left
      omega
    · exact Or.inl rfl

/-- What the two stores of the thread do to the last accepted request. -/
theorem Mailbox.store {dm dm' : Demuxer} (hdm : Mailbox dm) {ms : ℤ} {loop : Bool}
    (hpc : dm.pc = .store ms loop)
    (h : dm' = { dm with seekMsPos := -1, pc := .seekFrame ms loop }) :
    StoreSafe dm ↔ RequestHonoured dm' := by
  subst h
  constructor
  · intro hsafe ms' hms'
    have haccepted : dm.accepted = some ms' := hms'
    cases hperformed : dm.performed with
    | true => exact Or.inr (Or.inr rfl)
    | false =>
      cases hrt : dm.isRealTime with
      | true => simp [hdm.realTime hrt] at haccepted
      | false =>
        have hpos := (hsafe hrt (by simp [haccepted]) hperformed).1 ms loop hpc
        right; left
        rcases hdm.honoured ms' haccepted with h | h | h
        · rw [← h, hpos]
          rfl
        · rw [hpc] at h
          exact h
        · rw [hperformed] at h
          simp at h
  · intro hhonoured hrt haccepted hperformed
    refine ⟨?_, by simp [hpc]⟩
    rintro ms' loop' hpc'
    rw [hpc, Demuxer.Pc.store.injEq] at hpc'
    rw [← hpc'.1]
    have hmail := hdm.mail hrt
    simp only [Mail, hpc] at hmail
    rcases hmail with h | h
    · exact h
    · rcases hhonoured _ h with h' | h' | h'
      · have hpos := hdm.accepted_nonneg _ h
        simp only at h'
        omega
      · simpa [Demuxer.Pc.loaded, eq_comm] using h'
      · simp only [hperformed] at h'
        simp at h'

theorem Mailbox.loopStore {dm dm' : Demuxer} (hdm : Mailbox dm) (hpc : dm.pc = .loopStore)
    (h : dm' = { dm with seekMsPos := 0, pc := .loopLoad }) : StoreSafe dm ↔ RequestHonoured dm' := by
  subst h
  constructor
  · intro hsafe ms hms
    have haccepted : dm.accepted = some ms := hms
    cases hperformed : dm.performed with
    | true => exact Or.inr (Or.inr rfl)
    | false =>
      cases hrt : dm.isRealTime with
      | true => simp [hdm.realTime hrt] at haccepted
      | false =>
        have hpos := (hsafe hrt (by simp [haccepted]) hperformed).2 hpc
        have hnonneg := hdm.accepted_nonneg ms haccepted
        left
        rcases hdm.honoured ms haccepted with h | h | h
        · simp only
          omega
        · simp [hpc, Demuxer.Pc.loaded] at h
        · rw [hperformed] at h
          simp at h
  · intro hhonoured hrt haccepted hperformed
    refine ⟨by simp [hpc], fun _ => ?_⟩
    have hmail := hdm.mail hrt
    simp only [Mail, hpc] at hmail
    rcases hmail with h | h
    · exact Or.inl h
    · rcases hhonoured _ h with h' | h' | h'
      · exact Or.inr h'.symm
      · simp [Demuxer.Pc.loaded] at h'
      · simp only [hperformed] at h'
        simp at h'

theorem Mailbox.seekFrame {dm : Demuxer} (hdm : Mailbox dm) {ms : ℤ} {loop ok : Bool}
    (hpc : dm.pc = .seekFrame ms loop) :
    Mailbox { dm with performed := dm.performed || dm.accepted = some ms
                      pc := if ok then .flush .video loop
                        else if loop then .head else .pauseTest } where
  low := hdm.low
  accepted_nonneg := hdm.accepted_nonneg
  honoured := by
    intro ms' hms'
    have haccepted : dm.accepted = some ms' := hms'
    rcases hdm.honoured ms' haccepted with h | h | h
    · exact Or.inl h
    · right; right
      simp only [hpc, Demuxer.Pc.loaded] at h
      simp [haccepted, h]
    · right; right
      simp [h]
  realTime := hdm.realTime
  mail := by
    intro hfile
    have hmail := hdm.mail hfile
    simp only [Mail, hpc] at hmail
    unfold Mail
    split_ifs <;> first | exact hmail | trivial

theorem Mailbox.flush {dm : Demuxer} (hdm : Mailbox dm) {media : MediaType} {loop : Bool}
    (hpc : dm.pc = .flush media loop) :
    Mailbox (dm.goto (Demuxer.afterMedia media (.flush · loop)
      (if loop then .looped else .head))) where
  low := hdm.low
  accepted_nonneg := hdm.accepted_nonneg
  honoured := honoured_of_keeps hdm.honoured (by simp [hpc, Demuxer.Pc.loaded]) rfl rfl rfl
  realTime := hdm.realTime
  mail := by
    intro hfile
    have hmail := hdm.mail hfile
    simp only [Mail, hpc] at hmail
    unfold Mail
    cases media with
    | video => exact hmail
    | audio =>
      simp only [Demuxer.goto, Demuxer.afterMedia]
      split_ifs
      · exact hmail
      · trivial

theorem Mailbox.loopLoad {dm : Demuxer} (hdm : Mailbox dm) (hpc : dm.pc = .loopLoad) :
    Mailbox (dm.goto (if dm.seekMsPos < 0 then .head else .store dm.seekMsPos true)) where
  low := hdm.low
  accepted_nonneg := hdm.accepted_nonneg
  honoured := honoured_of_keeps hdm.honoured (by simp [hpc, Demuxer.Pc.loaded]) rfl rfl rfl
  realTime := hdm.realTime
  mail := by
    intro _
    unfold Mail
    simp only [Demuxer.goto]
    split_ifs
    · trivial
    · exact Or.inl rfl

/-- A step of the demux thread keeps the mailbox in order exactly when its stores are safe. -/
theorem Mailbox.move {dm dm' : Demuxer} {queue : MediaType → Option PacketQueue}
    {c : Demuxer.Choice} {effect : Effect} (hdm : Mailbox dm)
    (h : Demuxer.Change dm queue c dm' effect) :
    (StoreSafe dm → Mailbox dm') ∧ (RequestHonoured dm' → StoreSafe dm) := by
  have hsafe (hstore : ∀ ms loop, dm.pc ≠ .store ms loop) (hloop : dm.pc ≠ .loopStore) :
      StoreSafe dm :=
    fun _ _ _ => ⟨fun ms loop hpc => absurd hpc (hstore ms loop), fun hpc => absurd hpc hloop⟩
  cases h with
  | poll hpc h =>
    subst h
    exact ⟨fun _ => hdm.poll hpc, fun _ => hsafe (by simp [hpc]) (by simp [hpc])⟩
  | dropSeek hpc h =>
    subst h
    refine ⟨fun _ => ?_, fun _ => hsafe (by simp [hpc]) (by simp [hpc])⟩
    cases hrt : dm.isRealTime with
    | false =>
      have hmail := hdm.mail hrt
      simp [Mail, hpc] at hmail
    | true =>
      have hnone := hdm.realTime hrt
      exact ⟨le_refl _, hdm.accepted_nonneg, by simp [RequestHonoured, hnone], fun _ => hnone,
        by simp⟩
  | store ms loop hpc h =>
    refine ⟨fun hs => ?_, (hdm.store hpc h).mpr⟩
    have hhonoured := (hdm.store hpc h).mp hs
    subst h
    exact ⟨le_refl _, hdm.accepted_nonneg, hhonoured, hdm.realTime, fun _ => Or.inl rfl⟩
  | seekFrame ms loop ok hpc hc h =>
    subst h
    exact ⟨fun _ => hdm.seekFrame hpc, fun _ => hsafe (by simp [hpc]) (by simp [hpc])⟩
  | flush media loop hpc h =>
    subst h
    exact ⟨fun _ => hdm.flush hpc, fun _ => hsafe (by simp [hpc]) (by simp [hpc])⟩
  | loopStore hpc h =>
    refine ⟨fun hs => ?_, (hdm.loopStore hpc h).mpr⟩
    have hhonoured := (hdm.loopStore hpc h).mp hs
    subst h
    exact ⟨by simp, hdm.accepted_nonneg, hhonoured, hdm.realTime, fun _ => Or.inl rfl⟩
  | loopLoad hpc h =>
    subst h
    exact ⟨fun _ => hdm.loopLoad hpc, fun _ => hsafe (by simp [hpc]) (by simp [hpc])⟩
  | other hpc hpc' hkeeps =>
    refine ⟨fun _ => hdm.plain hpc hpc' hkeeps, fun _ => hsafe ?_ ?_⟩
    · intro ms loop h
      simp [h, Demuxer.Pc.plain] at hpc
    · intro h
      simp [h, Demuxer.Pc.plain] at hpc

structure Requests (s : Session) : Prop where
  mailbox : Mailbox s.demuxer
  accepting : Accepting s

theorem requests_opened (setup : Setup) : Requests (opened setup) where
  mailbox := by
    refine ⟨?_, by simp [opened], by simp [RequestHonoured, opened], fun _ => rfl, fun _ => ?_⟩
    · simp only [opened]
      cases setup.pending with
      | none => simp
      | some ms =>
        simp only [Option.elim_some]
        omega
    · unfold Mail
      simp only [opened]
      split_ifs <;> trivial
  accepting := accepting_opened setup

theorem Requests.move {s t : Session} {a : Action} {effect : Effect} (hs : Requests s)
    (h : Move s a t effect) :
    ((a.isDemux = true → StoreSafe s.demuxer) → Requests t) ∧
      (RequestHonoured t.demuxer → a.isDemux = true → StoreSafe s.demuxer) := by
  have haccepting := hs.accepting.move h
  cases h with
  | demux c h =>
    have hmail := hs.mailbox.move h
    exact ⟨fun hsafe => ⟨hmail.1 (hsafe rfl), haccepting⟩, fun hhonoured _ => hmail.2 hhonoured⟩
  | control h =>
    refine ⟨fun _ => ⟨?_, haccepting⟩, fun _ hd => by simp [Action.isDemux] at hd⟩
    rcases h.demuxer_cases with ⟨hd, _⟩ | ⟨position, hposition, hd, _⟩
    · rw [hd]
      exact hs.mailbox
    · obtain ⟨hfile, hms⟩ := acceptsSeek_spec (hs.accepting position hposition)
      rw [hd]
      exact hs.mailbox.request hms hfile
  | seek | decode | start | popFrame | setAbortStatus | setPaused | setWaitingForPreBuffer
  | interrupt =>
    exact ⟨fun _ => ⟨hs.mailbox, haccepting⟩, fun _ hd => by simp [Action.isDemux] at hd⟩
  | setDemuxerPaused | setLoopMode =>
    refine ⟨fun _ => ⟨?_, haccepting⟩, fun _ hd => by simp [Action.isDemux] at hd⟩
    exact ⟨hs.mailbox.low, hs.mailbox.accepted_nonneg, hs.mailbox.honoured, hs.mailbox.realTime,
      hs.mailbox.mail⟩

theorem Requests.step {s s' : Session} {a : Action} (hs : Requests s) (h : s.step a = some s') :
    (OverwritesNoRequest s a s' → Requests s') ∧
      (RequestHonoured s'.demuxer → OverwritesNoRequest s a s') := by
  rcases step_spec h with ⟨t, effect, hmove, hdemuxer, hcontrol, _⟩
  obtain ⟨hkeep, hback⟩ := hs.move hmove
  refine ⟨fun hsafe => ?_, fun hhonoured => ?_⟩
  · have ht := hkeep hsafe
    refine ⟨by rw [hdemuxer]; exact ht.mailbox, ?_⟩
    unfold Accepting
    rw [hdemuxer, hcontrol]
    exact ht.accepting
  · rw [hdemuxer] at hhonoured
    exact hback hhonoured

/-- No accepted seek is lost, for exactly the runs in which the demux thread overwrites no
request it has not loaded. -/
theorem accepted_seek_honoured_iff (setup : Setup) (actions : List Action) :
    Each step (fun _ _ s => RequestHonoured s.demuxer) (opened setup) actions ↔
      Each step OverwritesNoRequest (opened setup) actions := by
  refine each_iff (fun s a s' hs h => ?_) (fun s a s' hs ha h => ?_) actions
    (requests_opened setup)
  · have hstep : (OverwritesNoRequest s a s' → Requests s') ∧
        (RequestHonoured s'.demuxer → OverwritesNoRequest s a s') := hs.step h
    exact ⟨hstep.2, fun ha => (hstep.1 ha).mailbox.honoured⟩
  · exact (hs.step h).1 ha

/-- The second request arrives after the demux thread has loaded the first one, and the store
of `-1` erases it. -/
theorem accepted_seek_honoured_fails :
    ¬Each step (fun _ _ s => RequestHonoured s.demuxer) (opened videoFile)
      (List.flatten [[.seek 1], List.replicate 4 .control, [.demux .go], List.replicate 6 .control,
        [.seek 2], List.replicate 5 .control, [.demux .go]]) := by
  intro h
  have hlost : Each step (fun _ _ s => s.demuxer.accepted = some 2000 →
      s.demuxer.seekMsPos = 2000 ∨ s.demuxer.pc.loaded = some 2000 ∨ s.demuxer.performed = true)
      (opened videoFile)
      (List.flatten [[.seek 1], List.replicate 4 .control, [.demux .go], List.replicate 6 .control,
        [.seek 2], List.replicate 5 .control, [.demux .go]]) :=
    h.mono fun s a s' hs => hs 2000
  revert hlost
  decide +kernel

end DecoderSDK.Session
