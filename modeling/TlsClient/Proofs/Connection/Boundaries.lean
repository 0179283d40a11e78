import TlsClient.Proofs.Connection.Chunking
import TlsClient.Proofs.Connection.Standing
import TlsClient.Proofs.Connection.Telling

/-!
# Where the records of a handshake end

During the flight of the server a connection is told the messages of a stream of handshake bytes in the
order in which they are received, and then of its fault if it has one.  Which messages come first and what
the fault is does not depend on where the records end; and nothing does, unless a record that shows a
malformed message also completes a good one, which is then lost (`records_regrouped`).
-/

namespace TlsClient

open HandshakeJoiner (Apart fault first front messages told)

/-- A record leaves the beginning of a message in the joiner. -/
theorem HandshakeJoiner.Completes.front {j j' : HandshakeJoiner} {r : Record}
    (h : j.Completes r j')
    (hj : HandshakeJoiner.front j.buffer = .incomplete) :
    HandshakeJoiner.front j'.buffer = .incomplete := by
  cases h with
  | alone => exact hj
  | joined n _ _ h =>
    have hr : r.payload ≠ [] := by
      intro hr
      simp [HandshakeJoiner.push, hr] at h
    rw [push_eq hr] at h
    obtain ⟨new, -, hsplits⟩ := @HandshakeJoiner.splits_split r.version _
      { j with buffer := j.buffer ++ r.payload } le_rfl
    rw [h] at hsplits
    exact HandshakeJoiner.first_eq_none.mp hsplits.first_tail

namespace Connection

variable {o : Origin} {c c' k : Connection} {stage stage' : Stage}

/-! ## Between records -/

theorem takeRecords_desynced {fuel : Nat} (h : takeRecords fuel c stage = (.ok stage', c')) :
    c'.deframer.desynced = c.deframer.desynced := by
  induction fuel generalizing c stage with
  | zero =>
    cases h
    rfl
  | succ fuel ih =>
    unfold takeRecords at h
    split at h
    · cases h
      rfl
    · rcases hpop : c.deframer.pop with ⟨e | _ | r, d⟩
      all_goals rw [hpop] at h
      · cases h
      · cases h
        exact Deframer.desynced_of_pop hpop
      · have hdeframer := takeRecord_deframer { c with deframer := d } stage r
        dsimp only at h
        rcases htake : ({ c with deframer := d } : Connection).takeRecord stage r
          with ⟨e | stage₁, c₁⟩
        all_goals rw [htake] at h hdeframer
        · cases h
        · obtain rfl : c₁.deframer = d := hdeframer
          exact (ih h).trans (Deframer.desynced_of_pop hpop)

/-- The deframer knows where the next record starts, unless the connection has ended. -/
def Synced (c : Connection) : Prop := ∀ stage, c.stage = .ok stage → c.deframer.desynced = false

theorem Exchanges.synced (h : c.Exchanges c') (hc : c.Synced) : c'.Synced := by
  cases h with
  | fails hstage e => exact fun _ hs => by cases hs
  | _ => exact hc

theorem call_synced (h : c.Synced) (call : Call) : (c.call call).Synced := by
  cases call with
  | readTls t => exact (exchanges_readTls c t).synced h
  | writeTls t => exact (exchanges_writeTls c t).synced h
  | process =>
    show c.process.2.Synced
    unfold Connection.process
    rcases hstage : c.stage with e | stage
    · exact h
    · dsimp only
      rcases htake : takeRecords (c.deframer.buffer.length + 1) c stage with ⟨e | stage', c'⟩
      · exact fun _ hs => by cases hs
      · exact fun _ _ => (takeRecords_desynced htake).trans (h stage hstage)
  | write bs => exact h
  | read n => exact h
  | close => exact h

theorem run_synced (h : c.Synced) (calls : List Call) : (c.run calls).Synced := by
  induction calls generalizing c with
  | nil => exact h
  | cons call calls ih => exact ih (call_synced h call)

/-- What waits in the joiner is the beginning of a message. -/
def Begun (c : Connection) : Prop :=
  ∀ stage, c.stage = .ok stage → front c.handshakes.buffer = .incomplete

theorem Begun.step (h : c.Begun) (hmove : Moves c c') : c'.Begun := by
  intro stage' hstage'
  cases hmove with
  | talks _ hs hjoin => rw [hjoin]; exact h stage' (hs ▸ hstage')
  | hears hok _ _ hjoin => rw [hjoin]; exact h _ hok
  | opens hok _ _ _ _ hjoin => exact hjoin.front (h _ hok)
  | takes hok _ _ _ _ hjoin => rw [hjoin]; exact h _ hok
  | declines hok _ _ _ _ hjoin => rw [hjoin]; exact h _ hok
  | refuses _ _ _ hs => rw [hs] at hstage'; cases hstage'
  | fails _ _ hs => rw [hs] at hstage'; cases hstage'

theorem Starts.run_begun {hello : ClientHello} (h : c.Starts o hello) (calls : List Call) :
    (c.run calls).Begun :=
  (h.run (P := Begun) (fun _ _ => by rw [h.handshakes]; rfl)
    (fun _ _ _ hmove hbegun => hbegun.step hmove) calls).2

variable {c₀ : Connection} {config : Config} {time : Int} {random : RandomSource} {t : Transcript}
  {calls : List Call}

/-- Before the reply the server has not closed its side. -/
theorem closeReceived_of_gathers (h : Connection.start config time random = .ok c₀)
    (hstage : (c₀.run calls).stage = .ok stage) (ht : stage.Gathers t) :
    (c₀.run calls).session.closeReceived = false := by
  obtain ⟨o, hello, hstarts, -⟩ := start_starts h
  cases (run_orderly h calls).2 with
  | heeds _ hheeds => exact hheeds.opened
  | fallen hs =>
    rw [hstage] at hs
    cases hs
  | left _ _ _ hleft =>
    -- the messages before the close notification had led to the end of the handshake
    obtain ⟨-, before, keyed, r, after, a, hdeeds, ⟨stage₀, src, hs₀, hreach⟩, -⟩ := hleft
    obtain rfl := Except.ok.inj (hstarts.stage.symm.trans hs₀)
    rw [hstarts.config, hstarts.random] at hreach
    have hcourse := (hstarts.sound_run calls).course.onCourse stage hstage
    rw [hdeeds, Deeds.handled_append] at hcourse
    obtain ⟨stage₁, src₁, h₁, h₂⟩ := hcourse.append_inv
    obtain ⟨rfl, rfl⟩ := hreach.unique h₁
    have hlate := h₂.late .traffic
    cases hlate <;> cases ht

/-- During the flight of the server a connection attends. -/
theorem attends_of_gathers (h : Connection.start config time random = .ok c₀)
    (hstage : (c₀.run calls).stage = .ok stage) (ht : stage.Gathers t) :
    ∃ o, (c₀.run calls).Attends o stage := by
  obtain ⟨o, hello, hstarts, -⟩ := start_starts h
  have hsound := hstarts.sound_run calls
  have hsame : ({ c₀.run calls with stage := .ok stage } : Connection) = c₀.run calls := by
    rw [← hstage]
  obtain ⟨-, -, hreads⟩ := hsound.phase.of_gathers hstage ht
  exact ⟨o, hsame.symm ▸ hsound, (run_moves hstarts.drained calls).2 stage hstage,
    closeReceived_of_gathers h hstage ht, hreads.active⟩

/-! ## What is seen of it -/

/-- What is seen of feeding: the error that it ended with, and what the connection shows then. -/
def seen (x : Fed × Connection) : Option FeedError × View := (x.1.failure, x.2.view)

/-- What is seen of an outcome. -/
def shown : Except TlsError Stage × Connection → Option FeedError × View
  | (.ok stage, c) => (none, ({ c with stage := .ok stage } : Connection).view)
  | (.error e, c) => (some (.protocol e), (c.fail e).view)

theorem seen_feed (h : c.Settled) (hstage : c.stage = .ok stage) (ps : List Bytes) :
    seen (c.feed ps) = shown ((c.extend ps.flatten).drain stage) := by
  have hfeed := feed_comesTo h ps
  rw [process_drain (c := c.extend ps.flatten) hstage] at hfeed
  rcases hfed : c.feed ps with ⟨fed, c'⟩
  rw [hfed] at hfeed
  rcases hdrain : (c.extend ps.flatten).drain stage with ⟨e | stage', w⟩
  all_goals rw [hdrain] at hfeed
  · cases hfeed with
    | failed hfailure hlike => exact Prod.ext hfailure hlike.view
  · cases hfeed with
    | closed hfailure _ hlike => exact Prod.ext hfailure hlike.view
    | taken hfailure => exact Prod.ext hfailure rfl

theorem view_of_alike {s s' : Session} (h : s.Alike s') (hc : c.session = s) (hk : k.session = s')
    (hstage : k.stage = c.stage) : k.view = c.view := by
  obtain ⟨past, rfl, hsent⟩ := h
  subst hc
  unfold Connection.view progress
  rw [hk, hsent, hstage]

theorem Matches.shown {x y : Except TlsError Stage × Connection} (h : Matches x y) :
    shown y = shown x := by
  obtain ⟨hresult, -, hsession⟩ := h
  rcases x with ⟨e | stage, c⟩
  all_goals
    rcases y with ⟨r, k⟩
    dsimp only at hresult
    subst hresult
  · exact Prod.ext rfl (view_of_alike (Session.blind_abort _ hsession) rfl rfl rfl)
  · exact Prod.ext rfl (view_of_alike hsession rfl rfl rfl)

/-! ## Regrouping -/

/-- A way of cutting handshake bytes into non-empty records, which arrive in some pieces. -/
structure Cut (bs : Bytes) (xs ps : List Bytes) : Prop where
  whole : xs.flatten = bs
  fits : ∀ x ∈ xs, x ≠ [] ∧ x.length ≤ Record.maxPayload
  arriving : ps.flatten = Record.stream xs

/-- What is seen of a connection that attends is what it shows when it is told the stream. -/
theorem seen_told (h : c.Attends o stage) (hstage : c.stage = .ok stage)
    (hsynced : c.deframer.desynced = false) (hbetween : c.deframer.buffer = []) {bs : Bytes}
    {xs ps : List Bytes} (hcut : Cut bs xs ps) :
    seen (c.feed ps) = shown (c.tell stage (told c.handshakes.buffer xs)) := by
  have hdeframer : c.deframer = {} := by rw [← hsynced, ← hbetween]
  have hsettled : c.Settled := ⟨⟨stage, hstage⟩, .inr (by rw [hdeframer]; rfl)⟩
  have hextended : (c.extend ps.flatten).Attends o stage :=
    ⟨h.sound.step (.talks rfl rfl rfl (.refl _)), h.ready, h.opened, h.unkeyed⟩
  have hd : (c.extend ps.flatten).deframer = { buffer := Record.stream xs } := by
    rw [extend, hdeframer, hcut.arriving]
    rfl
  rw [seen_feed hsettled hstage]
  exact (drain_told hextended hcut.fits hd (k := c) rfl (.refl _)).shown.symm

/-- How a connection takes in handshake bytes, however they are cut into records. -/
structure TakesInOrder (c : Connection) (stage : Stage) (bs : Bytes) : Prop where
  /-- It acts on the messages that come out, one after another, and fails behind them if there is a
  fault. -/
  acts : ∀ {xs ps}, Cut bs xs ps →
    seen (c.feed ps) = shown (c.tell stage (told c.handshakes.buffer xs))
  /-- The fault is always the same, and what comes out are the first messages in their order. -/
  ordered : ∀ {xs ps}, Cut bs xs ps →
    (told c.handshakes.buffer xs).1 <+: messages (c.handshakes.buffer ++ bs) ∧
      (told c.handshakes.buffer xs).2 = fault (c.handshakes.buffer ++ bs)
  /-- Every message before the fault comes out, unless it is in the record that shows the fault. -/
  complete : ∀ {xs ps}, Cut bs xs ps → Apart c.handshakes.buffer xs →
    seen (c.feed ps) = shown (c.tell stage
      (messages (c.handshakes.buffer ++ bs), fault (c.handshakes.buffer ++ bs)))
  /-- So two cuts of this kind come to the same. -/
  regrouped : ∀ {xs ps ys qs}, Cut bs xs ps → Cut bs ys qs → Apart c.handshakes.buffer xs →
    Apart c.handshakes.buffer ys → seen (c.feed ps) = seen (c.feed qs)
  /-- Where no message is malformed every cut is of this kind. -/
  clean : ∀ {xs ps}, Cut bs xs ps → fault (c.handshakes.buffer ++ bs) = none →
    Apart c.handshakes.buffer xs

/-- During the flight of the server, and between two records, handshake bytes are taken in in their
order. -/
theorem records_regrouped (h : Connection.start config time random = .ok c₀)
    (hstage : (c₀.run calls).stage = .ok stage) (ht : stage.Gathers t)
    (hbetween : (c₀.run calls).deframer.buffer = []) (bs : Bytes) :
    (c₀.run calls).TakesInOrder stage bs := by
  obtain ⟨o, hello, hstarts, -⟩ := start_starts h
  obtain ⟨o', hattends⟩ := attends_of_gathers h hstage ht
  set c := c₀.run calls with hc
  have hsynced : c.deframer.desynced = false :=
    run_synced (fun _ _ => by rw [hstarts.deframer]) calls stage hstage
  have hfirst : first .tls1 c.handshakes.buffer = none :=
    HandshakeJoiner.first_eq_none.mpr (hstarts.run_begun calls stage hstage)
  have hacts : ∀ {xs ps}, Cut bs xs ps →
      seen (c.feed ps) = shown (c.tell stage (told c.handshakes.buffer xs)) :=
    seen_told hattends hstage hsynced hbetween
  have hcomplete : ∀ {xs ps}, Cut bs xs ps → Apart c.handshakes.buffer xs → seen (c.feed ps) =
      shown (c.tell stage (messages (c.handshakes.buffer ++ bs), fault (c.handshakes.buffer ++ bs))) := by
    intro xs ps hcut hapart
    rw [hacts hcut, HandshakeJoiner.told_of_apart hfirst hapart, hcut.whole]
  refine ⟨hacts, fun hcut => ?_, hcomplete, fun hx hy hxs hys => ?_, fun hcut hclean => ?_⟩
  · rw [← hcut.whole]
    exact HandshakeJoiner.told_prefix hfirst _
  · exact (hcomplete hx hxs).trans (hcomplete hy hys).symm
  · rw [← hcut.whole] at hclean
    exact HandshakeJoiner.apart_of_clean hclean

/-- A request for a handshake and a malformed message behind it, in two records and in four. -/
theorem records_regrouped_closed : ∃ c stage t,
    Connection.start .distrustful 0 (.seeded [] 0 none) = .ok c ∧ (c.run []).stage = .ok stage ∧
    stage.Gathers t ∧ (c.run []).deframer.buffer = [] ∧
    (c.run []).TakesInOrder stage [0, 0, 0, 0, 14, 0, 0, 1, 0] ∧
    seen (c.feed [Record.stream [[0, 0, 0, 0], [14, 0, 0, 1, 0]]]) =
      seen (c.feed [Record.stream [[0, 0], [0, 0], [14, 0, 0], [1, 0]]]) := by
  obtain ⟨c, hc⟩ := start_distrustful
  obtain ⟨o, hello, hstarts, -⟩ := start_starts hc
  have hstage : (c.run []).stage = _ := hstarts.stage.trans (congrArg _ hstarts.waitsFor)
  have hbetween : (c.run []).deframer.buffer = [] := by rw [run_nil, hstarts.deframer]
  have horder : (c.run []).TakesInOrder _ [0, 0, 0, 0, 14, 0, 0, 1, 0] :=
    records_regrouped hc hstage (.serverHello _ _ _) hbetween _
  have htwo : Cut [0, 0, 0, 0, 14, 0, 0, 1, 0] [[0, 0, 0, 0], [14, 0, 0, 1, 0]]
      [Record.stream [[0, 0, 0, 0], [14, 0, 0, 1, 0]]] := ⟨rfl, by decide, List.append_nil _⟩
  have hfour : Cut [0, 0, 0, 0, 14, 0, 0, 1, 0] [[0, 0], [0, 0], [14, 0, 0], [1, 0]]
      [Record.stream [[0, 0], [0, 0], [14, 0, 0], [1, 0]]] := ⟨rfl, by decide, List.append_nil _⟩
  have hbuffer : (c.run []).handshakes.buffer = [] := by rw [run_nil, hstarts.handshakes]
  refine ⟨c, _, _, hc, hstage, .serverHello _ _ _, hbetween, horder, horder.regrouped htwo hfour ?_ ?_⟩
  · rw [hbuffer]
    exact rfl
  · rw [hbuffer]
    exact rfl

end Connection

end TlsClient
