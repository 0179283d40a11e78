import TlsClient.Proofs.Connection.Completing
import TlsClient.Proofs.Connection.Failure
import TlsClient.Proofs.Connection.Order
import TlsClient.Proofs.Stage.Advancing

/-!
# A handshake only moves forward

Between calls a handshake is seen at one of a few points.  It moves from one to a later one, or it fails and
stays so; the suite is chosen once; and the handshake counts as over as soon as the server's Finished was
taken in, whatever comes after it (`start_advances`).
-/

namespace TlsClient

open Deeds (handled)
open Relation (ReflTransGen)

namespace Connection

variable {o : Origin} {hello : ClientHello} {c c' c'' : Connection}

/-! ## Progress and suite -/

/-- There is a suite as soon as the first stage is behind, and it was on offer. -/
structure Chosen (c : Connection) : Prop where
  none_iff : ∀ stage, c.stage = .ok stage →
    (c.session.suite = none ↔ stage.progress = .clientHelloSent)
  offered : ∀ suite, c.session.suite = some suite → suite ∈ c.config.suites

/-- A connection is further than another: it is not seen at an earlier point, and has no other suite. -/
structure Onward (c c' : Connection) : Prop where
  precedes : c.progress.Precedes c'.progress
  suite : ∀ suite, c.session.suite = some suite → c'.session.suite = some suite

theorem Onward.refl (c : Connection) : c.Onward c := ⟨.refl _, fun _ h => h⟩

theorem Onward.trans (h : c.Onward c') (h' : c'.Onward c'') : c.Onward c'' :=
  ⟨h.precedes.trans h'.precedes, fun suite hs => h'.suite suite (h.suite suite hs)⟩

theorem progress_of_ok {stage : Stage} (h : c.stage = .ok stage) : c.progress = stage.progress := by
  rw [progress, h]

theorem progress_of_error {e : TlsError} (h : c.stage = .error e) : c.progress = .failed := by
  rw [progress, h]

theorem progress_seen (c : Connection) : c.progress ∈ Progress.seen := by
  cases h : c.stage with
  | ok stage =>
    rw [progress_of_ok h]
    exact stage.progress_seen
  | error e =>
    rw [progress_of_error h]
    decide

/-- A connection that is not seen to have failed is at a stage. -/
theorem exists_stage (h : c.progress ≠ .failed) :
    ∃ stage, c.stage = .ok stage ∧ c.progress = stage.progress := by
  cases hs : c.stage with
  | ok stage => exact ⟨stage, rfl, progress_of_ok hs⟩
  | error e => exact absurd (progress_of_error hs) h

theorem Chosen.suite_eq_none (h : c.Chosen) (hfirst : c.progress = .clientHelloSent) :
    c.session.suite = none := by
  obtain ⟨stage, hok, hprogress⟩ := exists_stage (c := c) (by rw [hfirst]; exact nofun)
  exact (h.none_iff stage hok).mpr (hprogress.symm.trans hfirst)

theorem Chosen.exists_suite (h : c.Chosen) (hfirst : c.progress ≠ .clientHelloSent)
    (hfailed : c.progress ≠ .failed) : ∃ suite, c.session.suite = some suite := by
  obtain ⟨stage, hok, hprogress⟩ := exists_stage hfailed
  apply Option.ne_none_iff_exists'.mp
  intro hnone
  exact hfirst (hprogress.trans ((h.none_iff stage hok).mp hnone))

/-- A change that leaves the stage and the suite alone. -/
theorem onward_of_eq (hchosen : c.Chosen) (hconfig : c'.config = c.config)
    (hstage : c'.stage = c.stage) (hsuite : c'.session.suite = c.session.suite) :
    c.Onward c' ∧ c'.Chosen := by
  refine ⟨⟨?_, ?_⟩, ?_, ?_⟩
  · rw [progress, progress, hstage]
    exact .refl _
  · intro suite h
    rw [hsuite]
    exact h
  · intro stage h
    rw [hsuite]
    exact hchosen.none_iff stage (hstage ▸ h)
  · intro suite h
    rw [hconfig]
    exact hchosen.offered suite (hsuite ▸ h)

/-- A failure, at which a suite may still be chosen. -/
theorem onward_of_error (hchosen : c.Chosen) (hconfig : c'.config = c.config) {stage : Stage}
    {e : TlsError} (hok : c.stage = .ok stage) (hstage : c'.stage = .error e)
    (hsuite : c'.session.suite = c.session.suite ∨ stage.progress = .clientHelloSent ∧
      ∃ suite ∈ c.config.suites, c'.session.suite = some suite) : c.Onward c' ∧ c'.Chosen := by
  refine ⟨⟨?_, ?_⟩, ?_, ?_⟩
  · rw [progress_of_error hstage]
    exact Progress.precedes_failed c.progress_seen
  · intro suite h
    obtain heq | ⟨hfirst, -⟩ := hsuite
    · rw [heq, h]
    · rw [(hchosen.none_iff stage hok).mpr hfirst] at h
      cases h
  · intro stage' h
    rw [hstage] at h
    cases h
  · intro suite h
    rw [hconfig]
    obtain heq | ⟨-, suite', hoffered, heq⟩ := hsuite
    · exact hchosen.offered suite (heq ▸ h)
    · cases heq.symm.trans h
      exact hoffered

/-- A message that is taken in. -/
theorem onward_of_takes (hchosen : c.Chosen) (hconfig : c'.config = c.config) {stage stage' : Stage}
    {m : Message} {act : Stage.Act} {src : RandomSource} (hok : c.stage = .ok stage)
    (hstage : c'.stage = .ok stage')
    (hidle : ∀ flight key request, stage.Answers flight key request → c.session.Idle)
    (ht : stage.Takes c.config c.session.random m act stage' src)
    (hact : act.Performed (c.session.happened (.handled m)) c'.session)
    (hrun : (stage.handle c.config m).run (c.session.happened (.handled m)) =
      (.ok stage', c'.session)) : c.Onward c' ∧ c'.Chosen := by
  have hprecedes : c.progress.Precedes c'.progress := by
    rw [progress_of_ok hok, progress_of_ok hstage]
    exact ht.precedes
  by_cases hfirst : stage.progress = .clientHelloSent
  · obtain ⟨suite, hoffered, hsuite⟩ := ht.chooses hfirst hact
    refine ⟨⟨hprecedes, fun suite' h => ?_⟩, fun stage'' h => ?_, fun suite' h => ?_⟩
    · rw [(hchosen.none_iff stage hok).mpr hfirst] at h
      cases h
    · cases hstage.symm.trans h
      rw [hsuite]
      exact ⟨nofun, fun h' => absurd h' ht.progress_ne⟩
    · cases hsuite.symm.trans h
      rw [hconfig]
      exact hoffered
  · have hsuite : c'.session.suite = c.session.suite := by
      have h := Stage.handle_suite (c := c.config) (m := m)
        (s := c.session.happened (.handled m)) hidle
      rw [hrun] at h
      exact h.resolve_right fun h' => hfirst h'.1
    refine ⟨⟨hprecedes, fun suite h => hsuite.trans h⟩, fun stage'' h => ?_, fun suite h => ?_⟩
    · cases hstage.symm.trans h
      rw [hsuite]
      exact ⟨fun h' => absurd ((hchosen.none_iff stage hok).mp h') hfirst,
        fun h' => absurd h' ht.progress_ne⟩
    · rw [hconfig]
      exact hchosen.offered suite (hsuite.symm.trans h)

/-- Every move leads onward. -/
theorem Sound.onward (h : c.Sound o) (hchosen : c.Chosen) (hmove : Moves c c') :
    c.Onward c' ∧ c'.Chosen := by
  cases hmove with
  | talks hconfig hstage hjoin htalk => exact onward_of_eq hchosen hconfig hstage htalk.suite
  | @hears stage r s hok hconfig hstage hjoin hr hopen htalk =>
    obtain ⟨wire, d, -, rfl⟩ := hopen
    exact onward_of_eq hchosen hconfig hstage htalk.suite
  | opens hok hready hconfig hstage hopen hjoin =>
    obtain ⟨wire, d, -, hsession⟩ := hopen
    have hsuite : c'.session.suite = c.session.suite := by
      rw [hsession]
      rfl
    exact onward_of_eq hchosen hconfig hstage hsuite
  | declines hok hready hm hconfig hstage hjoin htalk =>
    exact onward_of_eq hchosen hconfig hstage htalk.suite
  | @takes stage stage' m rest hok hready hm hconfig hstage hjoin hrun =>
    obtain ⟨act, ht, hact⟩ := h.taken hok hrun
    exact onward_of_takes hchosen hconfig hok hstage (h.phase.idle hok) (h.config ▸ ht) hact hrun
  | @refuses stage m rest e e' s hok hready hconfig hstage hrun htalk =>
    have hsuite := Stage.handle_suite (c := c.config) (m := m)
      (s := c.session.happened (.handled m)) (h.phase.idle hok)
    rw [hrun] at hsuite
    refine onward_of_error hchosen hconfig hok hstage ?_
    rw [htalk.suite]
    exact hsuite
  | @fails stage e s hok hconfig hstage hhear htalk =>
    have hsuite : s.suite = c.session.suite := by
      cases hhear with
      | nothing => rfl
      | unopened => rfl
      | opened r s' hopen =>
        obtain ⟨wire, d, -, rfl⟩ := hopen
        rfl
    exact onward_of_error hchosen hconfig hok hstage (.inl (htalk.suite.trans hsuite))

theorem Starts.chosen (h : c.Starts o hello) : c.Chosen := by
  refine ⟨fun stage hs => ?_, fun suite hs => ?_⟩
  · rw [h.stage, h.waitsFor] at hs
    cases hs
    rw [h.suite]
    exact ⟨fun _ => rfl, fun _ => rfl⟩
  · rw [h.suite] at hs
    cases hs

/-- Every later moment of a run is further than an earlier one. -/
theorem Starts.onward (h : c.Starts o hello) (calls later : List Call) :
    (c.run calls).Onward (c.run (calls ++ later)) ∧ (c.run calls).Chosen := by
  obtain ⟨hsound, hchosen⟩ := h.run h.chosen (fun _ _ hs hmove hc => (hs.onward hc hmove).2) calls
  have hmoves := (run_moves (run_moves h.drained calls).2 later).1
  rw [run_append]
  refine ⟨?_, hchosen⟩
  suffices hall : (c.run calls).Onward ((c.run calls).run later) ∧
      ((c.run calls).run later).Sound o ∧ ((c.run calls).run later).Chosen from hall.1
  generalize (c.run calls).run later = c' at hmoves
  induction hmoves with
  | refl => exact ⟨.refl _, hsound, hchosen⟩
  | tail _ hmove ih =>
    obtain ⟨honward, hsound', hchosen'⟩ := ih
    obtain ⟨honward', hchosen''⟩ := hsound'.onward hchosen' hmove
    exact ⟨honward.trans honward', hsound'.step hmove, hchosen''⟩

/-! ## The end of the handshake -/

/-- Some messages of a course led to the last stage. -/
def Completes (o : Origin) (ms : List Message) : Prop :=
  ∃ front src, front <+: ms ∧ o.Course front .traffic src

/-- The handshake counts as over exactly if the messages that were handled, or the first of them, completed
it. -/
def CountsOver (o : Origin) (c : Connection) : Prop :=
  c.session.traffic = true ↔ Completes o (handled c.session.deeds)

/-- A course that is at the last stage stays there. -/
theorem course_traffic {config : Config} {src src' : RandomSource} {ms : List Message} {stage : Stage}
    (h : TlsClient.Course config .traffic src ms stage src') : stage = .traffic := by
  induction h with
  | start => rfl
  | step _ ht ih =>
    subst ih
    cases ht with
    | data => rfl
    | reply hanswers => cases hanswers

theorem fails_traffic {config : Config} {stage : Stage} {m : Message} {s s' : Session}
    (h : stage.Fails config m s s') : s'.traffic = s.traffic := by
  rcases h with ⟨suite, htalk⟩ | ⟨_, _, _, _, _, _, _, _, _, hsaid⟩
  · exact htalk.traffic
  · exact congrArg Session.Frame.traffic hsaid.frame

/-- As long as nothing has failed the stage tells whether the handshake is over. -/
theorem Sound.countsOver (h : c.Sound o) {stage : Stage} (hok : c.stage = .ok stage) :
    c.CountsOver o := by
  constructor
  · intro ht
    obtain ⟨r, hstage, -⟩ := h.phase.of_traffic hok ht
    exact ⟨_, _, List.prefix_rfl, h.course.onCourse _ hstage⟩
  · rintro ⟨front, src, ⟨rest, hrest⟩, hfront⟩
    have hcourse := h.course.onCourse stage hok
    rw [← hrest] at hcourse
    obtain ⟨stage₁, src₁, hfront', hrest'⟩ := hcourse.append_inv
    obtain ⟨rfl, rfl⟩ := hfront.unique hfront'
    obtain rfl := course_traffic hrest'
    exact h.phase.traffic hok

theorem CountsOver.of_eq (h : c.CountsOver o) (htraffic : c'.session.traffic = c.session.traffic)
    (hhandled : handled c'.session.deeds = handled c.session.deeds) : c'.CountsOver o := by
  rw [CountsOver, htraffic, hhandled]
  exact h

/-- A message that is not taken in completes nothing. -/
theorem completes_concat {ms : List Message} {m : Message} {stage : Stage} {src : RandomSource}
    (hcourse : o.Course ms stage src)
    (hno : ∀ act stage' src', ¬ stage.Takes o.config src m act stage' src') :
    Completes o (ms ++ [m]) ↔ Completes o ms := by
  constructor
  · rintro ⟨front, src', hfront, hcourse'⟩
    rcases List.prefix_concat_iff.mp hfront with rfl | hfront
    · obtain ⟨stage₁, src₁, act, hms, ht⟩ := hcourse'.concat_inv
      obtain ⟨rfl, rfl⟩ := hcourse.unique hms
      exact absurd ht (hno _ _ _)
    · exact ⟨front, src', hfront, hcourse'⟩
  · rintro ⟨front, src', hfront, hcourse'⟩
    exact ⟨front, src', hfront.trans (List.prefix_append _ _), hcourse'⟩

/-- Every move keeps the end of the handshake in mind. -/
theorem Sound.countsOver_step (h : c.Sound o) (hcounts : c.CountsOver o) (hmove : Moves c c') :
    c'.CountsOver o := by
  cases hmove with
  | talks hconfig hstage hjoin htalk => exact hcounts.of_eq htalk.traffic htalk.handled_eq
  | @hears stage r s hok hconfig hstage hjoin hr hopen htalk =>
    exact hcounts.of_eq (htalk.traffic.trans hopen.takes.traffic)
      (htalk.handled_eq.trans (opens_handled hopen).1)
  | opens hok hready hconfig hstage hopen hjoin =>
    exact hcounts.of_eq hopen.takes.traffic (opens_handled hopen).1
  | declines hok hready hm hconfig hstage hjoin htalk =>
    exact hcounts.of_eq htalk.traffic htalk.handled_eq
  | takes hok hready hm hconfig hstage hjoin hrun =>
    exact (h.step (.takes hok hready hm hconfig hstage hjoin hrun)).countsOver hstage
  | @refuses stage m rest e e' s hok hready hconfig hstage hrun htalk =>
    obtain ⟨hno, hfails⟩ := h.refused hok hrun
    have hhandled := htalk.handled_eq.trans (h.phase.refuses hok hfails).2
    have hkept : s.traffic = (c.session.happened (.handled m)).traffic := fails_traffic hfails
    have htraffic : c'.session.traffic = c.session.traffic := htalk.traffic.trans hkept
    rw [CountsOver, htraffic, hhandled, completes_concat (h.course.onCourse stage hok) hno]
    exact hcounts
  | fails hok hconfig hstage hhear htalk =>
    obtain ⟨es, htakes, hes⟩ := hhear.takes
    refine hcounts.of_eq (htalk.traffic.trans htakes.traffic) (htalk.handled_eq.trans ?_)
    rw [htakes.deeds, Deeds.handled_append, hes, List.append_nil]

theorem Starts.countsOver (h : c.Starts o hello) (calls : List Call) : (c.run calls).CountsOver o :=
  (h.run (h.sound.countsOver h.stage) (fun _ _ hs hmove hc => hs.countsOver_step hc hmove) calls).2

theorem isHandshaking_eq_false : c.isHandshaking = false ↔ c.session.traffic = true := by
  simp [isHandshaking, Session.isHandshaking]

/-- As long as nothing has failed, the handshake counts as over just at its last point. -/
theorem Sound.isHandshaking_eq_false_iff (h : c.Sound o) (hfailed : c.progress ≠ .failed) :
    c.isHandshaking = false ↔ c.progress = .done := by
  obtain ⟨stage, hok, hprogress⟩ := exists_stage hfailed
  rw [isHandshaking_eq_false]
  constructor
  · intro htraffic
    obtain ⟨r, htraffic', -⟩ := h.phase.of_traffic hok htraffic
    exact progress_of_ok htraffic'
  · intro hdone
    obtain rfl := progress_done (hprogress.symm.trans hdone)
    exact h.phase.traffic hok

/-- What completed a handshake is a moment of its deeds. -/
theorem Starts.completes_iff (h : c.Starts o hello) (es : List Event) :
    Completes o (handled es) ↔
      ∃ before stage, before <+: es ∧ c.Reaches before stage ∧ stage.progress = .done := by
  constructor
  · rintro ⟨front, src, ⟨rest, hrest⟩, hcourse⟩
    obtain ⟨before, after, rfl, rfl, -⟩ := List.filterMap_eq_append_iff.mp hrest.symm
    exact ⟨before, .traffic, List.prefix_append _ _, h.reaches hcourse, rfl⟩
  · rintro ⟨before, stage, ⟨after, rfl⟩, ⟨stage₀, src, hstage, hcourse⟩, hdone⟩
    cases h.stage.symm.trans hstage
    rw [h.config, h.random, progress_done hdone] at hcourse
    exact ⟨handled before, src, by simp, hcourse⟩

/-! ## What is seen -/

/-- What can be seen of a handshake after some calls, and after more. -/
structure Advances (config : Config) (c : Connection) (calls later : List Call) : Prop where
  seen : (c.run calls).progress ∈ Progress.seen
  /-- The points of a handshake come in their order, some of them left out. -/
  precedes : (c.run calls).progress.Precedes (c.run (calls ++ later)).progress
  failed : (c.run calls).progress = .failed → (c.run (calls ++ later)).progress = .failed
  /-- There is no suite before the server's hello, and one ever after unless the handshake failed. -/
  unchosen : (c.run calls).progress = .clientHelloSent → (c.run calls).session.suite = none
  chosen : (c.run calls).progress ≠ .clientHelloSent → (c.run calls).progress ≠ .failed →
    ∃ suite, (c.run calls).session.suite = some suite
  offered : ∀ suite, (c.run calls).session.suite = some suite → suite ∈ config.suites
  suite : ∀ suite, (c.run calls).session.suite = some suite →
    (c.run (calls ++ later)).session.suite = some suite
  /-- The handshake counts as over once it was done, even if the connection failed after that. -/
  concluded : (c.run calls).isHandshaking = false ↔ ∃ before stage,
    before <+: (c.run calls).session.deeds ∧ c.Reaches before stage ∧ stage.progress = .done
  done : (c.run calls).progress = .done → (c.run calls).isHandshaking = false
  underway : (c.run calls).progress ≠ .done → (c.run calls).progress ≠ .failed →
    (c.run calls).isHandshaking = true

/-- A handshake that was started only moves forward. -/
theorem start_advances {config : Config} {time : Int} {random : RandomSource} {c : Connection}
    (hstart : Connection.start config time random = .ok c) (calls later : List Call) :
    c.Advances config calls later := by
  obtain ⟨o, hello, h, hconfig⟩ := start_starts hstart
  obtain ⟨honward, hchosen⟩ := h.onward calls later
  have hsound := h.sound_run calls
  constructor
  case seen => exact progress_seen _
  case precedes => exact honward.precedes
  case failed =>
    intro hfailed
    obtain ⟨e, he⟩ := progress_failed_iff.mp hfailed
    rw [run_append]
    exact progress_of_error (run_ended he later)
  case unchosen => exact hchosen.suite_eq_none
  case chosen => exact hchosen.exists_suite
  case offered =>
    intro suite hsuite
    rw [← hconfig, ← hsound.config]
    exact hchosen.offered suite hsuite
  case suite => exact honward.suite
  case concluded =>
    rw [isHandshaking_eq_false, ← h.completes_iff]
    exact h.countsOver calls
  case done =>
    intro hdone
    exact (hsound.isHandshaking_eq_false_iff (by rw [hdone]; exact nofun)).mpr hdone
  case underway =>
    intro hdone hfailed
    rw [← Bool.not_eq_false, hsound.isHandshaking_eq_false_iff hfailed]
    exact hdone

/-- The handshake moves on to the server's key change and then to its end. -/
theorem start_advances_closed : ∃ c wire, Connection.start .acquainted 0 (.seeded [] 0 none) = .ok c ∧
    c.progress = .clientHelloSent ∧
    (c.run Call.acquaint).progress = .serverChangeCipherSpecReceived ∧
    (c.run (Call.acquaint ++ [.readTls { deliveries := [.data (Record.encode wire)] }, .process])).progress = .done ∧
    ∀ calls later, c.Advances .acquainted calls later := by
  obtain ⟨c, secrets, t, p, hc, hlistens, hearly, -, -, hroom⟩ := run_acquainted
  obtain ⟨wire, q, hdone, -⟩ := hlistens.completes (n := 100) (by decide) (by rw [hearly]; exact hroom)
  obtain ⟨o, hello, h, -⟩ := start_starts hc
  refine ⟨c, wire, hc, ?_, ?_, ?_, start_advances hc⟩
  · rw [progress, h.stage, h.waitsFor]
    rfl
  · rw [progress, hlistens.stage]
    rfl
  · rw [run_append, progress, hdone.stage]
    rfl

end Connection

end TlsClient
