import TlsClient.Proofs.Connection.Holding

/-!
# What a connection answers after the handshake

After the handshake the server gets an answer to two things only: to a close notification, and to a request for
another handshake, which is declined (`process_hushed`).  Whatever else arrives and does not end the connection
leaves what waits to be written as it is.
-/

namespace TlsClient

open Relation (ReflTransGen)
open Session (Fills)

namespace Session

variable {s s₁ s' s'' : Session}

/-- In between a request for another handshake was declined. -/
def Declines (s s' : Session) : Prop :=
  ∃ es, s'.history = es ++ s.history ∧ Event.notice (.sendingWarning .noRenegotiation) ∈ es

theorem Declines.before (hd : s₁.Declines s') (h : s.history <:+ s₁.history) : s.Declines s' := by
  obtain ⟨es, hes, hmem⟩ := hd
  obtain ⟨earlier, hearlier⟩ := h
  refine ⟨es ++ earlier, ?_, List.mem_append_left _ hmem⟩
  rw [hes, ← hearlier, List.append_assoc]

theorem Declines.after (hd : s.Declines s₁) (h : s₁.history <:+ s'.history) : s.Declines s' := by
  obtain ⟨es, hes, hmem⟩ := hd
  obtain ⟨later, hlater⟩ := h
  refine ⟨later ++ es, ?_, List.mem_append_right _ hmem⟩
  rw [← hlater, hes, List.append_assoc]

/-- In between nothing was put on its way, unless a request for another handshake was declined. -/
structure Hushed (s s' : Session) : Prop where
  fills : Fills s s'
  sent : s'.sent = s.sent ∨ s.Declines s'

theorem Hushed.refl (s : Session) : s.Hushed s := ⟨.refl s, .inl rfl⟩

theorem Hushed.trans (h : s.Hushed s') (h' : s'.Hushed s'') : s.Hushed s'' := by
  refine ⟨h.fills.trans h'.fills, ?_⟩
  rcases h.sent with hsent | hd
  · rcases h'.sent with hsent' | hd'
    · exact .inl (hsent'.trans hsent)
    · exact .inr (hd'.before h.fills.history)
  · exact .inr (hd.after h'.fills.history)

/-- What was not put on its way does not wait to be written. -/
theorem Fills.outgoing_eq (h : Fills s s') (hsent : s'.sent = s.sent) : s'.outgoing = s.outgoing := by
  obtain ⟨rs, hrs, hout⟩ := h.queued
  obtain rfl : rs = [] := by
    rw [hrs, List.append_right_eq_self] at hsent
    exact hsent
  rw [List.map_nil, List.append_nil] at hout
  exact congrArg ByteQueue.mk hout

theorem hushed_decline (s : Session) : s.Hushed (s.sendWarning .noRenegotiation) := by
  obtain ⟨es, hes⟩ := (fills_send (s.note (.sendingWarning .noRenegotiation))
    (.ofAlert ⟨.warning, .noRenegotiation⟩)).history
  refine ⟨fills_sendWarning s _, .inr ⟨es ++ [.notice (.sendingWarning .noRenegotiation)], ?_, by simp⟩⟩
  rw [List.append_assoc]
  exact hes.symm

theorem hushed_happened (s : Session) {e : Event}
    (he : Deeds.records (if e.isDeed then [e] else []) = []) : s.Hushed (s.happened e) :=
  ⟨.happened s he, .inl (by rw [sent_happened, he, List.append_nil])⟩

/-- Alerts that end nothing are taken in silence, up to a close notification. -/
theorem hushed_receiveAlerts (hopen : s.closeReceived = false) {as : List Alert}
    (hrun : s.receiveAlerts as = (.ok (), s')) : s'.closeReceived = true ∨ s.Hushed s' := by
  have hfills := fills_receiveAlerts s as
  obtain ⟨s₁, hquiet, hfind⟩ := receiveAlerts_find hopen as
  rw [hrun] at hfills hfind
  split at hfind
  · cases hfind
    exact .inr ⟨hfills, .inl hquiet.sent⟩
  · next a ha =>
    have hharm : a.harmless = false := by simpa using List.find?_some ha
    left
    by_cases hk : a.Known
    · have htold := receiveAlert_known hk hharm s₁
      rw [← hfind] at htold
      rcases htold.result with hr | ⟨-, -, -, hclose⟩
      · cases hr
      · exact hclose
    · rw [receiveAlert_unknown hk] at hfind
      cases hfind

end Session

namespace Connection

variable {c c' c₀ : Connection} {stage' : Stage} {m : Message} {o : Origin} {hello : ClientHello}
  {r wire : Record}

/-! ## Taking in a record -/

theorem deliver_hushed (h : c.deliver .traffic m = (.ok stage', c')) :
    stage' = .traffic ∧ c.session.Hushed c'.session := by
  unfold deliver at h
  split at h
  · cases h
    exact ⟨rfl, Session.hushed_decline _⟩
  · set s := c.session.happened (.handled m) with hs
    have hhandled : c.session.Hushed s := Session.hushed_happened _ rfl
    rcases m with ⟨version, body⟩
    cases body with
    | applicationData bytes =>
      cases h
      exact ⟨rfl, hhandled.trans ⟨Session.fills_receiveData s bytes, .inl rfl⟩⟩
    | _ => cases h

theorem deliverAll_hushed {ms : List Message} (h : c.deliverAll .traffic ms = (.ok stage', c')) :
    stage' = .traffic ∧ c.session.Hushed c'.session := by
  induction ms generalizing c with
  | nil =>
    cases h
    exact ⟨rfl, .refl _⟩
  | cons m ms ih =>
    rw [deliverAll] at h
    rcases hfirst : c.deliver .traffic m with ⟨e | stage₁, c₁⟩
    all_goals rw [hfirst] at h
    · cases h
    · obtain ⟨rfl, hhushed⟩ := deliver_hushed hfirst
      obtain ⟨hstage, hrest⟩ := ih h
      exact ⟨hstage, hhushed.trans hrest⟩

/-- What is in a record gets an answer only if it is a close notification or a request for another handshake. -/
theorem takeOpened_hushed (hopen : c.session.closeReceived = false)
    (h : c.takeOpened .traffic r = (.ok stage', c')) :
    c'.session.closeReceived = true ∨ stage' = .traffic ∧ c.session.Hushed c'.session := by
  unfold takeOpened at h
  split at h
  · cases h
  · split at h
    · right
      unfold takeHandshakes at h
      split at h
      · cases h
      · obtain ⟨hstage, hhushed⟩ := deliverAll_hushed h
        exact ⟨hstage, hhushed⟩
    · split at h
      · rcases hrun : c.session.receiveAlerts (c.alerts.push r).2.ready with ⟨e | u, s⟩
        all_goals
          rw [takeAlerts] at h
          dsimp only at h
          rw [hrun] at h
          cases h
        rcases Session.hushed_receiveAlerts hopen hrun with hclose | hhushed
        · exact .inl hclose
        · exact .inr ⟨rfl, hhushed⟩
      · split at h
        · right
          unfold takeMessage at h
          split at h
          · exact deliver_hushed h
          · cases h
        · cases h
          exact .inr ⟨rfl, Session.hushed_happened _ rfl⟩

theorem takeRecord_hushed (hopen : c.session.closeReceived = false)
    (h : c.takeRecord .traffic wire = (.ok stage', c')) :
    c'.session.closeReceived = true ∨ stage' = .traffic ∧ c.session.Hushed c'.session := by
  rcases hunprotect : c.session.layer.receiving.unprotect wire with ⟨e | r, d⟩
  · rw [takeRecord_refused hunprotect] at h
    cases h
  · rw [takeRecord_opened hunprotect] at h
    set s := ({ c.session with layer := { c.session.layer with receiving := d } } : Session).happened
      (.opened c.session.layer.receiving.isActive r) with hs
    have hlayer : c.session.Hushed { c.session with layer := { c.session.layer with receiving := d } } :=
      ⟨Session.fills_layer _ _, .inl rfl⟩
    have hopened : c.session.Hushed s := hlayer.trans (Session.hushed_happened _ rfl)
    rcases takeOpened_hushed (c := { c with session := s }) hopen h with hclose | ⟨hstage, hhushed⟩
    · exact .inl hclose
    · exact .inr ⟨hstage, hopened.trans hhushed⟩

/-! ## Taking in what has arrived -/

theorem Passes.hushed (hpass : c.Passes c') (hstage : c.stage = .ok .traffic) :
    c'.session.closeReceived = true ∨ c'.stage = .ok .traffic ∧ c.session.Hushed c'.session := by
  cases hpass with
  | @record c₁ stage stage' wire d hok hopen hpop htake =>
    obtain rfl : stage = .traffic := Except.ok.inj (hok.symm.trans hstage)
    rcases takeRecord_hushed (c := { c with deframer := d }) hopen htake with hclose | ⟨rfl, hhushed⟩
    · exact .inl hclose
    · exact .inr ⟨rfl, hhushed⟩

theorem Passes.opened (hpass : c.Passes c') : c.session.closeReceived = false := by
  cases hpass with
  | record hok hopen => exact hopen

/-- What arrives after the handshake is taken in without an answer, unless the connection ends, the peer closes
its side, or a request for another handshake is declined. -/
theorem process_hushed (hstage : c.stage = .ok .traffic) {io : IoState} (h : c.process = (.ok io, c')) :
    c'.session.closeReceived = true ∨ c.session.Hushed c'.session := by
  obtain ⟨c₁, hpasses, hrests⟩ := process_passes hstage
  rw [h] at hrests
  have hall : c₁.session.closeReceived = true ∨ c₁.stage = .ok .traffic ∧ c.session.Hushed c₁.session := by
    clear hrests
    induction hpasses with
    | refl => exact .inr ⟨hstage, .refl _⟩
    | @tail c₂ c₃ _ hpass ih =>
      rcases ih with hclose | ⟨htraffic, hhushed⟩
      · exact absurd (hclose.symm.trans hpass.opened) (by decide)
      · rcases hpass.hushed htraffic with hclose | ⟨hnext, hmore⟩
        · exact .inl hclose
        · exact .inr ⟨hnext, hhushed.trans hmore⟩
  cases hrests with
  | settled =>
    rcases hall with hclose | ⟨-, hhushed⟩
    · exact .inl hclose
    · exact .inr hhushed

/-- A connection whose handshake is over and which has not failed takes in what arrives at the last stage. -/
theorem Reached.traffic {stage : Stage} (h : c.Reached) (hover : c.isHandshaking = false)
    (hok : c.stage = .ok stage) : c.stage = .ok .traffic := by
  obtain ⟨c₀, o, hello, hstart, hm⟩ := h.moment
  have ht : c.session.traffic = true := by
    simpa [isHandshaking, Session.isHandshaking] using hover
  obtain ⟨r, hstage, -⟩ := (hm.sound hstart).phase.of_traffic hok ht
  exact hstage

end Connection

end TlsClient
