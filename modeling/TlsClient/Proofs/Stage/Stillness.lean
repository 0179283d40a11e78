import TlsClient.Proofs.Session.Uttering
import TlsClient.Proofs.Stage.Replying
import TlsClient.Proofs.Stage.Walking

/-!
# What keeps nothing of what the peer wrote

Only opening a record adds to what was opened, and only a data record that the last stage handles adds to
what the user can read.  Every operation of a session but this one leaves both alone (`Session.Still`), and so
does handling any other message (`handle_still`).
-/

namespace TlsClient

namespace Session

variable {s : Session}

/-- Deeds and data aside, everything may change. -/
theorem still_of_eq {s' : Session} (hh : s'.history = s.history) (hi : s'.incoming = s.incoming) :
    Still s s' := .of_deeds (by rw [deeds, deeds, hh]) hi

theorem still_sendWarning (s : Session) (d : AlertDescription) : Still s (s.sendWarning d) :=
  (Still.note s _).trans (utters_sendAlert _ _).still

theorem still_abort (s : Session) (d : AlertDescription) : Still s (s.abort d) := by
  unfold abort
  split
  · exact .refl s
  · exact ((Still.note s _).trans (utters_sendAlert _ _).still).trans (still_of_eq rfl rfl)

theorem still_receiveClose (s : Session) : Still s s.receiveClose.2 := by
  set s₁ : Session := { s.note .closeReceived with closeReceived := true } with hs₁
  have hfirst : Still s s₁ := .of_deeds (deeds_note s _) rfl
  refine hfirst.trans ?_
  show Still s₁ { (if s₁.status = .opened then s₁.send (.ofAlert ⟨.warning, .closeNotify⟩)
    else s₁) with status := .closed }
  split
  · exact (utters_sendAlert _ _).still.trans (still_of_eq rfl rfl)
  · exact still_of_eq rfl rfl

theorem still_receiveAlert (s : Session) (a : Alert) : Still s (s.receiveAlert a).2 := by
  unfold receiveAlert
  split
  · exact still_abort s _
  · split
    · exact still_receiveClose s
    · split
      · exact .note s _
      · exact (Still.note s _).trans (still_of_eq rfl rfl)

theorem still_receiveAlerts (s : Session) (as : List Alert) : Still s (s.receiveAlerts as).2 := by
  induction as generalizing s with
  | nil => exact .refl s
  | cons a as ih =>
    have h := still_receiveAlert s a
    unfold receiveAlerts
    split
    · next s' heq =>
      rw [heq] at h
      split
      · exact h
      · exact h.trans (ih s')
    · exact h

theorem still_write (s : Session) (bs : Bytes) : Still s (s.write bs).2 := by
  unfold write
  split
  · exact .refl s
  · by_cases ht : s.traffic = true
    · exact (utters_sendPlaintext ht bs).still
    · show Still s (s.sendPlaintext bs)
      rw [sendPlaintext, if_pos (by simp [ht])]
      exact still_of_eq rfl rfl

theorem still_startTraffic (s : Session) : Still s s.startTraffic := by
  have hfirst : Still s { s with traffic := true, early := {} } := still_of_eq rfl rfl
  exact hfirst.trans (utters_startTraffic s).still

end Session

namespace Step

open Session (Still)

/-- A step that opens no record and keeps nothing of what the peer wrote. -/
def Stills {α : Type} (x : Step α) : Prop := ∀ s, Still s (x.run s).2

theorem Stills.bind {α β : Type} {x : Step α} {f : α → Step β} (hx : Stills x)
    (hf : ∀ a, Stills (f a)) : Stills (x >>= f) := by
  intro s
  have hfirst := hx s
  rcases h : x.run s with ⟨e | a, s'⟩
  all_goals rw [h] at hfirst
  · rw [run_bind_of_error h]
    exact hfirst
  · rw [run_bind_of_ok h]
    exact hfirst.trans (hf a s')

theorem stills_changeKeys (secrets : Secrets) : Stills (Stage.changeKeys secrets) := by
  intro s
  obtain ⟨s', sending, receiving, hrun, hdeeds, -, hrest⟩ := Stage.changeKeys_always secrets s
  rw [hrun]
  refine ⟨(congrArg Session.incoming hrest :), _, hdeeds, fun e he => ?_⟩
  rcases List.mem_cons.mp he with rfl | he
  · rfl
  · obtain ⟨r, -, rfl⟩ := List.mem_map.mp he
    rfl

/-- So do all the ways in which the handshake works on a session. -/
theorem closedEarly_stills : ClosedEarly fun _ => Stills where
  bind := Stills.bind
  ofExcept _ s := .refl s
  draw _ _ := Session.still_of_eq rfl rfl
  refuse _ s := Session.still_abort s _
  note _ s := .note s _
  choose _ _ := Session.still_of_eq rfl rfl
  report label random master s := .of_deeds (by simp [Session.deeds_happened, Event.isDeed]) rfl
  send m s := (Session.utters_send s _).still
  changeKeys := stills_changeKeys
  startReceiving _ := Session.still_of_eq rfl rfl
  startTraffic := Session.still_startTraffic

end Step

namespace Stage

open Session (Still)

/-- Handling a message keeps nothing of what the peer wrote, unless it is data after the handshake. -/
theorem handle_still (c : Config) {stage : Stage} {m : Message}
    (h : stage = .traffic → m.body.typ ≠ .applicationData) : Step.Stills (stage.handle c m) := by
  by_cases ht : stage = .traffic
  · subst ht
    have hm := h rfl
    show Step.Stills (takeData m)
    unfold takeData
    split
    · next bytes hbody =>
      rw [hbody] at hm
      exact absurd rfl hm
    · exact Step.closedEarly_stills.unexpectedMessage m _
  · exact Step.closedEarly_stills.handle c ht m

/-- Starting a handshake keeps nothing either. -/
theorem start_still (c : Config) (time : Nat) : Step.Stills (Stage.start c time) :=
  Step.closedEarly_stills.start c time

theorem handle_data (c : Config) {m : Message} {bytes : Bytes} (h : m.body = .applicationData bytes)
    (s : Session) : (Stage.traffic.handle c m).run s = (.ok .traffic, s.receiveData bytes) := by
  show (takeData m).run s = _
  unfold takeData
  rw [h]
  rfl

end Stage

end TlsClient
