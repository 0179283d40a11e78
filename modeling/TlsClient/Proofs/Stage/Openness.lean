import TlsClient.Proofs.Stage.Keeping

/-!
# The server's side stays open

Only a close notification says that the server will send nothing more.  Sending, the calls of the user
and handling a message leave this alone (`handle_keepsOpen`).
-/

namespace TlsClient

namespace Session

theorem sendClose_keepsOpen (s : Session) : s.sendClose.closeReceived = s.closeReceived :=
  (proceeds_sendClose s).closeReceived

theorem abort_keepsOpen (s : Session) (d : AlertDescription) :
    (s.abort d).closeReceived = s.closeReceived := by
  unfold abort
  split
  · rfl
  · exact (utters_send _ _).closeReceived

theorem write_keepsOpen (s : Session) (bs : Bytes) :
    (s.write bs).2.closeReceived = s.closeReceived := by
  unfold write
  split
  · rfl
  · by_cases ht : s.traffic = true
    · exact (utters_sendPlaintext ht bs).closeReceived
    · show (s.sendPlaintext bs).closeReceived = s.closeReceived
      rw [sendPlaintext, if_pos (by simp [ht])]

end Session

namespace Step

/-- A step that leaves the server's side as it is. -/
def Opened {α : Type} (x : Step α) : Prop := ∀ s, (x.run s).2.closeReceived = s.closeReceived

/-- No way in which the handshake works on a session concerns the server's side. -/
theorem law_opened : Law (fun _ => True) fun s s' => s'.closeReceived = s.closeReceived where
  refl _ := rfl
  trans h h' := h'.trans h
  quiet _ h := ⟨h.closeReceived, trivial⟩
  send _ _ := ⟨(Session.utters_send _ _).closeReceived, trivial⟩
  changeKeys _ _ _ h := ⟨(congrArg Session.closeReceived h :), trivial⟩
  startTraffic _ := ⟨(Session.utters_startTraffic _).closeReceived, trivial⟩
  abort _ _ := Session.abort_keepsOpen _ _

end Step

namespace Stage

/-- Handling a message leaves the server's side as it is. -/
theorem handle_keepsOpen (c : Config) (stage : Stage) (m : Message) :
    Step.Opened (stage.handle c m) := fun s =>
  (Step.law_opened.keeps_handle c stage m s trivial).1

end Stage

end TlsClient
