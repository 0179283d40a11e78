import TlsClient.Proofs.Stage.Walking
import TlsClient.Session.Plaintext

/-!
# What a session remembers

A session remembers what it did so that properties can be read off; nothing that it does depends on it.
Two sessions are `Alike` if they differ in what they remember only, and have put the same records on
their way.  Whatever is done to both leaves them alike (`Session.Blind`), and handling a message comes to
the same with both (`Stage.handle_blind`).
-/

namespace TlsClient

namespace Session

/-- Two sessions that differ at most in what they remember, but not in the records that they have put on
their way. -/
def Alike (s s' : Session) : Prop := ∃ h, s' = { s with history := h } ∧ s'.sent = s.sent

variable {s s' s'' : Session}

theorem Alike.refl (s : Session) : s.Alike s := ⟨s.history, rfl, rfl⟩

/-- What happens to both is remembered by both. -/
theorem Alike.happened (h : s.Alike s') (e : Event) : (s.happened e).Alike (s'.happened e) := by
  obtain ⟨past, rfl, hsent⟩ := h
  refine ⟨e :: past, rfl, ?_⟩
  rw [sent_happened, sent_happened, hsent]

/-- An event that puts no record on its way may be remembered by one of them alone. -/
theorem Alike.opened (h : s.Alike s') (keyed : Bool) (r : Record) :
    (s.happened (.opened keyed r)).Alike s' := by
  obtain ⟨past, rfl, hsent⟩ := h
  refine ⟨past, rfl, hsent.trans ?_⟩
  rw [sent_happened]
  exact (List.append_nil _).symm

/-- A change of a session that leaves sessions alike. -/
def Blind (g : Session → Session) : Prop := ∀ ⦃s s'⦄, Alike s s' → Alike (g s) (g s')

variable {α : Type} {g g' : Session → Session}

theorem blind_id : Blind fun s => s := fun _ _ h => h

theorem Blind.comp (hg : Blind g) (hg' : Blind g') : Blind fun s => g (g' s) := fun _ _ h => hg (hg' h)

/-- A choice that does not depend on what is remembered. -/
theorem Blind.ite {p : Session → Prop} [DecidablePred p]
    (hp : ∀ s past, p { s with history := past } ↔ p s) (hg : Blind g) (hg' : Blind g') :
    Blind fun s => if p s then g s else g' s := by
  intro s s' h
  have hsame : p s' ↔ p s := by
    obtain ⟨past, rfl, -⟩ := h
    exact hp s past
  dsimp only
  by_cases hs : p s
  · rw [if_pos hs, if_pos (hsame.mpr hs)]
    exact hg h
  · rw [if_neg hs, if_neg (hsame.not.mpr hs)]
    exact hg' h

/-- What does not touch what is remembered is blind if it does not look at it. -/
theorem blind_of_commutes (h : ∀ s past, g { s with history := past } = { g s with history := past }) :
    Blind g := by
  rintro s _ ⟨past, rfl, hsent⟩
  have hsame : (g s).history = s.history := (congrArg history (h s s.history) :)
  refine ⟨past, h s past, ?_⟩
  rw [h, sent, sent, hsame]
  exact hsent

theorem blind_status (status : Status) : Blind fun s => { s with status } :=
  blind_of_commutes fun _ _ => rfl

theorem blind_foldl {f : Session → α → Session} (hf : ∀ a, Blind fun s => f s a) (xs : List α) :
    Blind fun s => xs.foldl f s := by
  intro s s' h
  induction xs generalizing s s' with
  | nil => exact h
  | cons x xs ih => exact ih (hf x h)

theorem blind_happened (e : Event) : Blind fun s => s.happened e := fun _ _ h => h.happened e

theorem blind_note (n : Notice) : Blind fun s => s.note n := blind_happened _

theorem blind_sendRecord (r : Record) : Blind fun s => s.sendRecord r := by
  rintro s _ ⟨past, rfl, hsent⟩
  unfold sendRecord
  dsimp only
  split
  · exact ⟨past, rfl, hsent⟩
  · rcases s.layer.protect r with ⟨e | wire, layer⟩
    · exact blind_note _ ⟨past, rfl, hsent⟩
    · exact Alike.happened (s := { s with layer, outgoing := _ }) ⟨past, rfl, hsent⟩ _

theorem blind_sendClose : Blind sendClose := by
  have hclosing : Blind fun s => { s.note .sendingClose with status := .closing } :=
    (blind_status .closing).comp (blind_note _)
  exact Blind.ite (p := fun s => s.status ≠ .opened) (fun _ _ => .rfl) blind_id
    ((blind_foldl blind_sendRecord _).comp ((blind_happened _).comp hclosing))

theorem blind_sendFragment (r : Record) : Blind fun s => s.sendFragment r :=
  (blind_sendRecord r).comp
    (Blind.ite (p := fun s => s.layer.wantsClose) (fun _ _ => .rfl) blind_sendClose blind_id)

theorem blind_send (m : Message) : Blind fun s => s.send m :=
  (blind_foldl blind_sendFragment _).comp (blind_happened _)

theorem blind_sendWarning (d : AlertDescription) : Blind fun s => s.sendWarning d :=
  (blind_send _).comp (blind_note _)

theorem blind_abort (d : AlertDescription) : Blind fun s => s.abort d :=
  Blind.ite (p := fun s => s.status = .closed) (fun _ _ => .rfl) blind_id
    ((blind_status .closed).comp ((blind_send _).comp (blind_note _)))

theorem blind_sendData (bs : Bytes) : Blind fun s => s.sendData bs :=
  (blind_foldl blind_sendFragment _).comp (blind_sendFragment _)

theorem blind_sendPlaintext (bs : Bytes) : Blind fun s => s.sendPlaintext bs :=
  Blind.ite (p := fun s => !s.traffic) (fun _ _ => .rfl) (blind_of_commutes fun _ _ => rfl)
    (Blind.ite (p := fun _ => bs.isEmpty) (fun _ _ => .rfl) blind_id (blind_sendData bs))

theorem blind_startTraffic : Blind startTraffic := by
  intro s s' h
  have hopen : Blind fun s => { s with traffic := true, early := {} } := blind_of_commutes fun _ _ => rfl
  have hflush := blind_foldl blind_sendPlaintext s.early.chunks (hopen h)
  obtain ⟨past, rfl, hsent⟩ := h
  exact hflush

end Session

namespace Step

open Session (Alike)

variable {α β : Type} {x : Step α} {f : α → Step β}

/-- A step that does not look at what the session remembers. -/
def Blind (x : Step α) : Prop :=
  ∀ ⦃s s'⦄, Alike s s' → (x.run s').1 = (x.run s).1 ∧ Alike (x.run s).2 (x.run s').2

theorem Blind.bind (hx : Blind x) (hf : ∀ a, Blind (f a)) : Blind (x >>= f) := by
  intro s s' h
  obtain ⟨hresult, halike⟩ := hx h
  rcases h₁ : x.run s with ⟨e | a, s₁⟩
  all_goals
    rcases h₂ : x.run s' with ⟨r, s₂⟩
    rw [h₁, h₂] at hresult halike
    subst hresult
  · rw [run_bind_of_error h₁, run_bind_of_error h₂]
    exact ⟨rfl, halike⟩
  · rw [run_bind_of_ok h₁, run_bind_of_ok h₂]
    exact hf a halike

theorem blind_modify {g : Session → Session} (h : Session.Blind g) : Blind (modify g : Step Unit) :=
  fun _ _ halike => ⟨rfl, h halike⟩

theorem blind_ofExcept (r : Except TlsError α) : Blind (ofExcept r) := fun _ _ h => ⟨rfl, h⟩

theorem blind_draw (d : Drawing α) : Blind (draw d) := by
  rintro s _ ⟨past, rfl, hsent⟩
  exact ⟨rfl, past, rfl, hsent⟩

theorem blind_changeKeys (secrets : Secrets) : Blind (Stage.changeKeys secrets) :=
  Blind.bind (blind_ofExcept _) fun _ => Blind.bind (blind_ofExcept _) fun _ =>
    Blind.bind (blind_modify (Session.blind_of_commutes fun _ _ => rfl)) fun _ =>
    Blind.bind (blind_modify (Session.blind_send _)) fun _ =>
    Blind.bind (blind_modify (Session.blind_of_commutes fun _ _ => rfl)) fun _ =>
    blind_modify (Session.blind_note _)

/-- The ways in which the handshake works on a session do not look at what it remembers. -/
theorem closed_blind : Closed fun _ => Blind where
  bind := Blind.bind
  ofExcept _ := blind_ofExcept _
  draw _ := blind_draw _
  refuse _ := fun _ _ h => ⟨rfl, Session.blind_abort _ h⟩
  note _ := blind_modify (Session.blind_note _)
  choose _ := blind_modify (Session.blind_of_commutes fun _ _ => rfl)
  report _ _ _ := blind_modify (Session.blind_happened _)
  send _ := blind_modify (Session.blind_send _)
  changeKeys := blind_changeKeys
  startReceiving := blind_modify (Session.blind_of_commutes fun _ _ => rfl)
  startTraffic := blind_modify Session.blind_startTraffic
  receiveData _ := blind_modify (Session.blind_of_commutes fun _ _ => rfl)

end Step

namespace Stage

/-- Handling a message does not look at what the session remembers. -/
theorem handle_blind (c : Config) (stage : Stage) (m : Message) : Step.Blind (stage.handle c m) :=
  Step.closed_blind.handle c stage m

end Stage

end TlsClient
