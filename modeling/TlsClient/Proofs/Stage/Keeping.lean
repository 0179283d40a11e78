import TlsClient.Proofs.Session.Speaking
import TlsClient.Proofs.Stage.Replying
import TlsClient.Proofs.Stage.Walking

/-!
# What every step keeps

Handling a message works on the session in a few ways only: it does what the dialogue does not show,
sends handshake messages, signals the key change, starts the traffic, or gives up with an alert.  A
`Law` says that each of these keeps an invariant, and how it relates the session before and after; then so
does handling any message at any stage (`Law.keeps_handle`).
-/

namespace TlsClient

namespace Step

open Session (Quiet)

variable {α β : Type} {I : Session → Prop} {R : Session → Session → Prop} {x : Step α}
  {f : α → Step β} {s s' s'' : Session}

/-- The ways in which the handshake works on a session keep an invariant and relate the session before
and after. -/
structure Law (I : Session → Prop) (R : Session → Session → Prop) : Prop where
  refl : ∀ s, R s s
  trans : ∀ {s s' s''}, R s s' → R s' s'' → R s s''
  quiet : ∀ {s s'}, I s → s.Quiet s' → R s s' ∧ I s'
  send : ∀ {s} (m : HandshakeMessage), I s → R s (s.send (.ofHandshake m)) ∧ I (s.send (.ofHandshake m))
  changeKeys : ∀ {s s'} {p : Protection} {receiving : Direction}, I s →
    s'.deeds = s.deeds ++ Message.changeCipherSpec.log →
    s'.layer = { sending := ⟨some p, 0, .active⟩, receiving } →
    { s' with outgoing := s.outgoing, history := s.history, layer := s.layer } = s → R s s' ∧ I s'
  startTraffic : ∀ {s}, I s → R s s.startTraffic ∧ I s.startTraffic
  abort : ∀ {s} {why : AlertDescription}, why ≠ .closeNotify → I s → R s (s.abort why)

/-- A step that keeps to a law: the invariant holds after it unless it fails, and then with an error of
its own. -/
def Keeps (I : Session → Prop) (R : Session → Session → Prop) (x : Step α) : Prop :=
  ∀ s, I s → R s (x.run s).2 ∧
    match (x.run s).1 with
    | .ok _ => I (x.run s).2
    | .error e => e.Proper

namespace Law

variable (law : Law I R)
include law

theorem keeps_bind (hx : Keeps I R x) (hf : ∀ a, Keeps I R (f a)) : Keeps I R (x >>= f) := by
  intro s hs
  obtain ⟨hR, hI⟩ := hx s hs
  rcases h : x.run s with ⟨e | a, s'⟩
  all_goals rw [h] at hR hI
  · rw [run_bind_of_error h]
    exact ⟨hR, hI⟩
  · rw [run_bind_of_ok h]
    obtain ⟨hR', hI'⟩ := hf a s' hI
    exact ⟨law.trans hR hR', hI'⟩

theorem keeps_modify {g : Session → Session} (h : ∀ s, Quiet s (g s)) :
    Keeps I R (modify g : Step Unit) := fun s hs => law.quiet hs (h s)

theorem keeps_ofExcept {r : Except TlsError α} (h : ∀ e, r = .error e → e.Proper) :
    Keeps I R (ofExcept r) := by
  intro s hs
  refine ⟨law.refl s, ?_⟩
  cases r with
  | ok a => exact hs
  | error e => exact h e rfl

theorem keeps_draw {d : Drawing α} (h : d.Proper) : Keeps I R (draw d) := by
  intro s hs
  have hquiet : Quiet s { s with random := (d.run s.random).2 } := ⟨rfl, rfl, rfl, rfl, rfl, rfl⟩
  obtain ⟨hR, hI⟩ := law.quiet hs hquiet
  refine ⟨hR, ?_⟩
  rw [run_draw]
  cases hd : (d.run s.random).1 with
  | ok a => exact hI
  | error e => exact h _ e hd

theorem keeps_refuse {r : Refusal} (hr : r.Proper) : Keeps I R (refuse r : Step α) :=
  fun _ hs => ⟨law.abort hr.1 hs, hr.2⟩

theorem keeps_changeKeys (secrets : Secrets) : Keeps I R (Stage.changeKeys secrets) := by
  intro s hs
  obtain ⟨s', sending, receiving, hrun, hdeeds, hlayer, hrest⟩ := Stage.changeKeys_always secrets s
  obtain ⟨hR, hI⟩ := law.changeKeys hs hdeeds hlayer hrest
  rw [hrun]
  exact ⟨hR, hI⟩

/-- The steps that keep to a law are closed. -/
theorem closed : Closed fun _ => Keeps I R where
  bind := law.keeps_bind
  ofExcept := law.keeps_ofExcept
  draw := law.keeps_draw
  refuse := law.keeps_refuse
  note _ := law.keeps_modify fun s => s.quiet_note _
  choose _ := law.keeps_modify fun _ => ⟨rfl, rfl, rfl, rfl, rfl, rfl⟩
  report _ _ _ := law.keeps_modify fun s =>
    ⟨by simp [Session.deeds_happened, Event.isDeed], rfl, rfl, rfl, rfl, rfl⟩
  send m := fun _ hs => law.send m hs
  changeKeys := law.keeps_changeKeys
  startReceiving := law.keeps_modify fun _ => ⟨rfl, rfl, rfl, rfl, rfl, rfl⟩
  startTraffic := fun _ hs => law.startTraffic hs
  receiveData _ := law.keeps_modify fun _ => ⟨rfl, rfl, rfl, rfl, rfl, rfl⟩

/-- The start of a handshake keeps to the law. -/
theorem keeps_start (c : Config) (time : Nat) : Keeps I R (Stage.start c time) :=
  law.closed.start c time

/-- Handling any message at any stage keeps to the law. -/
theorem keeps_handle (c : Config) (stage : Stage) (m : Message) : Keeps I R (stage.handle c m) :=
  law.closed.handle c stage m

end Law

end Step

end TlsClient
