import TlsClient.Proofs.Session.Uttering
import TlsClient.Proofs.Stage.Elements

/-!
# What does not depend on what was received

Two sessions mirror each other if they differ at most in their keys for what is received and in what they
remember, but not in the records that they have put on their way (`Session.Mirrors`).  Nothing that is done
with both tells them apart: every step comes to the same result and leaves them mirroring each other
(`Step.Parallel`), and so does handling any message (`handle_parallel`).
-/

namespace TlsClient

namespace Session

/-- Two sessions that are the same but for how they open records and for what they remember. -/
structure Mirrors (s t : Session) : Prop where
  manner : t.manner = s.manner
  sending : t.layer.sending = s.layer.sending
  outgoing : t.outgoing = s.outgoing
  sent : t.sent = s.sent

namespace Mirrors

variable {s t u : Session}

theorem refl (s : Session) : s.Mirrors s := ⟨rfl, rfl, rfl, rfl⟩

theorem symm (h : s.Mirrors t) : t.Mirrors s :=
  ⟨h.manner.symm, h.sending.symm, h.outgoing.symm, h.sent.symm⟩

theorem trans (h : s.Mirrors t) (h' : t.Mirrors u) : s.Mirrors u :=
  ⟨h'.manner.trans h.manner, h'.sending.trans h.sending, h'.outgoing.trans h.outgoing,
    h'.sent.trans h.sent⟩

theorem status (h : s.Mirrors t) : t.status = s.status := congrArg Manner.status h.manner

theorem traffic (h : s.Mirrors t) : t.traffic = s.traffic := congrArg Manner.traffic h.manner

theorem closeReceived (h : s.Mirrors t) : t.closeReceived = s.closeReceived :=
  congrArg Manner.closeReceived h.manner

theorem incoming (h : s.Mirrors t) : t.incoming = s.incoming := congrArg Manner.incoming h.manner

theorem suite (h : s.Mirrors t) : t.suite = s.suite := congrArg Manner.suite h.manner

theorem behave (h : s.Mirrors t) (g : Manner → Manner) :
    (s.behave (g s.manner)).Mirrors (t.behave (g t.manner)) :=
  ⟨congrArg g h.manner, h.sending, h.outgoing, h.sent⟩

/-- What happens to both, or to one of them alone, is only remembered. -/
theorem happened_left (h : s.Mirrors t) {e : Event} (he : e.isRoutine = true) :
    (s.happened e).Mirrors t :=
  ⟨h.manner, h.sending, h.outgoing, h.sent.trans (sent_of_routine he).symm⟩

theorem happened (h : s.Mirrors t) {e : Event} (he : e.isRoutine = true) :
    (s.happened e).Mirrors (t.happened e) := (h.happened_left he).symm.happened_left he |>.symm

/-- What is only remembered leaves no trace. -/
theorem remembers (s : Session) {e : Event} (he : e.isRoutine = true) : s.Mirrors (s.happened e) :=
  ((refl s).happened_left he).symm

/-- How records are opened is of no account. -/
theorem receiving (h : s.Mirrors t) (d d' : Direction) :
    ({ s with layer := { s.layer with receiving := d } } : Session).Mirrors
      { t with layer := { t.layer with receiving := d' } } :=
  ⟨h.manner, h.sending, h.outgoing, h.sent⟩

theorem outgoing_of (h : s.Mirrors t) (g : ByteQueue → ByteQueue) :
    ({ s with outgoing := g s.outgoing } : Session).Mirrors { t with outgoing := g t.outgoing } :=
  ⟨h.manner, h.sending, congrArg g h.outgoing, h.sent⟩

/-- A record is sealed by both under the same keys and the same number. -/
theorem sendRecord (h : s.Mirrors t) (r : Record) : (s.sendRecord r).Mirrors (t.sendRecord r) := by
  have hexhausted : t.layer.exhausted = s.layer.exhausted := congrArg Direction.exhausted h.sending
  have hprotect : t.layer.sending.protect r = s.layer.sending.protect r :=
    congrArg (fun d : Direction => d.protect r) h.sending
  unfold Session.sendRecord RecordLayer.protect
  rw [hexhausted, hprotect]
  split
  · exact h
  · rcases s.layer.sending.protect r with ⟨e | wire, d⟩
    · refine ⟨h.manner, rfl, h.outgoing, ?_⟩
      exact (sent_note _ _).trans (h.sent.trans (sent_note s _).symm)
    · refine ⟨h.manner, rfl, congrArg (fun q : ByteQueue => q.push wire.encode) h.outgoing, ?_⟩
      exact (sent_enqueue _ r wire).trans
        ((congrArg (· ++ [(r, wire)]) h.sent).trans (sent_enqueue s r wire).symm)

end Mirrors

end Session

namespace Step

open Session (Mirrors)

variable {α β : Type} {x : Step α} {f : α → Step β}

/-- A step that tells no two sessions apart that mirror each other. -/
def Parallel (x : Step α) : Prop :=
  ∀ ⦃s t⦄, Mirrors s t → (x.run t).1 = (x.run s).1 ∧ Mirrors (x.run s).2 (x.run t).2

theorem Parallel.bind (hx : Parallel x) (hf : ∀ a, Parallel (f a)) : Parallel (x >>= f) := by
  intro s t h
  obtain ⟨hresult, hmirrors⟩ := hx h
  rcases h₁ : x.run s with ⟨e | a, s'⟩
  all_goals
    rcases h₂ : x.run t with ⟨r, t'⟩
    rw [h₁, h₂] at hresult hmirrors
    obtain rfl := hresult
  · rw [run_bind_of_error h₁, run_bind_of_error h₂]
    exact ⟨rfl, hmirrors⟩
  · rw [run_bind_of_ok h₁, run_bind_of_ok h₂]
    exact hf a hmirrors

theorem closedTalk_parallel : ClosedTalk fun _ => Parallel where
  bind := Parallel.bind
  ofExcept _ _ _ h := ⟨rfl, h⟩
  look f s t h := by
    refine ⟨?_, h⟩
    show Except.ok (f t.manner t.layer.sending) = Except.ok (f s.manner s.layer.sending)
    rw [h.manner, h.sending]
  adjust g _ _ h := ⟨rfl, h.behave g⟩
  happens he _ _ h := ⟨rfl, h.happened he⟩
  record _ _ _ _ h := ⟨rfl, h.sendRecord _⟩

/-- Both change to the same keys. -/
theorem parallel_changeKeys (sending receiving : Protection) : Parallel (modify fun s =>
    ((s.prepareKeys sending receiving).send .changeCipherSpec).startSending) := by
  intro s t h
  have hprepared : Mirrors (s.prepareKeys sending receiving) (t.prepareKeys sending receiving) :=
    ⟨h.manner, rfl, h.outgoing, h.sent⟩
  obtain ⟨-, hsent⟩ := closedTalk_parallel.send (m := .changeCipherSpec) rfl hprepared
  exact ⟨rfl, hsent.manner, congrArg Direction.start hsent.sending, hsent.outgoing, hsent.sent⟩

theorem closedBase_parallel : ClosedBase fun _ => Parallel where
  toClosedTalk := closedTalk_parallel
  changeKeys := parallel_changeKeys
  startReceiving _ _ h := ⟨rfl, h.receiving _ _⟩

end Step

namespace Stage

/-- Handling a message depends neither on how records are opened nor on what is remembered. -/
theorem handle_parallel (c : Config) (stage : Stage) (m : Message) :
    Step.Parallel (stage.handle c m) := Step.closedBase_parallel.closed.handle c stage m

end Stage

end TlsClient
