import TlsClient.Proofs.Session.Talking
import TlsClient.Stage.Step

/-!
# Running steps

How the pieces of a step run on a session: one after another as long as they succeed, and not beyond
the first that fails.  A refusal is talk and nothing else.
-/

namespace TlsClient.Step

open Session (Talk Talks)

variable {α β : Type} {x : Step α} {f : α → Step β} {s s' s'' : Session}

/-! ## One after another -/

theorem run_bind_of_ok {a : α} (h : x.run s = (.ok a, s')) : (x >>= f).run s = (f a).run s' := by
  show (ExceptT.bindCont f (x.run s).1).run (x.run s).2 = _
  rw [h]
  rfl

theorem run_bind_of_error {e : TlsError} (h : x.run s = (.error e, s')) :
    (x >>= f).run s = (.error e, s') := by
  show (ExceptT.bindCont f (x.run s).1).run (x.run s).2 = _
  rw [h]
  rfl

@[simp] theorem run_pure (a : α) (s : Session) : (pure a : Step α).run s = (.ok a, s) := rfl

@[simp] theorem run_throw (e : TlsError) (s : Session) :
    (throw e : Step α).run s = (.error e, s) := rfl

@[simp] theorem run_modify (g : Session → Session) (s : Session) :
    (modify g : Step Unit).run s = (.ok (), g s) := rfl

@[simp] theorem run_note (n : Notice) (s : Session) : (note n).run s = (.ok (), s.note n) := rfl

@[simp] theorem run_progress (p : Progress) (s : Session) :
    (progress p).run s = (.ok (), s.note (.progress p)) := rfl

@[simp] theorem run_send (m : Message) (s : Session) : (send m).run s = (.ok (), s.send m) := rfl

@[simp] theorem run_ofExcept (r : Except TlsError α) (s : Session) :
    (ofExcept r).run s = (r, s) := rfl

@[simp] theorem run_draw (d : Drawing α) (s : Session) :
    (draw d).run s = ((d.run s.random).1, { s with random := (d.run s.random).2 }) := rfl

@[simp] theorem run_refuse (r : Refusal) (s : Session) :
    (refuse r : Step α).run s = (.error r.error, s.abort r.alert) := rfl

@[simp] theorem run_bind_modify (g : Session → Session) (f : Unit → Step β) (s : Session) :
    (modify g >>= f).run s = (f ()).run (g s) := rfl

@[simp] theorem run_bind_note (n : Notice) (f : Unit → Step β) (s : Session) :
    (note n >>= f).run s = (f ()).run (s.note n) := rfl

@[simp] theorem run_bind_progress (p : Progress) (f : Unit → Step β) (s : Session) :
    (progress p >>= f).run s = (f ()).run (s.note (.progress p)) := rfl

@[simp] theorem run_bind_send (m : Message) (f : Unit → Step β) (s : Session) :
    (send m >>= f).run s = (f ()).run (s.send m) := rfl

@[simp] theorem run_bind_check (a : α) (f : α → Step β) (s : Session) :
    (check (.ok a) >>= f).run s = (f a).run s := rfl

/-! ## Refusals -/

/-- A step that fails here, having only talked. -/
def Refuses (x : Step α) (s : Session) : Prop := ∃ e s', x.run s = (.error e, s') ∧ Talks s s'

theorem refuses_refuse (r : Refusal) (s : Session) : Refuses (refuse r : Step α) s :=
  ⟨r.error, _, rfl, Session.talks_abort s r.alert⟩

theorem refuses_check {r : Refusal} (f : α → Step β) (s : Session) :
    Refuses (check (.error r) >>= f) s :=
  ⟨r.error, _, run_bind_of_error (run_refuse r s), Session.talks_abort s r.alert⟩

theorem refuses_unexpectedMessage (m : Message) (expected : List ContentType) (s : Session) :
    Refuses (unexpectedMessage m expected : Step α) s :=
  ⟨.unexpectedMessage expected m.body.typ, _, rfl, .single (.note s _)⟩

theorem refuses_unexpectedHandshake (m : Message) (expected : List HandshakeType) (s : Session) :
    Refuses (unexpectedHandshake m expected : Step α) s := by
  unfold unexpectedHandshake
  split
  · next got _ => exact ⟨.unexpectedHandshake expected got, _, rfl, .single (.note s _)⟩
  · exact refuses_unexpectedMessage m _ s

end TlsClient.Step
