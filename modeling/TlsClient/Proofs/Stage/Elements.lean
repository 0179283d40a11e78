import TlsClient.Proofs.Session.Deeds
import TlsClient.Proofs.Stage.Walking
import TlsClient.Session.Plaintext

/-!
# What every operation is made of

Under the ways in which the handshake works on a session are a few that everything else is made of: looking
at how the session stands, changing that, remembering something, and sending one record.  A property of steps
that these have is `ClosedTalk`; then all that is said and heard outside of the handshake has it: alerts, data
and the calls of the user.  If changing the keys has it too, it is `ClosedBase`, and then handling any message
has it (`ClosedBase.closed`).  So a property of whole runs comes down to these few.
-/

namespace TlsClient

/-- An event that is neither a record on its way nor the loss of one. -/
def Event.isRoutine : Event → Bool
  | .queued .. => false
  | .notice n => !n.isLoss
  | _ => true

namespace Session

/-- How a session stands, but for its protection, what waits to be written and what it remembers. -/
structure Manner where
  random : RandomSource
  suite : Option Suite
  status : Status
  traffic : Bool
  closeReceived : Bool
  incoming : ByteQueue
  early : ByteQueue

def manner (s : Session) : Manner where
  random := s.random
  suite := s.suite
  status := s.status
  traffic := s.traffic
  closeReceived := s.closeReceived
  incoming := s.incoming
  early := s.early

/-- The session with another manner. -/
def behave (s : Session) (m : Manner) : Session :=
  { s with
    random := m.random
    suite := m.suite
    status := m.status
    traffic := m.traffic
    closeReceived := m.closeReceived
    incoming := m.incoming
    early := m.early }

/-- What is routine puts no record on its way. -/
theorem sent_of_routine {s : Session} {e : Event} (he : e.isRoutine = true) :
    (s.happened e).sent = s.sent := by
  rw [sent_happened]
  cases e with
  | queued plain wire => cases he
  | _ => exact List.append_nil _

end Session

namespace Step

open Session (Manner)

/-- Looks at how the session stands and at its protection of what is sent. -/
def look {α : Type} (f : Manner → Direction → α) : Step α := fun s =>
  (.ok (f s.manner s.layer.sending), s)

theorem look_choice {α : Type} (p : Manner → Direction → Prop) [∀ m d, Decidable (p m d)]
    (x y : Step α) : (look (fun m d => decide (p m d)) >>= fun b => if b then x else y) =
      fun s => if p s.manner s.layer.sending then x s else y s := by
  funext s
  show (if decide (p s.manner s.layer.sending) = true then x else y : Step α) s = _
  by_cases h : p s.manner s.layer.sending
  · rw [if_pos h, if_pos (decide_eq_true h)]
  · rw [if_neg h, if_neg (by simpa using h)]

/-- A property that the elements of talk have, and steps made of those. -/
structure ClosedTalk (P : (α : Type) → Step α → Prop) : Prop where
  bind : ∀ {α β} {x : Step α} {f : α → Step β}, P α x → (∀ a, P β (f a)) → P β (x >>= f)
  ofExcept : ∀ {α} (r : Except TlsError α), P α (ofExcept r)
  look : ∀ {α} (f : Manner → Direction → α), P α (look f)
  adjust : ∀ g : Manner → Manner, P Unit (modify fun s => s.behave (g s.manner))
  happens : ∀ {e : Event}, e.isRoutine = true → P Unit (modify fun s => s.happened e)
  record : ∀ {r : Record}, r.version = .tls1 → r.payload.length ≤ Record.maxFragment →
    P Unit (modify fun s => s.sendRecord r)

/-- A property that these have, and changing the keys. -/
structure ClosedBase (P : (α : Type) → Step α → Prop) : Prop extends ClosedTalk P where
  changeKeys : ∀ sending receiving, P Unit (modify fun s =>
    ((s.prepareKeys sending receiving).send .changeCipherSpec).startSending)
  startReceiving : P Unit (modify Session.startReceiving)

variable {P : (α : Type) → Step α → Prop} {α β : Type} {g g' : Session → Session}

namespace ClosedTalk

variable (closed : ClosedTalk P)
include closed

/-! ## One after another -/

protected theorem pure (a : α) : P α (Pure.pure a) := closed.ofExcept (.ok a)

/-- A change and then another. -/
protected theorem comp (h : P Unit (modify g)) (h' : P Unit (modify g')) :
    P Unit (modify fun s => g' (g s)) := closed.bind h fun _ => h'

/-- A change and then an answer. -/
protected theorem answer (h : P Unit (modify g)) (r : Except TlsError α) :
    P α (fun s => (r, g s)) := closed.bind h fun _ => closed.ofExcept r

/-- A choice that depends on how the session stands. -/
protected theorem choice {x y : Step α} (p : Manner → Direction → Prop)
    [∀ m d, Decidable (p m d)] (hx : P α x) (hy : P α y) :
    P α fun s => if p s.manner s.layer.sending then x s else y s := by
  have hchoice : P α (Step.look (fun m d => decide (p m d)) >>= fun b => if b then x else y) := by
    refine closed.bind (closed.look _) fun b => ?_
    cases b with
    | true => exact hx
    | false => exact hy
  rwa [look_choice] at hchoice

protected theorem ite (p : Manner → Direction → Prop) [∀ m d, Decidable (p m d)]
    (h : P Unit (modify g)) (h' : P Unit (modify g')) :
    P Unit (modify fun s => if p s.manner s.layer.sending then g s else g' s) := by
  have heq : (modify fun s => if p s.manner s.layer.sending then g s else g' s : Step Unit) =
      fun s => if p s.manner s.layer.sending then (.ok (), g s) else (.ok (), g' s) := by
    funext s
    exact apply_ite (fun s' => ((.ok (), s') : Except TlsError Unit × Session)) _ _ _
  rw [heq]
  exact closed.choice p h h'

protected theorem id : P Unit (modify fun s => s) := closed.pure ()

protected theorem foldl {f : Session → β → Session} (xs : List β)
    (hf : ∀ x ∈ xs, P Unit (modify fun s => f s x)) : P Unit (modify fun s => xs.foldl f s) := by
  induction xs with
  | nil => exact closed.id
  | cons x xs ih =>
    obtain ⟨hx, hxs⟩ := List.forall_mem_cons.mp hf
    exact closed.bind hx fun _ => ih hxs

/-! ## Sending -/

protected theorem note {n : Notice} (hn : n.isLoss = false) : P Unit (modify fun s => s.note n) :=
  closed.happens (by rw [Event.isRoutine, hn]; rfl)

protected theorem status (status : Status) : P Unit (modify fun s => { s with status }) :=
  closed.adjust fun m => { m with status }

protected theorem fragments {f : Session → Record → Session} {r : Record} (hr : r.version = .tls1)
    (hf : ∀ {x : Record}, x.version = .tls1 → x.payload.length ≤ Record.maxFragment →
      P Unit (modify fun s => f s x)) : P Unit (modify fun s => r.fragments.foldl f s) :=
  closed.foldl _ fun x hx => by
    obtain ⟨-, hversion, hlength⟩ := Record.of_mem_fragments hx
    exact hf (hversion.trans hr) hlength

protected theorem sendClose : P Unit (modify Session.sendClose) := by
  have hclosing : P Unit (modify fun s => { s.note .sendingClose with status := .closing }) :=
    closed.comp (closed.note rfl) (closed.status _)
  have hbegun := closed.comp hclosing
    (closed.happens (e := .sent (.ofAlert ⟨.warning, .closeNotify⟩)) rfl)
  exact closed.ite (fun m _ => m.status ≠ .opened) closed.id
    (closed.comp hbegun (closed.fragments rfl closed.record))

protected theorem sendFragment {r : Record} (hversion : r.version = .tls1)
    (hr : r.payload.length ≤ Record.maxFragment) : P Unit (modify fun s => s.sendFragment r) :=
  closed.comp
    (closed.ite (fun _ d => (d.seq == Direction.softLimit) = true) closed.sendClose closed.id)
    (closed.record hversion hr)

protected theorem send {m : Message} (hm : m.version = .tls1) : P Unit (modify fun s => s.send m) :=
  closed.comp (closed.happens (e := .sent m) rfl) (closed.fragments hm closed.sendFragment)

protected theorem sendWarning (d : AlertDescription) : P Unit (modify fun s => s.sendWarning d) :=
  closed.comp (closed.note rfl) (closed.send rfl)

protected theorem abort (d : AlertDescription) : P Unit (modify fun s => s.abort d) :=
  closed.ite (fun m _ => m.status = .closed) closed.id
    (closed.comp (closed.comp (closed.note rfl) (closed.send rfl)) (closed.status _))

/-! ## Hearing alerts -/

protected theorem receiveClose : P Unit Session.receiveClose := by
  have hheard : P Unit (modify fun s => { s.note .closeReceived with closeReceived := true }) :=
    closed.comp (closed.note rfl) (closed.adjust fun m => { m with closeReceived := true })
  have hanswered := closed.comp hheard (closed.ite (fun m _ => m.status = .opened)
    (closed.send (m := .ofAlert ⟨.warning, .closeNotify⟩) rfl) closed.id)
  exact closed.bind hanswered fun _ => closed.bind (closed.look fun m _ => m.traffic) fun b =>
    closed.answer (closed.status .closed)
      (if b then .ok () else .error (.alertReceived .closeNotify))

protected theorem receiveAlert (a : Alert) : P Unit fun s => s.receiveAlert a := by
  unfold Session.receiveAlert
  by_cases hlevel : a.level ≠ .warning ∧ a.level ≠ .fatal
  · simp only [if_pos hlevel]
    exact closed.answer (closed.abort _) _
  · simp only [if_neg hlevel]
    by_cases hclose : a.description = .closeNotify
    · simp only [if_pos hclose]
      exact closed.receiveClose
    · simp only [if_neg hclose]
      by_cases hwarning : a.level = .warning
      · simp only [if_pos hwarning]
        exact closed.answer (closed.note rfl) _
      · simp only [if_neg hwarning]
        exact closed.answer (closed.comp (closed.note rfl) (closed.status _)) _

protected theorem receiveAlerts (as : List Alert) : P Unit fun s => s.receiveAlerts as := by
  induction as with
  | nil => exact closed.pure ()
  | cons a as ih =>
    set rest : Step Unit := fun s =>
      if s.closeReceived = true then (.ok (), s) else s.receiveAlerts as with hrest
    have hall : P Unit ((fun s => s.receiveAlert a : Step Unit) >>= fun _ => rest) :=
      closed.bind (closed.receiveAlert a) fun _ =>
        closed.choice (fun m _ => m.closeReceived = true) (closed.pure ()) ih
    have heq : ((fun s => s.receiveAlert a : Step Unit) >>= fun _ => rest) =
        (fun s => s.receiveAlerts (a :: as) : Step Unit) := by
      funext s
      unfold Session.receiveAlerts
      rcases hfirst : s.receiveAlert a with ⟨e | u, s'⟩
      · exact run_bind_of_error hfirst
      · exact run_bind_of_ok hfirst
    rwa [heq] at hall

/-! ## Data -/

protected theorem sendPlaintext (bs : Bytes) : P Unit (modify fun s => s.sendPlaintext bs) := by
  have hdata : P Unit (modify fun s => s.sendData bs) :=
    closed.comp (closed.sendFragment rfl (Nat.zero_le _)) (closed.fragments rfl closed.sendFragment)
  have hsend : P Unit (modify fun s => if bs.isEmpty then s else s.sendData bs) :=
    closed.ite (fun _ _ => bs.isEmpty = true) closed.id hdata
  exact closed.ite (fun m _ => (!m.traffic) = true)
    (closed.adjust fun m => { m with early := m.early.push bs }) hsend

protected theorem write (bs : Bytes) : P Nat fun s => s.write bs :=
  closed.choice (fun m _ => m.status ≠ .opened) (closed.ofExcept (.error .connectionClosed))
    (closed.answer (closed.sendPlaintext bs) (.ok bs.length))

protected theorem startTraffic : P Unit (modify Session.startTraffic) :=
  closed.bind (closed.look fun m _ => m.early.chunks) fun bss =>
    closed.comp (closed.adjust fun m => { m with traffic := true, early := {} })
      (closed.foldl bss fun bs _ => closed.sendPlaintext bs)

end ClosedTalk

namespace ClosedBase

variable (closed : ClosedBase P)
include closed

protected theorem keys (secrets : Secrets) : P Unit (Stage.changeKeys secrets) := by
  have hchange (sending receiving : Protection) : P Unit (do
      modify fun s => ((s.prepareKeys sending receiving).send .changeCipherSpec).startSending
      Step.progress .clientChangeCipherSpecSent) :=
    closed.bind (closed.changeKeys sending receiving) fun _ => closed.note rfl
  exact closed.bind (closed.ofExcept _) fun receiving => closed.bind (closed.ofExcept _) fun sending =>
    hchange sending receiving

/-- All the ways in which the handshake works on a session have the property, and so does handling any
message. -/
protected theorem closed : Closed P where
  bind := closed.bind
  ofExcept _ := closed.ofExcept _
  draw {_ d} _ :=
    closed.bind (closed.look fun m _ => d.run m.random) fun x =>
      closed.bind (closed.adjust fun m => { m with random := x.2 }) fun _ => closed.ofExcept x.1
  refuse _ := closed.bind (closed.abort _) fun _ => closed.ofExcept (.error _)
  note := closed.note
  choose suite := closed.adjust fun m => { m with suite := some suite }
  report _ _ _ := closed.happens rfl
  send _ := closed.send rfl
  changeKeys := closed.keys
  startReceiving := closed.startReceiving
  startTraffic := closed.startTraffic
  receiveData bs := closed.adjust fun m => { m with incoming := m.incoming.push bs }

end ClosedBase

end Step

end TlsClient
