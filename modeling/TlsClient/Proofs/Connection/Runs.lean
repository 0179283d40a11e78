import TlsClient.Proofs.Connection.Moves
import TlsClient.Stream

/-!
# Runs

A run is any sequence of calls from either side of a connection, each with a transport of its own if it
needs one.  The calls that need one can do a few things only (`Exchanges`), and a run is a sequence of moves
(`run_moves`).  Whatever a stream does with its connection is a run (`Transfer.Runs`), so what holds after all
runs holds of streams (`Stream.holds_actAll`).  A connection that has failed keeps its error whatever is called
(`run_ended`).
-/

namespace TlsClient

open Relation (ReflTransGen)
open Session (Talks)

/-- A call of a connection. -/
inductive Call where
  | readTls (t : Transport)
  | writeTls (t : Transport)
  | process
  | write (bs : Bytes)
  | read (n : Nat)
  | close

namespace Connection

/-- The connection after a call. -/
def call (c : Connection) : Call → Connection
  | .readTls t => (c.readTls t).2.1
  | .writeTls t => (c.writeTls t).2.1
  | .process => c.process.2
  | .write bs => (c.write bs).2
  | .read n => (c.read n).2
  | .close => c.close

/-- The connection after some calls. -/
def run (c : Connection) (calls : List Call) : Connection := calls.foldl call c

@[simp] theorem run_nil (c : Connection) : c.run [] = c := rfl

@[simp] theorem run_cons (c : Connection) (call : Call) (calls : List Call) :
    c.run (call :: calls) = (c.call call).run calls := rfl

theorem run_append (c : Connection) (calls calls' : List Call) :
    c.run (calls ++ calls') = (c.run calls).run calls' := List.foldl_append

/-- Steps each of which is a run are a run together. -/
theorem exists_run_foldl {σ α : Type} (connection : σ → Connection) {step : σ → α → σ}
    (h : ∀ s a, ∃ calls, connection (step s a) = (connection s).run calls) (s : σ) (as : List α) :
    ∃ calls, connection (as.foldl step s) = (connection s).run calls := by
  induction as generalizing s with
  | nil => exact ⟨[], rfl⟩
  | cons a as ih =>
    obtain ⟨first, hfirst⟩ := h s a
    obtain ⟨rest, hrest⟩ := ih (step s a)
    exact ⟨first ++ rest, by rw [run_append, ← hfirst]; exact hrest⟩

/-- What the calls of a run yield, one after another. -/
def yields {α : Type} (f : Connection → Call → List α) (c : Connection) : List Call → List α
  | [] => []
  | call :: calls => f c call ++ yields f (c.call call) calls

theorem yields_append {α : Type} (f : Connection → Call → List α) (c : Connection)
    (calls calls' : List Call) :
    yields f c (calls ++ calls') = yields f c calls ++ yields f (c.run calls) calls' := by
  induction calls generalizing c with
  | nil => rfl
  | cons call calls ih => rw [List.cons_append, yields, yields, ih, List.append_assoc, run_cons]

theorem yields_singleton {α : Type} (f : Connection → Call → List α) (c : Connection) (call : Call) :
    yields f c [call] = f c call := List.append_nil _

variable {c c' : Connection}

/-! ## The transport -/

/-- What reading from a transport or writing to it does to a connection. -/
inductive Exchanges (c : Connection) : Connection → Prop
  | idle : Exchanges c c
  | arrives (bs : Bytes) : Exchanges c { c with deframer := c.deframer.push bs }
  | leaves (n : Nat) :
      Exchanges c { c with session := { c.session with outgoing := c.session.outgoing.drop n } }
  | fails {stage : Stage} (hstage : c.stage = .ok stage) (e : IoError) :
      Exchanges c { c with
        session := (c.session.note (.transportFailed e)).loseTransport
        stage := .error (.transport e) }
  | loses {e : TlsError} (hstage : c.stage = .error e) :
      Exchanges c { c with session := c.session.loseTransport }

theorem exchanges_transportFailed (c : Connection) (e : IoError) :
    c.Exchanges (c.transportFailed e) := by
  unfold transportFailed
  split
  · exact .idle
  · split
    · next stage hstage => exact .fails hstage e
    · next e' hstage => exact .loses hstage

theorem exchanges_readTls (c : Connection) (t : Transport) : c.Exchanges (c.readTls t).2.1 := by
  unfold readTls
  split
  · exact .idle
  · split
    · exact .idle
    · split
      · exact .arrives _
      · exact exchanges_transportFailed c _

theorem exchanges_writeTls (c : Connection) (t : Transport) : c.Exchanges (c.writeTls t).2.1 := by
  unfold writeTls
  split
  · exact .idle
  · split
    · exact .leaves _
    · exact exchanges_transportFailed c _

/-! ## Runs are moves -/

/-- A change of the session alone that is talk. -/
theorem session_moves (hc : c.Drained) {s : Session} (h : Talks c.session s) :
    ReflTransGen Moves c { c with session := s } ∧ { c with session := s }.Drained :=
  ⟨.single (.talks rfl rfl rfl h), hc⟩

theorem Exchanges.moves (h : c.Exchanges c') (hc : c.Drained) :
    ReflTransGen Moves c c' ∧ c'.Drained := by
  cases h with
  | idle => exact ⟨.refl, hc⟩
  | arrives bs => exact ⟨.single (.talks rfl rfl rfl (.refl _)), hc⟩
  | leaves n =>
    exact session_moves hc (.single (.keep c.session c.session.status c.session.closeReceived
      c.session.incoming c.session.early (c.session.outgoing.drop n)))
  | fails hstage e =>
    have htalk : Talks c.session (c.session.note (.transportFailed e)).loseTransport :=
      (Talks.single (.note _ _)).trans (Session.talks_loseTransport _)
    exact ⟨.single (.fails hstage rfl rfl .nothing htalk), fun _ hs => by cases hs⟩
  | loses hstage => exact session_moves hc (Session.talks_loseTransport _)

theorem call_moves (hc : c.Drained) (call : Call) :
    ReflTransGen Moves c (c.call call) ∧ (c.call call).Drained := by
  cases call with
  | readTls t => exact (exchanges_readTls c t).moves hc
  | writeTls t => exact (exchanges_writeTls c t).moves hc
  | process => exact process_moves hc
  | write bs => exact session_moves hc (Session.talks_write c.session bs)
  | read n => exact session_moves hc (Session.talks_read c.session n)
  | close => exact session_moves hc (Session.talks_sendClose c.session)

theorem run_moves (hc : c.Drained) (calls : List Call) :
    ReflTransGen Moves c (c.run calls) ∧ (c.run calls).Drained := by
  induction calls generalizing c with
  | nil => exact ⟨.refl, hc⟩
  | cons call calls ih =>
    obtain ⟨hmoves, hdrained⟩ := call_moves hc call
    obtain ⟨hmoves', hdrained'⟩ := ih hdrained
    exact ⟨hmoves.trans hmoves', hdrained'⟩

/-! ## The end -/

theorem Exchanges.ended (h : c.Exchanges c') {e : TlsError} (he : c.stage = .error e) :
    c'.stage = .error e := by
  cases h with
  | fails hstage e' => cases he.symm.trans hstage
  | _ => exact he

/-- A connection that has ended gives the same error ever after. -/
theorem call_ended {e : TlsError} (h : c.stage = .error e) (call : Call) :
    (c.call call).stage = .error e := by
  cases call with
  | readTls t => exact (exchanges_readTls c t).ended h
  | writeTls t => exact (exchanges_writeTls c t).ended h
  | process =>
    show c.process.2.stage = _
    unfold Connection.process
    rw [h]
    exact h
  | write bs => exact h
  | read n => exact h
  | close => exact h

theorem run_ended {e : TlsError} (h : c.stage = .error e) (calls : List Call) :
    (c.run calls).stage = .error e := by
  induction calls generalizing c with
  | nil => exact h
  | cons call calls ih => exact ih (call_ended h call)

end Connection

/-! ## Streams -/

namespace Transfer

variable {α β : Type}

/-- A computation that does nothing with a connection but call it. -/
def Runs (x : Transfer α) : Prop :=
  ∀ s : Stream, ∃ calls, (x.run s).2.connection = s.connection.run calls

theorem runs_pure (a : α) : Runs (pure a) := fun _ => ⟨[], rfl⟩

theorem runs_throw (e : IoError) : Runs (throw e : Transfer α) := fun _ => ⟨[], rfl⟩

theorem runs_ask (f : Connection → α) : Runs (ask f) := fun _ => ⟨[], rfl⟩

theorem runs_get : Runs (get : Transfer Stream) := fun _ => ⟨[], rfl⟩

theorem runs_bind {x : Transfer α} {f : α → Transfer β} (hx : Runs x) (hf : ∀ a, Runs (f a)) :
    Runs (x >>= f) := by
  intro s
  obtain ⟨calls, hcalls⟩ := hx s
  show ∃ calls', (ExceptT.bindCont f (x.run s).1 (x.run s).2).2.connection = _
  rcases (x.run s).1 with e | a
  · exact ⟨calls, hcalls⟩
  · obtain ⟨calls', hcalls'⟩ := hf a (x.run s).2
    exact ⟨calls ++ calls', hcalls'.trans (by rw [hcalls, Connection.run_append])⟩

theorem runs_attempt {x : Transfer α} (hx : Runs x) : Runs (attempt x) := hx

theorem runs_readTls : Runs readTls := fun s => ⟨[.readTls s.transport], rfl⟩

theorem runs_writeTls : Runs writeTls := fun s => ⟨[.writeTls s.transport], rfl⟩

theorem runs_process : Runs process := fun _ => ⟨[.process], rfl⟩

theorem runs_actRead (n : Nat) : Runs (act fun c => c.read n) := fun _ => ⟨[.read n], rfl⟩

theorem runs_actWrite (bs : Bytes) : Runs (act fun c => c.write bs) := fun _ => ⟨[.write bs], rfl⟩

theorem runs_writeUpTo (fuel written : Nat) : Runs (writeUpTo fuel written) := by
  induction fuel generalizing written with
  | zero => exact runs_pure _
  | succ fuel ih =>
    apply runs_bind (runs_ask _)
    intro wants
    split
    · exact runs_bind runs_writeTls fun _ => ih _
    · exact runs_pure _

theorem runs_writeAll : Runs writeAll := runs_bind runs_get fun _ => runs_writeUpTo _ _

theorem runs_turns (wasHandshaking : Bool) (fuel read written : Nat) :
    Runs (turns wasHandshaking fuel read written) := by
  induction fuel generalizing read written with
  | zero => exact runs_pure _
  | succ fuel ih =>
    apply runs_bind runs_writeAll
    intro n
    dsimp only
    split
    · exact runs_pure _
    · apply runs_bind (runs_ask _)
      intro wanted
      split
      all_goals
        apply runs_bind (by first | exact runs_readTls | exact runs_pure 0)
        intro k
        apply runs_bind runs_process
        intro result
        split
        · exact runs_bind (runs_attempt runs_writeTls) fun _ => runs_throw _
        · apply runs_bind (runs_ask _)
          intro handshaking
          split
          · exact runs_pure _
          · split
            · exact runs_bind (runs_throw _) fun _ => ih _ _
            · exact ih _ _

theorem runs_completeIo : Runs completeIo := by
  apply runs_bind runs_get
  intro s
  split
  · exact runs_throw _
  · exact runs_turns _ _ _ _

theorem runs_completePrior : Runs completePrior := by
  apply runs_bind (runs_ask _)
  intro handshaking
  have hrest : Runs (do
      if ← ask Connection.wantsWrite then let _ ← completeIo : Transfer Unit) := by
    apply runs_bind (runs_ask _)
    intro wants
    split
    · exact runs_bind runs_completeIo fun _ => runs_pure _
    · exact runs_pure _
  split
  · exact runs_bind runs_completeIo fun _ => hrest
  · exact hrest

theorem runs_readUpTo (n fuel : Nat) : Runs (readUpTo n fuel) := by
  induction fuel with
  | zero => exact runs_actRead n
  | succ fuel ih =>
    apply runs_bind (runs_ask _)
    intro wants
    split
    · exact runs_actRead n
    · apply runs_bind runs_completeIo
      intro moved
      split
      · exact ih
      · apply runs_bind runs_process
        intro result
        split
        · split
          · exact runs_pure _
          · exact runs_actRead n
        · exact runs_actRead n

theorem runs_read (n : Nat) : Runs (read n) :=
  runs_bind runs_completePrior fun _ => runs_bind runs_get fun _ => runs_readUpTo _ _

theorem runs_write (bs : Bytes) : Runs (write bs) :=
  runs_bind runs_completePrior fun _ => runs_bind (runs_actWrite bs) fun _ =>
    runs_bind (runs_attempt runs_completeIo) fun _ => runs_pure _

theorem runs_flush : Runs flush := by
  refine runs_bind runs_completePrior fun _ => runs_bind (runs_ask _) fun wants => ?_
  split
  · exact runs_bind runs_completeIo fun _ => runs_pure _
  · exact runs_pure _

theorem runs_close : Runs close :=
  runs_bind (fun _ => ⟨[.close], rfl⟩) fun _ => runs_bind runs_writeAll fun _ => fun _ => ⟨[], rfl⟩

end Transfer

namespace Stream

/-- What a user does with a stream. -/
inductive Action where
  | read (n : Nat)
  | write (bs : Bytes)
  | flush
  | close

/-- The stream after an action. -/
def act (s : Stream) : Action → Stream
  | .read n => ((Transfer.read n).run s).2
  | .write bs => ((Transfer.write bs).run s).2
  | .flush => (Transfer.flush.run s).2
  | .close => (Transfer.close.run s).2

/-- The stream after some actions. -/
def actAll (s : Stream) (actions : List Action) : Stream := actions.foldl act s

variable {s s' : Stream}

/-- Whatever is done with a stream, its connection goes through a run. -/
theorem actAll_eq_run (s : Stream) (actions : List Action) :
    ∃ calls, (s.actAll actions).connection = s.connection.run calls := by
  refine Connection.exists_run_foldl connection (fun s action => ?_) s actions
  cases action with
  | read n => exact Transfer.runs_read n s
  | write bs => exact Transfer.runs_write bs s
  | flush => exact Transfer.runs_flush s
  | close => exact Transfer.runs_close s

theorem connect_eq_run (h : s.connect = .ok s') : ∃ calls, s'.connection = s.connection.run calls := by
  obtain ⟨calls, hcalls⟩ := Transfer.runs_completePrior s
  unfold connect at h
  split at h
  · next hprior =>
    cases h
    rw [hprior] at hcalls
    exact ⟨calls, hcalls⟩
  · cases h

/-- What holds of a connection after every run holds of it in a stream, whatever is done with the stream, and
once the stream was connected as well. -/
theorem holds_actAll {P : Connection → Prop} (h : ∀ calls, P (s.connection.run calls)) (actions : List Action) :
    P (s.actAll actions).connection ∧ ∀ s', s.connect = .ok s' → P (s'.actAll actions).connection := by
  constructor
  · obtain ⟨calls, hcalls⟩ := s.actAll_eq_run actions
    exact hcalls ▸ h calls
  · intro s' hconnect
    obtain ⟨before, hbefore⟩ := connect_eq_run hconnect
    obtain ⟨calls, hcalls⟩ := s'.actAll_eq_run actions
    rw [hcalls, hbefore, ← Connection.run_append]
    exact h (before ++ calls)

end Stream

end TlsClient
