import TlsClient.Proofs.Connection.Mirroring
import TlsClient.Proofs.Connection.Passing

/-!
# What occurs in a run

A run can be told without the bytes that arrive and without the keys that open them: what was in each record
that was opened, what could not be opened, how many bytes left, and what the user did (`occurrences`).  Nothing
else decides what a connection shows: one that goes through the same occurrences mirrors it (`run_mirrors`),
and two that mirror each other show the same while they go through the same occurrences
(`Mirrors.appearances`).
-/

namespace TlsClient

/-- Something that occurs in a run. -/
inductive Occurrence where
  /-- A record was opened, with this in it. -/
  | opened (r : Record)
  /-- What came next was no record or could not be opened. -/
  | refused (e : TlsError)
  /-- The transport failed. -/
  | lost (e : IoError)
  /-- Bytes were written to the transport. -/
  | left (n : Nat)
  | wrote (bs : Bytes)
  | read (n : Nat)
  | closed
  deriving DecidableEq, Repr

/-- What the user is told at once. -/
inductive Returned where
  | written (result : Except IoError Nat)
  | read (result : Except IoError Bytes)
  | nothing
  deriving DecidableEq, Repr

namespace Connection

/-- What an occurrence does.  Once the connection has ended, or a close notification has been received, no
record has an effect. -/
def occur (c : Connection) : Occurrence → Connection
  | .opened r =>
    match c.stage with
    | .ok stage => if c.session.closeReceived then c else upshot (c.takeOpened stage r)
    | .error _ => c
  | .refused e => c.fail e
  | .lost e => c.transportFailed e
  | .left n => { c with session := { c.session with outgoing := c.session.outgoing.drop n } }
  | .wrote bs => (c.write bs).2
  | .read n => (c.read n).2
  | .closed => c.close

def returned (c : Connection) : Occurrence → Returned
  | .wrote bs => .written (c.write bs).1
  | .read n => .read (c.read n).1
  | _ => .nothing

/-- What can be seen of an occurrence: what the user is told, the error that has ended the connection if there
is one, and what it shows. -/
structure Appearance where
  returned : Returned
  error : Option TlsError
  view : View
  deriving DecidableEq, Repr

/-- The error that has ended the connection. -/
def error? (c : Connection) : Option TlsError :=
  match c.stage with
  | .ok _ => none
  | .error e => some e

/-- The connection after some occurrences. -/
def after (c : Connection) (os : List Occurrence) : Connection := os.foldl occur c

/-- What can be seen of some occurrences, one after another. -/
def appearances (c : Connection) : List Occurrence → List Appearance
  | [] => []
  | o :: os => ⟨c.returned o, (c.occur o).error?, (c.occur o).view⟩ :: (c.occur o).appearances os

/-- What occurs when everything that has arrived is taken in, at most `fuel` records. -/
def arrivals : (fuel : Nat) → Connection → List Occurrence
  | 0, _ => []
  | fuel + 1, c =>
    match c.stage with
    | .error _ => []
    | .ok stage =>
      if c.session.closeReceived then []
      else
        match c.deframer.pop with
        | (.error e, _) => [.refused e]
        | (.ok none, _) => []
        | (.ok (some wire), deframer) =>
          match c.session.layer.receiving.unprotect wire with
          | (.error e, _) => [.refused e]
          | (.ok r, _) => .opened r :: arrivals fuel (upshot ({ c with deframer }.takeRecord stage wire))

/-- What occurs in a call. -/
def occurrence (c : Connection) : Call → List Occurrence
  | .readTls t =>
    if c.session.closeReceived ∨ c.deframer.isFull then []
    else
      match t.read c.deframer.room with
      | (.ok _, _) => []
      | (.error e, _) => [.lost e]
  | .writeTls t =>
    if !c.wantsWrite then []
    else
      match t.write c.session.outgoing.offer with
      | (.ok n, _) => [.left n]
      | (.error e, _) => [.lost e]
  | .process => c.arrivals (c.deframer.buffer.length + 1)
  | .write bs => [.wrote bs]
  | .read n => [.read n]
  | .close => [.closed]

/-- What occurs in some calls. -/
def occurrences (c : Connection) (calls : List Call) : List Occurrence := yields occurrence c calls

variable {c k : Connection} {stage : Stage}

@[simp] theorem after_nil (c : Connection) : c.after [] = c := rfl

@[simp] theorem after_cons (c : Connection) (o : Occurrence) (os : List Occurrence) :
    c.after (o :: os) = (c.occur o).after os := rfl

theorem after_append (c : Connection) (os os' : List Occurrence) :
    c.after (os ++ os') = (c.after os).after os' := List.foldl_append

theorem occur_opened (hok : c.stage = .ok stage) (hopen : c.session.closeReceived = false) (r : Record) :
    c.occur (.opened r) = upshot (c.takeOpened stage r) := by
  simp [occur, hok, hopen]

/-! ## Connections that mirror each other -/

namespace Mirrors

theorem occur (h : c.Mirrors k) (o : Occurrence) : (c.occur o).Mirrors (k.occur o) := by
  cases o with
  | opened r =>
    unfold Connection.occur
    rw [h.stage, h.session.closeReceived]
    cases c.stage with
    | error e => exact h
    | ok stage =>
      dsimp only
      split
      · exact h
      · exact (h.takeOpened stage r).upshot
  | refused e => exact h.fail e
  | lost e => exact h.transportFailed e
  | left n => exact h.with_session (h.session.outgoing_of fun q => q.drop n)
  | wrote bs => exact (h.write bs).mirrors
  | read n => exact (h.read n).mirrors
  | closed => exact h.close

theorem returned (h : c.Mirrors k) (o : Occurrence) : k.returned o = c.returned o := by
  cases o with
  | wrote bs => exact congrArg Returned.written (h.write bs).result
  | read n => exact congrArg Returned.read (h.read n).result
  | _ => rfl

theorem error? (h : c.Mirrors k) : k.error? = c.error? := by
  rw [Connection.error?, Connection.error?, h.stage]

theorem after (h : c.Mirrors k) (os : List Occurrence) : (c.after os).Mirrors (k.after os) := by
  induction os generalizing c k with
  | nil => exact h
  | cons o os ih => exact ih (h.occur o)

/-- The same occurrences look the same. -/
theorem appearances (h : c.Mirrors k) (os : List Occurrence) : k.appearances os = c.appearances os := by
  induction os generalizing c k with
  | nil => rfl
  | cons o os ih =>
    have hafter := h.occur o
    rw [Connection.appearances, Connection.appearances, h.returned o, hafter.error?, hafter.view, ih hafter]

end Mirrors

/-! ## Runs -/

/-- Opening a record has no part in what becomes of it. -/
theorem Mirrors.opened {wire r : Record} {d : Direction} (h : k.Mirrors c)
    (hopens : c.session.layer.receiving.unprotect wire = (.ok r, d)) (stage : Stage) (deframer : Deframer) :
    Echoes (k.takeOpened stage r) (({ c with deframer } : Connection).takeRecord stage wire) := by
  rw [takeRecord_opened (c := { c with deframer }) hopens]
  have hsession := (h.session.symm.receiving d k.session.layer.receiving).happened_left
    (e := .opened c.session.layer.receiving.isActive r) rfl
  exact Mirrors.takeOpened (k := { c with deframer, session := _ })
    ⟨h.config, hsession.symm, h.stage, h.handshakes, h.alerts⟩ stage r

/-- What is left to do after a record, even one that has ended the connection. -/
theorem process_record {wire : Record} {d : Deframer} (hok : c.stage = .ok stage)
    (hopen : c.session.closeReceived = false) (hpop : c.deframer.pop = (.ok (some wire), d)) :
    c.process = (upshot (({ c with deframer := d } : Connection).takeRecord stage wire)).process := by
  rcases htake : ({ c with deframer := d } : Connection).takeRecord stage wire with ⟨e | stage', c'⟩
  · exact process_broken hok (by simp [hopen]) hpop htake
  · exact (Passes.record hok hopen hpop htake).process

theorem deframer_upshot (x : Except TlsError Stage × Connection) : (upshot x).deframer = x.2.deframer := by
  rcases x with ⟨e | stage, c⟩ <;> rfl

theorem arrivals_mirrors {fuel : Nat} (h : k.Mirrors c) (hfuel : c.deframer.buffer.length < fuel) :
    (k.after (c.arrivals fuel)).Mirrors c.process.2 := by
  induction fuel generalizing c k with
  | zero => exact absurd hfuel (Nat.not_lt_zero _)
  | succ fuel ih =>
    unfold arrivals
    cases hok : c.stage with
    | error e =>
      rw [Connection.process, hok]
      exact h
    | ok stage =>
      cases hopen : c.session.closeReceived with
      | true =>
        have hsettled : c.Settled := ⟨⟨stage, hok⟩, .inl hopen⟩
        rw [hsettled.process]
        exact h
      | false =>
        have hunclosed : ¬ c.session.closeReceived = true := by simp [hopen]
        rcases hpop : c.deframer.pop with ⟨e | _ | wire, d⟩
        · rw [process_drain hok, drain_refused hunclosed hpop]
          exact Mirrors.fail (k := { c with deframer := d })
            ⟨h.config, h.session, h.stage, h.handshakes, h.alerts⟩ e
        · have hsettled : c.Settled := ⟨⟨stage, hok⟩, .inr (by rw [hpop])⟩
          rw [hsettled.process]
          exact h
        · rcases hopens : c.session.layer.receiving.unprotect wire with ⟨e | r, q⟩
          · have htake := takeRecord_refused (c := { c with deframer := d }) hopens stage
            have hsession := (h.session.symm.receiving q k.session.layer.receiving).symm
            rw [process_broken hok hunclosed hpop htake]
            dsimp only
            rw [if_neg Bool.false_ne_true, hopens]
            exact Mirrors.fail (k := { c with deframer := d, session := _ })
              ⟨h.config, hsession, h.stage, h.handshakes, h.alerts⟩ e
          · have hboth := (h.opened hopens stage d).upshot
            have hlater : (upshot (({ c with deframer := d } : Connection).takeRecord stage wire)
                ).deframer.buffer.length < fuel := by
              have hshorter := Deframer.length_lt_of_pop hpop
              rw [deframer_upshot, takeRecord_deframer]
              exact Nat.lt_of_lt_of_le hshorter (Nat.le_of_lt_succ hfuel)
            rw [process_record hok hopen hpop]
            dsimp only
            rw [if_neg Bool.false_ne_true, hopens]
            dsimp only
            rw [after_cons,
              occur_opened (h.stage.symm.trans hok) (h.session.closeReceived.symm.trans hopen)]
            rw [hok] at hboth hlater ⊢
            exact ih hboth hlater

theorem call_mirrors (h : k.Mirrors c) (call : Call) :
    (k.after (c.occurrence call)).Mirrors (c.call call) := by
  cases call with
  | readTls t =>
    show (k.after (if _ then _ else _)).Mirrors (c.readTls t).2.1
    unfold readTls
    by_cases hclose : c.session.closeReceived = true
    · rw [if_pos (.inl hclose), if_pos hclose]
      exact h
    · by_cases hfull : c.deframer.isFull = true
      · rw [if_pos (.inr hfull), if_neg hclose, if_pos hfull]
        exact h
      · rw [if_neg (not_or.mpr ⟨hclose, hfull⟩), if_neg hclose, if_neg hfull]
        rcases t.read c.deframer.room with ⟨e | bs, t'⟩
        · exact h.transportFailed e
        · exact ⟨h.config, h.session, h.stage, h.handshakes, h.alerts⟩
  | writeTls t =>
    show (k.after (if _ then _ else _)).Mirrors (c.writeTls t).2.1
    unfold writeTls
    split
    · exact h
    · rcases t.write c.session.outgoing.offer with ⟨e | n, t'⟩
      · exact h.transportFailed e
      · exact h.occur (.left n)
  | process => exact arrivals_mirrors h (Nat.lt_succ_self _)
  | write bs => exact (h.write bs).mirrors
  | read n => exact (h.read n).mirrors
  | close => exact h.close

/-- What occurs in a run decides what the connection shows. -/
theorem run_mirrors (c : Connection) (calls : List Call) :
    (c.after (c.occurrences calls)).Mirrors (c.run calls) := by
  have hrun (k : Connection) (h : k.Mirrors c) : (k.after (c.occurrences calls)).Mirrors (c.run calls) := by
    induction calls generalizing c k with
    | nil => exact h
    | cons call calls ih =>
      rw [occurrences, yields, after_append, run_cons]
      exact ih _ _ (call_mirrors h call)
  exact hrun c (.refl c)

end Connection

end TlsClient
