import TlsClient.Proofs.Connection.Completing
import TlsClient.Proofs.Connection.Order
import TlsClient.Proofs.Connection.Standing
import TlsClient.Proofs.Session.Flowing

/-!
# What the user writes is sent

A buffer that a connection accepts is sent at once or, before the handshake is over, kept until then.  As
long as the connection has not failed and neither side has closed, its session is open (`run_opened`), and
an open session has lost nothing: its data records carry what was accepted, in order, whatever comes from
the server in between (`written_sent`).
-/

namespace TlsClient

open Session (Carries)

namespace Connection

/-- What a call accepts from the user. -/
def accepts (c : Connection) : Call → List Bytes
  | .write bs =>
    match (c.write bs).1 with
    | .ok n => [bs.take n]
    | .error _ => []
  | _ => []

/-- The buffers that were accepted in a run, in order. -/
def accepted (c : Connection) (calls : List Call) : List Bytes := yields accepts c calls

variable {c : Connection} {config : Config} {time : Int} {random : RandomSource}

theorem accepted_concat (c : Connection) (calls : List Call) (call : Call) :
    c.accepted (calls ++ [call]) = c.accepted calls ++ (c.run calls).accepts call := by
  rw [accepted, yields_append, yields_singleton]
  rfl

theorem accepts_write {bs : Bytes} (h : (c.session.write bs).1 = .ok bs.length) :
    c.accepts (.write bs) = [bs] := by
  have hok : (c.write bs).1 = .ok bs.length := by
    show (c.session.write bs).1.mapError _ = _
    rw [h]
    rfl
  rw [accepts, hok]
  exact congrArg (fun x => [x]) (List.take_length (l := bs))

/-- While its session is open, all that a connection accepted is on its way or waits. -/
theorem run_flows (h : Connection.start config time random = .ok c) (calls : List Call)
    (ho : (c.run calls).session.status = .opened) :
    (c.run calls).session.dialogue.Flows (c.accepted calls) := by
  induction calls using List.reverseRecOn with
  | nil =>
    have hnew : ({ random } : Session).dialogue.Flows [] := ⟨rfl, fun _ => rfl⟩
    exact hnew.serve ((start_stands h).1.turns (Session.orderly_new random).able (.inr ho))
  | append_singleton calls call ih =>
    have hcall := run_call h calls call
    have hable := (run_orderly h calls).1.able
    have hflows := ih (Status.opened_of_rank hcall.status ho)
    have hturns := hcall.turns hable (.inr ho)
    rw [accepted_concat]
    -- only a write adds to what was accepted, and a session that was closed is not open
    cases call with
    | write bs =>
      rw [run_append] at ho ⊢
      obtain ⟨hok, hwritten⟩ := Session.flows_write hable ho hflows
      rw [accepts_write hok]
      exact hwritten
    | close => exact absurd ho (run_closed h (by simp))
    | readTls t => exact (List.append_nil _).symm ▸ hflows.serve hturns
    | writeTls t => exact (List.append_nil _).symm ▸ hflows.serve hturns
    | process => exact (List.append_nil _).symm ▸ hflows.serve hturns
    | read n => exact (List.append_nil _).symm ▸ hflows.serve hturns

/-- A connection that has not failed is open, unless one side has said that it will send nothing more. -/
theorem run_opened (h : Connection.start config time random = .ok c) {calls : List Call}
    (hok : (c.run calls).progress ≠ .failed) (hpeer : (c.run calls).session.closeReceived = false)
    (hclose : ∀ r ∈ (c.run calls).session.said, r.isCloseNotify = false) :
    (c.run calls).session.status = .opened := by
  have hnew := (Session.orderly_new random).able
  have hstart := (start_stands h).1
  have havowed : (c.run calls).session.Avowed :=
    (run_speaks h [] calls).avowed (hstart.able hnew) (hstart.avowed hnew (by rintro ⟨⟩))
  cases hstatus : (c.run calls).session.status with
  | opened => rfl
  | closing =>
    obtain ⟨r, hr, hnotify⟩ := havowed hstatus
    rw [hclose r hr] at hnotify
    cases hnotify
  | closed =>
    cases (run_orderly h calls).2 with
    | heeds _ h => exact absurd hstatus h.alive
    | left _ _ _ h =>
      rw [h.1] at hpeer
      cases hpeer
    | fallen hstage _ =>
      unfold progress at hok
      rw [hstage] at hok
      exact absurd rfl hok

/-- When the handshake is done the session counts it as over. -/
theorem Starts.traffic_of_done {o : Origin} {hello : ClientHello} (h : c.Starts o hello)
    {calls : List Call} (hdone : (c.run calls).progress = .done) :
    (c.run calls).session.traffic = true := by
  unfold progress at hdone
  split at hdone
  · next stage hstage =>
    obtain rfl := progress_done hdone
    exact (h.sound_run calls).phase.traffic hstage
  · cases hdone

/-- Of a connection that has not failed while neither side has closed, the data records carry the buffers
that it accepted, in order: none for an empty one, else an empty record and then as few as will do, none of
them empty.  They are all on their way once the handshake is done; before that the last of them wait. -/
theorem written_sent (h : Connection.start config time random = .ok c) (calls : List Call)
    (hok : (c.run calls).progress ≠ .failed) (hpeer : (c.run calls).session.closeReceived = false)
    (hclose : ∀ r ∈ (c.run calls).session.said, r.isCloseNotify = false) :
    ∃ pieces, List.Forall₂ Carries (c.accepted calls) pieces ∧
      (c.run calls).session.said.filter Record.isData
        ++ Dialogue.waiting (c.run calls).session.early = pieces.flatten ∧
      ((c.run calls).progress = .done →
        (c.run calls).session.said.filter Record.isData = pieces.flatten ∧
        ((c.run calls).session.said.filter Record.isData).flatMap Record.payload
          = (c.accepted calls).flatten) := by
  have hflows := run_flows h calls (run_opened h hok hpeer hclose)
  set pieces := (c.accepted calls).map Session.dataRecords with hpieces
  have hcarries : List.Forall₂ Carries (c.accepted calls) pieces := by
    rw [hpieces, List.forall₂_map_right_iff]
    exact List.forall₂_same.mpr fun bs _ => Session.carries_dataRecords bs
  have hall : (c.run calls).session.said.filter Record.isData
      ++ Dialogue.waiting (c.run calls).session.early = pieces.flatten := hflows.records
  refine ⟨pieces, hcarries, hall, fun hdone => ?_⟩
  obtain ⟨o, hello, hstart, -⟩ := start_starts h
  have hwaits : Dialogue.waiting (c.run calls).session.early = [] :=
    hflows.prompt (hstart.traffic_of_done hdone)
  rw [hwaits, List.append_nil] at hall
  exact ⟨hall, hall ▸ Session.flatten_carries hcarries⟩

/-- The user writes before the handshake is over and after it. -/
theorem written_sent_closed : ∃ c wire calls pieces,
    Connection.start .acquainted 0 (.seeded [] 0 none) = .ok c ∧
    calls = Call.acquaint ++ [.write [1, 2],
      .readTls { deliveries := [.data (Record.encode wire)] }, .process, .write [], .write [3]] ∧
    (c.run calls).progress = .done ∧ List.Forall₂ Carries (c.accepted calls) pieces ∧
    (c.run calls).session.said.filter Record.isData = pieces.flatten := by
  obtain ⟨c, secrets, t, p, hc, hlistens, hearly, -, htraffic, hroom⟩ := run_acquainted
  set k := c.run Call.acquaint with hk
  set k₁ : Connection :=
    { k with session := { k.session with early := k.session.early.push [1, 2] } } with hk₁
  have hwrite : k.call (.write [1, 2]) = k₁ := by
    show (k.write [1, 2]).2 = k₁
    rw [Connection.write, Session.write, if_neg (not_not.mpr hroom.opened), Session.sendPlaintext,
      if_pos (by rw [htraffic]; rfl)]
  have hlistens₁ : k₁.Listens (.finished secrets t) p 0 := ⟨hlistens.stage, hlistens.opened,
    hlistens.deframer, hlistens.handshakes, hlistens.receiving, hlistens.iv⟩
  have hroom₁ : k₁.session.Room ((Dialogue.waiting k₁.session.early).length + 98) := by
    show k₁.session.Room ((Dialogue.waiting (k.session.early.push [1, 2])).length + 98)
    rw [Dialogue.waiting_push, hearly, Session.dataRecords_of_length_le (by decide) (by decide)]
    exact hroom.of_eq rfl rfl rfl
  obtain ⟨wire, q, hdone, -⟩ := hlistens₁.completes (by decide) hroom₁
  set calls := Call.acquaint ++ [.write [1, 2],
    .readTls { deliveries := [.data (Record.encode wire)] }, .process, .write [], .write [3]] with hcalls
  have hend : (c.run calls).Operating q 1 96 := by
    have hrun : c.run calls = ((k₁.run [.readTls { deliveries := [.data (Record.encode wire)] },
        .process]).call (.write [])).call (.write [3]) := by
      rw [hcalls, run_append, ← hk, run_cons, hwrite]
      rfl
    rw [hrun]
    refine Operating.write ?_
    rw [Session.dataRecords_of_length_le (by decide) (by decide)]
    exact Operating.write (n := 98) hdone
  have hprogress : (c.run calls).progress = .done := by
    rw [progress, hend.stage]
    rfl
  have hclose := (run_orderly hc calls).1.unclosed hend.room.opened hend.room.inBounds
  obtain ⟨pieces, hcarries, -, hall⟩ :=
    written_sent hc calls (by rw [hprogress]; decide) hend.opened hclose
  exact ⟨c, wire, calls, pieces, hc, rfl, hprogress, hcarries, (hall hprogress).1⟩

end Connection

end TlsClient
