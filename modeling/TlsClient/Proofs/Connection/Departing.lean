import TlsClient.Proofs.Connection.Delivery
import TlsClient.Proofs.Connection.Holding
import TlsClient.Proofs.Connection.Lasting
import TlsClient.Proofs.Connection.Offering
import TlsClient.Proofs.Stream.Moving

/-!
# What leaves is whole records

However little of what it offers a transport takes at a time, the bytes that have left and those that wait are
the records that were put on their way, one after another, and each of them can be cut out again
(`departed_whole`).  Once the transport has failed nothing leaves any more, so what has left then is the
beginning of that.
-/

namespace TlsClient

/-- A record that a direction lets out, protected or not, can be cut out of a stream. -/
theorem Direction.fits_of_protect {d d' : Direction} {r wire : Record} (hversion : r.version = .tls1)
    (hr : r.payload.length ≤ Record.maxFragment) (h : d.protect r = (.ok wire, d')) : wire.Fits := by
  unfold Direction.protect at h
  split at h
  · cases h
    exact ⟨hversion, Nat.le_trans hr (Nat.le_add_right _ _)⟩
  · split at h
    · cases h
    · rcases hp : d.protection with - | p
      all_goals rw [hp] at h
      · cases h
      · obtain ⟨last, hpadding, hwhole, hlast⟩ := Protection.exists_text p d.seq r
        simp only [Protection.protect?, Protection.protect_eq p d.seq hr hpadding] at h
        cases h
        have hsealed : (Cbc.encrypt p.key p.iv (p.text d.seq r last)).1.length ≤
            r.payload.length + macLength + 16 := Protection.length_sealed hwhole hlast
        have hroom : r.payload.length + macLength + 16 ≤ Record.maxPayload := by
          show r.payload.length + 20 + 16 ≤ Record.maxFragment + 2048
          omega
        exact ⟨hversion, Nat.le_trans hsealed hroom⟩

theorem Record.Fits.declares {r : Record} (h : r.Fits) :
    Bytes.toNat ((r.encode.drop 3).take 2) = r.payload.length := by
  obtain ⟨l₁, l₂, hlength, hencode⟩ := encode_cons h.1 (lt_of_le_maxPayload h.2)
  rw [hencode]
  exact hlength

namespace Session

/-- The records put on their way so far, as they are on the wire. -/
def onWire (s : Session) : List Record := s.sent.map Prod.snd

theorem wires_eq (rs : List (Record × Record)) : wires rs = (rs.map Prod.snd).flatMap Record.encode := by
  rw [wires, List.flatMap_map]

/-- A session all of whose records can be cut out of a stream. -/
def Wired (s : Session) : Prop := ∀ wire ∈ s.onWire, wire.Fits

variable {s s' : Session}

theorem Wired.of_sent (h : s.Wired) (hsent : s'.sent = s.sent) : s'.Wired := by
  rwa [Wired, onWire, hsent]

theorem Wired.sendRecord {r : Record} (h : s.Wired) (hversion : r.version = .tls1)
    (hr : r.payload.length ≤ Record.maxFragment) : (s.sendRecord r).Wired := by
  rcases sendRecord_cases s r with hsame | ⟨wire, d, hprotect, hsend⟩ | ⟨e, d, -, hlost⟩
  · rwa [hsame]
  · rw [hsend]
    intro w hw
    rw [onWire, sent_enqueue, List.map_append] at hw
    rcases List.mem_append.mp hw with hw | hw
    · exact h w hw
    · obtain rfl := List.mem_singleton.mp hw
      exact Direction.fits_of_protect hversion hr hprotect
  · rw [hlost]
    exact h.of_sent (sent_note _ _)

theorem steady_wired : Steady Wired where
  behave _ h := h
  happened he h := h.of_sent (sent_of_routine he)
  sendRecord hversion hr h := h.sendRecord hversion hr

theorem lasting_wired : Lasting Wired where
  toSteady := steady_wired
  outgoing _ h := h
  receiving _ h := h
  changeKeys _ _ h := (Step.closedTalk_preserves steady_wired).send rfl _ h

end Session

namespace Connection

variable {c c' : Connection} {call : Call} {calls : List Call} {e : IoError}

/-! ## Bytes that leave -/

/-- The bytes that a call gives to its transport. -/
def departs (c : Connection) : Call → Bytes
  | .writeTls t => (c.writeTls t).2.2.sent.drop t.sent.length
  | _ => []

/-- The bytes that have left in a run. -/
def departed (c : Connection) (calls : List Call) : Bytes := yields departs c calls

theorem departed_concat (c : Connection) (calls : List Call) (call : Call) :
    c.departed (calls ++ [call]) = c.departed calls ++ (c.run calls).departs call := by
  rw [departed, yields_append, yields_singleton]
  rfl

/-- The failure with which moving bytes ends, if it will not pass. -/
def lasting? : Except IoError Nat → Option IoError
  | .error e => if e.kind.isTransient then none else some e
  | .ok _ => none

/-- The failure of the transport in a call, if it will not pass.  A read into a full buffer fails before it
comes to the transport. -/
def failure? (c : Connection) : Call → Option IoError
  | .readTls t => if c.deframer.isFull then none else lasting? (c.readTls t).1
  | .writeTls t => lasting? (c.writeTls t).1
  | _ => none

/-- The failures of the transport in a run. -/
def failures (c : Connection) (calls : List Call) : List IoError :=
  yields (fun c call => (c.failure? call).toList) c calls

theorem failures_concat (c : Connection) (calls : List Call) (call : Call) :
    c.failures (calls ++ [call]) = c.failures calls ++ ((c.run calls).failure? call).toList := by
  rw [failures, yields_append, yields_singleton]
  rfl

/-! ## One call -/

/-- A connection from which everything that waits is lost, since its transport has failed. -/
structure Loses (c c' : Connection) : Prop where
  sent : c'.session.sent = c.session.sent
  outgoing : c'.session.outgoing = {}
  stage : ∃ e, c'.stage = .error e

/-- A call during which the transport does not fail for good: what it gives away was waiting, and what it puts
on its way waits behind. -/
def Hands (c : Connection) (call : Call) : Prop :=
  ∃ rs, (c.call call).session.sent = c.session.sent ++ rs ∧
    c.departs call ++ (c.call call).session.outgoing.toBytes =
      c.session.outgoing.toBytes ++ Session.wires rs

theorem Hands.of_eq (hdeparts : c.departs call = [])
    (hsent : (c.call call).session.sent = c.session.sent)
    (hout : (c.call call).session.outgoing = c.session.outgoing) : c.Hands call := by
  refine ⟨[], hsent.trans (List.append_nil _).symm, ?_⟩
  rw [hdeparts, hout]
  exact (List.append_nil _).symm

theorem Hands.of_fills (hdeparts : c.departs call = [])
    (hfills : Session.Fills c.session (c.call call).session) : c.Hands call := by
  obtain ⟨rs, hsent, hbytes⟩ := hfills.bytes
  exact ⟨rs, hsent, by rw [hdeparts, hbytes, List.nil_append]⟩

/-- A failure of the transport that may pass changes nothing, any other loses everything that waits. -/
theorem transportFailed_cases (c : Connection) (e : IoError) :
    lasting? (.error e) = none ∧ c.transportFailed e = c ∨
    lasting? (.error e) = some e ∧ c.Loses (c.transportFailed e) := by
  by_cases htransient : e.kind.isTransient = true
  · exact .inl ⟨if_pos htransient, by rw [transportFailed, if_pos htransient]⟩
  · refine .inr ⟨if_neg htransient, ?_⟩
    rw [transportFailed, if_neg htransient]
    split
    · exact ⟨Session.sent_note c.session _, rfl, _, rfl⟩
    · next e' hstage => exact ⟨rfl, rfl, e', hstage⟩

/-- What a failure of the transport comes to for a call that gives nothing away. -/
theorem failed_hands (hcall : c.call call = c.transportFailed e) (hdeparts : c.departs call = [])
    (hfailure : c.failure? call = lasting? (.error e)) :
    c.failure? call = none ∧ c.Hands call ∨
      (c.failure? call).isSome = true ∧ c.departs call = [] ∧ c.Loses (c.call call) := by
  rcases c.transportFailed_cases e with ⟨hnone, hsame⟩ | ⟨hsome, hloses⟩
  · rw [hsame] at hcall
    exact .inl ⟨hfailure.trans hnone, .of_eq hdeparts (by rw [hcall]) (by rw [hcall])⟩
  · refine .inr ⟨?_, hdeparts, hcall ▸ hloses⟩
    rw [hfailure, hsome]
    rfl

theorem readTls_hands (c : Connection) (t : Transport) :
    c.failure? (.readTls t) = none ∧ c.Hands (.readTls t) ∨ (c.failure? (.readTls t)).isSome = true ∧
      c.departs (.readTls t) = [] ∧ c.Loses (c.call (.readTls t)) := by
  by_cases hfull : c.deframer.isFull = true
  · have hsame : c.call (.readTls t) = c := by
      show (c.readTls t).2.1 = c
      rw [readTls, if_pos hfull]
      split <;> rfl
    exact .inl ⟨if_pos hfull, .of_eq rfl (by rw [hsame]) (by rw [hsame])⟩
  have hreads := Stream.readTls_reads ⟨c, t⟩
  generalize hrun : Transfer.readTls.run ⟨c, t⟩ = y at hreads
  have hcall : c.call (.readTls t) = y.2.connection := congrArg (fun y => y.2.connection) hrun
  have hfailure : c.failure? (.readTls t) = lasting? y.1 :=
    (if_neg hfull).trans (congrArg (fun y => lasting? y.1) hrun)
  cases hreads with
  | closed hclose => exact .inl ⟨hfailure, .of_eq rfl (by rw [hcall]) (by rw [hcall])⟩
  | full hopen hroom => exact absurd hroom hfull
  | arrives hopen hroom hread => exact .inl ⟨hfailure, .of_eq rfl (by rw [hcall]) (by rw [hcall])⟩
  | fails hopen hread => exact failed_hands hcall rfl hfailure

theorem writeTls_hands (hsolid : c.session.outgoing.Solid) (t : Transport) :
    c.failure? (.writeTls t) = none ∧ c.Hands (.writeTls t) ∨
      (c.failure? (.writeTls t)).isSome = true ∧ c.departs (.writeTls t) = [] ∧
        c.Loses (c.call (.writeTls t)) := by
  have hwrites := Stream.writeTls_writes (s := ⟨c, t⟩) hsolid
  generalize hrun : Transfer.writeTls.run ⟨c, t⟩ = y at hwrites
  have hcall : c.call (.writeTls t) = y.2.connection := congrArg (fun y => y.2.connection) hrun
  have hfailure : c.failure? (.writeTls t) = lasting? y.1 :=
    congrArg (fun y : Except IoError Nat × Stream => lasting? y.1) hrun
  have hdeparts : c.departs (.writeTls t) = y.2.transport.sent.drop t.sent.length :=
    congrArg (fun y => y.2.transport.sent.drop t.sent.length) hrun
  cases hwrites with
  | idle =>
    exact .inl ⟨hfailure, .of_eq (hdeparts.trans List.drop_length) (by rw [hcall]) (by rw [hcall])⟩
  | @takes n =>
    refine .inl ⟨hfailure, [], ?_, ?_⟩
    · rw [hcall]
      exact (List.append_nil _).symm
    · rw [hdeparts, hcall]
      show (t.sent ++ c.session.outgoing.toBytes.take n).drop t.sent.length ++
        (c.session.outgoing.drop n).toBytes = c.session.outgoing.toBytes ++ Session.wires []
      rw [List.drop_left, ByteQueue.toBytes_drop, List.take_append_drop]
      exact (List.append_nil _).symm
  | fails => exact failed_hands hcall (hdeparts.trans List.drop_length) hfailure

/-- Every call gives away the front of what waits and adds behind it, unless the transport fails for good. -/
theorem call_hands (hsolid : c.session.outgoing.Solid) (call : Call) :
    c.failure? call = none ∧ c.Hands call ∨
      (c.failure? call).isSome = true ∧ c.departs call = [] ∧ c.Loses (c.call call) := by
  cases call with
  | readTls t => exact readTls_hands c t
  | writeTls t => exact writeTls_hands hsolid t
  | process => exact .inl ⟨rfl, .of_fills rfl (process_fills c)⟩
  | write bs => exact .inl ⟨rfl, .of_fills rfl (Session.fills_write _ _)⟩
  | read n => exact .inl ⟨rfl, .of_eq rfl rfl rfl⟩
  | close => exact .inl ⟨rfl, .of_fills rfl (Session.fills_sendClose _)⟩

/-! ## Every run -/

/-- A connection that has lost its transport: it has failed, and nothing waits to be written. -/
structure Stranded (c : Connection) : Prop where
  outgoing : c.session.outgoing.toBytes = []
  stage : ∃ e, c.stage = .error e

theorem Loses.stranded (h : c.Loses c') : c'.Stranded := ⟨by rw [h.outgoing]; rfl, h.stage⟩

variable {config : Config} {time : Int} {random : RandomSource}

/-- While the transport works, what has left and what waits are the records that were put on their way. -/
theorem departed_unbroken (h : Connection.start config time random = .ok c) (calls : List Call)
    (hworks : c.failures calls = []) :
    c.departed calls ++ (c.run calls).session.outgoing.toBytes =
      Session.wires (c.run calls).session.sent := by
  induction calls using List.reverseRecOn with
  | nil => exact start_outgoing h
  | append_singleton calls call ih =>
    rw [failures_concat, List.append_eq_nil_iff, Option.toList_eq_nil_iff] at hworks
    obtain ⟨hbefore, hcall⟩ := hworks
    have hsolid := (run_regular h calls).outgoing
    have hrun : c.run (calls ++ [call]) = (c.run calls).call call := run_append c calls [call]
    rcases call_hands hsolid call with ⟨-, rs, hsent, hbytes⟩ | ⟨hsome, -⟩
    · have hwires : Session.wires ((c.run calls).session.sent ++ rs) =
          Session.wires (c.run calls).session.sent ++ Session.wires rs := List.flatMap_append
      rw [departed_concat, List.append_assoc, hrun, hbytes, hsent, hwires, ← ih hbefore,
        List.append_assoc]
    · rw [hcall] at hsome
      cases hsome

/-- A connection that has lost its transport gives nothing away and puts nothing on its way, whatever is
called. -/
theorem stranded_call (h : Connection.start config time random = .ok c) (calls : List Call)
    (hstranded : (c.run calls).Stranded) (call : Call) : (c.run (calls ++ [call])).Stranded ∧
      (c.run calls).departs call = [] ∧
      (c.run (calls ++ [call])).session.sent = (c.run calls).session.sent := by
  obtain ⟨e, hstage⟩ := hstranded.stage
  have hrun : c.run (calls ++ [call]) = (c.run calls).call call := run_append c calls [call]
  obtain ⟨hsilent, -⟩ := (run_stage_error h calls hstage).call hstage call
  rw [hrun]
  have hnothing : ((c.run calls).call call).session.outgoing.toBytes = [] := by
    have hsuffix := hsilent.outgoing
    rw [hstranded.outgoing] at hsuffix
    exact List.suffix_nil.mp hsuffix
  refine ⟨⟨hnothing, e, call_ended hstage call⟩, ?_, hsilent.sent⟩
  rcases call_hands (run_regular h calls).outgoing call with ⟨-, rs, hsent, hbytes⟩ | ⟨-, hdeparts, -⟩
  · have hrs : rs = [] := by
      rw [hsilent.sent] at hsent
      exact List.self_eq_append_right.mp hsent
    rw [hstranded.outgoing, hrs] at hbytes
    exact (List.append_eq_nil_iff.mp hbytes).1
  · exact hdeparts

/-- Once the transport has failed, what has left is the beginning of the records, and nothing waits. -/
theorem departed_broken (h : Connection.start config time random = .ok c) (calls : List Call)
    (hbroken : c.failures calls ≠ []) : (c.run calls).Stranded ∧
      c.departed calls <+: Session.wires (c.run calls).session.sent := by
  induction calls using List.reverseRecOn with
  | nil => exact absurd rfl hbroken
  | append_singleton calls call ih =>
    have hrun : c.run (calls ++ [call]) = (c.run calls).call call := run_append c calls [call]
    by_cases hworks : c.failures calls = []
    · rw [failures_concat, hworks, List.nil_append] at hbroken
      rcases call_hands (run_regular h calls).outgoing call with ⟨hnone, -⟩ | ⟨-, hdeparts, hloses⟩
      · exact absurd (Option.toList_eq_nil_iff.mpr hnone) hbroken
      · rw [departed_concat, hdeparts, List.append_nil, hrun, hloses.sent,
          ← departed_unbroken h calls hworks]
        exact ⟨hloses.stranded, List.prefix_append _ _⟩
    · obtain ⟨hstranded, hfront⟩ := ih hworks
      obtain ⟨hstranded', hdeparts, hsent⟩ := stranded_call h calls hstranded call
      rw [departed_concat, hdeparts, List.append_nil, hsent]
      exact ⟨hstranded', hfront⟩

theorem departed_stranded (h : Connection.start config time random = .ok c) (calls later : List Call)
    (hstranded : (c.run calls).Stranded) : c.departed (calls ++ later) = c.departed calls := by
  suffices hall : (c.run (calls ++ later)).Stranded ∧ c.departed (calls ++ later) = c.departed calls from
    hall.2
  induction later using List.reverseRecOn with
  | nil => rw [List.append_nil]; exact ⟨hstranded, rfl⟩
  | append_singleton later call ih =>
    obtain ⟨hstranded', hdeparts, -⟩ := stranded_call h (calls ++ later) ih.1 call
    rw [← List.append_assoc, departed_concat, hdeparts, List.append_nil]
    exact ⟨hstranded', ih.2⟩

/-- How the bytes that have left a connection, and those that wait, stand to the records that it has put on
their way. -/
structure Whole (c : Connection) (calls : List Call) : Prop where
  /-- Each record is as long as it says, and no longer than a record may be. -/
  fits : ∀ wire ∈ (c.run calls).session.onWire, wire.version = .tls1 ∧
    Bytes.toNat ((wire.encode.drop 3).take 2) = wire.payload.length ∧
    wire.payload.length ≤ Record.maxPayload
  /-- One after another they can be cut out of the bytes that they make, and nothing is left over. -/
  parses : Record.Parses ((c.run calls).session.onWire.flatMap Record.encode)
    (c.run calls).session.onWire
  /-- While the transport works, what has left and what waits are these bytes. -/
  unbroken : c.failures calls = [] → c.departed calls ++ (c.run calls).session.outgoing.toBytes =
    (c.run calls).session.onWire.flatMap Record.encode
  /-- Once it has failed for good, what has left is the beginning of them, and nothing more ever leaves. -/
  broken : c.failures calls ≠ [] →
    c.departed calls <+: (c.run calls).session.onWire.flatMap Record.encode ∧
      ∀ later, c.departed (calls ++ later) = c.departed calls

/-- At every moment of every run, what has left and what waits is whole records. -/
theorem departed_whole (h : Connection.start config time random = .ok c) (calls : List Call) :
    c.Whole calls := by
  have hfits : (c.run calls).session.Wired :=
    run_lasting Session.lasting_wired (List.forall_mem_nil _) h calls
  have hwires : Session.wires (c.run calls).session.sent =
      (c.run calls).session.onWire.flatMap Record.encode := Session.wires_eq _
  constructor
  case fits => exact fun wire hw => ⟨(hfits wire hw).1, (hfits wire hw).declares, (hfits wire hw).2⟩
  case parses => exact Record.parses_encode hfits
  case unbroken =>
    intro hworks
    rw [← hwires]
    exact departed_unbroken h calls hworks
  case broken =>
    intro hbroken
    obtain ⟨hstranded, hfront⟩ := departed_broken h calls hbroken
    rw [← hwires]
    exact ⟨hfront, fun later => departed_stranded h calls later hstranded⟩

/-- Three bytes leave, and then the transport breaks. -/
theorem departed_whole_closed : ∃ c, Connection.start .distrustful 0 (.seeded [] 0 none) = .ok c ∧
    c.Whole [.writeTls { acceptances := [.upTo 3] },
      .writeTls { acceptances := [.failure .brokenPipe] }] := by
  obtain ⟨c, hc⟩ := start_distrustful
  exact ⟨c, hc, departed_whole hc _⟩

end Connection

end TlsClient
