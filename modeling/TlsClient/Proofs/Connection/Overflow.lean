import TlsClient.Proofs.Cipher.Reopening
import TlsClient.Proofs.Connection.Boundaries
import TlsClient.Proofs.Connection.Completing

/-!
# Records that are too long

A protected record whose data is too long fails the connection, and so does any record that is too long even
when protected, as soon as its header is there: the server is told, and nothing of the record has an effect
(`oversized_refused`).
-/

namespace TlsClient

open Deeds (handled)
open Relation (ReflTransGen)
open Session (Still)

/-! ## What has arrived -/

/-- A record is the next to be cut out: it has arrived as a whole, or its header has and that is enough to
refuse it. -/
inductive Deframer.Faces (d : Deframer) (wire : Record) : Prop
  | whole (rest : Bytes) (h : d.buffer = wire.encode ++ rest)
  | header (rest : Bytes) (hlong : Record.maxPayload < wire.payload.length)
    (h : d.buffer = wire.encode.take Record.headerLength ++ rest)

namespace Deframer

variable {d : Deframer} {wire : Record}

theorem Faces.pop_whole (h : d.Faces wire) (hd : d.desynced = false) (hv : wire.version = .tls1)
    (hl : wire.payload.length ≤ Record.maxPayload) : ∃ d', d.pop = (.ok (some wire), d') := by
  cases h with
  | whole rest h => exact ⟨_, pop_encode hd ⟨hv, hl⟩ h⟩
  | header rest hlong => exact absurd hl (Nat.not_le.mpr hlong)

/-- The length in its header is enough to refuse a record. -/
theorem Faces.pop_tooLarge (h : d.Faces wire) (hd : d.desynced = false)
    (hl : wire.payload.length < 256 ^ 2) (hlong : Record.maxPayload < wire.payload.length) :
    d.pop = (.error .oversizedRecord, { d with desynced := true }) := by
  obtain ⟨rest, hbuffer⟩ : ∃ rest, d.buffer = Record.header wire.typ wire.version wire.payload.length ++ rest := by
    cases h with
    | whole rest h => exact ⟨wire.payload ++ rest, by rw [h, Record.encode_eq_header, List.append_assoc]⟩
    | header rest _ h =>
      exact ⟨rest, by rw [h, Record.encode_eq_header, List.take_left' (Record.length_header _ _ _)]⟩
  rw [pop, hd, hbuffer, Record.decode_header _ _ hl, if_pos hlong]
  rfl

end Deframer

/-- The plaintext of a record that is received: its payload, or what is authentic in it when it takes keys. -/
inductive Direction.Bears (d : Direction) (wire : Record) : Bytes → Prop
  | clear (h : d.isActive = false) : Bears d wire wire.payload
  | keyed {p : Protection} {data : Bytes} (hactive : d.isActive = true) (hp : d.protection = some p)
    (hnumber : d.exhausted = false) (h : p.Authentic d.seq wire data) : Bears d wire data

/-- A protected record with too much data is refused. -/
theorem Direction.Bears.unprotect {d : Direction} {wire : Record} {data : Bytes} (h : d.Bears wire data)
    (hactive : d.isActive = true) (hlong : Record.maxFragment < data.length) :
    ∃ d', d.unprotect wire = (.error .oversizedRecord, d') := by
  cases h with
  | clear h =>
    rw [h] at hactive
    cases hactive
  | @keyed p _ _ hp hnumber h =>
    have hd : d = ⟨some p, d.seq, .active⟩ := by
      rw [← hp, ← show d.phase = .active by simpa [isActive] using hactive]
    rw [hd, unprotect_active (of_decide_eq_false hnumber), h.unprotect, if_pos hlong]
    exact ⟨_, rfl⟩

namespace Connection

variable {c c' c₀ : Connection} {stage : Stage} {o : Origin} {hello : ClientHello}

/-- The deframer knows where the next record starts at every moment. -/
theorem Passes.synced (h : c.Passes c') (hc : c.Synced) : c'.Synced := by
  cases h with
  | @record k stage stage' wire d hok hopen hpop htake =>
    have hd := takeRecord_deframer { c with deframer := d } stage wire
    rw [htake] at hd
    intro _ _
    show k.deframer.desynced = false
    rw [hd]
    exact (Deframer.desynced_of_pop hpop).trans (hc stage hok)

theorem later_synced (hpasses : ReflTransGen Passes c c') (hc : c.Synced) : c'.Synced := by
  induction hpasses with
  | refl => exact hc
  | tail _ hpass ih => exact hpass.synced ih

/-- What a connection makes of a record that is too long: it fails and tells the server, if there is a number
for the alert.  What waits to be joined or read is left as it is, and nothing is opened or handled. -/
structure RefusesOversized (c : Connection) (x : Except TlsError IoState × Connection) : Prop where
  error : x.1 = .error .oversizedRecord
  failed : x.2.stage = .error .oversizedRecord
  closed : x.2.session.status = .closed
  alert : c.session.layer.exhausted = false → ∃ front, c.session.said <+: front ∧
    x.2.session.said = front ++ [Alert.record ⟨.fatal, .recordOverflow⟩]
  handshakes : x.2.handshakes = c.handshakes
  alerts : x.2.alerts = c.alerts
  still : Still c.session x.2.session
  handled : handled x.2.session.deeds = handled c.session.deeds

/-- Only the deframer and the keys were used before the connection is failed. -/
theorem refusesOversized {d : Deframer} {q : Direction} (hable : c.session.Able)
    (halive : c.session.status ≠ .closed) (h : c.process = (.error .oversizedRecord,
      ({ c with
        deframer := d
        session := { c.session with layer := { c.session.layer with receiving := q } } }
          : Connection).fail .oversizedRecord)) :
    c.RefusesOversized c.process := by
  set s : Session := { c.session with layer := { c.session.layer with receiving := q } } with hs
  rw [h]
  have hstill : Still c.session s := .of_deeds rfl rfl
  refine ⟨rfl, rfl, Session.abort_closed s _, fun hx => ?_, rfl, rfl,
    hstill.trans (Session.still_abort s _), ?_⟩
  · have hable : s.Able := hable.of_eq rfl List.prefix_rfl (Nat.le_refl _)
    exact Session.said_abort hable halive (Bool.eq_false_iff.mp hx) .recordOverflow
  · exact (Session.talks_abort s _).handled_eq

/-- Where what is received is protected, a record with too much data fails the connection, and so does a
record that is too long for any data, protected or not. -/
theorem oversized_refused {config : Config} {time : Int} {random : RandomSource}
    (h : Connection.start config time random = .ok c) {calls : List Call}
    (hpasses : ReflTransGen Passes (c.run calls) c') (hok : c'.stage = .ok stage)
    (hopen : c'.session.closeReceived = false) {wire : Record} {data : Bytes}
    (hfaces : c'.deframer.Faces wire) (hversion : wire.version = .tls1)
    (hlength : wire.payload.length < 256 ^ 2) (hbears : c'.session.layer.receiving.Bears wire data)
    (hlong : Record.maxFragment < data.length)
    (hprotected : c'.session.layer.receiving.isActive = true ∨
      Record.maxPayload < wire.payload.length) :
    c'.RefusesOversized c'.process := by
  obtain ⟨o, hello, hstart, -⟩ := start_starts h
  have hmoment := (moment_run h calls).later hstart hpasses
  have halive := (hmoment.heeds hok hopen).alive
  have hsynced : c'.deframer.desynced = false :=
    later_synced hpasses (run_synced (fun _ _ => by rw [hstart.deframer]) calls) stage hok
  have hunclosed : ¬ c'.session.closeReceived = true := by simp [hopen]
  by_cases hmax : Record.maxPayload < wire.payload.length
  · have hpop := hfaces.pop_tooLarge hsynced hlength hmax
    refine refusesOversized (d := { c'.deframer with desynced := true })
      (q := c'.session.layer.receiving) hmoment.orderly.able halive ?_
    rw [process_drain hok, drain_refused hunclosed hpop]
  · obtain ⟨d, hpop⟩ := hfaces.pop_whole hsynced hversion (Nat.not_lt.mp hmax)
    obtain ⟨q, hunprotect⟩ := hbears.unprotect (hprotected.resolve_right hmax) hlong
    refine refusesOversized (d := d) (q := q) hmoment.orderly.able halive ?_
    rw [process_drain hok, drain_record hunclosed hpop,
      takeRecord_refused (c := { c' with deframer := d }) hunprotect]

/-- After its key change the server seals one byte more than a record may carry. -/
theorem oversized_refused_closed : ∃ c stage wire data,
    Connection.start .acquainted 0 (.seeded [] 0 none) = .ok c ∧
    (c.run (Call.acquaint ++ [.readTls { deliveries := [.data wire.encode] }])).stage = .ok stage ∧
    (c.run (Call.acquaint ++ [.readTls { deliveries := [.data wire.encode] }])).session.layer.receiving.Bears
      wire data ∧
    data.length = 16385 ∧ wire.payload.length ≤ Record.maxPayload ∧
    (c.run (Call.acquaint ++ [.readTls { deliveries := [.data wire.encode] }])).RefusesOversized
      (c.run (Call.acquaint ++ [.readTls { deliveries := [.data wire.encode] }])).process := by
  obtain ⟨c, secrets, t, p, hc, hlistens, -⟩ := run_acquainted
  obtain ⟨data, hdata⟩ : ∃ data : Bytes, data.length = 16385 :=
    ⟨List.replicate 16385 0, List.length_replicate⟩
  obtain ⟨payload, hauthentic, hpayload⟩ :=
    Protection.exists_authentic 0 ⟨.applicationData, .tls1, data⟩ hlistens.iv
  set wire : Record := ⟨.applicationData, .tls1, payload⟩ with hwire
  have hmax : wire.payload.length ≤ Record.maxPayload := by
    rw [hdata] at hpayload
    exact Nat.le_trans hpayload (by decide)
  have hrun : c.run (Call.acquaint ++ [.readTls { deliveries := [.data wire.encode] }])
      = (c.run Call.acquaint).extend wire.encode := by
    rw [run_append]
    exact readTls_wire hlistens.stage hlistens.opened hlistens.deframer ⟨rfl, hmax⟩
  set k := c.run (Call.acquaint ++ [.readTls { deliveries := [.data wire.encode] }]) with hk
  have hstage : k.stage = .ok (.finished secrets t) := by rw [hrun]; exact hlistens.stage
  have hunclosed : k.session.closeReceived = false := by rw [hrun]; exact hlistens.opened
  have hactive : k.session.layer.receiving = ⟨some p, 0, .active⟩ := by
    rw [hrun]
    exact hlistens.receiving
  have hfaces : k.deframer.Faces wire := .whole [] (by
    rw [hrun, extend, hlistens.deframer, List.append_nil]
    rfl)
  have hbears : k.session.layer.receiving.Bears wire data := by
    rw [hactive]
    exact .keyed rfl rfl rfl hauthentic
  exact ⟨c, .finished secrets t, wire, data, hc, hstage, hbears, hdata, hmax,
    oversized_refused hc .refl hstage hunclosed hfaces rfl (Record.lt_of_le_maxPayload hmax) hbears
      (by rw [hdata]; decide) (.inl (by rw [hactive]; rfl))⟩

end Connection

end TlsClient
