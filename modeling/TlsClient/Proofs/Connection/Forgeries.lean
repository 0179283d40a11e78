import TlsClient.Proofs.Cipher.Authenticity
import TlsClient.Proofs.Connection.Mirroring
import TlsClient.Proofs.Connection.Overflow

/-!
# Forged records

Where what is received is protected, every record that is not genuine ends the connection in the same way
(`RefusesForged`), whatever is wrong with it, and two connections that differ in such a record cannot be told
apart afterwards (`forgeries_alike`).  So nothing can be learnt about the padding of a record without its code.
-/

namespace TlsClient

open Deeds (handled)
open Relation (ReflTransGen)
open Session (Still)

/-- A record with data that is authentic under the keys of a direction and its next number. -/
def Direction.Genuine (d : Direction) (wire : Record) (data : Bytes) : Prop :=
  ∃ p, d.protection = some p ∧ p.Genuine d.seq wire data

/-- Every record that is not genuine is refused with the same error. -/
theorem Direction.unprotect_forged {d : Direction} {wire : Record} (hactive : d.isActive = true)
    (hforged : ∀ data, ¬ d.Genuine wire data) : (d.unprotect wire).1 = .error .cannotDecrypt := by
  unfold unprotect
  rw [hactive, Bool.not_true, if_neg Bool.false_ne_true]
  split
  · rfl
  · cases hp : d.protection with
    | none => rfl
    | some p => exact Protection.unprotect_cannotDecrypt_iff.mpr fun data h => hforged data ⟨p, hp, h⟩

namespace Connection

variable {c c' c₀ : Connection} {stage : Stage} {wire : Record}

/-- A connection with a record as the next that has arrived, and more bytes behind it. -/
def facing (c : Connection) (wire : Record) (rest : Bytes) : Connection :=
  { c with deframer := { buffer := wire.encode ++ rest } }

/-- A connection after an attempt to open a record, with the keys as they are then and what is left of what has
arrived. -/
def attempted (c : Connection) (rest : Bytes) (d : Direction) : Connection :=
  { c with
    deframer := { buffer := rest }
    session := { c.session with layer := { c.session.layer with receiving := d } } }

/-- What a connection makes of a record that is not genuine: it fails, and tells the server so in one alert,
behind a close notification if its numbers are about to run out, or not at all if they have.  Nothing is opened,
handled or left to be read, and what waits to be joined stays as it is. -/
structure RefusesForged (c : Connection) (x : Except TlsError IoState × Connection) : Prop where
  error : x.1 = .error .cannotDecrypt
  failed : x.2.stage = .error .cannotDecrypt
  progress : x.2.progress = .failed
  closed : x.2.session.status = .closed
  alert : c.session.layer.exhausted = false → ∃ front,
    x.2.session.said = c.session.said ++ front ++ [Alert.record ⟨.fatal, .badRecordMac⟩] ∧
      (front = [] ∨
        c.session.layer.wantsClose = true ∧ front = [Alert.record ⟨.warning, .closeNotify⟩])
  unread : x.2.session.incoming = c.session.incoming
  still : Still c.session x.2.session
  handled : handled x.2.session.deeds = handled c.session.deeds
  handshakes : x.2.handshakes = c.handshakes
  alerts : x.2.alerts = c.alerts

/-- The keys for what is received have no part in what a failure shows. -/
theorem mirrors_attempted (c : Connection) (rest : Bytes) (d : Direction) : c.Mirrors (c.attempted rest d) := by
  refine ⟨rfl, ?_, rfl, rfl, rfl⟩
  exact ⟨rfl, rfl, rfl, rfl⟩

/-- A record that is not genuine fails the connection as soon as it is tried. -/
theorem process_forged (hok : c.stage = .ok stage) (hopen : c.session.closeReceived = false)
    (hactive : c.session.layer.receiving.isActive = true) (hfits : wire.Fits) (rest : Bytes)
    (hforged : ∀ data, ¬ c.session.layer.receiving.Genuine wire data) :
    ∃ d, (c.facing wire rest).process = (.error .cannotDecrypt, (c.attempted rest d).fail .cannotDecrypt) := by
  have hunclosed : ¬ (c.facing wire rest).session.closeReceived = true := by
    rw [facing, hopen]
    exact Bool.false_ne_true
  have hpop : (c.facing wire rest).deframer.pop = (.ok (some wire), { buffer := rest }) :=
    Deframer.pop_encode rfl hfits rfl
  rcases hunprotect : c.session.layer.receiving.unprotect wire with ⟨result, d⟩
  obtain rfl : result = .error .cannotDecrypt := by
    rw [← Direction.unprotect_forged hactive hforged, hunprotect]
  have htake := takeRecord_refused (c := { c with deframer := { buffer := rest } }) hunprotect stage
  exact ⟨d, process_broken hok hunclosed hpop htake⟩

theorem refusesForged (hable : c.session.Able) (halive : c.session.status ≠ .closed) (rest : Bytes)
    (d : Direction) :
    c.RefusesForged (.error .cannotDecrypt, (c.attempted rest d).fail .cannotDecrypt) := by
  set s := (c.attempted rest d).session with hs
  have hfirst : Still c.session s := .of_deeds rfl rfl
  have hstill : Still c.session (s.abort .badRecordMac) := hfirst.trans (Session.still_abort s _)
  refine ⟨rfl, rfl, rfl, Session.abort_closed s _, fun hx => ?_, hstill.incoming, hstill,
    (Session.talks_abort s _).handled_eq, rfl, rfl⟩
  have hable : s.Able := hable.of_eq rfl List.prefix_rfl (Nat.le_refl _)
  exact Session.said_abort_eq hable halive (Bool.eq_false_iff.mp hx) .badRecordMac

/-- Where what is received is protected, all records that are not genuine are refused alike: whichever two of
them come next, with whatever behind them, the result is the same, and so is everything that can be seen of the
connection afterwards.  Only to a genuine record can it react in any other way. -/
theorem forgeries_alike {config : Config} {time : Int} {random : RandomSource}
    (h : Connection.start config time random = .ok c) {calls : List Call}
    (hpasses : ReflTransGen Passes (c.run calls) c') (hok : c'.stage = .ok stage)
    (hopen : c'.session.closeReceived = false)
    (hactive : c'.session.layer.receiving.isActive = true) :
    (∀ (wire wire' : Record) (rest rest' : Bytes), wire.Fits → wire'.Fits →
      (∀ data, ¬ c'.session.layer.receiving.Genuine wire data) →
      (∀ data, ¬ c'.session.layer.receiving.Genuine wire' data) →
      c'.RefusesForged (c'.facing wire rest).process ∧
        Echoes (c'.facing wire rest).process (c'.facing wire' rest').process ∧
        (c'.facing wire' rest').process.2.view = (c'.facing wire rest).process.2.view) ∧
    ∀ (wire : Record) (rest : Bytes), wire.Fits → ¬ c'.RefusesForged (c'.facing wire rest).process →
      ∃ data, c'.session.layer.receiving.Genuine wire data := by
  obtain ⟨o, hello, hstart, -⟩ := start_starts h
  have hmoment := (moment_run h calls).later hstart hpasses
  have hable := hmoment.orderly.able
  have halive := (hmoment.heeds hok hopen).alive
  have hrefused (wire : Record) (rest : Bytes) (hfits : wire.Fits)
      (hforged : ∀ data, ¬ c'.session.layer.receiving.Genuine wire data) :
      c'.RefusesForged (c'.facing wire rest).process ∧
        Echoes (.error .cannotDecrypt, c'.fail .cannotDecrypt) (c'.facing wire rest).process := by
    obtain ⟨d, hprocess⟩ := process_forged hok hopen hactive hfits rest hforged
    rw [hprocess]
    exact ⟨refusesForged hable halive rest d, rfl, (mirrors_attempted c' rest d).fail _⟩
  constructor
  · intro wire wire' rest rest' hfits hfits' hforged hforged'
    obtain ⟨hfirst, hresult, hmirrors⟩ := hrefused wire rest hfits hforged
    obtain ⟨-, hresult', hmirrors'⟩ := hrefused wire' rest' hfits' hforged'
    have hboth := hmirrors.symm.trans hmirrors'
    exact ⟨hfirst, ⟨hresult'.trans hresult.symm, hboth⟩, hboth.view⟩
  · intro wire rest hfits hother
    by_contra hnone
    exact hother (hrefused wire rest hfits (not_exists.mp hnone)).1

/-- After its key change the server sends too little for a record, or a record that is cut in the middle of a
block, or a genuine one of no known type. -/
theorem forgeries_alike_closed : ∃ c stage wire,
    Connection.start .acquainted 0 (.seeded [] 0 none) = .ok c ∧
    (c.run Call.acquaint).stage = .ok stage ∧
    (c.run Call.acquaint).session.closeReceived = false ∧
    (c.run Call.acquaint).session.layer.receiving.isActive = true ∧
    (c.run Call.acquaint).RefusesForged
      ((c.run Call.acquaint).facing ⟨.applicationData, .tls1, []⟩ []).process ∧
    Echoes ((c.run Call.acquaint).facing ⟨.applicationData, .tls1, []⟩ []).process
      ((c.run Call.acquaint).facing ⟨.handshake, .tls1, List.replicate 25 0⟩ [1]).process ∧
    ((c.run Call.acquaint).facing wire []).process.1.isOk = true ∧
    ∃ data, (c.run Call.acquaint).session.layer.receiving.Genuine wire data := by
  obtain ⟨c, secrets, t, p, hc, hlistens, -⟩ := run_acquainted
  set k := c.run Call.acquaint with hk
  have hactive : k.session.layer.receiving.isActive = true := by rw [hlistens.receiving]; rfl
  have hshort (data : Bytes) : ¬ k.session.layer.receiving.Genuine ⟨.applicationData, .tls1, []⟩ data := by
    rintro ⟨q, -, h⟩
    exact absurd h.length (by decide)
  have hcut (data : Bytes) :
      ¬ k.session.layer.receiving.Genuine ⟨.handshake, .tls1, List.replicate 25 0⟩ data := by
    rintro ⟨q, -, h⟩
    have hwhole := h.whole
    cases hkey : q.key with
    | aes _ | tripleDes _ _ _ => simp [hkey, BlockKey.blockLength] at hwhole
  obtain ⟨wire, q, hfits, -, hseals⟩ :=
    hlistens.seals (r := ⟨⟨99⟩, .tls1, []⟩) (by decide) rfl (Nat.zero_le _)
  set opened := k.unsealed ⟨⟨99⟩, .tls1, []⟩ ⟨some q, 0 + 1, .active⟩ with hopened
  have hjoin : opened.handshakes = {} := hlistens.handshakes
  obtain ⟨hpass, hsettled⟩ := hseals (.finished secrets t) _ (by
    rw [takeOpened, if_neg (by simp [hjoin, HandshakeJoiner.isEmpty]), if_neg (by decide),
      if_neg (by decide), if_neg (by decide)])
  have hfacing : k.facing wire [] = k.extend wire.encode := by
    rw [facing, List.append_nil, extend, hlistens.deframer]
    rfl
  have hok : (k.facing wire []).process.1.isOk = true := by
    rw [hfacing, hpass.process, hsettled.process]
    rfl
  obtain ⟨halike, hother⟩ := forgeries_alike hc .refl hlistens.stage hlistens.opened hactive
  obtain ⟨hrefuses, hechoes, -⟩ := halike _ ⟨.handshake, .tls1, List.replicate 25 0⟩ [] [1] ⟨rfl, by decide⟩
    ⟨rfl, by decide⟩ hshort hcut
  refine ⟨c, _, wire, hc, hlistens.stage, hlistens.opened, hactive, hrefuses, hechoes, hok, ?_⟩
  exact hother wire [] hfits fun h => by
    rw [h.error] at hok
    cases hok

end Connection

end TlsClient
