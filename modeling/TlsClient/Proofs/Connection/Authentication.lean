import TlsClient.Proofs.Connection.Completing
import TlsClient.Proofs.Connection.Grounds
import TlsClient.Proofs.Stage.Checks

/-!
# Who the client answers

The client contributes to the key exchange only after everything about the server has been checked, and
with what was checked: the suite, the certified key, the signed parameters
(`contributions_authenticated`).
-/

namespace TlsClient

open Deeds (handled Justified)

/-- What has been checked before the client contributes to the key exchange, and what it contributes. -/
structure Config.Authenticates (config : Config) (hello : ClientHello) (ms : List Message)
    (contribution : Bytes) (flight : Flight) (key : Option PublicKey) (agreement : Agreement) :
    Prop where
  chosen : flight.Chosen config hello ms
  certified : flight.Certified config ms key
  params : flight.suite.keyExchange.expectsServerParams = true →
    ∃ m ∈ ms, ∃ body x, m.body = .handshake (.serverKeyExchange body)
        (Wire.encode (HandshakeMessage.serverKeyExchange (.known x))) ∧
      x.Accepted flight.suite.keyExchange flight.randoms key flight.exchange
  agreed : ∃ src src', (flight.exchange.agree key).run src = (.ok agreement, src')
  contributed : agreement.contribution = contribution
  encrypted : flight.suite.keyExchange = .rsa → ∃ certified src src', key = some (.rsa certified) ∧
    (certified.encrypt agreement.premaster).run src = (.ok contribution, src')

/-- The client's contribution to the key exchange, if a deed sends it. -/
def Event.contribution? : Event → Option Bytes
  | .sent ⟨_, .handshake (.clientKeyExchange contribution) _⟩ => some contribution
  | _ => none

theorem Event.contribution?_eq_some {e : Event} {contribution : Bytes}
    (h : e.contribution? = some contribution) :
    ∃ m encoded, e = .sent m ∧ m.body = .handshake (.clientKeyExchange contribution) encoded := by
  unfold contribution? at h
  split at h
  · cases h
    exact ⟨_, _, rfl, rfl⟩
  · cases h

namespace Connection

variable {o : Origin} {hello : ClientHello} {c : Connection} {calls : List Call}
  {before after : List Event} {m : Message}

theorem mem_handled {es : List Event} (h : m ∈ handled es) : .handled m ∈ es := by
  obtain ⟨e, he, hm⟩ := List.mem_filterMap.mp h
  cases e with
  | handled m' =>
    cases hm
    exact he
  | _ => cases hm

/-- A handshake message that was handled is what its bytes spell. -/
theorem Starts.joined (h : c.Starts o hello)
    (hdeeds : (c.run calls).session.deeds = before ++ after) (hm : m ∈ handled before)
    (htyp : m.body.typ = .handshake) : ∃ v, m.Joined v := by
  obtain ⟨es, fs, rfl⟩ := List.append_of_mem (mem_handled hm)
  rw [List.append_assoc, List.cons_append] at hdeeds
  exact (h.grounds calls es _ _ hdeeds).joined htyp

/-- Before the client contributes to the key exchange everything has been checked. -/
theorem Starts.authenticates (h : c.Starts o hello)
    (hdeeds : (c.run calls).session.deeds = before ++ after) {contribution : Bytes}
    (hagrees : o.Agrees before contribution) : ∃ flight key agreement,
      c.config.Authenticates hello (handled before) contribution flight key agreement := by
  obtain ⟨flight, key, request, m, src, agreement, src', ⟨ms, stage, encoded, hms, hm, hcourse,
    hanswers⟩, hagree, hcontribution⟩ := hagrees
  have hrelies : stage.Relies o.config hello ms := by
    apply hcourse.relies
    rw [h.waitsFor]
    exact .serverHello
  have hchecked := (hrelies.of_answers hanswers).mono (List.subset_append_left ms [m])
  rw [← hms, ← h.config] at hchecked
  refine ⟨flight, key, agreement, hchecked.chosen, hchecked.certified, fun hexpects => ?_,
    ⟨src, src', hagree⟩, hcontribution, fun hrsa => ?_⟩
  · obtain ⟨m', hm', body, encoded', x, hbody, hx, haccepted⟩ := hchecked.exchanged.params hexpects
    obtain ⟨v, hjoined⟩ := h.joined hdeeds hm' (by rw [hbody]; rfl)
    refine ⟨m', hm', body, x, ?_, haccepted⟩
    rw [hbody, hjoined.serverKeyExchange hbody hx]
  · have hexchange : flight.exchange = .rsa := hchecked.exchanged.none (by rw [hrsa]; rfl)
    rw [hexchange] at hagree
    obtain ⟨certified, src₁, hkey, hencrypt⟩ := KeyExchange.agreeRsa_ok hagree
    exact ⟨certified, src₁, src', hkey, hcontribution ▸ hencrypt⟩

variable {config : Config} {time : Int} {random : RandomSource}

/-- Whenever the client contributes to the key exchange, the server has been checked by the messages
handled before. -/
theorem contributions_authenticated (h : Connection.start config time random = .ok c)
    (calls : List Call) :
    ∃ hello, c.session.deeds = (Message.ofHandshake (.clientHello hello)).log ∧
      ∀ before m after contribution encoded,
        (c.run calls).session.deeds = before ++ .sent m :: after →
        m.body = .handshake (.clientKeyExchange contribution) encoded →
        ∃ flight key agreement,
          config.Authenticates hello (handled before) contribution flight key agreement := by
  obtain ⟨o, hello, hstarts, hconfig⟩ := start_starts h
  refine ⟨hello, hstarts.deeds, fun before m after contribution encoded hdeeds hm => ?_⟩
  have hagrees := hstarts.grounds calls before _ _ hdeeds _ _ hm
  have hc : c.config = config := hstarts.config.trans hconfig
  exact hc ▸ hstarts.authenticates hdeeds hagrees

/-- The server is checked by its hello and its certificate, and the client contributes to the key exchange. -/
theorem contributions_authenticated_closed :
    ∃ c hello before m after contribution encoded flight key agreement,
      Connection.start .acquainted 0 (.seeded [] 0 none) = .ok c ∧
      c.session.deeds = (Message.ofHandshake (.clientHello hello)).log ∧
      (c.run Call.acquaint).session.deeds = before ++ .sent m :: after ∧
      m.body = .handshake (.clientKeyExchange contribution) encoded ∧
      Config.acquainted.Authenticates hello (handled before) contribution flight key agreement := by
  obtain ⟨c, secrets, t, p, hc, -⟩ := run_acquainted
  obtain ⟨hello, hstart, hall⟩ := contributions_authenticated hc Call.acquaint
  have hcount : ((c.run Call.acquaint).session.deeds.filterMap Event.contribution?).length = 1 := by
    apply of_start hc
    decide +kernel
  obtain ⟨contribution, hone⟩ := List.length_eq_one_iff.mp hcount
  obtain ⟨before, e, after, hdeeds, -, he, -⟩ := List.filterMap_eq_cons_iff.mp hone
  obtain ⟨m, encoded, rfl, hm⟩ := Event.contribution?_eq_some he
  obtain ⟨flight, key, agreement, hauthenticates⟩ := hall before m after contribution encoded hdeeds hm
  exact ⟨c, hello, before, m, after, contribution, encoded, flight, key, agreement, hc, hstart, hdeeds, hm,
    hauthenticates⟩

end Connection

end TlsClient
