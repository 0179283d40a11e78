import TlsClient.Proofs.Config
import TlsClient.Proofs.Connection.Soundness
import TlsClient.Proofs.Record.Deframing
import TlsClient.Proofs.Record.Rejoining
import TlsClient.Proofs.Session.Filling
import TlsClient.Proofs.Wire.Messages

/-!
# The offer on the wire

A connection begins with its hello, which is written as whole records (`Record.Parses`).  Whether it can be
read back as the offer that it was written for depends on the lengths that it announces: the suites have
two bytes for theirs, the user name has one (`ClientHello.decode_encode_iff`).  Neither is checked when a
configuration is built, so an offer that has too many suites or too long a user name is sent, and is read as
something else (`offer_read_iff`).
-/

namespace TlsClient

open HandshakeMessage (clientHello)

/-! ## Hellos -/

namespace ClientHello

variable {h : ClientHello}

/-- A hello whose lists fit is not longer than its length can say. -/
theorem length_body_lt (hfits : h.Fits) : (clientHello h).body.length < 256 ^ 3 := by
  obtain ⟨hsuites, hcompressions, -, hextensions⟩ := hfits
  have hblock : (encodeExtensions h.extensions).length ≤
      2 + (h.extensions.flatMap Wire.encode).length := by
    unfold encodeExtensions Encoder.list Encoder.vector
    split
    · exact Nat.zero_le _
    · rw [List.length_append, Bytes.length_ofNat]
  have hversion : (Wire.encode h.version).length = 2 := Bytes.length_ofNat _ _
  have hrandom : (Wire.encode h.random).length = 32 := h.random.length_eq
  have hsession : (Wire.encode h.sessionId).length = 1 + h.sessionId.bytes.length := by
    show (Encoder.vector 1 h.sessionId.bytes).length = _
    rw [Encoder.vector, List.length_append, Bytes.length_ofNat]
  have hle := h.sessionId.length_le
  have hbody : (clientHello h).body = h.front ++ encodeExtensions h.extensions := rfl
  simp only [hbody, front, Encoder.list, Encoder.vector, List.length_append, Bytes.length_ofNat, hversion,
    hrandom, hsession]
  omega

/-- A hello is read back if it fits into the lengths that it announces, and otherwise as something else or not
at all. -/
theorem decode_encode_iff :
    (Wire.decode : Decoder HandshakeMessage).run (Wire.encode (clientHello h)) =
      .ok (clientHello h, []) ↔ h.Fits := by
  rw [HandshakeMessage.decode_ok]
  constructor
  · rintro ⟨t, body, -, -, hread⟩
    exact (HandshakeMessage.decodeBody_ok.mp hread).2.1
  · intro hfits
    refine ⟨_, (clientHello h).body, ?_, length_body_lt hfits,
      HandshakeMessage.decodeBody_ok.mpr ⟨rfl, hfits, HandshakeMessage.isBody_body _⟩⟩
    rw [HandshakeMessage.encode_eq, List.append_nil]
    rfl

end ClientHello

namespace Config

variable {c : Config}

/-- The offer of a configuration, with a random of its own. -/
structure Offers (c : Config) (random : HelloRandom) (h : ClientHello) : Prop where
  version : h.version = .tls1
  random : h.random = random
  sessionId : h.sessionId.bytes = []
  suites : h.suites = c.suites.map Suite.id
  compressions : h.compressions = [.null]
  /-- If a suite needs a password the user name is there, and nothing else. -/
  withPassword : (∃ s ∈ c.suites, s.keyExchange.isSrp = true) →
    ∃ credentials, c.srp = some credentials ∧ h.extensions = [.srpIdentity credentials.identity]
  withoutPassword : (¬ ∃ s ∈ c.suites, s.keyExchange.isSrp = true) → h.extensions = []

/-- The suites and the user name fit into the lengths that announce them. -/
structure Announceable (c : Config) : Prop where
  suites : 2 * c.suites.length < 256 ^ 2
  identity : ∀ credentials ∈ c.srp, credentials.identity.length < 256

theorem offersSrp_iff : c.offersSrp = true ↔ ∃ s ∈ c.suites, s.keyExchange.isSrp = true :=
  List.any_eq_true

theorem extensions_of_some (h : c.Admitted) {credentials : SrpCredentials}
    (hsrp : c.srp = some credentials) : c.extensions = [.srpIdentity credentials.identity] := by
  have hoffers : c.offersSrp = true := by rw [h.srp, hsrp]; rfl
  rw [extensions, hoffers, hsrp]

theorem extensions_of_none (hsrp : c.srp = none) : c.extensions = [] := by
  rw [extensions, hsrp]
  cases c.offersSrp <;> rfl

theorem offers_hello (h : c.Admitted) (random : HelloRandom) : c.Offers random (c.hello random) := by
  constructor
  case version => rfl
  case random => rfl
  case sessionId => rfl
  case suites => rfl
  case compressions => rfl
  case withPassword =>
    intro hneeds
    have hsome : c.srp.isSome = true := h.srp ▸ offersSrp_iff.mpr hneeds
    obtain ⟨credentials, hsrp⟩ := Option.isSome_iff_exists.mp hsome
    exact ⟨credentials, hsrp, extensions_of_some h hsrp⟩
  case withoutPassword =>
    intro hneeds
    have hnone : c.srp = none := by
      cases hsrp : c.srp with
      | none => rfl
      | some credentials =>
        refine absurd (offersSrp_iff.mp ?_) hneeds
        rw [h.srp, hsrp]
        rfl
    exact extensions_of_none hnone

theorem length_encode_suites (suites : List CipherSuite) :
    (suites.flatMap Wire.encode).length = 2 * suites.length := by
  induction suites with
  | nil => rfl
  | cons s suites ih =>
    have hs : (Wire.encode s).length = 2 := Bytes.length_ofNat _ _
    rw [List.flatMap_cons, List.length_append, hs, ih, List.length_cons]
    omega

/-- Of all that a hello announces only the suites and the user name come from outside. -/
theorem hello_fits_iff (h : c.Admitted) (random : HelloRandom) :
    (c.hello random).Fits ↔ c.Announceable := by
  have hsuites : ((c.hello random).suites.flatMap Wire.encode).length = 2 * c.suites.length := by
    rw [length_encode_suites]
    exact congrArg (2 * ·) (List.length_map ..)
  constructor
  · rintro ⟨hs, -, hextensions, -⟩
    refine ⟨hsuites ▸ hs, fun credentials hsrp => ?_⟩
    have hmem : .srpIdentity credentials.identity ∈ (c.hello random).extensions := by
      show _ ∈ c.extensions
      rw [extensions_of_some h hsrp]
      exact List.mem_singleton_self _
    exact (hextensions _ hmem).1
  · rintro ⟨hs, hidentity⟩
    have hcompressions : ([Compression.null].flatMap Wire.encode).length < 256 ^ 1 := by decide
    refine ⟨hsuites ▸ hs, hcompressions, ?_⟩
    show (∀ x ∈ c.extensions, x.Fits) ∧ (c.extensions.flatMap Wire.encode).length < 256 ^ 2
    cases hsrp : c.srp with
    | none =>
      rw [extensions_of_none hsrp]
      exact ⟨List.forall_mem_nil _, by decide⟩
    | some credentials =>
      have hlength := hidentity credentials hsrp
      have hcontent : (ClientExtension.srpIdentity credentials.identity).content.length =
          1 + credentials.identity.length := by
        show (Encoder.vector 1 _).length = _
        rw [Encoder.vector, List.length_append, Bytes.length_ofNat]
      have htyp : (Wire.encode ExtensionType.srp).length = 2 := Bytes.length_ofNat _ _
      have hextension : (Wire.encode (ClientExtension.srpIdentity credentials.identity)).length =
          2 + (2 + (1 + credentials.identity.length)) := by
        show (Wire.encode ExtensionType.srp ++ Encoder.vector 2 _).length = _
        rw [List.length_append, htyp, Encoder.vector, List.length_append, Bytes.length_ofNat, hcontent]
      rw [extensions_of_some h hsrp, List.flatMap_singleton, hextension]
      refine ⟨fun x hx => ?_, by omega⟩
      rw [List.mem_singleton.mp hx]
      exact ⟨hlength, by rw [hcontent]; omega⟩

end Config

/-- What builds a configuration with a user name of 256 bytes. -/
def ConfigBuilder.longNamed : ConfigBuilder where
  suites := some [⟨⟨0xc01d⟩, .srp, .aes128⟩]
  verifier := .refusing .unknownIssuer
  srp := some ⟨List.replicate 256 97, [112]⟩

namespace Connection

/-- How the bytes that a connection begins with stand to the offer of its configuration. -/
structure Announces (c : Connection) (config : Config) (hello : ClientHello) (records : List Record) :
    Prop where
  /-- The connection waits for an answer to this random. -/
  waits : ∃ transcript offered, c.stage = .ok (.serverHello hello.random transcript offered)
  offers : config.Offers hello.random hello
  /-- What waits to be written is records of handshake messages, and they carry the hello. -/
  parses : Record.Parses c.session.outgoing.toBytes records
  typ : ∀ r ∈ records, r.typ = .handshake
  carries : records.flatMap Record.payload = Wire.encode (clientHello hello)
  /-- The hello is read back exactly if the suites and the user name are not too many. -/
  reads : (Wire.decode : Decoder HandshakeMessage).run (records.flatMap Record.payload) =
    .ok (clientHello hello, []) ↔ config.Announceable
  /-- If it is not too long to be joined, it comes out of the records as it was written. -/
  joins : config.Announceable → (Wire.encode hello).length ≤ HandshakeJoiner.maxBody →
    HandshakeJoiner.pushAll {} records =
      .ok { ready := [⟨.tls1, .handshake (clientHello hello) (Wire.encode (clientHello hello))⟩] }

variable {config : Config} {time : Int} {random : RandomSource} {c : Connection}

/-- What waits to be written after the start is what was put on its way. -/
theorem start_outgoing (h : Connection.start config time random = .ok c) :
    c.session.outgoing.toBytes = Session.wires c.session.sent := by
  have hfills := Stage.start_fills config time.toNat { random }
  unfold Connection.start at h
  split at h
  · next stage session hrun =>
    cases h
    rw [hrun] at hfills
    obtain ⟨rs, hsent, hbytes⟩ := hfills.bytes
    rw [hbytes, hsent]
    rfl
  · cases h

/-- A connection of a configuration that was built sends its offer. -/
theorem offer_read_iff {b : ConfigBuilder} (hb : b.build = .ok config)
    (h : Connection.start config time random = .ok c) :
    ∃ hello records, c.Announces config hello records := by
  have hadmitted := ConfigBuilder.build_admits hb
  obtain ⟨o, hello, hstarts, rfl⟩ := start_starts h
  have hoffer := hstarts.offer
  have hfits : hello.Fits ↔ o.config.Announceable := by
    rw [hoffer]
    exact Config.hello_fits_iff hadmitted _
  set records := (Message.ofHandshake (clientHello hello)).toRecord.fragments
  have hcarries : records.flatMap Record.payload = Wire.encode (clientHello hello) :=
    Record.flatMap_fragments _
  have hfragments (r : Record) (hr : r ∈ records) :
      r.typ = .handshake ∧ r.version = .tls1 ∧ r.payload.length ≤ Record.maxFragment :=
    Record.of_mem_fragments hr
  refine ⟨hello, records, ?_⟩
  constructor
  case waits => exact ⟨_, _, hstarts.stage.trans (congrArg _ hstarts.waitsFor)⟩
  case offers =>
    have hoffers := Config.offers_hello hadmitted hello.random
    exact hoffer ▸ hoffers
  case parses =>
    have hbytes : c.session.outgoing.toBytes = records.flatMap Record.encode := by
      rw [start_outgoing h, Session.sent_eq, hstarts.deeds, Message.records_log, Session.wires,
        List.flatMap_map]
    rw [hbytes]
    refine Record.parses_encode fun r hr => ?_
    obtain ⟨-, hversion, hlength⟩ := hfragments r hr
    exact ⟨hversion, hlength.trans (by decide)⟩
  case typ => exact fun r hr => (hfragments r hr).1
  case carries => exact hcarries
  case reads => rw [hcarries, ClientHello.decode_encode_iff, hfits]
  case joins =>
    intro hannounceable hbody
    exact HandshakeJoiner.pushAll_fragments .tls1
      (ClientHello.decode_encode_iff.mpr (hfits.mpr hannounceable)) hbody rfl

/-- A user name that is too long is admitted, and cannot be read back from the offer. -/
theorem offer_read_iff_longNamed : ∃ config c hello records, ConfigBuilder.longNamed.build = .ok config ∧
    Connection.start config 0 (.seeded [] 0 none) = .ok c ∧ c.Announces config hello records ∧
    (Wire.decode : Decoder HandshakeMessage).run (records.flatMap Record.payload) ≠
      .ok (clientHello hello, []) := by
  have hb : ConfigBuilder.longNamed.build =
    .ok ⟨[⟨⟨0xc01d⟩, .srp, .aes128⟩], .refusing .unknownIssuer, some ⟨List.replicate 256 97, [112]⟩, none,
      false⟩ := rfl
  obtain ⟨c, hc⟩ := start_ok ⟨[⟨⟨0xc01d⟩, .srp, .aes128⟩], .refusing .unknownIssuer,
    some ⟨List.replicate 256 97, [112]⟩, none, false⟩ 0 (rfl : (RandomSource.seeded [] 0 none).holds 28 = true)
  obtain ⟨hello, records, hannounces⟩ := offer_read_iff hb hc
  refine ⟨_, c, hello, records, hb, hc, hannounces, fun hread => ?_⟩
  have hlength := (hannounces.reads.mp hread).identity _ rfl
  rw [List.length_replicate] at hlength
  exact absurd hlength (by decide)

end Connection

end TlsClient
