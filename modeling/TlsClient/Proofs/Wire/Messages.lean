import TlsClient.Proofs.Wire.Canonical

/-!
# Reading handshake messages back

A body is read as a message if it is written for that message (`HandshakeMessage.decodeBody_ok`), with
one exception, which is the same for both hellos: a hello without extensions is written without an
extension block, and is also read with an empty one.  So every message that fits its lengths is read
back, whatever follows it (`HandshakeMessage.decode_written`), and what was read is written again byte
by byte, but for the empty block (`HandshakeMessage.encode_of_decode`).
-/

namespace TlsClient

open Decoder

/-! ## Hellos -/

section Hellos

variable {α β : Type} [Wire α] {Fits : α → Prop} {bs rest : Bytes}

/-- A list of codes is held to its length only. -/
theorem reads_codes (κ : Type) [Registry κ] [Registry.Lawful κ] (width : Nat)
    (hne : Registry.width κ ≠ 0) :
    (list width (Registry.decode : Decoder κ)).Reads
      (fun xs => (xs.flatMap Registry.encode).length < 256 ^ width)
      (Encoder.list width Registry.encode) := by
  intro bs rest xs
  rw [reads_list width (Registry.reads_code κ) (fun x _ => Registry.encode_ne_nil hne x) bs rest xs]
  simp

/-- An extension block is the last part of a hello. -/
theorem decodeExtensions_finish_ok (hitem : (Wire.decode : Decoder α).Reads Fits Wire.encode)
    (hne : ∀ a : α, Wire.encode a ≠ []) {what : String} {f : List α → β} {b : β} :
    (decodeExtensions >>= fun xs => finish what >>= fun _ => pure (f xs)).run bs = .ok (b, rest) ↔
      ∃ xs : List α, ((∀ x ∈ xs, Fits x) ∧ (xs.flatMap Wire.encode).length < 256 ^ 2) ∧
        ExtensionBlock xs bs ∧ rest = [] ∧ b = f xs := by
  rw [bind_ok]
  constructor
  · rintro ⟨xs, mid, hxs, h⟩
    obtain ⟨_, mid', hfinish, h⟩ := bind_ok.mp h
    obtain ⟨rfl, rfl⟩ := finish_ok.mp hfinish
    cases h
    obtain ⟨hfits, hbs⟩ := (decodeExtensions_ok hitem hne).mp hxs
    exact ⟨xs, hfits, hbs, rfl, rfl⟩
  · rintro ⟨xs, hfits, hbs, rfl, rfl⟩
    exact ⟨xs, [], (decodeExtensions_ok hitem hne).mpr ⟨hfits, hbs⟩,
      bind_ok.mpr ⟨(), [], finish_ok.mpr ⟨rfl, rfl⟩, rfl⟩⟩

end Hellos

namespace ClientHello

variable {h : ClientHello} {bs rest : Bytes}

/-- The lists of a client hello fit into the lengths that announce them. -/
structure Fits (h : ClientHello) : Prop where
  suites : (h.suites.flatMap Wire.encode).length < 256 ^ 2
  compressions : (h.compressions.flatMap Wire.encode).length < 256 ^ 1
  extensions : (∀ x ∈ h.extensions, x.Fits) ∧ (h.extensions.flatMap Wire.encode).length < 256 ^ 2

/-- All that stands before the extension block. -/
def front (h : ClientHello) : Bytes :=
  Wire.encode h.version ++ Wire.encode h.random ++ Wire.encode h.sessionId
    ++ Encoder.list 2 Wire.encode h.suites ++ Encoder.list 1 Wire.encode h.compressions

theorem decode_ok :
    (Wire.decode : Decoder ClientHello).run bs = .ok (h, rest) ↔
      h.Fits ∧ rest = [] ∧ ∃ block, ExtensionBlock h.extensions block ∧ bs = h.front ++ block := by
  have hversion : (Wire.decode : Decoder ProtocolVersion).Reads (fun _ => True) Wire.encode :=
    Registry.reads_code _
  have hsuites : (list 2 (Wire.decode : Decoder CipherSuite)).Reads _ (Encoder.list 2 Wire.encode) :=
    reads_codes CipherSuite 2 (by decide)
  have hcompressions : (list 1 (Wire.decode : Decoder Compression)).Reads _
      (Encoder.list 1 Wire.encode) := reads_codes Compression 1 (by decide)
  show (Wire.decode >>= fun version : ProtocolVersion => _).run bs = _ ↔ _
  rw [hversion.bind_ok]
  simp only [HelloRandom.reads.bind_ok, SessionId.reads.bind_ok, hsuites.bind_ok,
    hcompressions.bind_ok, decodeExtensions_finish_ok ClientExtension.reads
      ClientExtension.encode_ne_nil]
  constructor
  · rintro ⟨version, _, ⟨-, rfl⟩, random, _, ⟨-, rfl⟩, sessionId, _, ⟨-, rfl⟩, suites, _,
      ⟨hs, rfl⟩, compressions, block, ⟨hc, rfl⟩, extensions, hx, hblock, rfl, rfl⟩
    exact ⟨⟨hs, hc, hx⟩, rfl, block, hblock, by simp only [front, List.append_assoc]⟩
  · rintro ⟨⟨hs, hc, hx⟩, rfl, block, hblock, rfl⟩
    exact ⟨h.version, _, ⟨trivial, by simp only [front, List.append_assoc]⟩, h.random, _,
      ⟨trivial, rfl⟩, h.sessionId, _, ⟨trivial, rfl⟩, h.suites, _, ⟨hs, rfl⟩, h.compressions, block,
      ⟨hc, rfl⟩, h.extensions, hx, hblock, rfl, rfl⟩

end ClientHello

namespace ServerHello

variable {h : ServerHello} {bs rest : Bytes}

/-- The extensions of a server hello fit into the lengths that announce them. -/
def Fits (h : ServerHello) : Prop :=
  (∀ x ∈ h.extensions, x.Fits) ∧ (h.extensions.flatMap Wire.encode).length < 256 ^ 2

/-- All that stands before the extension block. -/
def front (h : ServerHello) : Bytes :=
  Wire.encode h.version ++ Wire.encode h.random ++ Wire.encode h.sessionId ++ Wire.encode h.suite
    ++ Wire.encode h.compression

theorem decode_ok :
    (Wire.decode : Decoder ServerHello).run bs = .ok (h, rest) ↔
      h.Fits ∧ rest = [] ∧ ∃ block, ExtensionBlock h.extensions block ∧ bs = h.front ++ block := by
  have hversion : (Wire.decode : Decoder ProtocolVersion).Reads (fun _ => True) Wire.encode :=
    Registry.reads_code _
  have hsuite : (Wire.decode : Decoder CipherSuite).Reads (fun _ => True) Wire.encode :=
    Registry.reads_code _
  have hcompression : (Wire.decode : Decoder Compression).Reads (fun _ => True) Wire.encode :=
    Registry.reads_code _
  show (Wire.decode >>= fun version : ProtocolVersion => _).run bs = _ ↔ _
  rw [hversion.bind_ok]
  simp only [HelloRandom.reads.bind_ok, SessionId.reads.bind_ok, hsuite.bind_ok,
    hcompression.bind_ok, decodeExtensions_finish_ok ServerExtension.reads
      ServerExtension.encode_ne_nil]
  constructor
  · rintro ⟨version, _, ⟨-, rfl⟩, random, _, ⟨-, rfl⟩, sessionId, _, ⟨-, rfl⟩, suite, _,
      ⟨-, rfl⟩, compression, block, ⟨-, rfl⟩, extensions, hx, hblock, rfl, rfl⟩
    exact ⟨hx, rfl, block, hblock, by simp only [front, List.append_assoc]⟩
  · rintro ⟨hx, rfl, block, hblock, rfl⟩
    exact ⟨h.version, _, ⟨trivial, by simp only [front, List.append_assoc]⟩, h.random, _,
      ⟨trivial, rfl⟩, h.sessionId, _, ⟨trivial, rfl⟩, h.suite, _, ⟨trivial, rfl⟩, h.compression,
      block, ⟨trivial, rfl⟩, h.extensions, hx, hblock, rfl, rfl⟩

end ServerHello

/-! ## Bodies of one part -/

theorem Decoder.rest_ok {bs a : Bytes} : Decoder.rest.run bs = .ok (a, []) ↔ bs = a := by
  show Except.ok (bs, []) = _ ↔ _
  simp

/-- Read to the end. -/
theorem Decoder.Reads.exact {α : Type} {d : Decoder α} {Fits : α → Prop} {encode : α → Bytes}
    (hd : d.Reads Fits encode) {bs : Bytes} {a : α} :
    d.run bs = .ok (a, []) ↔ Fits a ∧ bs = encode a := by
  rw [hd bs [] a, List.append_nil]

theorem Certificate.reads :
    (Wire.decode : Decoder Certificate).Reads (fun c => c.bytes.length < 256 ^ 3) Wire.encode :=
  (reads_vector 3).map (fun _ h => ⟨h, rfl⟩) fun c h => ⟨c.bytes, h, rfl⟩

theorem DistinguishedName.reads :
    (Wire.decode : Decoder DistinguishedName).Reads (fun n => n.bytes.length < 256 ^ 2)
      Wire.encode :=
  (reads_vector 2).map (fun _ h => ⟨h, rfl⟩) fun n h => ⟨n.bytes, h, rfl⟩

theorem Encoder.vector_ne_nil {width : Nat} (h : width ≠ 0) (bs : Bytes) :
    Encoder.vector width bs ≠ [] := by
  intro hnil
  have := congrArg List.length hnil
  rw [Encoder.vector, List.length_append, Bytes.length_ofNat, List.length_nil] at this
  omega

/-- The certificates of a chain, one by one and together, are short enough to be accepted. -/
def Certificate.FitChain (chain : List Certificate) : Prop :=
  (∀ c ∈ chain, c.bytes.length < 256 ^ 3) ∧
    (chain.flatMap Wire.encode).length ≤ maxChainBytes

theorem Certificate.reads_chain : decodeChain.Reads FitChain encodeChain :=
  reads_limitedList (by decide) Certificate.reads fun c _ =>
    Encoder.vector_ne_nil (by decide) c.bytes

/-- The lists of a certificate request fit into the lengths that announce them. -/
structure CertificateRequest.Fits (r : CertificateRequest) : Prop where
  types : (r.types.flatMap Wire.encode).length < 256 ^ 1
  authority : ∀ n ∈ r.authorities, n.bytes.length < 256 ^ 2
  authorities : (r.authorities.flatMap Wire.encode).length < 256 ^ 2

theorem CertificateRequest.reads :
    (Wire.decode : Decoder CertificateRequest).Reads Fits Wire.encode := by
  have htypes : (list 1 (Wire.decode : Decoder ClientCertificateType)).Reads _
      (Encoder.list 1 Wire.encode) := reads_codes ClientCertificateType 1 (by decide)
  have hauthorities := reads_list 2 DistinguishedName.reads fun n _ =>
    Encoder.vector_ne_nil (by decide : 2 ≠ 0) n.bytes
  intro bs rest r
  show (list 1 (Wire.decode : Decoder ClientCertificateType) >>= fun types =>
    list 2 (Wire.decode : Decoder DistinguishedName) >>= fun authorities =>
      pure (⟨types, authorities⟩ : CertificateRequest)).run bs = _ ↔ _
  rw [htypes.bind_ok]
  simp only [hauthorities.bind_ok]
  constructor
  · rintro ⟨types, _, ⟨ht, rfl⟩, authorities, _, ⟨⟨ha, hl⟩, rfl⟩, h⟩
    cases h
    exact ⟨⟨ht, ha, hl⟩, (List.append_assoc _ _ _).symm⟩
  · rintro ⟨⟨ht, ha, hl⟩, rfl⟩
    exact ⟨r.types, _, ⟨ht, List.append_assoc _ _ _⟩, r.authorities, rest, ⟨⟨ha, hl⟩, rfl⟩, rfl⟩

/-! ## Messages -/

/-- The ten types that have a name. -/
theorem HandshakeType.name?_eq_none {typ : HandshakeType} :
    Registry.name? typ = none ↔ typ ∉ [helloRequest, clientHello, serverHello, certificate,
      serverKeyExchange, certificateRequest, serverHelloDone, certificateVerify, clientKeyExchange,
      finished] := by
  obtain ⟨code⟩ := typ
  rw [Registry.name?, List.lookup_eq_none_iff]
  simp [Registry.names, Registry.code, helloRequest, clientHello, serverHello, certificate,
    serverKeyExchange, certificateRequest, serverHelloDone, certificateVerify, clientKeyExchange,
    finished, ← UInt8.toNat_inj]

namespace HandshakeMessage

variable {m : HandshakeMessage} {typ : HandshakeType} {bs rest : Bytes}

/-- The parts of a message fit into the lengths that announce them, the parameters of the server are
not interpreted yet, and only a type without a name has a body of unknown meaning. -/
def Fits : HandshakeMessage → Prop
  | helloRequest | serverHelloDone | finished _ | serverKeyExchange (.raw _) => True
  | clientHello h => h.Fits
  | serverHello h => h.Fits
  | certificate chain => Certificate.FitChain chain
  | serverKeyExchange (.known _) => False
  | certificateRequest r => r.Fits
  | certificateVerify signature => signature.length < 256 ^ 2
  | clientKeyExchange contribution => contribution.length < 256 ^ 2
  | unknown typ _ => Registry.name? typ = none

/-- The bodies that a message is read from. -/
def IsBody : HandshakeMessage → Bytes → Prop
  | clientHello h, bs => ∃ block, ExtensionBlock h.extensions block ∧ bs = h.front ++ block
  | serverHello h, bs => ∃ block, ExtensionBlock h.extensions block ∧ bs = h.front ++ block
  | m, bs => bs = m.body

theorem isBody_body (m : HandshakeMessage) : m.IsBody m.body := by
  cases m with
  | clientHello h => exact ⟨_, .inl rfl, rfl⟩
  | serverHello h => exact ⟨_, .inl rfl, rfl⟩
  | _ => rfl

/-- A message that is read has the type it is read as, fits, and stands for the whole body. -/
theorem of_decodeBody (h : (decodeBody typ).run bs = .ok (m, [])) :
    m.typ = typ ∧ m.Fits ∧ m.IsBody bs := by
  unfold decodeBody at h
  -- the types are tested one after the other, so what fits none of them has no name
  rcases ite_ok h with ⟨rfl, h⟩ | ⟨h₁, h⟩
  · cases h
    exact ⟨rfl, trivial, rfl⟩
  rcases ite_ok h with ⟨rfl, h⟩ | ⟨h₂, h⟩
  · obtain ⟨hello, hread, rfl⟩ := map_ok.mp h
    obtain ⟨hfits, -, hbody⟩ := ClientHello.decode_ok.mp hread
    exact ⟨rfl, hfits, hbody⟩
  rcases ite_ok h with ⟨rfl, h⟩ | ⟨h₃, h⟩
  · obtain ⟨hello, hread, rfl⟩ := map_ok.mp h
    obtain ⟨hfits, -, hbody⟩ := ServerHello.decode_ok.mp hread
    exact ⟨rfl, hfits, hbody⟩
  rcases ite_ok h with ⟨rfl, h⟩ | ⟨h₄, h⟩
  · obtain ⟨chain, hread, rfl⟩ := map_ok.mp h
    obtain ⟨hfits, hbody⟩ := Certificate.reads_chain.exact.mp hread
    exact ⟨rfl, hfits, hbody⟩
  rcases ite_ok h with ⟨rfl, h⟩ | ⟨h₅, h⟩
  · obtain ⟨body, hread, rfl⟩ := map_ok.mp h
    obtain ⟨bytes, hraw, rfl⟩ := map_ok.mp hread
    exact ⟨rfl, trivial, rest_ok.mp hraw⟩
  rcases ite_ok h with ⟨rfl, h⟩ | ⟨h₆, h⟩
  · obtain ⟨request, hread, rfl⟩ := map_ok.mp h
    obtain ⟨hfits, hbody⟩ := CertificateRequest.reads.exact.mp hread
    exact ⟨rfl, hfits, hbody⟩
  rcases ite_ok h with ⟨rfl, h⟩ | ⟨h₇, h⟩
  · cases h
    exact ⟨rfl, trivial, rfl⟩
  rcases ite_ok h with ⟨rfl, h⟩ | ⟨h₈, h⟩
  · obtain ⟨signature, hread, rfl⟩ := map_ok.mp h
    obtain ⟨hfits, hbody⟩ := (reads_vector 2).exact.mp hread
    exact ⟨rfl, hfits, hbody⟩
  rcases ite_ok h with ⟨rfl, h⟩ | ⟨h₉, h⟩
  · obtain ⟨contribution, hread, rfl⟩ := map_ok.mp h
    obtain ⟨hfits, hbody⟩ := (reads_vector 2).exact.mp hread
    exact ⟨rfl, hfits, hbody⟩
  rcases ite_ok h with ⟨rfl, h⟩ | ⟨h₁₀, h⟩
  · obtain ⟨verifyData, hread, rfl⟩ := map_ok.mp h
    exact ⟨rfl, trivial, rest_ok.mp hread⟩
  · obtain ⟨body, hread, rfl⟩ := map_ok.mp h
    refine ⟨rfl, HandshakeType.name?_eq_none.mpr ?_, rest_ok.mp hread⟩
    simp [*]

theorem IsBody.decodeBody (hfits : m.Fits) (hbody : m.IsBody bs) :
    (decodeBody m.typ).run bs = .ok (m, []) := by
  cases m with
  | helloRequest => exact congrArg (fun bs => Except.ok (_, bs)) hbody
  | clientHello hello =>
    exact map_ok.mpr ⟨hello, ClientHello.decode_ok.mpr ⟨hfits, rfl, hbody⟩, rfl⟩
  | serverHello hello =>
    exact map_ok.mpr ⟨hello, ServerHello.decode_ok.mpr ⟨hfits, rfl, hbody⟩, rfl⟩
  | certificate chain =>
    exact map_ok.mpr ⟨chain, Certificate.reads_chain.exact.mpr ⟨hfits, hbody⟩, rfl⟩
  | serverKeyExchange body =>
    cases body with
    | known x => exact hfits.elim
    | raw bytes =>
      exact map_ok.mpr ⟨_, map_ok.mpr ⟨bytes, rest_ok.mpr hbody, rfl⟩, rfl⟩
  | certificateRequest request =>
    exact map_ok.mpr ⟨request, CertificateRequest.reads.exact.mpr ⟨hfits, hbody⟩, rfl⟩
  | serverHelloDone => exact congrArg (fun bs => Except.ok (_, bs)) hbody
  | certificateVerify signature =>
    exact map_ok.mpr ⟨signature, (reads_vector 2).exact.mpr ⟨hfits, hbody⟩, rfl⟩
  | clientKeyExchange contribution =>
    exact map_ok.mpr ⟨contribution, (reads_vector 2).exact.mpr ⟨hfits, hbody⟩, rfl⟩
  | finished verifyData =>
    exact map_ok.mpr ⟨verifyData, rest_ok.mpr hbody, rfl⟩
  | unknown typ body =>
    have hnamed := HandshakeType.name?_eq_none.mp hfits
    simp only [List.mem_cons, List.not_mem_nil, or_false, not_or] at hnamed
    show (decodeBody typ).run bs = _
    simp only [decodeBody, hnamed, if_false]
    exact map_ok.mpr ⟨body, rest_ok.mpr hbody, rfl⟩

theorem decodeBody_ok :
    (decodeBody typ).run bs = .ok (m, []) ↔ m.typ = typ ∧ m.Fits ∧ m.IsBody bs :=
  ⟨of_decodeBody, by
    rintro ⟨rfl, hfits, hbody⟩
    exact hbody.decodeBody hfits⟩

theorem encode_eq (m : HandshakeMessage) :
    Wire.encode m = m.typ.code :: Encoder.vector 3 m.body := by
  have htyp : Wire.encode m.typ = [m.typ.code] := by
    simp [Wire.encode, Registry.encode, Registry.width, Registry.code, Bytes.ofNat]
  show Wire.encode m.typ ++ Encoder.vector 3 m.body = _
  rw [htyp, List.singleton_append]

/-- What is written is read back, whatever follows it. -/
theorem decode_written (hfits : m.Fits) (hlength : m.body.length < 256 ^ 3) (rest : Bytes) :
    (Wire.decode : Decoder HandshakeMessage).run (Wire.encode m ++ rest) = .ok (m, rest) := by
  have hbody : (decodeBody m.typ).run m.body = .ok (m, []) :=
    decodeBody_ok.mpr ⟨rfl, hfits, m.isBody_body⟩
  refine decode_ok.mpr ⟨m.typ.code, m.body, ?_, hlength, hbody⟩
  rw [encode_eq, List.cons_append]

theorem decode_written_hello :
    (clientHello ⟨.tls1, .zero, .empty, [⟨0x2f⟩], [⟨0⟩],
      [.srpIdentity [0x61], .raw ⟨⟨0xff01⟩, [0]⟩]⟩).Fits ∧
    (Wire.decode : Decoder HandshakeMessage).run
        (Wire.encode (clientHello ⟨.tls1, .zero, .empty, [⟨0x2f⟩], [⟨0⟩],
          [.srpIdentity [0x61], .raw ⟨⟨0xff01⟩, [0]⟩]⟩) ++ [14]) =
      .ok (clientHello ⟨.tls1, .zero, .empty, [⟨0x2f⟩], [⟨0⟩],
        [.srpIdentity [0x61], .raw ⟨⟨0xff01⟩, [0]⟩]⟩, [14]) := by
  have hfits : (clientHello ⟨.tls1, .zero, .empty, [⟨0x2f⟩], [⟨0⟩],
      [.srpIdentity [0x61], .raw ⟨⟨0xff01⟩, [0]⟩]⟩).Fits :=
    ⟨by decide, by decide, by decide, by decide⟩
  exact ⟨hfits, decode_written hfits (by decide) [14]⟩

end HandshakeMessage

/-! ## The empty block -/

/-- The form of a hello without an extension block. -/
inductive BareHello : HandshakeType → Bytes → Prop
  | client {version random sessionId suites compressions : Bytes} (hversion : version.length = 2)
      (hrandom : random.length = 32) (hsessionId : sessionId.length < 256 ^ 1)
      (hsuites : suites.length < 256 ^ 2) (hcompressions : compressions.length < 256 ^ 1) :
      BareHello .clientHello (version ++ random ++ Encoder.vector 1 sessionId
        ++ Encoder.vector 2 suites ++ Encoder.vector 1 compressions)
  | server {version random sessionId suite compression : Bytes} (hversion : version.length = 2)
      (hrandom : random.length = 32) (hsessionId : sessionId.length < 256 ^ 1)
      (hsuite : suite.length = 2) (hcompression : compression.length = 1) :
      BareHello .serverHello (version ++ random ++ Encoder.vector 1 sessionId ++ suite
        ++ compression)

/-- A vector shows where it ends. -/
theorem Encoder.vector_append_inj {width : Nat} {a b r s : Bytes} (ha : a.length < 256 ^ width)
    (hb : b.length < 256 ^ width)
    (h : Encoder.vector width a ++ r = Encoder.vector width b ++ s) : a = b ∧ r = s := by
  have hread : (Decoder.vector width).run (Encoder.vector width a ++ r) = .ok (a, r) := vector_ok.mpr ⟨ha, rfl⟩
  rw [vector_ok.mpr ⟨hb, h⟩] at hread
  cases hread
  exact ⟨rfl, rfl⟩

namespace BareHello

variable {typ : HandshakeType} {front front' : Bytes}

/-- A hello shows where its extension block begins. -/
theorem append_inj (h : BareHello typ front) (h' : BareHello typ front') {block block' : Bytes}
    (heq : front ++ block = front' ++ block') : front = front' ∧ block = block' := by
  cases h with
  | client hv hr hi hs hc =>
    generalize htyp : HandshakeType.clientHello = typ at h'
    cases h' with
    | server => cases htyp
    | client hv' hr' hi' hs' hc' =>
      simp only [List.append_assoc] at heq
      obtain ⟨rfl, h₁⟩ := List.append_inj heq (hv.trans hv'.symm)
      obtain ⟨rfl, h₂⟩ := List.append_inj h₁ (hr.trans hr'.symm)
      obtain ⟨rfl, h₃⟩ := Encoder.vector_append_inj hi hi' h₂
      obtain ⟨rfl, h₄⟩ := Encoder.vector_append_inj hs hs' h₃
      obtain ⟨rfl, hblock⟩ := Encoder.vector_append_inj hc hc' h₄
      exact ⟨rfl, hblock⟩
  | server hv hr hi hs hc =>
    generalize htyp : HandshakeType.serverHello = typ at h'
    cases h' with
    | client => cases htyp
    | server hv' hr' hi' hs' hc' =>
      simp only [List.append_assoc] at heq
      obtain ⟨rfl, h₁⟩ := List.append_inj heq (hv.trans hv'.symm)
      obtain ⟨rfl, h₂⟩ := List.append_inj h₁ (hr.trans hr'.symm)
      obtain ⟨rfl, h₃⟩ := Encoder.vector_append_inj hi hi' h₂
      obtain ⟨rfl, h₄⟩ := List.append_inj h₃ (hs.trans hs'.symm)
      obtain ⟨rfl, hblock⟩ := List.append_inj h₄ (hc.trans hc'.symm)
      exact ⟨rfl, hblock⟩

theorem typ_eq (h : BareHello typ front) : typ = .clientHello ∨ typ = .serverHello := by
  cases h with
  | client => exact .inl rfl
  | server => exact .inr rfl

/-- A hello with a written block is not one with an empty block. -/
theorem ne_append {α : Type} [Wire α] {xs : List α} (hne : ∀ a : α, Wire.encode a ≠ [])
    (h : BareHello typ front) (front' : Bytes) (h' : BareHello typ front') :
    front ++ encodeExtensions xs ≠ front' ++ [0, 0] :=
  fun heq => encodeExtensions_ne hne (h.append_inj h' heq).2

end BareHello

theorem ClientHello.Fits.bareHello {h : ClientHello} (hfits : h.Fits) :
    BareHello .clientHello h.front :=
  .client (Bytes.length_ofNat _ _) h.random.length_eq (by have := h.sessionId.length_le; omega)
    hfits.suites hfits.compressions

theorem ServerHello.bareHello (h : ServerHello) : BareHello .serverHello h.front :=
  .server (Bytes.length_ofNat _ _) h.random.length_eq (by have := h.sessionId.length_le; omega)
    (Bytes.length_ofNat _ _) (Bytes.length_ofNat _ _)

namespace HandshakeMessage

variable {m : HandshakeMessage} {t : UInt8} {bs rest body front : Bytes}

/-- A message is read from its own body, or from its own body and an empty extension block. -/
theorem IsBody.cases (hfits : m.Fits) (hbody : m.IsBody body) :
    (body = m.body ∧ ∀ front, BareHello m.typ front → body ≠ front ++ [0, 0]) ∨
      BareHello m.typ m.body ∧ body = m.body ++ [0, 0] := by
  have hplain : m.typ ≠ .clientHello → m.typ ≠ .serverHello → body = m.body →
      body = m.body ∧ ∀ front, BareHello m.typ front → body ≠ front ++ [0, 0] :=
    fun hc hs hbody => ⟨hbody, fun front hfront => absurd hfront.typ_eq (not_or_intro hc hs)⟩
  cases m with
  | clientHello h =>
    obtain ⟨block, rfl | ⟨hnone, rfl⟩, rfl⟩ := hbody
    · exact .inl ⟨rfl, hfits.bareHello.ne_append ClientExtension.encode_ne_nil⟩
    · have hfront : (clientHello h).body = h.front := by
        show h.front ++ encodeExtensions h.extensions = h.front
        rw [hnone]
        exact List.append_nil _
      exact .inr ⟨hfront ▸ hfits.bareHello, hfront ▸ rfl⟩
  | serverHello h =>
    obtain ⟨block, rfl | ⟨hnone, rfl⟩, rfl⟩ := hbody
    · exact .inl ⟨rfl, h.bareHello.ne_append ServerExtension.encode_ne_nil⟩
    · have hfront : (serverHello h).body = h.front := by
        show h.front ++ encodeExtensions h.extensions = h.front
        rw [hnone]
        exact List.append_nil _
      exact .inr ⟨hfront ▸ h.bareHello, hfront ▸ rfl⟩
  | unknown typ b =>
    have hnamed := HandshakeType.name?_eq_none.mp hfits
    simp only [List.mem_cons, List.not_mem_nil, or_false, not_or] at hnamed
    exact .inl (hplain hnamed.2.1 hnamed.2.2.1 hbody)
  | _ => exact .inl (hplain (of_decide_eq_false rfl) (of_decide_eq_false rfl) hbody)

/-- How a message stands to the type and the body that it was read from. -/
structure ReadFrom (m : HandshakeMessage) (t : UInt8) (body : Bytes) : Prop where
  length : body.length < 256 ^ 3
  typ : m.typ = ⟨t⟩
  unknown : (∃ b, m = unknown ⟨t⟩ b) ↔ Registry.name? (⟨t⟩ : HandshakeType) = none
  /-- An empty extension block is not written. -/
  empty_block : ∀ front, BareHello ⟨t⟩ front → body = front ++ [0, 0] →
    Wire.encode m = t :: Encoder.vector 3 front
  /-- Everything else is written as it was. -/
  same : (∀ front, BareHello ⟨t⟩ front → body ≠ front ++ [0, 0]) →
    Wire.encode m = t :: Encoder.vector 3 body

/-- What was read is written again as it was, but for an empty extension block. -/
theorem encode_of_decode
    (h : (Wire.decode : Decoder HandshakeMessage).run bs = .ok (m, rest)) :
    ∃ t body, bs = t :: (Encoder.vector 3 body ++ rest) ∧ ReadFrom m t body := by
  obtain ⟨t, body, hbs, hlength, hread⟩ := decode_ok.mp h
  obtain ⟨htyp, hfits, hbody⟩ := decodeBody_ok.mp hread
  have hunknown : (∃ b, m = unknown ⟨t⟩ b) ↔ Registry.name? (⟨t⟩ : HandshakeType) = none := by
    constructor
    · rintro ⟨b, rfl⟩
      exact hfits
    · intro hnone
      rw [← htyp] at hnone ⊢
      cases m with
      | unknown typ b => exact ⟨b, rfl⟩
      | _ => cases hnone
  have hencode : Wire.encode m = t :: Encoder.vector 3 m.body := by rw [encode_eq, htyp]
  refine ⟨t, body, hbs, ?_⟩
  rcases hbody.cases hfits with ⟨rfl, hne⟩ | ⟨hbare, rfl⟩
  · rw [htyp] at hne
    exact ⟨hlength, htyp, hunknown, fun front hfront heq => absurd heq (hne front hfront),
      fun _ => hencode⟩
  · rw [htyp] at hbare
    refine ⟨hlength, htyp, hunknown, fun front hfront heq => ?_, fun hne => absurd rfl (hne _ hbare)⟩
    rw [hencode, (hbare.append_inj hfront heq).1]

theorem encode_of_decode_emptyBlock :
    (Wire.decode : Decoder HandshakeMessage).run ([1, 0, 0, 43, 3, 1] ++ List.replicate 32 0
        ++ [0, 0, 2, 0, 0x2f, 1, 0, 0, 0, 14]) =
      .ok (clientHello ⟨.tls1, .zero, .empty, [⟨0x2f⟩], [⟨0⟩], []⟩, [14]) ∧
    ∃ t body, [1, 0, 0, 43, 3, 1] ++ List.replicate 32 0 ++ [0, 0, 2, 0, 0x2f, 1, 0, 0, 0, 14] =
        t :: (Encoder.vector 3 body ++ [14]) ∧
      ReadFrom (clientHello ⟨.tls1, .zero, .empty, [⟨0x2f⟩], [⟨0⟩], []⟩) t body := by
  have hread : (Wire.decode : Decoder HandshakeMessage).run ([1, 0, 0, 43, 3, 1]
      ++ List.replicate 32 0 ++ [0, 0, 2, 0, 0x2f, 1, 0, 0, 0, 14]) =
      .ok (clientHello ⟨.tls1, .zero, .empty, [⟨0x2f⟩], [⟨0⟩], []⟩, [14]) :=
    decode_ok.mpr ⟨1, [3, 1] ++ List.replicate 32 0 ++ [0, 0, 2, 0, 0x2f, 1, 0, 0, 0], rfl,
      by decide, decodeBody_ok.mpr ⟨rfl, ⟨by decide, by decide, by decide, by decide⟩, [0, 0],
        .inr ⟨rfl, rfl⟩, rfl⟩⟩
  exact ⟨hread, encode_of_decode hread⟩

end HandshakeMessage

end TlsClient
