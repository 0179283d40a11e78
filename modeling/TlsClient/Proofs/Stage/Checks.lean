import TlsClient.Proofs.KeyExchange.Accepting
import TlsClient.Proofs.Record.Joining
import TlsClient.Proofs.Stage.Course

/-!
# What a stage relies on

Each stage goes on from what the stages before it have checked: the choice in the server's hello, the
key in its certificate, its parameters and their signature.  `Stage.Relies` collects this along a
course, so that all of it is there when the client answers.
-/

namespace TlsClient

/-! ## Checks that succeed -/

/-- A hello that was accepted keeps to what was offered. -/
structure Config.Agrees (c : Config) (offered : List ExtensionType) (h : ServerHello)
    (suite : Suite) : Prop where
  version : h.version = .tls1
  offers : suite ∈ c.suites
  chosen : suite.id = h.suite
  compression : h.compression = .null
  extensions : ∀ x ∈ h.extensions, x.typ ∈ offered

/-- A chain that the verifier accepts, with a key that may be used for the exchange. -/
structure Config.Certifies (c : Config) (method : KeyExchangeMethod) (chain : List Certificate)
    (key : PublicKey) : Prop where
  nonempty : chain ≠ []
  accepted : ∃ usage, c.verifier.verify chain = .ok ⟨key, usage⟩ ∧
    ∀ u, usage = some u → method.permittedBy u = true
  algorithm : method.certificateKey = some key.algorithm

/-- Parameters that were accepted, and the exchange that goes on with them. -/
structure ServerKeyExchange.Accepted (x : ServerKeyExchange) (method : KeyExchangeMethod)
    (randoms : Randoms) (key : Option PublicKey) (k : KeyExchange) : Prop where
  safe :
    (∃ params, x.params = .dh params ∧ (DhGroup.ofParams params).isSafe = true ∧
      k = .dhe method (some (.ofParams params))) ∨
    ∃ params credentials, x.params = .srp params ∧ (SrpGroup.ofParams params).isSafe = true ∧
      k = .srp method credentials (some (.ofParams params))
  signed : method.isSigned = true → ∃ signature certified, x.signature = some signature ∧
    key = some certified ∧
    certified.verifies (randoms.client.bytes ++ randoms.server.bytes ++ x.params.encode) signature
      = true

theorem Config.checkHello_ok {c : Config} {offered : List ExtensionType} {h : ServerHello}
    {suite : Suite} (hc : c.checkHello offered h = .ok suite) : c.Agrees offered h suite := by
  unfold checkHello at hc
  split at hc
  · cases hc
  · next hversion =>
    split at hc
    · cases hc
    · next found hfound =>
      split at hc
      · cases hc
      · next hcompression =>
        split at hc
        · cases hc
        · next hextensions =>
          cases hc
          refine ⟨not_not.mp hversion, List.mem_of_find?_eq_some hfound,
            by simpa using List.find?_some hfound, not_not.mp hcompression, fun x hx => ?_⟩
          by_contra hnot
          exact hextensions (List.any_eq_true.mpr ⟨x, hx, by simpa using hnot⟩)

theorem Config.checkChain_ok {c : Config} {method : KeyExchangeMethod} {chain : List Certificate}
    {key : PublicKey} (hc : c.checkChain method chain = .ok key) : c.Certifies method chain key := by
  unfold checkChain at hc
  split at hc
  · cases hc
  · next hchain =>
    split at hc
    · cases hc
    · next certified hverify =>
      split at hc
      · cases hc
      · next halgorithm =>
        split at hc
        · cases hc
        · next husage =>
          cases hc
          refine ⟨by simpa using hchain, ⟨certified.usage, hverify, fun u hu => ?_⟩,
            not_not.mp halgorithm⟩
          rw [hu] at husage
          simpa using husage

namespace KeyExchange

theorem checkSignature_ok {method : KeyExchangeMethod} {x : ServerKeyExchange} {randoms : Randoms}
    {key : Option PublicKey} {u : Unit} (h : checkSignature method x randoms key = .ok u)
    (hsigned : method.isSigned = true) : ∃ signature certified, x.signature = some signature ∧
      key = some certified ∧
      certified.verifies (randoms.client.bytes ++ randoms.server.bytes ++ x.params.encode) signature
        = true := by
  obtain ⟨signature, certified, hsignature, hkey, -, hverifies⟩ := checkSignature_ok_iff.mp h hsigned
  exact ⟨signature, certified, hsignature, hkey, hverifies⟩

/-- Guards one after another: what goes on has passed both. -/
theorem guards_ok {safe : Bool} {check : Except KeyExchangeError Unit} {k k' : KeyExchange}
    (h : (do
      if !safe then throw .illegalParameter
      check
      return k : Except KeyExchangeError KeyExchange) = .ok k') :
    safe = true ∧ check = .ok () ∧ k' = k := by
  cases safe with
  | false => cases h
  | true =>
    cases check with
    | error e => cases h
    | ok u =>
      cases h
      exact ⟨rfl, rfl, rfl⟩

/-- An exchange that was just started accepts parameters of its own kind, if they are safe and
signed. -/
theorem accept_ok {method : KeyExchangeMethod} {credentials : Option SrpCredentials}
    {x : ServerKeyExchange} {randoms : Randoms} {key : Option PublicKey} {k k' : KeyExchange}
    (hstart : start method credentials = .ok k) (h : k.accept x randoms key = .ok k') :
    x.Accepted method randoms key k' := by
  cases hexpects : method.expectsServerParams with
  | false =>
    obtain rfl := start_rsa hstart hexpects
    cases h
  | true =>
    rcases start_expects hstart hexpects with ⟨-, rfl⟩ | ⟨-, c, rfl⟩
    · simp only [accept] at h
      cases hparams : x.params with
      | dh params =>
        simp only [hparams] at h
        obtain ⟨hsafe, hcheck, rfl⟩ := guards_ok h
        exact ⟨.inl ⟨params, hparams, hsafe, rfl⟩, checkSignature_ok hcheck⟩
      | srp params =>
        simp only [hparams] at h
        cases h
    · simp only [accept] at h
      cases hparams : x.params with
      | dh params =>
        simp only [hparams] at h
        cases h
      | srp params =>
        simp only [hparams] at h
        obtain ⟨hsafe, hcheck, rfl⟩ := guards_ok h
        exact ⟨.inr ⟨params, c, hparams, hsafe, rfl⟩, checkSignature_ok hcheck⟩

end KeyExchange

/-! ## What is agreed on -/

theorem Drawing.bind_ok {α β : Type} {x : Drawing α} {f : α → Drawing β} {src src' : RandomSource}
    {b : β} (h : (x >>= f).run src = (.ok b, src')) :
    ∃ a src₁, x.run src = (.ok a, src₁) ∧ (f a).run src₁ = (.ok b, src') := by
  change ExceptT.bindCont (m := StateM RandomSource) f (x.run src).1 (x.run src).2 = _ at h
  rcases hx : x.run src with ⟨e | a, src₁⟩
  · rw [hx] at h
    cases (Prod.mk.inj h).1
  · rw [hx] at h
    exact ⟨a, src₁, rfl, h⟩

/-- The secret of an RSA exchange is encrypted under the server's certified key. -/
theorem KeyExchange.agreeRsa_ok {key : Option PublicKey} {src src' : RandomSource}
    {agreement : Agreement} (h : (agreeRsa key).run src = (.ok agreement, src')) :
    ∃ certified src₁, key = some (.rsa certified) ∧
      (certified.encrypt agreement.premaster).run src₁ = (.ok agreement.contribution, src') := by
  unfold agreeRsa at h
  split at h
  · next certified =>
    obtain ⟨drawn, src₁, -, h₁⟩ := Drawing.bind_ok h
    dsimp only at h₁
    split at h₁
    · cases (Prod.mk.inj h₁).1
    · obtain ⟨contribution, src₂, hencrypt, h₂⟩ := Drawing.bind_ok h₁
      cases h₂
      exact ⟨certified, src₁, rfl, hencrypt⟩
  · cases (Prod.mk.inj h).1

/-! ## Parameters as they arrived -/

theorem DhParams.decode_ok {bs rest : Bytes} {d : DhParams}
    (h : (Wire.decode : Decoder DhParams).run bs = .ok (d, rest)) : bs = Wire.encode d ++ rest := by
  obtain ⟨p, _, hp, h⟩ := Decoder.bind_ok.mp h
  obtain ⟨g, _, hg, h⟩ := Decoder.bind_ok.mp h
  obtain ⟨share, _, hshare, h⟩ := Decoder.bind_ok.mp h
  cases h
  obtain ⟨-, rfl⟩ := Decoder.vector_ok.mp hp
  obtain ⟨-, rfl⟩ := Decoder.vector_ok.mp hg
  obtain ⟨-, rfl⟩ := Decoder.vector_ok.mp hshare
  simp [Wire.encode]

theorem SrpParams.decode_ok {bs rest : Bytes} {p : SrpParams}
    (h : (Wire.decode : Decoder SrpParams).run bs = .ok (p, rest)) : bs = Wire.encode p ++ rest := by
  obtain ⟨n, _, hn, h⟩ := Decoder.bind_ok.mp h
  obtain ⟨g, _, hg, h⟩ := Decoder.bind_ok.mp h
  obtain ⟨salt, _, hsalt, h⟩ := Decoder.bind_ok.mp h
  obtain ⟨share, _, hshare, h⟩ := Decoder.bind_ok.mp h
  cases h
  obtain ⟨-, rfl⟩ := Decoder.vector_ok.mp hn
  obtain ⟨-, rfl⟩ := Decoder.vector_ok.mp hg
  obtain ⟨-, rfl⟩ := Decoder.vector_ok.mp hsalt
  obtain ⟨-, rfl⟩ := Decoder.vector_ok.mp hshare
  simp [Wire.encode]

theorem ServerParams.decode_ok {method : KeyExchangeMethod} {bs rest : Bytes} {p : ServerParams}
    (h : (ServerParams.decode method).run bs = .ok (p, rest)) : bs = p.encode ++ rest := by
  have hdh : (ServerParams.dh <$> (Wire.decode : Decoder DhParams)).run bs = .ok (p, rest) →
      bs = p.encode ++ rest := by
    intro h
    obtain ⟨d, hd, rfl⟩ := Decoder.map_ok.mp h
    exact DhParams.decode_ok hd
  have hsrp : (ServerParams.srp <$> (Wire.decode : Decoder SrpParams)).run bs = .ok (p, rest) →
      bs = p.encode ++ rest := by
    intro h
    obtain ⟨d, hd, rfl⟩ := Decoder.map_ok.mp h
    exact SrpParams.decode_ok hd
  cases method with
  | rsa => cases h
  | dheRsa => exact hdh h
  | dheDss => exact hdh h
  | srp => exact hsrp h
  | srpRsa => exact hsrp h
  | srpDss => exact hsrp h

theorem ServerKeyExchange.decode_ok {method : KeyExchangeMethod} {bs rest : Bytes}
    {x : ServerKeyExchange} (h : (ServerKeyExchange.decode method).run bs = .ok (x, rest)) :
    bs = x.encode ++ rest := by
  obtain ⟨params, mid, hparams, hrest⟩ := Decoder.bind_ok.mp h
  rw [ServerParams.decode_ok hparams]
  dsimp only at hrest
  split at hrest
  · obtain ⟨signature, mid', hsignature, hpure⟩ := Decoder.bind_ok.mp hrest
    obtain ⟨signed, hsigned, rfl⟩ := Decoder.map_ok.mp hsignature
    obtain ⟨-, rfl⟩ := Decoder.vector_ok.mp hsigned
    cases hpure
    simp [encode]
  · cases hrest
    simp [encode]

/-- What a body says is what its bytes are. -/
theorem ServerKeyExchangeBody.interpret_ok {method : KeyExchangeMethod}
    {body : ServerKeyExchangeBody} {x : ServerKeyExchange} (h : body.interpret method = .ok x) :
    Wire.encode body = x.encode := by
  cases body with
  | known y =>
    cases h
    rfl
  | raw bytes =>
    have hbytes := ServerKeyExchange.decode_ok (Decoder.exactly_ok.mp h)
    rw [List.append_nil] at hbytes
    exact hbytes

/-- The parameters of a message that was joined are in the bytes that arrived. -/
theorem Message.Joined.serverKeyExchange {v : ProtocolVersion} {m : Message}
    {body : ServerKeyExchangeBody} {encoded : Bytes} {method : KeyExchangeMethod}
    {x : ServerKeyExchange} (h : m.Joined v)
    (hm : m.body = .handshake (.serverKeyExchange body) encoded) (hx : body.interpret method = .ok x) :
    encoded = Wire.encode (HandshakeMessage.serverKeyExchange (.known x)) := by
  obtain ⟨parsed, encoded', rfl, hdecode⟩ := h
  cases hm
  obtain ⟨t, bs, rfl, -, hbody⟩ := HandshakeMessage.decode_ok.mp hdecode
  obtain rfl : t = 12 := by
    have htyp := HandshakeMessage.decodeBody_typ hbody
    cases htyp
    rfl
  obtain ⟨body', hrest, hbody'⟩ := Decoder.map_ok.mp hbody
  cases hbody'
  obtain ⟨_, hrest', rfl⟩ := Decoder.map_ok.mp hrest
  cases hrest'
  rw [List.append_nil]
  have hbytes : bs = x.encode := ServerKeyExchangeBody.interpret_ok hx
  rw [hbytes]
  rfl

/-! ## What has been checked -/

namespace Flight

/-- The server's hello among some messages settles a flight. -/
def Chosen (c : Config) (hello : ClientHello) (ms : List Message) (flight : Flight) : Prop :=
  ∃ m ∈ ms, ∃ h encoded, m.body = .handshake (.serverHello h) encoded ∧
    c.Agrees (hello.extensions.map ClientExtension.typ) h flight.suite ∧
    flight.randoms = ⟨hello.random, h.random⟩

/-- A chain among some messages certifies the server's key, if the exchange expects one. -/
def Certified (c : Config) (ms : List Message) (flight : Flight) (key : Option PublicKey) : Prop :=
  flight.suite.keyExchange.expectsCertificate = true →
    ∃ m ∈ ms, ∃ chain encoded certified, m.body = .handshake (.certificate chain) encoded ∧
      c.Certifies flight.suite.keyExchange chain certified ∧ key = some certified

/-- Parameters among some messages were accepted if the exchange expects them, which only that of RSA
does not. -/
structure Exchanged (ms : List Message) (flight : Flight) (key : Option PublicKey) : Prop where
  params : flight.suite.keyExchange.expectsServerParams = true →
    ∃ m ∈ ms, ∃ body encoded x, m.body = .handshake (.serverKeyExchange body) encoded ∧
      body.interpret flight.suite.keyExchange = .ok x ∧
      x.Accepted flight.suite.keyExchange flight.randoms key flight.exchange
  none : flight.suite.keyExchange.expectsServerParams = false → flight.exchange = .rsa

/-- An exchange that has taken in nothing so far. -/
def Fresh (c : Config) (flight : Flight) : Prop :=
  KeyExchange.start flight.suite.keyExchange c.srp = .ok flight.exchange

/-- Everything that the client's answer relies on. -/
structure Checked (c : Config) (hello : ClientHello) (ms : List Message) (flight : Flight)
    (key : Option PublicKey) : Prop where
  chosen : flight.Chosen c hello ms
  certified : flight.Certified c ms key
  exchanged : flight.Exchanged ms key

variable {c : Config} {hello : ClientHello} {ms ns : List Message} {flight : Flight}
  {key : Option PublicKey}

theorem Chosen.mono (h : flight.Chosen c hello ms) (hsub : ms ⊆ ns) : flight.Chosen c hello ns := by
  obtain ⟨m, hm, h⟩ := h
  exact ⟨m, hsub hm, h⟩

theorem Certified.mono (h : flight.Certified c ms key) (hsub : ms ⊆ ns) :
    flight.Certified c ns key := by
  intro hexpects
  obtain ⟨m, hm, h⟩ := h hexpects
  exact ⟨m, hsub hm, h⟩

theorem Exchanged.mono (h : flight.Exchanged ms key) (hsub : ms ⊆ ns) : flight.Exchanged ns key := by
  refine ⟨fun hexpects => ?_, h.none⟩
  obtain ⟨m, hm, h⟩ := h.params hexpects
  exact ⟨m, hsub hm, h⟩

theorem Checked.mono (h : flight.Checked c hello ms key) (hsub : ms ⊆ ns) :
    flight.Checked c hello ns key :=
  ⟨h.chosen.mono hsub, h.certified.mono hsub, h.exchanged.mono hsub⟩

theorem checkParams_ok {body : ServerKeyExchangeBody} {k : KeyExchange} (hfresh : flight.Fresh c)
    (h : flight.checkParams key body = .ok k) :
    ∃ x, body.interpret flight.suite.keyExchange = .ok x ∧
      x.Accepted flight.suite.keyExchange flight.randoms key k := by
  unfold checkParams at h
  split at h
  · cases h
  · next x hx =>
    rcases haccept : flight.exchange.accept x flight.randoms key with e | k'
    · rw [haccept] at h
      cases h
    · rw [haccept] at h
      cases h
      exact ⟨x, hx, KeyExchange.accept_ok hfresh haccept⟩

end Flight

namespace Stage

/-- What has been checked at a stage by the messages that led there. -/
inductive Relies (c : Config) (hello : ClientHello) (ms : List Message) : Stage → Prop
  | serverHello {t} :
    Relies c hello ms (.serverHello hello.random t (hello.extensions.map ClientExtension.typ))
  | certificate {flight} (hchosen : flight.Chosen c hello ms) (hfresh : flight.Fresh c) :
    Relies c hello ms (.certificate flight)
  | serverParams {flight key} (hchosen : flight.Chosen c hello ms) (hfresh : flight.Fresh c)
    (hexpects : flight.suite.keyExchange.expectsServerParams = true)
    (hcertified : flight.Certified c ms key) : Relies c hello ms (.serverParams flight key)
  | checked {stage flight key request} (hstage : stage.Answers flight key request)
    (h : flight.Checked c hello ms key) : Relies c hello ms stage
  | late {stage} (h : stage.Late) : Relies c hello ms stage

variable {c : Config} {hello : ClientHello} {ms : List Message} {stage stage' : Stage}

theorem Relies.of_answers (h : stage.Relies c hello ms) {flight : Flight} {key : Option PublicKey}
    {request : Option CertificateRequest} (hstage : stage.Answers flight key request) :
    flight.Checked c hello ms key := by
  cases h with
  | checked hstage' h =>
    obtain ⟨rfl, rfl, rfl⟩ := hstage'.unique hstage
    exact h
  | late hlate => exact absurd hstage hlate.not_answers
  | _ => cases hstage

theorem relies_afterHello {flight : Flight} (hchosen : flight.Chosen c hello ms)
    (hfresh : flight.Fresh c) : (afterHello flight).Relies c hello ms := by
  unfold afterHello
  split
  · exact .certificate hchosen hfresh
  · next hexpects =>
    refine .serverParams hchosen hfresh ?_ fun h => absurd h hexpects
    rw [KeyExchangeMethod.eq_srp hexpects]
    decide

theorem relies_afterCertificate {flight : Flight} {key : Option PublicKey}
    (hchosen : flight.Chosen c hello ms) (hfresh : flight.Fresh c)
    (hcertified : flight.Certified c ms key) :
    (if flight.suite.keyExchange.expectsServerParams then .serverParams flight key
      else .requestOrDone flight key : Stage).Relies c hello ms := by
  split
  · next hexpects => exact .serverParams hchosen hfresh hexpects hcertified
  · next hexpects =>
    exact .checked (.unasked _ _) ⟨hchosen, hcertified, fun h => absurd h hexpects,
      KeyExchange.start_rsa hfresh⟩

/-- A message that is taken in has passed what the next stage relies on. -/
theorem Relies.takes (h : stage.Relies c hello ms) {m : Message} {act : Act}
    {src src' : RandomSource} (ht : stage.Takes c src m act stage' src') :
    stage'.Relies c hello (ms ++ [m]) := by
  have hsub : ms ⊆ ms ++ [m] := List.subset_append_left ms [m]
  have hlast : m ∈ ms ++ [m] := by simp
  cases ht with
  | @hello _ t _ h' encoded suite exchange hm hcheck hstart =>
    cases h with
    | checked hstage => cases hstage
    | late hlate => cases hlate
    | serverHello =>
      exact relies_afterHello ⟨m, hlast, h', encoded, hm, Config.checkHello_ok hcheck, rfl⟩ hstart
  | @certificate flight chain encoded key hm hcheck =>
    cases h with
    | checked hstage => cases hstage
    | late hlate => cases hlate
    | certificate hchosen hfresh =>
      have hcertified : (flight.add m).Certified c (ms ++ [m]) (some key) := fun _ =>
        ⟨m, hlast, chain, encoded, key, hm, Config.checkChain_ok hcheck, rfl⟩
      exact @relies_afterCertificate c hello (ms ++ [m]) (flight.add m) _ (hchosen.mono hsub) hfresh
        hcertified
  | @params flight key body encoded exchange hm hcheck =>
    cases h with
    | checked hstage => cases hstage
    | late hlate => cases hlate
    | serverParams hchosen hfresh hexpects hcertified =>
      obtain ⟨x, hx, haccepted⟩ := Flight.checkParams_ok hfresh hcheck
      have hchosen' : Flight.Chosen c hello (ms ++ [m]) { flight.add m with exchange } :=
        hchosen.mono hsub
      have hcertified' : Flight.Certified c (ms ++ [m]) { flight.add m with exchange } key :=
        hcertified.mono hsub
      exact .checked (.unasked _ _) ⟨hchosen', hcertified',
        fun _ => ⟨m, hlast, body, encoded, x, hm, hx, haccepted⟩,
        fun h => Bool.noConfusion (h.symm.trans hexpects)⟩
  | @request flight key request encoded hm =>
    have hchecked := (h.of_answers (.unasked flight key)).mono hsub
    exact .checked (.asked (flight.add m) key request)
      ⟨hchecked.chosen, hchecked.certified, hchecked.exchanged.params, hchecked.exchanged.none⟩
  | reply => exact .late (.keyChange _ _)
  | keyChange => exact .late (.finished _ _)
  | finished => exact .late .traffic
  | data => exact .late .traffic

end Stage

/-- At every stage of a handshake that began with a hello, everything has been checked that the stage
relies on. -/
theorem Course.relies {c : Config} {hello : ClientHello} {stage₀ stage : Stage}
    {src₀ src : RandomSource} {ms : List Message} (h : Course c stage₀ src₀ ms stage src)
    (h₀ : stage₀.Relies c hello []) : stage.Relies c hello ms := by
  induction h with
  | start => exact h₀
  | step _ ht ih => exact ih.takes ht

end TlsClient
