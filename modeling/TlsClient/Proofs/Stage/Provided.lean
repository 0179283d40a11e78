import TlsClient.Proofs.Config
import TlsClient.Proofs.Secrets
import TlsClient.Proofs.Stage.Checks
import TlsClient.Proofs.Stage.Failing

/-!
# What no stage lacks

Some errors tell of nothing that the server or the user did: they stand where a stage would lack what it needs
(`TlsError.Internal`).  A stage that was reached by checked messages, under a configuration that was built, is
`Provided` with all of it.
-/

namespace TlsClient

/-- An error that only a mistake in the client itself could lead to. -/
inductive TlsError.Internal : TlsError → Prop
  | config (why : ConfigError) : Internal (.config why)
  | missingServerKey : Internal (.keyExchange .missingServerKey)
  | malformedParameters : Internal (.keyExchange .malformedParameters)
  | cannotEncrypt : Internal .cannotEncrypt
  | handshakeIncomplete : Internal .handshakeIncomplete

/-! ## Parameters of the right kind -/

/-- Parameters and a signature of the kind that an exchange takes. -/
structure ServerKeyExchange.Suits (x : ServerKeyExchange) (method : KeyExchangeMethod) : Prop where
  dh : method.isSrp = false → ∃ params, x.params = .dh params
  srp : method.isSrp = true → ∃ params, x.params = .srp params
  signature : method.isSigned = true → ∃ signature, x.signature = some signature

theorem ServerKeyExchange.decode_suits {method : KeyExchangeMethod} {bs rest : Bytes}
    {x : ServerKeyExchange} (h : (ServerKeyExchange.decode method).run bs = .ok (x, rest)) :
    x.Suits method := by
  obtain ⟨hparams, hsignature⟩ := suits_of_decode h
  exact ⟨hparams.dh, hparams.srp, hsignature⟩

/-- The body of a message that was joined is not yet interpreted. -/
theorem Message.Joined.rawParams {v : ProtocolVersion} {m : Message} {body : ServerKeyExchangeBody}
    {encoded : Bytes} (h : m.Joined v) (hm : m.body = .handshake (.serverKeyExchange body) encoded) :
    ∃ bytes, body = .raw bytes := by
  obtain ⟨parsed, encoded', rfl, hdecode⟩ := h
  cases hm
  obtain ⟨t, bs, rfl, -, hbody⟩ := HandshakeMessage.decode_ok.mp hdecode
  obtain rfl : t = 12 := by
    have htyp := HandshakeMessage.decodeBody_typ hbody
    cases htyp
    rfl
  obtain ⟨body', hrest, hbody'⟩ := Decoder.map_ok.mp hbody
  cases hbody'
  obtain ⟨bytes, -, rfl⟩ := Decoder.map_ok.mp hrest
  exact ⟨bytes, rfl⟩

namespace KeyExchange

variable {method : KeyExchangeMethod} {credentials : Option SrpCredentials} {k : KeyExchange}
  {x : ServerKeyExchange} {randoms : Randoms} {key : Option PublicKey} {e : KeyExchangeError}

/-- A signature that is there and is checked with the right key can only be wrong. -/
theorem checkSignature_error
    (hsignature : method.isSigned = true → ∃ signature, x.signature = some signature)
    (hkey : method.isSigned = true →
      ∃ certified, key = some certified ∧ method.certificateKey = some certified.algorithm)
    (h : checkSignature method x randoms key = .error e) : e = .badSignature := by
  unfold checkSignature at h
  cases hsigned : method.isSigned with
  | false =>
    rw [hsigned] at h
    cases h
  | true =>
    obtain ⟨signature, hsignature⟩ := hsignature hsigned
    obtain ⟨certified, rfl, halgorithm⟩ := hkey hsigned
    rw [hsigned, hsignature] at h
    simp only [Bool.not_true, Bool.false_eq_true, if_false, halgorithm, ne_eq, not_true_eq_false] at h
    split at h
    · cases h
    · cases h
      rfl

/-- Guards one after another: what fails has failed one of them. -/
theorem guards_error {safe : Bool} {check : Except KeyExchangeError Unit}
    (h : (do
      if !safe then throw .illegalParameter
      check
      return k : Except KeyExchangeError KeyExchange) = .error e) :
    e = .illegalParameter ∨ check = .error e := by
  cases safe with
  | false =>
    cases h
    exact .inl rfl
  | true =>
    cases check with
    | error e' =>
      cases h
      exact .inr rfl
    | ok u => cases h

/-- Parameters of the right kind are refused only for what they are. -/
theorem accept_error (hstart : start method credentials = .ok k)
    (hexpects : method.expectsServerParams = true) (hx : x.Suits method)
    (hkey : method.isSigned = true →
      ∃ certified, key = some certified ∧ method.certificateKey = some certified.algorithm)
    (h : k.accept x randoms key = .error e) : e = .illegalParameter ∨ e = .badSignature := by
  rcases start_expects hstart hexpects with ⟨hkind, rfl⟩ | ⟨hkind, c, rfl⟩
  · obtain ⟨params, hparams⟩ := hx.dh hkind
    simp only [accept, hparams] at h
    exact (guards_error h).imp_right (checkSignature_error hx.signature hkey)
  · obtain ⟨params, hparams⟩ := hx.srp hkind
    simp only [accept, hparams] at h
    exact (guards_error h).imp_right (checkSignature_error hx.signature hkey)

end KeyExchange

namespace Flight

variable {config : Config} {hello : ClientHello} {ms : List Message} {flight : Flight}
  {key : Option PublicKey}

/-- The key of a certified chain is of the kind that the exchange needs. -/
theorem Certified.suits (h : flight.Certified config ms key)
    (hexpects : flight.suite.keyExchange.expectsCertificate = true) :
    ∃ certified, key = some certified ∧
      flight.suite.keyExchange.certificateKey = some certified.algorithm := by
  obtain ⟨_, _, _, _, certified, -, hcertifies, hkey⟩ := h hexpects
  exact ⟨certified, hkey, hcertifies.algorithm⟩

theorem checkParams_external (hfresh : flight.Fresh config) (hcertified : flight.Certified config ms key)
    (hexpects : flight.suite.keyExchange.expectsServerParams = true) {bytes : Bytes} {r : Refusal}
    (h : flight.checkParams key (.raw bytes) = .error r) : ¬ r.error.Internal := by
  have hkey (hsigned : flight.suite.keyExchange.isSigned = true) :
      ∃ certified, key = some certified ∧
        flight.suite.keyExchange.certificateKey = some certified.algorithm := by
    refine hcertified.suits ?_
    cases hmethod : flight.suite.keyExchange <;> rw [hmethod] at hsigned <;> first | rfl | cases hsigned
  unfold checkParams at h
  split at h
  · cases h
    rintro ⟨⟩
  · next x hx =>
    have hsuits : x.Suits flight.suite.keyExchange :=
      ServerKeyExchange.decode_suits (Decoder.exactly_ok.mp hx)
    rcases haccept : flight.exchange.accept x flight.randoms key with e | k
    · rw [haccept] at h
      cases h
      rcases KeyExchange.accept_error hfresh hexpects hsuits hkey haccept with rfl | rfl
      all_goals rintro ⟨⟩
    · rw [haccept] at h
      cases h

/-- An exchange for which everything has been checked does not lack a key or parameters. -/
theorem Checked.agrees (h : flight.Checked config hello ms key) :
    (flight.exchange.agree key).FailsAs fun e => ¬ e.Internal := by
  refine KeyExchange.failsAs_agree (by rintro ⟨⟩) fun why hfalters => ?_
  cases hexpects : flight.suite.keyExchange.expectsServerParams with
  | true =>
    obtain ⟨_, _, _, _, x, -, -, haccepted⟩ := h.exchanged.params hexpects
    rcases haccepted.safe with ⟨params, -, -, hexchange⟩ | ⟨params, credentials, -, -, hexchange⟩
    all_goals
      rw [hexchange] at hfalters
      cases hfalters
    rintro ⟨⟩
  | false =>
    have hmethod : flight.suite.keyExchange = .rsa := by
      simpa [KeyExchangeMethod.expectsServerParams] using hexpects
    obtain ⟨certified, hkey, halgorithm⟩ := h.certified.suits (by rw [hmethod]; rfl)
    rw [hmethod] at halgorithm
    rw [h.exchanged.none hexpects] at hfalters
    cases hfalters with
    | noRoom => rintro ⟨⟩
    | noKey hnone =>
      cases certified with
      | rsa certified => exact absurd hkey (hnone certified)
      | dsa certified => cases halgorithm

end Flight

/-- A configuration that was built can start every exchange that it offers. -/
theorem Config.Admitted.starts {config : Config} (h : config.Admitted) {suite : Suite}
    (hsuite : suite ∈ config.suites) :
    ∃ exchange, KeyExchange.start suite.keyExchange config.srp = .ok exchange := by
  have hsrp (hneeds : suite.keyExchange.isSrp = true) : ∃ credentials, config.srp = some credentials := by
    rw [← Option.isSome_iff_exists, ← h.srp]
    exact List.any_eq_true.mpr ⟨suite, hsuite, hneeds⟩
  cases hmethod : suite.keyExchange with
  | rsa | dheRsa | dheDss => exact ⟨_, rfl⟩
  | srp | srpRsa | srpDss =>
    obtain ⟨credentials, hcredentials⟩ := hsrp (by rw [hmethod]; rfl)
    rw [hcredentials]
    exact ⟨_, rfl⟩

namespace Stage

variable {config : Config} {hello : ClientHello} {ms : List Message} {stage : Stage} {m : Message}

/-- A stage that has what it takes to handle a message: every exchange that can be chosen can be started, what
takes in parameters is an exchange that has some, and neither their check nor the end of the exchange lacks
anything. -/
structure Provided (config : Config) (stage : Stage) (m : Message) : Prop where
  starts : ∀ offered hello suite, config.checkHello offered hello = .ok suite →
    ∃ exchange, KeyExchange.start suite.keyExchange config.srp = .ok exchange
  accepts : ∀ flight key body encoded, stage = .serverParams flight key →
    m.body = .handshake (.serverKeyExchange body) encoded →
    flight.exchange ≠ .rsa ∧ ∀ r, flight.checkParams key body = .error r → ¬ r.error.Internal
  agrees : ∀ flight key request, stage.Answers flight key request →
    (flight.exchange.agree key).FailsAs fun e => ¬ e.Internal

/-- A stage that relies on what has been checked is provided for every message that was joined. -/
theorem Relies.provided (h : stage.Relies config hello ms) (hadmitted : config.Admitted)
    (hm : m.body.typ = .handshake → ∃ v, m.Joined v) : stage.Provided config m := by
  refine ⟨fun offered hello suite hcheck => hadmitted.starts (Config.checkHello_ok hcheck).offers,
    fun flight key body encoded hstage hbody => ?_, fun flight key request hstage =>
      (h.of_answers hstage).agrees⟩
  subst hstage
  obtain ⟨v, hjoined⟩ := hm (by rw [hbody]; rfl)
  obtain ⟨bytes, rfl⟩ := hjoined.rawParams hbody
  cases h with
  | checked hstage => cases hstage
  | late hlate => cases hlate
  | serverParams hchosen hfresh hexpects hcertified =>
    refine ⟨fun hrsa => ?_, fun r => Flight.checkParams_external hfresh hcertified hexpects⟩
    rcases KeyExchange.start_expects hfresh hexpects with ⟨-, hk⟩ | ⟨-, c, hk⟩
    all_goals
      rw [hrsa] at hk
      cases hk

end Stage

end TlsClient
