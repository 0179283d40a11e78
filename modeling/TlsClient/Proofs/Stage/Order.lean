import TlsClient.Proofs.Stage.Course

/-!
# The order of the server's messages

The suite that the server chooses fixes which messages have to come and in which order; only the request
for a certificate is left to the server (`KeyExchangeMethod.flow`).  A course keeps to this order at
every stage (`Course.along`).
-/

namespace TlsClient

/-- What a message is as far as the order goes. -/
inductive Message.Kind where
  | alert
  | handshake (typ : HandshakeType)
  | keyChange
  | data
  deriving DecidableEq, Repr

def Message.kind (m : Message) : Kind :=
  match m.body with
  | .alert _ => .alert
  | .handshake parsed _ => .handshake parsed.typ
  | .changeCipherSpec => .keyChange
  | .applicationData _ => .data

namespace KeyExchangeMethod

/-- What comes before the server may ask for a certificate. -/
def opening (m : KeyExchangeMethod) : List Message.Kind :=
  [.handshake .serverHello] ++ (if m.expectsCertificate then [.handshake .certificate] else []) ++
    if m.expectsServerParams then [.handshake .serverKeyExchange] else []

/-- The server's whole flight. -/
def flight (m : KeyExchangeMethod) (asks : Bool) : List Message.Kind :=
  m.opening ++ (if asks then [.handshake .certificateRequest] else []) ++
    [.handshake .serverHelloDone]

/-- All messages of the server's in a handshake. -/
def flow (m : KeyExchangeMethod) (asks : Bool) : List Message.Kind :=
  m.flight asks ++ [.keyChange] ++ [.handshake .finished]

end KeyExchangeMethod

/-- The types of the extensions on offer. -/
def Config.offered (c : Config) : List ExtensionType := c.extensions.map ClientExtension.typ

/-- The first of some messages is a hello in which the server chooses a suite that is on offer. -/
def Config.Chooses (c : Config) (ms : List Message) (suite : Suite) : Prop :=
  ∃ m rest h encoded, ms = m :: rest ∧ m.body = .handshake (.serverHello h) encoded ∧
    c.checkHello c.offered h = .ok suite

/-- Messages that keep to the order: the first of a handshake, or a whole one and data after it. -/
def Config.Orders (c : Config) (ms : List Message) : Prop :=
  ∃ suite asks n, c.Chooses ms suite ∧
    ms.map Message.kind <+: suite.keyExchange.flow asks ++ List.replicate n .data

variable {c : Config} {ms : List Message}

theorem Config.Chooses.append {suite : Suite} (h : c.Chooses ms suite) (ns : List Message) :
    c.Chooses (ms ++ ns) suite := by
  obtain ⟨m, rest, hello, encoded, rfl, h⟩ := h
  exact ⟨m, rest ++ ns, hello, encoded, rfl, h⟩

namespace Stage

/-- The messages that come before a stage. -/
inductive Along (c : Config) (ms : List Message) : Stage → Prop
  | serverHello {random t} (h : ms = []) : Along c ms (.serverHello random t c.offered)
  | certificate {flight} (hsuite : c.Chooses ms flight.suite)
    (hexpects : flight.suite.keyExchange.expectsCertificate = true)
    (h : ms.map Message.kind = [.handshake .serverHello]) : Along c ms (.certificate flight)
  | serverParams {flight key} (hsuite : c.Chooses ms flight.suite)
    (hexpects : flight.suite.keyExchange.expectsServerParams = true)
    (h : ms.map Message.kind ++ [.handshake .serverKeyExchange] =
      flight.suite.keyExchange.opening) : Along c ms (.serverParams flight key)
  | requestOrDone {flight key} (hsuite : c.Chooses ms flight.suite)
    (h : ms.map Message.kind = flight.suite.keyExchange.opening) :
    Along c ms (.requestOrDone flight key)
  | done {flight key request} (hsuite : c.Chooses ms flight.suite)
    (h : ms.map Message.kind ++ [.handshake .serverHelloDone] =
      flight.suite.keyExchange.flight true) : Along c ms (.done flight key request)
  | keyChange {secrets t} (suite : Suite) (asks : Bool) (hsuite : c.Chooses ms suite)
    (h : ms.map Message.kind = suite.keyExchange.flight asks) :
    Along c ms (.keyChange secrets t)
  | finished {secrets t} (suite : Suite) (asks : Bool) (hsuite : c.Chooses ms suite)
    (h : ms.map Message.kind = suite.keyExchange.flight asks ++ [.keyChange]) :
    Along c ms (.finished secrets t)
  | traffic (suite : Suite) (asks : Bool) (n : Nat) (hsuite : c.Chooses ms suite)
    (h : ms.map Message.kind = suite.keyExchange.flow asks ++ List.replicate n .data) :
    Along c ms .traffic

variable {stage stage' : Stage}

/-- Messages that were taken in keep to the order. -/
theorem Along.orders {m : Message} (h : stage.Along c (ms ++ [m])) :
    c.Orders (ms ++ [m]) := by
  have hflow : ∀ (method : KeyExchangeMethod) (asks : Bool),
      method.flight asks ++ [.keyChange] <+: method.flow asks ++ List.replicate 0 .data := by
    intro method asks
    rw [List.replicate_zero, List.append_nil]
    exact List.prefix_append _ _
  have hflight : ∀ (method : KeyExchangeMethod) (asks : Bool),
      method.flight asks <+: method.flow asks ++ List.replicate 0 .data :=
    fun method asks => (List.prefix_append _ _).trans (hflow method asks)
  have hopening : ∀ method : KeyExchangeMethod,
      method.opening <+: method.flow false ++ List.replicate 0 .data :=
    fun method => ((List.prefix_append _ _).trans (List.prefix_append _ _)).trans
      (hflight method false)
  cases h with
  | serverHello h => simp at h
  | certificate hsuite _ h =>
    refine ⟨_, false, 0, hsuite, h ▸ ?_⟩
    exact ((List.prefix_append _ _).trans (List.prefix_append _ _)).trans (hopening _)
  | serverParams hsuite _ h =>
    exact ⟨_, false, 0, hsuite, (h ▸ List.prefix_append _ _).trans (hopening _)⟩
  | requestOrDone hsuite h => exact ⟨_, false, 0, hsuite, h ▸ hopening _⟩
  | done hsuite h => exact ⟨_, true, 0, hsuite, (h ▸ List.prefix_append _ _).trans (hflight _ true)⟩
  | keyChange suite asks hsuite h => exact ⟨suite, asks, 0, hsuite, h ▸ hflight _ asks⟩
  | finished suite asks hsuite h => exact ⟨suite, asks, 0, hsuite, h ▸ hflow _ asks⟩
  | traffic suite asks n hsuite h => exact ⟨suite, asks, n, hsuite, h ▸ List.prefix_rfl⟩

/-- After the server's hello comes its certificate, or its parameters if it has none. -/
theorem along_afterHello {flight : Flight} (hsuite : c.Chooses ms flight.suite)
    (h : ms.map Message.kind = [.handshake .serverHello]) : (afterHello flight).Along c ms := by
  unfold afterHello
  split
  · next hexpects => exact .certificate hsuite hexpects h
  · next hexpects =>
    have hmethod := KeyExchangeMethod.eq_srp hexpects
    refine .serverParams hsuite ?_ ?_
    · rw [hmethod]
      decide
    · rw [h, hmethod]
      rfl

/-- After the server's certificate come its parameters if the exchange has any. -/
theorem along_afterCertificate {flight : Flight} {key : Option PublicKey}
    (hsuite : c.Chooses ms flight.suite)
    (hexpects : flight.suite.keyExchange.expectsCertificate = true)
    (h : ms.map Message.kind = [.handshake .serverHello] ++ [.handshake .certificate]) :
    (if flight.suite.keyExchange.expectsServerParams then .serverParams flight key
      else .requestOrDone flight key : Stage).Along c ms := by
  split
  · next hparams =>
    refine .serverParams hsuite hparams ?_
    rw [h, KeyExchangeMethod.opening, if_pos hexpects, if_pos hparams]
  · next hparams =>
    refine .requestOrDone hsuite ?_
    rw [h, KeyExchangeMethod.opening, if_pos hexpects, if_neg hparams, List.append_nil]

/-- A message that is taken in is the next in the order. -/
theorem Along.takes (h : stage.Along c ms) {m : Message} {act : Act}
    {src src' : RandomSource} (ht : stage.Takes c src m act stage' src') :
    stage'.Along c (ms ++ [m]) := by
  have hkinds : ∀ k, m.kind = k → (ms ++ [m]).map Message.kind = ms.map Message.kind ++ [k] := by
    rintro k rfl
    rw [List.map_append, List.map_singleton]
  cases ht with
  | @hello _ t _ h' encoded suite exchange hm hcheck hstart =>
    cases h with
    | serverHello hms =>
      subst hms
      have hsuite : c.Chooses ([] ++ [m]) suite := ⟨m, [], h', encoded, rfl, hm, hcheck⟩
      exact along_afterHello hsuite (hkinds _ (by rw [Message.kind, hm]; rfl))
  | @certificate flight chain encoded key hm hcheck =>
    cases h with
    | certificate hsuite hexpects hms =>
      apply @along_afterCertificate c (ms ++ [m]) (flight.add m) _ (hsuite.append [m]) hexpects
      rw [hkinds (.handshake .certificate) (by rw [Message.kind, hm]; rfl), hms]
  | @params flight key body encoded exchange hm hcheck =>
    cases h with
    | serverParams hsuite hexpects hms =>
      refine .requestOrDone (hsuite.append [m]) ?_
      rw [hkinds (.handshake .serverKeyExchange) (by rw [Message.kind, hm]; rfl)]
      exact hms
  | @request flight key request encoded hm =>
    cases h with
    | requestOrDone hsuite hms =>
      refine .done (hsuite.append [m]) ?_
      rw [hkinds (.handshake .certificateRequest) (by rw [Message.kind, hm]; rfl), hms]
      rfl
  | @reply _ flight key request encoded r _ hanswers hm hreply =>
    have hkind := hkinds (.handshake .serverHelloDone) (by rw [Message.kind, hm]; rfl)
    cases hanswers with
    | unasked =>
      cases h with
      | requestOrDone hsuite hms =>
        refine .keyChange flight.suite false (hsuite.append [m]) ?_
        rw [hkind, hms, KeyExchangeMethod.flight, if_neg Bool.false_ne_true, List.append_nil]
    | asked =>
      cases h with
      | done hsuite hms => exact .keyChange flight.suite true (hsuite.append [m]) (hkind.trans hms)
  | @keyChange secrets t hm =>
    cases h with
    | keyChange suite asks hsuite hms =>
      refine .finished suite asks (hsuite.append [m]) ?_
      rw [hkinds .keyChange (by rw [Message.kind, hm]), hms]
  | @finished secrets t proof encoded hm hcheck =>
    cases h with
    | finished suite asks hsuite hms =>
      refine .traffic suite asks 0 (hsuite.append [m]) ?_
      rw [hkinds (.handshake .finished) (by rw [Message.kind, hm]; rfl), hms]
      exact (List.append_nil _).symm
  | @data bytes hm =>
    cases h with
    | traffic suite asks n hsuite hms =>
      refine .traffic suite asks (n + 1) (hsuite.append [m]) ?_
      rw [hkinds .data (by rw [Message.kind, hm]), hms, List.append_assoc, List.replicate_succ']

end Stage

/-- A course keeps to the order. -/
theorem Course.along {stage₀ stage : Stage} {src₀ src : RandomSource}
    (h : Course c stage₀ src₀ ms stage src) (h₀ : stage₀.Along c []) :
    stage.Along c ms := by
  induction h with
  | start => exact h₀
  | step _ ht ih => exact ih.takes ht

/-- A handshake that is over ended with a Finished that proves what the server had to, and only data
came after it. -/
theorem Course.finished {stage₀ : Stage} {src₀ src : RandomSource}
    (h : Course c stage₀ src₀ ms .traffic src) (h₀ : stage₀ ≠ .traffic) :
    ∃ pre m data secrets t src₁ encoded, ms = pre ++ m :: data ∧
      Course c stage₀ src₀ pre (.finished secrets t) src₁ ∧
      m.body = .handshake (.finished (secrets.serverVerify (Transcript.digest t))) encoded ∧
      ∀ x ∈ data, x.kind = .data := by
  generalize hstage : Stage.traffic = stage at h
  induction h with
  | start => exact absurd hstage.symm h₀
  | @step ms stage src m act stage' src' h ht ih =>
    subst hstage
    generalize hstage' : Stage.traffic = stage' at ht
    cases ht with
    | @finished secrets t proof encoded hm hcheck =>
      subst hcheck
      exact ⟨ms, m, [], secrets, t, src, encoded, rfl, h, hm, by simp⟩
    | @data bytes hm =>
      obtain ⟨pre, x, data, secrets, t, src₁, encoded, rfl, hpre, hx, hdata⟩ := ih rfl
      refine ⟨pre, x, data ++ [m], secrets, t, src₁, encoded, by simp, hpre, hx, fun y hy => ?_⟩
      rcases List.mem_append.mp hy with hy | hy
      · exact hdata y hy
      · obtain rfl := List.mem_singleton.mp hy
        rw [Message.kind, hm]
    | hello =>
      unfold Stage.afterHello at hstage'
      split at hstage' <;> cases hstage'
    | certificate => split at hstage' <;> cases hstage'
    | _ => cases hstage'

end TlsClient
