import TlsClient.KeyExchange.Basic
import TlsClient.Stage.Hello
import TlsClient.Stage.ServerFlight

/-!
# What a handshake fails with

Nothing that a handshake checks or draws fails with an error of the transport, and no alert that it gives
up with can be mistaken for a close notification.
-/

namespace TlsClient

/-! ## Errors -/

/-- An error that is not a failure of the transport. -/
def TlsError.Proper (e : TlsError) : Prop := ∀ why, e ≠ .transport why

/-- No error is reported as a close notification. -/
theorem TlsError.alert_ne_closeNotify (e : TlsError) : e.alert ≠ .closeNotify := by
  cases e with
  | malformed why => cases why <;> simp only [alert, causeAlert, DecodeError.alert] <;> decide
  | keyExchange why => cases why <;> simp only [alert, causeAlert, KeyExchangeError.alert] <;> decide
  | badCertificate why =>
    cases why <;> simp only [alert, causeAlert, CertificateError.alert] <;> decide
  | _ =>
    simp only [alert, causeAlert]
    decide

namespace Refusal

/-- A refusal that the peer cannot mistake for a close notification, with an error of our own. -/
def Proper (r : Refusal) : Prop := r.alert ≠ .closeNotify ∧ r.error.Proper

theorem proper_refusal {e : TlsError} (h : e.Proper) : e.refusal.Proper :=
  ⟨e.alert_ne_closeNotify, h⟩

end Refusal

variable {c : Config} {r : Refusal}

/-- What a hello is refused for. -/
theorem Config.checkHello_error {offered : List ExtensionType} {h : ServerHello}
    (hr : c.checkHello offered h = .error r) : r.alert ≠ .closeNotify ∧
      ((∃ why, r.error = .incompatible why) ∨ ∃ why, r.error = .misbehaved why) := by
  unfold checkHello at hr
  split at hr
  · cases hr
    exact ⟨by decide, .inl ⟨_, rfl⟩⟩
  · repeat' split at hr
    all_goals cases hr
    all_goals exact ⟨by decide, .inr ⟨_, rfl⟩⟩

theorem Config.checkHello_proper {offered : List ExtensionType} {h : ServerHello}
    (hr : c.checkHello offered h = .error r) : r.Proper := by
  obtain ⟨halert, ⟨why, he⟩ | ⟨why, he⟩⟩ := checkHello_error hr
  all_goals
    refine ⟨halert, ?_⟩
    rw [he]
    exact fun _ => by rintro ⟨⟩

/-- What a chain is refused for. -/
theorem Config.checkChain_error {method : KeyExchangeMethod} {chain : List Certificate}
    (hr : c.checkChain method chain = .error r) : r.alert ≠ .closeNotify ∧
      (r.error = .noCertificates ∨ (∃ why, r.error = .badCertificate why) ∨
        ∃ why, r.error = .misbehaved why) := by
  unfold checkChain at hr
  split at hr
  · cases hr
    exact ⟨by decide, .inl rfl⟩
  · split at hr
    · next why _ =>
      cases hr
      exact ⟨TlsError.alert_ne_closeNotify (.badCertificate why), .inr (.inl ⟨why, rfl⟩)⟩
    · repeat' split at hr
      all_goals cases hr
      all_goals exact ⟨by decide, .inr (.inr ⟨_, rfl⟩)⟩

theorem Config.checkChain_proper {method : KeyExchangeMethod} {chain : List Certificate}
    (hr : c.checkChain method chain = .error r) : r.Proper := by
  obtain ⟨halert, he | ⟨why, he⟩ | ⟨why, he⟩⟩ := checkChain_error hr
  all_goals
    refine ⟨halert, ?_⟩
    rw [he]
    exact fun _ => by rintro ⟨⟩

theorem Flight.checkParams_proper {f : Flight} {key : Option PublicKey}
    {body : ServerKeyExchangeBody} (hr : f.checkParams key body = .error r) : r.Proper := by
  unfold checkParams at hr
  split at hr
  · next why _ =>
    cases hr
    exact ⟨by show AlertDescription.decodeError ≠ _; decide, fun _ => by rintro ⟨⟩⟩
  · next x _ =>
    cases haccept : f.exchange.accept x f.randoms key with
    | error e =>
      rw [haccept] at hr
      cases hr
      exact Refusal.proper_refusal fun _ => by rintro ⟨⟩
    | ok k =>
      rw [haccept] at hr
      cases hr

theorem SigningKey.sign_error {k : SigningKey} {bs : Bytes} {e : TlsError}
    (h : k.sign bs = .error e) : ∃ why, e = .general why := by
  unfold sign at h
  split at h <;> split at h <;> cases h <;> exact ⟨_, rfl⟩

theorem SigningKey.sign_proper {k : SigningKey} {bs : Bytes} {e : TlsError}
    (h : k.sign bs = .error e) : e.Proper := by
  obtain ⟨why, rfl⟩ := sign_error h
  exact fun _ => by rintro ⟨⟩

theorem KeyExchange.start_proper {method : KeyExchangeMethod} {credentials : Option SrpCredentials}
    {e : TlsError}
    (h : (KeyExchange.start method credentials).mapError TlsError.config = .error e) : e.Proper := by
  cases hstart : KeyExchange.start method credentials with
  | error why =>
    rw [hstart] at h
    cases h
    exact fun _ => by rintro ⟨⟩
  | ok k =>
    rw [hstart] at h
    cases h

/-! ## Draws -/

namespace Drawing

variable {α β : Type} {E : TlsError → Prop}

/-- A draw whose failures are all of a kind. -/
def FailsAs (E : TlsError → Prop) (d : Drawing α) : Prop := ∀ src e, (d.run src).1 = .error e → E e

theorem failsAs_pure (a : α) : FailsAs E (pure a : Drawing α) := by
  intro src e h
  cases h

theorem failsAs_throw {e : TlsError} (he : E e) : FailsAs E (throw e : Drawing α) := by
  intro src e' h
  cases h
  exact he

theorem failsAs_bind {x : Drawing α} {f : α → Drawing β} (hx : FailsAs E x)
    (hf : ∀ a, FailsAs E (f a)) : FailsAs E (x >>= f) := by
  intro src e h
  change (ExceptT.bindCont (m := StateM RandomSource) f (x.run src).1 (x.run src).2).1 = _ at h
  rcases hrun : x.run src with ⟨e' | a, src'⟩
  all_goals rw [hrun] at h
  · cases h
    exact hx src e (by rw [hrun])
  · exact hf a src' e h

theorem failsAs_mapM {f : α → Drawing β} (hf : ∀ a, FailsAs E (f a)) (xs : List α) :
    FailsAs E (xs.mapM f) := by
  induction xs with
  | nil => exact failsAs_pure _
  | cons x xs ih =>
    rw [List.mapM_cons]
    exact failsAs_bind (hf x) fun _ => failsAs_bind ih fun _ => failsAs_pure _

section

variable (hrandom : E .noRandomness)
include hrandom

theorem failsAs_bytes (n : Nat) : FailsAs E (bytes n) := by
  intro src e h
  change (if src.holds n then (Except.ok (src.peek n), src.skip n)
    else (.error TlsError.noRandomness, src)).1 = _ at h
  split at h
  · cases h
  · cases h
    exact hrandom

theorem failsAs_helloRandom (time : Nat) : FailsAs E (helloRandom time) :=
  failsAs_bind (failsAs_bytes hrandom _) fun _ => failsAs_pure _

theorem failsAs_exponent (modulus : Nat) : FailsAs E (exponent modulus) :=
  failsAs_bind (failsAs_bytes hrandom _) fun _ => failsAs_pure _

theorem failsAs_nonzeroByte (fuel : Nat) : FailsAs E (Rsa.nonzeroByte fuel) := by
  induction fuel with
  | zero => exact failsAs_throw hrandom
  | succ fuel ih =>
    refine failsAs_bind (failsAs_bytes hrandom 1) fun bs => ?_
    dsimp only
    split
    · exact ih
    · exact failsAs_pure _

theorem failsAs_encrypt (k : RsaPublicKey) (secret : Bytes) : FailsAs E (k.encrypt secret) := by
  refine failsAs_bind (failsAs_bind (failsAs_bytes hrandom _) fun bs =>
    failsAs_mapM (fun b => ?_) bs) fun _ => failsAs_pure _
  split
  · exact failsAs_nonzeroByte hrandom _
  · exact failsAs_pure _

end

/-- A draw that fails with errors of its own only. -/
def Proper (d : Drawing α) : Prop := d.FailsAs TlsError.Proper

theorem proper_helloRandom (time : Nat) : Proper (helloRandom time) :=
  failsAs_helloRandom (fun _ => by rintro ⟨⟩) time

end Drawing

namespace KeyExchange

/-- Why an exchange can fail at its end, besides a lack of random bytes. -/
inductive Falters (key : Option PublicKey) : KeyExchange → KeyExchangeError → Prop
  | noKey (h : ∀ certified, key ≠ some (.rsa certified)) : Falters key .rsa .missingServerKey
  | noRoom : Falters key .rsa .encryptionFailed
  | noGroup (method : KeyExchangeMethod) : Falters key (.dhe method none) .malformedParameters
  | noPasswordGroup (method : KeyExchangeMethod) (credentials : SrpCredentials) :
    Falters key (.srp method credentials none) .malformedParameters
  | degenerate (method : KeyExchangeMethod) (credentials : SrpCredentials) (group : SrpGroup) :
    Falters key (.srp method credentials (some group)) .illegalParameter

open Drawing in
/-- These are all the ways in which it fails. -/
theorem failsAs_agree {E : TlsError → Prop} (hrandom : E .noRandomness) {k : KeyExchange}
    {key : Option PublicKey} (hfalters : ∀ why, k.Falters key why → E (.keyExchange why)) :
    (k.agree key).FailsAs E := by
  cases k with
  | rsa =>
    show (agreeRsa key).FailsAs E
    unfold agreeRsa
    split
    · have hencrypt (certified : RsaPublicKey) (secret : Bytes) : FailsAs E (do
          return (⟨← certified.encrypt secret, secret⟩ : Agreement)) :=
        failsAs_bind (failsAs_encrypt hrandom certified secret) fun _ => failsAs_pure _
      refine failsAs_bind (failsAs_bytes hrandom _) fun bs => ?_
      dsimp only
      split
      · exact failsAs_bind (failsAs_throw (hfalters _ .noRoom)) fun _ => hencrypt _ _
      · exact hencrypt _ _
    · next hkey => exact failsAs_throw (hfalters _ (.noKey fun certified h => hkey certified h))
  | dhe method group =>
    cases group with
    | none => exact failsAs_throw (hfalters _ (.noGroup method))
    | some group => exact failsAs_bind (failsAs_exponent hrandom _) fun _ => failsAs_pure _
  | srp method credentials group =>
    cases group with
    | none => exact failsAs_throw (hfalters _ (.noPasswordGroup method credentials))
    | some group =>
      refine failsAs_bind (failsAs_exponent hrandom _) fun a => ?_
      dsimp only
      split
      · exact failsAs_bind (failsAs_throw (hfalters _ (.degenerate method credentials group)))
          fun _ => failsAs_pure _
      · exact failsAs_pure _

theorem proper_agree (k : KeyExchange) (key : Option PublicKey) : (k.agree key).Proper :=
  failsAs_agree (fun _ => by rintro ⟨⟩) fun _ _ _ => by rintro ⟨⟩

end KeyExchange

end TlsClient
