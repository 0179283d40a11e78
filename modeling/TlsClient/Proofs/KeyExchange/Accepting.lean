import TlsClient.KeyExchange.Basic
import TlsClient.Proofs.Wire.Reading

/-!
# Which parameters a key exchange accepts

A key exchange that was just started looks at the server's parameters in two steps.  Numbers out of
range are refused whatever comes with them; numbers in range are accepted if the method is not signed,
or if the server's key signed them for the randoms of this connection (`KeyExchange.judges`).  Refused
parameters leave nothing behind: without parameters there is no secret, and nothing is drawn for one.
-/

namespace TlsClient

/-! ## Numbers in range -/

/-- A group that is fit for use: the modulus is above two and taken for a prime, and neither the
generator nor the public value is trivial. -/
structure DhParams.InRange (d : DhParams) : Prop where
  modulus : 2 < Bytes.toNat d.p
  prime : Number.isProbablePrime (Bytes.toNat d.p) = true
  generator : 2 ≤ Bytes.toNat d.g ∧ Bytes.toNat d.g + 2 ≤ Bytes.toNat d.p
  share : 2 ≤ Bytes.toNat d.share ∧ Bytes.toNat d.share + 1 ≤ Bytes.toNat d.p

/-- A group that is fit for use with a password: the modulus is above three and does not divide the
public value, and the generator is not trivial. -/
structure SrpParams.InRange (s : SrpParams) : Prop where
  modulus : 3 < Bytes.toNat s.n
  generator : 2 ≤ Bytes.toNat s.g ∧ Bytes.toNat s.g < Bytes.toNat s.n
  share : ¬ Bytes.toNat s.n ∣ Bytes.toNat s.share

theorem DhGroup.isSafe_iff {d : DhParams} : (DhGroup.ofParams d).isSafe = true ↔ d.InRange := by
  simp only [isSafe, Bool.and_eq_true, decide_eq_true_eq]
  simp only [ofParams]
  constructor
  · rintro ⟨⟨⟨⟨⟨hmodulus, hprime⟩, hg⟩, hg'⟩, hshare⟩, hshare'⟩
    exact ⟨hmodulus, hprime, ⟨hg, by omega⟩, ⟨hshare, by omega⟩⟩
  · rintro ⟨hmodulus, hprime, ⟨hg, hg'⟩, ⟨hshare, hshare'⟩⟩
    exact ⟨⟨⟨⟨⟨hmodulus, hprime⟩, hg⟩, by omega⟩, hshare⟩, by omega⟩

theorem SrpGroup.isSafe_iff {s : SrpParams} : (SrpGroup.ofParams s).isSafe = true ↔ s.InRange := by
  simp only [isSafe, Bool.and_eq_true, decide_eq_true_eq, bne_iff_ne]
  simp only [ofParams]
  constructor
  · rintro ⟨⟨⟨hmodulus, hg⟩, hg'⟩, hshare⟩
    exact ⟨hmodulus, ⟨hg, hg'⟩, fun h => hshare (Nat.mod_eq_zero_of_dvd h)⟩
  · rintro ⟨hmodulus, ⟨hg, hg'⟩, hshare⟩
    exact ⟨⟨⟨hmodulus, hg⟩, hg'⟩, fun h => hshare (Nat.dvd_of_mod_eq_zero h)⟩

namespace ServerParams

def InRange : ServerParams → Prop
  | dh d => d.InRange
  | srp s => s.InRange

/-- The parameters are of the kind that a method goes with. -/
def Suits (p : ServerParams) : KeyExchangeMethod → Prop
  | .rsa => False
  | .dheRsa | .dheDss => ∃ d, p = dh d
  | .srp | .srpRsa | .srpDss => ∃ s, p = srp s

section

variable {p : ServerParams} {method : KeyExchangeMethod}

theorem Suits.expects (h : p.Suits method) : method.expectsServerParams = true := by
  cases method with
  | rsa => exact h.elim
  | _ => rfl

theorem Suits.dh (h : p.Suits method) (hkind : method.isSrp = false) : ∃ d, p = .dh d := by
  cases method with
  | rsa => exact h.elim
  | dheRsa | dheDss => exact h
  | srp | srpRsa | srpDss => cases hkind

theorem Suits.srp (h : p.Suits method) (hkind : method.isSrp = true) : ∃ s, p = .srp s := by
  cases method with
  | rsa => exact h.elim
  | dheRsa | dheDss => cases hkind
  | srp | srpRsa | srpDss => exact h

/-- What is read for a method suits it. -/
theorem suits_of_decode {bs rest : Bytes} (h : (decode method).run bs = .ok (p, rest)) :
    p.Suits method := by
  cases method with
  | rsa => cases h
  | dheRsa | dheDss =>
    obtain ⟨d, -, hd⟩ := Decoder.map_ok.mp h
    exact ⟨d, hd⟩
  | srp | srpRsa | srpDss =>
    obtain ⟨s, -, hs⟩ := Decoder.map_ok.mp h
    exact ⟨s, hs⟩

end

end ServerParams

/-! ## Parameters under a signature -/

/-- The parameters bear a signature, and the server's key is of the kind that the method needs and
signed both randoms and the parameters with it. -/
def ServerKeyExchange.Vouched (x : ServerKeyExchange) (method : KeyExchangeMethod) (randoms : Randoms)
    (key : Option PublicKey) : Prop :=
  ∃ signature certified, x.signature = some signature ∧ key = some certified ∧
    method.certificateKey = some certified.algorithm ∧
    certified.verifies (randoms.client.bytes ++ randoms.server.bytes ++ x.params.encode) signature
      = true

/-- What is read for a signed method bears a signature. -/
theorem ServerKeyExchange.suits_of_decode {method : KeyExchangeMethod} {bs rest : Bytes}
    {x : ServerKeyExchange} (h : (ServerKeyExchange.decode method).run bs = .ok (x, rest)) :
    x.params.Suits method ∧ (method.isSigned = true → ∃ signature, x.signature = some signature) := by
  obtain ⟨params, mid, hparams, hrest⟩ := Decoder.bind_ok.mp h
  have hsuits : params.Suits method := ServerParams.suits_of_decode hparams
  dsimp only at hrest
  split at hrest
  · obtain ⟨signature, _, hsignature, hpure⟩ := Decoder.bind_ok.mp hrest
    obtain ⟨signed, -, rfl⟩ := Decoder.map_ok.mp hsignature
    cases hpure
    exact ⟨hsuits, fun _ => ⟨signed, rfl⟩⟩
  · next hunsigned =>
    cases hrest
    exact ⟨hsuits, fun hsigned => absurd hsigned hunsigned⟩

namespace KeyExchange

variable {method : KeyExchangeMethod} {credentials : Option SrpCredentials} {k : KeyExchange}
  {x : ServerKeyExchange} {randoms : Randoms} {key : Option PublicKey}

theorem checkSignature_ok_iff : checkSignature method x randoms key = .ok () ↔
    (method.isSigned = true → x.Vouched method randoms key) := by
  unfold checkSignature
  split
  · next hunsigned => simp_all
  · next hsigned =>
    have hsigned : method.isSigned = true := by simpa using hsigned
    simp only [hsigned, true_implies]
    split
    · next hnone =>
      constructor
      · exact nofun
      · rintro ⟨signature, certified, hsome, -⟩
        rw [hnone] at hsome
        cases hsome
    · constructor
      · exact nofun
      · rintro ⟨signature, certified, -, hkey, -⟩
        cases hkey
    · next signature certified hsome =>
      constructor
      · intro h
        split at h
        · cases h
        · next halgorithm =>
          split at h
          · next hverifies =>
            exact ⟨signature, certified, hsome, rfl, (not_not.mp halgorithm).symm, hverifies⟩
          · cases h
      · rintro ⟨signature', certified', hsome', hkey, halgorithm, hverifies⟩
        cases hkey
        cases hsome.symm.trans hsome'
        rw [if_neg (not_not.mpr halgorithm.symm)]
        exact if_pos hverifies

/-! ## An exchange that was just started -/

/-- The exchange with parameters of its kind in hand. -/
def holding (k : KeyExchange) (p : ServerParams) : KeyExchange :=
  match k, p with
  | dhe method _, .dh d => dhe method (some (.ofParams d))
  | srp method credentials _, .srp s => srp method credentials (some (.ofParams s))
  | k, _ => k

/-- The exchange after parameters arrived: accepted ones are in hand, refused ones change nothing. -/
def given (k : KeyExchange) (x : ServerKeyExchange) (randoms : Randoms) (key : Option PublicKey) :
    KeyExchange :=
  match k.accept x randoms key with
  | .ok k' => k'
  | .error _ => k

theorem start_rsa (hstart : start method credentials = .ok k)
    (h : method.expectsServerParams = false) : k = .rsa := by
  cases method with
  | rsa =>
    cases hstart
    rfl
  | _ => cases h

/-- An exchange that takes parameters starts without any. -/
theorem start_expects (hstart : start method credentials = .ok k)
    (hexpects : method.expectsServerParams = true) :
    method.isSrp = false ∧ k = .dhe method none ∨
      method.isSrp = true ∧ ∃ c, k = .srp method c none := by
  cases method with
  | rsa => cases hexpects
  | dheRsa | dheDss =>
    cases hstart
    exact .inl ⟨rfl, rfl⟩
  | srp | srpRsa | srpDss =>
    cases credentials with
    | none => cases hstart
    | some c =>
      cases hstart
      exact .inr ⟨rfl, c, rfl⟩

theorem started {p : ServerParams} (hstart : start method credentials = .ok k)
    (hsuits : p.Suits method) :
    (∃ d, p = .dh d ∧ k = .dhe method none) ∨ ∃ s c, p = .srp s ∧ k = .srp method c none := by
  rcases start_expects hstart hsuits.expects with ⟨hkind, rfl⟩ | ⟨hkind, c, rfl⟩
  · obtain ⟨d, rfl⟩ := hsuits.dh hkind
    exact .inl ⟨d, rfl, rfl⟩
  · obtain ⟨s, rfl⟩ := hsuits.srp hkind
    exact .inr ⟨s, c, rfl, rfl⟩

/-- The signature of parameters in range is all that is left to check. -/
theorem accept_of_inRange (hstart : start method credentials = .ok k)
    (hsuits : x.params.Suits method) (h : x.params.InRange) :
    k.accept x randoms key =
      (checkSignature method x randoms key).map fun _ => k.holding x.params := by
  obtain ⟨d, hd, rfl⟩ | ⟨s, c, hs, rfl⟩ := started hstart hsuits
  · rw [hd] at h
    have hsafe := DhGroup.isSafe_iff.mpr h
    simp only [accept, hd, hsafe, holding]
    cases checkSignature method x randoms key <;> rfl
  · rw [hs] at h
    have hsafe := SrpGroup.isSafe_iff.mpr h
    simp only [accept, hs, hsafe, holding]
    cases checkSignature method x randoms key <;> rfl

theorem accept_of_not_inRange (hstart : start method credentials = .ok k)
    (hsuits : x.params.Suits method) (h : ¬ x.params.InRange) :
    k.accept x randoms key = .error .illegalParameter := by
  obtain ⟨d, hd, rfl⟩ | ⟨s, c, hs, rfl⟩ := started hstart hsuits
  · rw [hd] at h
    have hsafe := Bool.eq_false_iff.mpr fun hsafe => h (DhGroup.isSafe_iff.mp hsafe)
    simp only [accept, hd, hsafe]
    rfl
  · rw [hs] at h
    have hsafe := Bool.eq_false_iff.mpr fun hsafe => h (SrpGroup.isSafe_iff.mp hsafe)
    simp only [accept, hs, hsafe]
    rfl

theorem accept_ok_iff (hstart : start method credentials = .ok k) (hsuits : x.params.Suits method)
    {k' : KeyExchange} : k.accept x randoms key = .ok k' ↔
      x.params.InRange ∧ (method.isSigned = true → x.Vouched method randoms key) ∧
        k' = k.holding x.params := by
  by_cases hrange : x.params.InRange
  · rw [accept_of_inRange hstart hsuits hrange, ← checkSignature_ok_iff]
    cases checkSignature method x randoms key with
    | error e =>
      constructor
      · exact nofun
      · rintro ⟨-, hcheck, -⟩
        cases hcheck
    | ok u =>
      constructor
      · intro h
        cases h
        exact ⟨hrange, rfl, rfl⟩
      · rintro ⟨-, -, rfl⟩
        rfl
  · rw [accept_of_not_inRange hstart hsuits hrange]
    constructor
    · exact nofun
    · rintro ⟨h, -⟩
      exact absurd h hrange

/-- Without parameters there is no secret, and nothing is drawn. -/
theorem agree_of_start {p : ServerParams} (hstart : start method credentials = .ok k)
    (hsuits : p.Suits method) (certified : Option PublicKey) (src : RandomSource) :
    (k.agree certified).run src = (.error (.keyExchange .malformedParameters), src) := by
  obtain ⟨d, -, rfl⟩ | ⟨s, c, -, rfl⟩ := started hstart hsuits
  · rfl
  · rfl

/-- How an exchange deals with some parameters. -/
structure Judges (k : KeyExchange) (method : KeyExchangeMethod) (x : ServerKeyExchange) : Prop where
  accepts : ∀ randoms key, (∃ k', k.accept x randoms key = .ok k') ↔
    x.params.InRange ∧ (method.isSigned = true → x.Vouched method randoms key)
  /-- Accepted parameters are used as they are. -/
  holds : ∀ randoms key k', k.accept x randoms key = .ok k' → k' = k.holding x.params
  /-- Numbers out of range are refused for that, whatever signature comes with them. -/
  range : ¬ x.params.InRange → ∀ signature randoms key,
    k.accept { x with signature } randoms key = .error .illegalParameter
  /-- Once parameters were refused there is no secret, and nothing is drawn. -/
  refused : ∀ randoms key e, k.accept x randoms key = .error e → ∀ certified src,
    ((k.given x randoms key).agree certified).run src =
      (.error (.keyExchange .malformedParameters), src)

/-- An exchange that was just started accepts parameters of its kind exactly if they are in range and,
where the method is signed, signed by the server's key. -/
theorem judges (hstart : start method credentials = .ok k) (hsuits : x.params.Suits method) :
    k.Judges method x where
  accepts randoms key := by
    constructor
    · rintro ⟨k', h⟩
      obtain ⟨hrange, hvouched, -⟩ := (accept_ok_iff hstart hsuits).mp h
      exact ⟨hrange, hvouched⟩
    · rintro ⟨hrange, hvouched⟩
      exact ⟨_, (accept_ok_iff hstart hsuits).mpr ⟨hrange, hvouched, rfl⟩⟩
  holds randoms key k' h := ((accept_ok_iff hstart hsuits).mp h).2.2
  range h signature randoms key :=
    accept_of_not_inRange (x := { x with signature }) hstart hsuits h
  refused randoms key e h certified src := by
    rw [given, h]
    exact agree_of_start hstart hsuits certified src

/-- Parameters of both kinds. -/
theorem judges_closed :
    (∃ k, start .srp (some ⟨[], []⟩) = .ok k ∧
      (ServerParams.srp ⟨[7], [3], [], [2]⟩).Suits .srp ∧
      k.Judges .srp ⟨.srp ⟨[7], [3], [], [2]⟩, none⟩) ∧
    ∃ k, start .dheRsa none = .ok k ∧ (ServerParams.dh ⟨[23], [5], [8]⟩).Suits .dheRsa ∧
      k.Judges .dheRsa ⟨.dh ⟨[23], [5], [8]⟩, some []⟩ := by
  have hsrp : start .srp (some ⟨[], []⟩) = .ok (.srp .srp ⟨[], []⟩ none) := rfl
  have hdhe : start .dheRsa none = .ok (.dhe .dheRsa none) := rfl
  exact ⟨⟨_, hsrp, ⟨_, rfl⟩, judges hsrp ⟨_, rfl⟩⟩, _, hdhe, ⟨_, rfl⟩, judges hdhe ⟨_, rfl⟩⟩

end KeyExchange

end TlsClient
