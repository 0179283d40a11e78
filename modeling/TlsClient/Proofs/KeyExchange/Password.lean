import Mathlib.Data.Nat.ModEq
import Mathlib.Tactic.Ring
import TlsClient.Proofs.KeyExchange.Accepting
import TlsClient.Proofs.Numbers

/-!
# Both sides of a password exchange get the same secret

A server keeps a verifier of the password.  Its public value is a power of the generator, hidden by a
multiple of the verifier, and its secret is a power of what the client contributes and the verifier
(`SrpServer`).  The client takes the multiple away again and raises what is left to an exponent of its
own; the two numbers are equal for any modulus (`SrpServer.shares`).
-/

namespace TlsClient

namespace Bytes

theorem digits_le {a n : Nat} (h : a ≤ n) : digits a ≤ digits n := by
  have hlog : a.log2 ≤ n.log2 := by
    by_cases ha : a = 0
    · simp [ha]
    · rw [Nat.le_log2 (by omega)]
      exact Nat.le_trans ((Nat.le_log2 ha).mp le_rfl) h
  unfold digits
  omega

theorem toNat_replicate_append (k : Nat) (bs : Bytes) :
    toNat (List.replicate k 0 ++ bs) = toNat bs := by
  induction k with
  | zero => rfl
  | succ k ih => simpa [toNat, List.replicate_succ] using ih

/-- Filled up with zeros, the shortest form of a number is the form of that width. -/
theorem padLeft_shortest {width n : Nat} (h : digits n ≤ width) :
    padLeft width (shortest n) = ofNat width n := by
  have hlength : (padLeft width (shortest n)).length = width := by
    simp only [padLeft, shortest, List.length_append, List.length_replicate, length_ofNat]
    omega
  have hnumber : toNat (padLeft width (shortest n)) = n := by
    rw [padLeft, toNat_replicate_append, toNat_shortest]
  rw [← ofNat_toNat (padLeft width (shortest n)), hlength, hnumber]

end Bytes

/-- What is drawn goes to the rest of the computation. -/
theorem Drawing.run_bind {α β : Type} {x : Drawing α} {f : α → Drawing β} {src src' : RandomSource}
    {a : α} (h : x.run src = (.ok a, src')) : (x >>= f).run src = (f a).run src' := by
  change ExceptT.bindCont (m := StateM RandomSource) f (x.run src).1 (x.run src).2 = _
  rw [h]
  rfl

/-- How many bytes are drawn for an exponent. -/
def Drawing.exponentLength (modulus : Nat) : Nat := Bytes.digits modulus + surplus

/-- An exponent is what remains of the number that is drawn. -/
theorem Drawing.run_exponent {n : Nat} {src : RandomSource}
    (h : src.holds (exponentLength n) = true) :
    (exponent n).run src = (.ok (Bytes.toNat (src.peek (exponentLength n)) % (n - 3) + 2),
      src.skip (exponentLength n)) := by
  have hdraw : (bytes (exponentLength n)).run src =
      (.ok (src.peek (exponentLength n)), src.skip (exponentLength n)) := if_pos h
  exact run_bind hdraw

/-- An exponent is drawn wherever the stream has enough bytes, and is neither zero nor one nor the
highest number below the modulus. -/
theorem Drawing.exists_exponent {n : Nat} (hn : 3 < n) {src : RandomSource}
    (h : src.holds (Bytes.digits n + 8) = true) :
    ∃ a, (exponent n).run src = (.ok a, src.skip (Bytes.digits n + 8)) ∧ 2 ≤ a ∧ a + 2 ≤ n := by
  have hlt := Nat.mod_lt (Bytes.toNat (src.peek (exponentLength n))) (show 0 < n - 3 by omega)
  exact ⟨_, run_exponent h, by omega, by omega⟩

/-! ## A server -/

/-- A server that was set up for a name and a password, with the exponent it drew. -/
structure SrpServer where
  n : Nat
  g : Nat
  salt : Bytes
  credentials : SrpCredentials
  secret : Nat

namespace SrpServer

variable (s : SrpServer)

/-- A number in as many bytes as the modulus has. -/
def pad (a : Nat) : Bytes := Bytes.ofNat (Bytes.digits s.n) a

/-- The exponent that stands for the password. -/
def exponent : Nat :=
  Bytes.toNat (Hash.Sha1.hash (s.salt ++
    Hash.Sha1.hash (s.credentials.identity ++ Bytes.ofString ":" ++ s.credentials.password)))

/-- What the server keeps instead of the password. -/
def verifier : Nat := s.g ^ s.exponent % s.n

def multiplier : Nat := Bytes.toNat (Hash.Sha1.hash (Bytes.shortest s.n ++ s.pad s.g))

/-- The public value. -/
def share : Nat := (s.multiplier * s.verifier + s.g ^ s.secret) % s.n

/-- The number that both sides make of the two public values. -/
def scrambler (contribution : Nat) : Nat :=
  Bytes.toNat (Hash.Sha1.hash (s.pad contribution ++ s.pad s.share))

/-- The secret that follows from the client's public value. -/
def premaster (contribution : Nat) : Nat :=
  (contribution * s.verifier ^ s.scrambler contribution) ^ s.secret % s.n

/-- The parameters spell the numbers of the server. -/
structure Sends (params : SrpParams) : Prop where
  n : Bytes.toNat params.n = s.n
  g : Bytes.toNat params.g = s.g
  salt : params.salt = s.salt
  share : Bytes.toNat params.share = s.share

/-- The numbers of the server, as a client reads them. -/
def group : SrpGroup := { n := s.n, g := s.g, salt := s.salt, share := s.share }

variable {s}

theorem Sends.group {params : SrpParams} (h : s.Sends params) : .ofParams params = s.group := by
  simp [SrpGroup.ofParams, SrpServer.group, h.n, h.g, h.salt, h.share]

/-! ## The client's side -/

theorem group_pad {a : Nat} (h : a ≤ s.n) : s.group.pad a = s.pad a :=
  Bytes.padLeft_shortest (Bytes.digits_le h)

theorem group_multiplier (hg : s.g < s.n) : s.group.multiplier = s.multiplier := by
  have hn : s.group.pad s.n = Bytes.shortest s.n := group_pad le_rfl
  unfold SrpGroup.multiplier SrpGroup.hashPair multiplier
  rw [show s.group.n = s.n from rfl, show s.group.g = s.g from rfl, hn, group_pad hg.le]

theorem group_hashPair (hn : 0 < s.n) {contribution : Nat} (h : contribution < s.n) :
    s.group.hashPair contribution s.share = s.scrambler contribution := by
  have hshare : s.share < s.n := Nat.mod_lt _ hn
  unfold SrpGroup.hashPair scrambler
  rw [group_pad h.le, group_pad hshare.le]

/-- Without the multiple of the verifier, the public value is a power of the generator.  The client
adds the modulus before it subtracts, so nothing is cut off. -/
theorem group_unmasked (hg : s.g < s.n) :
    s.group.unmasked s.exponent ≡ s.g ^ s.secret [MOD s.n] := by
  have hmask : s.multiplier * s.verifier % s.n < s.n := Nat.mod_lt _ (by omega)
  have hunmasked : s.group.unmasked s.exponent =
      (s.share % s.n + s.n - s.multiplier * s.verifier % s.n) % s.n := by
    unfold SrpGroup.unmasked
    rw [group_multiplier hg, Number.powMod_eq]
    rfl
  apply Nat.ModEq.add_right_cancel' (s.multiplier * s.verifier % s.n)
  calc s.group.unmasked s.exponent + s.multiplier * s.verifier % s.n
      ≡ s.share % s.n + s.n - s.multiplier * s.verifier % s.n
          + s.multiplier * s.verifier % s.n [MOD s.n] := by
        rw [hunmasked]
        exact (Nat.mod_modEq _ _).add_right _
    _ = s.share % s.n + s.n := by omega
    _ ≡ s.share [MOD s.n] := by
        rw [Nat.ModEq, Nat.add_mod_right, Nat.mod_mod]
    _ ≡ s.multiplier * s.verifier + s.g ^ s.secret [MOD s.n] := Nat.mod_modEq _ _
    _ = s.g ^ s.secret + s.multiplier * s.verifier := Nat.add_comm _ _
    _ ≡ s.g ^ s.secret + s.multiplier * s.verifier % s.n [MOD s.n] :=
        (Nat.mod_modEq _ _).symm.add_left _

/-- Both sides reach the same power of the generator, each from its own exponents. -/
theorem premaster_eq (hg : s.g < s.n) (a : Nat) :
    s.group.unmasked s.exponent ^ (a + s.scrambler (s.g ^ a % s.n) * s.exponent) % s.n =
      s.premaster (s.g ^ a % s.n) := by
  generalize hu : s.scrambler (s.g ^ a % s.n) = u
  have hcontribution : s.g ^ a % s.n ≡ s.g ^ a [MOD s.n] := Nat.mod_modEq _ _
  have hverifier : s.verifier ≡ s.g ^ s.exponent [MOD s.n] := Nat.mod_modEq _ _
  have hexponents : s.secret * (a + u * s.exponent) = (a + s.exponent * u) * s.secret := by ring
  unfold premaster
  rw [hu]
  calc s.group.unmasked s.exponent ^ (a + u * s.exponent)
      ≡ (s.g ^ s.secret) ^ (a + u * s.exponent) [MOD s.n] := (group_unmasked hg).pow _
    _ = (s.g ^ a * (s.g ^ s.exponent) ^ u) ^ s.secret := by
        rw [← pow_mul, hexponents, pow_mul, pow_add, pow_mul s.g s.exponent u]
    _ ≡ (s.g ^ a % s.n * s.verifier ^ u) ^ s.secret [MOD s.n] :=
        (hcontribution.symm.mul (hverifier.symm.pow u)).pow _

/-- What the client agrees on once it has drawn its exponent. -/
theorem group_agree (hg : s.g < s.n) {src src' : RandomSource} {a : Nat}
    (hdraw : (Drawing.exponent s.n).run src = (.ok a, src'))
    (hscrambler : s.scrambler (s.g ^ a % s.n) ≠ 0) :
    (s.group.agree s.credentials).run src =
      (.ok ⟨Bytes.shortest (s.g ^ a % s.n), Bytes.shortest (s.premaster (s.g ^ a % s.n))⟩, src') := by
  have hshare : Number.powMod s.g a s.n = s.g ^ a % s.n := Number.powMod_eq ..
  have hpair : s.group.hashPair (s.g ^ a % s.n) s.share = s.scrambler (s.g ^ a % s.n) :=
    group_hashPair (by omega) (Nat.mod_lt _ (by omega))
  have hexponent : s.group.passwordExponent s.credentials = s.exponent := rfl
  refine (Drawing.run_bind hdraw).trans ?_
  simp only [show s.group.n = s.n from rfl, show s.group.g = s.g from rfl,
    show s.group.share = s.share from rfl, hshare, hpair, hexponent, hscrambler, if_false,
    Number.powMod_eq, premaster_eq hg]
  rfl

/-! ## Both sides -/

/-- The exchange ends with the secret of the server: it draws an exponent, contributes that power of the
generator, and gets what the server makes of its contribution. -/
def SharedBy (s : SrpServer) (k : KeyExchange) : Prop :=
  ∀ (certified : Option PublicKey) (src : RandomSource), src.holds (Bytes.digits s.n + 8) = true →
    ∃ a src', (Drawing.exponent s.n).run src = (.ok a, src') ∧ 2 ≤ a ∧ a + 2 ≤ s.n ∧
      (s.scrambler (s.g ^ a % s.n) ≠ 0 → (k.agree certified).run src =
        (.ok { contribution := Bytes.shortest (s.g ^ a % s.n)
               premaster := Bytes.shortest (s.premaster (s.g ^ a % s.n)) }, src'))

/-- A client with the name and password that a server was set up for accepts its parameters, and both
get the same secret. -/
theorem shares (hn : 3 < s.n) (hg : 2 ≤ s.g) (hgn : s.g < s.n) (hshare : s.share % s.n ≠ 0)
    {params : SrpParams} (hparams : s.Sends params) (randoms : Randoms) (key : Option PublicKey) :
    ∃ fresh k, KeyExchange.start .srp (some s.credentials) = .ok fresh ∧
      fresh.accept ⟨.srp params, none⟩ randoms key = .ok k ∧ s.SharedBy k := by
  have hstart : KeyExchange.start .srp (some s.credentials) =
      .ok (.srp .srp s.credentials none) := rfl
  have hrange : params.InRange := by
    constructor
    case modulus => rwa [hparams.n]
    case generator =>
      rw [hparams.g, hparams.n]
      exact ⟨hg, hgn⟩
    case share =>
      rw [hparams.n, hparams.share]
      exact fun h => hshare (Nat.mod_eq_zero_of_dvd h)
  have haccept : (KeyExchange.srp .srp s.credentials none).accept ⟨.srp params, none⟩ randoms key =
      .ok (.srp .srp s.credentials (some s.group)) := by
    rw [← hparams.group]
    exact (KeyExchange.accept_ok_iff hstart ⟨_, rfl⟩).mpr ⟨hrange, nofun, rfl⟩
  refine ⟨_, _, hstart, haccept, ?_⟩
  intro certified src hholds
  obtain ⟨a, hdraw, hlow, hhigh⟩ := Drawing.exists_exponent hn hholds
  exact ⟨a, _, hdraw, hlow, hhigh, group_agree hgn hdraw⟩

/-- A server of a small group. -/
def small : SrpServer where
  n := 1019
  g := 2
  salt := [1, 2, 3]
  credentials := { identity := Bytes.ofString "alice", password := Bytes.ofString "password123" }
  secret := 77

/-- The public value, in a form that can be computed. -/
theorem share_eq : s.share =
    (s.multiplier % s.n * Number.powMod s.g s.exponent s.n + s.g ^ s.secret) % s.n := by
  rw [share, verifier, Number.powMod_eq]
  exact ((Nat.mod_modEq s.multiplier s.n).symm.mul_right _).add_right _

set_option maxRecDepth 20000 in
theorem share_small : small.share = 28 := by
  have hmultiplier : small.multiplier % small.n = 353 := by decide +kernel
  have hexponent : small.exponent = 404133877607422262997038811150956960254399442091 := by
    decide +kernel
  have hpower : Number.powMod 2 404133877607422262997038811150956960254399442091 1019 = 88 := by
    cbv
  have hverifier : Number.powMod small.g small.exponent small.n = 88 := by
    rw [hexponent]
    exact hpower
  rw [share_eq, hmultiplier, hverifier]
  decide

/-- A server of a small group has a public value, and parameters to send. -/
theorem shares_closed : (3 < small.n ∧ 2 ≤ small.g ∧ small.g < small.n ∧ small.share % small.n ≠ 0) ∧
    ∃ params, small.Sends params ∧ ∀ randoms key, ∃ fresh k,
      KeyExchange.start .srp (some small.credentials) = .ok fresh ∧
      fresh.accept ⟨.srp params, none⟩ randoms key = .ok k ∧ small.SharedBy k := by
  have hn : 3 < small.n := by decide
  have hg : 2 ≤ small.g := by decide
  have hgn : small.g < small.n := by decide
  have hshare : small.share % small.n ≠ 0 := by
    rw [share_small]
    decide
  have hparams : small.Sends ⟨[3, 251], [2], [1, 2, 3], [28]⟩ := by
    refine ⟨by decide, by decide, by decide, ?_⟩
    rw [share_small]
    decide
  exact ⟨⟨hn, hg, hgn, hshare⟩, _, hparams, shares hn hg hgn hshare hparams⟩

end SrpServer

end TlsClient
