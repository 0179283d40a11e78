import TlsClient.Proofs.Checked
import TlsClient.Proofs.KeyExchange.Password

/-!
# Agreements in an accepted group

An exponent is drawn from two to the modulus less two, so the modulus has to be above three.  No check
of the modulus of a Diffie-Hellman group says so: that three is refused follows from the bounds of the
generator (`DhGroup.three_lt`).  In an accepted group every exponent of that range can be drawn, nothing
is divided by zero and nothing is subtracted from less (`Agreement.Assured`), and a server that knows
the exponent of its public value gets the same secret (`accepted_assured`).
-/

namespace TlsClient

namespace Bytes

/-- The shortest big-endian form of a number: a string that spells it, and no other is shorter but the
empty one, which spells zero. -/
structure IsShortest (bs : Bytes) (n : Nat) : Prop where
  ne_nil : bs ≠ []
  spells : toNat bs = n
  le : ∀ other : Bytes, other ≠ [] → toNat other = n → bs.length ≤ other.length

theorem digits_toNat_le {bs : Bytes} (h : bs ≠ []) : digits (toNat bs) ≤ bs.length := by
  have hpos := List.length_pos_iff.mpr h
  by_cases hzero : toNat bs = 0
  · rw [hzero]
    exact hpos
  · have hlog : (toNat bs).log2 < 8 * bs.length := by
      rw [Nat.log2_lt hzero, Nat.pow_mul]
      exact toNat_lt bs
    unfold digits
    omega

theorem length_shortest (n : Nat) : (shortest n).length = digits n := length_ofNat _ _

theorem isShortest_shortest (n : Nat) : (shortest n).IsShortest n where
  ne_nil := List.length_pos_iff.mp (length_shortest n ▸ Nat.succ_pos _)
  spells := toNat_shortest n
  le other hne h := by
    rw [length_shortest, ← h]
    exact digits_toNat_le hne

theorem lt_pow_digits (n : Nat) : n < 256 ^ digits n := by
  have h := toNat_lt (shortest n)
  rwa [toNat_shortest, length_shortest] at h

/-- A number below another needs no more bytes than the other was sent in. -/
theorem IsShortest.length_le {bs other : Bytes} {n : Nat} (h : bs.IsShortest n)
    (hn : n < toNat other) : bs.length ≤ other.length := by
  have hne : other ≠ [] := by
    rintro rfl
    exact Nat.not_lt_zero _ hn
  calc bs.length
      ≤ (shortest n).length :=
        h.le _ (isShortest_shortest n).ne_nil (isShortest_shortest n).spells
    _ = digits n := length_shortest n
    _ ≤ digits (toNat other) := digits_le hn.le
    _ ≤ other.length := digits_toNat_le hne

end Bytes

/-- A stream that begins with given bytes. -/
def RandomSource.giving (bs : Bytes) : RandomSource where
  byte i := bs.getD i 0

theorem RandomSource.peek_giving (bs : Bytes) : (giving bs).peek bs.length = bs := by
  refine List.ext_getElem (length_peek _ _) fun i hi hi' => ?_
  simp [peek, giving, hi']

/-- Every exponent from two to the modulus less two is drawn from some stream. -/
theorem Drawing.exists_stream {n a : Nat} (hlow : 2 ≤ a) (hhigh : a ≤ n - 2) (hn : 3 < n) :
    ∃ src : RandomSource, src.holds (exponentLength n) = true ∧
      (exponent n).run src = (.ok a, src.skip (exponentLength n)) := by
  let bs := Bytes.ofNat (exponentLength n) (a - 2)
  have hlength : bs.length = exponentLength n := Bytes.length_ofNat _ _
  have hpeek : (RandomSource.giving bs).peek (exponentLength n) = bs :=
    hlength ▸ RandomSource.peek_giving bs
  have hlt : a - 2 < 256 ^ (exponentLength n) :=
    calc a - 2 < n := by omega
      _ < 256 ^ Bytes.digits n := Bytes.lt_pow_digits n
      _ ≤ 256 ^ (exponentLength n) := Nat.pow_le_pow_right (by decide) (Nat.le_add_right _ _)
  have hspells : Bytes.toNat bs = a - 2 := by
    rw [Bytes.toNat_ofNat, Nat.mod_eq_of_lt hlt]
  refine ⟨RandomSource.giving bs, rfl, ?_⟩
  rw [run_exponent rfl, hpeek, hspells, Nat.mod_eq_of_lt (by omega), Nat.sub_add_cancel hlow]

/-! ## What follows from a stream -/

namespace Agreement

/-- What follows from a stream in a group with this modulus and generator.  `agree` is how an agreement is
reached, `agreed?` how it follows from the bytes that are drawn by operations that can fail. -/
structure Follows (modulus generator : Nat) (agree : Drawing Agreement)
    (agreed? : Bytes → Option (Except TlsError Agreement)) (src : RandomSource) (a : Nat)
    (result : Except TlsError Agreement) : Prop where
  drawn : (Drawing.exponent modulus).run src =
    (.ok a, src.skip (Drawing.exponentLength modulus))
  low : 2 ≤ a
  high : a ≤ modulus - 2
  run : agree.run src = (result, src.skip (Drawing.exponentLength modulus))
  /-- Nothing is divided by zero, and nothing is subtracted from less. -/
  defined : agreed? (src.peek (Drawing.exponentLength modulus)) = some result
  contribution : ∀ agreement, result = .ok agreement →
    agreement.contribution.IsShortest (generator ^ a % modulus)
  below : ∀ agreement, result = .ok agreement → Bytes.toNat agreement.contribution < modulus
  /-- The contribution fits the length of two bytes that the modulus fitted. -/
  fits : ∀ agreement, result = .ok agreement → ∀ bs : Bytes, Bytes.toNat bs = modulus →
    bs.length < 256 ^ 2 → agreement.contribution.length < 256 ^ 2

/-- How agreements are reached in a group. -/
structure Assured (modulus generator : Nat) (agree : Drawing Agreement)
    (agreed? : Bytes → Option (Except TlsError Agreement)) : Prop where
  three_lt : 3 < modulus
  follows : ∀ src : RandomSource, src.holds (Drawing.exponentLength modulus) = true →
    ∃ a result, Follows modulus generator agree agreed? src a result
  /-- No exponent of the range is left out. -/
  every : ∀ a, 2 ≤ a → a ≤ modulus - 2 → ∃ src : RandomSource,
    src.holds (Drawing.exponentLength modulus) = true ∧
      (Drawing.exponent modulus).run src =
        (.ok a, src.skip (Drawing.exponentLength modulus))

section

variable {modulus generator : Nat} {agree : Drawing Agreement}
  {agreed? : Bytes → Option (Except TlsError Agreement)}

/-- It is enough to know how each exponent ends. -/
theorem assured (outcome : Nat → Except TlsError Agreement) (hmodulus : 3 < modulus)
    (hrun : ∀ {src src' : RandomSource} {a : Nat},
      (Drawing.exponent modulus).run src = (.ok a, src') → agree.run src = (outcome a, src'))
    (hdefined : ∀ drawn, agreed? drawn = some (outcome (Bytes.toNat drawn % (modulus - 3) + 2)))
    (hcontribution : ∀ {a : Nat} {agreement : Agreement}, outcome a = .ok agreement →
      agreement.contribution = Bytes.shortest (generator ^ a % modulus)) :
    Assured modulus generator agree agreed? where
  three_lt := hmodulus
  follows src hholds := by
    have hlt := Nat.mod_lt (Bytes.toNat (src.peek (Drawing.exponentLength modulus)))
      (show 0 < modulus - 3 by omega)
    have hdrawn := Drawing.run_exponent hholds
    generalize ha : Bytes.toNat (src.peek (Drawing.exponentLength modulus)) % (modulus - 3) + 2 = a
      at hdrawn
    have hbelow : generator ^ a % modulus < modulus := Nat.mod_lt _ (by omega)
    have hshortest : ∀ agreement, outcome a = .ok agreement →
        agreement.contribution.IsShortest (generator ^ a % modulus) := fun agreement hok =>
      hcontribution hok ▸ Bytes.isShortest_shortest _
    refine ⟨a, outcome a, ?_⟩
    constructor
    case drawn => exact hdrawn
    case low => omega
    case high => omega
    case run => exact hrun hdrawn
    case defined => rw [hdefined, ha]
    case contribution => exact hshortest
    case below => exact fun agreement hok => (hshortest agreement hok).spells ▸ hbelow
    case fits =>
      intro agreement hok bs hbs hlength
      have hle : agreement.contribution.length ≤ bs.length :=
        (hshortest agreement hok).length_le (hbs ▸ hbelow)
      exact Nat.lt_of_le_of_lt hle hlength
  every a hlow hhigh := Drawing.exists_stream hlow hhigh hmodulus

end

end Agreement

/-! ## Diffie-Hellman -/

namespace DhGroup

variable {d : DhGroup}

/-- What is agreed on with drawn bytes, by operations that can fail. -/
def agreed? (d : DhGroup) (drawn : Bytes) : Option Agreement := do
  let range ← Number.sub? d.p 3
  let x := (← Number.mod? (Bytes.toNat drawn) range) + 2
  let contribution ← Number.powMod? d.g x d.p
  let premaster ← Number.powMod? d.share x d.p
  return { contribution := Bytes.shortest contribution, premaster := Bytes.shortest premaster }

/-- What is agreed on with an exponent. -/
def agreement (d : DhGroup) (a : Nat) : Agreement where
  contribution := Bytes.shortest (d.g ^ a % d.p)
  premaster := Bytes.shortest (d.share ^ a % d.p)

/-- The bounds of the generator leave no modulus below four. -/
theorem three_lt (h : d.isSafe = true) : 3 < d.p := by
  simp only [isSafe, Bool.and_eq_true, decide_eq_true_eq] at h
  omega

theorem run_agree {src src' : RandomSource} {a : Nat}
    (h : (Drawing.exponent d.p).run src = (.ok a, src')) :
    d.agree.run src = (.ok (d.agreement a), src') := by
  refine (Drawing.run_bind h).trans ?_
  rw [Number.powMod_eq, Number.powMod_eq]
  rfl

theorem agreed?_eq (hp : 3 < d.p) (drawn : Bytes) :
    d.agreed? drawn = some (d.agreement (Bytes.toNat drawn % (d.p - 3) + 2)) := by
  simp only [agreed?, Number.sub?_of_le hp.le, Option.bind_eq_bind, Option.bind_some,
    Number.mod?_of_pos (show 0 < d.p - 3 by omega), Number.powMod?_of_pos (show 0 < d.p by omega),
    Number.powMod_eq]
  rfl

/-- A server with this exponent gets the secret from what the client contributes. -/
def SharedBy (d : DhGroup) (y : Nat) : Prop :=
  ∀ src : RandomSource, src.holds (Drawing.exponentLength d.p) = true →
    ∃ agreement, d.agree.run src = (.ok agreement, src.skip (Drawing.exponentLength d.p)) ∧
      agreement.premaster.IsShortest (Bytes.toNat agreement.contribution ^ y % d.p)

theorem sharedBy {y : Nat} (h : d.share = d.g ^ y % d.p) : d.SharedBy y := by
  intro src hholds
  have hsecret (a : Nat) : d.share ^ a % d.p =
      Bytes.toNat (d.agreement a).contribution ^ y % d.p := by
    rw [agreement, Bytes.toNat_shortest, h, ← Nat.pow_mod, ← Nat.pow_mod, ← Nat.pow_mul,
      ← Nat.pow_mul, Nat.mul_comm]
  exact ⟨_, run_agree (Drawing.run_exponent hholds), hsecret _ ▸ Bytes.isShortest_shortest _⟩

theorem assured (h : d.isSafe = true) :
    Agreement.Assured d.p d.g d.agree fun drawn => (d.agreed? drawn).map .ok :=
  Agreement.assured (fun a => .ok (d.agreement a)) (three_lt h) run_agree
    (fun drawn => congrArg (Option.map Except.ok) (agreed?_eq (three_lt h) drawn))
    fun hok => by
      cases hok
      rfl

end DhGroup

/-! ## Secure remote password -/

namespace SrpGroup

variable {s : SrpGroup} {c : SrpCredentials}

/-- What is agreed on with drawn bytes, by operations that can fail. -/
def agreed? (s : SrpGroup) (c : SrpCredentials) (drawn : Bytes) :
    Option (Except TlsError Agreement) := do
  let range ← Number.sub? s.n 3
  let a := (← Number.mod? (Bytes.toNat drawn) range) + 2
  let share ← Number.powMod? s.g a s.n
  let u := s.hashPair share s.share
  if u = 0 then return .error (.keyExchange .illegalParameter)
  let x := s.passwordExponent c
  let mask ← Number.mod? (s.multiplier * (← Number.powMod? s.g x s.n)) s.n
  let masked := (← Number.mod? s.share s.n) + s.n
  let unmasked ← Number.mod? (← Number.sub? masked mask) s.n
  let premaster ← Number.powMod? unmasked (a + u * x) s.n
  return .ok { contribution := Bytes.shortest share, premaster := Bytes.shortest premaster }

/-- What comes of an exponent. -/
def outcome (s : SrpGroup) (c : SrpCredentials) (a : Nat) : Except TlsError Agreement :=
  let share := s.g ^ a % s.n
  let u := s.hashPair share s.share
  let x := s.passwordExponent c
  if u = 0 then .error (.keyExchange .illegalParameter)
  else .ok { contribution := Bytes.shortest share
             premaster := Bytes.shortest (s.unmasked x ^ (a + u * x) % s.n) }

theorem three_lt (h : s.isSafe = true) : 3 < s.n := by
  simp only [isSafe, Bool.and_eq_true, decide_eq_true_eq] at h
  omega

theorem run_agree {src src' : RandomSource} {a : Nat}
    (h : (Drawing.exponent s.n).run src = (.ok a, src')) :
    (s.agree c).run src = (s.outcome c a, src') := by
  refine (Drawing.run_bind h).trans ?_
  simp only [outcome, Number.powMod_eq]
  split <;> rfl

theorem agreed?_eq (hn : 3 < s.n) (drawn : Bytes) :
    s.agreed? c drawn = some (s.outcome c (Bytes.toNat drawn % (s.n - 3) + 2)) := by
  have hpos : 0 < s.n := by omega
  -- the modulus is added before the mask is subtracted, and the mask is below it
  have hmask (m : Nat) : m % s.n ≤ s.share % s.n + s.n :=
    (Nat.mod_lt _ hpos).le.trans (Nat.le_add_left _ _)
  simp only [agreed?, Number.sub?_of_le hn.le, Option.bind_eq_bind, Option.bind_some,
    Number.mod?_of_pos (show 0 < s.n - 3 by omega), Number.powMod?_of_pos hpos,
    Number.mod?_of_pos hpos, Number.sub?_of_le (hmask _)]
  simp only [outcome, unmasked, Number.powMod_eq]
  split <;> rfl

theorem contribution_of_outcome {a : Nat} {agreement : Agreement} (h : s.outcome c a = .ok agreement) :
    agreement.contribution = Bytes.shortest (s.g ^ a % s.n) := by
  unfold outcome at h
  dsimp only at h
  split at h
  · cases h
  · cases h
    rfl

theorem assured (h : s.isSafe = true) : Agreement.Assured s.n s.g (s.agree c) (s.agreed? c) :=
  Agreement.assured (s.outcome c) (three_lt h) run_agree (agreed?_eq (three_lt h))
    contribution_of_outcome

end SrpGroup

/-! ## Both kinds -/

/-- In a group that is accepted nothing goes wrong on the way to an agreement, whatever is drawn; and
with Diffie-Hellman the server gets the same secret. -/
theorem accepted_assured :
    (∀ (d : DhGroup) (method : KeyExchangeMethod) (key : Option PublicKey), d.isSafe = true →
      Agreement.Assured d.p d.g ((KeyExchange.dhe method (some d)).agree key)
        (fun drawn => (d.agreed? drawn).map .ok) ∧
      ∀ y, d.share = d.g ^ y % d.p → d.SharedBy y) ∧
    ∀ (s : SrpGroup) (method : KeyExchangeMethod) (c : SrpCredentials) (key : Option PublicKey),
      s.isSafe = true →
        Agreement.Assured s.n s.g ((KeyExchange.srp method c (some s)).agree key) (s.agreed? c) := by
  constructor
  · intro d method key h
    exact ⟨DhGroup.assured h, fun y hy => DhGroup.sharedBy hy⟩
  · intro s method c key h
    exact SrpGroup.assured h

/-- A group of each kind. -/
theorem accepted_assured_closed :
    ((⟨23, 5, 8⟩ : DhGroup).isSafe = true ∧
      Agreement.Assured 23 5 ((KeyExchange.dhe .dheRsa (some ⟨23, 5, 8⟩)).agree none)
        (fun drawn => ((⟨23, 5, 8⟩ : DhGroup).agreed? drawn).map .ok) ∧
      8 = 5 ^ 6 % 23 ∧ (⟨23, 5, 8⟩ : DhGroup).SharedBy 6) ∧
    (⟨7, 3, [], 2⟩ : SrpGroup).isSafe = true ∧
      Agreement.Assured 7 3 ((KeyExchange.srp .srp ⟨[], []⟩ (some ⟨7, 3, [], 2⟩)).agree none)
        ((⟨7, 3, [], 2⟩ : SrpGroup).agreed? ⟨[], []⟩) := by
  have hdh : (⟨23, 5, 8⟩ : DhGroup).isSafe = true := by decide
  have hsrp : (⟨7, 3, [], 2⟩ : SrpGroup).isSafe = true := by decide
  obtain ⟨hassured, hshared⟩ := accepted_assured.1 _ .dheRsa none hdh
  exact ⟨⟨hdh, hassured, by decide, hshared 6 (by decide)⟩, hsrp, accepted_assured.2 _ .srp _ none hsrp⟩

end TlsClient
