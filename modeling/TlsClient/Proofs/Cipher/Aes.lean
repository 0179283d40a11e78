import TlsClient.Cipher.Aes

/-!
# AES can be undone

Every step of a round has an inverse: the tables of the substitution are inverse to each other, the
rows turn back, a key that is added twice cancels, and mixing is undone because doubling is linear and
the coefficients of `Column.mix` and `Column.unmix` multiply to one.  So a block that was encrypted is
decrypted to itself, whatever the round keys (`decrypt_encrypt`).
-/

namespace TlsClient.Aes

/-! ## Bytes -/

/-- The substitutions are inverse to each other. -/
theorem unsub_sub (b : UInt8) : unsub (sub b) = b := by
  have htable : substitution.toList.map unsub = (List.range 256).map UInt8.ofNat := by
    decide +kernel
  have hb := congrArg (fun xs : List UInt8 => xs[b.toNat]?) htable
  rw [List.getElem?_map, List.getElem?_map, List.getElem?_range b.toNat_lt, Option.map_some,
    UInt8.ofNat_toNat, Option.map_eq_some_iff] at hb
  obtain ⟨c, hc, hunsub⟩ := hb
  rw [sub, Array.getD_eq_getD_getElem?, ← Array.getElem?_toList, hc, Option.getD_some, hunsub]

theorem xor_cancel (a b : UInt8) : (a ^^^ b) ^^^ b = a := by
  rw [UInt8.xor_assoc, UInt8.xor_self, UInt8.xor_zero]

theorem xor_xor_self (a b : UInt8) : a ^^^ (a ^^^ b) = b := by
  rw [← UInt8.xor_assoc, UInt8.xor_self, UInt8.zero_xor]

/-- Doubling moves the bits up, and subtracts the modulus if one falls out at the top. -/
theorem toBitVec_double (b : UInt8) :
    (double b).toBitVec = (b.toBitVec <<< 1) ^^^ (if b.toBitVec.msb then 0x1b#8 else 0#8) := by
  have h : ∀ n : Fin 256, (double (UInt8.ofNat n)).toBitVec =
      ((UInt8.ofNat n).toBitVec <<< 1) ^^^
        (if (UInt8.ofNat n).toBitVec.msb then 0x1b#8 else 0#8) := by decide +kernel
  simpa using h ⟨b.toNat, b.toNat_lt⟩

theorem double_xor (a b : UInt8) : double (a ^^^ b) = double a ^^^ double b := by
  apply UInt8.toBitVec_inj.mp
  rw [UInt8.toBitVec_xor, toBitVec_double, toBitVec_double, toBitVec_double, UInt8.toBitVec_xor,
    BitVec.msb_xor, BitVec.shiftLeft_xor_distrib]
  generalize a.toBitVec <<< 1 = x
  generalize b.toBitVec <<< 1 = y
  have hcarry : ∀ p q : Bool, (if (p ^^ q) then 0x1b#8 else 0#8) =
      (if p then 0x1b#8 else 0#8) ^^^ (if q then 0x1b#8 else 0#8) := by decide
  rw [hcarry]
  ac_rfl

theorem xor_left_comm (a b c : UInt8) : a ^^^ (b ^^^ c) = b ^^^ (a ^^^ c) := by
  rw [← UInt8.xor_assoc, UInt8.xor_comm a, UInt8.xor_assoc]

/-! ## Columns -/

namespace Column

/-- The multiples of four bytes that make one byte of a column, by powers of two. -/
theorem unmix_powers (p q r s : UInt8) :
    (double (double (double p)) ^^^ double (double p) ^^^ double p)
      ^^^ (double (double (double q)) ^^^ double q ^^^ q)
      ^^^ (double (double (double r)) ^^^ double (double r) ^^^ r)
      ^^^ (double (double (double s)) ^^^ s) =
    double (double (double (p ^^^ q ^^^ r ^^^ s))) ^^^ double (double (p ^^^ r))
      ^^^ double (p ^^^ q) ^^^ (q ^^^ r ^^^ s) := by
  simp only [double_xor]
  ac_rfl

/-- Unmixing a mixed column gives its first byte: every power of two cancels. -/
theorem unmix_mix_byte {a b c d p q r s : UInt8}
    (hp : p = double a ^^^ (double b ^^^ b) ^^^ c ^^^ d)
    (hq : q = double b ^^^ (double c ^^^ c) ^^^ d ^^^ a)
    (hr : r = double c ^^^ (double d ^^^ d) ^^^ a ^^^ b)
    (hs : s = double d ^^^ (double a ^^^ a) ^^^ b ^^^ c) :
    (double (double (double p)) ^^^ double (double p) ^^^ double p)
      ^^^ (double (double (double q)) ^^^ double q ^^^ q)
      ^^^ (double (double (double r)) ^^^ double (double r) ^^^ r)
      ^^^ (double (double (double s)) ^^^ s) = a := by
  have hpq : p ^^^ q = double (a ^^^ c) ^^^ (a ^^^ b) := by
    subst hp hq
    simp only [double_xor, UInt8.xor_assoc, UInt8.xor_comm, xor_left_comm, xor_xor_self]
  have hpr : p ^^^ r = double (a ^^^ b ^^^ c ^^^ d) ^^^ (a ^^^ c) := by
    subst hp hr
    simp only [double_xor, UInt8.xor_assoc, UInt8.xor_comm, xor_left_comm, xor_xor_self]
  have hqrs : q ^^^ r ^^^ s = double (a ^^^ b) ^^^ a := by
    subst hq hr hs
    simp only [double_xor, UInt8.xor_assoc, UInt8.xor_comm, xor_left_comm, xor_xor_self,
      UInt8.xor_self, UInt8.zero_xor]
  have hall : p ^^^ q ^^^ r ^^^ s = a ^^^ b ^^^ c ^^^ d := by
    rw [show p ^^^ q ^^^ r ^^^ s = p ^^^ (q ^^^ r ^^^ s) by ac_rfl, hqrs, hp]
    simp only [double_xor, UInt8.xor_comm, xor_left_comm, UInt8.xor_self, UInt8.xor_zero]
  rw [unmix_powers, hall, hpr, hpq, hqrs]
  simp only [double_xor, UInt8.xor_assoc, UInt8.xor_comm, xor_left_comm, UInt8.xor_self,
    UInt8.xor_zero]

theorem unmix_mix (x : Column) : x.mix.unmix = x := by
  have hbyte := fun a b c d => @unmix_mix_byte a b c d _ _ _ _ rfl rfl rfl rfl
  exact Column.mk.injEq .. ▸ ⟨hbyte x.a x.b x.c x.d, hbyte x.b x.c x.d x.a, hbyte x.c x.d x.a x.b,
    hbyte x.d x.a x.b x.c⟩

theorem add_add (x y : Column) : (x.add y).add y = x := by
  simp only [add, xor_cancel]

theorem unsub_sub (x : Column) : (x.map sub).map unsub = x := by
  simp only [map, Aes.unsub_sub]

end Column

/-! ## Blocks -/

namespace Block

theorem map_map {f g : Column → Column} (h : ∀ c, g (f c) = c) (x : Block) : (x.map f).map g = x := by
  simp only [map, h]

theorem add_add (x y : Block) : (x.add y).add y = x := by
  simp only [add, Column.add_add]

theorem unshift_shift (x : Block) : x.shift.unshift = x := rfl

@[simp] theorem length_toBytes (x : Block) : x.toBytes.length = 16 := rfl

theorem ofBytes_toBytes (x : Block) : ofBytes x.toBytes = x := rfl

theorem toBytes_ofBytes {bs : Bytes} (h : bs.length = 16) : (ofBytes bs).toBytes = bs := by
  match bs, h with
  | [_, _, _, _, _, _, _, _, _, _, _, _, _, _, _, _], _ => rfl

end Block

/-! ## Rounds -/

theorem unround_round (key x : Block) : unround key (round x key) = x := by
  rw [unround, round, Block.add_add, Block.map_map Column.unmix_mix, Block.unshift_shift,
    Block.map_map Column.unsub_sub]

theorem foldr_unround_foldl_round (keys : List Block) (x : Block) :
    keys.foldr unround (keys.foldl round x) = x := by
  induction keys generalizing x with
  | nil => rfl
  | cons key keys ih => rw [List.foldl_cons, List.foldr_cons, ih, unround_round]

theorem decrypt_encrypt (k : Schedule) (x : Block) : decrypt k (encrypt k x) = x := by
  rw [decrypt, encrypt, Block.add_add, Block.unshift_shift, Block.map_map Column.unsub_sub,
    foldr_unround_foldl_round, Block.add_add]

end TlsClient.Aes
