import TlsClient.Proofs.Wire.Reading

/-!
# One form on the wire

A decoder and an encoder belong together if the decoder reads, from the front of any byte string, just
what the encoder writes for a value that fits (`Decoder.Reads`).  Reading then undoes writing, whatever
follows, and a value has one form on the wire.  Codes, vectors and lists are of this kind, and so is
all that the handshake messages are made of; only the extension block of a hello, which is left out if
there are no extensions, may be there and empty all the same (`decodeExtensions_ok`).
-/

namespace TlsClient

namespace Decoder

variable {α β : Type} {d item : Decoder α} {Fits : α → Prop} {encode : α → Bytes} {bs rest : Bytes}

/-- A decoder reads what is written for the values that fit, and nothing else. -/
def Reads (d : Decoder α) (Fits : α → Prop) (encode : α → Bytes) : Prop :=
  ∀ (bs rest : Bytes) (a : α), d.run bs = .ok (a, rest) ↔ Fits a ∧ bs = encode a ++ rest

/-- What is read first stands in front of what is read next. -/
theorem Reads.bind_ok (hd : d.Reads Fits encode) {f : α → Decoder β} {b : β} :
    (d >>= f).run bs = .ok (b, rest) ↔
      ∃ a mid, (Fits a ∧ bs = encode a ++ mid) ∧ (f a).run mid = .ok (b, rest) := by
  rw [Decoder.bind_ok]
  simp only [hd _ _ _]

/-- A value under another name is written as before. -/
theorem Reads.map {f : α → β} {Fits' : β → Prop} {encode' : β → Bytes} (hd : d.Reads Fits encode)
    (hf : ∀ a, Fits a → Fits' (f a) ∧ encode' (f a) = encode a)
    (hg : ∀ b, Fits' b → ∃ a, Fits a ∧ b = f a) : Reads (f <$> d) Fits' encode' := by
  intro bs rest b
  rw [map_ok]
  constructor
  · rintro ⟨a, h, rfl⟩
    obtain ⟨ha, rfl⟩ := (hd _ _ _).mp h
    obtain ⟨hfits, hencode⟩ := hf a ha
    exact ⟨hfits, by rw [hencode]⟩
  · rintro ⟨hb, rfl⟩
    obtain ⟨a, ha, rfl⟩ := hg b hb
    exact ⟨a, (hd _ _ _).mpr ⟨ha, by rw [(hf a ha).2]⟩, rfl⟩

theorem reads_take (n : Nat) (e : DecodeError) : (take n e).Reads (fun a => a.length = n) id := by
  intro bs rest a
  rw [take_ok, and_comm, id]

theorem reads_integer (width : Nat) :
    (integer width).Reads (fun n => n < 256 ^ width) (Bytes.ofNat width) := by
  refine (reads_take width _).map (f := Bytes.toNat) (fun bs hbs => ?_) fun n hn => ?_
  · subst hbs
    exact ⟨Bytes.toNat_lt bs, Bytes.ofNat_toNat bs⟩
  · exact ⟨Bytes.ofNat width n, Bytes.length_ofNat _ _, by rw [Bytes.toNat_ofNat, Nat.mod_eq_of_lt hn]⟩

/-- A number in front is read back. -/
theorem integer_ofNat {width n : Nat} (h : n < 256 ^ width) (rest : Bytes) :
    (integer width).run (Bytes.ofNat width n ++ rest) = .ok (n, rest) :=
  (reads_integer width _ _ _).mpr ⟨h, rfl⟩

theorem reads_vector (width : Nat) :
    (vector width).Reads (fun a => a.length < 256 ^ width) (Encoder.vector width) :=
  fun _ _ _ => vector_ok

/-! ## Lists -/

/-- One item is taken, and then the rest. -/
theorem itemsUpTo_succ (fuel : Nat) (b : UInt8) (bs : Bytes) : itemsUpTo item (fuel + 1) (b :: bs) =
    item.run (b :: bs) >>= fun x => (x.1 :: ·) <$> itemsUpTo item fuel x.2 := by
  show item.run (b :: bs) >>= (fun x => itemsUpTo item fuel x.2 >>= fun as => pure (x.1 :: as)) = _
  simp only [bind_pure_comp]

/-- Bytes are split by taking one item, and then the rest. -/
theorem itemsUpTo_cons {fuel : Nat} {b : UInt8} {xs : List α} :
    itemsUpTo item (fuel + 1) (b :: bs) = .ok xs ↔ ∃ a left as,
      item.run (b :: bs) = .ok (a, left) ∧ itemsUpTo item fuel left = .ok as ∧ xs = a :: as := by
  rw [itemsUpTo_succ]
  rcases item.run (b :: bs) with e | ⟨a, left⟩
  · simp [bind, Except.bind]
  · rcases hrest : itemsUpTo item fuel left with e | as
    all_goals simp [hrest, bind, Except.bind, Functor.map, Except.map, eq_comm]

theorem itemsUpTo_ok (hitem : item.Reads Fits encode) (hne : ∀ a, Fits a → encode a ≠ [])
    {fuel : Nat} (hfuel : bs.length ≤ fuel) {xs : List α} :
    itemsUpTo item fuel bs = .ok xs ↔ (∀ x ∈ xs, Fits x) ∧ bs = xs.flatMap encode := by
  have hnil : ∀ {xs : List α}, (.ok [] : Except DecodeError (List α)) = .ok xs ↔
      (∀ x ∈ xs, Fits x) ∧ [] = xs.flatMap encode := by
    intro xs
    cases xs with
    | nil => simp
    | cons x xs => simp +contextual [hne]
  -- an item takes at least one byte, so the fuel lasts
  have hshorter : ∀ {a : α} {bs left : Bytes}, Fits a → bs = encode a ++ left →
      left.length < bs.length := by
    intro a bs left ha hbytes
    have := List.length_pos_iff.mpr (hne a ha)
    rw [hbytes, List.length_append]
    omega
  induction fuel generalizing bs xs with
  | zero =>
    obtain rfl := List.length_eq_zero_iff.mp (Nat.le_zero.mp hfuel)
    exact hnil
  | succ fuel ih =>
    cases bs with
    | nil => exact hnil
    | cons b bs =>
      rw [itemsUpTo_cons]
      constructor
      · rintro ⟨a, left, as, hx, hrest, rfl⟩
        obtain ⟨ha, hbytes⟩ := (hitem _ _ _).mp hx
        have := hshorter ha hbytes
        obtain ⟨has, rfl⟩ := (ih (by omega)).mp hrest
        exact ⟨List.forall_mem_cons.mpr ⟨ha, has⟩, hbytes⟩
      · rintro ⟨hxs, hbytes⟩
        cases xs with
        | nil => cases hbytes
        | cons a as =>
          obtain ⟨ha, has⟩ := List.forall_mem_cons.mp hxs
          have := hshorter ha hbytes
          exact ⟨a, _, as, (hitem _ _ _).mpr ⟨ha, hbytes⟩, (ih (by omega)).mpr ⟨has, rfl⟩, rfl⟩

/-- A byte string is split into items without remainder if it is their bytes. -/
theorem items_ok (hitem : item.Reads Fits encode) (hne : ∀ a, Fits a → encode a ≠ [])
    {xs : List α} : items item bs = .ok xs ↔ (∀ x ∈ xs, Fits x) ∧ bs = xs.flatMap encode :=
  itemsUpTo_ok hitem hne (Nat.le_refl _)

theorem reads_list (width : Nat) (hitem : item.Reads Fits encode)
    (hne : ∀ a, Fits a → encode a ≠ []) :
    (list width item).Reads (fun xs => (∀ x ∈ xs, Fits x) ∧ (xs.flatMap encode).length < 256 ^ width)
      (Encoder.list width encode) := by
  intro bs rest xs
  show (vector width >>= fun bs => liftM (items item bs)).run bs = _ ↔ _
  rw [(reads_vector width).bind_ok]
  simp only [lift_ok, items_ok hitem hne]
  constructor
  · rintro ⟨bytes, mid, ⟨hlength, rfl⟩, ⟨hxs, rfl⟩, rfl⟩
    exact ⟨⟨hxs, hlength⟩, rfl⟩
  · rintro ⟨⟨hxs, hlength⟩, rfl⟩
    exact ⟨_, rest, ⟨hlength, rfl⟩, ⟨hxs, rfl⟩, rfl⟩

theorem reads_limitedList {width limit : Nat} (hlimit : limit < 256 ^ width)
    (hitem : item.Reads Fits encode) (hne : ∀ a, Fits a → encode a ≠ []) :
    (limitedList width limit item).Reads
      (fun xs => (∀ x ∈ xs, Fits x) ∧ (xs.flatMap encode).length ≤ limit)
      (Encoder.list width encode) := by
  intro bs rest xs
  unfold limitedList
  rw [bind_ok]
  constructor
  · rintro ⟨n, mid, hn, h⟩
    rcases ite_ok h with ⟨-, h⟩ | ⟨hle, h⟩
    · obtain ⟨_, _, h, -⟩ := bind_ok.mp h
      cases h
    · obtain ⟨bytes, mid', hbytes, hitems⟩ := bind_ok.mp h
      have hvector := vector_ok.mp (bind_ok.mpr ⟨n, mid, hn, hbytes⟩)
      obtain ⟨-, hlength⟩ := take_ok.mp hbytes
      obtain ⟨hsplit, rfl⟩ := lift_ok.mp hitems
      obtain ⟨hxs, rfl⟩ := (items_ok hitem hne).mp hsplit
      exact ⟨⟨hxs, by omega⟩, hvector.2⟩
  · rintro ⟨⟨hxs, hlength⟩, hbytes⟩
    obtain ⟨n, mid, hn, h⟩ :=
      bind_ok.mp (vector_ok.mpr ⟨Nat.lt_of_le_of_lt hlength hlimit, hbytes⟩)
    obtain ⟨-, hn'⟩ := take_ok.mp h
    refine ⟨n, mid, hn, ?_⟩
    rw [if_neg (by omega)]
    exact bind_ok.mpr ⟨_, rest, h, lift_ok.mpr ⟨(items_ok hitem hne).mpr ⟨hxs, rfl⟩, rfl⟩⟩

end Decoder

/-! ## Codes -/

namespace Registry

/-- A registry in which every code of its width belongs to one member. -/
class Lawful (α : Type) [Registry α] : Prop where
  code_lt : ∀ x : α, code x < 256 ^ width α
  ofCode_code : ∀ x : α, ofCode (code x) = x
  code_ofCode : ∀ n, n < 256 ^ width α → code (ofCode n : α) = n

theorem reads_code (α : Type) [Registry α] [Lawful α] :
    (Registry.decode : Decoder α).Reads (fun _ => True) Registry.encode := by
  refine (Decoder.reads_take (width α) _).map (f := fun bs => ofCode (Bytes.toNat bs))
    (fun bs hbs => ⟨trivial, ?_⟩) fun x _ => ⟨Registry.encode x, Bytes.length_ofNat _ _, ?_⟩
  · have hlt := Bytes.toNat_lt bs
    rw [hbs] at hlt
    rw [Registry.encode, Lawful.code_ofCode _ hlt, ← hbs, Bytes.ofNat_toNat]
    rfl
  · rw [Registry.encode, Bytes.toNat_ofNat, Nat.mod_eq_of_lt (Lawful.code_lt x), Lawful.ofCode_code]

theorem encode_ne_nil {α : Type} [Registry α] (h : width α ≠ 0) (x : α) : Registry.encode x ≠ [] := by
  intro hx
  have hlength : (Registry.encode x).length = width α := Bytes.length_ofNat _ _
  rw [hx] at hlength
  exact h hlength.symm

end Registry

instance : Registry.Lawful HandshakeType where
  code_lt x := x.code.toNat_lt
  ofCode_code x := by simp [Registry.ofCode, Registry.code]
  code_ofCode _ h := UInt8.toNat_ofNat_of_lt h

instance : Registry.Lawful ClientCertificateType where
  code_lt x := x.code.toNat_lt
  ofCode_code x := by simp [Registry.ofCode, Registry.code]
  code_ofCode _ h := UInt8.toNat_ofNat_of_lt h

instance : Registry.Lawful Compression where
  code_lt x := x.code.toNat_lt
  ofCode_code x := by simp [Registry.ofCode, Registry.code]
  code_ofCode _ h := UInt8.toNat_ofNat_of_lt h

instance : Registry.Lawful ProtocolVersion where
  code_lt x := x.code.toNat_lt
  ofCode_code x := by simp [Registry.ofCode, Registry.code]
  code_ofCode _ h := UInt16.toNat_ofNat_of_lt h

instance : Registry.Lawful CipherSuite where
  code_lt x := x.code.toNat_lt
  ofCode_code x := by simp [Registry.ofCode, Registry.code]
  code_ofCode _ h := UInt16.toNat_ofNat_of_lt h

instance : Registry.Lawful ExtensionType where
  code_lt x := x.code.toNat_lt
  ofCode_code x := by simp [Registry.ofCode, Registry.code]
  code_ofCode _ h := UInt16.toNat_ofNat_of_lt h

instance : Registry.Lawful ContentType where
  code_lt x := x.code.toNat_lt
  ofCode_code x := by simp [Registry.ofCode, Registry.code]
  code_ofCode _ h := UInt8.toNat_ofNat_of_lt h

instance : Registry.Lawful AlertLevel where
  code_lt x := x.code.toNat_lt
  ofCode_code x := by simp [Registry.ofCode, Registry.code]
  code_ofCode _ h := UInt8.toNat_ofNat_of_lt h

instance : Registry.Lawful AlertDescription where
  code_lt x := x.code.toNat_lt
  ofCode_code x := by simp [Registry.ofCode, Registry.code]
  code_ofCode _ h := UInt8.toNat_ofNat_of_lt h

/-! ## Parts of hellos -/

open Decoder

theorem HelloRandom.reads :
    (Wire.decode : Decoder HelloRandom).Reads (fun _ => True) Wire.encode := by
  refine (reads_take 32 _).map (f := ofBytes) (fun bs hbs => ⟨trivial, bytes_ofBytes hbs⟩)
    fun r _ => ⟨r.bytes, r.length_eq, ?_⟩
  obtain ⟨bytes, hbytes⟩ := r
  exact HelloRandom.mk.injEq .. ▸ (bytes_ofBytes hbytes).symm

theorem SessionId.reads :
    (Wire.decode : Decoder SessionId).Reads (fun _ => True) Wire.encode := by
  intro bs rest s
  show (integer 1 >>= _).run bs = _ ↔ _
  rw [(reads_integer 1).bind_ok]
  constructor
  · rintro ⟨n, mid, ⟨-, rfl⟩, h⟩
    rcases ite_ok h with ⟨-, h⟩ | ⟨hle, h⟩
    · obtain ⟨_, _, h, -⟩ := bind_ok.mp h
      cases h
    · obtain ⟨a, mid', ⟨rfl, rfl⟩, hread⟩ := (reads_take _ _).bind_ok.mp h
      cases hread
      refine ⟨trivial, ?_⟩
      show _ = Encoder.vector 1 (ofBytes a).bytes ++ rest
      rw [bytes_ofBytes (by omega), Encoder.vector, List.append_assoc]
      rfl
  · rintro ⟨-, rfl⟩
    have hle := s.length_le
    refine ⟨s.bytes.length, s.bytes ++ rest, ⟨by omega, List.append_assoc _ _ _⟩, ?_⟩
    dsimp only
    rw [if_neg (by omega)]
    refine (reads_take _ _).bind_ok.mpr ⟨s.bytes, rest, ⟨rfl, rfl⟩, ?_⟩
    obtain ⟨bytes, hbytes⟩ := s
    have hsame : ofBytes bytes = ⟨bytes, hbytes⟩ := by
      rw [SessionId.mk.injEq]
      exact bytes_ofBytes hbytes
    show Except.ok (ofBytes bytes, rest) = _
    rw [hsame]

/-! ## Extensions -/

namespace ClientExtension

/-- An extension is held in the form that its type asks for. -/
def Interpreted : ClientExtension → Prop
  | srpIdentity identity => identity.length < 256
  | raw x => x.typ ≠ .srp

instance : DecidablePred Interpreted
  | srpIdentity identity => inferInstanceAs (Decidable (identity.length < 256))
  | raw x => inferInstanceAs (Decidable (x.typ ≠ .srp))

def Fits (x : ClientExtension) : Prop := x.Interpreted ∧ x.content.length < 256 ^ 2

instance : DecidablePred Fits := fun _ => instDecidableAnd

theorem decodeContent_ok {typ : ExtensionType} {bs : Bytes} {x : ClientExtension} :
    (decodeContent typ).run bs = .ok (x, []) ↔ x.Interpreted ∧ x.typ = typ ∧ bs = x.content := by
  unfold decodeContent
  by_cases htyp : typ = .srp
  · subst htyp
    rw [if_pos rfl, map_ok]
    simp only [vector_ok, List.append_nil]
    constructor
    · rintro ⟨identity, ⟨hlength, rfl⟩, rfl⟩
      exact ⟨hlength, rfl, rfl⟩
    · rintro ⟨hx, ht, rfl⟩
      cases x with
      | srpIdentity identity => exact ⟨identity, ⟨hx, rfl⟩, rfl⟩
      | raw x => exact absurd ht hx
  · rw [if_neg htyp, map_ok]
    constructor
    · rintro ⟨content, h, rfl⟩
      cases h
      exact ⟨htyp, rfl, rfl⟩
    · rintro ⟨hx, rfl, rfl⟩
      cases x with
      | srpIdentity identity => exact absurd rfl htyp
      | raw x => exact ⟨x.content, rfl, rfl⟩

theorem reads : (Wire.decode : Decoder ClientExtension).Reads Fits Wire.encode := by
  intro bs rest x
  show ((Registry.decode : Decoder ExtensionType) >>= fun typ => vector 2 >>= fun content =>
    (liftM (exactly "ClientExtension" (decodeContent typ) content) : Decoder _)).run bs = _ ↔ _
  rw [(Registry.reads_code ExtensionType).bind_ok]
  simp only [(reads_vector 2).bind_ok, lift_ok, exactly_ok, decodeContent_ok]
  constructor
  · rintro ⟨_, _, ⟨-, rfl⟩, _, _, ⟨hlength, rfl⟩, ⟨hx, rfl, rfl⟩, rfl⟩
    exact ⟨⟨hx, hlength⟩, (List.append_assoc _ _ _).symm⟩
  · rintro ⟨⟨hx, hlength⟩, rfl⟩
    exact ⟨x.typ, _, ⟨trivial, List.append_assoc _ _ _⟩, x.content, rest, ⟨hlength, rfl⟩,
      ⟨hx, rfl, rfl⟩, rfl⟩

theorem encode_ne_nil (x : ClientExtension) : Wire.encode x ≠ [] :=
  fun h => Registry.encode_ne_nil (by decide) x.typ (List.append_eq_nil_iff.mp h).1

end ClientExtension

namespace ServerExtension

def Fits (x : ServerExtension) : Prop := x.raw.content.length < 256 ^ 2

instance : DecidablePred Fits := fun _ => Nat.decLt _ _

theorem reads : (Wire.decode : Decoder ServerExtension).Reads Fits Wire.encode := by
  intro bs rest x
  show ((Registry.decode : Decoder ExtensionType) >>= fun typ => vector 2 >>= fun content =>
    pure (⟨typ, content⟩ : ServerExtension)).run bs = _ ↔ _
  rw [(Registry.reads_code ExtensionType).bind_ok]
  simp only [(reads_vector 2).bind_ok]
  constructor
  · rintro ⟨_, _, ⟨-, rfl⟩, _, _, ⟨hlength, rfl⟩, h⟩
    cases h
    exact ⟨hlength, (List.append_assoc _ _ _).symm⟩
  · rintro ⟨hlength, rfl⟩
    exact ⟨x.typ, _, ⟨trivial, List.append_assoc _ _ _⟩, x.raw.content, rest, ⟨hlength, rfl⟩, rfl⟩

theorem encode_ne_nil (x : ServerExtension) : Wire.encode x ≠ [] :=
  fun h => Registry.encode_ne_nil (by decide) x.typ (List.append_eq_nil_iff.mp h).1

end ServerExtension

section Block

variable {α : Type} [Wire α] {Fits : α → Prop} {bs : Bytes} {xs : List α}

/-- What an extension block is read from: what is written for the extensions, or, if there are none,
also an empty block. -/
def ExtensionBlock (xs : List α) (bs : Bytes) : Prop :=
  bs = encodeExtensions xs ∨ xs = [] ∧ bs = [0, 0]

theorem decodeExtensions_ok (hitem : (Wire.decode : Decoder α).Reads Fits Wire.encode)
    (hne : ∀ a : α, Wire.encode a ≠ []) :
    decodeExtensions.run bs = .ok (xs, []) ↔
      ((∀ x ∈ xs, Fits x) ∧ (xs.flatMap Wire.encode).length < 256 ^ 2) ∧
        ExtensionBlock xs bs := by
  have hlist : ∀ {bs : Bytes}, (list 2 Wire.decode).run bs = .ok (xs, []) ↔
      ((∀ x ∈ xs, Fits x) ∧ (xs.flatMap Wire.encode).length < 256 ^ 2) ∧
        bs = Encoder.list 2 Wire.encode xs := by
    intro bs
    rw [reads_list 2 hitem (fun a _ => hne a) bs [] xs, List.append_nil]
  have hrun : decodeExtensions.run bs =
      if bs = [] then .ok (([] : List α), []) else (list 2 Wire.decode).run bs := by
    cases bs <;> rfl
  rw [hrun, ExtensionBlock]
  split
  · next hbs =>
    subst hbs
    constructor
    · intro h
      cases h
      exact ⟨⟨by simp, by simp⟩, .inl rfl⟩
    · rintro ⟨-, h | ⟨-, h⟩⟩
      · cases xs with
        | nil => rfl
        | cons x xs => simp [encodeExtensions, Encoder.list, Encoder.vector, Bytes.ofNat] at h
      · cases h
  · next hbs =>
    rw [hlist, and_congr_right_iff]
    intro _
    cases xs with
    | nil => simp [encodeExtensions, Encoder.list, Encoder.vector, Bytes.ofNat, hbs]
    | cons x xs => simp [encodeExtensions]

/-- A block that is written is not empty. -/
theorem encodeExtensions_ne (hne : ∀ a : α, Wire.encode a ≠ []) : encodeExtensions xs ≠ [0, 0] := by
  cases xs with
  | nil => simp [encodeExtensions]
  | cons x xs =>
    intro hbytes
    change Encoder.vector 2 ((x :: xs).flatMap Wire.encode) = _ at hbytes
    have hlength := congrArg List.length hbytes
    have := List.length_pos_iff.mpr (hne x)
    rw [Encoder.vector, List.flatMap_cons, List.length_append, List.length_append,
      Bytes.length_ofNat] at hlength
    change _ = 2 at hlength
    omega

end Block

end TlsClient
