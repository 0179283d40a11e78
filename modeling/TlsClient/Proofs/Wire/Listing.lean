import TlsClient.Proofs.Wire.Messages

/-!
# Reading lists

A list is read item by item until nothing is left of the bytes that its length announces.  Every kind of item
that occurs in lists (`Element`) takes at least one byte and no more than there are, so this ends, after at
most as many reads as there are bytes (`exists_repeats`); that the reads are counted at all does not show in
what comes of them.  What comes of a list is told by the bytes that it announces and by its limit (`Attempt`).
It is read just if these bytes are those of items that are read back one by one (`Exact`), and then it takes
all of them and nothing else.
-/

namespace TlsClient

namespace Decoder

variable {α : Type} {d item : Decoder α} {Fits : α → Prop} {encode : α → Bytes} {bs rest : Bytes}
  {width limit : Nat}

/-! ## Elements -/

/-- A value that is read back from its own bytes. -/
def Canonical (item : Decoder α) (encode : α → Bytes) (a : α) : Prop := item.run (encode a) = .ok (a, [])

/-- A read that succeeds takes at least one byte, and none that is not there. -/
def Advances (item : Decoder α) : Prop := ∀ (bs rest : Bytes) (a : α), item.run bs = .ok (a, rest) →
  ∃ n, 0 < n ∧ n ≤ bs.length ∧ rest = bs.drop n

/-- What lists are made of: how an element is read, and how it is written. -/
inductive Element : {α : Type} → Decoder α → (α → Bytes) → Prop
  | integer {width : Nat} (h : 0 < width) : Element (Decoder.integer width) (Bytes.ofNat width)
  | code (α : Type) [Registry α] [Registry.Lawful α] (h : 0 < Registry.width α) :
    Element (Registry.decode : Decoder α) Registry.encode
  | certificate : Element (Wire.decode : Decoder Certificate) Wire.encode
  | distinguishedName : Element (Wire.decode : Decoder DistinguishedName) Wire.encode
  | clientExtension : Element (Wire.decode : Decoder ClientExtension) Wire.encode
  | serverExtension : Element (Wire.decode : Decoder ServerExtension) Wire.encode

theorem Reads.canonical_iff (h : item.Reads Fits encode) {a : α} : Canonical item encode a ↔ Fits a :=
  h.exact.trans (and_iff_left rfl)

/-- Every element has one form on the wire, which is not empty. -/
theorem Element.reads (h : Element item encode) :
    ∃ Fits, item.Reads Fits encode ∧ ∀ a, Fits a → encode a ≠ [] := by
  cases h with
  | @integer width h =>
    refine ⟨_, reads_integer width, fun n _ hnil => ?_⟩
    have hlength := Bytes.length_ofNat width n
    rw [hnil] at hlength
    exact absurd hlength.symm (Nat.ne_of_gt h)
  | code α h => exact ⟨_, Registry.reads_code α, fun x _ => Registry.encode_ne_nil (Nat.ne_of_gt h) x⟩
  | certificate =>
    exact ⟨_, Certificate.reads, fun c _ => Encoder.vector_ne_nil (by decide) c.bytes⟩
  | distinguishedName =>
    exact ⟨_, DistinguishedName.reads, fun n _ => Encoder.vector_ne_nil (by decide) n.bytes⟩
  | clientExtension => exact ⟨_, ClientExtension.reads, fun x _ => ClientExtension.encode_ne_nil x⟩
  | serverExtension => exact ⟨_, ServerExtension.reads, fun x _ => ServerExtension.encode_ne_nil x⟩

theorem Reads.advances (h : item.Reads Fits encode) (hne : ∀ a, Fits a → encode a ≠ []) :
    item.Advances := by
  intro bs rest a hrun
  obtain ⟨ha, rfl⟩ := (h _ _ _).mp hrun
  exact ⟨(encode a).length, List.length_pos_iff.mpr (hne a ha), by simp, List.drop_left.symm⟩

/-! ## Item by item -/

/-- Reads items until no byte is left: after how many reads, and what comes of it. -/
inductive Repeats (item : Decoder α) : Bytes → Nat → Except DecodeError (List α) → Prop
  | done : Repeats item [] 0 (.ok [])
  | fails {bs : Bytes} {e : DecodeError} (hleft : bs ≠ []) (h : item.run bs = .error e) :
    Repeats item bs 1 (.error e)
  | next {bs left : Bytes} {a : α} {n : Nat} {x : Except DecodeError (List α)} (hleft : bs ≠ [])
    (h : item.run bs = .ok (a, left)) (hrest : Repeats item left n x) :
    Repeats item bs (n + 1) ((a :: ·) <$> x)

/-- There are no more reads than bytes. -/
theorem exists_repeats (hitem : item.Advances) {fuel : Nat} (hfuel : bs.length ≤ fuel) :
    ∃ n ≤ bs.length, Repeats item bs n (itemsUpTo item fuel bs) := by
  induction fuel generalizing bs with
  | zero =>
    obtain rfl := List.length_eq_zero_iff.mp (Nat.le_zero.mp hfuel)
    exact ⟨0, le_rfl, .done⟩
  | succ fuel ih =>
    cases bs with
    | nil => exact ⟨0, le_rfl, .done⟩
    | cons b bs =>
      rw [itemsUpTo_succ]
      rcases hrun : item.run (b :: bs) with e | ⟨a, left⟩
      · exact ⟨1, by simp, .fails (List.cons_ne_nil b bs) hrun⟩
      · obtain ⟨taken, hpos, hle, rfl⟩ := hitem _ _ _ hrun
        have hshorter : ((b :: bs).drop taken).length < (b :: bs).length := by
          rw [List.length_drop]
          omega
        have hfits : ((b :: bs).drop taken).length ≤ fuel := by omega
        obtain ⟨n, hn, hrest⟩ := ih hfits
        exact ⟨n + 1, by omega, .next (List.cons_ne_nil b bs) hrun hrest⟩

theorem repeats_items (hitem : item.Advances) (bs : Bytes) :
    ∃ n ≤ bs.length, Repeats item bs n (items item bs) := exists_repeats hitem le_rfl

/-! ## The announced bytes -/

theorem integer_missing (h : bs.length < width) :
    (integer width).run bs = .error (.missing (integerName width)) := by
  have hshort : (bs.take width).length ≠ width := by
    rw [List.length_take]
    omega
  have htake : (take width (.missing (integerName width))).run bs = .error (.missing (integerName width)) :=
    if_neg hshort
  rw [integer, StateT.run_bind, htake]
  rfl

/-- Bytes that are enough for a length begin with one. -/
theorem exists_announced (h : width ≤ bs.length) :
    ∃ n more, n < 256 ^ width ∧ bs = Bytes.ofNat width n ++ more := by
  have hlength : (bs.take width).length = width := List.length_take_of_le h
  have hlt := Bytes.toNat_lt (bs.take width)
  have hwrite := Bytes.ofNat_toNat (bs.take width)
  rw [hlength] at hlt hwrite
  exact ⟨_, bs.drop width, hlt, by rw [hwrite, List.take_append_drop]⟩

theorem announced_run (n : Nat) (bs : Bytes) : (announced n).run bs =
    if bs.length < n then .error .tooShort else .ok (bs.take n, bs.drop n) := by
  show (if (bs.take n).length = n then Except.ok (bs.take n, bs.drop n)
    else Except.error DecodeError.tooShort) = _
  rw [List.length_take]
  split
  · rw [if_neg (by omega)]
  · rw [if_pos (by omega)]

theorem lift_run {β : Type} (x : Except DecodeError β) (bs : Bytes) :
    (liftM x : Decoder β).run bs = (·, bs) <$> x := by
  cases x <;> rfl

/-- What is read behind a length: all that it announces, and only if that is within the limit. -/
theorem limitedList_announced {n : Nat} (h : n < 256 ^ width) (more : Bytes) :
    (limitedList width limit item).run (Bytes.ofNat width n ++ more) =
      if limit < n then .error .tooLarge
      else if more.length < n then .error .tooShort
      else (·, more.drop n) <$> items item (more.take n) := by
  rw [limitedList, StateT.run_bind, integer_ofNat h]
  show (if limit < n then (throw .tooLarge >>= fun _ => _ : Decoder (List α))
    else announced n >>= fun bytes => liftM (items item bytes)).run more = _
  split
  · rfl
  · rw [StateT.run_bind, announced_run]
    split
    · rfl
    · exact lift_run _ _

/-- Where every length is within the limit there is none. -/
theorem list_eq_limitedList (item : Decoder α) (h : 256 ^ width ≤ limit + 1) :
    list width item = limitedList width limit item := by
  funext bs
  show (list width item).run bs = (limitedList width limit item).run bs
  rcases Nat.lt_or_ge bs.length width with hshort | hlong
  · rw [limitedList, list, vector, StateT.run_bind, StateT.run_bind, StateT.run_bind, integer_missing hshort]
    rfl
  · obtain ⟨n, more, hn, rfl⟩ := exists_announced hlong
    rw [limitedList_announced hn, if_neg (by omega), list, vector, StateT.run_bind, StateT.run_bind,
      integer_ofNat hn]
    show (announced n).run more >>= _ = _
    rw [announced_run]
    split
    · rfl
    · exact lift_run _ _

/-- How the read of a list turns out: its length is missing, beyond the limit or more than there is, or the
bytes that it announces are read item by item, in no more reads than there are of them. -/
inductive Attempt (item : Decoder α) (width limit : Nat) :
    Bytes → Except DecodeError (List α × Bytes) → Prop
  | missing {bs : Bytes} (h : bs.length < width) :
    Attempt item width limit bs (.error (.missing (integerName width)))
  | tooLarge {n : Nat} (hn : n < 256 ^ width) (h : limit < n) (more : Bytes) :
    Attempt item width limit (Bytes.ofNat width n ++ more) (.error .tooLarge)
  | tooShort {n : Nat} {part : Bytes} (hn : n < 256 ^ width) (hlimit : n ≤ limit) (h : part.length < n) :
    Attempt item width limit (Bytes.ofNat width n ++ part) (.error .tooShort)
  | split {body : Bytes} {reads : Nat} {x : Except DecodeError (List α)} (hlength : body.length < 256 ^ width)
    (hlimit : body.length ≤ limit) (hreads : reads ≤ body.length) (h : Repeats item body reads x)
    (rest : Bytes) : Attempt item width limit (Encoder.vector width body ++ rest) ((·, rest) <$> x)

theorem attempt_limitedList (hitem : item.Advances) (bs : Bytes) :
    Attempt item width limit bs ((limitedList width limit item).run bs) := by
  rcases Nat.lt_or_ge bs.length width with hshort | hlong
  · rw [limitedList, StateT.run_bind, integer_missing hshort]
    exact .missing hshort
  · obtain ⟨n, more, hn, rfl⟩ := exists_announced hlong
    rw [limitedList_announced hn]
    split
    · next hlarge => exact .tooLarge hn hlarge more
    · next hlimit =>
      split
      · next hpart => exact .tooShort hn (Nat.not_lt.mp hlimit) hpart
      · next hwhole =>
        have hlength : (more.take n).length = n := List.length_take_of_le (Nat.not_lt.mp hwhole)
        obtain ⟨reads, hreads, hrepeats⟩ := repeats_items hitem (more.take n)
        have hsplit : Attempt item width limit _ _ :=
          .split (by rwa [hlength]) (by omega) hreads hrepeats (more.drop n)
        rwa [Encoder.vector, hlength, List.append_assoc, List.take_append_drop] at hsplit

/-! ## What is read -/

/-- What a decoder does that splits what a length of some width announces into elements. -/
structure Exact (item : Decoder α) (encode : α → Bytes) (width limit : Nat) (d : Decoder (List α)) : Prop where
  attempt : ∀ bs : Bytes, Attempt item width limit bs (d.run bs)
  /-- It succeeds just if the announced bytes are there, within the limit, and are those of elements. -/
  succeeds : ∀ bs : Bytes, (∃ xs rest, d.run bs = .ok (xs, rest)) ↔ ∃ body rest : Bytes,
    body.length < 256 ^ width ∧ body.length ≤ limit ∧ bs = Encoder.vector width body ++ rest ∧
      ∃ xs : List α, (∀ x ∈ xs, Canonical item encode x) ∧ xs.flatMap encode = body
  /-- It takes the length and the announced bytes, which are those of what it gives. -/
  consumes : ∀ (bs rest : Bytes) (xs : List α), d.run bs = .ok (xs, rest) →
    bs = Encoder.vector width (xs.flatMap encode) ++ rest ∧ (xs.flatMap encode).length < 256 ^ width ∧
      (xs.flatMap encode).length ≤ limit ∧ ∀ x ∈ xs, Canonical item encode x
  /-- What is written for elements is read back, whatever follows. -/
  returns : ∀ xs : List α, (∀ x ∈ xs, Canonical item encode x) → (xs.flatMap encode).length < 256 ^ width →
    (xs.flatMap encode).length ≤ limit →
      ∀ rest : Bytes, d.run (Encoder.list width encode xs ++ rest) = .ok (xs, rest)

theorem reads_limitedList_of_canonical (hitem : item.Reads Fits encode) (hne : ∀ a, Fits a → encode a ≠ []) :
    (limitedList width limit item).Reads (fun xs => (∀ x ∈ xs, Canonical item encode x) ∧
      (xs.flatMap encode).length < 256 ^ width ∧ (xs.flatMap encode).length ≤ limit)
      (Encoder.list width encode) := by
  intro bs rest xs
  simp only [hitem.canonical_iff]
  rcases Nat.lt_or_ge limit (256 ^ width) with hlimit | hlimit
  · rw [reads_limitedList hlimit hitem hne]
    exact and_congr_left fun _ => and_congr_right fun _ => ⟨fun h => ⟨by omega, h⟩, And.right⟩
  · rw [← list_eq_limitedList item (by omega), reads_list width hitem hne]
    exact and_congr_left fun _ => and_congr_right fun _ => ⟨fun h => ⟨h, by omega⟩, And.left⟩

theorem Element.exact (h : Element item encode) (width limit : Nat) :
    Exact item encode width limit (limitedList width limit item) := by
  obtain ⟨Fits, hreads, hne⟩ := h.reads
  have hlist : (limitedList width limit item).Reads _ (Encoder.list width encode) :=
    reads_limitedList_of_canonical hreads hne
  constructor
  case attempt => exact attempt_limitedList (hreads.advances hne)
  case succeeds =>
    intro bs
    simp only [hlist _ _ _]
    constructor
    · rintro ⟨xs, rest, ⟨hxs, hlength, hlimit⟩, hbs⟩
      exact ⟨_, rest, hlength, hlimit, hbs, xs, hxs, rfl⟩
    · rintro ⟨_, rest, hlength, hlimit, hbs, xs, hxs, rfl⟩
      exact ⟨xs, rest, ⟨hxs, hlength, hlimit⟩, hbs⟩
  case consumes =>
    intro bs rest xs hrun
    obtain ⟨⟨hxs, hlength, hlimit⟩, hbs⟩ := (hlist _ _ _).mp hrun
    exact ⟨hbs, hlength, hlimit, hxs⟩
  case returns =>
    intro xs hxs hlength hlimit rest
    exact (hlist _ _ _).mpr ⟨⟨hxs, hlength, hlimit⟩, rfl⟩

/-- What is known of the lists of some elements: those that a length of one byte announces, those that a length
of two announces, and those of at most so many bytes that a length of three announces. -/
structure Listed (item : Decoder α) (encode : α → Bytes) : Prop where
  advances : item.Advances
  short : Exact item encode 1 0xff (list 1 item)
  long : Exact item encode 2 0xffff (list 2 item)
  limited : ∀ limit, Exact item encode 3 limit (limitedList 3 limit item)

theorem lists_read (h : Element item encode) : Listed item encode := by
  obtain ⟨Fits, hreads, hne⟩ := h.reads
  have hshort := h.exact 1 0xff
  have hlong := h.exact 2 0xffff
  rw [← list_eq_limitedList item (by decide)] at hshort hlong
  exact ⟨hreads.advances hne, hshort, hlong, h.exact 3⟩

/-- Two extensions with a byte behind them, and then one that announces more than there is in it. -/
theorem lists_read_extensions : Element (Wire.decode : Decoder ClientExtension) Wire.encode ∧
    (list 2 (Wire.decode : Decoder ClientExtension)).run [0, 11, 0, 12, 0, 2, 1, 97, 255, 1, 0, 1, 0, 14] =
      .ok ([.srpIdentity [97], .raw ⟨⟨0xff01⟩, [0]⟩], [14]) ∧
    (list 2 (Wire.decode : Decoder ClientExtension)).run [0, 6, 0, 12, 0, 2, 2, 97, 14] = .error .tooShort ∧
    Listed (Wire.decode : Decoder ClientExtension) Wire.encode :=
  ⟨.clientExtension, by decide, by decide, lists_read .clientExtension⟩

end Decoder

end TlsClient
