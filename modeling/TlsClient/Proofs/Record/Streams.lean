import TlsClient.Proofs.Record.Joining

/-!
# A stream of handshake bytes

A byte string is a few whole messages, and then either the beginning of one more or something that is no
message (`Splits`).  It is so in one way only, and what its front is does not depend on the bytes behind
it: more bytes behind a beginning go on with what is left (`Splits.append`), behind something malformed
they change nothing (`Splits.append_fault`).

The joiner judges all that a piece completes before it gives anything out.  So the messages that come
out, and the fault if there is one, depend on the pieces in one case only (`told`): what is whole in the
piece that shows a malformed message does not come out.  When no piece is of this kind (`Apart`) the
pieces make no difference (`told_of_apart`).
-/

namespace TlsClient

/-- Reading a message whose body is there as a whole. -/
theorem HandshakeMessage.decode_vector (t : UInt8) {body : Bytes} (h : body.length < 256 ^ 3)
    (rest : Bytes) : (Wire.decode : Decoder HandshakeMessage).run (t :: (Encoder.vector 3 body ++ rest)) =
      (fun m => (m, rest)) <$>
        Decoder.exactly "HandshakeMessagePayload" (decodeBody ⟨t⟩) body := by
  have htype : (Registry.decode : Decoder HandshakeType).run
      (t :: (Encoder.vector 3 body ++ rest)) = .ok (⟨t⟩, Encoder.vector 3 body ++ rest) := by
    have ht : (Registry.ofCode (Bytes.toNat [t]) : HandshakeType) = ⟨t⟩ := by
      simp [Registry.ofCode, Bytes.toNat]
    exact Decoder.bind_ok.mpr ⟨[t], _, Decoder.take_ok.mpr ⟨rfl, rfl⟩,
      congrArg (fun x => Except.ok (x, _)) ht⟩
  have hbody : (Decoder.vector 3).run (Encoder.vector 3 body ++ rest) = .ok (body, rest) :=
    Decoder.vector_ok.mpr ⟨h, rfl⟩
  show (do
    let typ ← (Registry.decode : Decoder HandshakeType)
    let body ← Decoder.vector 3
    liftM (Decoder.exactly "HandshakeMessagePayload" (decodeBody typ) body) :
      Decoder HandshakeMessage).run _ = _
  rw [StateT.run_bind, htype]
  show ((do
    let body ← Decoder.vector 3
    liftM (Decoder.exactly "HandshakeMessagePayload" (decodeBody ⟨t⟩) body) :
      Decoder HandshakeMessage).run _) = _
  rw [StateT.run_bind, hbody]
  rfl

namespace HandshakeJoiner

variable {v : ProtocolVersion} {bs : Bytes}

/-! ## The front -/

/-- What is at the front of a byte string: nothing that is whole yet, a message and the bytes behind it,
or something malformed. -/
def first (v : ProtocolVersion) (bs : Bytes) : Option (Except DecodeError (Message × Bytes)) :=
  match front bs with
  | .incomplete => none
  | .tooLarge => some (.error .handshakeTooLarge)
  | .whole => some <| (Wire.decode : Decoder HandshakeMessage).run bs |>.map fun (m, rest) =>
      (⟨v, .handshake m (bs.take (bs.length - rest.length))⟩, rest)

theorem first_eq_none : first v bs = none ↔ front bs = .incomplete := by
  rw [first]
  split <;> simp [*]

theorem front_append (h : front bs ≠ .incomplete) (more : Bytes) :
    front (bs ++ more) = front bs := by
  rcases Nat.lt_or_ge bs.length 4 with hshort | hlong
  · exact absurd (front_short hshort) h
  · obtain ⟨t, length, part, hlength, rfl⟩ := exists_header hlong
    rw [front_header t hlength] at h ⊢
    rw [List.cons_append, List.append_assoc, front_header t hlength]
    split
    · rfl
    · next hmax =>
      rw [if_neg hmax] at h
      split at h
      · next hle =>
        rw [if_pos hle, if_pos (by rw [List.length_append]; omega)]
      · exact absurd rfl h

/-- A buffer that is judged to be whole begins with the body that its header announces. -/
theorem front_whole (h : front bs = .whole) :
    ∃ t body rest, bs = t :: (Encoder.vector 3 body ++ rest) ∧ body.length ≤ maxBody := by
  rcases Nat.lt_or_ge bs.length 4 with hshort | hlong
  · rw [front_short hshort] at h
    cases h
  · obtain ⟨t, length, part, hlength, rfl⟩ := exists_header hlong
    rw [front_header t hlength] at h
    split at h
    · cases h
    · next hmax =>
      split at h
      · next hle =>
        have hbody : (part.take length).length = length := List.length_take_of_le hle
        refine ⟨t, part.take length, part.drop length, ?_, by omega⟩
        rw [Encoder.vector, hbody, List.append_assoc, List.take_append_drop]
      · cases h

theorem first_vector (t : UInt8) {body : Bytes} (h : body.length ≤ maxBody) (rest : Bytes) :
    first v (t :: (Encoder.vector 3 body ++ rest)) = some
      ((Decoder.exactly "HandshakeMessagePayload" (HandshakeMessage.decodeBody ⟨t⟩) body).map fun m =>
        (⟨v, .handshake m (t :: Encoder.vector 3 body)⟩, rest)) := by
  have hlt : body.length < 256 ^ 3 := Nat.lt_of_le_of_lt h (by decide)
  have hfront : front (t :: (Encoder.vector 3 body ++ rest)) = .whole := by
    rw [front_vector t hlt, if_neg (by omega)]
  have hencoded : (t :: (Encoder.vector 3 body ++ rest)).take
      ((t :: (Encoder.vector 3 body ++ rest)).length - rest.length) = t :: Encoder.vector 3 body := by
    rw [← List.cons_append, List.length_append, Nat.add_sub_cancel, List.take_left]
  rw [first, hfront]
  dsimp only
  rw [HandshakeMessage.decode_vector t hlt]
  cases Decoder.exactly "HandshakeMessagePayload" (HandshakeMessage.decodeBody ⟨t⟩) body with
  | error e => rfl
  | ok m =>
    show some (Except.ok (_, rest)) = _
    rw [hencoded]
    rfl

/-- Once something is at the front, more bytes are only left over. -/
theorem first_append {x : Except DecodeError (Message × Bytes)} (h : first v bs = some x)
    (more : Bytes) : first v (bs ++ more) = some (x.map fun y => (y.1, y.2 ++ more)) := by
  cases hf : front bs with
  | incomplete =>
    rw [first, hf] at h
    cases h
  | tooLarge =>
    rw [first, hf] at h
    cases h
    rw [first, front_append (by rw [hf]; simp) more, hf]
    rfl
  | whole =>
    obtain ⟨t, body, rest, rfl, hle⟩ := front_whole hf
    rw [first_vector t hle] at h
    cases h
    rw [List.cons_append, List.append_assoc, first_vector t hle]
    cases Decoder.exactly "HandshakeMessagePayload" (HandshakeMessage.decodeBody ⟨t⟩) body <;> rfl

/-- A message takes bytes. -/
theorem length_lt_of_first {m : Message} {rest : Bytes} (h : first v bs = some (.ok (m, rest))) :
    rest.length < bs.length := by
  cases hf : front bs with
  | incomplete | tooLarge =>
    rw [first, hf] at h
    cases h
  | whole =>
    obtain ⟨t, body, rest', rfl, hle⟩ := front_whole hf
    rw [first_vector t hle] at h
    cases hx : Decoder.exactly "HandshakeMessagePayload" (HandshakeMessage.decodeBody ⟨t⟩) body with
    | error e => rw [hx] at h; cases h
    | ok m' =>
      rw [hx] at h
      cases h
      simp [Encoder.vector]
      omega

/-! ## The whole stream -/

/-- A byte string is some messages and what is left, which is malformed or the beginning of a message. -/
inductive Splits (v : ProtocolVersion) : Bytes → List Message → Option DecodeError → Bytes → Prop
  | waits {bs : Bytes} (h : first v bs = none) : Splits v bs [] none bs
  | fault {bs : Bytes} {e : DecodeError} (h : first v bs = some (.error e)) : Splits v bs [] (some e) bs
  | message {bs rest tail : Bytes} {m : Message} {ms : List Message} {f : Option DecodeError}
    (h : first v bs = some (.ok (m, rest))) (hrest : Splits v rest ms f tail) : Splits v bs (m :: ms) f tail

variable {more tail tail' : Bytes} {ms ms' : List Message} {f f' : Option DecodeError}

theorem Splits.unique (h : Splits v bs ms f tail) (h' : Splits v bs ms' f' tail') :
    ms' = ms ∧ f' = f ∧ tail' = tail := by
  induction h generalizing ms' with
  | waits h =>
    cases h' with
    | waits => exact ⟨rfl, rfl, rfl⟩
    | fault h' | message h' => rw [h] at h'; cases h'
  | fault h =>
    cases h' with
    | fault h' => rw [h] at h'; cases h'; exact ⟨rfl, rfl, rfl⟩
    | waits h' | message h' => rw [h] at h'; cases h'
  | message h _ ih =>
    cases h' with
    | message h' hrest' =>
      rw [h] at h'
      cases h'
      obtain ⟨rfl, rfl, rfl⟩ := ih hrest'
      exact ⟨rfl, rfl, rfl⟩
    | waits h' | fault h' => rw [h] at h'; cases h'

/-- Behind the beginning of a message more bytes go on with it. -/
theorem Splits.append (h : Splits v bs ms none tail) (h' : Splits v (tail ++ more) ms' f tail') :
    Splits v (bs ++ more) (ms ++ ms') f tail' := by
  generalize hf : (none : Option DecodeError) = g at h
  induction h with
  | waits h => exact h'
  | fault h => cases hf
  | message h _ ih => exact .message (first_append h more) (ih h' hf)

/-- Behind something malformed more bytes change nothing. -/
theorem Splits.append_fault {e : DecodeError} (h : Splits v bs ms (some e) tail) (more : Bytes) :
    Splits v (bs ++ more) ms (some e) (tail ++ more) := by
  generalize hf : some e = g at h
  induction h with
  | waits h => cases hf
  | fault h =>
    cases hf
    exact .fault (first_append h more)
  | message h _ ih => exact .message (first_append h more) (ih hf)

/-- What is left of a byte string that is not malformed is the beginning of a message. -/
theorem Splits.first_tail (h : Splits v bs ms none tail) : first v tail = none := by
  generalize hf : (none : Option DecodeError) = g at h
  induction h with
  | waits h => exact h
  | fault h => cases hf
  | message _ _ ih => exact ih hf

/-! ## What the joiner makes of it -/

/-- What went wrong in joining. -/
def faultOf : Except DecodeError Nat → Option DecodeError
  | .ok _ => none
  | .error e => some e

theorem faultOf_map (f : Nat → Nat) (r : Except DecodeError Nat) : faultOf (f <$> r) = faultOf r := by
  cases r <;> rfl

/-- One step of the joiner goes by what is at the front. -/
theorem split_succ (fuel : Nat) (j : HandshakeJoiner) :
    split v (fuel + 1) j = match first v j.buffer with
      | none => (.ok 0, j)
      | some (.error e) => (.error e, j)
      | some (.ok (m, rest)) =>
        let (r, j) := split v fuel { ready := j.ready ++ [m], buffer := rest }
        ((· + 1) <$> r, j) := by
  rw [split, first]
  cases front j.buffer with
  | tooLarge | incomplete => rfl
  | whole =>
    dsimp only
    cases (Wire.decode : Decoder HandshakeMessage).run j.buffer <;> rfl

/-- With enough fuel the joiner splits all there is. -/
theorem splits_split {fuel : Nat} {j : HandshakeJoiner} (h : j.buffer.length ≤ fuel) :
    ∃ new, (split v fuel j).2.ready = j.ready ++ new ∧
      Splits v j.buffer new (faultOf (split v fuel j).1) (split v fuel j).2.buffer := by
  induction fuel generalizing j with
  | zero =>
    have hempty : j.buffer = [] := List.length_eq_zero_iff.mp (Nat.le_zero.mp h)
    refine ⟨[], (List.append_nil _).symm, ?_⟩
    show Splits v j.buffer [] none j.buffer
    rw [hempty]
    exact .waits rfl
  | succ fuel ih =>
    rw [split_succ]
    rcases hfirst : first v j.buffer with _ | e | ⟨m, rest⟩
    · exact ⟨[], (List.append_nil _).symm, .waits hfirst⟩
    · exact ⟨[], (List.append_nil _).symm, .fault hfirst⟩
    · have hlt := length_lt_of_first hfirst
      obtain ⟨new, hready, hsplits⟩ := @ih { ready := j.ready ++ [m], buffer := rest }
        (show rest.length ≤ fuel by omega)
      refine ⟨m :: new, ?_, .message hfirst ?_⟩
      · show (split v fuel _).2.ready = _
        rw [hready, List.append_assoc, List.singleton_append]
      · show Splits v rest new (faultOf ((· + 1) <$> (split v fuel _).1)) (split v fuel _).2.buffer
        rw [faultOf_map]
        exact hsplits

/-! ## Pieces -/

/-- The messages that are whole in a byte string, up to the first that is malformed. -/
def messages (bs : Bytes) : List Message := (split .tls1 bs.length { buffer := bs }).2.ready

/-- What is wrong with the first message that is malformed, if there is one. -/
def fault (bs : Bytes) : Option DecodeError := faultOf (split .tls1 bs.length { buffer := bs }).1

/-- The bytes behind the messages. -/
def left (bs : Bytes) : Bytes := (split .tls1 bs.length { buffer := bs }).2.buffer

theorem splits (bs : Bytes) : Splits .tls1 bs (messages bs) (fault bs) (left bs) := by
  obtain ⟨new, hready, hsplits⟩ := @splits_split .tls1 bs.length { buffer := bs } le_rfl
  rw [List.nil_append] at hready
  rw [messages, hready]
  exact hsplits

/-- Messages go on behind those of a byte string that is not malformed. -/
theorem splits_append (h : fault bs = none) (more : Bytes) :
    messages (bs ++ more) = messages bs ++ messages (left bs ++ more) ∧
      fault (bs ++ more) = fault (left bs ++ more) := by
  have hbs := splits bs
  rw [h] at hbs
  obtain ⟨hmessages, hfault, -⟩ := (hbs.append (splits (left bs ++ more))).unique (splits (bs ++ more))
  exact ⟨hmessages, hfault⟩

theorem splits_append_fault {e : DecodeError} (h : fault bs = some e) (more : Bytes) :
    messages (bs ++ more) = messages bs ∧ fault (bs ++ more) = some e := by
  have hbs := splits bs
  rw [h] at hbs
  obtain ⟨hmessages, hfault, -⟩ := (hbs.append_fault more).unique (splits (bs ++ more))
  exact ⟨hmessages, hfault⟩

/-- The messages that come out when bytes arrive in pieces behind those that wait, and the fault that ends
this: nothing comes out of a piece that shows a malformed message. -/
def told : Bytes → List Bytes → List Message × Option DecodeError
  | _, [] => ([], none)
  | b, x :: xs =>
    match fault (b ++ x) with
    | some e => ([], some e)
    | none => (messages (b ++ x) ++ (told (left (b ++ x)) xs).1, (told (left (b ++ x)) xs).2)

/-- A piece that shows a malformed message completes no other. -/
def Apart : Bytes → List Bytes → Prop
  | _, [] => True
  | b, x :: xs =>
    match fault (b ++ x) with
    | some _ => messages (b ++ x) = []
    | none => Apart (left (b ++ x)) xs

variable {b : Bytes}

theorem splits_beginning (h : first .tls1 b = none) : messages b = [] ∧ fault b = none := by
  obtain ⟨hmessages, hfault, -⟩ := (Splits.waits h).unique (splits b)
  exact ⟨hmessages, hfault⟩

/-- However the bytes come in pieces, the fault is the same, and what comes out are the first messages in
their order. -/
theorem told_prefix (h : first .tls1 b = none) (xs : List Bytes) :
    (told b xs).1 <+: messages (b ++ xs.flatten) ∧ (told b xs).2 = fault (b ++ xs.flatten) := by
  induction xs generalizing b with
  | nil =>
    obtain ⟨hmessages, hfault⟩ := splits_beginning h
    rw [List.flatten_nil, List.append_nil, hmessages, hfault]
    exact ⟨List.prefix_rfl, rfl⟩
  | cons x xs ih =>
    rw [List.flatten_cons, ← List.append_assoc, told]
    cases hf : fault (b ++ x) with
    | some e =>
      obtain ⟨-, hfault⟩ := splits_append_fault hf xs.flatten
      exact ⟨List.nil_prefix, hfault.symm⟩
    | none =>
      have hx := splits (b ++ x)
      rw [hf] at hx
      obtain ⟨hmessages, hfault⟩ := splits_append hf xs.flatten
      obtain ⟨hout, hsame⟩ := ih hx.first_tail
      rw [hmessages, hfault]
      exact ⟨List.prefix_append_right_inj _ |>.mpr hout, hsame⟩

/-- If malformed messages come apart from others, every message comes out. -/
theorem told_of_apart (h : first .tls1 b = none) {xs : List Bytes} (hxs : Apart b xs) :
    told b xs = (messages (b ++ xs.flatten), fault (b ++ xs.flatten)) := by
  induction xs generalizing b with
  | nil =>
    obtain ⟨hmessages, hfault⟩ := splits_beginning h
    rw [List.flatten_nil, List.append_nil, hmessages, hfault]
    rfl
  | cons x xs ih =>
    rw [List.flatten_cons, ← List.append_assoc, told]
    rw [Apart] at hxs
    cases hf : fault (b ++ x) with
    | some e =>
      obtain ⟨hmessages, hfault⟩ := splits_append_fault hf xs.flatten
      rw [hf] at hxs
      rw [hmessages, hfault, hxs]
    | none =>
      have hx := splits (b ++ x)
      rw [hf] at hx hxs
      obtain ⟨hmessages, hfault⟩ := splits_append hf xs.flatten
      rw [hmessages, hfault, ih hx.first_tail hxs]

/-- Where nothing is malformed the pieces are as they should be. -/
theorem apart_of_clean {xs : List Bytes} (h : fault (b ++ xs.flatten) = none) : Apart b xs := by
  induction xs generalizing b with
  | nil => trivial
  | cons x xs ih =>
    rw [List.flatten_cons, ← List.append_assoc] at h
    rw [Apart]
    cases hf : fault (b ++ x) with
    | some e =>
      rw [(splits_append_fault hf xs.flatten).2] at h
      cases h
    | none => exact ih ((splits_append hf xs.flatten).2.symm.trans h)

/-- A record joins what is whole in its payload behind the bytes that wait. -/
theorem push_splits {j : HandshakeJoiner} {r : Record} (hj : j.ready = []) (hv : r.version = .tls1)
    (hr : r.payload ≠ []) : faultOf (j.push r).1 = fault (j.buffer ++ r.payload) ∧
      (j.push r).2 = ⟨messages (j.buffer ++ r.payload), left (j.buffer ++ r.payload)⟩ := by
  have hpush : j.push r = split .tls1 (j.buffer ++ r.payload).length
      { buffer := j.buffer ++ r.payload } := by rw [push_eq hr, hv, hj]
  rw [hpush]
  exact ⟨rfl, rfl⟩

end HandshakeJoiner

end TlsClient
