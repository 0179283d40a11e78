import TlsClient.Proofs.Wire.Messages
import TlsClient.Record.Message

/-!
# What a record carries

A record that is read as one message is read for one body of its content type (`Body`).  An alert and the signal
of a key change are refused with bytes behind them; a handshake message is not, but stands with these bytes for
the whole payload.  A message that was read goes back to the record that it came in, byte by byte
(`Message.toRecord_of_ofRecord`), whatever it was read for.
-/

namespace TlsClient

open Decoder

variable {bs rest : Bytes} {typ : ContentType}

/-! ## Bodies -/

/-- What ends a body has nothing behind it. -/
theorem Decoder.finish_pure_ok {α : Type} {what : String} {a b : α} :
    (finish what >>= fun _ => pure a).run bs = .ok (b, rest) ↔ bs = [] ∧ rest = [] ∧ b = a := by
  rw [bind_ok]
  constructor
  · rintro ⟨_, mid, hfinish, h⟩
    obtain ⟨rfl, rfl⟩ := finish_ok.mp hfinish
    cases h
    exact ⟨rfl, rfl, rfl⟩
  · rintro ⟨rfl, rfl, rfl⟩
    exact ⟨(), [], finish_ok.mpr ⟨rfl, rfl⟩, rfl⟩

/-- What is left behind is not looked at. -/
theorem Decoder.map_onBytes_ok {α β : Type} {d : Decoder α} {f : α → β} {b : β} :
    f <$> onBytes d bs = .ok b ↔ ∃ a rest, d.run bs = .ok (a, rest) ∧ b = f a := by
  unfold onBytes
  rcases d.run bs with e | ⟨a, rest⟩
  · simp [Functor.map, Except.map]
  · simp [Functor.map, Except.map, eq_comm]

theorem Alert.encode_eq (a : Alert) : Wire.encode a = [a.level.code, a.description.code] := by
  have hlevel : Wire.encode a.level = [a.level.code] := by
    simp [Wire.encode, Registry.encode, Registry.width, Registry.code, Bytes.ofNat]
  have hdescription : Wire.encode a.description = [a.description.code] := by
    simp [Wire.encode, Registry.encode, Registry.width, Registry.code, Bytes.ofNat]
  show Wire.encode a.level ++ Wire.encode a.description = _
  rw [hlevel, hdescription]
  rfl

/-- An alert is its two bytes, with nothing behind them. -/
theorem Alert.decode_ok {a : Alert} :
    (Wire.decode : Decoder Alert).run bs = .ok (a, rest) ↔ bs = Wire.encode a ∧ rest = [] := by
  show ((Registry.decode : Decoder AlertLevel) >>= fun level => (Registry.decode : Decoder AlertDescription) >>=
    fun description => finish "AlertMessagePayload" >>= fun _ => pure (⟨level, description⟩ : Alert)).run bs = _ ↔ _
  rw [(Registry.reads_code AlertLevel).bind_ok]
  simp only [(Registry.reads_code AlertDescription).bind_ok, finish_pure_ok]
  constructor
  · rintro ⟨level, _, ⟨-, rfl⟩, description, _, ⟨-, rfl⟩, rfl, rfl, rfl⟩
    exact ⟨by rw [List.append_nil]; rfl, rfl⟩
  · rintro ⟨rfl, rfl⟩
    exact ⟨a.level, _, ⟨trivial, rfl⟩, a.description, [], ⟨trivial, (List.append_nil _).symm⟩, rfl, rfl, rfl⟩

/-- The signal of a key change is the byte one, with nothing behind it. -/
theorem ChangeCipherSpec.decode_ok {c : ChangeCipherSpec} :
    (Wire.decode : Decoder ChangeCipherSpec).run bs = .ok (c, rest) ↔ bs = [1] ∧ rest = [] := by
  show (integer 1 >>= fun n => if n ≠ 1 then throw .badChangeCipherSpec >>= fun _ => _
    else finish "ChangeCipherSpecPayload" >>= fun _ => pure ChangeCipherSpec.mk).run bs = _ ↔ _
  rw [(reads_integer 1).bind_ok]
  constructor
  · rintro ⟨n, mid, ⟨-, rfl⟩, h⟩
    rcases ite_ok h with ⟨-, h⟩ | ⟨hone, h⟩
    · obtain ⟨_, _, h, -⟩ := bind_ok.mp h
      cases h
    · obtain rfl := not_not.mp hone
      obtain ⟨rfl, rfl, -⟩ := finish_pure_ok.mp h
      exact ⟨rfl, rfl⟩
  · rintro ⟨rfl, rfl⟩
    exact ⟨1, [], ⟨by decide, rfl⟩, rfl⟩

/-- A message is spelled by its type, the length of a body that it is read from, and this body. -/
def HandshakeMessage.Spelled (m : HandshakeMessage) (bs : Bytes) : Prop :=
  m.Fits ∧ ∃ body, body.length < 256 ^ 3 ∧ m.IsBody body ∧ bs = m.typ.code :: Encoder.vector 3 body

theorem HandshakeMessage.decode_spelled {m : HandshakeMessage} :
    (Wire.decode : Decoder HandshakeMessage).run bs = .ok (m, rest) ↔
      ∃ front, m.Spelled front ∧ bs = front ++ rest := by
  rw [decode_ok]
  simp only [decodeBody_ok]
  constructor
  · rintro ⟨t, body, rfl, hlength, htyp, hfits, hbody⟩
    exact ⟨_, ⟨hfits, body, hlength, hbody, rfl⟩, by rw [htyp]; rfl⟩
  · rintro ⟨_, ⟨hfits, body, hlength, hbody, rfl⟩, rfl⟩
    exact ⟨m.typ.code, body, rfl, hlength, rfl, hfits, hbody⟩

/-- The bodies of each content type. -/
inductive Body : ContentType → Bytes → Prop
  | alert (level description : UInt8) : Body .alert [level, description]
  | changeCipherSpec : Body .changeCipherSpec [1]
  | handshake {m : HandshakeMessage} {bs : Bytes} (h : m.Spelled bs) : Body .handshake bs
  | applicationData (bs : Bytes) : Body .applicationData bs

/-- The content carriers that carry messages. -/
def ContentType.carriers : List ContentType := [.changeCipherSpec, .alert, .handshake, .applicationData]

/-- They are the ones that have a name. -/
theorem ContentType.name?_eq_none : Registry.name? typ = none ↔ typ ∉ carriers := by
  obtain ⟨code⟩ := typ
  rw [Registry.name?, List.lookup_eq_none_iff]
  simp [Registry.names, Registry.code, carriers, changeCipherSpec, alert, handshake, applicationData,
    ← UInt8.toNat_inj]

open ContentType (carriers)

namespace MessageBody

variable {b : MessageBody}

theorem decode_alert : decode .alert bs = .ok b ↔ ∃ a, bs = Wire.encode a ∧ b = alert a := by
  show alert <$> onBytes Wire.decode bs = _ ↔ _
  rw [map_onBytes_ok]
  simp only [Alert.decode_ok, and_assoc, exists_and_left, exists_eq_left]

theorem decode_changeCipherSpec : decode .changeCipherSpec bs = .ok b ↔ bs = [1] ∧ b = changeCipherSpec := by
  show (fun (_ : ChangeCipherSpec) => changeCipherSpec) <$> onBytes Wire.decode bs = _ ↔ _
  rw [map_onBytes_ok]
  simp only [ChangeCipherSpec.decode_ok]
  constructor
  · rintro ⟨_, _, ⟨hbs, -⟩, hb⟩
    exact ⟨hbs, hb⟩
  · rintro ⟨hbs, hb⟩
    exact ⟨{}, [], ⟨hbs, rfl⟩, hb⟩

/-- A handshake message is read in front of the payload, and kept with all of it. -/
theorem decode_handshake : decode .handshake bs = .ok b ↔
    ∃ m front more, HandshakeMessage.Spelled m front ∧ bs = front ++ more ∧ b = handshake m bs := by
  show (handshake · bs) <$> onBytes Wire.decode bs = _ ↔ _
  rw [map_onBytes_ok]
  simp only [HandshakeMessage.decode_spelled]
  constructor
  · rintro ⟨m, more, ⟨front, hfront, hbs⟩, hb⟩
    exact ⟨m, front, more, hfront, hbs, hb⟩
  · rintro ⟨m, front, more, hfront, hbs, hb⟩
    exact ⟨m, more, ⟨front, hfront, hbs⟩, hb⟩

theorem decode_applicationData : decode .applicationData bs = .ok b ↔ b = applicationData bs := by
  show Except.ok (applicationData bs) = _ ↔ _
  rw [Except.ok.injEq, eq_comm]

theorem decode_of_not_mem (h : typ ∉ carriers) (bs : Bytes) : decode typ bs = .error .badContentType := by
  simp only [carriers, List.mem_cons, List.not_mem_nil, or_false, not_or] at h
  simp only [decode, h, if_false]

/-- What is read has the type and the bytes that it was read from. -/
theorem of_decode (h : decode typ bs = .ok b) : b.typ = typ ∧ b.encode = bs := by
  by_cases htyp : typ ∈ carriers
  · simp only [carriers, List.mem_cons, List.not_mem_nil, or_false] at htyp
    rcases htyp with rfl | rfl | rfl | rfl
    · obtain ⟨rfl, rfl⟩ := decode_changeCipherSpec.mp h
      exact ⟨rfl, rfl⟩
    · obtain ⟨a, rfl, rfl⟩ := decode_alert.mp h
      exact ⟨rfl, rfl⟩
    · obtain ⟨m, front, more, -, -, rfl⟩ := decode_handshake.mp h
      exact ⟨rfl, rfl⟩
    · obtain rfl := decode_applicationData.mp h
      exact ⟨rfl, rfl⟩
  · rw [decode_of_not_mem htyp] at h
    cases h

/-- Just the bodies of a type are read, but for handshake messages, which may have more behind them. -/
theorem exists_decode : (∃ b, decode typ bs = .ok b) ↔
    ∃ front more, Body typ front ∧ bs = front ++ more ∧ (more ≠ [] → typ = .handshake) := by
  constructor
  · rintro ⟨b, h⟩
    by_cases htyp : typ ∈ carriers
    · simp only [carriers, List.mem_cons, List.not_mem_nil, or_false] at htyp
      rcases htyp with rfl | rfl | rfl | rfl
      · obtain ⟨rfl, rfl⟩ := decode_changeCipherSpec.mp h
        exact ⟨_, [], .changeCipherSpec, rfl, absurd rfl⟩
      · obtain ⟨a, rfl, rfl⟩ := decode_alert.mp h
        exact ⟨_, [], a.encode_eq ▸ .alert _ _, (List.append_nil _).symm, absurd rfl⟩
      · obtain ⟨m, front, more, hfront, hbs, -⟩ := decode_handshake.mp h
        exact ⟨front, more, .handshake hfront, hbs, fun _ => rfl⟩
      · exact ⟨bs, [], .applicationData bs, (List.append_nil _).symm, absurd rfl⟩
    · rw [decode_of_not_mem htyp] at h
      cases h
  · rintro ⟨front, more, hbody, rfl, hmore⟩
    have hwhole : typ ≠ .handshake → more = [] := fun htyp => by_contra fun hne => htyp (hmore hne)
    cases hbody with
    | alert level description =>
      rw [hwhole (by decide), List.append_nil]
      exact ⟨_, decode_alert.mpr ⟨⟨⟨level⟩, ⟨description⟩⟩, (Alert.encode_eq ⟨⟨level⟩, ⟨description⟩⟩).symm, rfl⟩⟩
    | changeCipherSpec =>
      rw [hwhole (by decide), List.append_nil]
      exact ⟨_, decode_changeCipherSpec.mpr ⟨rfl, rfl⟩⟩
    | handshake h => exact ⟨_, decode_handshake.mpr ⟨_, front, more, h, rfl, rfl⟩⟩
    | applicationData bs => exact ⟨_, decode_applicationData.mpr rfl⟩

end MessageBody

namespace Message

variable {r : Record} {m : Message}

theorem ofRecord_ok :
    ofRecord r = .ok m ↔ ∃ b, MessageBody.decode r.typ r.payload = .ok b ∧ m = ⟨r.version, b⟩ := by
  unfold ofRecord
  cases MessageBody.decode r.typ r.payload with
  | error e => simp [Functor.map, Except.map]
  | ok b => simp [Functor.map, Except.map, eq_comm]

/-- A message goes back to the record that it was read from. -/
theorem toRecord_of_ofRecord (h : ofRecord r = .ok m) : m.toRecord = r := by
  obtain ⟨b, hb, rfl⟩ := ofRecord_ok.mp h
  obtain ⟨htyp, hencode⟩ := MessageBody.of_decode hb
  exact Record.mk.injEq .. ▸ ⟨htyp, rfl, hencode⟩

/-- How a record is read as one message. -/
structure Admits (r : Record) : Prop where
  /-- Just the bodies of its type are read, but for handshake messages, which may have more behind them. -/
  accepts : (∃ m, ofRecord r = .ok m) ↔ ∃ front more : Bytes, Body r.typ front ∧ r.payload = front ++ more ∧
    (more ≠ [] → r.typ = .handshake)
  unnamed : Registry.name? r.typ = none → ofRecord r = .error .badContentType
  /-- A handshake message is the one in front, and is kept with the whole payload. -/
  handshake : r.typ = .handshake → ∀ m, ofRecord r = .ok m ↔ ∃ parsed front more,
    HandshakeMessage.Spelled parsed front ∧ r.payload = front ++ more ∧ m = ⟨r.version, .handshake parsed r.payload⟩
  /-- Every message goes back to the record that it was read from. -/
  returns : ∀ m, ofRecord r = .ok m → m.toRecord = r

theorem ofRecord_admits (r : Record) : Admits r where
  accepts := by
    rw [← MessageBody.exists_decode]
    constructor
    · rintro ⟨m, h⟩
      obtain ⟨b, hb, -⟩ := ofRecord_ok.mp h
      exact ⟨b, hb⟩
    · rintro ⟨b, hb⟩
      exact ⟨_, ofRecord_ok.mpr ⟨b, hb, rfl⟩⟩
  unnamed h := by
    rw [ofRecord, MessageBody.decode_of_not_mem (ContentType.name?_eq_none.mp h)]
    rfl
  handshake htyp m := by
    rw [ofRecord_ok, htyp]
    simp only [MessageBody.decode_handshake]
    constructor
    · rintro ⟨_, ⟨parsed, front, more, hfront, hpayload, rfl⟩, rfl⟩
      exact ⟨parsed, front, more, hfront, hpayload, rfl⟩
    · rintro ⟨parsed, front, more, hfront, hpayload, rfl⟩
      exact ⟨_, ⟨parsed, front, more, hfront, hpayload, rfl⟩, rfl⟩
  returns _ h := toRecord_of_ofRecord h

/-- An empty handshake message with four bytes behind it is accepted, and an alert with one byte behind it is not. -/
example : ofRecord ⟨.handshake, .tls1, [14, 0, 0, 0, 116, 97, 105, 108]⟩ =
      .ok ⟨.tls1, .handshake .serverHelloDone [14, 0, 0, 0, 116, 97, 105, 108]⟩ ∧
    ofRecord ⟨.alert, .tls1, [1, 0, 0]⟩ = .error (.trailing "AlertMessagePayload") := by decide

end Message

end TlsClient
