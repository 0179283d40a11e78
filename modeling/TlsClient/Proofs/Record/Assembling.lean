import TlsClient.Proofs.Record.Capacity

/-!
# A joiner in use

However the bytes of a stream come in records, and whenever a message is asked for, what comes out are the
messages at the front of the stream, and what is kept is the beginning of the next or something malformed: one
push goes on with the same splitting of the stream (`Use.Sound.push`), so a run of calls comes to the splitting
of all its bytes (`Use.sound_run`).  There is one such splitting only (`splits_iff`, `Splits.unique`), which is
why the boundaries of the records make no difference.
-/

namespace TlsClient

open Transcript (contribution)

namespace Message

/-- The message as it would have come in a record of another version. -/
def under (v : ProtocolVersion) (m : Message) : Message := { m with version := v }

/-- Messages of one version are told by their bodies. -/
theorem map_body {v : ProtocolVersion} {ms : List Message} (h : ∀ m ∈ ms, m.version = v) :
    (ms.map body).map (Message.mk v) = ms := by
  rw [List.map_map]
  refine (List.map_congr_left fun m hm => ?_).trans (List.map_id ms)
  obtain rfl := h m hm
  rfl

/-- A handshake message that its own bytes are read as, of a length that is allowed. -/
def Whole (m : Message) : Prop := m.Joined m.version ∧ (contribution m).length ≤ 4 + 0xffff

theorem Whole.under {m : Message} (h : m.Whole) (v : ProtocolVersion) : (m.under v).Whole := by
  obtain ⟨⟨parsed, encoded, hm, hread⟩, hlength⟩ := h
  exact ⟨⟨parsed, encoded, by rw [hm]; rfl, hread⟩, hlength⟩

end Message

namespace HandshakeJoiner

variable {v : ProtocolVersion} {bs bad rest tail : Bytes} {m : Message} {ms : List Message} {e : DecodeError}
  {f : Option DecodeError}

/-! ## What stands in a stream -/

/-- The bytes that show what is wrong: the header of a message that is too long, or a message that is there as
a whole and cannot be read. -/
inductive Bad : Bytes → DecodeError → Prop
  | tooLong (t : UInt8) (length : Nat) (h : 0xffff < length) (hlength : length < 256 ^ 3) :
    Bad (t :: Bytes.ofNat 3 length) .handshakeTooLarge
  | unreadable (t : UInt8) (body : Bytes) {e : DecodeError} (h : body.length ≤ 0xffff)
    (hread : (Wire.decode : Decoder HandshakeMessage).run (t :: Encoder.vector 3 body) = .error e) :
    Bad (t :: Encoder.vector 3 body) e

/-- What stands behind the messages: the beginning of one more, or something that is wrong. -/
inductive Stops : Bytes → Option DecodeError → Prop
  | waits {bs : Bytes} (h : Begins bs) : Stops bs none
  | bad {bs : Bytes} {e : DecodeError} (h : Bad bs e) (more : Bytes) : Stops (bs ++ more) (some e)

theorem front_of_begins (h : Begins bs) : front bs = .incomplete := by
  cases h with
  | header h => exact front_short h
  | body t length part hmax h =>
    have hlength : length < 256 ^ 3 := Nat.lt_of_le_of_lt hmax (by decide)
    have hallowed : ¬ maxBody < length := Nat.not_lt.mpr hmax
    rw [front_header t hlength, if_neg hallowed, if_neg (Nat.not_le.mpr h)]

/-- A message that is there as a whole is read or not by its own bytes alone. -/
theorem first_message (t : UInt8) {body : Bytes} (h : body.length ≤ maxBody) (rest : Bytes) :
    first v (t :: (Encoder.vector 3 body ++ rest)) = some
      (((Wire.decode : Decoder HandshakeMessage).run (t :: Encoder.vector 3 body)).map fun x =>
        (⟨v, .handshake x.1 (t :: Encoder.vector 3 body)⟩, rest)) := by
  have hread := HandshakeMessage.decode_vector t (Nat.lt_of_le_of_lt h (by decide)) []
  rw [List.append_nil] at hread
  rw [first_vector t h, hread]
  cases Decoder.exactly "HandshakeMessagePayload" (HandshakeMessage.decodeBody ⟨t⟩) body <;> rfl

theorem first_bad (h : Bad bs e) (more : Bytes) : first v (bs ++ more) = some (.error e) := by
  cases h with
  | tooLong t length h hlength =>
    have hmax : maxBody < length := h
    rw [List.cons_append, first, front_header t hlength, if_pos hmax]
  | unreadable t body h hread =>
    rw [List.cons_append, first_message t h, hread]
    rfl

theorem bad_of_first (h : first v bs = some (.error e)) :
    ∃ bad more, bs = bad ++ more ∧ Bad bad e := by
  cases hfront : front bs with
  | incomplete =>
    rw [first, hfront] at h
    cases h
  | tooLarge =>
    rw [first, hfront] at h
    cases h
    rcases Nat.lt_or_ge bs.length 4 with hshort | hlong
    · rw [front_short hshort] at hfront
      cases hfront
    · obtain ⟨t, length, more, hlength, rfl⟩ := exists_header hlong
      rw [front_header t hlength] at hfront
      split at hfront
      · next hmax => exact ⟨_, more, rfl, .tooLong t length hmax hlength⟩
      · split at hfront <;> cases hfront
  | whole =>
    obtain ⟨t, body, rest, rfl, hmax⟩ := front_whole hfront
    rw [first_message t hmax] at h
    cases hread : (Wire.decode : Decoder HandshakeMessage).run (t :: Encoder.vector 3 body) with
    | error e' =>
      rw [hread] at h
      cases h
      exact ⟨_, rest, rfl, .unreadable t body hmax hread⟩
    | ok x =>
      rw [hread] at h
      cases h

theorem first_whole (h : m.Whole) (rest : Bytes) :
    first v (contribution m ++ rest) = some (.ok (m.under v, rest)) := by
  obtain ⟨⟨parsed, encoded, hm, hread⟩, hlength⟩ := h
  rw [hm] at hlength ⊢
  obtain ⟨t, body, hbytes, -, -⟩ := HandshakeMessage.decode_ok.mp hread
  rw [List.append_nil] at hbytes
  subst hbytes
  have hmax : body.length ≤ maxBody := by
    simp only [contribution, Encoder.vector, List.length_cons, List.length_append, Bytes.length_ofNat] at hlength
    exact (by omega : body.length ≤ 0xffff)
  show first v (t :: (Encoder.vector 3 body ++ rest)) = _
  rw [first_message t hmax, hread]
  rfl

theorem whole_of_first (h : first v bs = some (.ok (m, rest))) :
    bs = contribution m ++ rest ∧ m.Whole ∧ m.version = v := by
  cases hfront : front bs with
  | incomplete | tooLarge =>
    rw [first, hfront] at h
    cases h
  | whole =>
    obtain ⟨t, body, rest', rfl, hmax⟩ := front_whole hfront
    rw [first_message t hmax] at h
    cases hread : (Wire.decode : Decoder HandshakeMessage).run (t :: Encoder.vector 3 body) with
    | error e =>
      rw [hread] at h
      cases h
    | ok x =>
      obtain ⟨parsed, left⟩ := x
      rw [hread] at h
      cases h
      -- nothing is left over, because the header tells where the body ends
      obtain rfl : left = [] := by
        obtain ⟨t', body', hbytes, hlt', -⟩ := HandshakeMessage.decode_ok.mp hread
        obtain ⟨-, hvector⟩ := List.cons.inj hbytes
        rw [← List.append_nil (Encoder.vector 3 body)] at hvector
        exact (Encoder.vector_append_inj (Nat.lt_of_le_of_lt hmax (by decide)) hlt' hvector).2.symm
      refine ⟨rfl, ⟨⟨parsed, _, rfl, hread⟩, ?_⟩, rfl⟩
      simp only [contribution, Encoder.vector, List.length_cons, List.length_append, Bytes.length_ofNat]
      have : body.length ≤ 0xffff := hmax
      omega

/-- What is at the front does not depend on the version, which is only noted. -/
theorem first_under (v w : ProtocolVersion) (bs : Bytes) :
    first w bs = (first v bs).map (Except.map fun x => (x.1.under w, x.2)) := by
  unfold first
  cases front bs with
  | incomplete | tooLarge => rfl
  | whole => cases (Wire.decode : Decoder HandshakeMessage).run bs <;> rfl

/-! ## The splitting of a stream -/

theorem Splits.under (h : Splits v bs ms f tail) (w : ProtocolVersion) :
    Splits w bs (ms.map (Message.under w)) f tail := by
  induction h with
  | waits h => exact .waits (by rw [first_under v w, h]; rfl)
  | fault h => exact .fault (by rw [first_under v w, h]; rfl)
  | message h _ ih => exact .message (by rw [first_under v w, h]; rfl) ih

/-- A stream splits into the whole messages at its front and what stops them. -/
theorem splits_iff : Splits v bs ms f tail ↔ bs = ms.flatMap contribution ++ tail ∧
    (∀ m ∈ ms, m.Whole ∧ m.version = v) ∧ Stops tail f := by
  constructor
  · intro h
    induction h with
    | waits h => exact ⟨rfl, nofun, .waits (begins_of_front (first_eq_none.mp h))⟩
    | fault h =>
      obtain ⟨bad, more, rfl, hbad⟩ := bad_of_first h
      exact ⟨rfl, nofun, .bad hbad more⟩
    | message h _ ih =>
      obtain ⟨hbytes, hwhole, hversion⟩ := whole_of_first h
      obtain ⟨hrest, hms, hstops⟩ := ih
      refine ⟨?_, List.forall_mem_cons.mpr ⟨⟨hwhole, hversion⟩, hms⟩, hstops⟩
      rw [hbytes, hrest, List.flatMap_cons, List.append_assoc]
  · rintro ⟨rfl, hms, hstops⟩
    induction ms with
    | nil =>
      cases hstops with
      | waits h => exact .waits (first_eq_none.mpr (front_of_begins h))
      | bad h more => exact .fault (first_bad h more)
    | cons m ms ih =>
      obtain ⟨⟨hwhole, rfl⟩, hms⟩ := List.forall_mem_cons.mp hms
      rw [List.flatMap_cons, List.append_assoc]
      exact .message (first_whole hwhole _) (ih hms)

/-- What is left of a byte string that is malformed begins with what is wrong. -/
theorem Splits.first_fault (h : Splits v bs ms (some e) tail) : first v tail = some (.error e) := by
  generalize hf : some e = g at h
  induction h with
  | waits h => cases hf
  | fault h =>
    cases hf
    exact h
  | message _ _ ih => exact ih hf

/-- More bytes are split together with those that are left. -/
theorem Splits.continue {more tail' : Bytes} {ms' : List Message} {f' : Option DecodeError}
    (h : Splits v bs ms f tail) (h' : Splits v (tail ++ more) ms' f' tail') :
    Splits v (bs ++ more) (ms ++ ms') (f <|> f') tail' := by
  cases f with
  | none => exact h.append h'
  | some e =>
    obtain ⟨rfl, rfl, rfl⟩ := (Splits.fault (first_append h.first_fault more)).unique h'
    rw [List.append_nil]
    exact h.append_fault more

/-! ## Calls -/

/-- What can be done with a joiner. -/
inductive Call where
  | push (r : Record)
  | pop

/-- No record is empty. -/
def Filled (calls : List Call) : Prop := ∀ r, .push r ∈ calls → r.payload ≠ []

/-- What came of some calls: the joiner, the bytes that went in, the messages that were taken out, and what the
first push that failed failed with. -/
structure Use where
  joiner : HandshakeJoiner := {}
  pushed : Bytes := []
  popped : List Message := []
  fault : Option DecodeError := none

namespace Use

variable {u : Use} {r : Record} {calls calls' : List Call}

/-- All messages that there are to take out, and those that were taken out before. -/
def produced (u : Use) : List Message := u.popped ++ u.joiner.ready

def perform (u : Use) : Call → Use
  | .push r =>
    { u with
      joiner := (u.joiner.push r).2
      pushed := u.pushed ++ r.payload
      fault := u.fault <|> faultOf (u.joiner.push r).1 }
  | .pop => { u with joiner := u.joiner.pop.2, popped := u.popped ++ u.joiner.pop.1.toList }

/-- Makes calls one after another, of a joiner that is new. -/
def run (calls : List Call) : Use := calls.foldl perform {}

/-- What holds between calls.  Of the messages' versions, which are those of the records, nothing is said. -/
def Sound (u : Use) : Prop :=
  Splits .tls1 u.pushed (u.produced.map (Message.under .tls1)) u.fault u.joiner.buffer

/-- A push brings out the messages that it completes, in the version of its record. -/
theorem push_produced (u : Use) (hr : r.payload ≠ []) : ∃ new,
    (u.perform (.push r)).produced = u.produced ++ new ∧
      Splits r.version (u.joiner.buffer ++ r.payload) new (faultOf (u.joiner.push r).1)
        (u.joiner.push r).2.buffer := by
  obtain ⟨new, hready, hsplits⟩ := @splits_split r.version (u.joiner.buffer ++ r.payload).length
    { u.joiner with buffer := u.joiner.buffer ++ r.payload } le_rfl
  rw [← push_eq hr] at hready hsplits
  refine ⟨new, ?_, hsplits⟩
  rw [produced, produced, List.append_assoc, ← hready, perform]

theorem pop_produced (u : Use) : (u.perform .pop).produced = u.produced := by
  show u.popped ++ u.joiner.ready.head?.toList ++ u.joiner.ready.tail = u.popped ++ u.joiner.ready
  cases u.joiner.ready with
  | nil => simp
  | cons m ms => simp

theorem Sound.push (h : u.Sound) (hr : r.payload ≠ []) : (u.perform (.push r)).Sound := by
  obtain ⟨new, hproduced, hsplits⟩ := u.push_produced hr
  rw [Sound, hproduced, List.map_append]
  exact h.continue (hsplits.under .tls1)

theorem Sound.pop (h : u.Sound) : (u.perform .pop).Sound := by
  rw [Sound, pop_produced]
  exact h

theorem sound_run (hcalls : Filled calls) : (run calls).Sound := by
  refine List.foldlRecOn calls perform (show Sound {} from .waits rfl) fun u h c hc => ?_
  cases c with
  | push r => exact h.push (hcalls r hc)
  | pop => exact h.pop

/-- A message has the version of the record that completed it. -/
theorem version_run (hcalls : Filled calls) :
    ∀ m ∈ (run calls).produced, ∃ r, .push r ∈ calls ∧ m.version = r.version := by
  have hempty : ∀ m ∈ ({} : Use).produced, ∃ r, .push r ∈ calls ∧ m.version = r.version := by simp [produced]
  refine List.foldlRecOn calls perform (motive := fun u =>
    ∀ m ∈ u.produced, ∃ r, .push r ∈ calls ∧ m.version = r.version) hempty fun u h c hc => ?_
  cases c with
  | push r =>
    obtain ⟨new, hproduced, hsplits⟩ := u.push_produced (hcalls r hc)
    intro m hm
    rw [hproduced] at hm
    rcases List.mem_append.mp hm with hm | hm
    · exact h m hm
    · exact ⟨r, hc, ((splits_iff.mp hsplits).2.1 m hm).2⟩
  | pop =>
    rw [pop_produced]
    exact h

end Use

/-- A stream is whole messages, and then something that is wrong. -/
structure Breaks (stream : Bytes) (ms : List Message) (bad : Bytes) (e : DecodeError) : Prop where
  whole : ∀ m ∈ ms, m.Whole
  refused : Bad bad e
  front : ms.flatMap contribution ++ bad <+: stream

theorem Breaks.splits (h : Breaks bs ms bad e) :
    ∃ tail, Splits .tls1 bs (ms.map (Message.under .tls1)) (some e) tail := by
  obtain ⟨hwhole, hbad, more, rfl⟩ := h
  refine ⟨bad ++ more, splits_iff.mpr ⟨?_, ?_, .bad hbad more⟩⟩
  · rw [List.flatMap_map, List.append_assoc]
    rfl
  · intro m' hm'
    obtain ⟨m, hm, rfl⟩ := List.mem_map.mp hm'
    exact ⟨(hwhole m hm).under .tls1, rfl⟩

/-- What a joiner has made of the records that were pushed. -/
structure Assembles (calls : List Call) (u : Use) : Prop where
  /-- No byte is lost. -/
  accounted : u.pushed = u.produced.flatMap contribution ++ u.joiner.buffer
  whole : ∀ m ∈ u.produced, m.Whole
  /-- As long as no push has failed, what is kept is only the beginning of a message. -/
  kept : Stops u.joiner.buffer u.fault
  /-- The boundaries of the records make no difference. -/
  boundaries : ∀ calls', Filled calls' → (Use.run calls').pushed = u.pushed →
    (Use.run calls').produced.map Message.body = u.produced.map Message.body ∧
      (Use.run calls').joiner.buffer = u.joiner.buffer ∧ (Use.run calls').fault = u.fault
  /-- The messages are the same with their versions if all records are of one version. -/
  uniform : ∀ v calls', Filled calls' → (Use.run calls').pushed = u.pushed →
    (∀ r, .push r ∈ calls → r.version = v) → (∀ r, .push r ∈ calls' → r.version = v) →
      (Use.run calls').produced = u.produced
  /-- The first push that fails is the one behind which the stream shows that something is wrong. -/
  failing : u.fault = none → ∀ (r : Record) (e : DecodeError), r.payload ≠ [] →
    ((u.joiner.push r).1 = .error e ↔ ∃ ms bad, Breaks (u.pushed ++ r.payload) ms bad e ∧
      u.pushed.length < (ms.flatMap contribution ++ bad).length)
  /-- What comes out then is all that stands before it. -/
  before : ∀ ms bad e, Breaks u.pushed ms bad e →
    u.fault = some e ∧ u.produced.map Message.body = ms.map Message.body

namespace Use

variable {u : Use} {calls calls' : List Call}

theorem Sound.kept (h : u.Sound) : u.pushed = u.produced.flatMap contribution ++ u.joiner.buffer ∧
    (∀ m ∈ u.produced, m.Whole) ∧ Stops u.joiner.buffer u.fault := by
  obtain ⟨hbytes, hwhole, hstops⟩ := splits_iff.mp h
  rw [List.flatMap_map] at hbytes
  refine ⟨hbytes, fun m hm => ?_, hstops⟩
  exact (hwhole _ (List.mem_map_of_mem hm)).1.under m.version

/-- The bodies are those of the splitting. -/
theorem Sound.bodies (h : u.Sound)
    (hsplits : Splits .tls1 u.pushed (ms.map (Message.under .tls1)) f tail) :
    ms.map Message.body = u.produced.map Message.body ∧ f = u.fault ∧ tail = u.joiner.buffer := by
  obtain ⟨hms, hfault, hbuffer⟩ := h.unique hsplits
  have hbodies := congrArg (List.map Message.body) hms
  rw [List.map_map, List.map_map] at hbodies
  exact ⟨hbodies, hfault, hbuffer⟩

theorem Sound.before (h : u.Sound) (hbreaks : Breaks u.pushed ms bad e) :
    u.fault = some e ∧ u.produced.map Message.body = ms.map Message.body := by
  obtain ⟨tail, hsplits⟩ := hbreaks.splits
  obtain ⟨hbodies, hfault, -⟩ := h.bodies hsplits
  exact ⟨hfault.symm, hbodies.symm⟩

theorem Sound.failing (h : u.Sound) (hok : u.fault = none) {r : Record} (hr : r.payload ≠ []) :
    (u.joiner.push r).1 = .error e ↔ ∃ ms bad, Breaks (u.pushed ++ r.payload) ms bad e ∧
      u.pushed.length < (ms.flatMap contribution ++ bad).length := by
  have hafter := h.push hr
  have hfault : (u.perform (.push r)).fault = some e ↔ (u.joiner.push r).1 = .error e := by
    show (u.fault <|> faultOf (u.joiner.push r).1) = some e ↔ _
    rw [hok]
    cases (u.joiner.push r).1 <;> simp [faultOf]
  rw [← hfault]
  constructor
  · intro herror
    obtain ⟨hbytes, hwhole, hstops⟩ := hafter.kept
    rw [herror] at hstops
    generalize (u.perform (.push r)).joiner.buffer = left at hbytes hstops
    cases hstops with
    | @bad bad _ hbad more =>
      have hfront : (u.perform (.push r)).produced.flatMap contribution ++ bad <+: u.pushed ++ r.payload :=
        ⟨more, by rw [List.append_assoc]; exact hbytes.symm⟩
      refine ⟨_, bad, ⟨hwhole, hbad, hfront⟩, ?_⟩
      -- otherwise this was there to see before
      by_contra hthere
      have hearlier := List.prefix_of_prefix_length_le hfront (List.prefix_append _ _) (Nat.not_lt.mp hthere)
      rw [(h.before ⟨hwhole, hbad, hearlier⟩).1] at hok
      cases hok
  · rintro ⟨ms, bad, hbreaks, -⟩
    exact (hafter.before hbreaks).1

end Use

/-- Whatever is done with a new joiner, it joins the records that are pushed into the messages of their bytes. -/
theorem run_assembles (calls : List Call) (hcalls : Filled calls) : Assembles calls (Use.run calls) := by
  have h := Use.sound_run hcalls
  obtain ⟨haccounted, hwhole, hkept⟩ := h.kept
  have hboundaries : ∀ calls', Filled calls' → (Use.run calls').pushed = (Use.run calls).pushed →
      (Use.run calls').produced.map Message.body = (Use.run calls).produced.map Message.body ∧
        (Use.run calls').joiner.buffer = (Use.run calls).joiner.buffer ∧
        (Use.run calls').fault = (Use.run calls).fault := by
    intro calls' hcalls' hsame
    have hsplits := Use.sound_run hcalls'
    rw [Use.Sound, hsame] at hsplits
    obtain ⟨hbodies, hfault, hbuffer⟩ := h.bodies hsplits
    exact ⟨hbodies, hbuffer, hfault⟩
  refine ⟨haccounted, hwhole, hkept, hboundaries, ?_, fun hok _ _ hr => h.failing hok hr,
    fun _ _ _ hbreaks => h.before hbreaks⟩
  intro v calls' hcalls' hsame hv hv'
  have hversion : ∀ {cs : List Call}, Filled cs → (∀ r, .push r ∈ cs → r.version = v) →
      ∀ m ∈ (Use.run cs).produced, m.version = v := by
    intro cs hcs hrecords m hm
    obtain ⟨r, hr, hm⟩ := Use.version_run hcs m hm
    rw [hm, hrecords r hr]
  rw [← Message.map_body (hversion hcalls hv), ← Message.map_body (hversion hcalls' hv'),
    (hboundaries calls' hcalls' hsame).1]

/-- Two messages, of which the first is taken out before the second is there as a whole, and then one that
should be empty and is not. -/
theorem run_assembles_trailing :
    let calls : List Call := [.push ⟨.handshake, .tls1, [0, 0, 0, 0, 14, 0]⟩, .pop,
      .push ⟨.handshake, .tls1, [0, 0, 14, 0, 0, 1, 0]⟩]
    Filled calls ∧ (Use.run calls).popped = [⟨.tls1, .handshake .helloRequest [0, 0, 0, 0]⟩] ∧
      (Use.run calls).joiner.ready = [⟨.tls1, .handshake .serverHelloDone [14, 0, 0, 0]⟩] ∧
      (Use.run calls).fault = some (.trailing "HandshakeMessagePayload") ∧
      Assembles calls (Use.run calls) := by
  intro calls
  have hcalls : Filled calls := by simp [calls, Filled]
  exact ⟨hcalls, by decide, by decide, by decide, run_assembles calls hcalls⟩

end HandshakeJoiner

end TlsClient
