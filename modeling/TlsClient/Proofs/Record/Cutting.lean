import TlsClient.Connection.Tls
import TlsClient.Proofs.Record.Capacity

/-!
# A deframer in use

However many bytes each read brings, and whenever a record is asked for, what comes out are the whole records
at the front of the stream of bytes that were taken in.  No call loses a byte (`Use.Sound.read`,
`Use.Sound.pop`), so no run of calls does (`Use.sound_run`); and what is answered next is a matter of the bytes
alone that have not come out yet (`due_iff`), up to the first header that cannot be right.
-/

namespace TlsClient

/-- A byte string begins with records in one way only. -/
theorem Record.prefix_or_prefix {rs rs' : List Record} {rest rest' : Bytes} (h : ∀ r ∈ rs, r.Fits)
    (h' : ∀ r ∈ rs', r.Fits) (heq : rs.flatMap encode ++ rest = rs'.flatMap encode ++ rest') :
    rs <+: rs' ∨ rs' <+: rs := by
  induction rs generalizing rs' with
  | nil => exact .inl List.nil_prefix
  | cons r rs ih =>
    cases rs' with
    | nil => exact .inr List.nil_prefix
    | cons r' rs' =>
      obtain ⟨hr, hrs⟩ := List.forall_mem_cons.mp h
      obtain ⟨hr', hrs'⟩ := List.forall_mem_cons.mp h'
      rw [List.flatMap_cons, List.flatMap_cons, List.append_assoc, List.append_assoc] at heq
      have hread := decode_encode hr.1 hr.2 (rs.flatMap encode ++ rest)
      rw [heq, decode_encode hr'.1 hr'.2] at hread
      obtain ⟨rfl, hrest⟩ := Prod.mk.inj (Except.ok.inj hread)
      exact (ih hrs hrs' hrest.symm).imp (List.prefix_cons_inj _).mpr (List.prefix_cons_inj _).mpr

namespace Deframer

variable {d : Deframer}

/-! ## Asking for a record -/

/-- What is answered when a read of the buffer turns out so. -/
def answer : Except RecordError (Record × Bytes) → Except TlsError (Option Record)
  | .ok (r, _) => .ok (some r)
  | .error .tooShortForHeader | .error .tooShortForLength => .ok none
  | .error .tooLarge => .error .oversizedRecord
  | .error .unknownVersion => .error (.malformed .unknownVersion)

/-- What is to be answered when some bytes have arrived and not come out. -/
def Due (bs : Bytes) (x : Except TlsError (Option Record)) : Prop := ∃ y, Record.Judged bs y ∧ answer y = x

/-- As long as no header was refused, the answer is the one that is due. -/
theorem due_iff (hd : d.desynced = false) {x : Except TlsError (Option Record)} :
    d.pop.1 = x ↔ Due d.buffer x := by
  have hpop : d.pop.1 = answer (Record.decode d.buffer) := by
    rw [pop, if_neg (by rw [hd]; exact Bool.false_ne_true)]
    rcases Record.decode d.buffer with e | ⟨r, rest⟩
    · cases e <;> rfl
    · rfl
  simp only [Due, Record.judged_iff, exists_eq_left', hpop]

end Deframer

/-! ## Reading -/

/-- Where bytes come from: at most as many as there is room for, or how the read fails. -/
structure Source where
  read : Nat → Except IoError Bytes
  read_le : ∀ {n : Nat} {bs : Bytes}, read n = .ok bs → bs.length ≤ n

theorem Transport.length_receive {atEnd : Option IoErrorKind} {n : Nat} {ds : List Delivery}
    {bs : Bytes} (h : (receive atEnd n ds).1 = .ok bs) : bs.length ≤ n := by
  induction ds with
  | nil =>
    cases atEnd with
    | none =>
      cases h
      exact Nat.zero_le n
    | some kind => cases h
  | cons d ds ih =>
    match d, h with
    | .failure kind, h => cases h
    | .data [], h => exact ih h
    | .data (b :: bs), h =>
      cases h
      exact List.length_take_le n _

/-- What one read gives is no more than was asked for. -/
theorem Transport.length_read {t : Transport} {n : Nat} {bs : Bytes} (h : (t.read n).1 = .ok bs) :
    bs.length ≤ n := length_receive h

/-- A transport gives what it has for one read. -/
def Transport.source (t : Transport) : Source where
  read n := (t.read n).1
  read_le := length_read

namespace Deframer

variable {d d' : Deframer}

/-- Reads once, as much as fits, unless the buffer is full: the bytes that were taken in. -/
def read (d : Deframer) (src : Source) : Except IoError Bytes × Deframer :=
  if d.isFull then (.error fullError, d)
  else
    match src.read d.room with
    | .ok bs => (.ok bs, d.push bs)
    | .error e => (.error e, d)

/-- What was taken in is kept behind the bytes that were there. -/
theorem read_ok {src : Source} {bs : Bytes} (h : d.read src = (.ok bs, d')) : d' = d.extend bs := by
  unfold read at h
  split at h
  · cases h
  · split at h
    · next hread =>
      cases h
      exact push_eq_extend (src.read_le hread)
    · cases h

/-- A buffer that is not full takes in all that the source gives for the room that is left. -/
theorem read_intake (d : Deframer) (src : Source) : (d.read src).1 =
    if d.buffer.length = Record.maxLength then .error fullError
    else src.read (Record.maxLength - d.buffer.length) := by
  have hfull : d.isFull = true ↔ d.buffer.length = Record.maxLength := beq_iff_eq
  simp only [read, hfull]
  split
  · rfl
  · show _ = src.read d.room
    cases src.read d.room <;> rfl

theorem read_error {src : Source} {e : IoError} (h : d.read src = (.error e, d')) : d' = d := by
  unfold read at h
  split at h
  · cases h
    rfl
  · split at h <;> cases h
    rfl

/-! ## Calls -/

/-- What can be done with a deframer. -/
inductive Call where
  | read (src : Source)
  | pop

/-- What came of some calls: the deframer, the bytes that it took in, and what it answered to those who asked
for a record. -/
structure Use where
  deframer : Deframer := {}
  accepted : Bytes := []
  answers : List (Except TlsError (Option Record)) := []

namespace Use

variable {u : Use}

/-- The records among the answers. -/
def records (u : Use) : List Record := u.answers.filterMap fun x => x.toOption.join

/-- Whether one of the answers was an error. -/
def Failed (u : Use) : Prop := ∃ e, .error e ∈ u.answers

def perform (u : Use) : Call → Use
  | .read src =>
    match u.deframer.read src with
    | (.ok bs, deframer) => { u with deframer, accepted := u.accepted ++ bs }
    | (.error _, deframer) => { u with deframer }
  | .pop => { u with deframer := u.deframer.pop.2, answers := u.answers ++ [u.deframer.pop.1] }

/-- Makes calls one after another, of a deframer that is new. -/
def run (calls : List Call) : Use := calls.foldl perform {}

/-- What holds between calls. -/
structure Sound (u : Use) : Prop where
  conserved : u.records.flatMap Record.encode ++ u.deframer.buffer = u.accepted
  fits : ∀ r ∈ u.records, r.Fits
  desynced : u.deframer.desynced = true ↔ u.Failed

theorem Sound.read (h : u.Sound) (src : Source) : (u.perform (.read src)).Sound := by
  rcases hread : u.deframer.read src with ⟨e | bs, d⟩
  · obtain rfl := read_error hread
    have hperform : u.perform (.read src) = u := by rw [perform, hread]
    rwa [hperform]
  · obtain rfl := read_ok hread
    have hperform : u.perform (.read src) =
        { u with deframer := u.deframer.extend bs, accepted := u.accepted ++ bs } := by rw [perform, hread]
    rw [hperform]
    refine ⟨?_, h.fits, h.desynced⟩
    show u.records.flatMap Record.encode ++ (u.deframer.buffer ++ bs) = u.accepted ++ bs
    rw [← List.append_assoc, h.conserved]

/-- One answer more. -/
theorem records_pop (u : Use) :
    (u.perform .pop).records = u.records ++ u.deframer.pop.1.toOption.join.toList := by
  rw [records, perform, List.filterMap_append, records]
  rcases u.deframer.pop.1 with e | _ | r <;> rfl

theorem failed_pop (u : Use) :
    (u.perform .pop).Failed ↔ u.Failed ∨ ∃ e, u.deframer.pop.1 = .error e := by
  simp only [Failed, perform, List.mem_append, List.mem_singleton, exists_or, eq_comm]

theorem Sound.pop (h : u.Sound) : (u.perform .pop).Sound := by
  have hrecords := u.records_pop
  have hfailed := u.failed_pop
  rcases hpop : u.deframer.pop with ⟨e | _ | r, d⟩
  all_goals
    have hdeframer : (u.perform .pop).deframer = d := congrArg Prod.snd hpop
    rw [hpop] at hrecords hfailed
  case error =>
    have hbuffer := buffer_of_pop_error hpop
    have hlost : d.desynced = true := hdeframer ▸ desynced_of_pop_error (congrArg Prod.fst hpop)
    have hsame : (u.perform .pop).records = u.records := hrecords.trans (List.append_nil _)
    refine ⟨?_, hsame ▸ h.fits, ?_⟩
    · rw [hsame, hdeframer, hbuffer]
      exact h.conserved
    · rw [hdeframer]
      exact iff_of_true hlost (hfailed.mpr (.inr ⟨e, rfl⟩))
  case ok.none =>
    obtain rfl : u.deframer = d := congrArg Prod.snd ((eq_of_pop_none (by rw [hpop])).symm.trans hpop)
    have hsame : (u.perform .pop).records = u.records := hrecords.trans (List.append_nil _)
    refine ⟨?_, hsame ▸ h.fits, ?_⟩
    · rw [hsame, hdeframer]
      exact h.conserved
    · rw [hdeframer, hfailed, h.desynced]
      simp
  case ok.some =>
    have hmore : (u.perform .pop).records = u.records ++ [r] := hrecords
    refine ⟨?_, ?_, ?_⟩
    · rw [hmore, hdeframer, List.flatMap_append, List.flatMap_singleton, List.append_assoc,
        ← (buffer_of_pop hpop).1]
      exact h.conserved
    · rw [hmore]
      intro r' hr'
      rcases List.mem_append.mp hr' with hr' | hr'
      · exact h.fits r' hr'
      · exact List.mem_singleton.mp hr' ▸ (buffer_of_pop hpop).2
    · rw [hdeframer, hfailed, desynced_of_pop hpop, h.desynced]
      simp

theorem sound_run (calls : List Call) : (run calls).Sound := by
  have hempty : Sound {} := ⟨rfl, nofun, iff_of_false nofun nofun⟩
  refine List.foldlRecOn calls perform hempty fun u h c _ => ?_
  cases c with
  | read src => exact h.read src
  | pop => exact h.pop

end Use

/-- What has come of the bytes of a stream, and what is answered next. -/
structure Cuts (u : Use) : Prop where
  /-- All that a source gives is taken in, unless the buffer is full. -/
  intake : ∀ src : Source, (u.deframer.read src).1 =
    if u.deframer.buffer.length = 18437 then .error fullError
    else src.read (18437 - u.deframer.buffer.length)
  /-- No byte is lost. -/
  conserved : u.records.flatMap Record.encode ++ u.deframer.buffer = u.accepted
  fits : ∀ r ∈ u.records, r.Fits
  /-- If the stream begins with some records, what came out are the first of these, or all of these and more. -/
  leading : ∀ (rs : List Record) (rest : Bytes), (∀ r ∈ rs, r.Fits) →
    rs.flatMap Record.encode ++ rest = u.accepted → u.records <+: rs ∨ rs <+: u.records
  /-- A record is given as soon as its last byte is there and those before it are out. -/
  prompt : ¬ u.Failed → ∀ (r : Record) (rest : Bytes), r.Fits →
    (u.records ++ [r]).flatMap Record.encode ++ rest = u.accepted → u.deframer.pop.1 = .ok (some r)
  /-- The bytes that have not come out tell what the next answer is. -/
  next : ¬ u.Failed → ∀ x, u.deframer.pop.1 = x ↔ Due u.deframer.buffer x
  /-- After an error there is nothing but errors. -/
  lost : u.Failed → u.deframer.pop = (.error (.malformed .tooShort), u.deframer)

/-- Whatever is done with a new deframer, it cuts the stream of the bytes that it takes in into records. -/
theorem run_cuts (calls : List Call) : Cuts (Use.run calls) := by
  have h := Use.sound_run calls
  have hnext : ¬ (Use.run calls).Failed → ∀ x,
      (Use.run calls).deframer.pop.1 = x ↔ Due (Use.run calls).deframer.buffer x :=
    fun hok x => due_iff (Bool.eq_false_iff.mpr fun hlost => hok (h.desynced.mp hlost))
  constructor
  case intake => exact (Use.run calls).deframer.read_intake
  case conserved => exact h.conserved
  case fits => exact h.fits
  case leading =>
    intro rs rest hrs hstream
    exact Record.prefix_or_prefix h.fits hrs (h.conserved.trans hstream.symm)
  case prompt =>
    intro hok r rest hr hstream
    rw [← h.conserved, List.flatMap_append, List.flatMap_singleton, List.append_assoc] at hstream
    rw [hnext hok, ← List.append_cancel_left hstream]
    exact ⟨_, .whole hr rest, rfl⟩
  case next => exact hnext
  case lost => exact fun hfailed => pop_of_desynced (h.desynced.mpr hfailed)

/-- Two records in two reads, cut inside the header of the second, and then a header of another version. -/
example :
    let first : Bytes := [22, 3, 1, 0, 4, 14, 0, 0, 0, 21, 3, 1]
    let second : Bytes := [0, 2, 1, 0, 23, 3, 3, 0, 0]
    (Use.run [.read (Transport.source { deliveries := [.data first] }), .pop, .pop,
      .read (Transport.source { deliveries := [.data second] }), .pop, .pop, .pop]).answers =
        [.ok (some ⟨⟨22⟩, .tls1, [14, 0, 0, 0]⟩), .ok none, .ok (some ⟨⟨21⟩, .tls1, [1, 0]⟩),
          .error (.malformed .unknownVersion), .error (.malformed .tooShort)] := by decide

end Deframer

/-- A connection takes in what its transport gives, until the peer has closed. -/
theorem Connection.readTls_eq_read (c : Connection) (t : Transport) (h : c.session.closeReceived = false) :
    (c.readTls t).1 = List.length <$> (c.deframer.read t.source).1 ∧
      (c.readTls t).2.1.deframer = (c.deframer.read t.source).2 := by
  have hsource : t.source.read c.deframer.room = (t.read c.deframer.room).1 := rfl
  unfold readTls Deframer.read
  rw [if_neg (by rw [h]; exact Bool.false_ne_true), hsource]
  split
  · exact ⟨rfl, rfl⟩
  · rcases t.read c.deframer.room with ⟨e | bs, t'⟩
    · refine ⟨rfl, ?_⟩
      show (c.transportFailed e).deframer = c.deframer
      unfold transportFailed
      split
      · rfl
      · split <;> rfl
    · exact ⟨rfl, rfl⟩

end TlsClient
