import Mathlib.Algebra.Group.Nat.Even
import TlsClient.Proofs.Record.Carrying
import TlsClient.Record.Joiner

/-!
# Alerts in pairs of bytes

However the bytes of alerts come in records, and whenever an alert is asked for, what comes out are the pairs of
bytes in their order, and what is kept is the byte left over, if there is one: one call keeps the account
(`Use.Sound.perform`), so a run of calls does (`Use.sound_run`).  To read the alerts one after another from the
front of the buffer, each of which might be refused, and to drop what was read at the end, comes to the same
(`scan_eq`), because two bytes are always an alert.
-/

namespace TlsClient

namespace AlertJoiner

/-! ## Pairs -/

/-- The byte left over goes in front of what comes next. -/
theorem pairs_append (xs ys : Bytes) : pairs (xs ++ ys) =
    ((pairs xs).1 ++ (pairs ((pairs xs).2 ++ ys)).1, (pairs ((pairs xs).2 ++ ys)).2) := by
  fun_induction pairs xs with
  | case1 level description rest alerts left heq ih =>
    rw [List.cons_append, List.cons_append, pairs, ih, heq]
    rfl
  | case2 left h => rfl

theorem left_append (xs ys : Bytes) : (pairs (xs ++ ys)).2 = (pairs ((pairs xs).2 ++ ys)).2 := by
  rw [pairs_append]

theorem length_left (bs : Bytes) : (pairs bs).2.length = bs.length % 2 := by
  fun_induction pairs bs with
  | case1 level description rest alerts left heq ih =>
    rw [heq] at ih
    rw [ih, List.length_cons, List.length_cons]
    omega
  | case2 left h =>
    rcases left with _ | ⟨level, _ | ⟨description, rest⟩⟩
    · rfl
    · rfl
    · exact (h level description rest rfl).elim

/-- Of an alert no more than its first byte is left over. -/
theorem length_pairs (bs : Bytes) : (pairs bs).2.length ≤ 1 := by
  rw [length_left]
  omega

/-- Of whole alerts nothing is left over. -/
theorem left_eq_nil {bs : Bytes} (h : Even bs.length) : (pairs bs).2 = [] := by
  rw [← List.length_eq_zero_iff, length_left, Nat.even_iff.mp h]

/-- The bytes are those of the alerts, and what is left over. -/
theorem bytes_pairs (bs : Bytes) :
    ((pairs bs).1.flatMap fun a => [a.level.code, a.description.code]) ++ (pairs bs).2 = bs := by
  fun_induction pairs bs with
  | case1 level description rest alerts left heq ih =>
    rw [heq] at ih
    rw [List.flatMap_cons, List.append_assoc, ih]
    rfl
  | case2 left h => rfl

theorem length_alerts (bs : Bytes) : (pairs bs).1.length = bs.length / 2 := by
  fun_induction pairs bs with
  | case1 level description rest alerts left heq ih =>
    rw [heq] at ih
    rw [List.length_cons, ih, List.length_cons, List.length_cons]
    omega
  | case2 left h =>
    rcases left with _ | ⟨level, _ | ⟨description, rest⟩⟩
    · rfl
    · simp
    · exact (h level description rest rfl).elim

/-! ## One after another -/

/-- Reads the alerts in a buffer, from a place on and as long as there are two bytes more, and then drops the
bytes that were read.  If one cannot be read, the buffer stays as it is. -/
def scan (j : AlertJoiner) (used count : Nat) : Except DecodeError Nat × AlertJoiner :=
  if used + 2 ≤ j.buffer.length then
    match Decoder.onBytes Wire.decode ((j.buffer.drop used).take 2) with
    | .error e => (.error e, j)
    | .ok a => scan { j with ready := j.ready ++ [a] } (used + 2) (count + 1)
  else (.ok count, { j with buffer := j.buffer.drop used })
termination_by j.buffer.length - used

/-- Two bytes are an alert. -/
theorem onBytes_pair (level description : UInt8) : Decoder.onBytes Wire.decode [level, description] =
    .ok (⟨⟨level⟩, ⟨description⟩⟩ : Alert) :=
  Decoder.onBytes_ok.mpr ⟨[], Alert.decode_ok.mpr ⟨(Alert.encode_eq ⟨⟨level⟩, ⟨description⟩⟩).symm, rfl⟩⟩

theorem exists_pair {bs : Bytes} {used : Nat} (h : used + 2 ≤ bs.length) :
    ∃ level description, bs.drop used = level :: description :: bs.drop (used + 2) := by
  rw [List.drop_eq_getElem_cons (by omega), List.drop_eq_getElem_cons (by omega)]
  exact ⟨_, _, rfl⟩

/-- No alert is refused, and all pairs of bytes are read. -/
theorem scan_eq (j : AlertJoiner) (used count : Nat) : j.scan used count =
    (.ok (count + (pairs (j.buffer.drop used)).1.length),
      { ready := j.ready ++ (pairs (j.buffer.drop used)).1, buffer := (pairs (j.buffer.drop used)).2 }) := by
  fun_induction scan j used count with
  | case1 j used count hmore e hread =>
    obtain ⟨level, description, hpair⟩ := exists_pair hmore
    rw [hpair] at hread
    cases (onBytes_pair level description).symm.trans hread
  | case2 j used count hmore a hread ih =>
    obtain ⟨level, description, hpair⟩ := exists_pair hmore
    rw [hpair] at hread
    cases (onBytes_pair level description).symm.trans hread
    rw [ih, hpair, pairs, List.length_cons, List.append_assoc, Nat.add_right_comm, Nat.add_assoc]
    rfl
  | case3 j used count hend =>
    have hleft : (j.buffer.drop used).length ≤ 1 := by
      rw [List.length_drop]
      omega
    match j.buffer.drop used, hleft with
    | [], _ | [_], _ => simp [pairs]

/-- A push reads all alerts that there are in the buffer then. -/
theorem scan_push (j : AlertJoiner) (r : Record) :
    scan { j with buffer := j.buffer ++ r.payload } 0 0 = (.ok (j.push r).1, (j.push r).2) := by
  rw [scan_eq, Nat.zero_add]
  rfl

/-! ## Calls -/

/-- What can be done with a joiner. -/
inductive Call where
  | push (r : Record)
  | pop

/-- The bytes that a call puts in. -/
def Call.bytes : Call → Bytes
  | push r => r.payload
  | pop => []

/-- What came of some calls: the joiner, and the alerts that were taken out. -/
structure Use where
  joiner : AlertJoiner := {}
  popped : List Alert := []

namespace Use

variable {u : Use} {put : Bytes}

def perform (u : Use) : Call → Use
  | .push r => { u with joiner := (u.joiner.push r).2 }
  | .pop => { joiner := u.joiner.pop.2, popped := u.popped ++ u.joiner.pop.1.toList }

/-- Makes calls one after another, of a joiner that is new. -/
def run (calls : List Call) : Use := calls.foldl perform {}

/-- What holds between calls. -/
structure Sound (put : Bytes) (u : Use) : Prop where
  alerts : u.popped ++ u.joiner.ready = (pairs put).1
  buffer : u.joiner.buffer = (pairs put).2

theorem Sound.perform (h : Sound put u) (c : Call) : Sound (put ++ c.bytes) (u.perform c) := by
  cases c with
  | push r =>
    have hpairs := pairs_append put r.payload
    rw [← h.alerts, ← h.buffer] at hpairs
    constructor
    · rw [Call.bytes, hpairs]
      exact (List.append_assoc _ _ _).symm
    · rw [Call.bytes, hpairs]
      rfl
  | pop =>
    rw [Call.bytes, List.append_nil]
    refine ⟨?_, h.buffer⟩
    rw [← h.alerts]
    show u.popped ++ u.joiner.ready.head?.toList ++ u.joiner.ready.tail = u.popped ++ u.joiner.ready
    cases u.joiner.ready with
    | nil => simp
    | cons a as => simp

theorem Sound.foldl (h : Sound put u) (calls : List Call) :
    Sound (put ++ calls.flatMap Call.bytes) (calls.foldl Use.perform u) := by
  induction calls generalizing u put with
  | nil => rwa [List.flatMap_nil, List.append_nil]
  | cons c cs ih =>
    rw [List.flatMap_cons, ← List.append_assoc]
    exact ih (h.perform c)

theorem sound_run (calls : List Call) : Sound (calls.flatMap Call.bytes) (run calls) := by
  have hempty : Sound [] {} := ⟨rfl, rfl⟩
  exact hempty.foldl calls

end Use

/-- What a joiner has made of the bytes that were put in, and what it answers then. -/
structure Joins (put : Bytes) (u : Use) : Prop where
  /-- No push fails: to read the alerts one after another, each of which might be refused, comes to the push. -/
  unfailing : ∀ r, scan { u.joiner with buffer := u.joiner.buffer ++ r.payload } 0 0 =
    (.ok (u.joiner.push r).1, (u.joiner.push r).2)
  /-- The alerts are the pairs of bytes in their order, and what is kept is behind them. -/
  conserved : ((u.popped ++ u.joiner.ready).flatMap fun a => [a.level.code, a.description.code]) ++
    u.joiner.buffer = put
  leftover : u.joiner.buffer.length = put.length % 2
  isEmpty : u.joiner.isEmpty = true ↔ Even put.length
  /-- A push tells how many pairs it completes. -/
  counted : ∀ r, (u.joiner.push r).1 = (put.length + r.payload.length) / 2 - put.length / 2
  /-- There is an alert to take out as long as not all pairs have come out. -/
  exhausted : u.joiner.pop.1 = none ↔ u.popped.length = put.length / 2

/-- Whatever is done with a new joiner, it joins the alerts of the bytes that are put in. -/
theorem run_joins (calls : List Call) : Joins (calls.flatMap Call.bytes) (Use.run calls) := by
  obtain ⟨halerts, hbuffer⟩ := Use.sound_run calls
  generalize calls.flatMap Call.bytes = put at halerts hbuffer
  have hleft : (Use.run calls).joiner.buffer.length = put.length % 2 := by rw [hbuffer, length_left]
  have hproduced := congrArg List.length halerts
  rw [List.length_append, length_alerts] at hproduced
  constructor
  case unfailing => exact (Use.run calls).joiner.scan_push
  case conserved => rw [halerts, hbuffer, bytes_pairs]
  case leftover => exact hleft
  case isEmpty =>
    rw [isEmpty, List.isEmpty_iff, ← List.length_eq_zero_iff, hleft, Nat.even_iff]
  case counted =>
    intro r
    show (pairs ((Use.run calls).joiner.buffer ++ r.payload)).1.length = _
    rw [length_alerts, List.length_append, hleft]
    omega
  case exhausted =>
    show (Use.run calls).joiner.ready.head? = none ↔ _
    rw [List.head?_eq_none_iff, ← List.length_eq_zero_iff]
    omega

/-- An alert in two records, with one asked for in between, and then two and a half alerts in one. -/
example : Use.run [.push ⟨.alert, .tls1, [2]⟩, .pop, .push ⟨.alert, .tls1, [40]⟩,
    .push ⟨.alert, .tls1, []⟩, .pop, .push ⟨.alert, .tls1, [1, 90, 2, 40, 1]⟩] =
      { joiner := { ready := [⟨.warning, .userCanceled⟩, ⟨.fatal, .handshakeFailure⟩], buffer := [1] },
        popped := [⟨.fatal, .handshakeFailure⟩] } := rfl

end AlertJoiner

end TlsClient
