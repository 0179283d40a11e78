import Mathlib.Logic.Relation
import TlsClient.Proofs.Record.Fragments
import TlsClient.Record.Joiner
import TlsClient.Session.Plaintext

/-!
# Dialogues

A `Dialogue` is what of a session decides what may still be said: how far it is open, whether the
handshake is over, what the user wrote too early, and the records said so far.  It changes by what
the handshake makes of a message (`Reacts`), by an alert that ends it (`Hears`), and by its user (`Writes`,
`Turn.closes`).  Whatever happens its alerts stay in order (`Orderly.turn`), and once it is not open any
more only data that had been waiting is still said (`Turn.concludes`).
-/

namespace TlsClient

open Relation (ReflTransGen)

/-! ## Alerts in records -/

/-- The record of an alert. -/
def Alert.record (a : Alert) : Record := (Message.ofAlert a).toRecord

theorem Alert.payload_record (a : Alert) : a.record.payload = [a.level.code, a.description.code] := by
  show Bytes.ofNat 1 a.level.code.toNat ++ Bytes.ofNat 1 a.description.code.toNat = _
  simp [Bytes.ofNat]

namespace Record

/-- The alert in a record, if that is what it carries. -/
def alert? (r : Record) : Option Alert :=
  if r.typ = .alert then (AlertJoiner.pairs r.payload).1.head? else none

def isFatal (r : Record) : Bool := r.alert?.any fun a => a.level == .fatal

def isCloseNotify (r : Record) : Bool := r.alert?.any fun a => a.description == .closeNotify

def isData (r : Record) : Bool := r.typ == .applicationData

variable {r : Record}

@[simp] theorem alert?_record (a : Alert) : a.record.alert? = some a := by
  rw [alert?, if_pos (show a.record.typ = .alert from rfl), a.payload_record]
  rfl

theorem alert?_of_typ_ne (h : r.typ ≠ .alert) : r.alert? = none := if_neg h

theorem isFatal_of_typ_ne (h : r.typ ≠ .alert) : r.isFatal = false := by
  rw [isFatal, alert?_of_typ_ne h]
  rfl

theorem isCloseNotify_of_typ_ne (h : r.typ ≠ .alert) : r.isCloseNotify = false := by
  rw [isCloseNotify, alert?_of_typ_ne h]
  rfl

@[simp] theorem isFatal_record (a : Alert) : a.record.isFatal = (a.level == .fatal) := by
  simp [isFatal]

@[simp] theorem isCloseNotify_record (a : Alert) :
    a.record.isCloseNotify = (a.description == .closeNotify) := by
  simp [isCloseNotify]

end Record

namespace Session

/-- The records in which data is sent: none for no data, else an empty one first. -/
def dataRecords (bs : Bytes) : List Record :=
  if bs.isEmpty then [] else dataRecord [] :: (dataRecord bs).fragments

theorem typ_of_mem_dataRecords {bs : Bytes} {r : Record} (h : r ∈ dataRecords bs) :
    r.typ = .applicationData := by
  unfold dataRecords at h
  split at h
  · cases h
  · rcases List.mem_cons.mp h with rfl | h
    · rfl
    · exact (Record.of_mem_fragments h).1

/-- Data that one record can carry comes in two. -/
theorem dataRecords_of_length_le {bs : Bytes} (hbs : bs ≠ []) (h : bs.length ≤ Record.maxFragment) :
    dataRecords bs = [dataRecord [], dataRecord bs] := by
  rw [dataRecords, if_neg (by simpa using hbs), Record.fragments_of_length_le h]

theorem length_of_mem_dataRecords {bs : Bytes} {r : Record} (h : r ∈ dataRecords bs) :
    r.payload.length ≤ Record.maxFragment := by
  unfold dataRecords at h
  split at h
  · cases h
  · rcases List.mem_cons.mp h with rfl | h
    · exact Nat.zero_le _
    · exact (Record.of_mem_fragments h).2.2

end Session

/-! ## The dialogue -/

/-- What decides what may still be said. -/
structure Dialogue where
  status : Status
  /-- Whether the handshake is over. -/
  traffic : Bool
  /-- What the user wrote before it could be sent. -/
  early : ByteQueue
  /-- The records so far, before protection. -/
  said : List Record
  deriving DecidableEq, Repr

namespace Dialogue

/-- The records in which data that waits will be sent. -/
def waiting (q : ByteQueue) : List Record := q.chunks.flatMap Session.dataRecords

theorem length_of_mem_waiting {q : ByteQueue} {r : Record} (h : r ∈ waiting q) :
    r.payload.length ≤ Record.maxFragment := by
  obtain ⟨bs, -, hr⟩ := List.mem_flatMap.mp h
  exact Session.length_of_mem_dataRecords hr

/-- What the handshake makes of a message. -/
inductive Reacts (d : Dialogue) : Dialogue → Prop
  | sends (rs : List Record) (hd : d.status ≠ .closed)
    (h : ∀ r ∈ rs, r.typ = .handshake ∨ r.typ = .changeCipherSpec) :
    Reacts d { d with said := d.said ++ rs }
  | completes (hd : d.status ≠ .closed) :
    Reacts d { d with traffic := true, early := {}, said := d.said ++ waiting d.early }
  | declines (hd : d.status ≠ .closed) (ht : d.traffic = true) :
    Reacts d { d with said := d.said ++ [Alert.record ⟨.warning, .noRenegotiation⟩] }
  | aborts (hd : d.status ≠ .closed) (why : AlertDescription) (h : why ≠ .closeNotify) :
    Reacts d { d with status := .closed, said := d.said ++ [Alert.record ⟨.fatal, why⟩] }

/-- What an alert of the peer or the loss of the transport does. -/
inductive Hears (d : Dialogue) : Dialogue → Prop
  | answers (hd : d.status = .opened) :
    Hears d { d with status := .closed, said := d.said ++ [Alert.record ⟨.warning, .closeNotify⟩] }
  | ends : Hears d { d with status := .closed }

/-- What becomes of what the user writes. -/
inductive Writes (d : Dialogue) : Dialogue → Prop
  | keeps (hd : d.status = .opened) (ht : d.traffic = false) (bs : Bytes) :
    Writes d { d with early := d.early.push bs }
  | sends (hd : d.status = .opened) (ht : d.traffic = true) (bs : Bytes) :
    Writes d { d with said := d.said ++ Session.dataRecords bs }

/-- What comes of the server's side. -/
inductive Serves (d : Dialogue) : Dialogue → Prop
  | reacts {d' : Dialogue} (h : Reacts d d') : Serves d d'
  | hears {d' : Dialogue} (h : Hears d d') : Serves d d'

/-- Any change of a dialogue. -/
inductive Turn (d : Dialogue) : Dialogue → Prop
  | serves {d' : Dialogue} (h : Serves d d') : Turn d d'
  | writes {d' : Dialogue} (h : Writes d d') : Turn d d'
  | closes (hd : d.status = .opened) :
    Turn d { d with status := .closing, said := d.said ++ [Alert.record ⟨.warning, .closeNotify⟩] }

variable {d d' : Dialogue}

/-! ## Alerts in order -/

/-- How many fatal alerts were said. -/
def fatals (d : Dialogue) : Nat := d.said.countP Record.isFatal

/-- How many close notifications were said. -/
def closes (d : Dialogue) : Nat := d.said.countP Record.isCloseNotify

/-- The alerts of a dialogue are in order: nothing is said after a fatal one.  Nothing is kept back once
the handshake is over. -/
structure Orderly (d : Dialogue) : Prop where
  silent : d.status = .opened → d.closes = 0
  once : d.closes ≤ 1
  calm : d.status ≠ .closed → d.fatals = 0
  last : ∀ before r after, d.said = before ++ r :: after → r.isFatal = true → after = []
  prompt : d.traffic = true → waiting d.early = []

/-- Records that are no alerts do not count. -/
theorem count_append_quiet {said rs : List Record} (h : ∀ r ∈ rs, r.typ ≠ .alert) :
    (said ++ rs).countP Record.isFatal = said.countP Record.isFatal ∧
      (said ++ rs).countP Record.isCloseNotify = said.countP Record.isCloseNotify := by
  rw [List.countP_append, List.countP_append]
  have hfatal : rs.countP Record.isFatal = 0 :=
    List.countP_eq_zero.mpr fun r hr => by simp [Record.isFatal_of_typ_ne (h r hr)]
  have hclose : rs.countP Record.isCloseNotify = 0 :=
    List.countP_eq_zero.mpr fun r hr => by simp [Record.isCloseNotify_of_typ_ne (h r hr)]
  omega

/-- Where there is no record of some kind, none is of that kind. -/
theorem not_of_count {p : Record → Bool} {said : List Record} (h : said.countP p = 0)
    {before after : List Record} {r : Record} (hsplit : said = before ++ r :: after) : ¬ p r = true :=
  List.countP_eq_zero.mp h r (by rw [hsplit]; simp)

/-- With no record of some kind before the last one, only the last one can be of that kind. -/
theorem last_of_count {p : Record → Bool} {said : List Record} (h : said.countP p = 0) {x : Record}
    {before after : List Record} {r : Record} (hsplit : said ++ [x] = before ++ r :: after)
    (hr : p r = true) : after = [] := by
  rcases List.eq_nil_or_concat after with rfl | ⟨after', y, rfl⟩
  · rfl
  · rw [List.concat_eq_append, ← List.cons_append, ← List.append_assoc] at hsplit
    obtain ⟨hsaid, -⟩ := List.append_inj' hsplit rfl
    exact absurd hr (not_of_count h hsaid)

theorem closes_of_quiet {rs : List Record} (hrs : ∀ r ∈ rs, r.typ ≠ .alert)
    (hsaid : d'.said = d.said ++ rs) : d'.closes = d.closes := by
  rw [closes, hsaid, (count_append_quiet hrs).2, closes]

theorem closes_of_alert {a : Alert} (hsaid : d'.said = d.said ++ [a.record]) :
    d'.closes = d.closes + if a.description = .closeNotify then 1 else 0 := by
  simp [closes, hsaid, List.countP_append, List.countP_singleton]

theorem last_of_calm (h : d.fatals = 0) {before after : List Record} {r : Record}
    (hsplit : d.said = before ++ r :: after) (hr : r.isFatal = true) : after = [] :=
  absurd hr (not_of_count h hsplit)

theorem quiet_dataRecords (bs : Bytes) : ∀ r ∈ Session.dataRecords bs, r.typ ≠ .alert := by
  intro r hr
  rw [Session.typ_of_mem_dataRecords hr]
  decide

theorem quiet_waiting (q : ByteQueue) : ∀ r ∈ waiting q, r.typ ≠ .alert := by
  intro r hr
  obtain ⟨bs, -, hr⟩ := List.mem_flatMap.mp hr
  exact quiet_dataRecords bs r hr

theorem quiet_handshake {rs : List Record}
    (h : ∀ r ∈ rs, r.typ = .handshake ∨ r.typ = .changeCipherSpec) : ∀ r ∈ rs, r.typ ≠ .alert := by
  intro r hr
  rcases h r hr with ht | ht <;> rw [ht] <;> decide

/-- Saying records that are no alerts keeps the alerts in order. -/
theorem Orderly.quiet (h : d.Orderly) (hd : d.status ≠ .closed) {rs : List Record}
    (hrs : ∀ r ∈ rs, r.typ ≠ .alert) (hstatus : d'.status = d.status)
    (hsaid : d'.said = d.said ++ rs) (hprompt : d'.traffic = true → waiting d'.early = []) :
    d'.Orderly := by
  have hfatals : d'.fatals = 0 := by
    rw [fatals, hsaid, (count_append_quiet hrs).1]
    exact h.calm hd
  have hcloses := closes_of_quiet hrs hsaid
  exact ⟨fun ho => hcloses.trans (h.silent (hstatus ▸ ho)), hcloses ▸ h.once, fun _ => hfatals,
    fun _ _ _ => last_of_calm hfatals, hprompt⟩

/-- Saying an alert keeps the alerts in order if a close notification is the first, after which the
dialogue is not open, and a fatal alert closes it. -/
theorem Orderly.alert (h : d.Orderly) (hd : d.status ≠ .closed) {a : Alert}
    (hopen : d'.status = .opened → d.status = .opened)
    (hclose : a.description = .closeNotify → d.status = .opened ∧ d'.status ≠ .opened)
    (hfatal : a.level = .fatal → d'.status = .closed) (hsaid : d'.said = d.said ++ [a.record])
    (hprompt : d'.traffic = true → waiting d'.early = []) : d'.Orderly := by
  have hfatals : d'.fatals = if a.level = .fatal then 1 else 0 := by
    have hcalm : d.said.countP Record.isFatal = 0 := h.calm hd
    simp [fatals, hsaid, List.countP_append, hcalm, List.countP_singleton]
  have hcloses := closes_of_alert hsaid
  refine ⟨fun ho => ?_, ?_, fun hc => ?_, fun before r after hsplit => ?_, hprompt⟩
  · rw [hcloses, h.silent (hopen ho), if_neg fun ha => (hclose ha).2 ho]
  · rw [hcloses]
    split
    · next ha => exact Nat.le_of_eq (by rw [h.silent (hclose ha).1])
    · exact h.once
  · rw [hfatals, if_neg fun ha => hc (hfatal ha)]
  · rw [hsaid] at hsplit
    exact last_of_count (h.calm hd) hsplit

/-- Every turn keeps the alerts in order. -/
theorem Orderly.turn (h : d.Orderly) (ht : Turn d d') : d'.Orderly := by
  have hwarning : ¬ AlertLevel.warning = .fatal := by decide
  rcases ht with (ht | ht) | ht | ho
  · cases ht with
    | sends rs hd hrs => exact h.quiet hd (quiet_handshake hrs) rfl rfl h.prompt
    | completes hd => exact h.quiet hd (quiet_waiting d.early) rfl rfl fun _ => rfl
    | declines hd ht =>
      exact h.alert hd id (fun ha => absurd ha (by decide)) (fun ha => absurd ha hwarning) rfl h.prompt
    | aborts hd why hwhy =>
      exact h.alert hd (fun ho => by cases ho) (fun ha => absurd ha hwhy) (fun _ => rfl) rfl h.prompt
  · cases ht with
    | answers hd =>
      exact h.alert (by rw [hd]; decide) (fun ho => by cases ho) (fun _ => ⟨hd, by rintro ⟨⟩⟩)
        (fun ha => absurd ha hwarning) rfl h.prompt
    | ends => exact ⟨fun ho => (by cases ho), h.once, fun hc => absurd rfl hc, h.last, h.prompt⟩
  · cases ht with
    | keeps hd ht bs =>
      have ht' : ¬ d.traffic = true := by simp [ht]
      exact ⟨h.silent, h.once, h.calm, h.last, fun ht => absurd ht ht'⟩
    | sends hd ht bs => exact h.quiet (by rw [hd]; decide) (quiet_dataRecords bs) rfl rfl h.prompt
  · exact h.alert (by rw [ho]; decide) (fun ho => by cases ho) (fun _ => ⟨ho, by rintro ⟨⟩⟩)
      (fun ha => absurd ha hwarning) rfl h.prompt

theorem Orderly.turns (h : d.Orderly) (ht : ReflTransGen Turn d d') : d'.Orderly := by
  induction ht with
  | refl => exact h
  | tail _ ht ih => exact ih.turn ht

/-- A dialogue that the handshake closes is closed by one fatal alert. -/
theorem fatals_of_reacts (ht : ReflTransGen Reacts d d') (h : d.Orderly) (hd : d.status ≠ .closed)
    (hd' : d'.status = .closed) : d'.fatals = 1 := by
  have horderly : ∀ {x}, ReflTransGen Reacts d x → x.Orderly := fun hx =>
    h.turns (ReflTransGen.mono (fun _ _ h => Turn.serves (.reacts h)) _ _ hx)
  induction ht with
  | refl => exact absurd hd' hd
  | @tail x y hx hxy ih =>
    cases hxy with
    | aborts hclosed why hwhy =>
      have hcalm : x.said.countP Record.isFatal = 0 := (horderly hx).calm hclosed
      simp [fatals, List.countP_append, hcalm]
    | _ => exact absurd hd' (by assumption)

/-- An alert of the peer and the loss of the transport are not answered with a fatal alert. -/
theorem fatals_of_hears (ht : ReflTransGen Hears d d') (h : d.fatals = 0) : d'.fatals = 0 := by
  induction ht with
  | refl => exact h
  | @tail x y _ hxy ih =>
    cases hxy with
    | answers ho =>
      have hcalm : x.said.countP Record.isFatal = 0 := ih
      simp [fatals, List.countP_append, hcalm]
      decide
    | ends => exact ih

/-! ## After a close notification -/

/-- A record that may follow a close notification: if it is an alert then a fatal one, or the warning
that there will be no other handshake. -/
def MayFollow (r : Record) : Prop :=
  ∀ a, r.alert? = some a → a.level = .fatal ∨ a = ⟨.warning, .noRenegotiation⟩

/-- One dialogue comes from another by records that may follow a close notification; the data among
them is data that had been waiting. -/
structure Concludes (d d' : Dialogue) (more : List Record) : Prop where
  said : d'.said = d.said ++ more
  follow : ∀ r ∈ more, MayFollow r
  data : more.filter Record.isData ++ waiting d'.early = waiting d.early

theorem mayFollow_of_typ_ne {r : Record} (h : r.typ ≠ .alert) : MayFollow r := by
  intro a ha
  rw [Record.alert?_of_typ_ne h] at ha
  cases ha

theorem filter_waiting (q : ByteQueue) : (waiting q).filter Record.isData = waiting q := by
  apply List.filter_eq_self.mpr
  intro r hr
  obtain ⟨bs, -, hr⟩ := List.mem_flatMap.mp hr
  rw [Record.isData, Session.typ_of_mem_dataRecords hr]
  rfl

theorem Turn.concludes (ht : Turn d d') (hd : d.status ≠ .opened) :
    d'.status ≠ .opened ∧ ∃ more, Concludes d d' more := by
  rcases ht with (ht | ht) | ht | ho
  · cases ht with
    | sends rs hclosed hrs =>
      refine ⟨hd, rs, rfl, fun r hr => mayFollow_of_typ_ne (quiet_handshake hrs r hr), ?_⟩
      have hdata : ∀ r ∈ rs, ¬ r.isData = true := by
        intro r hr
        rcases hrs r hr with ht | ht <;> rw [Record.isData, ht] <;> decide
      rw [List.filter_eq_nil_iff.mpr hdata]
      rfl
    | completes =>
      refine ⟨hd, waiting d.early, rfl, fun r hr => ?_, ?_⟩
      · exact mayFollow_of_typ_ne (quiet_waiting d.early r hr)
      · rw [filter_waiting]
        exact List.append_nil _
    | declines =>
      refine ⟨hd, _, rfl, fun r hr => ?_, rfl⟩
      obtain rfl := List.mem_singleton.mp hr
      intro a ha
      rw [Record.alert?_record] at ha
      exact .inr (Option.some.inj ha).symm
    | aborts hclosed why hwhy =>
      refine ⟨by rintro ⟨⟩, _, rfl, fun r hr => ?_, rfl⟩
      obtain rfl := List.mem_singleton.mp hr
      intro a ha
      rw [Record.alert?_record] at ha
      exact .inl (congrArg Alert.level (Option.some.inj ha).symm)
  · cases ht with
    | answers ho => exact absurd ho hd
    | ends => exact ⟨by rintro ⟨⟩, [], (List.append_nil _).symm, by simp, rfl⟩
  · cases ht with
    | keeps ho => exact absurd ho hd
    | sends ho => exact absurd ho hd
  · exact absurd ho hd

/-- Once a dialogue is not open any more, what is said is what may follow a close notification, and the
data among it is data that had been waiting. -/
theorem concludes_of_turns (ht : ReflTransGen Turn d d') (hd : d.status ≠ .opened) :
    d'.status ≠ .opened ∧ ∃ more, Concludes d d' more := by
  induction ht with
  | refl => exact ⟨hd, [], (List.append_nil _).symm, by simp, rfl⟩
  | tail _ ht ih =>
    obtain ⟨hx, more, hmore⟩ := ih
    obtain ⟨hy, more', hmore'⟩ := ht.concludes hx
    refine ⟨hy, more ++ more', ?_, fun r hr => ?_, ?_⟩
    · rw [hmore'.said, hmore.said, List.append_assoc]
    · rcases List.mem_append.mp hr with hr | hr
      · exact hmore.follow r hr
      · exact hmore'.follow r hr
    · rw [List.filter_append, List.append_assoc, hmore'.data, hmore.data]

/-- A closed dialogue does not change. -/
theorem eq_of_turns (ht : ReflTransGen Turn d d') (hd : d.status = .closed) : d' = d := by
  induction ht with
  | refl => rfl
  | tail _ ht ih =>
    subst ih
    rcases ht with (ht | ht) | ht | ho
    · cases ht <;> contradiction
    · cases ht with
      | answers ho =>
        rw [hd] at ho
        cases ho
      | ends => rw [← hd]
    · cases ht with
      | keeps ho =>
        rw [hd] at ho
        cases ho
      | sends ho =>
        rw [hd] at ho
        cases ho
    · rw [hd] at ho
      cases ho

/-- The server's side brings forth a close notification only as the last thing said. -/
theorem closes_of_serves (ht : ReflTransGen Serves d d') (hd : d.closes = 0) :
    d'.closes = 0 ∨ d'.status = .closed ∧
      ∃ said x, d'.said = said ++ [x] ∧ said.countP Record.isCloseNotify = 0 := by
  induction ht with
  | refl => exact .inl hd
  | @tail x y _ hxy ih =>
    rcases ih with hquiet | ⟨hclosed, hlast⟩
    · rcases hxy with hxy | hxy
      · left
        cases hxy with
        | sends rs hopen hrs => exact (closes_of_quiet (quiet_handshake hrs) rfl).trans hquiet
        | completes => exact (closes_of_quiet (quiet_waiting x.early) rfl).trans hquiet
        | declines => exact (closes_of_alert rfl).trans (by rw [hquiet]; rfl)
        | aborts hopen why hwhy =>
          refine (closes_of_alert rfl).trans ?_
          rw [hquiet, if_neg hwhy]
      · cases hxy with
        | answers => exact .inr ⟨rfl, x.said, _, rfl, hquiet⟩
        | ends => exact .inl hquiet
    · rw [eq_of_turns (.single (.serves hxy)) hclosed]
      exact .inr ⟨hclosed, hlast⟩

/-- When the server's side brings forth the first close notification, it is the last thing said. -/
theorem last_of_serves (ht : ReflTransGen Serves d d') (hd : d.closes = 0) {before after : List Record}
    {r : Record} (hsplit : d'.said = before ++ r :: after) (hr : r.isCloseNotify = true) :
    d'.status = .closed ∧ after = [] := by
  rcases closes_of_serves ht hd with hquiet | ⟨hclosed, said, x, hsaid, hcount⟩
  · exact absurd hr (not_of_count hquiet hsplit)
  · rw [hsaid] at hsplit
    exact ⟨hclosed, last_of_count hcount hsplit hr⟩

/-- What the user writes is no close notification. -/
theorem closes_of_writes (ht : ReflTransGen Writes d d') : d'.closes = d.closes := by
  induction ht with
  | refl => rfl
  | tail _ hxy ih =>
    cases hxy with
    | keeps => exact ih
    | sends ho ht bs => exact (closes_of_quiet (quiet_dataRecords bs) rfl).trans ih

end Dialogue

end TlsClient
