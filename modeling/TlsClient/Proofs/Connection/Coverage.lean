import TlsClient.Proofs.Connection.Completing
import TlsClient.Proofs.Connection.Grounds

/-!
# What the digests cover

Both Finished messages and the client's signature are over all handshake bytes that were on the wire
before them, in their order, whoever sent them (`digests_cover`).  What the server sent counts with the
bytes that arrived, however records cut them, and what the client sent with the bytes that were queued.
-/

namespace TlsClient

open Deeds (handled wire opened taken Justified)
open HandshakeMessage (logs)

namespace Connection

/-- What a handshake message of the client's is over, if it proves something: the signature and the
client's Finished are over all that was on the wire, the first right after the key exchange. -/
def Proves (c : Connection) (before : List Event) : HandshakeMessage → Prop
  | .certificateVerify signature => ∃ auth earlier contribution, c.config.auth = some auth ∧
      auth.key.sign (wire before) = .ok signature ∧
      before = earlier ++ logs [.clientKeyExchange contribution]
  | .finished proof => ∃ secrets : Secrets,
      proof = secrets.clientVerify (Transcript.digest (wire before)) ∧
      c.Reaches before (.keyChange secrets
        (wire before ++ Transcript.contribution (secrets.clientFinished before)))
  | _ => True

/-- What has been covered when a deed is done: for a message that is sent, by what it proves; for one
that is handled, by the transcript of the stage that it is given to. -/
def Covers (c : Connection) (before : List Event) : Event → Prop
  | .sent m => ∀ parsed encoded, m.body = .handshake parsed encoded → c.Proves before parsed
  | .handled m => (m.body.typ = .handshake → ∃ v, m.Joined v) ∧
      ∃ stage, c.Reaches before stage ∧ stage.Covers before ∧ stage.Reads before m
  | _ => True

variable {o : Origin} {hello : ClientHello} {c : Connection} {before : List Event}

theorem authFor_eq {config : Config} {request : Option CertificateRequest} {auth : ClientAuth}
    (h : config.authFor request = some auth) : config.auth = some auth := by
  unfold Config.authFor at h
  split at h
  · next ours hours =>
    split at h
    · exact hours.trans h
    · cases h
  · cases h

/-- A message of the client's that has its grounds proves what was on the wire. -/
theorem Starts.proves (h : c.Starts o hello) {parsed : HandshakeMessage}
    (hexplains : o.ExplainsMessage before parsed) : c.Proves before parsed := by
  cases parsed with
  | finished proof =>
    obtain ⟨r, hfinishes, hproof⟩ := hexplains
    obtain ⟨src, hcourse⟩ := Finishes.course hfinishes
    exact ⟨r.secrets, hproof, h.reaches hcourse⟩
  | certificateVerify signature =>
    obtain ⟨flight, key, request, m, src, auth, -, hauth, hsign, earlier, contribution, hbefore⟩ :=
      hexplains
    exact ⟨auth, earlier, contribution, by rw [h.config]; exact authFor_eq hauth, hsign, hbefore⟩
  | _ => trivial

/-- A deed that has its grounds has covered what was on the wire. -/
theorem Starts.covers (h : c.Starts o hello) {e : Event} (hexplains : o.Explains before e) :
    c.Covers before e := by
  cases e with
  | sent m => exact fun parsed encoded hm => h.proves (hexplains parsed encoded hm)
  | handled m =>
    obtain ⟨hjoined, stage, src, hcourse, hcovers, hreads⟩ := hexplains
    exact ⟨hjoined, stage, h.reaches hcourse, hcovers, hreads⟩
  | _ => trivial

variable {config : Config} {time : Int} {random : RandomSource}

/-- In every run each deed has covered all handshake bytes that were on the wire before it, and so has
the transcript of the stage at the end. -/
theorem digests_cover (h : Connection.start config time random = .ok c) (calls : List Call) :
    Justified c.Covers (c.run calls).session.deeds ∧
      ∀ stage, (c.run calls).stage = .ok stage → c.Reaches (c.run calls).session.deeds stage ∧
        stage.Covers (c.run calls).session.deeds := by
  obtain ⟨o, hello, hstarts, -⟩ := start_starts h
  have hsound := hstarts.sound_run calls
  refine ⟨fun before e after heq => hstarts.covers (hstarts.grounds calls before e after heq),
    fun stage hok => ⟨hstarts.reaches (hsound.course.onCourse stage hok), hsound.phase.covers hok⟩⟩

/-- The client's Finished covers all messages up to its key exchange, and the server's is expected. -/
theorem digests_cover_closed : ∃ c secrets before after,
    Connection.start .acquainted 0 (.seeded [] 0 none) = .ok c ∧
    (c.run Call.acquaint).session.deeds = before ++ .sent (secrets.clientFinished before) :: after ∧
    c.Proves before (.finished (secrets.clientVerify (Transcript.digest (wire before)))) ∧
    (c.run Call.acquaint).stage = .ok (.finished secrets (wire (c.run Call.acquaint).session.deeds)) ∧
    (handled (c.run Call.acquaint).session.deeds).length = 4 ∧
    Justified c.Covers (c.run Call.acquaint).session.deeds := by
  obtain ⟨c, secrets, t, p, hc, hlistens, -⟩ := run_acquainted
  obtain ⟨hcovers, hstages⟩ := digests_cover hc Call.acquaint
  have hcount : (handled (c.run Call.acquaint).session.deeds).length = 4 := by
    apply of_start hc
    decide +kernel
  have hstage := hlistens.stage
  obtain ⟨-, hcovered⟩ := hstages _ hstage
  cases hcovered with
  | gathers ht => cases ht
  | finished hproves =>
    obtain ⟨before, after, hdeeds, -⟩ := hproves
    exact ⟨c, secrets, before, after, hc, hdeeds, hcovers before _ after hdeeds _ _ rfl, hstage, hcount,
      hcovers⟩

end Connection

end TlsClient
