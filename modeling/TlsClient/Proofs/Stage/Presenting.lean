import TlsClient.Proofs.Config
import TlsClient.Proofs.Stage.Course

/-!
# What the client presents of itself

The client remembers the server's request for a certificate until it replies (`Course.remembers`).  What it
then presents hangs together: a chain exactly if one was asked for, its own if that suits the request, and
a signature exactly if the chain is not empty (`Config.Presents`).  Short of a reply it is only held up by
the key exchange or by its key (`Config.Stuck`).
-/

namespace TlsClient

open Deeds (wire)
open HandshakeMessage (logs)

/-! ## What the server asks for -/

/-- The request for a certificate that a message is. -/
def Message.request? (m : Message) : Option CertificateRequest :=
  match m.body with
  | .handshake (.certificateRequest request) _ => some request
  | _ => none

/-- The request that is remembered at a stage. -/
def Stage.request : Stage → Option CertificateRequest
  | done _ _ request => some request
  | _ => none

/-- Until the client replies, what it remembers is the request that it was sent. -/
def Stage.Remembers (stage : Stage) (ms : List Message) : Prop :=
  stage.Late ∨ ms.filterMap Message.request? = stage.request.toList

section Requests

variable {c : Config} {stage stage' stage₀ : Stage} {src src' src₀ : RandomSource} {m : Message}
  {ms : List Message} {act : Stage.Act}

theorem Stage.request_afterHello (flight : Flight) : (afterHello flight).request = none := by
  unfold afterHello
  split <;> rfl

/-- A message is remembered if it asks for a certificate. -/
theorem Stage.Remembers.takes (h : stage.Remembers ms) (ht : stage.Takes c src m act stage' src') :
    stage'.Remembers (ms ++ [m]) := by
  have hother (hs : ¬ stage.Late) (hm : m.request? = none) (hstage : stage.request = none)
      (hstage' : stage'.request = none) : stage'.Remembers (ms ++ [m]) := by
    right
    rw [List.filterMap_append, h.resolve_left hs, hstage, hstage', List.filterMap_cons_none hm]
    rfl
  cases ht with
  | hello hm =>
    exact hother (fun hl => nomatch hl) (by rw [Message.request?, hm]) rfl (request_afterHello _)
  | certificate hm =>
    refine hother (fun hl => nomatch hl) (by rw [Message.request?, hm]) rfl ?_
    split <;> rfl
  | params hm => exact hother (fun hl => nomatch hl) (by rw [Message.request?, hm]) rfl rfl
  | @request flight key request encoded hm =>
    right
    have hrequest : m.request? = some request := by rw [Message.request?, hm]
    rw [List.filterMap_append, h.resolve_left (fun hl => nomatch hl),
      List.filterMap_cons_some hrequest]
    rfl
  | reply => exact .inl (.keyChange _ _)
  | keyChange => exact .inl (.finished _ _)
  | finished => exact .inl .traffic
  | data => exact .inl .traffic

theorem Course.remembers (h : Course c stage₀ src₀ ms stage src) (h₀ : stage₀.Remembers []) :
    stage.Remembers ms := by
  induction h with
  | start => exact h₀
  | step _ ht ih => exact ih.takes ht

/-- The client answers the request that it was sent. -/
theorem Stage.Remembers.asked (h : stage.Remembers ms) {flight : Flight} {key : Option PublicKey}
    {request : Option CertificateRequest} (hanswers : stage.Answers flight key request) :
    ms.filterMap Message.request? = request.toList := by
  have hrequests := h.resolve_left fun hl => hl.not_answers hanswers
  cases hanswers with
  | unasked => exact hrequests
  | asked => exact hrequests

end Requests

/-! ## What the client presents -/

namespace Config

/-- Whether this is the client's certificate and of a kind that is asked for. -/
def Suits (c : Config) (request : CertificateRequest) (auth : ClientAuth) : Prop :=
  c.auth = some auth ∧ auth.key.algorithm.clientCertificate ∈ request.types

/-- What the client presents of itself: the chain that it sends, if it sends one, and the signature, if it
makes one, of the bytes that are to be signed. -/
structure Presents (c : Config) (request : Option CertificateRequest) (signed : Bytes)
    (chain : Option (List Certificate)) (signature : Option Bytes) : Prop where
  /-- A chain is sent exactly if one is asked for. -/
  asked : chain.isSome = request.isSome
  /-- It is the client's own if that suits the request, and then its key signs. -/
  own : ∀ asked auth, request = some asked → c.Suits asked auth →
    chain = some auth.chain ∧ ∃ made, signature = some made ∧ auth.key.sign signed = .ok made
  /-- Otherwise it is empty. -/
  empty : ∀ asked, request = some asked → (∀ auth, ¬ c.Suits asked auth) → chain = some []
  /-- A signature is made exactly if a chain is sent that is not empty. -/
  proved : signature.isSome = true ↔ ∃ sent, chain = some sent ∧ sent ≠ []

variable {c : Config} {request : Option CertificateRequest} {asked : CertificateRequest}
  {auth : ClientAuth}

theorem authFor_suits (h : c.Suits asked auth) : c.authFor (some asked) = some auth := by
  obtain ⟨hauth, htypes⟩ := h
  unfold authFor
  rw [hauth]
  exact if_pos (List.contains_iff_mem.mpr htypes)

theorem suits_of_authFor (h : c.authFor request = some auth) :
    ∃ asked, request = some asked ∧ c.Suits asked auth := by
  unfold authFor at h
  split at h
  · next asked ours hours =>
    split at h
    · next htypes =>
      cases h
      exact ⟨asked, rfl, hours, List.contains_iff_mem.mp htypes⟩
    · cases h
  · cases h

/-- What the client presents fits the request, and hangs together. -/
theorem Admitted.presents (h : c.Admitted) {signed : Bytes} {signature : Option Bytes}
    (hprove : prove (c.authFor request) (some signed) = .ok signature) :
    c.Presents request signed (c.chainFor request) signature := by
  have hunsuited (hnone : c.authFor request = none) (hsignature : signature = none) :
      c.Presents request signed (c.chainFor request) signature := by
    subst hsignature
    have hchain : c.chainFor request = request.map fun _ => [] := by
      rw [chainFor, hnone]
      rfl
    rw [hchain]
    constructor
    case asked => exact Option.isSome_map
    case own =>
      rintro asked auth rfl hsuits
      rw [authFor_suits hsuits] at hnone
      cases hnone
    case empty =>
      rintro asked rfl -
      rfl
    case proved =>
      refine ⟨fun hproof => (nomatch hproof), ?_⟩
      rintro ⟨sent, hsent, hne⟩
      obtain ⟨-, -, rfl⟩ := Option.map_eq_some_iff.mp hsent
      exact absurd rfl hne
  rcases of_prove_ok hprove with ⟨hnone | hnone, hsignature⟩ | ⟨auth, bs, made, hauth, hbs, hsign, rfl⟩
  · exact hunsuited hnone hsignature
  · cases hnone
  · cases hbs
    obtain ⟨asked, rfl, hsuits⟩ := suits_of_authFor hauth
    have hchain : c.chainFor (some asked) = some auth.chain := by
      rw [chainFor, hauth]
      rfl
    rw [hchain]
    constructor
    case asked => rfl
    case own =>
      rintro asked' auth' hasked' hsuits'
      cases hasked'
      cases hsuits.1.symm.trans hsuits'.1
      exact ⟨rfl, made, rfl, hsign⟩
    case empty =>
      rintro asked' hasked' hunsuited
      cases hasked'
      exact absurd hsuits (hunsuited auth)
    case proved => exact ⟨fun _ => ⟨auth.chain, rfl, h.auth auth hsuits.1⟩, fun _ => rfl⟩

/-- What keeps the client from completing its flight after some deeds: there is no secret to agree on, or its
key does not sign what was on the wire. -/
inductive Stuck (c : Config) (es : List Event) (flight : Flight) (key : Option PublicKey)
    (request : Option CertificateRequest) (src : RandomSource) : Prop
  | disagree (e : TlsError) (src' : RandomSource)
    (h : (flight.exchange.agree key).run src = (.error e, src'))
  | unsigned (agreement : Agreement) (src' : RandomSource) (asked : CertificateRequest)
    (auth : ClientAuth) (e : TlsError)
    (h : (flight.exchange.agree key).run src = (.ok agreement, src'))
    (hrequest : request = some asked) (hsuits : c.Suits asked auth)
    (hsign : auth.key.sign (wire (es ++ logs [.certificate auth.chain] ++
      logs [.clientKeyExchange agreement.contribution])) = .error e)

/-- Only this keeps the client from replying. -/
theorem stuck_of_not_replies {es : List Event} {flight : Flight} {key : Option PublicKey} {m : Message}
    {src : RandomSource} (hholds : (flight.transcript.add m).Holds (wire es))
    (h : ∀ r src', ¬ c.Replies flight key request m src r src') :
    c.Stuck es flight key request src := by
  rcases hagree : (flight.exchange.agree key).run src with ⟨e | agreement, src'⟩
  · exact .disagree e src' hagree
  · rcases hprove : prove (c.authFor request) ((flight.transcript.add m).addAll
        (Reply.presented (c.chainFor request) ++
          [.clientKeyExchange agreement.contribution])).verify with e | signature
    · obtain ⟨auth, bs, hauth, hbs, hsign⟩ := of_prove_error hprove
      obtain ⟨asked, rfl, hsuits⟩ := suits_of_authFor hauth
      refine .unsigned agreement src' asked auth e hagree rfl hsuits ?_
      rw [hholds.verify_addAll, chainFor, hauth] at hbs
      cases hbs
      rw [List.append_assoc, ← HandshakeMessage.logs_append]
      exact hsign
    · obtain ⟨r, hreply⟩ := exists_replies hagree hprove
      exact absurd hreply (h r src')

end Config

end TlsClient
