import Mathlib.Data.List.Forall2
import TlsClient.Proofs.KeyExchange.Accepting
import TlsClient.Proofs.Wire.Canonical

/-!
# What a ServerKeyExchange message says

The message is a row of vectors: those of the parameters, and one for the signature if there is one.
How many there are and how wide their lengths are follows from the method (`KeyExchangeMethod.layout?`).
A body is understood exactly if it is such a row and nothing else, and what it was understood as is
written as it arrived (`ServerKeyExchangeBody.understands`); so a signature is checked for the bytes that
the server sent.
-/

namespace TlsClient

open Decoder

/-- The widths of the lengths of the vectors in the server's message; the RSA exchange has no such
message. -/
def KeyExchangeMethod.layout? : KeyExchangeMethod → Option (List Nat)
  | rsa => none
  | dheRsa | dheDss => some [2, 2, 2, 2]
  | srp => some [2, 2, 1, 2]
  | srpRsa | srpDss => some [2, 2, 1, 2, 2]

/-! ## Rows of vectors -/

/-- Vectors fit lengths of these widths. -/
def Fitting (widths : List Nat) (vectors : List Bytes) : Prop :=
  List.Forall₂ (fun width bs => bs.length < 256 ^ width) widths vectors

/-- Vectors in a row, with lengths of these widths. -/
def row (widths : List Nat) (vectors : List Bytes) : Bytes :=
  (List.zipWith Encoder.vector widths vectors).flatten

@[simp] theorem row_nil : row [] [] = [] := rfl

@[simp] theorem row_cons (width : Nat) (widths : List Nat) (bs : Bytes) (vectors : List Bytes) :
    row (width :: widths) (bs :: vectors) = Encoder.vector width bs ++ row widths vectors := rfl

theorem fitting_cons {width : Nat} {widths : List Nat} {bs : Bytes} {vectors : List Bytes} :
    Fitting (width :: widths) (bs :: vectors) ↔ bs.length < 256 ^ width ∧ Fitting widths vectors :=
  List.forall₂_cons

theorem Fitting.cons_inv {width : Nat} {widths : List Nat} {vectors : List Bytes}
    (h : Fitting (width :: widths) vectors) :
    ∃ bs rest, vectors = bs :: rest ∧ bs.length < 256 ^ width ∧ Fitting widths rest := by
  cases h with
  | cons hbs hrest => exact ⟨_, _, rfl, hbs, hrest⟩

theorem Fitting.nil_inv {vectors : List Bytes} (h : Fitting [] vectors) : vectors = [] := by
  cases h
  rfl

theorem Fitting.append {widths widths' : List Nat} {vectors vectors' : List Bytes}
    (h : Fitting widths vectors) (h' : Fitting widths' vectors') :
    Fitting (widths ++ widths') (vectors ++ vectors') := List.rel_append h h'

theorem row_append {widths widths' : List Nat} {vectors vectors' : List Bytes}
    (h : Fitting widths vectors) :
    row (widths ++ widths') (vectors ++ vectors') = row widths vectors ++ row widths' vectors' := by
  rw [row, List.zipWith_append h.length_eq, List.flatten_append]
  rfl

/-! ## Parameters -/

namespace DhParams

def vectors (d : DhParams) : List Bytes := [d.p, d.g, d.share]

theorem reads : (Wire.decode : Decoder DhParams).Reads (fun d => Fitting [2, 2, 2] d.vectors)
    (fun d => row [2, 2, 2] d.vectors) := by
  intro bs rest d
  show (vector 2 >>= fun p => vector 2 >>= fun g => vector 2 >>= fun share =>
    pure (⟨p, g, share⟩ : DhParams)).run bs = _ ↔ _
  simp only [(reads_vector 2).bind_ok]
  constructor
  · rintro ⟨p, _, ⟨hp, rfl⟩, g, _, ⟨hg, rfl⟩, share, _, ⟨hshare, rfl⟩, h⟩
    cases h
    exact ⟨.cons hp (.cons hg (.cons hshare .nil)), by simp [vectors]⟩
  · rintro ⟨hfits, rfl⟩
    simp only [vectors, fitting_cons] at hfits
    obtain ⟨hp, hg, hshare, -⟩ := hfits
    exact ⟨d.p, _, ⟨hp, by simp [vectors]⟩, d.g, _, ⟨hg, rfl⟩, d.share, _, ⟨hshare, rfl⟩, rfl⟩

/-- Three vectors of this kind are parameters. -/
theorem exists_of_fitting {widths : List Nat} {bss : List Bytes}
    (h : Fitting (2 :: 2 :: 2 :: widths) bss) :
    ∃ (d : DhParams) (rest : List Bytes), bss = d.vectors ++ rest ∧ Fitting [2, 2, 2] d.vectors ∧
      Fitting widths rest := by
  obtain ⟨p, _, rfl, hp, h⟩ := h.cons_inv
  obtain ⟨g, _, rfl, hg, h⟩ := h.cons_inv
  obtain ⟨share, rest, rfl, hshare, h⟩ := h.cons_inv
  exact ⟨⟨p, g, share⟩, rest, rfl, .cons hp (.cons hg (.cons hshare .nil)), h⟩

end DhParams

namespace SrpParams

def vectors (s : SrpParams) : List Bytes := [s.n, s.g, s.salt, s.share]

theorem reads : (Wire.decode : Decoder SrpParams).Reads (fun s => Fitting [2, 2, 1, 2] s.vectors)
    (fun s => row [2, 2, 1, 2] s.vectors) := by
  intro bs rest s
  show (vector 2 >>= fun n => vector 2 >>= fun g => vector 1 >>= fun salt => vector 2 >>= fun share =>
    pure (⟨n, g, salt, share⟩ : SrpParams)).run bs = _ ↔ _
  simp only [(reads_vector 2).bind_ok, (reads_vector 1).bind_ok]
  constructor
  · rintro ⟨n, _, ⟨hn, rfl⟩, g, _, ⟨hg, rfl⟩, salt, _, ⟨hsalt, rfl⟩, share, _, ⟨hshare, rfl⟩, h⟩
    cases h
    exact ⟨.cons hn (.cons hg (.cons hsalt (.cons hshare .nil))), by simp [vectors]⟩
  · rintro ⟨hfits, rfl⟩
    simp only [vectors, fitting_cons] at hfits
    obtain ⟨hn, hg, hsalt, hshare, -⟩ := hfits
    exact ⟨s.n, _, ⟨hn, by simp [vectors]⟩, s.g, _, ⟨hg, rfl⟩, s.salt, _, ⟨hsalt, rfl⟩, s.share, _,
      ⟨hshare, rfl⟩, rfl⟩

/-- Four vectors of this kind are parameters. -/
theorem exists_of_fitting {widths : List Nat} {bss : List Bytes}
    (h : Fitting (2 :: 2 :: 1 :: 2 :: widths) bss) :
    ∃ (s : SrpParams) (rest : List Bytes), bss = s.vectors ++ rest ∧
      Fitting [2, 2, 1, 2] s.vectors ∧ Fitting widths rest := by
  obtain ⟨n, _, rfl, hn, h⟩ := h.cons_inv
  obtain ⟨g, _, rfl, hg, h⟩ := h.cons_inv
  obtain ⟨salt, _, rfl, hsalt, h⟩ := h.cons_inv
  obtain ⟨share, rest, rfl, hshare, h⟩ := h.cons_inv
  exact ⟨⟨n, g, salt, share⟩, rest, rfl, .cons hn (.cons hg (.cons hsalt (.cons hshare .nil))), h⟩

end SrpParams

namespace ServerParams

/-- The widths of the lengths of the parameters. -/
def widths : ServerParams → List Nat
  | dh _ => [2, 2, 2]
  | srp _ => [2, 2, 1, 2]

def vectors : ServerParams → List Bytes
  | dh d => d.vectors
  | srp s => s.vectors

theorem encode_eq (p : ServerParams) : p.encode = row p.widths p.vectors := by
  cases p <;> simp [encode, widths, vectors, DhParams.vectors, SrpParams.vectors, Wire.encode]

theorem reads (method : KeyExchangeMethod) :
    (decode method).Reads (fun p => p.Suits method ∧ Fitting p.widths p.vectors) encode := by
  have hdh : (dh <$> (Wire.decode : Decoder DhParams)).Reads
      (fun p => (∃ d, p = dh d) ∧ Fitting p.widths p.vectors) encode := by
    refine DhParams.reads.map (fun d hd => ⟨⟨⟨d, rfl⟩, hd⟩, encode_eq _⟩) ?_
    rintro _ ⟨⟨d, rfl⟩, hd⟩
    exact ⟨d, hd, rfl⟩
  have hsrp : (srp <$> (Wire.decode : Decoder SrpParams)).Reads
      (fun p => (∃ s, p = srp s) ∧ Fitting p.widths p.vectors) encode := by
    refine SrpParams.reads.map (fun s hs => ⟨⟨⟨s, rfl⟩, hs⟩, encode_eq _⟩) ?_
    rintro _ ⟨⟨s, rfl⟩, hs⟩
    exact ⟨s, hs, rfl⟩
  cases method with
  | rsa =>
    intro bs rest p
    constructor
    · exact nofun
    · rintro ⟨⟨hsuits, -⟩, -⟩
      exact hsuits.elim
  | dheRsa | dheDss => exact hdh
  | srp | srpRsa | srpDss => exact hsrp

end ServerParams

/-! ## The whole message -/

namespace ServerKeyExchange

/-- Everything that the message consists of. -/
def vectors (x : ServerKeyExchange) : List Bytes := x.params.vectors ++ x.signature.toList

/-- A message that a method asks for, and that can be written. -/
structure Fits (x : ServerKeyExchange) (method : KeyExchangeMethod) : Prop where
  suits : x.params.Suits method
  params : Fitting x.params.widths x.params.vectors
  /-- There is a signature just if the method is signed. -/
  signed : x.signature.isSome = method.isSigned
  signature : ∀ s ∈ x.signature, s.length < 256 ^ 2

/-- A signature is read just if there has to be one. -/
theorem reads_signature (signed : Bool) :
    (if signed then some <$> vector 2 else pure none : Decoder (Option Bytes)).Reads
      (fun s => s.isSome = signed ∧ ∀ t ∈ s, t.length < 256 ^ 2)
      (fun s => (s.map (Encoder.vector 2)).getD []) := by
  cases signed with
  | true =>
    refine (reads_vector 2).map (fun t ht => ⟨⟨rfl, by simpa using ht⟩, rfl⟩) ?_
    rintro s ⟨hsome, hs⟩
    obtain ⟨t, rfl⟩ := Option.isSome_iff_exists.mp hsome
    exact ⟨t, hs t rfl, rfl⟩
  | false =>
    intro bs rest s
    constructor
    · intro h
      cases h
      exact ⟨⟨rfl, nofun⟩, rfl⟩
    · rintro ⟨⟨hnone, -⟩, rfl⟩
      cases s with
      | none => rfl
      | some t => cases hnone

theorem reads (method : KeyExchangeMethod) :
    (decode method).Reads (fun x => x.Fits method) encode := by
  have hdecode : decode method = (ServerParams.decode method >>= fun params =>
      (if method.isSigned then some <$> vector 2 else pure none : Decoder (Option Bytes)) >>=
        fun signature => pure (⟨params, signature⟩ : ServerKeyExchange)) := by
    unfold decode
    cases method.isSigned <;> rfl
  intro bs rest x
  rw [hdecode]
  simp only [(ServerParams.reads method).bind_ok, (reads_signature method.isSigned).bind_ok]
  constructor
  · rintro ⟨params, _, ⟨⟨hsuits, hparams⟩, rfl⟩, signature, _, ⟨⟨hsigned, hsignature⟩, rfl⟩, h⟩
    cases h
    exact ⟨⟨hsuits, hparams, hsigned, hsignature⟩, (List.append_assoc _ _ _).symm⟩
  · rintro ⟨h, rfl⟩
    exact ⟨x.params, _, ⟨⟨h.suits, h.params⟩, List.append_assoc _ _ _⟩, x.signature, rest,
      ⟨⟨h.signed, h.signature⟩, rfl⟩, rfl⟩

section

variable {x : ServerKeyExchange} {method : KeyExchangeMethod}

theorem Fits.layout?_eq (h : x.Fits method) :
    method.layout? = some (x.params.widths ++ (x.signature.map fun _ => 2).toList) := by
  obtain ⟨params, signature⟩ := x
  have hsuits : params.Suits method := h.suits
  have hsigned : signature.isSome = method.isSigned := h.signed
  cases method with
  | rsa => exact hsuits.elim
  | dheRsa | dheDss =>
    obtain ⟨d, rfl⟩ := hsuits
    obtain ⟨s, rfl⟩ := Option.isSome_iff_exists.mp hsigned
    rfl
  | srp =>
    obtain ⟨p, rfl⟩ := hsuits
    obtain rfl := Option.not_isSome_iff_eq_none.mp (Bool.eq_false_iff.mp hsigned)
    rfl
  | srpRsa | srpDss =>
    obtain ⟨p, rfl⟩ := hsuits
    obtain ⟨s, rfl⟩ := Option.isSome_iff_exists.mp hsigned
    rfl

/-- A message that fits is the row that its method lays down. -/
theorem Fits.laid (h : x.Fits method) : ∃ widths, method.layout? = some widths ∧
    Fitting widths x.vectors ∧ x.encode = row widths x.vectors := by
  have hsignature : Fitting (x.signature.map fun _ => 2).toList x.signature.toList ∧
      (x.signature.map (Encoder.vector 2)).getD [] =
        row (x.signature.map fun _ => 2).toList x.signature.toList := by
    have hfits := h.signature
    cases hx : x.signature with
    | none => exact ⟨.nil, rfl⟩
    | some s => exact ⟨.cons (hfits s hx) .nil, by simp⟩
  refine ⟨_, h.layout?_eq, h.params.append hsignature.1, ?_⟩
  rw [encode, ServerParams.encode_eq, hsignature.2, vectors, row_append h.params]

/-- Vectors of the widths that a method asks for are a message. -/
theorem exists_of_layout {widths : List Nat} {bss : List Bytes}
    (hlayout : method.layout? = some widths) (h : Fitting widths bss) :
    ∃ x : ServerKeyExchange, x.Fits method ∧ x.vectors = bss := by
  cases method with
  | rsa => cases hlayout
  | dheRsa | dheDss =>
    cases hlayout
    obtain ⟨d, _, rfl, hd, h⟩ := DhParams.exists_of_fitting h
    obtain ⟨s, _, rfl, hs, h⟩ := h.cons_inv
    obtain rfl := h.nil_inv
    exact ⟨⟨.dh d, some s⟩, ⟨⟨d, rfl⟩, hd, rfl, by simpa using hs⟩, rfl⟩
  | srp =>
    cases hlayout
    obtain ⟨p, _, rfl, hp, h⟩ := SrpParams.exists_of_fitting h
    obtain rfl := h.nil_inv
    exact ⟨⟨.srp p, none⟩, ⟨⟨p, rfl⟩, hp, rfl, nofun⟩, rfl⟩
  | srpRsa | srpDss =>
    cases hlayout
    obtain ⟨p, _, rfl, hp, h⟩ := SrpParams.exists_of_fitting h
    obtain ⟨s, _, rfl, hs, h⟩ := h.cons_inv
    obtain rfl := h.nil_inv
    exact ⟨⟨.srp p, some s⟩, ⟨⟨p, rfl⟩, hp, rfl, by simpa using hs⟩, rfl⟩

end

end ServerKeyExchange

namespace ServerKeyExchangeBody

variable {method : KeyExchangeMethod} {b : Bytes} {x : ServerKeyExchange}

theorem interpret_raw_ok : (raw b).interpret method = .ok x ↔ x.Fits method ∧ b = x.encode := by
  show exactly _ (ServerKeyExchange.decode method) b = _ ↔ _
  rw [exactly_ok, ServerKeyExchange.reads method b [] x, List.append_nil]

/-- How a method understands the bodies that arrive. -/
structure Understands (method : KeyExchangeMethod) : Prop where
  /-- A body is understood exactly if it is a row of vectors as the method lays it down. -/
  accepts : ∀ b, (∃ x, (raw b).interpret method = .ok x) ↔ ∃ widths vectors,
    method.layout? = some widths ∧ Fitting widths vectors ∧ b = row widths vectors
  /-- It is understood as these vectors, in parameters of the kind of the method. -/
  holds : ∀ b x, (raw b).interpret method = .ok x → x.Fits method ∧
    ∃ widths, method.layout? = some widths ∧ b = row widths x.vectors
  /-- What was understood is written as it arrived. -/
  rewritten : ∀ b x, (raw b).interpret method = .ok x →
    x.params.encode ++ (x.signature.map (Encoder.vector 2)).getD [] = b
  /-- The signature is checked for what stands before it in the body. -/
  signed : method.isSigned = true → ∀ b x, (raw b).interpret method = .ok x →
    ∃ covered signature, b = covered ++ Encoder.vector 2 signature ∧ ∀ randoms key,
      KeyExchange.checkSignature method x randoms key = .ok () ↔ ∃ certified,
        key = some certified ∧ method.certificateKey = some certified.algorithm ∧
        certified.verifies (randoms.client.bytes ++ randoms.server.bytes ++ covered) signature = true
  reread : ∀ x, x.Fits method → (raw x.encode).interpret method = .ok x
  rsa : method = .rsa → ∀ b, (raw b).interpret method = .error (.unexpected "ServerKeyExchange")

/-- A body is understood exactly if it is the vectors that the method asks for, and what was understood
are the bytes that arrived. -/
theorem understands (method : KeyExchangeMethod) : Understands method where
  accepts b := by
    constructor
    · rintro ⟨x, h⟩
      obtain ⟨hfits, rfl⟩ := interpret_raw_ok.mp h
      obtain ⟨widths, hlayout, hfitting, hrow⟩ := hfits.laid
      exact ⟨widths, x.vectors, hlayout, hfitting, hrow⟩
    · rintro ⟨widths, vectors, hlayout, hfitting, rfl⟩
      obtain ⟨x, hfits, rfl⟩ := ServerKeyExchange.exists_of_layout hlayout hfitting
      obtain ⟨widths', hlayout', -, hrow⟩ := hfits.laid
      cases hlayout.symm.trans hlayout'
      exact ⟨x, interpret_raw_ok.mpr ⟨hfits, hrow.symm⟩⟩
  holds b x h := by
    obtain ⟨hfits, rfl⟩ := interpret_raw_ok.mp h
    obtain ⟨widths, hlayout, -, hrow⟩ := hfits.laid
    exact ⟨hfits, widths, hlayout, hrow⟩
  rewritten b x h := (interpret_raw_ok.mp h).2.symm
  signed hsigned b x h := by
    obtain ⟨hfits, rfl⟩ := interpret_raw_ok.mp h
    obtain ⟨signature, hsignature⟩ := Option.isSome_iff_exists.mp (hfits.signed.trans hsigned)
    refine ⟨x.params.encode, signature, by rw [ServerKeyExchange.encode, hsignature]; rfl, ?_⟩
    intro randoms key
    rw [KeyExchange.checkSignature_ok_iff]
    simp [hsigned, ServerKeyExchange.Vouched, hsignature]
  reread x h := interpret_raw_ok.mpr ⟨h, rfl⟩
  rsa h b := by
    subst h
    rfl

end ServerKeyExchangeBody

end TlsClient
