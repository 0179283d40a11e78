import TlsClient.Proofs.Connection.Chunking
import TlsClient.Proofs.Connection.Keying
import TlsClient.Proofs.Connection.Standing

/-!
# One record after another

Taking in what has arrived is taking in one record after another (`Passes`), until no other is there or the
connection ends (`process_passes`).  Between two records a connection is no less in order than between two
calls: both are moments of its run (`Moment`), and what is kept by each record is kept by each call.
-/

namespace TlsClient

open Relation (ReflTransGen)

namespace Connection

variable {c c' c₀ : Connection} {stage : Stage} {o : Origin} {hello : ClientHello}

/-- A record that has arrived is taken in, and the connection goes on. -/
inductive Passes : Connection → Connection → Prop
  | record {c c' : Connection} {stage stage' : Stage} {wire : Record} {d : Deframer}
    (hok : c.stage = .ok stage) (hopen : c.session.closeReceived = false)
    (hpop : c.deframer.pop = (.ok (some wire), d))
    (htake : ({ c with deframer := d } : Connection).takeRecord stage wire = (.ok stage', c')) :
    Passes c { c' with stage := .ok stage' }

/-- How taking in what has arrived ends: nothing is left to take in, or what comes next is no record, or it
is a record that ends the connection. -/
inductive Rests (c : Connection) : Except TlsError IoState × Connection → Prop
  | settled (h : c.Settled) : Rests c (.ok c.session.ioState, c)
  | garbled {stage : Stage} {e : TlsError} {d : Deframer} (hok : c.stage = .ok stage)
    (hopen : c.session.closeReceived = false) (hpop : c.deframer.pop = (.error e, d)) :
    Rests c (.error e, ({ c with deframer := d } : Connection).fail e)
  | broken {stage : Stage} {wire : Record} {e : TlsError} {d : Deframer} {c' : Connection}
    (hok : c.stage = .ok stage) (hopen : c.session.closeReceived = false)
    (hpop : c.deframer.pop = (.ok (some wire), d))
    (htake : ({ c with deframer := d } : Connection).takeRecord stage wire = (.error e, c')) :
    Rests c (.error e, c'.fail e)

/-- A record that ends the connection is the last that is taken in. -/
theorem process_broken {wire : Record} {d : Deframer} {e : TlsError} (hok : c.stage = .ok stage)
    (hopen : ¬ c.session.closeReceived = true) (hpop : c.deframer.pop = (.ok (some wire), d))
    (htake : ({ c with deframer := d } : Connection).takeRecord stage wire = (.error e, c')) :
    c.process = (.error e, c'.fail e) := by
  rw [process_drain hok, drain_record hopen hpop, htake]

/-- What is left to do after a record is what there was to do before it. -/
theorem Passes.process (h : c.Passes c') : c.process = c'.process := by
  cases h with
  | @record c₁ stage stage' wire d hok hopen hpop htake =>
    have hlater := drain_apart (.ok stage') c₁ stage'
    rw [process_drain hok, drain_record (by simp [hopen]) hpop, htake,
      process_drain (c := { c₁ with stage := .ok stage' }) rfl, hlater]
    dsimp only
    rcases c₁.drain stage' with ⟨e | stage'', c₂⟩ <;> rfl

theorem Passes.length_lt (h : c.Passes c') : c'.deframer.buffer.length < c.deframer.buffer.length := by
  cases h with
  | @record c₁ stage stage' wire d hok hopen hpop htake =>
    have hd := takeRecord_deframer { c with deframer := d } stage wire
    rw [htake] at hd
    show c₁.deframer.buffer.length < _
    rw [hd]
    exact Deframer.length_lt_of_pop hpop

/-- Taking in what has arrived is taking in records, up to an end. -/
theorem process_passes (h : c.stage = .ok stage) :
    ∃ c₁, ReflTransGen Passes c c₁ ∧ c₁.Rests c.process := by
  induction hn : c.deframer.buffer.length using Nat.strongRecOn generalizing c stage with
  | ind n ih =>
    cases hclose : c.session.closeReceived with
    | true =>
      have hsettled : c.Settled := ⟨⟨stage, h⟩, .inl hclose⟩
      exact ⟨c, .refl, hsettled.process ▸ .settled hsettled⟩
    | false =>
      have hopen : ¬ c.session.closeReceived = true := by simp [hclose]
      rcases hpop : c.deframer.pop with ⟨e | _ | wire, d⟩
      · refine ⟨c, .refl, ?_⟩
        rw [process_drain h, drain_refused hopen hpop]
        exact .garbled h hclose hpop
      · have hsettled : c.Settled := ⟨⟨stage, h⟩, .inr (by rw [hpop])⟩
        exact ⟨c, .refl, hsettled.process ▸ .settled hsettled⟩
      · rcases htake : ({ c with deframer := d } : Connection).takeRecord stage wire
          with ⟨e | stage', c₁⟩
        · refine ⟨c, .refl, ?_⟩
          rw [process_broken h hopen hpop htake]
          exact .broken h hclose hpop htake
        · have hpass := Passes.record h hclose hpop htake
          obtain ⟨c₂, hpasses, hrests⟩ := ih _ (hn ▸ hpass.length_lt) rfl rfl
          exact ⟨c₂, .head hpass hpasses, hpass.process ▸ hrests⟩

/-! ## Moments -/

/-- A moment of a run that began with the first connection: between two calls or between two records. -/
structure Moment (c₀ c : Connection) : Prop where
  moves : ReflTransGen Moves c₀ c
  drained : c.Drained
  orderly : c.session.Orderly
  stands : c₀.Stands c

/-- What moves keep holds at every moment. -/
theorem Moment.keeps (hstart : c₀.Starts o hello) (h : c₀.Moment c) {P : Connection → Prop} (h₀ : P c₀)
    (hstep : ∀ c₁ c₂, c₁.Sound o → Moves c₁ c₂ → P c₁ → P c₂) : P c := by
  have hmoves := h.moves
  clear h
  induction hmoves with
  | refl => exact h₀
  | tail hmoves hmove ih => exact hstep _ _ (hstart.sound.moves hmoves) hmove ih

theorem Moment.sound (hstart : c₀.Starts o hello) (h : c₀.Moment c) : c.Sound o :=
  hstart.sound.moves h.moves

theorem Moment.keyed (hstart : c₀.Starts o hello) (h : c₀.Moment c) : c.Keyed :=
  h.keeps hstart hstart.keyed fun _ _ => Keyed.step

/-- As long as it goes on, a connection heeds the server. -/
theorem Moment.heeds (h : c₀.Moment c) (hok : c.stage = .ok stage)
    (hopen : c.session.closeReceived = false) : c.Heeds := by
  cases h.stands with
  | heeds _ h => exact h
  | left _ _ _ h =>
    rw [h.1] at hopen
    cases hopen
  | fallen hs =>
    rw [hok] at hs
    cases hs

/-- After a record there is another moment. -/
theorem Moment.passes (hstart : c₀.Starts o hello) (h : c₀.Moment c) (hpass : c.Passes c') :
    c₀.Moment c' := by
  cases hpass with
  | @record c₁ stage stage' wire d hok hopen hpop htake =>
    set cut : Connection := { c with deframer := d } with hcut
    have hcutmove : Moves c cut := .talks rfl rfl rfl (.refl _)
    have hsame : ({ cut with stage := .ok stage } : Connection) = cut := by rw [hcut, ← hok]
    have hsound : ({ c with stage := .ok stage } : Connection).Sound o := by
      rw [← hok]
      exact h.sound hstart
    have hleads := @takeRecord_leads cut stage (h.drained stage hok) wire
    have hstands := (popped_conducts hstart (h.heeds hok hopen) hsound d wire).stands h.orderly
    rw [htake, hsame] at hleads
    rw [htake] at hstands
    obtain ⟨hspeaks, hstands⟩ := hstands
    exact ⟨(h.moves.tail hcutmove).trans hleads.1, fun _ _ => hleads.2,
      h.orderly.turns (hspeaks.mono fun _ _ => .serves), hstands⟩

theorem Moment.later (hstart : c₀.Starts o hello) (h : c₀.Moment c)
    (hpasses : ReflTransGen Passes c c') : c₀.Moment c' := by
  induction hpasses with
  | refl => exact h
  | tail _ hpass ih => exact ih.passes hstart hpass

/-- Every connection between two calls of a run is a moment of it. -/
theorem moment_run {config : Config} {time : Int} {random : RandomSource}
    (h : Connection.start config time random = .ok c) (calls : List Call) : c.Moment (c.run calls) := by
  obtain ⟨o, hello, hstart, -⟩ := start_starts h
  obtain ⟨hmoves, hdrained⟩ := run_moves hstart.drained calls
  obtain ⟨horderly, hstands⟩ := run_orderly h calls
  exact ⟨hmoves, hdrained, horderly, hstands⟩

end Connection

end TlsClient
