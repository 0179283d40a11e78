import TlsClient.Config

/-!
# What a builder admits

A configuration that a builder gives out offers a suite, has a password exactly if a suite needs one, and
has no client certificate without a chain (`ConfigBuilder.build_admits`).
-/

namespace TlsClient

/-- What every configuration that was built is like. -/
structure Config.Admitted (c : Config) : Prop where
  suites : c.suites ≠ []
  srp : c.offersSrp = c.srp.isSome
  auth : ∀ a ∈ c.auth, a.chain ≠ []

theorem ConfigBuilder.build_admits {b : ConfigBuilder} {c : Config} (h : b.build = .ok c) :
    c.Admitted := by
  unfold build at h
  dsimp only at h
  split at h
  · cases h
  next hsuites =>
  split at h
  · cases h
  next hmissing =>
  split at h
  · cases h
  next hneedless =>
  split at h
  · cases h
  next hauth =>
  cases h
  constructor
  case suites => simpa using hsuites
  case srp =>
    show Config.needsSrp b.chosenSuites = b.srp.isSome
    cases hneeds : Config.needsSrp b.chosenSuites <;> cases hsrp : b.srp <;>
      simp_all
  case auth =>
    intro a ha hchain
    have hb : b.auth = some a := Option.mem_def.mp ha
    rw [hb] at hauth
    exact hauth (List.isEmpty_iff.mpr hchain)

end TlsClient
