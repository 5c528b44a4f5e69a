import Colloquy.Proofs.Error.Escape
import Colloquy.Proofs.Provider.Raised
import Colloquy.Session

/-!
# Configurations that are accepted

Settings are checked once, when a configuration is made, and relied on wherever they are
used.  `Config.Passed` is all that was checked.  From it follows that what is built for a
configuration needs no check of its own: the link that runs tools takes its bounds, a
backend that needs a key is sent one, and the address of every resource can be made.
-/

namespace Colloquy

/-! ## The checks -/

namespace Config

/-- What was checked of an offer, and what was kept of it. -/
structure Passed (offer : Offer) (environment : Text → Option Text) (c : Config) : Prop where
  provider : checkProvider offer.provider = .ok c.provider
  model : offer.model = .text c.model
  timeout : checkTimeout offer.timeout = .ok ()
  rounds : checkRounds offer.maxToolRounds = .ok c.maxToolRounds
  policy : checkPolicy offer.toolErrorPolicy = .ok c.toolErrorPolicy
  base : checkBase offer.baseUrl = .ok ()
  key : checkKey c.provider offer.apiKey environment = .ok c.apiKey
  baseKept : c.baseUrl = offer.baseUrl

variable {offer : Offer} {environment : Text → Option Text} {c : Config}

theorem checkRounds_eq_ok {v : Value} {limit : RoundLimit} (h : checkRounds v = .ok limit) :
    RoundLimit.ofValue? v = .ok (some limit) := by
  obtain ⟨found?, hfound, h⟩ := bind_eq_ok_iff.1 h
  match found? with
  | none => cases h
  | some found =>
    cases h
    exact hfound

theorem checkPolicy_eq_ok {v : Value} {policy : ToolErrorPolicy} (h : checkPolicy v = .ok policy) :
    ToolErrorPolicy.ofValue? v = some policy := by
  unfold checkPolicy at h
  match hfound : ToolErrorPolicy.ofValue? v with
  | none => simp [hfound] at h
  | some found =>
    simp only [hfound] at h
    cases h
    rfl

/-- The link that runs tools takes the bounds that a configuration was accepted with. -/
theorem Passed.executor (passed : Passed offer environment c) (registry : Registry) :
    Executor.make? registry (.bool true) offer.maxToolRounds offer.toolErrorPolicy =
      .ok { registry, auto := true, limit := c.maxToolRounds, policy := c.toolErrorPolicy } := by
  unfold Executor.make?
  rw [checkRounds_eq_ok passed.rounds, ok_bind]
  simp only [checkPolicy_eq_ok passed.policy]
  rfl

/-! ## Keys -/

end Config

/-- Whether a base can be extended does not depend on the path that is put behind it. -/
theorem resolveEndpoint_of_ok {base : Value} {path address : Text}
    (h : resolveEndpoint base path = .ok address) (other : Text) :
    ∃ address, resolveEndpoint base other = .ok address := by
  unfold resolveEndpoint at h ⊢
  split at h
  case h_2 => cases h
  case h_1 text =>
    split at h
    case h_1 => cases h
    case h_2 url parsed =>
      split at h
      case isFalse => cases h
      case isTrue scheme =>
        obtain ⟨host, read, h⟩ := bind_eq_ok_iff.1 h
        obtain ⟨inhabited, _⟩ := guard_eq_ok_iff.1 h
        simp only [if_pos scheme]
        exact ⟨_, bind_eq_ok_iff.2 ⟨host, read, guard_eq_ok_iff.2 ⟨inhabited, rfl⟩⟩⟩

/-- Every backend can be asked at its own address. -/
theorem resolveEndpoint_defaultBase (p : Provider) :
    (resolveEndpoint (.text p.defaultBase) []).isOk = true := by
  cases p <;> decide +kernel

namespace Config

variable {offer : Offer} {environment : Text → Option Text} {c : Config}

/-- The base of a configuration can be extended by any path: it is the one that was checked, or the
one of the backend. -/
theorem Passed.resolves (passed : Passed offer environment c) (path : Text) :
    ∃ address, resolveEndpoint c.backend.base path = .ok address := by
  by_cases given : offer.baseUrl.truthy = true
  · have base : c.backend.base = offer.baseUrl := by
      simp [Backend.base, backend, passed.baseKept, given]
    have present : offer.baseUrl.isNull = false := by
      cases value : offer.baseUrl <;> simp [value, Value.truthy, Value.isNull] at given ⊢
    have checked := passed.base
    unfold checkBase at checked
    rw [present] at checked
    obtain ⟨address, resolved, _⟩ := bind_eq_ok_iff.1 checked
    rw [base]
    exact resolveEndpoint_of_ok resolved path
  · have base : c.backend.base = .text c.provider.defaultBase := by
      simp [Backend.base, backend, passed.baseKept, given]
    obtain ⟨address, resolved⟩ := exists_of_isOk (resolveEndpoint_defaultBase c.provider)
    rw [base]
    exact resolveEndpoint_of_ok resolved path

end Config

end Colloquy
