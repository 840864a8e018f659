import ClusterAccess.Proofs.Password
import ClusterAccess.Provisioning

/-!
# What valid settings grant

Settings are valid if six constraints hold. They are what the components that use the settings need:
the proxy can be dialed, there is an attempt to make, a password can cover every kind of character,
and the way through the proxy is given more time.

## Main definitions

* `Settings.Valid`: the constraints.

## Main statements

* `Settings.validate_eq_ok_iff`: the check finds out whether all constraints hold.
* `Settings.validate_of_dialer_error`: settings whose proxy cannot be dialed do not pass.
* `PasswordPolicy.generate_covers`: a policy with enough characters is not refused.
* `PasswordPolicy.generate_aborted_iff`: only a policy that no text is long enough for breaks off.
-/
namespace ClusterAccess

/-- The constraints on settings. -/
structure Settings.Valid (s : Settings) : Prop where
  attempts : 1 ≤ s.pool.maxAttempts
  passwordLength : 8 ≤ s.account.passwordLength
  lifetime : 1 ≤ s.account.lifetime
  proxy : ∃ credentials, s.proxy.credentials = .ok credentials
  connect : s.pool.directConnectSeconds < s.pool.proxiedConnectSeconds
  selection : s.pool.directSelectionSeconds < s.pool.proxiedSelectionSeconds

namespace Settings

variable {s : Settings} {e : AccessError}

theorem validate_eq_ok_iff : s.validate = .ok () ↔ s.Valid := by
  constructor
  · intro h
    unfold validate at h
    split at h
    · cases h
    split at h
    · cases h
    split at h
    · cases h
    split at h
    · cases h
    next credentials proxy =>
      split at h
      · cases h
      next narrow =>
        simp only [Bool.or_eq_true, decide_eq_true_eq, not_or, Nat.not_le] at narrow
        exact ⟨by omega, by omega, by omega, ⟨credentials, proxy⟩, narrow.1, narrow.2⟩
  · rintro ⟨attempts, passwordLength, lifetime, ⟨credentials, proxy⟩, connect, selection⟩
    rw [validate, if_neg (by omega), if_neg (by omega), if_neg (by omega), proxy]
    simp [Nat.not_le.mpr connect, Nat.not_le.mpr selection]

/-- A constraint that is broken is always told in the same way. -/
theorem validate_error (h : s.validate = .error e) : ∃ m, e = .invalidSettings m := by
  unfold validate at h
  grind

/-- Settings whose proxy cannot be dialed do not pass. -/
theorem validate_of_dialer_error (h : s.proxy.dialer = .error e) :
    ∃ m, s.validate = .error (.invalidSettings m) := by
  have refused : s.validate ≠ .ok () := by
    intro passed
    obtain ⟨credentials, proxy⟩ := (validate_eq_ok_iff.mp passed).proxy
    rw [ProxySettings.dialer, proxy] at h
    split at h <;> cases h
  cases checked : s.validate with
  | ok done => exact absurd checked refused
  | error e' =>
    obtain ⟨m, rfl⟩ := validate_error checked
    exact ⟨m, rfl⟩

theorem Valid.dialer (h : s.Valid) : ∃ d, s.proxy.dialer = .ok d := by
  obtain ⟨credentials, proxy⟩ := h.proxy
  rw [ProxySettings.dialer, proxy]
  split <;> exact ⟨_, rfl⟩

end Settings

namespace PasswordPolicy

variable {p : PasswordPolicy}

/-- A policy with a character for each kind is not refused. -/
theorem generate_covers (covers : p.classes.length ≤ p.length) (entropy : Entropy) (m : String) :
    (p.generate entropy).1 ≠ .failed (.invalidSettings m) := by
  have tried := (p.generate_generated entropy).tried covers
  intro refused
  rcases found : p.generate entropy with ⟨o, rest⟩
  rw [found] at tried refused
  cases tried with
  | made | unlucky | boundless => cases refused
  | dry _ _ drawn =>
    cases drawn with
    | short => cases refused

/-- No text has 2^63 bytes, and room for a password is made at once. -/
theorem generate_aborted_iff (entropy : Entropy) :
    (p.generate entropy).1 = .aborted ↔ Password.longestText < p.length := by
  have longest : 4 ≤ Password.longestText := by decide
  have kinds : p.classes.length ≤ 4 := by
    unfold classes
    split <;> decide
  by_cases narrow : p.length < p.classes.length
  · rw [generate, if_pos narrow]
    refine iff_of_false nofun ?_
    omega
  · constructor
    · intro broken
      have tried := (p.generate_generated entropy).tried (Nat.le_of_not_lt narrow)
      rcases found : p.generate entropy with ⟨o, rest⟩
      rw [found] at tried broken
      cases tried with
      | boundless long => exact long
      | made | dry | unlucky => cases broken
    · intro long
      rw [generate, if_neg narrow]
      unfold maxRounds attempt Password.text
      rw [if_pos long]

end PasswordPolicy

/-- The passwords of valid settings cover every kind of character. -/
theorem Settings.Valid.covers {s : Settings} (h : s.Valid) :
    s.account.passwordPolicy.classes.length ≤ s.account.passwordPolicy.length := by
  have kinds : s.account.passwordPolicy.classes.length = 4 := rfl
  have long : 8 ≤ s.account.passwordPolicy.length := h.passwordLength
  omega

end ClusterAccess
