import ClusterAccess.Proofs.Pool.Likeness

/-!
# The prescribed way

The settings prescribe how connections are made: through the proxy with the wide limits, or directly
with the narrow ones. A pool that is compared with itself shows that no other way is ever taken, and
that services keep what they guard as long as they are asked for connections in this way only.

## Main definitions

* `Settings.Prescribes`: the dialer and the limits that settings prescribe.
* `Services.Guards`: services that keep a property of worlds and of connections.

## Main statements

* `PoolConfig.play_guarded`: what the services guard holds after everything that is played.
* `PoolConfig.play_prescribed`: every connection is asked for in the prescribed way.
-/
namespace ClusterAccess

variable {σ C : Type}

/-- The dialer and the limits that settings prescribe. -/
inductive Settings.Prescribes (s : Settings) : Option ProxyDialer → ConnectOptions → Prop
  | direct (disabled : s.proxy.host = "" ∨ s.proxy.port = 0) :
    Prescribes s none
      { maxPoolSize := s.pool.maxPoolSize
        maxIdle := .ofSeconds s.pool.maxIdleSeconds
        connectTimeout := .ofSeconds s.pool.directConnectSeconds
        selectionTimeout := .ofSeconds s.pool.directSelectionSeconds }
  | proxied {credentials : Option (String × Secret)}
      (enabled : s.proxy.host ≠ "" ∧ s.proxy.port ≠ 0)
      (valid : s.proxy.credentials = .ok credentials) :
    Prescribes s (some { address := s.proxy.address, credentials })
      { maxPoolSize := s.pool.maxPoolSize
        maxIdle := .ofSeconds s.pool.maxIdleSeconds
        connectTimeout := .ofSeconds s.pool.proxiedConnectSeconds
        selectionTimeout := .ofSeconds s.pool.proxiedSelectionSeconds }

theorem ProxySettings.isEnabled_iff {s : ProxySettings} :
    s.isEnabled = true ↔ s.host ≠ "" ∧ s.port ≠ 0 := by
  simp [isEnabled]

/-- Services that keep worlds good and hand over sound connections, as long as they are asked for
connections in the prescribed way and use sound ones only. -/
structure Services.Guards (s : Services σ C) (settings : Settings) (good : σ → Prop)
    (sound : C → Prop) : Prop where
  password (policy : PasswordPolicy) {w : σ} (h : good w) : good (s.password policy w).2
  identifier (length : Nat) {w : σ} (h : good w) : good (s.identifier length w).2
  createAccount (project : String) (q : AccountRequest) {w : σ} (h : good w) :
    good (s.createAccount project q w).2
  clusterInfo (project cluster : String) {w : σ} (h : good w) :
    good (s.clusterInfo project cluster w).2
  connect (t : Target) {d : Option ProxyDialer} {o : ConnectOptions} {w : σ}
    (way : settings.Prescribes d o) (h : good w) :
    good (s.connect t d o w).2 ∧
      ∀ delay c, (s.connect t d o w).1 = .after delay (.ok c) → sound c
  ping {c : C} {w : σ} (connection : sound c) (h : good w) : good (s.ping c w).2
  disconnect {c : C} {w : σ} (connection : sound c) (h : good w) : good (s.disconnect c w).2

/-- Everything is the same, in a world that is good. -/
def Settings.guarded (settings : Settings) (good : σ → Prop) (sound : C → Prop) :
    Likeness σ C σ C where
  secret := Eq
  world w w' := w = w' ∧ good w
  connection c c' := c = c' ∧ sound c
  way x y := x = y ∧ settings.Prescribes x.1 x.2

namespace Services.Guards

variable {s : Services σ C} {settings : Settings} {good : σ → Prop} {sound : C → Prop}

theorem alike (h : s.Guards settings good sound) : s.Alike (settings.guarded good sound) s where
  password policy w w' worlds := by
    obtain ⟨rfl, start⟩ := worlds
    exact ⟨.refl _, rfl, h.password policy start⟩
  identifier length w w' worlds := by
    obtain ⟨rfl, start⟩ := worlds
    exact ⟨rfl, rfl, h.identifier length start⟩
  clock worlds := by rw [worlds.1]
  createAccount project q q' w w' request worlds := by
    obtain ⟨rfl, start⟩ := worlds
    obtain rfl := AccountRequest.Alike.eq id request
    exact ⟨rfl, rfl, h.createAccount project q start⟩
  clusterInfo project cluster w w' worlds := by
    obtain ⟨rfl, start⟩ := worlds
    exact ⟨rfl, rfl, h.clusterInfo project cluster start⟩
  connect {t t' d d' o o' w w'} target way worlds := by
    obtain ⟨rfl, start⟩ := worlds
    obtain rfl := Target.Alike.eq id target
    obtain ⟨same, prescribed⟩ := way
    obtain ⟨rfl, rfl⟩ := Prod.mk.inj same
    obtain ⟨kept, opened⟩ := h.connect t prescribed start
    refine ⟨?_, rfl, kept⟩
    rcases hr : (s.connect t d o w).1 with _ | ⟨delay, e | c⟩
    · exact .never
    · exact .after delay (.failed e)
    · exact .after delay (.ok ⟨rfl, opened delay c hr⟩)
  ping connection worlds := by
    obtain ⟨rfl, start⟩ := worlds
    obtain ⟨rfl, connection⟩ := connection
    exact ⟨rfl, rfl, h.ping connection start⟩
  disconnect connection worlds := by
    obtain ⟨rfl, start⟩ := worlds
    obtain ⟨rfl, connection⟩ := connection
    exact ⟨rfl, rfl, h.disconnect connection start⟩

end Services.Guards

namespace PoolConfig

variable {p : PoolConfig σ C} {good : σ → Prop} {sound : C → Prop}

theorem dialer_prescribed {key : ClusterKey} {d : Option ProxyDialer} (h : p.dialer key = .ok d) :
    p.settings.Prescribes d (p.options d) := by
  have found : p.settings.proxy.dialer = .ok d := by
    unfold PoolConfig.dialer at h
    split at h
    next found => rw [found, Except.ok.inj h]
    next => cases h
  by_cases enabled : p.settings.proxy.isEnabled = true
  · rw [ProxySettings.dialer, if_pos enabled] at found
    cases valid : p.settings.proxy.credentials with
    | error e => simp [valid] at found
    | ok credentials =>
      obtain rfl : some _ = d := by simpa [valid] using found
      exact .proxied (ProxySettings.isEnabled_iff.mp enabled) valid
  · rw [ProxySettings.dialer, if_neg enabled] at found
    obtain rfl : none = d := by simpa using found
    rw [ProxySettings.isEnabled_iff, not_and_or, not_not, not_not] at enabled
    exact .direct enabled

theorem alike_guarded (h : p.services.Guards p.settings good sound) :
    p.Alike (p.settings.guarded good sound) p :=
  alike_of_settings h.alike rfl rfl fun _ _ dialer => ⟨rfl, dialer_prescribed dialer⟩

/-- What the services guard holds after everything that is played. -/
theorem play_guarded (h : p.services.Guards p.settings good sound) {w : σ} (start : good w)
    (instructions : List Instruction) :
    good (p.play instructions (.start w)).2.run.world ∧
      ∀ time t d o, (time, Call.connect t d o) ∈ (p.play instructions (.start w)).2.run.calls →
        p.settings.Prescribes d o := by
  have runs := ((alike_guarded h).play instructions (PoolState.Alike.start ⟨rfl, start⟩)).2.run
  refine ⟨runs.world.2, fun time t d o mem => ?_⟩
  obtain ⟨-, call⟩ := List.forall₂_same.mp runs.calls _ mem
  cases call with
  | connect _ way => exact way.2

/-- Every connection is asked for in the prescribed way, whatever the services do. -/
theorem play_prescribed (p : PoolConfig σ C) (w : σ) (instructions : List Instruction) {time : Nat}
    {t : Target} {d : Option ProxyDialer} {o : ConnectOptions}
    (call : (time, Call.connect t d o) ∈ (p.play instructions (.start w)).2.run.calls) :
    p.settings.Prescribes d o := by
  have guards : p.services.Guards p.settings (fun _ => True) fun _ => True := by
    constructor <;> simp
  exact (play_guarded guards trivial instructions).2 time t d o call

end PoolConfig
end ClusterAccess
