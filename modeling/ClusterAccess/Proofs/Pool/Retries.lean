import ClusterAccess.Proofs.Pool.History
import Mathlib.Algebra.GroupWithZero.Nat

/-!
# The attempts of a call, one by one

What becomes of a call that nothing cancels, for services that answer every attempt. The first
attempt that succeeds, or that fails for good, decides; if there is none among those allowed, the
last failure is told.

## Main definitions

* `Trial`: how the services answer one attempt, and how long they take.
* `Services.Follows`: the services answer the attempts as a list of trials says, until one decides.
* `Spent`: the dials and waits that a part of a run makes, and the time it takes.

## Main statements

* `PoolConfig.tryConnect_plays`: one attempt follows its trial.
* `PoolConfig.retry_follows`: attempts that decide nothing are made one after the other.
* `PoolConfig.retry_decided`, `PoolConfig.retry_undecided`: how all attempts end.
* `PoolConfig.connect_exact`: the outcome of a call, its dials, its waits and its time.
-/
namespace ClusterAccess

open Time

variable {σ C : Type}

/-- The answers of the services to one attempt, with the delays of the dial, of the test and of the
disconnect. -/
inductive Trial (C : Type) where
  | undialed (dial : Nat) (error : AccessError)
  | failed (dial ping disconnect : Nat) (c : C) (error : AccessError)
      (result : Except AccessError Unit)
  | passed (dial ping : Nat) (c : C)

namespace Trial

def duration : Trial C → Nat
  | undialed dial _ => dial
  | failed dial ping disconnect _ _ _ => dial + ping + disconnect
  | passed dial ping _ => dial + ping

/-- What the services fail with, if they do. -/
def error? : Trial C → Option AccessError
  | undialed _ e => some e
  | failed _ _ _ _ e _ => some e
  | passed .. => none

/-- Whether the attempt is the last one: it succeeds, or it fails because it is cancelled or because
what it needs is not supported. -/
def isDecisive (t : Trial C) : Bool :=
  match t.error? with
  | none => true
  | some .cancelled => true
  | some (.unsupported _) => true
  | some _ => false

theorem isFinal_of_error? {t : Trial C} {e : AccessError} (h : t.error? = some e) :
    PoolConfig.isFinal e = t.isDecisive := by
  rw [isDecisive, h]
  cases e <;> rfl

/-- What a decisive attempt comes to. -/
def result : Trial C → Outcome C
  | undialed _ e => .failed e
  | failed _ _ _ _ e _ => .failed e
  | passed _ _ c => .ok c

/-- What a decisive attempt makes of a call and of the pool. -/
def verdict (key : ClusterKey) (credential : Credential) (pool : Pool C) :
    Trial C → Outcome (Credential × C) × Pool C
  | undialed _ e => (.failed e, pool)
  | failed _ _ _ _ e _ => (.failed e, pool)
  | passed _ _ c =>
    (.ok (credential, c), { pool with connections := pool.connections ++ [(key, c)] })

/-- What an attempt fails with that is not the last one. -/
def complaint (key : ClusterKey) (attempt : Nat) : Trial C → AccessError
  | undialed _ e => .dial key.project key.cluster attempt e.message
  | failed _ _ _ _ e _ => .ping key.project key.cluster attempt e.message
  | passed .. => .cancelled

/-- What an attempt comes to. -/
def outcome (key : ClusterKey) (attempt : Nat) : Trial C → Outcome C
  | undialed _ e => .failed (PoolConfig.attemptError (.dial key.project key.cluster attempt) e)
  | failed _ _ _ _ e _ =>
    .failed (PoolConfig.attemptError (.ping key.project key.cluster attempt) e)
  | passed _ _ c => .ok c

/-- An attempt that is not the last one fails with its complaint. -/
theorem outcome_of_undecided {t : Trial C} (h : t.isDecisive = false) (key : ClusterKey)
    (attempt : Nat) : t.outcome key attempt = .failed (t.complaint key attempt) := by
  cases t with
  | undialed d e =>
    have retryable : PoolConfig.isFinal e = false := (isFinal_of_error? rfl).trans h
    simp [outcome, PoolConfig.attemptError, complaint, retryable]
  | failed d₁ d₂ d₃ c e x =>
    have retryable : PoolConfig.isFinal e = false := (isFinal_of_error? rfl).trans h
    simp [outcome, PoolConfig.attemptError, complaint, retryable]
  | passed => cases h

theorem complaint_retryable {t : Trial C} (h : t.isDecisive = false) (key : ClusterKey)
    (attempt : Nat) : PoolConfig.isFinal (t.complaint key attempt) = false := by
  cases t with
  | undialed => rfl
  | failed => rfl
  | passed => cases h

/-- A decisive attempt is told as it is. -/
theorem outcome_of_decisive {t : Trial C} (h : t.isDecisive = true) (key : ClusterKey)
    (attempt : Nat) :
    t.outcome key attempt = t.result ∧ ∀ e, t.result = .failed e → PoolConfig.isFinal e = true := by
  cases t with
  | undialed d e =>
    have final : PoolConfig.isFinal e = true := (isFinal_of_error? rfl).trans h
    exact ⟨by simp [outcome, PoolConfig.attemptError, final, result], by rintro _ ⟨⟩; exact final⟩
  | failed d₁ d₂ d₃ c e x =>
    have final : PoolConfig.isFinal e = true := (isFinal_of_error? rfl).trans h
    exact ⟨by simp [outcome, PoolConfig.attemptError, final, result], by rintro _ ⟨⟩; exact final⟩
  | passed d₁ d₂ c => exact ⟨rfl, nofun⟩

end Trial

namespace Services

variable (s : Services σ C) (target : Target) (dialer : Option ProxyDialer)
  (options : ConnectOptions)

/-- The services answer an attempt as the trial says, which takes them from one world to another. -/
inductive Plays : Trial C → σ → σ → Prop
  | undialed {d : Nat} {e : AccessError} {w w' : σ}
      (dial : s.connect target dialer options w = (.after d (.error e), w')) :
      Plays (.undialed d e) w w'
  | failed {d₁ d₂ d₃ : Nat} {c : C} {e : AccessError} {x : Except AccessError Unit}
      {w w₁ w₂ w' : σ} (dial : s.connect target dialer options w = (.after d₁ (.ok c), w₁))
      (ping : s.ping c w₁ = (.after d₂ (.error e), w₂))
      (disconnect : s.disconnect c w₂ = (.after d₃ x, w')) :
      Plays (.failed d₁ d₂ d₃ c e x) w w'
  | passed {d₁ d₂ : Nat} {c : C} {w w₁ w' : σ}
      (dial : s.connect target dialer options w = (.after d₁ (.ok c), w₁))
      (ping : s.ping c w₁ = (.after d₂ (.ok ()), w')) : Plays (.passed d₁ d₂ c) w w'

/-- The services answer one attempt after the other as the trials say, until one decides. -/
def Follows : List (Trial C) → σ → Prop
  | [], _ => True
  | t :: rest, w =>
    ∃ w', s.Plays target dialer options t w w' ∧ (t.isDecisive = false → Follows rest w')

end Services

/-- From `r` to `r'` the target is dialed so many times, there is a wait after each attempt of
`waits`, and `time` passes. -/
structure Spent (target : Target) (dials : Nat) (waits : List Nat) (time : Nat) (r r' : Run σ C) :
    Prop where
  lookedUp : r'.lookedUp = r.lookedUp
  dials : r'.dials = r.dials ++ List.replicate dials (r.lookedUp, target)
  waits : r'.retryWaits = r.retryWaits ++ waits
  now : r'.now = r.now + time

namespace Spent

variable {target : Target} {dials dials' time time' : Nat} {waits waits' : List Nat}
  {r r₁ r' : Run σ C}

theorem refl (target : Target) (r : Run σ C) : Spent target 0 [] 0 r r :=
  ⟨rfl, by simp, by simp, rfl⟩

theorem trans (h : Spent target dials waits time r r₁)
    (h' : Spent target dials' waits' time' r₁ r') :
    Spent target (dials + dials') (waits ++ waits') (time + time') r r' where
  lookedUp := h'.lookedUp.trans h.lookedUp
  dials := by
    rw [h'.dials, h.dials, h.lookedUp, List.append_assoc, List.replicate_append_replicate]
  waits := by rw [h'.waits, h.waits, List.append_assoc]
  now := by rw [h'.now, h.now, Nat.add_assoc]

theorem dial (r : Run σ C) (target : Target) (dialer : Option ProxyDialer)
    (options : ConnectOptions) (w : σ) (d : Nat) :
    Spent target 1 [] d r ((r.begun (.connect target dialer options) w).atTime (r.now + d)) :=
  ⟨by simp [Run.lookedUp, Call.follow], by simp [Run.dials, Run.lookedUp, Call.follow], by simp,
    rfl⟩

/-- A call that neither dials nor looks a cluster up only takes time. -/
theorem call (r : Run σ C) {call : Call C} (hc : call.follow r.followed = r.followed) (w : σ)
    (d : Nat) : Spent target 0 [] d r ((r.begun call w).atTime (r.now + d)) :=
  ⟨by simp [Run.lookedUp, hc], by simp [Run.dials, hc], by simp, rfl⟩

theorem note (h : Spent target dials waits time r r') (e : Event C) (he : e.retryWait? = none) :
    Spent target dials waits time r (r'.note e) :=
  ⟨h.lookedUp, h.dials, by simp [he, h.waits], h.now⟩

/-- A wait after an attempt is noted, and one before the first is not. -/
theorem wait (r : Run σ C) (target : Target) (attempt d : Nat) :
    Spent target 0 (if attempt = 0 then [] else [attempt]) d r
      ((r.note (.wait attempt)).atTime (r.now + d)) :=
  ⟨rfl, by simp [Run.dials], by by_cases h : attempt = 0 <;> simp [Event.retryWait?, h], rfl⟩

end Spent

namespace PoolConfig

variable (p : PoolConfig σ C) {key : ClusterKey} {target : Target} {dialer : Option ProxyDialer}
  {options : ConnectOptions} {r : Run σ C}

/-- A wait that nothing cancels. -/
theorem wait_uncancelled (attempt : Nat) :
    p.wait none attempt r =
      (.ok (), (r.note (.wait attempt)).atTime
        (r.now + (p.delay.delay attempt).milliseconds)) := by
  rw [wait_eq]
  unfold RetryDelay.wait
  by_cases h : (p.delay.delay attempt).milliseconds = 0
  · simp [h]
  · simp [h, waitCancellable]

/-- One attempt follows its trial. -/
theorem tryConnect_plays (key : ClusterKey) {t : Trial C} {w : σ}
    (h : p.services.Plays target dialer options t r.world w) (attempt : Nat) :
    ∃ r', p.tryConnect none key target dialer options attempt r = (t.outcome key attempt, r') ∧
      r'.world = w ∧ Spent target 1 [] t.duration r r' := by
  unfold tryConnect discard Services.askConnect Services.askPing Services.askDisconnect
  cases h with
  | @undialed d e _ _ dial =>
    refine ⟨_, by simp only [Task.await_ask_of_after dial, Outcome.ofExcept]; rfl, rfl, ?_⟩
    exact (Spent.dial r target dialer options w d).note _ rfl
  | @failed d₁ d₂ d₃ c e x _ w₁ w₂ _ dial ping disconnect =>
    let r₁ := ((r.begun (.connect target dialer options) w₁).atTime (r.now + d₁)).note
      (.dialed key target (.ok c))
    let r₂ := ((r₁.begun (.ping c) w₂).atTime (r₁.now + d₂)).note (.pinged c (.error e))
    let r₃ := ((r₂.begun (.disconnect c) w).atTime (r₂.now + d₃)).note (.disconnected c x)
    have dialed : Spent target 1 [] d₁ r r₁ :=
      (Spent.dial r target dialer options w₁ d₁).note _ rfl
    have pinged : Spent target 0 [] d₂ r₁ r₂ := (Spent.call r₁ rfl w₂ d₂).note _ rfl
    have gone : Spent target 0 [] d₃ r₂ r₃ := (Spent.call r₂ rfl w d₃).note _ rfl
    refine ⟨r₃, ?_, rfl, (dialed.trans pinged).trans gone⟩
    simp only [Task.await_ask_of_after dial, Outcome.ofExcept]
    rw [Task.await_ask_of_after (r := r₁) ping]
    simp only [Outcome.ofExcept]
    rw [Task.await_ask_of_after (r := r₂) disconnect]
    cases x <;> rfl
  | @passed d₁ d₂ c _ w₁ _ dial ping =>
    let r₁ := ((r.begun (.connect target dialer options) w₁).atTime (r.now + d₁)).note
      (.dialed key target (.ok c))
    let r₂ := ((r₁.begun (.ping c) w).atTime (r₁.now + d₂)).note (.pinged c (.ok ()))
    have dialed : Spent target 1 [] d₁ r r₁ :=
      (Spent.dial r target dialer options w₁ d₁).note _ rfl
    have pinged : Spent target 0 [] d₂ r₁ r₂ := (Spent.call r₁ rfl w d₂).note _ rfl
    refine ⟨r₂, ?_, rfl, dialed.trans pinged⟩
    simp only [Task.await_ask_of_after dial, Outcome.ofExcept]
    rw [Task.await_ask_of_after (r := r₁) ping]
    rfl

/-- Attempts that decide nothing are made one after the other, each with a wait after it. -/
theorem retry_follows (key : ClusterKey) {before rest : List (Trial C)} {left : Nat}
    (last : AccessError)
    (enough : before.length ≤ left) (most : left ≤ p.maxAttempts)
    (undecided : ∀ t ∈ before, t.isDecisive = false)
    (follows : p.services.Follows target dialer options (before ++ rest) r.world) :
    ∃ last' r', p.retry none key target dialer options left last r =
        p.retry none key target dialer options (left - before.length) last' r' ∧
      (before = [] → last' = last) ∧
      (∀ t, before.getLast? = some t →
        last' = t.complaint key (p.maxAttempts - left + before.length)) ∧
      p.services.Follows target dialer options rest r'.world ∧
      Spent target before.length (List.range' (p.maxAttempts - left + 1) before.length)
        ((before.map Trial.duration).sum + before.length * p.delay.retry.milliseconds) r r' := by
  induction before generalizing left last r with
  | nil => exact ⟨last, r, rfl, fun _ => rfl, nofun, follows, by simpa using Spent.refl target r⟩
  | cons t before ih =>
    obtain ⟨left, rfl⟩ : ∃ n, left = n + 1 := ⟨left - 1, by simp at enough; omega⟩
    have enough : before.length ≤ left := by simpa using enough
    have most : left < p.maxAttempts := most
    have ht : t.isDecisive = false := undecided t List.mem_cons_self
    obtain ⟨w, plays, go⟩ := follows
    obtain ⟨r₁, tried, rfl, spent⟩ := p.tryConnect_plays key plays (p.maxAttempts - left)
    rw [Trial.outcome_of_undecided ht] at tried
    -- The wait after this attempt comes before the attempts of `before`.
    let r₂ := (r₁.note (.wait (p.maxAttempts - left))).atTime
      (r₁.now + p.delay.retry.milliseconds)
    have late : p.maxAttempts - left ≠ 0 := by omega
    have waits : p.wait none (p.maxAttempts - left) r₁ = (.ok (), r₂) := by
      rw [wait_uncancelled, RetryDelay.delay, if_neg late]
    have waited := Spent.wait r₁ target (p.maxAttempts - left) p.delay.retry.milliseconds
    rw [if_neg late] at waited
    obtain ⟨last', r', hr, first, final, follows', spent'⟩ :=
      ih (r := r₂) (t.complaint key (p.maxAttempts - left)) enough (Nat.le_of_lt most)
        (fun u hu => undecided u (List.mem_cons_of_mem _ hu)) (go ht)
    have number : p.maxAttempts - (left + 1) + 1 = p.maxAttempts - left := by omega
    refine ⟨last', r', ?_, nofun, ?_, follows', ?_⟩
    · simp only [retry, tried, Trial.complaint_retryable ht, waits, Bool.false_eq_true, if_false]
      rw [hr, List.length_cons, Nat.add_sub_add_right]
    · intro u hu
      have steps : p.maxAttempts - (left + 1) + (t :: before).length =
          p.maxAttempts - left + before.length := by
        rw [List.length_cons]
        omega
      rw [steps]
      rcases before.eq_nil_or_concat with rfl | ⟨front, v, rfl⟩
      · obtain rfl : t = u := by simpa using hu
        exact first rfl
      · exact final u (by simpa [List.getLast?_cons] using hu)
    · have total := (spent.trans waited).trans spent'
      rw [number, List.length_cons, List.range'_succ, List.map_cons, List.sum_cons, Nat.succ_mul]
      have dials : 1 + 0 + before.length = before.length + 1 := by omega
      have time : t.duration + p.delay.retry.milliseconds +
          ((before.map Trial.duration).sum + before.length * p.delay.retry.milliseconds) =
          t.duration + (before.map Trial.duration).sum +
            (before.length * p.delay.retry.milliseconds + p.delay.retry.milliseconds) := by omega
      rw [dials, time] at total
      exact total

/-- The first decisive attempt ends the attempts, if it is among those allowed. -/
theorem retry_decided (key : ClusterKey) {before after : List (Trial C)} {t : Trial C}
    (last : AccessError) (few : before.length < p.maxAttempts)
    (undecided : ∀ u ∈ before, u.isDecisive = false) (decisive : t.isDecisive = true)
    (follows : p.services.Follows target dialer options (before ++ t :: after) r.world) :
    ∃ r', p.retry none key target dialer options p.maxAttempts last r = (t.result, r') ∧
      Spent target (before.length + 1) (List.range' 1 before.length)
        ((before.map Trial.duration).sum + t.duration +
          before.length * p.delay.retry.milliseconds) r r' := by
  obtain ⟨last', r₁, again, -, -, ⟨w, plays, -⟩, spent⟩ :=
    p.retry_follows key last (Nat.le_of_lt few) (Nat.le_refl _) undecided follows
  obtain ⟨left, more⟩ : ∃ left, p.maxAttempts - before.length = left + 1 :=
    ⟨p.maxAttempts - before.length - 1, by omega⟩
  obtain ⟨r', tried, -, spent'⟩ := p.tryConnect_plays key plays (p.maxAttempts - left)
  obtain ⟨told, final⟩ := Trial.outcome_of_decisive decisive key (p.maxAttempts - left)
  refine ⟨r', ?_, ?_⟩
  · rw [again, more]
    simp only [retry, tried, told]
    split
    next e r₂ h =>
      obtain ⟨failed, rfl⟩ := Prod.mk.inj h
      rw [if_pos (final e failed), failed]
    next => rfl
  · have total := spent.trans spent'
    rw [Nat.sub_self, List.append_nil] at total
    have time : (before.map Trial.duration).sum + before.length * p.delay.retry.milliseconds +
        t.duration = (before.map Trial.duration).sum + t.duration +
          before.length * p.delay.retry.milliseconds := by omega
    rwa [time] at total

/-- If no attempt decides, all that are allowed are made, and the last failure is told. -/
theorem retry_undecided (key : ClusterKey) {before after : List (Trial C)} {t : Trial C}
    (last : AccessError) (all : before.length + 1 = p.maxAttempts)
    (undecided : ∀ u ∈ before, u.isDecisive = false) (undecided' : t.isDecisive = false)
    (follows : p.services.Follows target dialer options (before ++ t :: after) r.world) :
    ∃ r', p.retry none key target dialer options p.maxAttempts last r =
        (.failed (.connectExhausted key.project key.cluster p.maxAttempts
          (t.complaint key p.maxAttempts)), r') ∧
      Spent target p.maxAttempts (List.range' 1 p.maxAttempts)
        ((before.map Trial.duration).sum + t.duration +
          p.maxAttempts * p.delay.retry.milliseconds) r r' := by
  have length : (before ++ [t]).length = p.maxAttempts := by simpa using all
  have none : ∀ u ∈ before ++ [t], u.isDecisive = false := by
    simpa [or_imp, forall_and] using And.intro undecided undecided'
  rw [List.append_cons] at follows
  obtain ⟨last', r', again, -, final, -, spent⟩ :=
    p.retry_follows key last (Nat.le_of_eq length) (Nat.le_refl _) none follows
  have told := final t (by simp)
  rw [Nat.sub_self, length, Nat.zero_add] at told
  rw [Nat.sub_self, length, List.map_append, List.sum_append, List.map_singleton,
    List.sum_singleton] at spent
  refine ⟨r', ?_, spent⟩
  rw [again, length, Nat.sub_self, told]
  rfl

/-! ## Whole calls -/

/-- Getting a credential neither dials nor waits, and it leaves the connections alone. -/
theorem credential_quiet {project : String} {pool pool' : Pool C} {r' : Run σ C}
    {o : Outcome Credential} (h : p.credential none project pool r = (o, pool', r')) :
    r'.dials = r.dials ∧ r'.retryWaits = r.retryWaits ∧ pool'.connections = pool.connections := by
  have provision {o : Outcome Credential} {r' : Run σ C}
      (h : Task.await none (p.services.provision p.settings.account project) r = (o, r')) :
      r'.dials = r.dials ∧ r'.retryWaits = r.retryWaits := by
    obtain ⟨reply, started, provisioned, awaited⟩ := p.await_provision h
    have same : started.dials = r.dials ∧ started.retryWaits = r.retryWaits := by
      refine ⟨?_, by rw [Run.retryWaits, provisioned.events_eq]; rfl⟩
      cases provisioned <;> simp [Run.dials, Call.follow]
    cases awaited with
    | late => exact ⟨rfl, rfl⟩
    | cut => exact same
    | answered => exact same
    | silent => exact same
  cases p.credential_credited h with
  | kept => exact ⟨rfl, rfl, rfl⟩
  | made _ h => exact ⟨(provision h).1, (provision h).2, rfl⟩
  | refused _ h => exact ⟨(provision h).1, (provision h).2, rfl⟩

/-- A call for a cluster without a connection, up to its first attempt. -/
theorem connect_of_retry {pool pool₁ : Pool C} {r₁ : Run σ C} {credential : Credential} {d : Nat}
    {info : ClusterInfo} {endpoint : Endpoint} {w : σ} (isOpen : pool.isClosed = false)
    (configured : p.dialer key = .ok dialer) (unpooled : pool.connection? key = none)
    (credited : p.credential none key.project pool r = (.ok credential, pool₁, r₁))
    (found : p.services.clusterInfo key.project key.cluster r₁.world = (.after d (.ok info), w))
    (resolved : Endpoint.resolve key.project key.cluster (.ok info) = .ok endpoint) :
    ∃ r₂ : Run σ C, r₂.world = w ∧ r₂.lookedUp = some key ∧ r₂.dials = r.dials ∧
      r₂.retryWaits = r.retryWaits ∧ r₂.now = r₁.now + p.delay.warmUp.milliseconds + d ∧
      (∀ c r', p.retry none key (.assemble endpoint credential) dialer (p.options dialer)
          p.maxAttempts .cancelled r₂ = (.ok c, r') →
        p.connect none key pool r = (.ok (credential, c), pool₁.putConnection key c, r')) ∧
      ∀ e r', p.retry none key (.assemble endpoint credential) dialer (p.options dialer)
          p.maxAttempts .cancelled r₂ = (.failed e, r') →
        p.connect none key pool r = (.failed e, pool₁, r') := by
  obtain ⟨dials, waits, connections⟩ := p.credential_quiet credited
  have unpooled₁ : pool₁.connection? key = none := by
    rw [Pool.connection?, connections]
    exact unpooled
  let warm := (r₁.note (.wait 0)).atTime (r₁.now + p.delay.warmUp.milliseconds)
  let ready := (warm.begun (.clusterInfo key.project key.cluster) w).atTime (warm.now + d)
  have waited : p.wait none 0 r₁ = (.ok (), warm) := p.wait_uncancelled 0
  have lookedUp : Task.await none (p.askEndpoint key) warm = (.ok endpoint, ready) := by
    have asked : p.askEndpoint key warm =
        (.after d (.ok endpoint), warm.begun (.clusterInfo key.project key.cluster) w) := by
      have reply : p.services.clusterInfo key.project key.cluster warm.world =
          (.after d (.ok info), w) := found
      rw [askEndpoint_eq, reply]
      simp only [Reply.map, Outcome.handle, resolved, Outcome.ofExcept]
    exact Task.await_of_after asked (by simp) rfl
  have opening : p.openConnection none key dialer credential r₁ =
      p.retry none key (.assemble endpoint credential) dialer (p.options dialer) p.maxAttempts
        .cancelled ready := by
    simp only [openConnection, bind, Task.bind, waited, lookedUp]
  refine ⟨ready, rfl, by simp [ready, Run.lookedUp, Call.follow], ?_, ?_, rfl, ?_, ?_⟩
  · rw [← dials]
    simp [ready, warm, Run.dials, Call.follow]
  · rw [← waits]
    simp [ready, warm, Event.retryWait?]
  · intro c r' h
    simp [connect, isOpen, configured, credited, unpooled₁, opening, h]
  · intro e r' h
    simp [connect, isOpen, configured, credited, unpooled₁, opening, h]

/-- A call that nothing cancels, on an open pool, for a cluster without a connection, once there is
a credential and an endpoint. There are as many attempts as the settings say, and at least one. If
one of them decides, the call ends with the first that does, and there was a wait after each attempt
before it. If none does, all are made, each with a wait after it, and the last failure is told. -/
theorem connect_exact {pool pool₁ : Pool C} {r₁ : Run σ C} {credential : Credential} {d : Nat}
    {info : ClusterInfo} {endpoint : Endpoint} {w : σ} {trials : List (Trial C)} {most : Nat}
    (allowed : most = max p.settings.pool.maxAttempts 1)
    (isOpen : pool.isClosed = false) (configured : p.dialer key = .ok dialer)
    (unpooled : pool.connection? key = none)
    (credited : p.credential none key.project pool r = (.ok credential, pool₁, r₁))
    (found : p.services.clusterInfo key.project key.cluster r₁.world = (.after d (.ok info), w))
    (resolved : Endpoint.resolve key.project key.cluster (.ok info) = .ok endpoint)
    (follows :
      p.services.Follows (.assemble endpoint credential) dialer (p.options dialer) trials w) :
    pool₁.connections = pool.connections ∧
    (∀ before t after, trials = before ++ t :: after → before.length < most →
      (∀ u ∈ before, u.isDecisive = false) → t.isDecisive = true →
      ∃ r', p.connect none key pool r =
          ((t.verdict key credential pool₁).1, (t.verdict key credential pool₁).2, r') ∧
        r'.dials = r.dials ++
          List.replicate (before.length + 1) (some key, .assemble endpoint credential) ∧
        r'.retryWaits = r.retryWaits ++ List.range' 1 before.length ∧
        r'.now = r₁.now + p.delay.warmUp.milliseconds + d +
          ((before.map Trial.duration).sum + t.duration +
            before.length * p.delay.retry.milliseconds)) ∧
    ∀ before t after, trials = before ++ t :: after → before.length + 1 = most →
      (∀ u ∈ before, u.isDecisive = false) → t.isDecisive = false →
      ∃ r', p.connect none key pool r =
          (.failed (.connectExhausted key.project key.cluster most (t.complaint key most)),
            pool₁, r') ∧
        r'.dials = r.dials ++ List.replicate most (some key, .assemble endpoint credential) ∧
        r'.retryWaits = r.retryWaits ++ List.range' 1 most ∧
        r'.now = r₁.now + p.delay.warmUp.milliseconds + d +
          ((before.map Trial.duration).sum + t.duration + most * p.delay.retry.milliseconds) := by
  obtain rfl : most = p.maxAttempts := allowed.trans (Nat.max_comm _ 1)
  obtain ⟨-, -, connections⟩ := p.credential_quiet credited
  obtain ⟨r₂, rfl, lookedUp, dials, waits, now, succeeds, fails⟩ :=
    p.connect_of_retry isOpen configured unpooled credited found resolved
  refine ⟨connections, ?_, ?_⟩
  · rintro before t after rfl few undecided decisive
    obtain ⟨r', attempts, spent⟩ := p.retry_decided key .cancelled few undecided decisive follows
    refine ⟨r', ?_, ?_, ?_, ?_⟩
    · cases t with
      | undialed => exact fails _ r' attempts
      | failed => exact fails _ r' attempts
      | passed => exact succeeds _ r' attempts
    · rw [spent.dials, dials, lookedUp]
    · rw [spent.waits, waits]
    · rw [spent.now, now]
  · rintro before t after rfl all undecided undecided'
    obtain ⟨r', attempts, spent⟩ :=
      p.retry_undecided key .cancelled all undecided undecided' follows
    refine ⟨r', fails _ r' attempts, ?_, ?_, ?_⟩
    · rw [spent.dials, dials, lookedUp]
    · rw [spent.waits, waits]
    · rw [spent.now, now]

/-- The first connection fails its test, and the second one passes it. -/
theorem connect_exact_second_attempt :
    ∃ r' credential, shakyRehearsal.pool.connect none ⟨"shop", "orders"⟩ {} { world := {} } =
        (.ok (credential, 2), ⟨[("shop", credential)], [(⟨"shop", "orders"⟩, 2)], false⟩, r') ∧
      r'.dials.length = 2 ∧ r'.retryWaits = [1] := by
  have credited : shakyRehearsal.pool.credential none "shop" {} { world := {} } =
      (.ok _, _, _) := rfl
  have follows (target : Target) (options : ConnectOptions) :
      shakyRehearsal.services.Follows target none options
        [.failed 0 0 0 1 (.driver "no route") (.ok ()), .passed 0 0 2]
        { accounts := 1, lookups := 1 } :=
    ⟨_, .failed rfl rfl rfl, fun _ => ⟨_, .passed rfl rfl, nofun⟩⟩
  have unpooled : ({} : Pool Nat).connection? ⟨"shop", "orders"⟩ = none := rfl
  obtain ⟨-, decided, -⟩ := shakyRehearsal.pool.connect_exact rfl rfl rfl unpooled credited rfl rfl
    (follows _ _)
  obtain ⟨r', call, dials, waits, -⟩ :=
    decided [_] _ [] rfl (by decide) (by simp [Trial.isDecisive, Trial.error?]) rfl
  exact ⟨r', _, call, by rw [dials]; rfl, by rw [waits]; rfl⟩

end PoolConfig
end ClusterAccess
