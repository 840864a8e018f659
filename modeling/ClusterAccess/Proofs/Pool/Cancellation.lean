import ClusterAccess.Proofs.Pool.History

/-!
# Cancelled calls

What a cancellation leaves of a call, wherever it falls. After it nothing is begun but the
disconnect of a connection whose test is over, and the call ends as soon as that disconnect and, at
most, one wait are over.

## Main definitions

* `AddsEarly`: what a part of a run adds to the record, every call but disconnects in time.
* `Services.DisconnectsFinish`: no disconnect lasts for ever.
* `DiscardTime`, `PoolConfig.WaitTime`: how long a call may go on after the cancellation.
* `LateEnd`: what a call can end with that ends after the cancellation.
* `Curtailed`: all of this together.

## Main statements

* `Attempted.curtailed`, `Retried.curtailed`, `Opened.curtailed`: for one attempt, for all attempts
  and for a new connection.
* `PoolConfig.connect_cancelled`: for a whole call.
-/
namespace ClusterAccess

open Time

variable {σ C α : Type}

/-- From `r` to `r'` the record grows by `cs` and `es`, and all calls but disconnects begin before
`t`. -/
structure AddsEarly (t : Nat) (cs : List (Nat × Call C)) (es : List (Nat × Event C))
    (r r' : Run σ C) : Prop where
  calls : r'.calls = r.calls ++ cs
  events : r'.events = r.events ++ es
  early : ∀ c ∈ cs, c.2.disconnect? = none → c.1 < t

namespace AddsEarly

variable {t : Nat} {cs cs' : List (Nat × Call C)} {es es' : List (Nat × Event C)}
  {r r₁ r' : Run σ C}

theorem refl (t : Nat) (r : Run σ C) : AddsEarly t [] [] r r :=
  ⟨by simp, by simp, by simp⟩

theorem trans (h : AddsEarly t cs es r r₁) (h' : AddsEarly t cs' es' r₁ r') :
    AddsEarly t (cs ++ cs') (es ++ es') r r' where
  calls := by rw [h'.calls, h.calls, List.append_assoc]
  events := by rw [h'.events, h.events, List.append_assoc]
  early c mem := (List.mem_append.mp mem).elim (h.early c) (h'.early c)

theorem atTime (h : AddsEarly t cs es r r') (now : Nat) : AddsEarly t cs es r (r'.atTime now) :=
  ⟨h.calls, h.events, h.early⟩

theorem note (h : AddsEarly t cs es r r') (e : Event C) :
    AddsEarly t cs (es ++ [(r'.now, e)]) r (r'.note e) :=
  ⟨h.calls, by simp [h.events], h.early⟩

theorem begun (r : Run σ C) (call : Call C) (w : σ) (h : call.disconnect? = none → r.now < t) :
    AddsEarly t [(r.now, call)] [] r (r.begun call w) :=
  ⟨rfl, by simp, by simpa using h⟩

end AddsEarly

/-! ## Waiting -/

/-- A wait under a cancellation at `t` is over before, or it ends with the cancellation. -/
theorem Awaited.curtailed {t : Nat} {r started r' : Run σ C} {reply : Reply (Outcome α)}
    {o : Outcome α} {cs : List (Nat × Call C)} (h : Awaited (some t) r reply started o r')
    (begun : r.now < t → AddsEarly t cs [] r started) :
    (∃ cs', AddsEarly t cs' [] r r') ∧ o ≠ .stuck ∧
      (r'.now < t ∨ o = .failed .cancelled ∧ r'.now = max t r.now) := by
  cases h with
  | late cancel before =>
    obtain rfl := Option.some.inj cancel
    exact ⟨⟨[], .refl t r⟩, by simp, .inr ⟨rfl, by omega⟩⟩
  | cut cancel after =>
    obtain rfl := Option.some.inj cancel
    exact ⟨⟨cs, (begun after).atTime _⟩, by simp, .inr ⟨rfl, by simp; omega⟩⟩
  | answered _ settled inTime =>
    have ended := inTime t rfl
    exact ⟨⟨cs, (begun (by omega)).atTime _⟩, settled, .inl ended⟩
  | silent cancel => cases cancel

/-- After the cancellation no wait begins. -/
theorem Awaited.late_eq {t : Nat} {r started r' : Run σ C} {reply : Reply (Outcome α)}
    {o : Outcome α} (h : Awaited (some t) r reply started o r') (late : t ≤ r.now) :
    o = .failed .cancelled ∧ r' = r := by
  cases h with
  | late => exact ⟨rfl, rfl⟩
  | cut cancel after =>
    obtain rfl := Option.some.inj cancel
    omega
  | answered _ _ inTime =>
    have ended := inTime t rfl
    omega
  | silent cancel => cases cancel

namespace PoolConfig

variable (p : PoolConfig σ C)

/-- How much longer a call may take for a wait that nothing can cut short. -/
def WaitTime (time : Nat) : Prop :=
  time = 0 ∨ p.delay.cancellable = false ∧
    (time = p.delay.warmUp.milliseconds ∨ time = p.delay.retry.milliseconds)

theorem wait_curtailed {t attempt : Nat} {r r' : Run σ C} {o : Outcome Unit}
    (h : p.wait (some t) attempt r = (o, r')) :
    AddsEarly t [] [(r.now, .wait attempt)] r r' ∧
      ((o = .ok () ∧ (r'.now < t ∨ ∃ w, p.WaitTime w ∧ r'.now = r.now + w)) ∨
        o = .failed .cancelled ∧ r'.now = max t r.now) := by
  rw [wait_eq, Prod.mk.injEq] at h
  obtain ⟨ho, rfl⟩ := h
  refine ⟨((AddsEarly.refl t r).note (.wait attempt)).atTime _, ?_⟩
  have length : (p.delay.delay attempt).milliseconds = p.delay.warmUp.milliseconds ∨
      (p.delay.delay attempt).milliseconds = p.delay.retry.milliseconds := by
    unfold RetryDelay.delay
    split
    · exact .inl rfl
    · exact .inr rfl
  unfold RetryDelay.wait at ho ⊢
  simp only [Option.map_some, Run.atTime_now] at ho ⊢
  by_cases zero : (p.delay.delay attempt).milliseconds = 0
  · simp only [zero, if_true] at ho ⊢
    exact .inl ⟨by simpa using ho.symm, .inr ⟨0, .inl rfl, rfl⟩⟩
  · cases cancellable : p.delay.cancellable with
    | false =>
      simp only [zero, cancellable, if_false, Bool.false_eq_true] at ho ⊢
      exact .inl ⟨by simpa using ho.symm, .inr ⟨_, .inr ⟨cancellable, length⟩, rfl⟩⟩
    | true =>
      simp only [zero, cancellable, if_false, if_true, waitCancellable] at ho ⊢
      by_cases cut : t - r.now ≤ (p.delay.delay attempt).milliseconds
      · simp only [cut, if_true] at ho ⊢
        exact .inr ⟨by simpa using ho.symm, by omega⟩
      · simp only [cut, if_false] at ho ⊢
        exact .inl ⟨by simpa using ho.symm, .inl (by omega)⟩

end PoolConfig

/-! ## Attempts -/

/-- Every disconnect is over at some time. -/
def Services.DisconnectsFinish (s : Services σ C) : Prop :=
  ∀ c world, (s.disconnect c world).1 ≠ .never

/-- The calls end with a disconnect that begins at `t` or before, and it takes that long. -/
def DiscardTime (t : Nat) (cs : List (Nat × Call C)) (es : List (Nat × Event C)) (time : Nat) :
    Prop :=
  time = 0 ∨ ∃ cs' start c x, cs = cs' ++ [(start, .disconnect c)] ∧ start ≤ t ∧
    (start + time, .disconnected c x) ∈ es

/-- A part of a run ends with a test that fails at `t` or before and with giving up its
connection. -/
inductive EndsInDiscard (t : Nat) (cs : List (Nat × Call C)) (es : List (Nat × Event C))
    (now : Nat) (e : AccessError) : Prop
  | mk {cs' : List (Nat × Call C)} {es' : List (Nat × Event C)} {start : Nat} {c : C}
      {x : Except AccessError Unit} (calls : cs = cs' ++ [(start, .disconnect c)])
      (events : es = es' ++ [(start, .pinged c (.error e)), (now, .disconnected c x)])
      (inTime : start ≤ t)

variable {p : PoolConfig σ C} {t : Nat} {key : ClusterKey} {target : Target}
  {dialer : Option ProxyDialer} {options : ConnectOptions} {attempt left : Nat}
  {last : AccessError} {credential : Credential} {pool pool' : Pool C} {r r' : Run σ C}

theorem Task.await_ask_curtailed {call : Call C} {f : σ → Reply (Except AccessError α) × σ}
    {o : Outcome α} (h : Task.await (some t) (Services.ask call f) r = (o, r')) :
    (∃ cs, AddsEarly t cs [] r r') ∧ o ≠ .stuck ∧
      (r'.now < t ∨ o = .failed .cancelled ∧ r'.now = max t r.now) :=
  (Task.await_ask h).curtailed fun early => .begun r call _ fun _ => early

/-- An attempt is over before the cancellation, or it is cancelled, or the cancellation falls into
giving up its connection. -/
theorem Attempted.curtailed {o : Outcome C} (finishes : p.services.DisconnectsFinish)
    (h : Attempted p (some t) key target dialer options attempt r o r') :
    ∃ cs es d, AddsEarly t cs es r r' ∧ o ≠ .stuck ∧ DiscardTime t cs es d ∧
      r'.now ≤ max t r.now + d ∧
      (r'.now < t ∨ o = .failed .cancelled ∨ ∃ e, EndsInDiscard t cs es r'.now e ∧
        o = .failed (PoolConfig.attemptError (.ping key.project key.cluster attempt) e)) := by
  cases h with
  | @undialed e r₁ dial =>
    obtain ⟨⟨cs, adds⟩, -, ends⟩ := Task.await_ask_curtailed dial
    refine ⟨cs, _, 0, adds.note _, by simp, .inl rfl, ?_, ?_⟩
    · rw [Run.note_now]
      omega
    · rcases ends with early | ⟨cancelled, -⟩
      · exact .inl early
      · cases cancelled
        exact .inr (.inl rfl)
  | @passed c r₁ r₂ dial ping =>
    obtain ⟨⟨cs₁, adds₁⟩, -, ends₁⟩ := Task.await_ask_curtailed dial
    obtain ⟨⟨cs₂, adds₂⟩, -, ends₂⟩ := Task.await_ask_curtailed ping
    have early : r₂.now < t := by simpa using ends₂
    refine ⟨_, _, 0, ((adds₁.note _).trans adds₂).note _, by simp, .inl rfl, ?_, .inl early⟩
    rw [Run.note_now]
    omega
  | @failed c e r₁ r₂ r₃ x dial ping discard =>
    obtain ⟨⟨cs₁, adds₁⟩, -, ends₁⟩ := Task.await_ask_curtailed dial
    obtain ⟨⟨cs₂, adds₂⟩, -, ends₂⟩ := Task.await_ask_curtailed ping
    obtain ⟨d, w, -, given⟩ := Task.await_disconnect discard
    have now : r₃.now = r₂.now + d := congrArg Run.now given
    have early : r₁.now < t := by simpa using ends₁
    have start : r₂.now ≤ t := by
      rw [Run.note_now] at ends₂
      omega
    have adds := ((adds₁.note (.dialed key target (.ok c))).trans adds₂).note (.pinged c (.error e))
    have gone := adds.trans (.begun _ (.disconnect c) w (by simp [Call.disconnect?]))
    have all : AddsEarly t (cs₁ ++ cs₂ ++ [(r₂.now, .disconnect c)])
        ([(r₁.now, .dialed key target (.ok c))] ++
          [(r₂.now, .pinged c (.error e)), (r₃.now, .disconnected c x)]) r
        (r₃.note (.disconnected c x)) := by
      simpa [given] using (gone.atTime (r₂.now + d)).note (.disconnected c x)
    refine ⟨_, _, d, all, by simp, ?_, ?_, .inr (.inr ⟨e, .mk rfl rfl start, rfl⟩)⟩
    · exact .inr ⟨_, r₂.now, c, x, rfl, start, by simp [now]⟩
    · rw [Run.note_now]
      omega
  | silent may =>
    rcases may with never | ⟨c, w, silent⟩
    · cases never
    · exact absurd silent (finishes c w)

/-- After the cancellation an attempt fails at once. -/
theorem Attempted.late_eq {o : Outcome C} (finishes : p.services.DisconnectsFinish)
    (h : Attempted p (some t) key target dialer options attempt r o r') (late : t ≤ r.now) :
    o = .failed .cancelled ∧ (∃ es, AddsEarly t [] es r r') ∧ r'.now = r.now := by
  cases h with
  | undialed dial =>
    obtain ⟨cancelled, rfl⟩ := (Task.await_ask dial).late_eq late
    cases cancelled
    exact ⟨rfl, ⟨_, (AddsEarly.refl t _).note _⟩, rfl⟩
  | passed dial => cases ((Task.await_ask dial).late_eq late).1
  | failed dial => cases ((Task.await_ask dial).late_eq late).1
  | silent may =>
    rcases may with never | ⟨c, w, silent⟩
    · cases never
    · exact absurd silent (finishes c w)

/-! ## Late ends -/

/-- What a call can end with at `now`, when the cancellation at `t` came before: it is cancelled; or
the cancellation fell into what follows the last attempt, giving its connection up and then waiting;
or it fell into giving up a connection that the driver cannot handle. -/
inductive LateEnd (key : ClusterKey) (attempts t : Nat) (cs : List (Nat × Call C))
    (es : List (Nat × Event C)) (now : Nat) : AccessError → Prop
  | cancelled : LateEnd key attempts t cs es now .cancelled
  | exhausted {last : AccessError} {es' : List (Nat × Event C)} {start : Nat}
      (wait : es = es' ++ [(start, .wait attempts)])
      (fell : start ≤ t ∨ t < start ∧ ∃ cs' begun c, cs = cs' ++ [(begun, .disconnect c)] ∧
        begun ≤ t) :
      LateEnd key attempts t cs es now (.connectExhausted key.project key.cluster attempts last)
  | unsupported {m : String} (discard : EndsInDiscard t cs es now (.unsupported m)) :
      LateEnd key attempts t cs es now (.unsupported m)

/-- What a cancellation at `t` leaves of a part of a run. It is over before; or it has a late end,
and then it took no longer than giving up one connection and one wait. -/
structure Curtailed (p : PoolConfig σ C) (key : ClusterKey) (t : Nat) (r : Run σ C) (o : Outcome α)
    (r' : Run σ C) (cs : List (Nat × Call C)) (es : List (Nat × Event C)) (discard wait : Nat) :
    Prop where
  adds : AddsEarly t cs es r r'
  finished : o ≠ .stuck
  ends : r'.now < t ∨ ∃ e, o = .failed e ∧ LateEnd key p.maxAttempts t cs es r'.now e
  discard_time : DiscardTime t cs es discard
  wait_time : p.WaitTime wait
  now_le : r'.now ≤ max t r.now + discard + wait

section

variable {cs cs' : List (Nat × Call C)} {es es' : List (Nat × Event C)} {d w : Nat}
  {r₁ : Run σ C}

theorem DiscardTime.of_last (h : DiscardTime t cs' es' d) (cs : List (Nat × Call C))
    (es : List (Nat × Event C)) : DiscardTime t (cs ++ cs') (es ++ es') d := by
  rcases h with rfl | ⟨cs₁, start, c, x, rfl, inTime, mem⟩
  · exact .inl rfl
  · exact .inr ⟨cs ++ cs₁, start, c, x, by simp, inTime, List.mem_append_right _ mem⟩

/-- Events without a call do not hide the last discard. -/
theorem DiscardTime.append (h : DiscardTime t cs es d) (es' : List (Nat × Event C)) :
    DiscardTime t cs (es ++ es') d := by
  rcases h with rfl | ⟨cs₁, start, c, x, rfl, inTime, mem⟩
  · exact .inl rfl
  · exact .inr ⟨cs₁, start, c, x, rfl, inTime, List.mem_append_left _ mem⟩

theorem EndsInDiscard.of_last {now : Nat} {e : AccessError} (h : EndsInDiscard t cs' es' now e)
    (cs : List (Nat × Call C)) (es : List (Nat × Event C)) :
    EndsInDiscard t (cs ++ cs') (es ++ es') now e := by
  obtain ⟨rfl, rfl, inTime⟩ := h
  exact .mk (List.append_assoc _ _ _).symm (List.append_assoc _ _ _).symm inTime

theorem LateEnd.of_last {attempts now : Nat} {e : AccessError}
    (h : LateEnd key attempts t cs' es' now e) (cs : List (Nat × Call C))
    (es : List (Nat × Event C)) : LateEnd key attempts t (cs ++ cs') (es ++ es') now e := by
  cases h with
  | cancelled => exact .cancelled
  | exhausted wait fell =>
    refine .exhausted (by rw [wait, List.append_assoc]) (fell.imp id ?_)
    rintro ⟨late, cs₁, begun, c, rfl, inTime⟩
    exact ⟨late, cs ++ cs₁, begun, c, (List.append_assoc _ _ _).symm, inTime⟩
  | unsupported discard => exact .unsupported (discard.of_last cs es)

/-- Something before that did not overrun the cancellation. -/
theorem Curtailed.of_last {o : Outcome α} (h : Curtailed p key t r₁ o r' cs' es' d w)
    (first : AddsEarly t cs es r r₁) (early : r₁.now ≤ max t r.now) :
    Curtailed p key t r o r' (cs ++ cs') (es ++ es') d w where
  adds := first.trans h.adds
  finished := h.finished
  ends := h.ends.imp id fun ⟨e, he, late⟩ => ⟨e, he, late.of_last cs es⟩
  discard_time := h.discard_time.of_last cs es
  wait_time := h.wait_time
  now_le := by
    have bound := h.now_le
    omega

/-- A failed wait for a reply is a late end. -/
theorem Curtailed.of_await {o : Outcome α} (adds : AddsEarly t cs [] r r') (finished : o ≠ .stuck)
    (ends : r'.now < t ∨ o = .failed .cancelled ∧ r'.now = max t r.now) :
    Curtailed p key t r o r' cs [] 0 0 where
  adds := adds
  finished := finished
  ends := ends.imp id fun ⟨cancelled, _⟩ => ⟨_, cancelled, .cancelled⟩
  discard_time := .inl rfl
  wait_time := .inl rfl
  now_le := by omega

end

/-- A failed test that ends all attempts is told as it is. -/
theorem PoolConfig.attemptError_ping_final {project cluster : String} {attempt : Nat}
    {e : AccessError} (h : isFinal (attemptError (.ping project cluster attempt) e) = true) :
    attemptError (.ping project cluster attempt) e = e ∧ isFinal e = true := by
  unfold attemptError at h ⊢
  split at h
  next final => exact ⟨if_pos final, final⟩
  next => cases h

/-- After the cancellation no attempt is left. -/
theorem Retried.late_eq {o : Outcome C} (finishes : p.services.DisconnectsFinish)
    (h : Retried p (some t) key target dialer options (left + 1) last r o r') (late : t ≤ r.now) :
    o = .failed .cancelled ∧ (∃ es, AddsEarly t [] es r r') ∧ r'.now = r.now := by
  cases h with
  | ended attempt => exact attempt.late_eq finishes late
  | cancelled attempt retryable =>
    cases (attempt.late_eq finishes late).1
    cases retryable
  | again attempt retryable =>
    cases (attempt.late_eq finishes late).1
    cases retryable

theorem Retried.curtailed {o : Outcome C} (finishes : p.services.DisconnectsFinish)
    (h : Retried p (some t) key target dialer options left last r o r') (attempts : 0 < left) :
    ∃ cs es d w, Curtailed p key t r o r' cs es d w := by
  induction h with
  | exhausted => cases attempts
  | ended attempt final =>
    obtain ⟨cs, es, d, adds, finished, discard, bound, ends⟩ := attempt.curtailed finishes
    refine ⟨cs, es, d, 0, adds, finished, ?_, discard, .inl rfl, bound⟩
    rcases ends with early | rfl | ⟨e, last, rfl⟩
    · exact .inl early
    · exact .inr ⟨_, rfl, .cancelled⟩
    · obtain ⟨told, isFinal⟩ := PoolConfig.attemptError_ping_final (final _ rfl)
      rw [told]
      rcases PoolConfig.isFinal_cases isFinal with rfl | ⟨m, rfl⟩
      · exact .inr ⟨_, rfl, .cancelled⟩
      · exact .inr ⟨_, rfl, .unsupported last⟩
  | cancelled attempt _ wait =>
    obtain ⟨cs, es, d, adds, -, discard, bound, -⟩ := attempt.curtailed finishes
    obtain ⟨waited, ends⟩ := p.wait_curtailed wait
    obtain ⟨-, now⟩ := ends.resolve_left (by simp)
    refine ⟨_, _, d, 0, adds.trans waited, by simp, .inr ⟨_, rfl, .cancelled⟩, ?_, .inl rfl, ?_⟩
    · simpa using discard.append _
    · omega
  | @again left last e r r₁ r₂ r' o attempt retryable wait rest ih =>
    obtain ⟨cs, es, d, adds, -, discard, bound, ends⟩ := attempt.curtailed finishes
    obtain ⟨waited, done⟩ := p.wait_curtailed wait
    obtain ⟨-, now⟩ := done.resolve_right (by simp)
    have all := adds.trans waited
    rw [List.append_nil] at all
    rcases Nat.lt_or_ge r₂.now t with early | late
    · -- The cancellation has not come yet, so the attempts go on.
      have soon : r₂.now ≤ max t r.now := Nat.le_trans (Nat.le_of_lt early) (Nat.le_max_left _ _)
      cases left with
      | zero =>
        cases rest
        exact ⟨_, _, 0, 0, all, by simp, .inl early, .inl rfl, .inl rfl, soon⟩
      | succ left =>
        obtain ⟨cs', es', d', w, curtailed⟩ := ih (Nat.succ_pos left)
        exact ⟨_, _, d', w, curtailed.of_last all soon⟩
    · -- It has come by the end of the wait, so this was the last attempt.
      obtain ⟨w, wait_time, now⟩ := now.resolve_left (by omega)
      cases left with
      | zero =>
        cases rest
        refine ⟨_, _, d, w, all, by simp, .inr ⟨_, rfl, .exhausted rfl ?_⟩, discard.append _,
          wait_time, by omega⟩
        rcases ends with early | cancelled | ⟨e', ⟨calls, -, inTime⟩, -⟩
        · exact .inl (Nat.le_of_lt early)
        · cases cancelled
          cases retryable
        · rcases Nat.lt_or_ge t r₁.now with during | after
          · exact .inr ⟨during, _, _, _, calls, inTime⟩
          · exact .inl after
      | succ left =>
        obtain ⟨rfl, ⟨es', adds'⟩, now'⟩ := rest.late_eq finishes late
        have whole := all.trans adds'
        rw [List.append_nil, List.append_assoc] at whole
        exact ⟨cs, _, d, w, whole, by simp, .inr ⟨_, rfl, .cancelled⟩, discard.append _, wait_time,
          by omega⟩

/-! ## Whole calls -/

theorem PoolConfig.await_askEndpoint_curtailed {o : Outcome Endpoint}
    (h : Task.await (some t) (p.askEndpoint key) r = (o, r')) :
    (∃ cs, AddsEarly t cs [] r r') ∧ o ≠ .stuck ∧
      (r'.now < t ∨ o = .failed .cancelled ∧ r'.now = max t r.now) :=
  (p.await_askEndpoint h).curtailed fun early => .begun r _ _ fun _ => early

theorem PoolConfig.await_provision_curtailed {project : String} {o : Outcome Credential}
    (h : Task.await (some t) (p.services.provision p.settings.account project) r = (o, r')) :
    (∃ cs, AddsEarly t cs [] r r') ∧ o ≠ .stuck ∧
      (r'.now < t ∨ o = .failed .cancelled ∧ r'.now = max t r.now) := by
  obtain ⟨reply, started, provisioned, awaited⟩ := p.await_provision h
  cases provisioned with
  | early => exact awaited.curtailed fun early => .begun r _ _ fun _ => early
  | asked =>
    exact awaited.curtailed fun early =>
      (AddsEarly.begun r _ _ fun _ => early).trans (.begun _ _ _ fun _ => early)

/-- A failure that is passed on ends as late as before. -/
theorem Curtailed.passedOn {α β : Type} {o : Outcome α} {o' : Outcome β}
    {cs : List (Nat × Call C)} {es : List (Nat × Event C)} {d w : Nat}
    (h : Curtailed p key t r o r' cs es d w) (passedOn : o.PassedOn o') :
    Curtailed p key t r o' r' cs es d w where
  adds := h.adds
  finished := mt passedOn.stuck_iff.mpr h.finished
  ends := by
    refine h.ends.imp id ?_
    rintro ⟨e, rfl, late⟩
    cases passedOn
    exact ⟨e, rfl, late⟩
  discard_time := h.discard_time
  wait_time := h.wait_time
  now_le := h.now_le

/-- With a result a task is over before the cancellation. -/
theorem Curtailed.ok_early {a : α} {cs : List (Nat × Call C)} {es : List (Nat × Event C)}
    {d w : Nat} (h : Curtailed p key t r (.ok a) r' cs es d w) : r'.now < t := by
  rcases h.ends with early | ⟨e, failed, -⟩
  · exact early
  · cases failed

theorem Opened.curtailed {o : Outcome C} (finishes : p.services.DisconnectsFinish)
    (h : Opened p (some t) key dialer credential r o r') :
    ∃ cs es d w, Curtailed p key t r o r' cs es d w := by
  cases h with
  | unstarted wait =>
    obtain ⟨waited, ends⟩ := p.wait_curtailed wait
    obtain ⟨-, now⟩ := ends.resolve_left (by simp)
    exact ⟨_, _, 0, 0, waited, by simp, .inr ⟨_, rfl, .cancelled⟩, .inl rfl, .inl rfl, by omega⟩
  | @unresolved r₁ _ o₁ _ wait lookUp passedOn =>
    obtain ⟨waited, done⟩ := p.wait_curtailed wait
    obtain ⟨-, now⟩ := done.resolve_right (by simp)
    obtain ⟨⟨cs, adds⟩, finished, ends⟩ := p.await_askEndpoint_curtailed lookUp
    rcases Nat.lt_or_ge r₁.now t with early | late
    · have soon : r₁.now ≤ max t r.now := Nat.le_trans (Nat.le_of_lt early) (Nat.le_max_left _ _)
      exact ⟨_, _, 0, 0, ((Curtailed.of_await adds finished ends).of_last waited soon).passedOn
        passedOn⟩
    · obtain ⟨w, wait_time, now⟩ := now.resolve_left (by omega)
      obtain ⟨rfl, rfl⟩ := (p.await_askEndpoint lookUp).late_eq late
      cases passedOn
      exact ⟨_, _, 0, w, waited, by simp, .inr ⟨_, rfl, .cancelled⟩, .inl rfl, wait_time, by omega⟩
  | @attempted r₁ r₂ _ endpoint _ wait lookUp attempts =>
    obtain ⟨waited, -⟩ := p.wait_curtailed wait
    obtain ⟨⟨cs, adds⟩, -, ends⟩ := p.await_askEndpoint_curtailed lookUp
    obtain ⟨cs', es', d, w, curtailed⟩ :=
      attempts.curtailed finishes p.maxAttempts_pos
    have early : r₂.now < t := by simpa using ends
    have soon : r₂.now ≤ max t r.now := Nat.le_trans (Nat.le_of_lt early) (Nat.le_max_left _ _)
    exact ⟨_, _, d, w, curtailed.of_last (waited.trans adds) soon⟩

/-- Getting a credential is over before the cancellation, unless there is one already. -/
theorem Credited.curtailed {project : String} {c : Credential}
    (h : Credited p (some t) project pool r (.ok c) pool' r') :
    (pool.credential? project = some c ∧ pool' = pool ∧ r' = r) ∨
      (∃ cs, AddsEarly t cs [] r r') ∧ r'.now < t := by
  cases h with
  | kept present => exact .inl ⟨present, rfl, rfl⟩
  | made _ provision =>
    obtain ⟨adds, -, ends⟩ := p.await_provision_curtailed provision
    exact .inr ⟨adds, by simpa using ends⟩
  | refused _ _ noResult => exact absurd rfl (noResult c)

/-- A call returns the kept connection at once, or it fails at once, or the cancellation curtails
it. -/
theorem Connected.curtailed {o : Outcome (Credential × C)}
    (finishes : p.services.DisconnectsFinish)
    (h : Connected p (some t) key pool r o pool' r') :
    (∃ credential c, o = .ok (credential, c) ∧ pool.connection? key = some c ∧ pool' = pool ∧
        r' = r) ∨
      (∃ e, o = .failed e ∧ (e = .closed ∨ ∃ m, e = .dialer m) ∧ pool' = pool ∧ r' = r) ∨
      ∃ cs es d w, Curtailed p key t r o r' cs es d w := by
  -- A new connection comes on top of getting the credential.
  have opening {c : Credential} {pool₁ : Pool C} {r₁ : Run σ C} {d : Option ProxyDialer}
      {o : Outcome C} (credited : Credited p (some t) key.project pool r (.ok c) pool₁ r₁)
      (opening : Opened p (some t) key d c r₁ o r') :
      ∃ cs es d w, Curtailed p key t r o r' cs es d w := by
    obtain ⟨cs, es, d, w, curtailed⟩ := opening.curtailed finishes
    rcases credited.curtailed with ⟨-, -, rfl⟩ | ⟨⟨cs', adds⟩, early⟩
    · exact ⟨cs, es, d, w, curtailed⟩
    · exact ⟨_, _, d, w, curtailed.of_last adds (by omega)⟩
  cases h with
  | closed => exact .inr (.inl ⟨_, rfl, .inl rfl, rfl, rfl⟩)
  | misconfigured _ dialer =>
    exact .inr (.inl ⟨_, rfl, .inr (p.dialer_error dialer), rfl, rfl⟩)
  | unprovisioned _ _ _ provision passedOn =>
    obtain ⟨⟨cs, adds⟩, finished, ends⟩ := p.await_provision_curtailed provision
    exact .inr (.inr ⟨cs, [], 0, 0, (Curtailed.of_await adds finished ends).passedOn passedOn⟩)
  | hit _ _ credited present =>
    rcases credited.curtailed with ⟨-, rfl, rfl⟩ | ⟨⟨cs, adds⟩, early⟩
    · exact .inl ⟨_, _, rfl, present, rfl, rfl⟩
    · exact .inr (.inr ⟨cs, [], 0, 0, .of_await adds (by simp) (.inl early)⟩)
  | opened _ _ credited _ opened =>
    obtain ⟨cs, es, d, w, curtailed⟩ := opening credited opened
    exact .inr (.inr ⟨cs, es, d, w, curtailed.adds, by simp, .inl curtailed.ok_early,
      curtailed.discard_time, curtailed.wait_time, curtailed.now_le⟩)
  | unopened _ _ credited _ opened passedOn =>
    obtain ⟨cs, es, d, w, curtailed⟩ := opening credited opened
    exact .inr (.inr ⟨cs, es, d, w, curtailed.passedOn passedOn⟩)

/-- A call that is cancelled at `t`, over a driver whose disconnects finish. No account, look-up,
dial or test begins after `t`. The call ends, and not later than `t` or its own beginning but for
giving up one connection and, if it cannot be cut short, one wait. When it ends after `t`, it
returns the kept connection, or it has a late end, or it failed at the beginning. -/
theorem PoolConfig.connect_cancelled {o : Outcome (Credential × C)}
    (finishes : p.services.DisconnectsFinish)
    (h : p.connect (some t) key pool r = (o, pool', r')) :
    ∃ cs es discard wait, r'.calls = r.calls ++ cs ∧ r'.events = r.events ++ es ∧
      (∀ c ∈ cs, c.2.disconnect? = none → c.1 < t) ∧
      o ≠ .stuck ∧ DiscardTime t cs es discard ∧ p.WaitTime wait ∧
      r'.now ≤ max t r.now + discard + wait ∧
      (t ≤ r'.now →
        (∃ credential c, o = .ok (credential, c) ∧ pool.connection? key = some c ∧ pool' = pool ∧
          r' = r) ∨
        ∃ e, o = .failed e ∧ (LateEnd key p.maxAttempts t cs es r'.now e ∨
          (e = .closed ∨ ∃ m, e = .dialer m) ∧ pool' = pool ∧ r' = r)) := by
  rcases (p.connect_connected h).curtailed finishes with hit | ⟨e, rfl, early, rfl, rfl⟩ |
    ⟨cs, es, d, w, curtailed⟩
  · obtain ⟨credential, c, rfl, -, -, rfl⟩ := id hit
    exact ⟨[], [], 0, 0, by simp, by simp, by simp, by simp, .inl rfl, .inl rfl, by omega,
      fun _ => .inl hit⟩
  · exact ⟨[], [], 0, 0, by simp, by simp, by simp, by simp, .inl rfl, .inl rfl, by omega,
      fun _ => .inr ⟨e, rfl, .inr ⟨early, rfl, rfl⟩⟩⟩
  · refine ⟨cs, es, d, w, curtailed.adds.calls, curtailed.adds.events, curtailed.adds.early,
      curtailed.finished, curtailed.discard_time, curtailed.wait_time, curtailed.now_le, ?_⟩
    intro late
    rcases curtailed.ends with early | ⟨e, failed, lateEnd⟩
    · omega
    · exact .inr ⟨e, failed, .inl lateEnd⟩

/-- The first connection fails its test after 5 milliseconds, and giving it up takes 7. -/
def slowRehearsal : Rehearsal :=
  { smoothRehearsal with
    pings := ⟨[("1", { delay := 5, error := some (.driver "no route") })]⟩
    disconnects := ⟨[("*", { delay := 7 })]⟩ }

/-- The cancellation falls into giving the connection up, and the call ends with that. -/
theorem connect_cancelled_in_discard :
    ∃ pool r, slowRehearsal.pool.connect (some 8) ⟨"shop", "orders"⟩ {} { world := {} } =
        (.failed .cancelled, pool, r) ∧ r.now = 12 ∧
      ∃ cs es discard wait, r.calls = cs ∧ DiscardTime 8 cs es discard ∧
        slowRehearsal.pool.WaitTime wait ∧ 12 ≤ 8 + discard + wait := by
  have finishes : slowRehearsal.pool.services.DisconnectsFinish := by
    intro c world
    have cue : slowRehearsal.disconnects.cue (toString c) = { delay := 7 } := by
      simp only [slowRehearsal, Script.cue, List.lookup_cons]
      split <;> rfl
    simp only [Rehearsal.pool, Rehearsal.services, cue]
    simp [Cue.reply]
  have call : slowRehearsal.pool.connect (some 8) ⟨"shop", "orders"⟩ {} { world := {} } =
      (.failed .cancelled, _, _) := rfl
  obtain ⟨cs, es, discard, wait, calls, -, -, -, dt, wt, bound, -⟩ :=
    slowRehearsal.pool.connect_cancelled finishes call
  exact ⟨_, _, call, rfl, cs, es, discard, wait, calls, dt, wt, bound⟩

end ClusterAccess
