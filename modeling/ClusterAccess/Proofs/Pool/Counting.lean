import ClusterAccess.Proofs.Pool.Numbering

/-!
# The numbers of connections

The number of a connection leads to the dial that opened it. That dial came after a look-up of the
cluster for which the connection was opened, and no two connections bear the same number.

## Main definitions

* `Counted`: the numbers agree with the record of the dials.

## Main statements

* `Attempted.counted`: an attempt keeps the numbers right, provided that its cluster was looked up
  last.
* `PoolConfig.NumberedReachable.counted`: the numbers are right after every history.
-/
namespace ClusterAccess

open Time

variable {σ C α : Type}

/-- The world has counted the dials, and each connection was opened by the dial of its number. -/
structure Counted (r : Run (σ × Nat) (Numbered C)) : Prop where
  count : r.world.2 = r.dials.length
  dialed : ∀ key target c, (key, target, c) ∈ r.openings →
    r.dials[c.number]? = some (some key, target)
  increasing : (r.opened.map Numbered.number).Pairwise (· < ·)

namespace Counted

variable {r r' : Run (σ × Nat) (Numbered C)}

theorem start (world : σ) : Counted (PoolState.start (C := Numbered C) (world, 0)).run := by
  refine ⟨rfl, ?_, List.Pairwise.nil⟩
  intro key target c h
  cases h

/-- The number of a connection is below the count. -/
theorem number_lt (h : Counted r) {c : Numbered C} (hc : c ∈ r.opened) :
    c.number < r.dials.length := by
  obtain ⟨⟨key, target, c⟩, mem, rfl⟩ := List.mem_map.mp hc
  obtain ⟨lt, -⟩ := List.getElem?_eq_some_iff.mp (h.dialed key target c mem)
  exact lt

theorem quiet (h : Counted r) (world : r'.world.2 = r.world.2) (dials : r'.dials = r.dials)
    (openings : r'.openings = r.openings) : Counted r' where
  count := by rw [world, dials, h.count]
  dialed := by rw [dials, openings]; exact h.dialed
  increasing := by rw [Run.opened, openings]; exact h.increasing

theorem atTime (h : Counted r) (t : Nat) : Counted (r.atTime t) := h.quiet rfl rfl rfl

theorem note (h : Counted r) (e : Event (Numbered C)) (he : e.opening? = none) :
    Counted (r.note e) := h.quiet rfl rfl (by simp [he])

/-- A call other than a dial. -/
theorem begun (h : Counted r) (call : Call (Numbered C)) {w : σ × Nat} (hw : w.2 = r.world.2)
    (hc : (call.follow r.followed).2 = r.followed.2) : Counted (r.begun call w) :=
  h.quiet hw (by simp [Run.dials, hc]) rfl

/-- A dial is counted, and so far it has opened nothing. -/
theorem dial (h : Counted r) (target : Target) (dialer : Option ProxyDialer)
    (options : ConnectOptions) {w : σ × Nat} (hw : w.2 = r.world.2 + 1) :
    Counted (r.begun (.connect target dialer options) w) where
  count := by simp [Run.dials, Call.follow, hw, h.count]
  dialed key target' c mem := by
    have before := h.dialed key target' c mem
    have lt : c.number < r.dials.length := (List.getElem?_eq_some_iff.mp before).1
    simp only [Run.dials, Run.followed_begun, Call.follow]
    exact (List.getElem?_append_left lt).trans before
  increasing := h.increasing

/-- The connection that a dial opened bears its number. -/
theorem opening (h : Counted r) {key : ClusterKey} {target : Target} {c : Numbered C}
    (last : r.dials[c.number]? = some (some key, target))
    (new : ∀ c' ∈ r.opened, c'.number < c.number) :
    Counted (r.note (.dialed key target (.ok c))) where
  count := h.count
  dialed key' target' c' mem := by
    simp only [Run.openings_note, Event.opening?, Option.toList_some, List.mem_append,
      List.mem_singleton, Prod.mk.injEq] at mem
    rcases mem with mem | ⟨rfl, rfl, rfl⟩
    · exact h.dialed key' target' c' mem
    · exact last
  increasing := by
    have all := h.increasing
    simp only [Run.opened, Run.openings_note, Event.opening?, Option.toList_some, List.map_append,
      List.map_cons, List.map_nil, List.pairwise_append, List.mem_singleton] at all new ⊢
    refine ⟨all, by simp, ?_⟩
    rintro n hn _ rfl
    obtain ⟨c', hc', rfl⟩ := List.mem_map.mp hn
    exact new c' hc'

end Counted

variable {p : PoolConfig σ C} {cancelAt : Option Nat} {key : ClusterKey} {target : Target}
  {dialer : Option ProxyDialer} {options : ConnectOptions} {attempt left : Nat}
  {last : AccessError} {credential : Credential} {pool pool' : Pool (Numbered C)}
  {r r' : Run (σ × Nat) (Numbered C)}

theorem Awaited.counted {reply : Reply (Outcome α)} {started : Run (σ × Nat) (Numbered C)}
    {o : Outcome α} (h : Awaited cancelAt r reply started o r') (hr : Counted r)
    (hs : Counted started) : Counted r' := by
  cases h with
  | late => exact hr
  | cut => exact hs.atTime _
  | answered => exact hs.atTime _
  | silent => exact hs

/-- A wait for anything but a dial. -/
theorem Awaited.counted_of_begun {reply : Reply (Outcome α)} {call : Call (Numbered C)}
    {w : σ × Nat} {o : Outcome α} (h : Awaited cancelAt r reply (r.begun call w) o r')
    (hr : Counted r) (hw : w.2 = r.world.2) (hc : call.follow r.followed = r.followed) :
    Counted r' ∧ r'.lookedUp = r.lookedUp := by
  have started : Counted (r.begun call w) := hr.begun call hw (by rw [hc])
  refine ⟨h.counted hr started, ?_⟩
  cases h <;> simp [Run.lookedUp, hc]

/-- The dial of an attempt, noted with what comes of it. -/
theorem Task.await_connect_counted {x : Except AccessError (Numbered C)}
    (h : Task.await cancelAt (p.numbered.services.askConnect target dialer options) r =
      (.ofExcept x, r')) (hr : Counted r) (hl : r.lookedUp = some key) :
    Counted (r'.note (.dialed key target x)) ∧
      (r'.note (.dialed key target x)).lookedUp = some key := by
  have awaited := Task.await_ask h
  have counted := hr.dial target dialer options
    (w := (p.numbered.services.connect target dialer options r.world).2) rfl
  generalize ho : Outcome.ofExcept x = o at awaited
  have failed (e : AccessError) (he : x = .error e) :
      (Event.dialed key target x).opening? = none := by rw [he]; rfl
  cases awaited with
  | late =>
    have he := Outcome.ofExcept_eq_failed.mp ho
    exact ⟨hr.note _ (failed _ he), hl⟩
  | cut =>
    have he := Outcome.ofExcept_eq_failed.mp ho
    exact ⟨(counted.atTime _).note _ (failed _ he), by simpa [Run.lookedUp, Call.follow] using hl⟩
  | answered answer =>
    refine ⟨?_, by simpa [Run.lookedUp, Call.follow] using hl⟩
    rcases x with e | c
    · exact (counted.atTime _).note _ (failed _ rfl)
    · obtain ⟨y, hy, hyo⟩ := Reply.map_eq_after.mp answer
      obtain rfl := Outcome.ofExcept_injective (hyo.trans ho.symm)
      obtain ⟨z, -, hz⟩ := Reply.map_eq_after.mp hy
      -- The reply bears the count of before the dial.
      have number : c.number = r.dials.length := by
        rcases z with e | c'
        · cases hz
        · obtain rfl : _ = c := by simpa [Except.map] using hz
          exact hr.count
      refine (counted.atTime _).opening ?_ ?_
      · simp only [Run.dials, Run.followed_atTime, Run.followed_begun, Call.follow, number]
        rw [List.getElem?_concat_length]
        exact congrArg (fun k => some (k, target)) hl
      · intro c' hc'
        rw [number]
        exact hr.number_lt hc'
  | silent => exact absurd ho Outcome.ofExcept_ne_stuck

theorem Attempted.counted {o : Outcome (Numbered C)}
    (h : Attempted p.numbered cancelAt key target dialer options attempt r o r') (ho : o ≠ .stuck)
    (hr : Counted r) (hl : r.lookedUp = some key) : Counted r' ∧ r'.lookedUp = some key := by
  cases h with
  | @undialed e r₁ dial => exact Task.await_connect_counted (x := .error e) dial hr hl
  | @passed c r₁ r₂ dial ping =>
    obtain ⟨h₁, l₁⟩ := Task.await_connect_counted (x := .ok c) dial hr hl
    obtain ⟨h₂, l₂⟩ := (Task.await_ask ping).counted_of_begun h₁ rfl rfl
    exact ⟨h₂.note _ rfl, l₂.trans l₁⟩
  | @failed c e r₁ r₂ r₃ x dial ping discard =>
    obtain ⟨h₁, l₁⟩ := Task.await_connect_counted (x := .ok c) dial hr hl
    obtain ⟨h₂, l₂⟩ := (Task.await_ask ping).counted_of_begun h₁ rfl rfl
    have h₂' := h₂.note (.pinged c (.error e)) rfl
    obtain ⟨h₃, l₃⟩ := (Task.await_ask discard).counted_of_begun h₂' rfl rfl
    exact ⟨h₃.note _ rfl, l₃.trans (l₂.trans l₁)⟩
  | silent => exact absurd rfl ho

theorem PoolConfig.wait_counted {o : Outcome Unit}
    (h : p.numbered.wait cancelAt attempt r = (o, r')) (hr : Counted r) :
    Counted r' ∧ r'.lookedUp = r.lookedUp := by
  obtain ⟨-, elapsed, rfl⟩ := p.numbered.wait_cases h
  exact ⟨(hr.note _ rfl).atTime _, rfl⟩

theorem Retried.counted {o : Outcome (Numbered C)}
    (h : Retried p.numbered cancelAt key target dialer options left last r o r') (ho : o ≠ .stuck)
    (hr : Counted r) (hl : r.lookedUp = some key) : Counted r' := by
  induction h with
  | exhausted => exact hr
  | ended attempt => exact (attempt.counted ho hr hl).1
  | cancelled attempt _ wait =>
    obtain ⟨h₁, -⟩ := attempt.counted (by simp) hr hl
    exact (PoolConfig.wait_counted wait h₁).1
  | again attempt _ wait _ ih =>
    obtain ⟨h₁, l₁⟩ := attempt.counted (by simp) hr hl
    obtain ⟨h₂, l₂⟩ := PoolConfig.wait_counted wait h₁
    exact ih ho h₂ (l₂.trans l₁)

theorem Opened.counted {o : Outcome (Numbered C)}
    (h : Opened p.numbered cancelAt key dialer credential r o r') (ho : o ≠ .stuck)
    (hr : Counted r) : Counted r' := by
  have lookUp {r₁ r₂ : Run (σ × Nat) (Numbered C)} {o₁ : Outcome Endpoint} (h₁ : Counted r₁)
      (h : Task.await cancelAt (p.numbered.askEndpoint key) r₁ = (o₁, r₂)) : Counted r₂ :=
    (p.numbered.await_askEndpoint h).counted h₁ (h₁.begun _ rfl rfl)
  cases h with
  | unstarted wait => exact (PoolConfig.wait_counted wait hr).1
  | unresolved wait found => exact lookUp (PoolConfig.wait_counted wait hr).1 found
  | attempted wait found attempts =>
    have h₁ := (PoolConfig.wait_counted wait hr).1
    refine attempts.counted ho (lookUp h₁ found) ?_
    cases p.numbered.await_askEndpoint found with
    | answered => simp [Run.lookedUp, Call.follow]

theorem Credited.counted {project : String} {o : Outcome Credential}
    (h : Credited p.numbered cancelAt project pool r o pool' r') (hr : Counted r) :
    Counted r' := by
  have provision {o : Outcome Credential} (h : Task.await cancelAt
      (p.numbered.services.provision p.numbered.settings.account project) r = (o, r')) :
      Counted r' := by
    obtain ⟨reply, started, provisioned, awaited⟩ := p.numbered.await_provision h
    refine awaited.counted hr ?_
    have uncounted {o : Outcome AccountOrder} {w : σ × Nat}
        (drawn : p.numbered.services.order p.settings.account project r.world = (o, w)) :
        w.2 = r.world.2 := by
      rw [p.order_numbered] at drawn
      exact congrArg (·.2.2) drawn.symm
    cases provisioned with
    | early drawn => exact hr.begun _ (uncounted drawn) rfl
    | asked drawn => exact (hr.begun _ (uncounted drawn) rfl).begun _ rfl rfl
  cases h with
  | kept => exact hr
  | made _ h => exact provision h
  | refused _ h => exact provision h

theorem Connected.counted {o : Outcome (Credential × Numbered C)}
    (h : Connected p.numbered cancelAt key pool r o pool' r') (ho : o ≠ .stuck) (hr : Counted r) :
    Counted r' := by
  cases h with
  | closed => exact hr
  | misconfigured => exact hr
  | unprovisioned _ _ absent provision passedOn =>
    exact (Credited.refused absent provision passedOn.ne_ok).counted hr
  | hit _ _ credited => exact credited.counted hr
  | opened _ _ credited _ opening => exact opening.counted (by simp) (credited.counted hr)
  | unopened _ _ credited _ opening passedOn =>
    exact opening.counted (mt passedOn.stuck_iff.mp ho) (credited.counted hr)

theorem Drained.counted {first : Option AccessError} {conns : List (ClusterKey × Numbered C)}
    {o : Outcome Unit} (h : Drained p.numbered cancelAt first conns r o r') (hr : Counted r) :
    Counted r' := by
  induction h with
  | done => exact hr
  | next disconnect _ ih =>
    exact ih (((Task.await_ask disconnect).counted_of_begun hr rfl rfl).1.note _ rfl)
  | silent disconnect => exact ((Task.await_ask disconnect).counted_of_begun hr rfl rfl).1

/-- After every history the numbers agree with the record. -/
theorem PoolConfig.NumberedReachable.counted {n : PoolState (σ × Nat) (Numbered C)}
    (h : p.NumberedReachable n) : Counted n.run := by
  obtain ⟨world, steps⟩ := h
  refine steps.preserves (Q := fun n => Counted n.run) ?_ ?_ ?_ (.start world)
  · exact fun hr call finished => call.counted finished hr
  · intro cancelAt order pool pool' r r' o hr perm closing finished
    rcases close_cases closing with ⟨-, -, -, rfl⟩ | ⟨-, drained, -⟩
    · exact hr
    · exact drained.counted hr
  · exact fun hr => hr.atTime _

end ClusterAccess
