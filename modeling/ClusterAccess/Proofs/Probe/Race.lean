import ClusterAccess.Proofs.Probe.Seeds

/-!
# Races between seeds

All seeds are dialed at once, each for so long. If one accepts in time the first to do so is taken,
and otherwise the race is over when the last one has failed.

## Main definitions

* `Network.answers`: what the seeds answer when all of them are dialed.
* `Fails`: how a dial with a limit fails.
* `Race`: when a race ends, and how.

## Main statements

* `dialAny_race`: dialing seeds is a race between them.
* `Race.isOk_iff`: a race is won if a seed accepts in time.
* `TcpProbe.connect_race`, `TcpProbe.reach_race`: what comes of the race when a target is connected
  to, and when a probe is tested.
-/
namespace ClusterAccess.Probe

open Time

variable {σ : Type}

/-! ## What decides a race -/

/-- What the seeds answer when all of them are dialed, one after the other. -/
def Network.answers (net : Network σ) : List Seed → σ → List (Seed × Reply (Except IoError Unit))
  | [], _ => []
  | seed :: rest, world =>
    let (reply, world) := net.dial seed.host seed.port world
    (seed, reply) :: net.answers rest world

/-- When a dial is over that has so much time. -/
def ended (limit : Nat) : Reply (Except IoError Unit) → Nat
  | .never => limit
  | .after delay _ => min delay limit

/-- The failure of a seed that is cut off. -/
def late (t : Duration) (seed : Seed) : IoError :=
  ⟨.timedOut, s!"{seed.render} did not answer within {t.render}"⟩

/-- How the dial of a seed fails, from what it would answer. -/
inductive Fails (t : Duration) (seed : Seed) : Reply (Except IoError Unit) → IoError → Prop
  | refused {delay : Nat} {e : IoError} (inTime : delay ≤ t.milliseconds) :
      Fails t seed (.after delay (.error e)) e
  | cutOff {delay : Nat} {result : Except IoError Unit} (tooLate : t.milliseconds < delay) :
      Fails t seed (.after delay result) (late t seed)
  | silent : Fails t seed .never (late t seed)

/-- When a race ends, and how, from what the seeds would answer. -/
inductive Race (t : Duration) (script : List (Seed × Reply (Except IoError Unit))) :
    Nat → Except IoError Seed → Prop
  | won {seed : Seed} {delay : Nat} (accepts : (seed, .after delay (.ok ())) ∈ script)
      (inTime : delay ≤ t.milliseconds)
      (first : ∀ other d, (other, .after d (.ok ())) ∈ script → delay ≤ d) :
      Race t script delay (.ok seed)
  | lost {seed : Seed} {reply : Reply (Except IoError Unit)} {e : IoError}
      (nobody : ∀ other d, (other, .after d (.ok ())) ∈ script → t.milliseconds < d)
      (mem : (seed, reply) ∈ script) (fails : Fails t seed reply e)
      (last : ∀ other r, (other, r) ∈ script →
        ended t.milliseconds r ≤ ended t.milliseconds reply) :
      Race t script (ended t.milliseconds reply) (.error e)

theorem Race.isOk_iff {t : Duration} {script : List (Seed × Reply (Except IoError Unit))} {d : Nat}
    {r : Except IoError Seed} (race : Race t script d r) : (∃ seed, r = .ok seed) ↔
      ∃ seed delay, (seed, .after delay (.ok ())) ∈ script ∧ delay ≤ t.milliseconds := by
  cases race with
  | won accepts inTime first => exact ⟨fun _ => ⟨_, _, accepts, inTime⟩, fun _ => ⟨_, rfl⟩⟩
  | lost nobody mem fails last =>
    constructor
    · rintro ⟨seed, same⟩
      cases same
    · rintro ⟨seed, delay, accepts, inTime⟩
      have tooLate := nobody seed delay accepts
      omega

/-! ## The best of several ends -/

section Best

variable {α : Type} {xs : List (Nat × Except IoError α)} {x : Nat × Except IoError α}

/-- The first success, or if there is none a failure that no other one came after. -/
inductive Best (xs : List (Nat × Except IoError α)) : Nat × Except IoError α → Prop
  | success {d : Nat} {a : α} (mem : (d, .ok a) ∈ xs)
      (first : ∀ d' b, (d', .ok b) ∈ xs → d ≤ d') : Best xs (d, .ok a)
  | failure {d : Nat} {e : IoError} (mem : (d, .error e) ∈ xs) (none : ∀ d' b, (d', .ok b) ∉ xs)
      (last : ∀ d' f, (d', .error f) ∈ xs → d' ≤ d) : Best xs (d, .error e)

theorem Best.single (d : Nat) (result : Except IoError α) :
    Best [(d, result)] (better none d result) := by
  cases result with
  | error e => exact .failure List.mem_cons_self (by simp) (by simp)
  | ok a => exact .success List.mem_cons_self (by simp)

/-- One more end may be better than the best so far. -/
theorem Best.append (best : Best xs x) (d : Nat) (result : Except IoError α) :
    Best (xs ++ [(d, result)]) (better (some x) d result) := by
  have last : (d, result) ∈ xs ++ [(d, result)] := List.mem_append_right _ List.mem_cons_self
  cases best with
  | @success d₀ a mem first =>
    have mem := List.mem_append_left [(d, result)] mem
    cases result with
    | error f => exact .success mem (by grind)
    | ok b =>
      by_cases sooner : d < d₀
      · simp only [better, sooner, if_true]
        exact .success last (by grind)
      · simp only [better, sooner, if_false]
        exact .success mem (by grind)
  | @failure d₀ e mem none later =>
    have mem := List.mem_append_left [(d, result)] mem
    cases result with
    | ok b => exact .success last (by grind)
    | error f =>
      by_cases after : d₀ ≤ d
      · simp only [better, after, if_true]
        exact .failure last (by grind) (by grind)
      · simp only [better, after, if_false]
        exact .failure mem (by grind) (by grind)

/-- When each of several replies comes, the best one is found. -/
theorem raceFrom_best (best : Best xs x) (ys : List (Nat × Except IoError α)) :
    ∃ y, raceFrom (some x) (ys.map fun y => .after y.1 y.2) = some y ∧ Best (xs ++ ys) y := by
  induction ys generalizing xs x with
  | nil => exact ⟨x, rfl, by rwa [List.append_nil]⟩
  | cons y ys ih =>
    obtain ⟨z, found, best⟩ := ih (best.append y.1 y.2)
    rw [List.append_assoc, List.singleton_append] at best
    exact ⟨z, found, best⟩

theorem raceFrom_none_best {ys : List (Nat × Except IoError α)} (nonempty : ys ≠ []) :
    ∃ y, raceFrom none (ys.map fun y => .after y.1 y.2) = some y ∧ Best ys y := by
  cases ys with
  | nil => cases nonempty rfl
  | cons y ys => exact raceFrom_best (.single y.1 y.2) ys

/-- Where all replies come, there is an end. -/
theorem race_of_raceFrom {replies : List (Reply (Except IoError α))}
    (come : ∀ reply ∈ replies, reply ≠ .never) (found : raceFrom none replies = some x) :
    race replies = .after x.1 x.2 := by
  unfold race
  rw [found]
  obtain ⟨d, e | a⟩ := x
  · simp only [ite_eq_right_iff, List.any_eq_true]
    rintro ⟨reply, mem, never⟩
    cases reply with
    | never => exact absurd rfl (come _ mem)
    | after => cases never
  · rfl

end Best

/-! ## Dialing -/

variable {net : Network σ} {t : Duration} {seed : Seed} {reply : Reply (Except IoError Unit)}
  {d : Nat}

/-- When the dial of a seed ends, and how, from what it would answer. -/
def finish (t : Duration) (seed : Seed) : Reply (Except IoError Unit) → Nat × Except IoError Seed
  | .never => (t.milliseconds, .error (late t seed))
  | .after delay result =>
    if delay ≤ t.milliseconds then (delay, result.map fun _ => seed)
    else (t.milliseconds, .error (late t seed))

theorem finish_fst (t : Duration) (seed : Seed) (reply : Reply (Except IoError Unit)) :
    (finish t seed reply).1 = ended t.milliseconds reply := by
  cases reply with
  | never => rfl
  | after delay result =>
    by_cases inTime : delay ≤ t.milliseconds
    · simp only [finish, inTime, if_true, ended, Nat.min_eq_left]
    · simp only [finish, inTime, if_false, ended]
      omega

theorem finish_eq_ok_iff {winner : Seed} : finish t seed reply = (d, .ok winner) ↔
    winner = seed ∧ reply = .after d (.ok ()) ∧ d ≤ t.milliseconds := by
  cases reply with
  | never => simp [finish]
  | after delay result =>
    cases result <;> grind [finish, Except.map]

theorem fails_of_finish {e : IoError} (h : finish t seed reply = (d, .error e)) :
    Fails t seed reply e := by
  cases reply with
  | never =>
    cases h
    exact .silent
  | after delay result =>
    by_cases inTime : delay ≤ t.milliseconds
    · rw [finish, if_pos inTime] at h
      cases result with
      | ok u => cases h
      | error f =>
        cases h
        exact .refused inTime
    · rw [finish, if_neg inTime] at h
      cases h
      exact .cutOff (by omega)

variable {script : List (Seed × Reply (Except IoError Unit))}

/-- The best end of all dials is that of the race. -/
theorem race_of_best {r : Except IoError Seed}
    (best : Best (script.map fun x => finish t x.1 x.2) (d, r)) : Race t script d r := by
  have inTime {other : Seed} {d' : Nat} (accepts : (other, .after d' (.ok ())) ∈ script)
      (soon : d' ≤ t.milliseconds) : (d', .ok other) ∈ script.map fun x => finish t x.1 x.2 :=
    List.mem_map.mpr ⟨_, accepts, finish_eq_ok_iff.mpr ⟨rfl, rfl, soon⟩⟩
  cases best with
  | success mem first =>
    obtain ⟨⟨seed, reply⟩, listed, ends⟩ := List.mem_map.mp mem
    obtain ⟨rfl, rfl, soon⟩ := finish_eq_ok_iff.mp ends
    refine .won listed soon fun other d' accepts => ?_
    rcases Nat.lt_or_ge t.milliseconds d' with tooLate | soon'
    · omega
    · exact first d' other (inTime accepts soon')
  | failure mem none last =>
    obtain ⟨⟨seed, reply⟩, listed, ends⟩ := List.mem_map.mp mem
    obtain rfl : d = ended t.milliseconds reply := by rw [← finish_fst t seed, ends]
    refine .lost ?_ listed (fails_of_finish ends) ?_
    · intro other d' accepts
      exact Nat.lt_of_not_le fun soon => none d' other (inTime accepts soon)
    · intro other r' listed'
      have mem' := List.mem_map_of_mem (f := fun x => finish t x.1 x.2) listed'
      rw [← finish_fst t other]
      cases ends' : finish t other r' with
      | mk d' result =>
        rw [ends'] at mem'
        cases result with
        | ok winner => exact absurd mem' (none d' winner)
        | error f => exact last d' f mem'

/-- Whoever accepts at once wins, so that seeds behind it need not be dialed. -/
theorem raceFrom_at_once {α : Type} (a : α) (replies : List (Reply (Except IoError α))) :
    raceFrom (some (0, .ok a)) replies = some (0, .ok a) := by
  induction replies with
  | nil => rfl
  | cons reply rest ih =>
    cases reply with
    | never => exact ih
    | after delay result => cases result <;> exact ih

theorem better_at_once {α : Type} (best : Option (Nat × Except IoError α)) (b : α) :
    ∃ a, better best 0 (.ok b) = (0, .ok a) := by
  cases best with
  | none => exact ⟨b, rfl⟩
  | some x =>
    obtain ⟨d, e | a⟩ := x
    · exact ⟨b, rfl⟩
    · by_cases sooner : 0 < d
      · exact ⟨b, by simp only [better, sooner, if_true]⟩
      · obtain rfl : d = 0 := by omega
        exact ⟨a, rfl⟩

theorem dialAll_cons {seed : Seed} {rest : List Seed} {w world : σ}
    (dialed : net.dial seed.host seed.port w = (reply, world)) :
    (dialAll net t (seed :: rest) w).1 =
      let bounded := Reply.after (finish t seed reply).1 (finish t seed reply).2
      if isImmediate bounded then [bounded] else bounded :: (dialAll net t rest world).1 := by
  have bounded : (reply.within t.milliseconds (.error
      ⟨.timedOut, s!"{seed.render} did not answer within {t.render}"⟩)).map (·.map fun _ => seed) =
        .after (finish t seed reply).1 (finish t seed reply).2 := by
    cases reply with
    | never => rfl
    | after delay result =>
      by_cases inTime : delay ≤ t.milliseconds <;>
        simp only [Reply.within, finish, inTime, if_true, if_false] <;> rfl
  simp only [dialAll, dialed, bounded]
  split <;> rfl

/-- It makes no difference that no seed is dialed behind one that accepts at once. -/
theorem raceFrom_dialAll (best : Option (Nat × Except IoError Seed)) (seeds : List Seed) (w : σ) :
    raceFrom best (dialAll net t seeds w).1 = raceFrom best
      (((net.answers seeds w).map fun x => finish t x.1 x.2).map fun y => .after y.1 y.2) := by
  induction seeds generalizing best w with
  | nil => rfl
  | cons seed rest ih =>
    rcases dialed : net.dial seed.host seed.port w with ⟨reply, world⟩
    simp only [dialAll_cons dialed, Network.answers, dialed, List.map_cons]
    rcases finish t seed reply with ⟨d, result⟩
    split
    next atOnce =>
      unfold isImmediate at atOnce
      split at atOnce
      next winner same =>
        cases same
        obtain ⟨a, chosen⟩ := better_at_once best winner
        simp only [raceFrom, chosen, raceFrom_at_once]
      · cases atOnce
    next => exact ih _ _

theorem dialAll_ne_never (seeds : List Seed) (w : σ) :
    ∀ reply ∈ (dialAll net t seeds w).1, reply ≠ .never := by
  induction seeds generalizing w with
  | nil => simp [dialAll]
  | cons seed rest ih =>
    rcases dialed : net.dial seed.host seed.port w with ⟨reply, world⟩
    rw [dialAll_cons dialed]
    dsimp only
    intro bounded mem
    split at mem
    · rw [List.mem_singleton.mp mem]
      intro never
      cases never
    · rcases List.mem_cons.mp mem with rfl | mem
      · intro never
        cases never
      · exact ih world bounded mem

/-- Dialing seeds is a race between them. -/
theorem dialAny_race {seeds : List Seed} (nonempty : seeds ≠ []) (net : Network σ) (t : Duration)
    (w : σ) : ∃ d r, (dialAny net t seeds w).1 = .after d r ∧ Race t (net.answers seeds w) d r := by
  have answered : (net.answers seeds w).map (fun x => finish t x.1 x.2) ≠ [] := by
    cases seeds with
    | nil => cases nonempty rfl
    | cons seed rest => simp [Network.answers]
  obtain ⟨⟨d, r⟩, found, best⟩ := raceFrom_none_best answered
  rw [← raceFrom_dialAll] at found
  exact ⟨d, r, race_of_raceFrom (dialAll_ne_never seeds w) found, race_of_best best⟩

/-! ## Probes -/

namespace TcpProbe

variable {target : Target} {seeds : List Seed} {d : Nat}

/-- What is told of a race that was run to connect to a target. -/
def connected (seeds : List Seed) (isProxied : Bool) (o : ConnectOptions) :
    Except IoError Seed → Except AccessError TcpProbe
  | .ok seed => .ok { seeds, isProxied, selectionTimeout := o.selectionTimeout, streams := [seed] }
  | .error e => .error (.driver s!"no seed host reachable: {e.message}")

/-- What is told of a race that was run to test a probe. -/
def answered : Except IoError Seed → Except AccessError Seed
  | .ok seed => .ok seed
  | .error e => .error (.driver s!"no seed host answered: {e.message}")

theorem connect_race (listed : seedsOf target = .ok seeds) (net : Network σ) (isProxied : Bool)
    (o : ConnectOptions) (w : σ) :
    ∃ d r, Race o.connectTimeout (net.answers seeds w) d r ∧
      (connect net target isProxied o w).1 = .after d (connected seeds isProxied o r) := by
  obtain ⟨d, r, dialed, race⟩ := dialAny_race (of_seedsOf listed).1 net o.connectTimeout w
  refine ⟨d, r, race, ?_⟩
  simp only [connect, listed, dialed]
  cases r <;> rfl

theorem reach_race {p : TcpProbe} (nonempty : p.seeds ≠ []) (net : Network σ) (w : σ) :
    ∃ d r, Race p.selectionTimeout ((p.network net).answers p.seeds w) d r ∧
      (p.reach net w).1 = .after d (answered r) := by
  obtain ⟨d, r, dialed, race⟩ := dialAny_race nonempty (p.network net) p.selectionTimeout w
  refine ⟨d, r, race, ?_⟩
  simp only [reach, dialed]
  cases r <;> rfl

end TcpProbe
end ClusterAccess.Probe
