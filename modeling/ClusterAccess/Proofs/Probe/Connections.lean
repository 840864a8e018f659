import ClusterAccess.Probe.Connections
import ClusterAccess.Proofs.Probe.Race

/-!
# What copies of a connection share

An act changes at most the probe that its handle leads to, and whatever changes there is seen
through all handles that lead to it. The connections that a probe keeps open are counted along a
history: one from connecting, one more from every test that succeeds, none once it was given up.

## Main definitions

* `Connections.Shares`: handles that lead to the same probe.
* `Connections.Grown`, `Connections.Changed`: what is seen after an act.
* `Connections.Reached`: what a history leads to.
* `Connections.opened`: how many connections are open after some deeds.
* `Connections.Lawful`: what every act comes to.

## Main statements

* `Connections.step_steps`: all that an act can do.
* `Connections.Reached.tallied`: the connections that are open, from the history.
* `Connections.shared_law`: races, what every act comes to, and what a history leads to.
-/
namespace ClusterAccess.Probe

open Time

variable {σ D : Type}

namespace Connections

variable {network : Option D → Network σ} {c c' : Connections D} {handle other place : Nat}
  {probe : TcpProbe × Option D} {f : TcpProbe → TcpProbe}

/-! ## What is seen through handles -/

/-- Handles that lead to the same probe. -/
def Shares (c : Connections D) (a b : Nat) : Prop := c.handles[a]? = c.handles[b]?

instance (c : Connections D) (a b : Nat) : Decidable (c.Shares a b) :=
  inferInstanceAs (Decidable (_ = _))

/-- What is seen when there is one more handle. -/
structure Grown (c c' : Connections D) (seen : Option (TcpProbe × Option D)) : Prop where
  handles : ∃ place, c'.handles = c.handles ++ [place]
  new : c'.probe? c.handles.length = seen
  old : ∀ handle < c.handles.length, c'.probe? handle = c.probe? handle

/-- What is seen when the probe behind a handle has changed: through copies of the handle the same
as through itself, and through others nothing. -/
structure Changed (c c' : Connections D) (handle : Nat) (f : TcpProbe → TcpProbe) : Prop where
  handles : c'.handles = c.handles
  seen (other : Nat) : c'.probe? other =
    if c.Shares handle other then (c.probe? other).map fun probe => (f probe.1, probe.2)
    else c.probe? other

theorem exists_place (held : c.probe? handle = some probe) :
    ∃ place, c.handles[handle]? = some place ∧ c.probes[place]? = some probe :=
  Option.bind_eq_some_iff.mp held

theorem handle_lt (held : c.probe? handle = some probe) : handle < c.handles.length := by
  obtain ⟨place, leads, -⟩ := exists_place held
  exact (List.getElem?_eq_some_iff.mp leads).1

theorem grown_add (c : Connections D) (probe : TcpProbe × Option D) :
    Grown c (c.add probe) (some probe) where
  handles := ⟨_, rfl⟩
  new := by simp [probe?, add]
  old handle held := by
    have inside := c.sound _ (List.getElem_mem held)
    simp [probe?, add, List.getElem?_append_left held, List.getElem?_eq_getElem held,
      List.getElem?_append_left inside]

theorem handles_copy (leads : c.handles[handle]? = some place) :
    (c.copy handle).handles = c.handles ++ [place] := by
  simp [copy, leads]

theorem grown_copy (held : c.probe? handle = some probe) :
    Grown c (c.copy handle) (c.probe? handle) := by
  obtain ⟨place, leads, -⟩ := exists_place held
  refine ⟨⟨place, handles_copy leads⟩, ?_, ?_⟩
  · simp [probe?, leads, copy]
  · intro other there
    simp [probe?, List.getElem?_append_left there, copy]

theorem probes_update (c : Connections D) (handle : Nat) (f : TcpProbe → TcpProbe) (place : Nat) :
    (c.update handle f).probes[place]? =
      if c.handles[handle]? = some place then
        c.probes[place]?.map fun probe => (f probe.1, probe.2)
      else c.probes[place]? := by
  simp only [update, List.getElem?_mapIdx]
  split <;> simp

theorem changed_update (c : Connections D) (handle : Nat) (f : TcpProbe → TcpProbe) :
    Changed c (c.update handle f) handle f where
  handles := rfl
  seen other := by
    have same : (c.update handle f).handles = c.handles := rfl
    unfold probe? Shares
    rcases Option.eq_none_or_eq_some c.handles[other]? with astray | ⟨place, leads⟩
    · simp [same, astray]
    · simp only [same, leads, Option.bind_some, probes_update]

/-! ## What acts do -/

section Acts

variable {target : Target} {seeds : List Seed} {w : σ}

/-- A target that lists no seeds is not connected to. -/
theorem step_connect_invalid {e : AccessError} (invalid : TcpProbe.seedsOf target = .error e)
    (network : Option D → Network σ) (c : Connections D) (dialer : Option D) (o : ConnectOptions)
    (w : σ) : c.step network (.connect target dialer o) w = some (.after 0 (.error e), c, w) := by
  simp only [step, TcpProbe.connect, invalid]
  rfl

theorem step_connect (listed : TcpProbe.seedsOf target = .ok seeds)
    (network : Option D → Network σ) (c : Connections D) (dialer : Option D) (o : ConnectOptions)
    (w : σ) : ∃ delay r w', Race o.connectTimeout ((network dialer).answers seeds w) delay r ∧
      c.step network (.connect target dialer o) w =
        match TcpProbe.connected seeds dialer.isSome o r with
        | .ok probe => some (.after delay (.ok .connected), c.add (probe, dialer), w')
        | .error e => some (.after delay (.error e), c, w') := by
  obtain ⟨delay, r, race, told⟩ :=
    TcpProbe.connect_race listed (network dialer) dialer.isSome o w
  refine ⟨delay, r, (TcpProbe.connect (network dialer) target dialer.isSome o w).2, race, ?_⟩
  simp only [step, told]
  cases r <;> rfl

theorem step_ping {probe : TcpProbe} {dialer : Option D}
    (held : c.probe? handle = some (probe, dialer)) (nonempty : probe.seeds ≠ [])
    (network : Option D → Network σ) (w : σ) : ∃ delay r w',
      Race probe.selectionTimeout ((probe.network (network dialer)).answers probe.seeds w) delay r ∧
      c.step network (.ping handle) w =
        match TcpProbe.answered r with
        | .ok seed =>
          some (.after delay (.ok .answered), c.update handle fun probe => probe.keep seed, w')
        | .error e => some (.after delay (.error e), c, w') := by
  obtain ⟨delay, r, race, told⟩ := TcpProbe.reach_race nonempty (network dialer) w
  refine ⟨delay, r, (probe.reach (network dialer) w).2, race, ?_⟩
  simp only [step, held, told, Option.map_some]
  cases r <;> rfl

theorem step_copy (held : c.probe? handle = some probe) (network : Option D → Network σ) (w : σ) :
    c.step network (.copy handle) w = some (.after 0 (.ok .copied), c.copy handle, w) := by
  simp only [step, held, Option.map_some]

theorem step_disconnect (held : c.probe? handle = some probe) (network : Option D → Network σ)
    (w : σ) : c.step network (.disconnect handle) w =
      some (.after 0 (.ok .closed), c.update handle TcpProbe.disconnect, w) := by
  simp only [step, held, Option.map_some]

/-- All that an act can do. -/
inductive Steps (c : Connections D) : Act D → Except AccessError Deed → Connections D → Prop
  | failed {act : Act D} (e : AccessError) : Steps c act (.error e) c
  | connected {target : Target} {dialer : Option D} {o : ConnectOptions} {probe : TcpProbe}
      (nonempty : probe.seeds ≠ []) (one : probe.streams.length = 1)
      (fresh : probe.isClosed = false) :
      Steps c (.connect target dialer o) (.ok .connected) (c.add (probe, dialer))
  | copied {handle : Nat} {probe : TcpProbe × Option D} (held : c.probe? handle = some probe) :
      Steps c (.copy handle) (.ok .copied) (c.copy handle)
  | answered {handle : Nat} {probe : TcpProbe × Option D} (held : c.probe? handle = some probe)
      (seed : Seed) :
      Steps c (.ping handle) (.ok .answered) (c.update handle fun probe => probe.keep seed)
  | closed {handle : Nat} {probe : TcpProbe × Option D} (held : c.probe? handle = some probe) :
      Steps c (.disconnect handle) (.ok .closed) (c.update handle TcpProbe.disconnect)

/-- Every probe has seeds to dial. -/
def Seeded (c : Connections D) : Prop := ∀ probe ∈ c.probes, probe.1.seeds ≠ []

theorem Seeded.of_held (seeded : c.Seeded) (held : c.probe? handle = some probe) :
    probe.1.seeds ≠ [] := by
  obtain ⟨place, -, there⟩ := exists_place held
  exact seeded probe (List.mem_of_getElem? there)

theorem step_steps (seeded : c.Seeded) {act : Act D} {delay : Nat} {w' : σ}
    {result : Except AccessError Deed}
    (stepped : c.step network act w = some (.after delay result, c', w')) :
    Steps c act result c' := by
  cases act with
  | connect target dialer o =>
    cases listed : TcpProbe.seedsOf target with
    | error e =>
      rw [step_connect_invalid listed] at stepped
      cases stepped
      exact .failed e
    | ok seeds =>
      obtain ⟨delay, r, w', -, done⟩ := step_connect listed network c dialer o w
      rw [done] at stepped
      cases r with
      | error e =>
        cases stepped
        exact .failed _
      | ok seed =>
        cases stepped
        exact .connected (TcpProbe.of_seedsOf listed).1 rfl rfl
  | copy handle =>
    cases held : c.probe? handle with
    | none => simp [step, held] at stepped
    | some probe =>
      rw [step_copy held] at stepped
      cases stepped
      exact .copied held
  | ping handle =>
    cases held : c.probe? handle with
    | none => simp [step, held] at stepped
    | some probe =>
      obtain ⟨delay, r, w', -, done⟩ := step_ping held (seeded.of_held held) network w
      rw [done] at stepped
      cases r with
      | error e =>
        cases stepped
        exact .failed _
      | ok seed =>
        cases stepped
        exact .answered held seed
  | disconnect handle =>
    cases held : c.probe? handle with
    | none => simp [step, held] at stepped
    | some probe =>
      rw [step_disconnect held] at stepped
      cases stepped
      exact .closed held

end Acts

/-! ## Histories -/

section Histories

variable {log : List (Nat × Deed)} {act : Act D} {result : Except AccessError Deed}

/-- The handle that an act is done with, or that comes of it. -/
def handleOf (c : Connections D) : Act D → Nat
  | .connect .. | .copy _ => c.handles.length
  | .ping handle | .disconnect handle => handle

/-- What is written down of an act: what was done, and with which handle. -/
def entries (c : Connections D) (act : Act D) : Except AccessError Deed → List (Nat × Deed)
  | .ok deed => [(c.handleOf act, deed)]
  | .error _ => []

/-- What acts lead to, whatever else happens in the world, with what was done. -/
inductive Reached (network : Option D → Network σ) : List (Nat × Deed) → Connections D → Prop
  | start : Reached network [] {}
  | step {log : List (Nat × Deed)} {c c' : Connections D} {act : Act D} {w w' : σ} {delay : Nat}
      {result : Except AccessError Deed} (before : Reached network log c)
      (stepped : c.step network act w = some (.after delay result, c', w')) :
      Reached network (log ++ c.entries act result) c'

/-- What was done at a probe, through whatever handle. -/
def deedsAt (c : Connections D) (place : Nat) (log : List (Nat × Deed)) : List Deed :=
  (log.filter fun entry => c.handles[entry.1]? = some place).map Prod.snd

/-- How many connections are open: one for each time that one was opened since the probe was last
given up. -/
def opened (deeds : List Deed) : Nat :=
  (deeds.reverse.takeWhile (· ≠ .closed)).countP (· ≠ .copied)

theorem opened_append (deeds : List Deed) (deed : Deed) : opened (deeds ++ [deed]) =
    match deed with
    | .closed => 0
    | .copied => opened deeds
    | _ => opened deeds + 1 := by
  unfold opened
  rw [List.reverse_append, List.reverse_singleton, List.singleton_append]
  cases deed <;> simp

/-- What a probe is like after what was done at it. -/
structure Tells (deeds : List Deed) (probe : TcpProbe) : Prop where
  streams : probe.streams.length = opened deeds
  closed : probe.isClosed = true ↔ .closed ∈ deeds

theorem Tells.connected {probe : TcpProbe} (one : probe.streams.length = 1)
    (fresh : probe.isClosed = false) : Tells [.connected] probe where
  streams := one
  closed := by simp [fresh]

section Tells

variable {deeds : List Deed} {probe : TcpProbe}

theorem Tells.copied (tells : Tells deeds probe) : Tells (deeds ++ [.copied]) probe where
  streams := by rw [opened_append, tells.streams]
  closed := by simp [tells.closed]

theorem Tells.answered (tells : Tells deeds probe) (seed : Seed) :
    Tells (deeds ++ [.answered]) (probe.keep seed) where
  streams := by rw [opened_append, TcpProbe.keep, List.length_append, tells.streams]; rfl
  closed := by simp [TcpProbe.keep, tells.closed]

theorem Tells.given_up (deeds : List Deed) (probe : TcpProbe) :
    Tells (deeds ++ [.closed]) probe.disconnect where
  streams := by rw [opened_append]; rfl
  closed := by simp [TcpProbe.disconnect]

end Tells

/-- The log of a history tells what every probe is like. -/
structure Tallied (c : Connections D) (log : List (Nat × Deed)) : Prop where
  seeded : c.Seeded
  numbered : ∀ entry ∈ log, entry.1 < c.handles.length
  tells {place : Nat} {probe : TcpProbe × Option D} (there : c.probes[place]? = some probe) :
    Tells (c.deedsAt place log) probe.1

/-- One more deed counts at the probe that its handle leads to. -/
theorem Tallied.deedsAt_append (tallied : Tallied c log) (kept : c.handles <+: c'.handles)
    (place handle : Nat) (deed : Deed) : c'.deedsAt place (log ++ [(handle, deed)]) =
      c.deedsAt place log ++ if c'.handles[handle]? = some place then [deed] else [] := by
  obtain ⟨more, same⟩ := kept
  have before : log.filter (fun entry => c'.handles[entry.1]? = some place) =
      log.filter fun entry => c.handles[entry.1]? = some place := by
    refine List.filter_congr fun entry mem => ?_
    rw [← same, List.getElem?_append_left (tallied.numbered entry mem)]
  unfold deedsAt
  rw [List.filter_append, List.map_append, before, List.filter_singleton]
  split <;> simp_all

/-- The handles so far are numbered below the one of an act that succeeds. -/
theorem Tallied.numbered_append (tallied : Tallied c log) (kept : c.handles <+: c'.handles)
    (inside : handle < c'.handles.length) (deed : Deed) :
    ∀ entry ∈ log ++ [(handle, deed)], entry.1 < c'.handles.length := by
  intro entry mem
  rcases List.mem_append.mp mem with old | new
  · exact Nat.lt_of_lt_of_le (tallied.numbered entry old) kept.length_le
  · rw [List.mem_singleton.mp new]
    exact inside

/-- Nothing was done yet at a place that no handle leads to. -/
theorem deedsAt_new (c : Connections D) (log : List (Nat × Deed)) :
    c.deedsAt c.probes.length log = [] := by
  have astray (handle : Nat) : c.handles[handle]? ≠ some c.probes.length := by
    intro leads
    exact Nat.lt_irrefl _ (c.sound _ (List.mem_of_getElem? leads))
  simp [deedsAt, astray]

theorem Tallied.add (tallied : Tallied c log) {p : TcpProbe} (nonempty : p.seeds ≠ [])
    (tells : Tells [.connected] p) (dialer : Option D) :
    Tallied (c.add (p, dialer)) (log ++ [(c.handles.length, .connected)]) := by
  have kept : c.handles <+: (c.add (p, dialer)).handles := List.prefix_append _ _
  have leads : (c.add (p, dialer)).handles[c.handles.length]? = some c.probes.length := by
    simp [Connections.add]
  refine ⟨?_, tallied.numbered_append kept (by simp [Connections.add]) _, ?_⟩
  · intro probe mem
    rcases List.mem_append.mp mem with old | new
    · exact tallied.seeded probe old
    · rw [List.mem_singleton.mp new]
      exact nonempty
  · intro place probe there
    rw [tallied.deedsAt_append kept, leads]
    unfold Connections.add at there
    have inside := (List.getElem?_eq_some_iff.mp there).1
    rw [List.length_append, List.length_singleton] at inside
    rcases Nat.lt_or_eq_of_le (Nat.le_of_lt_succ inside) with before | rfl
    · have apart : some c.probes.length ≠ some place := by
        rw [ne_eq, Option.some.injEq]
        omega
      rw [List.getElem?_append_left before] at there
      rw [if_neg apart, List.append_nil]
      exact tallied.tells there
    · rw [List.getElem?_concat_length] at there
      cases there
      rwa [deedsAt_new, if_pos rfl, List.nil_append]

theorem Tallied.copy (tallied : Tallied c log) (held : c.probe? handle = some probe) :
    Tallied (c.copy handle) (log ++ [(c.handles.length, .copied)]) := by
  obtain ⟨place, leads, -⟩ := exists_place held
  have handles := handles_copy leads
  have kept : c.handles <+: (c.copy handle).handles := by
    rw [handles]
    exact List.prefix_append _ _
  refine ⟨tallied.seeded, tallied.numbered_append kept (by simp [handles]) _, ?_⟩
  intro place' probe' there
  rw [tallied.deedsAt_append kept, handles, List.getElem?_concat_length]
  have tells := tallied.tells there
  split
  · exact tells.copied
  · rwa [List.append_nil]

theorem Tallied.update (tallied : Tallied c log) (held : c.probe? handle = some probe) (deed : Deed)
    (seeds : ∀ p, (f p).seeds = p.seeds)
    (tells : ∀ deeds p, Tells deeds p → Tells (deeds ++ [deed]) (f p)) :
    Tallied (c.update handle f) (log ++ [(handle, deed)]) := by
  have kept : c.handles <+: (c.update handle f).handles := List.prefix_rfl
  have inside : handle < c.handles.length := handle_lt held
  refine ⟨?_, tallied.numbered_append kept inside _, ?_⟩
  · intro probe' mem
    obtain ⟨place, there⟩ := List.mem_iff_getElem?.mp mem
    rw [probes_update] at there
    split at there
    · obtain ⟨old, before, rfl⟩ := Option.map_eq_some_iff.mp there
      rw [seeds]
      exact tallied.seeded old (List.mem_of_getElem? before)
    · exact tallied.seeded probe' (List.mem_of_getElem? there)
  · intro place probe' there
    have same : (c.update handle f).handles = c.handles := rfl
    rw [probes_update] at there
    rw [tallied.deedsAt_append kept, same]
    split at there
    next leads =>
      obtain ⟨old, before, rfl⟩ := Option.map_eq_some_iff.mp there
      rw [if_pos leads]
      exact tells _ _ (tallied.tells before)
    next apart =>
      rw [if_neg apart, List.append_nil]
      exact tallied.tells there

theorem Tallied.step (tallied : Tallied c log) (steps : Steps c act result c') :
    Tallied c' (log ++ c.entries act result) := by
  cases steps with
  | failed e => rwa [entries, List.append_nil]
  | connected nonempty one fresh => exact tallied.add nonempty (.connected one fresh) _
  | copied held => exact tallied.copy held
  | answered held seed =>
    exact tallied.update held _ (fun _ => rfl) fun _ _ tells => tells.answered seed
  | closed held => exact tallied.update held _ (fun _ => rfl) fun _ _ _ => .given_up _ _

theorem Reached.tallied (reached : Reached network log c) : Tallied c log := by
  induction reached with
  | start => exact ⟨by simp [Seeded], by simp, by simp⟩
  | step before stepped ih => exact ih.step (step_steps ih.seeded stepped)

end Histories

/-! ## The law -/

/-- What every act comes to, whatever the world is like. -/
structure Lawful (network : Option D → Network σ) (c : Connections D) : Prop where
  /-- What is wrong with a list of seeds is told, and nothing else happens. -/
  invalid (target : Target) (dialer : Option D) (o : ConnectOptions) (w : σ) {e : AccessError}
    (h : TcpProbe.seedsOf target = .error e) :
    c.step network (.connect target dialer o) w = some (.after 0 (.error e), c, w)
  /-- Of a race that is won, one connection is kept, behind a handle that leads nowhere else. -/
  connect (target : Target) (dialer : Option D) (o : ConnectOptions) (w : σ) {seeds : List Seed}
    (h : TcpProbe.seedsOf target = .ok seeds) : ∃ delay r result c' w',
    Race o.connectTimeout ((network dialer).answers seeds w) delay r ∧
    c.step network (.connect target dialer o) w = some (.after delay result, c', w') ∧
    match r with
    | .ok seed => result = .ok .connected ∧
      Grown c c' (some (
        { seeds, isProxied := dialer.isSome, selectionTimeout := o.selectionTimeout,
          isClosed := false, streams := [seed] }, dialer)) ∧
      ∀ other < c.handles.length, ¬ c'.Shares other c.handles.length
    | .error e => result = .error (.driver s!"no seed host reachable: {e.message}") ∧ c' = c
  /-- Of a race that is won, one more connection is kept. -/
  ping {handle : Nat} {probe : TcpProbe} {dialer : Option D}
    (held : c.probe? handle = some (probe, dialer)) (w : σ) : ∃ delay r result c' w',
    Race probe.selectionTimeout ((probe.network (network dialer)).answers probe.seeds w) delay r ∧
    c.step network (.ping handle) w = some (.after delay result, c', w') ∧
    match r with
    | .ok seed => result = .ok .answered ∧
      Changed c c' handle fun probe => { probe with streams := probe.streams ++ [seed] }
    | .error e => result = .error (.driver s!"no seed host answered: {e.message}") ∧ c' = c
  disconnect {handle : Nat} {probe : TcpProbe × Option D} (held : c.probe? handle = some probe)
    (w : σ) : ∃ c', c.step network (.disconnect handle) w = some (.after 0 (.ok .closed), c', w) ∧
      Changed c c' handle fun probe => { probe with isClosed := true, streams := [] }
  copy {handle : Nat} {probe : TcpProbe × Option D} (held : c.probe? handle = some probe) (w : σ) :
    ∃ c', c.step network (.copy handle) w = some (.after 0 (.ok .copied), c', w) ∧
      Grown c c' (some probe) ∧ c'.Shares handle c.handles.length

theorem lawful (network : Option D → Network σ) (seeded : c.Seeded) : Lawful network c where
  invalid target dialer o w e h := step_connect_invalid h network c dialer o w
  connect target dialer o w seeds h := by
    obtain ⟨delay, r, w', race, done⟩ := step_connect h network c dialer o w
    cases r with
    | error e => exact ⟨delay, _, _, c, w', race, done, rfl, rfl⟩
    | ok seed =>
      refine ⟨delay, _, _, _, w', race, done, rfl, grown_add c _, ?_⟩
      intro other there shares
      have leads : c.handles[other]? = some c.probes.length := by
        simpa [Shares, add, List.getElem?_append_left there] using shares
      exact Nat.lt_irrefl _ (c.sound _ (List.mem_of_getElem? leads))
  ping {handle probe dialer} held w := by
    obtain ⟨delay, r, w', race, done⟩ := step_ping held (seeded.of_held held) network w
    cases r with
    | error e => exact ⟨delay, _, _, c, w', race, done, rfl, rfl⟩
    | ok seed => exact ⟨delay, _, _, _, w', race, done, rfl, changed_update c handle _⟩
  disconnect {handle probe} held w :=
    ⟨_, step_disconnect held network w, changed_update c handle _⟩
  copy {handle probe} held w := by
    obtain ⟨place, leads, -⟩ := exists_place held
    have inside := handle_lt held
    refine ⟨_, step_copy held network w, held ▸ grown_copy held, ?_⟩
    rw [Shares, handles_copy leads, List.getElem?_concat_length,
      List.getElem?_append_left inside, leads]

/-- Dialing seeds is a race that is won if one of them accepts in time. Connections that come of it
are shared by all copies of a handle, and so is that they were given up. A history tells how many
connections are kept behind each handle, and whether they were given up. -/
theorem shared_law {network : Option D → Network σ} {log : List (Nat × Deed)} {c : Connections D}
    (reached : Reached network log c) :
    (∀ (net : Network σ) (t : Duration) (seeds : List Seed) (w : σ), seeds ≠ [] →
      ∃ delay r, (dialAny net t seeds w).1 = .after delay r ∧
        Race t (net.answers seeds w) delay r ∧
        ((∃ seed, r = .ok seed) ↔
          ∃ seed d, (seed, .after d (.ok ())) ∈ net.answers seeds w ∧ d ≤ t.milliseconds)) ∧
    Lawful network c ∧
    ∀ handle probe dialer, c.probe? handle = some (probe, dialer) →
      ∃ place, c.handles[handle]? = some place ∧ Tells (c.deedsAt place log) probe := by
  refine ⟨fun net t seeds w nonempty => ?_, lawful network reached.tallied.seeded, ?_⟩
  · obtain ⟨delay, r, dialed, race⟩ := dialAny_race nonempty net t w
    exact ⟨delay, r, dialed, race, race.isOk_iff⟩
  · intro handle probe dialer held
    obtain ⟨place, leads, there⟩ := exists_place held
    exact ⟨place, leads, reached.tallied.tells there⟩

/-- Where everyone accepts connections, but not at once. -/
def accepting (_ : Option Unit) : Network Unit := ⟨fun _ _ world => (.after 5 (.ok ()), world)⟩

/-- Tested through a copy, a probe keeps two connections, and they are seen through the handle that
was copied. -/
theorem shared_law_copy : ∃ c probe,
    Reached accepting [(0, .connected), (1, .copied), (1, .answered)] c ∧
    c.probe? 0 = some (probe, none) ∧ probe.streams.length = 2 ∧ probe.isClosed = false := by
  let o := ({} : PoolSettings).directOptions
  let seed : Seed := ⟨"db", 27017⟩
  let probe : TcpProbe := ⟨[seed], false, o.selectionTimeout, false, [seed]⟩
  let fresh : Connections Unit := ({} : Connections Unit).add (probe, none)
  have connects : ({} : Connections Unit).step accepting
      (.connect (TcpProbe.listing "db") none o) () =
        some (.after 5 (.ok .connected), fresh, ()) := rfl
  have copies : fresh.step accepting (.copy 0) () =
      some (.after 0 (.ok .copied), fresh.copy 0, ()) := rfl
  have answers : (fresh.copy 0).step accepting (.ping 1) () =
      some (.after 5 (.ok .answered), (fresh.copy 0).update 1 fun p => p.keep seed, ()) := rfl
  have reached := ((Reached.start.step connects).step copies).step answers
  have held : ((fresh.copy 0).update 1 fun p => p.keep seed).probe? 0 =
      some (probe.keep seed, none) := rfl
  obtain ⟨place, leads, tells⟩ := (shared_law reached).2.2 0 (probe.keep seed) none held
  cases leads
  refine ⟨_, _, reached, held, tells.streams, Bool.eq_false_iff.mpr fun closed => ?_⟩
  have noneClosed : Deed.closed ∉ [.connected, .copied, .answered] := by decide
  exact noneClosed (tells.closed.mp closed)

end Connections
end ClusterAccess.Probe
