import ClusterAccess.Proofs.Pool.Call
import ClusterAccess.Proofs.Run.Provisioning
import ClusterAccess.Proofs.Run.Record

/-!
# What calls leave behind

A finished call leaves connections in two states: given up after a failed test, or, at most one,
handed to the caller and kept by the pool.

## Main definitions

* `Outcome.toList`: the result, if there is one.
* `Served`: what a call adds to the pool and to the record.

## Main statements

* `Attempted.grown`: a connection that fails its test is given up within the attempt.
* `Retried.grown`, `Opened.grown`: the same for all attempts of a call.
* `Connected.served`: every finished call adds to the pool and to the record in this way.
-/
namespace ClusterAccess

open Time

variable {σ C α β : Type}

namespace Outcome

def toList : Outcome α → List α
  | ok a => [a]
  | _ => []

@[simp] theorem toList_ok (a : α) : (ok a).toList = [a] := rfl

@[simp] theorem toList_failed (e : AccessError) : (failed e : Outcome α).toList = [] := rfl

@[simp] theorem toList_aborted : (aborted : Outcome α).toList = [] := rfl

theorem PassedOn.toList_eq {o : Outcome α} {o' : Outcome β} (h : o.PassedOn o') :
    o.toList = [] ∧ o'.toList = [] := by
  cases h <;> exact ⟨rfl, rfl⟩

theorem PassedOn.ne_ok {o : Outcome α} {o' : Outcome β} (h : o.PassedOn o') (a : α) :
    o ≠ .ok a := by
  cases h <;> simp

theorem PassedOn.stuck_iff {o : Outcome α} {o' : Outcome β} (h : o.PassedOn o') :
    o = .stuck ↔ o' = .stuck := by
  cases h <;> simp

end Outcome

/-- Whatever becomes of a wait, it adds nothing to what its start did, which may not have come
about at all. -/
theorem Awaited.grown {cancelAt : Option Nat} {r started r' : Run σ C} {reply : Reply (Outcome α)}
    {o : Outcome α} {asked : List String} (h : Awaited cancelAt r reply started o r')
    (hs : Grown asked [] [] [] r started) :
    Grown [] [] [] [] r r' ∨ Grown asked [] [] [] r r' := by
  cases h with
  | late => exact .inl (.refl r)
  | cut => exact .inr (hs.atTime _)
  | answered => exact .inr (hs.atTime _)
  | silent => exact .inr hs

/-- A call that neither asks for an account nor gives a connection up adds nothing by itself. -/
theorem Awaited.unchanged {cancelAt : Option Nat} {r r' : Run σ C} {reply : Reply (Outcome α)}
    {call : Call C} {w : σ} {o : Outcome α} (h : Awaited cancelAt r reply (r.begun call w) o r')
    (hc : call.creation? = none) (hd : call.disconnect? = none) : Grown [] [] [] [] r r' := by
  have begun := Grown.begun r call w hd
  rw [hc] at begun
  exact (h.grown begun).elim id id

theorem Task.await_ask_grown {cancelAt : Option Nat} {call : Call C}
    {f : σ → Reply (Except AccessError α) × σ} {r r' : Run σ C} {o : Outcome α}
    (h : Task.await cancelAt (Services.ask call f) r = (o, r')) (hc : call.creation? = none)
    (hd : call.disconnect? = none) : Grown [] [] [] [] r r' :=
  (Task.await_ask h).unchanged hc hd

/-- A disconnect that nothing cancels is called. -/
theorem Task.await_disconnect {s : Services σ C} {c : C} {r r' : Run σ C}
    {x : Except AccessError Unit} (h : Task.await none (s.askDisconnect c) r = (.ofExcept x, r')) :
    ∃ d w, (s.disconnect c r.world) = (.after d x, w) ∧
      r' = (r.begun (.disconnect c) w).atTime (r.now + d) := by
  have key := Task.await_ask h
  rcases hf : s.disconnect c r.world with ⟨reply, w⟩
  rw [hf] at key
  generalize ho : Outcome.ofExcept x = o at key
  cases key with
  | late cancel => cases cancel
  | cut cancel => cases cancel
  | @answered d _ answer _ =>
    obtain ⟨y, rfl, he⟩ := Reply.map_eq_after.mp answer
    obtain rfl := Outcome.ofExcept_injective (he.trans ho.symm)
    exact ⟨d, w, rfl, rfl⟩
  | silent => exact absurd ho Outcome.ofExcept_ne_stuck

variable {p : PoolConfig σ C} {cancelAt : Option Nat} {key : ClusterKey} {target : Target}
  {dialer : Option ProxyDialer} {options : ConnectOptions} {attempt left : Nat}
  {last : AccessError} {credential : Credential} {project : String} {pool pool' : Pool C}
  {r r' : Run σ C}

theorem PoolConfig.wait_grown {o : Outcome Unit} (h : p.wait cancelAt attempt r = (o, r')) :
    Grown [] [] [] [] r r' := by
  obtain ⟨-, elapsed, rfl⟩ := p.wait_cases h
  exact (Grown.note r (.wait attempt) rfl).atTime _

/-- A connection that fails its test, or whose test is cut short, is given up exactly once before
the attempt ends; one that passes is the outcome. -/
theorem Attempted.grown {o : Outcome C}
    (h : Attempted p cancelAt key target dialer options attempt r o r') (ho : o ≠ .stuck) :
    ∃ lost, lost.length ≤ 1 ∧
      Grown [] ((lost ++ o.toList).map (key, target, ·)) o.toList lost r r' := by
  cases h with
  | @undialed e r₁ dial =>
    have dialed := (Task.await_ask_grown dial rfl rfl).trans
      (.note r₁ (.dialed key target (.error e)) rfl)
    exact ⟨[], by simp, dialed⟩
  | @passed c r₁ r₂ dial ping =>
    have dialed := (Task.await_ask_grown dial rfl rfl).trans
      (.note r₁ (.dialed key target (.ok c)) rfl)
    have pinged := (Task.await_ask_grown ping rfl rfl).trans (.note r₂ (.pinged c (.ok ())) rfl)
    exact ⟨[], by simp, dialed.trans pinged⟩
  | @failed c e r₁ r₂ r₃ x dial ping discard =>
    have dialed := (Task.await_ask_grown dial rfl rfl).trans
      (.note r₁ (.dialed key target (.ok c)) rfl)
    have pinged := Task.await_ask_grown ping rfl rfl
    obtain ⟨d, w, -, rfl⟩ := Task.await_disconnect discard
    have gone := ((Grown.givenUp r₂ c e w).atTime (r₂.now + d)).trans
      (.note _ (.disconnected c x) rfl)
    exact ⟨[c], by simp, (dialed.trans pinged).trans gone⟩
  | silent => exact absurd rfl ho

/-- All attempts together: the connections that failed are given up, and the last one is kept. -/
theorem Retried.grown {o : Outcome C}
    (h : Retried p cancelAt key target dialer options left last r o r') (ho : o ≠ .stuck) :
    ∃ lost, Grown [] ((lost ++ o.toList).map (key, target, ·)) o.toList lost r r' := by
  induction h with
  | exhausted last r => exact ⟨[], .refl r⟩
  | ended attempt =>
    obtain ⟨lost, -, grown⟩ := attempt.grown ho
    exact ⟨lost, grown⟩
  | cancelled attempt _ wait =>
    obtain ⟨lost, -, grown⟩ := attempt.grown (by simp)
    exact ⟨lost, by simpa using grown.trans (PoolConfig.wait_grown wait)⟩
  | again attempt _ wait _ ih =>
    obtain ⟨lost, -, grown⟩ := attempt.grown (by simp)
    obtain ⟨lost', grown'⟩ := ih ho
    exact ⟨lost ++ lost', by
      simpa [List.append_assoc] using (grown.trans (PoolConfig.wait_grown wait)).trans grown'⟩

theorem PoolConfig.askEndpoint_eq :
    p.askEndpoint key r =
      ((p.services.clusterInfo key.project key.cluster r.world).1.map fun found =>
          found.handle fun info => .ofExcept (Endpoint.resolve key.project key.cluster info),
        r.begun (.clusterInfo key.project key.cluster)
          (p.services.clusterInfo key.project key.cluster r.world).2) := rfl

theorem PoolConfig.await_askEndpoint {o : Outcome Endpoint}
    (h : Task.await cancelAt (p.askEndpoint key) r = (o, r')) :
    Awaited cancelAt r (p.askEndpoint key r).1
      (r.begun (.clusterInfo key.project key.cluster)
        (p.services.clusterInfo key.project key.cluster r.world).2) o r' := by
  have key := Task.await_awaited cancelAt (p.askEndpoint key) r rfl
  rw [h] at key
  exact key

theorem Opened.grown {o : Outcome C} (h : Opened p cancelAt key dialer credential r o r')
    (ho : o ≠ .stuck) :
    ∃ lost endpoint,
      Grown [] ((lost ++ o.toList).map (key, Target.assemble endpoint credential, ·)) o.toList lost
        r r' := by
  cases h with
  | unstarted wait => exact ⟨[], ⟨.standard, "", false⟩, PoolConfig.wait_grown wait⟩
  | unresolved wait lookUp passedOn =>
    have waited := PoolConfig.wait_grown wait
    have lookedUp := (p.await_askEndpoint lookUp).unchanged rfl rfl
    exact ⟨[], ⟨.standard, "", false⟩,
      by simpa [passedOn.toList_eq.2] using waited.trans lookedUp⟩
  | @attempted r₁ r₂ _ endpoint _ wait lookUp attempts =>
    have waited := PoolConfig.wait_grown wait
    have lookedUp := (p.await_askEndpoint lookUp).unchanged rfl rfl
    obtain ⟨lost, grown⟩ := attempts.grown ho
    exact ⟨lost, endpoint, by simpa using (waited.trans lookedUp).trans grown⟩

/-! ## Accounts -/

theorem Provisioned.grown {s : Services σ C} {settings : AccountSettings}
    {reply : Reply (Outcome Credential)} {started : Run σ C}
    (h : Provisioned s settings project r reply started) :
    Grown [] [] [] [] r started ∨ Grown [project] [] [] [] r started := by
  cases h with
  | early => exact .inl (.begun r (.password _) _ rfl)
  | @asked order world =>
    have drawn := Grown.begun r (.password settings.passwordPolicy) world rfl
    exact .inr (drawn.trans (.begun _ (.createAccount project order.request) _ rfl))

theorem PoolConfig.await_provision {o : Outcome Credential}
    (h : Task.await cancelAt (p.services.provision p.settings.account project) r = (o, r')) :
    ∃ reply started, Provisioned p.services p.settings.account project r reply started ∧
      Awaited cancelAt r reply started o r' := by
  have provisioned := p.services.provision_provisioned p.settings.account project r
  have key := Task.await_awaited cancelAt _ r provisioned.now_eq
  rw [h] at key
  exact ⟨_, _, provisioned, key⟩

/-- At most one account is asked for, and a credential that comes of it belongs to the project. -/
theorem PoolConfig.await_provision_grown {o : Outcome Credential}
    (h : Task.await cancelAt (p.services.provision p.settings.account project) r = (o, r')) :
    (Grown [] [] [] [] r r' ∨ Grown [project] [] [] [] r r') ∧
      ∀ c, o = .ok c → c.owner = project := by
  obtain ⟨reply, started, provisioned, awaited⟩ := p.await_provision h
  refine ⟨?_, ?_⟩
  · rcases provisioned.grown with grown | grown
    · exact .inl ((awaited.grown grown).elim id id)
    · exact awaited.grown grown
  · rintro c rfl
    cases awaited with
    | answered answer => exact provisioned.owner answer

/-! ## Whole calls -/

/-- What a call for `key` adds to the pool and to the record: accounts asked for, credentials made
of them, connections given up as `lost`, and connections `kept`, all of which were opened for the
key and for `target`. -/
structure Served (key : ClusterKey) (asked : List String) (made : List Credential)
    (lost kept : List C) (target : Target) (pool pool' : Pool C) (r r' : Run σ C) : Prop where
  grown : Grown asked ((lost ++ kept).map (key, target, ·)) kept lost r r'
  credentials : pool'.credentials = pool.credentials ++ made.map (key.project, ·)
  connections : pool'.connections = pool.connections ++ kept.map (key, ·)
  isClosed : pool'.isClosed = pool.isClosed
  /-- An account is asked for only where there is no credential. -/
  asked_cases : asked = [] ∨ asked = [key.project] ∧ pool.credential? key.project = none
  made_cases : made = [] ∨
    ∃ c, made = [c] ∧ c.owner = key.project ∧ pool.credential? key.project = none
  /-- A connection is kept only where there is none, for a target with the kept credential. -/
  kept_cases : kept = [] ∨ ∃ c credential endpoint, kept = [c] ∧ pool.isClosed = false ∧
    pool.connection? key = none ∧ pool'.credential? key.project = some credential ∧
    target = .assemble endpoint credential

@[simp] theorem Pool.connection?_putCredential (pool : Pool C) (c : Credential) :
    (pool.putCredential project c).connection? key = pool.connection? key := rfl

@[simp] theorem Pool.credential?_putConnection (pool : Pool C) (c : C) :
    (pool.putConnection key c).credential? project = pool.credential? project := rfl

theorem Pool.credential?_putCredential {pool : Pool C} (h : pool.credential? project = none)
    (c : Credential) : (pool.putCredential project c).credential? project = some c := by
  unfold credential? at h
  simp [credential?, putCredential, List.lookup_append, h]

/-- A pool that nothing happens to is served. -/
theorem Served.refl (key : ClusterKey) (target : Target) (pool : Pool C) (r : Run σ C) :
    Served key [] [] [] [] target pool pool r r :=
  ⟨.refl r, by simp, by simp, rfl, .inl rfl, .inl rfl, .inl rfl⟩

theorem Credited.served {o : Outcome Credential}
    (h : Credited p cancelAt key.project pool r o pool' r') (target : Target) :
    ∃ asked made, Served key asked made [] [] target pool pool' r r' ∧
      ∀ c, o = .ok c → pool'.credential? key.project = some c := by
  cases h with
  | kept present =>
    refine ⟨[], [], .refl key target pool r, ?_⟩
    rintro c ⟨⟩
    exact present
  | @made c _ absent provision =>
    obtain ⟨grown, owner⟩ := PoolConfig.await_provision_grown provision
    have owned : [c] = [] ∨ ∃ c', [c] = [c'] ∧ c'.owner = key.project ∧
        pool.credential? key.project = none := .inr ⟨c, rfl, owner c rfl, absent⟩
    have present : ∀ c', Outcome.ok c = .ok c' →
        (pool.putCredential key.project c).credential? key.project = some c' := by
      rintro c' ⟨⟩
      exact Pool.credential?_putCredential absent c
    rcases grown with grown | grown
    · exact ⟨[], [c], ⟨grown, rfl, by simp [Pool.putCredential], rfl, .inl rfl, owned, .inl rfl⟩,
        present⟩
    · exact ⟨[key.project], [c],
        ⟨grown, rfl, by simp [Pool.putCredential], rfl, .inr ⟨rfl, absent⟩, owned, .inl rfl⟩,
        present⟩
  | refused absent provision noResult =>
    obtain ⟨grown, -⟩ := PoolConfig.await_provision_grown provision
    have none : ∀ c, o = .ok c → pool.credential? key.project = some c :=
      fun c hc => absurd hc (noResult c)
    rcases grown with grown | grown
    · exact ⟨[], [], ⟨grown, by simp, by simp, rfl, .inl rfl, .inl rfl, .inl rfl⟩, none⟩
    · exact ⟨[key.project], [],
        ⟨grown, by simp, by simp, rfl, .inr ⟨rfl, absent⟩, .inl rfl, .inl rfl⟩, none⟩

/-- The attempts of a call come on top of what getting the credential added. -/
theorem Served.attempts {asked : List String} {made : List Credential} {lost kept : List C}
    {pool₁ : Pool C} {r₁ : Run σ C} (h : Served key asked made [] [] target pool pool₁ r r₁)
    (g : Grown [] ((lost ++ kept).map (key, target, ·)) kept lost r₁ r')
    (hk : kept = [] ∨ ∃ c credential endpoint, kept = [c] ∧ pool.isClosed = false ∧
      pool.connection? key = none ∧ pool₁.credential? key.project = some credential ∧
      target = .assemble endpoint credential) :
    Served key asked made lost kept target pool
      { pool₁ with connections := pool₁.connections ++ kept.map (key, ·) } r r' where
  grown := by simpa using h.grown.trans g
  credentials := h.credentials
  connections := by simp [h.connections]
  isClosed := h.isClosed
  asked_cases := h.asked_cases
  made_cases := h.made_cases
  kept_cases := hk

/-- What every finished call adds, and where the connection that is kept goes. -/
theorem Connected.served {o : Outcome (Credential × C)}
    (h : Connected p cancelAt key pool r o pool' r') (ho : o ≠ .stuck) :
    ∃ asked made lost kept target, Served key asked made lost kept target pool pool' r r' := by
  cases h with
  | closed => exact ⟨_, _, _, _, ⟨.standard, "", "", .ofString ""⟩, .refl key _ pool r⟩
  | misconfigured => exact ⟨_, _, _, _, ⟨.standard, "", "", .ofString ""⟩, .refl key _ pool r⟩
  | @unprovisioned _ o₁ _ _ isOpen dialer absent provision passedOn =>
    have credited : Credited p cancelAt key.project pool r o₁ pool r' :=
      .refused absent provision passedOn.ne_ok
    obtain ⟨asked, made, served, -⟩ := credited.served ⟨.standard, "", "", .ofString ""⟩
    exact ⟨asked, made, [], [], _, served⟩
  | hit isOpen dialer credited present =>
    obtain ⟨asked, made, served, -⟩ := credited.served ⟨.standard, "", "", .ofString ""⟩
    exact ⟨asked, made, [], [], _, served⟩
  | @opened d credential c pool₁ r₁ r₂ isOpen dialer credited absent opening =>
    obtain ⟨lost, endpoint, grown⟩ := opening.grown (by simp)
    obtain ⟨asked, made, served, present⟩ := credited.served (.assemble endpoint credential)
    refine ⟨asked, made, lost, [c], _, served.attempts grown ?_⟩
    refine .inr ⟨c, credential, endpoint, rfl, isOpen, ?_, present _ rfl, rfl⟩
    simpa [Pool.connection?, served.connections] using absent
  | @unopened d credential o₁ _ pool₁ r₁ r₂ isOpen dialer credited absent opening passedOn =>
    obtain ⟨lost, endpoint, grown⟩ := opening.grown (mt passedOn.stuck_iff.mp ho)
    obtain ⟨asked, made, served, -⟩ := credited.served (.assemble endpoint credential)
    rw [passedOn.toList_eq.1] at grown
    have key := served.attempts grown (.inl rfl)
    exact ⟨asked, made, lost, [], _, by simpa using key⟩

end ClusterAccess
