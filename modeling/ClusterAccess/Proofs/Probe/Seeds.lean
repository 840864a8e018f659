import ClusterAccess.Proofs.Probe.Log
import ClusterAccess.Proofs.Text.Numerals
import ClusterAccess.Proofs.Uri
import Mathlib.Data.List.Basic

/-!
# Written seeds

The written forms of a seed as a grammar, apart from the way in which they are read. A bracket only
counts in front, and the first one that closes it ends the host. A host without brackets ends at the
last colon.

## Main definitions

* `Seed.PortText`: what may follow a host.
* `Seed.Named`: the texts that name a seed.
* `Seed.Trailed`: texts that name a host, with something behind it that does not belong there.

## Main statements

* `Seed.parse?_eq_some_iff`: exactly these texts are read, as the seeds that they name.
* `Seed.Named.not_trailed`: no text is of both kinds.
* `TcpProbe.seeds_law`: what is dialed for a list of seeds.
-/
namespace ClusterAccess.Probe

open Time

variable {s host port tail : List Char} {n : Nat} {seed : Seed} {raw : String}

namespace Seed

/-! ## The grammar -/

/-- What may follow a host, with the port that is meant: nothing, or a colon and a port. -/
inductive PortText : List Char → Nat → Prop
  | default : PortText [] defaultPort
  | given {port : List Char} {n : Nat}
      (reads : Text.Numeral.bounded? 65535 (String.ofList port) = some n) : PortText (':' :: port) n

/-- The texts that name a seed. -/
inductive Named : List Char → Seed → Prop
  /-- A host that stands alone has no colon, since the last one would be taken for the port's. -/
  | plain {host tail : List Char} {n : Nat} (nonempty : host ≠ [])
      (noBracket : host.head? ≠ some '[') (whole : tail = [] → ':' ∉ host)
      (port : PortText tail n) :
      Named (host ++ tail) ⟨String.ofList host, n⟩
  | bracketed {host tail : List Char} {n : Nat} (nonempty : host ≠ []) (noClose : ']' ∉ host)
      (port : PortText tail n) : Named ('[' :: (host ++ ']' :: tail)) ⟨String.ofList host, n⟩

/-- A host in brackets, and behind them a text that is no port. -/
inductive Trailed : List Char → Seed → Prop
  | bracketed {host tail : List Char} (nonempty : host ≠ []) (noClose : ']' ∉ host)
      (more : tail ≠ []) (noColon : tail.head? ≠ some ':') :
      Trailed ('[' :: (host ++ ']' :: tail)) ⟨String.ofList host, defaultPort⟩

/-! ## Where the host ends -/

theorem split?_bracketed (noClose : ']' ∉ host) (tail : List Char) :
    split? ('[' :: (host ++ ']' :: tail)) =
      some (host, match tail with | ':' :: port => some port | _ => none) := by
  unfold split?
  simp only [Uri.takeWhile_ne noClose, List.drop_left]
  split <;> simp_all

theorem split?_unclosed (noClose : ']' ∉ s) : split? ('[' :: s) = none := by
  have all : s.takeWhile (· != ']') = s := by
    have inside : ∀ c ∈ s, (c != ']') = true := fun c mem =>
      bne_iff_ne.mpr fun same => noClose (same ▸ mem)
    rw [← List.append_nil s, List.takeWhile_append_of_pos inside, List.takeWhile_nil]
  simp only [split?, all, List.drop_length]

theorem exists_last_colon (colon : ':' ∈ s) :
    ∃ host port, s = host ++ ':' :: port ∧ ':' ∉ port := by
  obtain ⟨after, before, reversed, last⟩ := List.eq_append_cons_of_mem (List.mem_reverse.mpr colon)
  refine ⟨before.reverse, after.reverse, ?_, by simpa using last⟩
  rw [← List.reverse_reverse s, reversed, List.reverse_append, List.reverse_cons,
    List.append_assoc, List.singleton_append]

/-- Of several colons the last one is in front of the port. -/
theorem split?_port (noBracket : (host ++ ':' :: port).head? ≠ some '[') (last : ':' ∉ port) :
    split? (host ++ ':' :: port) = some (host, some port) := by
  have behind : ((host ++ ':' :: port).reverse.takeWhile (· != ':')).reverse = port := by
    rw [List.reverse_append, List.reverse_cons, List.append_assoc, List.singleton_append,
      Uri.takeWhile_ne (by simpa using last), List.reverse_reverse]
  have inFront : (host ++ ':' :: port).length - port.length - 1 = host.length := by
    simp only [List.length_append, List.length_cons]
    omega
  unfold split?
  split
  next rest same =>
    rw [same] at noBracket
    cases noBracket rfl
  · simp only [List.contains_eq_mem, List.mem_append, List.mem_cons, true_or, or_true, decide_true,
      if_true, behind, inFront, List.take_left]

theorem split?_plain (noBracket : s.head? ≠ some '[') (noColon : ':' ∉ s) :
    split? s = some (s, none) := by
  unfold split?
  split
  next rest => cases noBracket rfl
  · rw [List.contains_eq_mem, decide_eq_false noColon, if_neg Bool.false_ne_true]

/-! ## What is read -/

/-- The port that is meant by what is given as one. -/
def portOf? : Option (List Char) → Option Nat
  | none => some defaultPort
  | some port => Text.Numeral.bounded? 65535 (String.ofList port)

theorem parse?_eq_some_iff_split? : parse? raw = some seed ↔ ∃ host port n,
    split? raw.toList = some (host, port) ∧ host ≠ [] ∧ portOf? port = some n ∧
      seed = ⟨String.ofList host, n⟩ := by
  have cut : parse? raw = (split? raw.toList).bind fun (host, port) =>
      if host = [] then none else (portOf? port).map fun n => ⟨String.ofList host, n⟩ := by
    unfold parse?
    split <;> rename_i same <;> rw [same]
    · rfl
    next host port => cases host <;> cases port <;> rfl
  simp only [cut, Option.bind_eq_some_iff, Prod.exists, Option.ite_none_left_eq_some,
    Option.map_eq_some_iff, exists_and_left, eq_comm (a := seed)]

/-- A port has no colon, being a number. -/
theorem colon_not_mem (reads : Text.Numeral.bounded? 65535 (String.ofList port) = some n) :
    ':' ∉ port := by
  obtain ⟨digits, written, number, -⟩ := Text.Numeral.of_bounded? reads
  have noDigit : ':' ∉ digits := fun mem =>
    absurd (List.all_eq_true.mp (Text.Numeral.of_natural? number).2.1 _ mem) (by decide)
  rw [String.toList_ofList] at written
  rcases written with rfl | rfl
  · exact noDigit
  · rw [List.mem_cons, not_or]
    exact ⟨by decide, noDigit⟩

theorem parse?_of_named (named : Named raw.toList seed) : parse? raw = some seed := by
  rw [parse?_eq_some_iff_split?]
  generalize raw.toList = s at named
  cases named with
  | @plain host _ n nonempty noBracket whole port =>
    cases port with
    | default =>
      rw [List.append_nil]
      exact ⟨host, none, _, split?_plain noBracket (whole rfl), nonempty, rfl, rfl⟩
    | @given port _ reads =>
      have stillNone : (host ++ ':' :: port).head? ≠ some '[' :=
        List.head?_append_of_ne_nil host nonempty ▸ noBracket
      exact ⟨host, _, n, split?_port stillNone (colon_not_mem reads), nonempty, reads, rfl⟩
  | @bracketed host _ n nonempty noClose port =>
    cases port with
    | default => exact ⟨host, none, _, split?_bracketed noClose _, nonempty, rfl, rfl⟩
    | given reads => exact ⟨host, _, n, split?_bracketed noClose _, nonempty, reads, rfl⟩

theorem parse?_of_trailed (trailed : Trailed raw.toList seed) : parse? raw = some seed := by
  rw [parse?_eq_some_iff_split?]
  generalize raw.toList = s at trailed
  obtain ⟨nonempty, noClose, more, noColon⟩ := trailed
  refine ⟨_, none, _, ?_, nonempty, rfl, rfl⟩
  rw [split?_bracketed noClose]
  split
  next => cases noColon rfl
  · rfl

/-- Exactly the texts that name a seed are read, but also a host in brackets whatever follows. -/
theorem parse?_eq_some_iff :
    parse? raw = some seed ↔ Named raw.toList seed ∨ Trailed raw.toList seed := by
  refine ⟨fun read => ?_, fun h => h.elim parse?_of_named parse?_of_trailed⟩
  obtain ⟨host, port, n, found, nonempty, meant, rfl⟩ := parse?_eq_some_iff_split?.mp read
  generalize raw.toList = s at found
  by_cases bracket : s.head? = some '['
  · obtain ⟨rest, rfl⟩ := List.head?_eq_some_iff.mp bracket
    by_cases close : ']' ∈ rest
    · obtain ⟨inside, tail, rfl, noClose⟩ := List.eq_append_cons_of_mem close
      rw [split?_bracketed noClose] at found
      obtain ⟨rfl, rfl⟩ := Prod.mk.inj (Option.some.inj found)
      by_cases colon : tail.head? = some ':'
      · obtain ⟨port, rfl⟩ := List.head?_eq_some_iff.mp colon
        exact .inl (.bracketed nonempty noClose (.given meant))
      · have default : n = defaultPort := by
          split at meant
          next => cases colon rfl
          · exact (Option.some.inj meant).symm
        subst default
        by_cases nothing : tail = []
        · subst nothing
          exact .inl (.bracketed nonempty noClose .default)
        · exact .inr (.bracketed nonempty noClose nothing colon)
    · rw [split?_unclosed close] at found
      cases found
  · by_cases colon : ':' ∈ s
    · obtain ⟨host, port, rfl, last⟩ := exists_last_colon colon
      rw [split?_port bracket last] at found
      obtain ⟨rfl, rfl⟩ := Prod.mk.inj (Option.some.inj found)
      rw [List.head?_append_of_ne_nil host nonempty] at bracket
      exact .inl (.plain nonempty bracket (by simp) (.given meant))
    · rw [split?_plain bracket colon] at found
      obtain ⟨rfl, rfl⟩ := Prod.mk.inj (Option.some.inj found)
      cases meant
      have alone := Named.plain nonempty bracket (fun _ => colon) .default
      rw [List.append_nil] at alone
      exact .inl alone

/-- A text names a seed in one way only, since the first bracket that closes ends the host. -/
theorem Named.not_trailed {seed' : Seed} (named : Named s seed) : ¬ Trailed s seed' := by
  intro trailed
  cases trailed with
  | @bracketed host tail nonempty noClose more noColon =>
    generalize same : '[' :: (host ++ ']' :: tail) = s at named
    cases named with
    | plain nonempty noBracket whole port =>
      rw [← List.head?_append_of_ne_nil _ nonempty, ← same] at noBracket
      exact noBracket rfl
    | @bracketed host' tail' n nonempty' noClose' port =>
      have behind := congrArg (List.drop 1) same
      obtain rfl : host = host' := by
        have first := congrArg (List.takeWhile (· != ']')) behind
        simpa [Uri.takeWhile_ne noClose, Uri.takeWhile_ne noClose'] using first
      obtain rfl : tail = tail' := by simpa using same
      cases port with
      | default => exact more rfl
      | given reads => exact noColon rfl

end Seed

/-! ## Lists of seeds -/

section Lists

variable {α β ε : Type} {f : α → Except ε β}

/-- What comes of two steps came of the second one, with what came of the first. -/
theorem bind_eq_ok {x : Except ε α} {b : β} (h : (x >>= f) = .ok b) :
    ∃ a, x = .ok a ∧ f a = .ok b := by
  cases x with
  | error e => cases h
  | ok a => exact ⟨a, rfl, h⟩

/-- The first failure is that of the whole list. -/
theorem mapM_eq_error {before after : List α} {a : α} {e : ε}
    (sound : ∀ x ∈ before, ∃ b, f x = .ok b) (fails : f a = .error e) :
    (before ++ a :: after).mapM f = .error e := by
  induction before with
  | nil =>
    rw [List.nil_append, List.mapM_cons, fails]
    rfl
  | cons x before ih =>
    obtain ⟨b, done⟩ := sound x List.mem_cons_self
    have rest := ih fun y mem => sound y (List.mem_cons_of_mem _ mem)
    rw [List.cons_append, List.mapM_cons, done, rest]
    rfl

theorem map_of_mapM_eq_ok {xs : List α} {ys : List β} (h : xs.mapM f = .ok ys) :
    xs.map f = ys.map .ok := by
  induction xs generalizing ys with
  | nil =>
    cases h
    rfl
  | cons x xs ih =>
    rw [List.mapM_cons] at h
    obtain ⟨y, first, behind⟩ := bind_eq_ok h
    obtain ⟨others, rest, whole⟩ := bind_eq_ok behind
    cases whole
    rw [List.map_cons, first, ih rest, List.map_cons]

theorem mapM_map_eq_ok {g : β → α} {ys : List β} (h : ∀ y ∈ ys, f (g y) = .ok y) :
    (ys.map g).mapM f = .ok ys := by
  induction ys with
  | nil => rfl
  | cons y ys ih =>
    rw [List.map_cons, List.mapM_cons, h y List.mem_cons_self,
      ih fun z mem => h z (List.mem_cons_of_mem _ mem)]
    rfl

end Lists

namespace TcpProbe

variable {σ : Type} {t : Target}

/-- The first text of a list that is no seed is the one that is reported. -/
theorem seedsOf_invalid {before after : List String} (plain : t.scheme ≠ .srv)
    (listed : t.seeds = before ++ raw :: after)
    (sound : ∀ item ∈ before, ∃ seed, Seed.parse? item = some seed)
    (invalid : Seed.parse? raw = none) :
    seedsOf t = .error (.driver s!"invalid seed host: {raw}") := by
  unfold seedsOf
  rw [if_neg plain, listed, mapM_eq_error (a := raw)]
  · rfl
  · intro item mem
    obtain ⟨seed, read⟩ := sound item mem
    exact ⟨seed, by rw [read]⟩
  · rw [invalid]

/-- What is kept of a list are the seeds that its texts are read as, in order, at least one. -/
theorem of_seedsOf {seeds : List Seed} (h : seedsOf t = .ok seeds) :
    seeds ≠ [] ∧ t.seeds.map Seed.parse? = seeds.map some := by
  unfold seedsOf at h
  split at h
  · cases h
  · obtain ⟨found, read, checked⟩ := bind_eq_ok h
    split at checked
    · cases checked
    next nonempty =>
      cases checked
      refine ⟨fun empty => nonempty (by rw [empty]; rfl), ?_⟩
      have each := congrArg (List.map Except.toOption) (map_of_mapM_eq_ok read)
      rw [List.map_map, List.map_map] at each
      refine Eq.trans (List.map_congr_left fun raw _ => ?_) each
      simp only [Function.comp_apply]
      cases Seed.parse? raw <;> rfl

/-- Seeds that are listed as they are written are kept, if they can be read. -/
theorem seedsOf_render {seeds : List Seed} (plain : t.scheme ≠ .srv) (nonempty : seeds ≠ [])
    (listed : t.seeds = seeds.map Seed.render)
    (read : ∀ seed ∈ seeds, Seed.parse? seed.render = some seed) : seedsOf t = .ok seeds := by
  unfold seedsOf
  rw [if_neg plain, listed, mapM_map_eq_ok fun seed mem => by rw [read seed mem]]
  cases seeds with
  | nil => cases nonempty rfl
  | cons => rfl

/-- Every seed that is kept is listed. -/
theorem exists_of_mem_soundSeeds (mem : seed ∈ t.soundSeeds) :
    ∃ raw ∈ t.seeds, Seed.parse? raw = some seed := by
  unfold Target.soundSeeds at mem
  cases read : seedsOf t with
  | error e =>
    rw [read] at mem
    cases mem
  | ok seeds =>
    rw [read] at mem
    have listed : some seed ∈ t.seeds.map Seed.parse? := by
      rw [(of_seedsOf read).2]
      exact List.mem_map_of_mem mem
    exact List.mem_map.mp listed

/-- Of a list, the first text that is no seed is reported, and then nothing is dialed. All seeds
that are dialed are named by texts of the list, or their host is, in brackets with something behind.
-/
theorem seeds_law (network : Option ProxyDialer → Network σ) (d : Option ProxyDialer) (t : Target)
    (isProxied : Bool) (o : ConnectOptions) (w : Logged σ) :
    (∀ (raw : String) seed, Seed.parse? raw = some seed ↔
      Seed.Named raw.toList seed ∨ Seed.Trailed raw.toList seed) ∧
    (∀ (raw : String) seed seed', Seed.Named raw.toList seed → ¬ Seed.Trailed raw.toList seed') ∧
    (∀ before (raw : String) after, t.scheme ≠ .srv → t.seeds = before ++ raw :: after →
      (∀ item ∈ before, ∃ seed, Seed.Named item.toList seed ∨ Seed.Trailed item.toList seed) →
      (¬ ∃ seed, Seed.Named raw.toList seed ∨ Seed.Trailed raw.toList seed) →
      connect (logNetwork network d) t isProxied o w =
        (.after 0 (.error (.driver s!"invalid seed host: {raw}")), w)) ∧
    ∃ openings, (connect (logNetwork network d) t isProxied o w).2.log = w.log ++ openings ∧
      ∀ x ∈ openings, ∃ raw ∈ t.seeds, ∃ seed,
        (Seed.Named raw.toList seed ∨ Seed.Trailed raw.toList seed) ∧ x = seed.opening d := by
  refine ⟨fun _ _ => Seed.parse?_eq_some_iff, fun _ _ _ => Seed.Named.not_trailed, ?_, ?_⟩
  · intro before raw after plain listed sound invalid
    have stops : seedsOf t = .error (.driver s!"invalid seed host: {raw}") := by
      refine seedsOf_invalid plain listed ?_ ?_
      · intro item mem
        obtain ⟨seed, reads⟩ := sound item mem
        exact ⟨seed, Seed.parse?_eq_some_iff.mpr reads⟩
      · rw [Option.eq_none_iff_forall_ne_some]
        intro seed read
        exact invalid ⟨seed, Seed.parse?_eq_some_iff.mp read⟩
    unfold connect
    rw [stops]
  · obtain ⟨n, dialed⟩ := connect_logNetwork network d t isProxied o w
    refine ⟨_, by rw [dialed]; rfl, ?_⟩
    intro x mem
    obtain ⟨seed, kept, rfl⟩ := List.mem_map.mp mem
    obtain ⟨raw, listed, read⟩ := exists_of_mem_soundSeeds (List.mem_of_mem_take kept)
    exact ⟨raw, listed, seed, Seed.parse?_eq_some_iff.mp read, rfl⟩

/-- A target with these hosts. -/
def listing (hosts : String) : Target := ⟨.standard, hosts, "user", .ofString ""⟩

/-- Where nothing listens. -/
def refusing : Network Unit := ⟨fun _ _ world => (.after 0 (.error .refused), world)⟩

/-- The second of two texts is no seed, so that the first one is not dialed either. -/
theorem seeds_law_unclosed :
    connect (logNetwork (fun _ => refusing) none) (listing "db,[::1") false
        ({} : PoolSettings).directOptions ⟨(), []⟩ =
      (.after 0 (.error (.driver "invalid seed host: [::1")), ⟨(), []⟩) := by
  obtain ⟨-, -, reported, -⟩ :=
    seeds_law (fun _ => refusing) none (listing "db,[::1") false
      ({} : PoolSettings).directOptions ⟨(), []⟩
  refine reported ["db"] "[::1" [] (by decide) (by decide +kernel) ?_ ?_
  · intro item mem
    obtain rfl := List.mem_singleton.mp mem
    have read : Seed.parse? "db" = some ⟨"db", 27017⟩ := rfl
    exact ⟨_, Seed.parse?_eq_some_iff.mp read⟩
  · rintro ⟨seed, reads⟩
    cases Seed.parse?_eq_some_iff.mpr reads

/-- What stands behind a closing bracket makes no difference: the text names no seed, and yet one is
dialed. -/
theorem trailed_is_dialed :
    (∀ seed, ¬ Seed.Named "[::1]x".toList seed) ∧
    Seed.parse? "[::1]x" = some ⟨"::1", 27017⟩ ∧
    (connect (logNetwork (fun _ => refusing) none) (listing "[::1]x") false
        ({} : PoolSettings).directOptions ⟨(), []⟩).2.log =
      [.dial none "::1" 27017] := by
  have trailed : Seed.Trailed "[::1]x".toList ⟨"::1", 27017⟩ :=
    @Seed.Trailed.bracketed "::1".toList ['x'] (by decide) (by decide) (by decide) (by decide)
  exact ⟨fun seed named => named.not_trailed trailed, rfl, rfl⟩

end TcpProbe
end ClusterAccess.Probe
