import ClusterAccess.Proofs.Json.Entries
import ClusterAccess.Proofs.Text.Utf8
import ClusterAccess.Rehearsal.Disk
import ClusterAccess.Settings.File

/-!
# Settings files that leave something out

Of each record of the settings a file may give any fields. What it gives is set and all else is as
usual, whatever the order of the members, whatever else the file has, and however it is written. A
known member that comes twice, or is `null`, or is a number out of range, is never passed over.

## Main definitions

* `AccountSettings.Given`, `PoolSettings.Given`, `ProxySettings.Given`, `Settings.Given`: what a
  file gives of a record, and the settings that this makes.
* `Settings.Given.Told`: an object that tells these settings.
* `Settings.members`: the known members of a settings file.

## Main statements

* `Settings.partial_files`: what is loaded from a file.
-/
namespace ClusterAccess

open Json Storage

/-! ## The account -/

namespace AccountSettings

/-- The known members of an account, with what each may be. -/
def members : List (String × Kind) := [
  ("ttlSecs", .count limit64), ("usernamePrefix", .text), ("descriptionLabel", .text),
  ("roleName", .text), ("roleDatabase", .text), ("authDatabase", .text),
  ("passwordLength", .count limit64)]

theorem isField : List.Forall₂ Sound.IsField fields members :=
  .cons ((Sound.natural _).isField _ _ _) <| .cons (Sound.text.isField _ _ _) <|
    .cons (Sound.text.isField _ _ _) <| .cons (Sound.text.isField _ _ _) <|
    .cons (Sound.text.isField _ _ _) <| .cons (Sound.text.isField _ _ _) <|
    .cons ((Sound.natural _).isField _ _ _) .nil

theorem orderly : Orderly fields := by
  refine Sound.orderly isField (by decide) ?_
  simp only [fields, List.forall_mem_cons, List.not_mem_nil, false_implies, implies_true, and_true]
  and_intros <;> first
    | exact fun ne => absurd rfl ne
    | exact fun _ => .of (by simp) (by simp) fun _ _ _ => rfl

theorem sound : Sound reader (.object members) := .record isField orderly {}

/-- The account settings that a file gives. -/
structure Given where
  lifetime : Option Nat := none
  usernameStart : Option String := none
  descriptionStart : Option String := none
  roleName : Option String := none
  roleDatabase : Option String := none
  authDatabase : Option String := none
  passwordLength : Option Nat := none

namespace Given

/-- What is given, and the usual values for all else. -/
def settings (g : Given) : AccountSettings :=
  let usual : AccountSettings := {}
  { lifetime := g.lifetime.getD usual.lifetime
    usernameStart := g.usernameStart.getD usual.usernameStart
    descriptionStart := g.descriptionStart.getD usual.descriptionStart
    roleName := g.roleName.getD usual.roleName
    roleDatabase := g.roleDatabase.getD usual.roleDatabase
    authDatabase := g.authDatabase.getD usual.authDatabase
    passwordLength := g.passwordLength.getD usual.passwordLength }

structure Fits (g : Given) : Prop where
  lifetime : ∀ n ∈ g.lifetime, n ≤ limit64
  passwordLength : ∀ n ∈ g.passwordLength, n ≤ limit64

def entries (g : Given) : List (String × Option (List Token)) := [
  ("ttlSecs", g.lifetime.map fun n => (Value.natural n).tokens),
  ("usernamePrefix", g.usernameStart.map fun s => (Value.text s).tokens),
  ("descriptionLabel", g.descriptionStart.map fun s => (Value.text s).tokens),
  ("roleName", g.roleName.map fun s => (Value.text s).tokens),
  ("roleDatabase", g.roleDatabase.map fun s => (Value.text s).tokens),
  ("authDatabase", g.authDatabase.map fun s => (Value.text s).tokens),
  ("passwordLength", g.passwordLength.map fun n => (Value.natural n).tokens)]

/-- What is given is read, one field after the other. -/
theorem takes {g : Given} (fits : g.Fits) {ts : List Token} (told : Tells g.entries ts) :
    Takes reader ts g.settings := by
  refine told.takes orderly rfl ?_
  -- In the order of the fields, each either sets its own part or leaves the usual value.
  exact .count fits.lifetime (fun a o => { a with lifetime := o.getD a.lifetime })
      (fun _ => rfl) (fun _ _ => rfl) <|
    .text (fun a o => { a with usernameStart := o.getD a.usernameStart })
      (fun _ => rfl) (fun _ _ => rfl) <|
    .text (fun a o => { a with descriptionStart := o.getD a.descriptionStart })
      (fun _ => rfl) (fun _ _ => rfl) <|
    .text (fun a o => { a with roleName := o.getD a.roleName })
      (fun _ => rfl) (fun _ _ => rfl) <|
    .text (fun a o => { a with roleDatabase := o.getD a.roleDatabase })
      (fun _ => rfl) (fun _ _ => rfl) <|
    .text (fun a o => { a with authDatabase := o.getD a.authDatabase })
      (fun _ => rfl) (fun _ _ => rfl) <|
    .count fits.passwordLength (fun a o => { a with passwordLength := o.getD a.passwordLength })
      (fun _ => rfl) (fun _ _ => rfl) <|
    .nil _

end Given
end AccountSettings

/-! ## The pool -/

namespace PoolSettings

def members : List (String × Kind) := [
  ("warmUpDelayMs", .count limit64), ("retryDelayMs", .count limit64),
  ("maxAttempts", .count limit32), ("maxPoolSize", .count limit32),
  ("maxIdleTimeSecs", .count limit64), ("directConnectTimeoutSecs", .count limit64),
  ("directServerSelectionTimeoutSecs", .count limit64),
  ("proxiedConnectTimeoutSecs", .count limit64),
  ("proxiedServerSelectionTimeoutSecs", .count limit64)]

theorem isField : List.Forall₂ Sound.IsField fields members :=
  .cons ((Sound.natural _).isField _ _ _) <| .cons ((Sound.natural _).isField _ _ _) <|
    .cons ((Sound.natural _).isField _ _ _) <| .cons ((Sound.natural _).isField _ _ _) <|
    .cons ((Sound.natural _).isField _ _ _) <| .cons ((Sound.natural _).isField _ _ _) <|
    .cons ((Sound.natural _).isField _ _ _) <| .cons ((Sound.natural _).isField _ _ _) <|
    .cons ((Sound.natural _).isField _ _ _) .nil

theorem orderly : Orderly fields := by
  refine Sound.orderly isField (by decide) ?_
  simp only [fields, List.forall_mem_cons, List.not_mem_nil, false_implies, implies_true, and_true]
  and_intros <;> first
    | exact fun ne => absurd rfl ne
    | exact fun _ => .of (by simp) (by simp) fun _ _ _ => rfl

theorem sound : Sound reader (.object members) := .record isField orderly {}

/-- The pool settings that a file gives. -/
structure Given where
  warmUpMs : Option Nat := none
  retryMs : Option Nat := none
  maxAttempts : Option Nat := none
  maxPoolSize : Option Nat := none
  maxIdleSeconds : Option Nat := none
  directConnectSeconds : Option Nat := none
  directSelectionSeconds : Option Nat := none
  proxiedConnectSeconds : Option Nat := none
  proxiedSelectionSeconds : Option Nat := none

namespace Given

/-- What is given, and the usual values for all else. -/
def settings (g : Given) : PoolSettings :=
  let usual : PoolSettings := {}
  { warmUpMs := g.warmUpMs.getD usual.warmUpMs
    retryMs := g.retryMs.getD usual.retryMs
    maxAttempts := g.maxAttempts.getD usual.maxAttempts
    maxPoolSize := g.maxPoolSize.getD usual.maxPoolSize
    maxIdleSeconds := g.maxIdleSeconds.getD usual.maxIdleSeconds
    directConnectSeconds := g.directConnectSeconds.getD usual.directConnectSeconds
    directSelectionSeconds := g.directSelectionSeconds.getD usual.directSelectionSeconds
    proxiedConnectSeconds := g.proxiedConnectSeconds.getD usual.proxiedConnectSeconds
    proxiedSelectionSeconds := g.proxiedSelectionSeconds.getD usual.proxiedSelectionSeconds }

structure Fits (g : Given) : Prop where
  warmUp : ∀ n ∈ g.warmUpMs, n ≤ limit64
  retry : ∀ n ∈ g.retryMs, n ≤ limit64
  attempts : ∀ n ∈ g.maxAttempts, n ≤ limit32
  poolSize : ∀ n ∈ g.maxPoolSize, n ≤ limit32
  idle : ∀ n ∈ g.maxIdleSeconds, n ≤ limit64
  directConnect : ∀ n ∈ g.directConnectSeconds, n ≤ limit64
  directSelection : ∀ n ∈ g.directSelectionSeconds, n ≤ limit64
  proxiedConnect : ∀ n ∈ g.proxiedConnectSeconds, n ≤ limit64
  proxiedSelection : ∀ n ∈ g.proxiedSelectionSeconds, n ≤ limit64

def entries (g : Given) : List (String × Option (List Token)) := [
  ("warmUpDelayMs", g.warmUpMs.map fun n => (Value.natural n).tokens),
  ("retryDelayMs", g.retryMs.map fun n => (Value.natural n).tokens),
  ("maxAttempts", g.maxAttempts.map fun n => (Value.natural n).tokens),
  ("maxPoolSize", g.maxPoolSize.map fun n => (Value.natural n).tokens),
  ("maxIdleTimeSecs", g.maxIdleSeconds.map fun n => (Value.natural n).tokens),
  ("directConnectTimeoutSecs", g.directConnectSeconds.map fun n => (Value.natural n).tokens),
  ("directServerSelectionTimeoutSecs",
    g.directSelectionSeconds.map fun n => (Value.natural n).tokens),
  ("proxiedConnectTimeoutSecs", g.proxiedConnectSeconds.map fun n => (Value.natural n).tokens),
  ("proxiedServerSelectionTimeoutSecs",
    g.proxiedSelectionSeconds.map fun n => (Value.natural n).tokens)]

/-- What is given is read, one field after the other. -/
theorem takes {g : Given} (fits : g.Fits) {ts : List Token} (told : Tells g.entries ts) :
    Takes reader ts g.settings := by
  refine told.takes orderly rfl ?_
  exact .count fits.warmUp (fun p o => { p with warmUpMs := o.getD p.warmUpMs })
      (fun _ => rfl) (fun _ _ => rfl) <|
    .count fits.retry (fun p o => { p with retryMs := o.getD p.retryMs })
      (fun _ => rfl) (fun _ _ => rfl) <|
    .count fits.attempts (fun p o => { p with maxAttempts := o.getD p.maxAttempts })
      (fun _ => rfl) (fun _ _ => rfl) <|
    .count fits.poolSize (fun p o => { p with maxPoolSize := o.getD p.maxPoolSize })
      (fun _ => rfl) (fun _ _ => rfl) <|
    .count fits.idle (fun p o => { p with maxIdleSeconds := o.getD p.maxIdleSeconds })
      (fun _ => rfl) (fun _ _ => rfl) <|
    .count fits.directConnect
      (fun p o => { p with directConnectSeconds := o.getD p.directConnectSeconds })
      (fun _ => rfl) (fun _ _ => rfl) <|
    .count fits.directSelection
      (fun p o => { p with directSelectionSeconds := o.getD p.directSelectionSeconds })
      (fun _ => rfl) (fun _ _ => rfl) <|
    .count fits.proxiedConnect
      (fun p o => { p with proxiedConnectSeconds := o.getD p.proxiedConnectSeconds })
      (fun _ => rfl) (fun _ _ => rfl) <|
    .count fits.proxiedSelection
      (fun p o => { p with proxiedSelectionSeconds := o.getD p.proxiedSelectionSeconds })
      (fun _ => rfl) (fun _ _ => rfl) <|
    .nil _

end Given
end PoolSettings

/-! ## The proxy -/

namespace ProxySettings

def members : List (String × Kind) := [
  ("host", .text), ("port", .count 65535), ("username", .optionalText),
  ("password", .optionalText)]

theorem isField : List.Forall₂ Sound.IsField fields members :=
  .cons (Sound.text.isField _ _ _) <| .cons ((Sound.natural _).isField _ _ _) <|
    .cons (Sound.optional_text.isField _ _ _) <| .cons (Sound.optional_text.isField _ _ _) .nil

theorem orderly : Orderly fields := by
  refine Sound.orderly isField (by decide) ?_
  simp only [fields, List.forall_mem_cons, List.not_mem_nil, false_implies, implies_true, and_true]
  and_intros <;> first
    | exact fun ne => absurd rfl ne
    | exact fun _ => .of (by simp) (by simp) fun _ _ _ => rfl

theorem sound : Sound reader (.object members) := .record isField orderly {}

/-- The proxy settings that a file gives; a user and a password may be given as none. -/
structure Given where
  host : Option String := none
  port : Option Nat := none
  username : Option (Option String) := none
  password : Option (Option String) := none

namespace Given

/-- What is given, and the usual values for all else. -/
def settings (g : Given) : ProxySettings :=
  let usual : ProxySettings := {}
  { host := g.host.getD usual.host
    port := g.port.getD usual.port
    username := g.username.getD usual.username
    password := (g.password.map fun p => p.map Secret.ofString).getD usual.password }

def Fits (g : Given) : Prop := ∀ n ∈ g.port, n ≤ 65535

def entries (g : Given) : List (String × Option (List Token)) := [
  ("host", g.host.map fun s => (Value.text s).tokens),
  ("port", g.port.map fun n => (Value.natural n).tokens),
  ("username", g.username.map fun o => (Value.ofOption o).tokens),
  ("password", g.password.map fun o => (Value.ofOption o).tokens)]

/-- What is given is read, one field after the other. -/
theorem takes {g : Given} (fits : g.Fits) {ts : List Token} (told : Tells g.entries ts) :
    Takes reader ts g.settings := by
  refine told.takes orderly rfl ?_
  exact .text (fun p o => { p with host := o.getD p.host }) (fun _ => rfl) (fun _ _ => rfl) <|
    .count fits (fun p o => { p with port := o.getD p.port }) (fun _ => rfl) (fun _ _ => rfl) <|
    .value (fun o _ => reads_optional_text o) nofun
      (fun p o => { p with username := o.getD p.username }) (fun _ => rfl) (fun _ _ => rfl) <|
    .value (fun o _ => reads_optional_text o) nofun
      (fun p o => { p with password := (o.map fun v => v.map Secret.ofString).getD p.password })
      (fun _ => rfl) (fun _ _ => rfl) <|
    .nil _

end Given
end ProxySettings

/-! ## All settings -/

namespace Settings

/-- The known members of a settings file, three of which have members of their own. -/
def members : List (String × Kind) := [
  ("version", .count limit32), ("account", .object AccountSettings.members),
  ("pool", .object PoolSettings.members), ("proxy", .object ProxySettings.members)]

theorem isField : List.Forall₂ Sound.IsField fields members :=
  .cons ((Sound.natural _).isField _ _ _) <| .cons (AccountSettings.sound.isField _ _ _) <|
    .cons (PoolSettings.sound.isField _ _ _) <| .cons (ProxySettings.sound.isField _ _ _) .nil

theorem orderly : Orderly fields := by
  have account : Settles AccountSettings.reader := AccountSettings.sound.settles
  have pool : Settles PoolSettings.reader := PoolSettings.sound.settles
  have proxy : Settles ProxySettings.reader := ProxySettings.sound.settles
  refine Sound.orderly isField (by decide) ?_
  simp only [fields, List.forall_mem_cons, List.not_mem_nil, false_implies, implies_true, and_true]
  and_intros <;> first
    | exact fun ne => absurd rfl ne
    | exact fun _ => .of (by simp [*]) (by simp [*]) fun _ _ _ => rfl

theorem sound : Sound reader (.object members) := .record isField orderly {}

/-- The settings that a file gives. -/
structure Given where
  version : Option Nat := none
  account : Option AccountSettings.Given := none
  pool : Option PoolSettings.Given := none
  proxy : Option ProxySettings.Given := none

namespace Given

/-- What is given, and the usual values for all else. -/
def settings (g : Given) : Settings :=
  let usual : Settings := {}
  { version := g.version.getD usual.version
    account := (g.account.map fun a => a.settings).getD usual.account
    pool := (g.pool.map fun p => p.settings).getD usual.pool
    proxy := (g.proxy.map fun p => p.settings).getD usual.proxy }

structure Fits (g : Given) : Prop where
  version : ∀ n ∈ g.version, n ≤ limit32
  account : ∀ a ∈ g.account, a.Fits
  pool : ∀ p ∈ g.pool, p.Fits
  proxy : ∀ p ∈ g.proxy, p.Fits

/-- An object that tells what is given, with an object inside for each record that is given. -/
def Told (g : Given) (ts : List Token) : Prop :=
  ∃ account pool proxy : Option (List Token),
    Option.Rel (fun a ts => Tells a.entries ts) g.account account ∧
    Option.Rel (fun p ts => Tells p.entries ts) g.pool pool ∧
    Option.Rel (fun p ts => Tells p.entries ts) g.proxy proxy ∧
    Tells [("version", g.version.map fun n => (Value.natural n).tokens), ("account", account),
      ("pool", pool), ("proxy", proxy)] ts

theorem takes {g : Given} (fits : g.Fits) {ts : List Token} (told : g.Told ts) :
    Takes reader ts g.settings := by
  obtain ⟨account, pool, proxy, accountTold, poolTold, proxyTold, told⟩ := told
  refine told.takes orderly rfl ?_
  exact .count fits.version (fun s o => { s with version := o.getD s.version })
      (fun _ => rfl) (fun _ _ => rfl) <|
    .entry (Tells.rel accountTold fun a mem _ => AccountSettings.Given.takes (fits.account a mem))
      nofun
      (fun s o => { s with account := (o.map fun a => a.settings).getD s.account })
      (fun _ => rfl) (fun _ _ => rfl) <|
    .entry (Tells.rel poolTold fun p mem _ => PoolSettings.Given.takes (fits.pool p mem)) nofun
      (fun s o => { s with pool := (o.map fun p => p.settings).getD s.pool })
      (fun _ => rfl) (fun _ _ => rfl) <|
    .entry (Tells.rel proxyTold fun p mem _ => ProxySettings.Given.takes (fits.proxy p mem)) nofun
      (fun s o => { s with proxy := (o.map fun p => p.settings).getD s.proxy })
      (fun _ => rfl) (fun _ _ => rfl) <|
    .nil _

end Given

/-! ## Files -/

variable {f : Files} {path text : String} {ts : List Token} {s : Settings}

theorem load_eq (spelled : Spells ts text.toList)
    (file : f.find? path = some (.file (Text.utf8Bytes text))) :
    load f path = (readAll reader ts).mapError .serialization := by
  have decoded : Text.decode? (Text.utf8Bytes text) = some text.toList := Text.decode?_utf8 _
  have scanned : tokens text = ts := spelled.tokensFrom_eq
  rw [load, file]
  simp only [parse, decoded, String.ofList_toList, Json.read, scanned]
  cases readAll reader ts <;> rfl

theorem load_eq_ok_iff (spelled : Spells ts text.toList)
    (file : f.find? path = some (.file (Text.utf8Bytes text))) (phrase : Phrase ts) :
    load f path = .ok s ↔ Takes reader ts s := by
  rw [load_eq spelled file, ← readAll_eq_ok_iff sound.settles phrase]
  cases readAll reader ts <;> simp [Except.mapError]

/-- From a file that tells some settings these are loaded, and all others are as usual, whatever the
order of the members, what others there are, and how all of it is written. The same members in
another order make the same settings. With a known member that comes twice, is `null` though it
must not be, or is a number that it cannot be, nothing is loaded. -/
theorem partial_files (spelled : Spells ts text.toList)
    (file : f.find? path = some (.file (Text.utf8Bytes text))) :
    (∀ g : Given, g.Fits → g.Told ts → load f path = .ok g.settings) ∧
    (∀ (f' : Files) (path' text' : String) (ts' : List Token), Rearranged ts ts' →
      Spells ts' text'.toList → f'.find? path' = some (.file (Text.utf8Bytes text')) →
      ∀ s, load f path = .ok s ↔ load f' path' = .ok s) ∧
    (Flawed (.object members) ts → ∃ fault, load f path = .error (.serialization fault)) := by
  refine ⟨fun g fits told => ?_, fun f' path' text' ts' rearranged spelled' file' s => ?_,
    fun flawed => ?_⟩
  · have phrase : Phrase ts := by
      obtain ⟨_, _, _, _, _, _, told⟩ := told
      exact told.phrase
    exact (load_eq_ok_iff spelled file phrase).mpr (Given.takes fits told)
  · rw [load_eq_ok_iff spelled file rearranged.phrase,
      load_eq_ok_iff spelled' file' rearranged.symm.phrase]
    exact ⟨sound.respects ts ts' rearranged s, sound.respects ts' ts rearranged.symm s⟩
  · cases read : readAll reader ts with
    | ok s =>
      have takes := (readAll_eq_ok_iff sound.settles flawed.phrase).mp read
      exact absurd takes (sound.refuses ts flawed s)
    | error fault =>
      refine ⟨fault, ?_⟩
      rw [load_eq spelled file, read]
      rfl

/-- A text that gives one setting, and has a member that no field is for. -/
def sparse : String := "\x7b\"x\":-1, \"pool\":\x7b\"maxAttempts\":3\x7d\x7d"

theorem spells_sparse : Spells (objectOf [(some "x", [.number .inexact]),
    (some "pool", objectOf [(some "maxAttempts", [.number (.natural 3)])])]) sparse.toList := by
  have one : Lexeme (.number .inexact) ['-', '1'] :=
    .number (IsNumber.mk (.inr rfl) 1 .none .none)
  have three : Lexeme (.number (.natural 3)) ['3'] := Lexeme.numeral (by decide)
  have spelled := Spells.token (.mark .openObject) nofun <| .token (Lexeme.quote "x") nofun <|
    .token (.mark .colon) nofun <| .token one (fun _ => ends_cons (by decide) _) <|
    .token (.mark .comma) nofun <| .blank (c := ' ') rfl <|
    .token (Lexeme.quote "pool") nofun <| .token (.mark .colon) nofun <|
    .token (.mark .openObject) nofun <| .token (Lexeme.quote "maxAttempts") nofun <|
    .token (.mark .colon) nofun <| .token three (fun _ => ends_cons (by decide) _) <|
    .token (.mark .closeObject) nofun <| .token (.mark .closeObject) nofun .nil
  exact spelled

/-- A text with a known member that must not be `null`. -/
def refused : String := "\x7b\"version\":null\x7d"

theorem spells_refused : Spells (objectOf [(some "version", [.null])]) refused.toList := by
  have spelled := Spells.token (.mark .openObject) nofun <|
    .token (Lexeme.quote "version") nofun <| .token (.mark .colon) nofun <|
    .token .null nofun <| .token (.mark .closeObject) nofun .nil
  exact spelled

theorem partial_files_sparse :
    load (Rehearsal.disk [("settings.json", .file (Text.utf8Bytes sparse))]) "settings.json" =
        .ok { pool := { maxAttempts := 3 } } ∧
      ∃ fault, load (Rehearsal.disk [("settings.json", .file (Text.utf8Bytes refused))])
        "settings.json" = .error (.serialization fault) := by
  constructor
  · have pool : Tells ({ maxAttempts := some 3 } : PoolSettings.Given).entries
        (objectOf [(some "maxAttempts", [.number (.natural 3)])]) := by
      refine ⟨[("maxAttempts", [.number (.natural 3)])], rfl, ?_, .refl _⟩
      simpa using Phrase.number (.natural 3)
    have told : ({ pool := some { maxAttempts := some 3 } } : Given).Told
        (objectOf [(some "x", [.number .inexact]),
          (some "pool", objectOf [(some "maxAttempts", [.number (.natural 3)])])]) := by
      refine ⟨none, some _, none, .none, .some pool, .none,
        [("x", [.number .inexact]), ("pool", _)], rfl, ?_, .refl _⟩
      simpa using ⟨Phrase.number .inexact, pool.phrase⟩
    have fits : ({ pool := some { maxAttempts := some 3 } } : Given).Fits := by
      refine ⟨nofun, nofun, fun p mem => ?_, nofun⟩
      cases mem
      exact ⟨nofun, nofun, by decide, nofun, nofun, nofun, nofun, nofun, nofun⟩
    exact (partial_files spells_sparse (by decide +kernel)).1 _ fits told
  · have flawed : Flawed (.object members) (objectOf [(some "version", [.null])]) := by
      refine .member ?_ List.mem_cons_self List.mem_cons_self (.null nofun)
      simpa using Phrase.null
    exact (partial_files spells_refused (by decide +kernel)).2.2 flawed

end Settings
end ClusterAccess
