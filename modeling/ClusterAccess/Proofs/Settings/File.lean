import ClusterAccess.Proofs.Json.Reading
import ClusterAccess.Proofs.Json.Yields
import ClusterAccess.Proofs.Storage.Names
import ClusterAccess.Proofs.Text.Utf8
import ClusterAccess.Rehearsal.Disk
import ClusterAccess.Settings.File

/-!
# The settings file round trip

Settings are read back as they were written, all but the password of the proxy, which is never
written. That holds for the text first, record by record, and then for a file, whose bytes are the
text's wherever saving succeeded.

## Main definitions

* `Settings.Fits`: every number is within the range of its field.
* `Settings.withoutPassword`: the settings as they are in a file.

## Main statements

* `Settings.parse_fileText`: the text of settings is read as these settings without the password.
* `Settings.fits_of_load`: whatever is loaded, its numbers are within the ranges.
* `Settings.save_eq_ok_iff`: when settings can be saved, and what files there are afterwards.
* `Settings.file_round_trip`: what is saved is what is loaded, and saving it again changes nothing.
-/
namespace ClusterAccess

open Json Storage

/-! ## Numbers -/

/-- Every number is within the range of its field. -/
structure AccountSettings.Fits (a : AccountSettings) : Prop where
  lifetime : a.lifetime ≤ limit64
  passwordLength : a.passwordLength ≤ limit64

structure PoolSettings.Fits (p : PoolSettings) : Prop where
  warmUp : p.warmUpMs ≤ limit64
  retry : p.retryMs ≤ limit64
  attempts : p.maxAttempts ≤ limit32
  poolSize : p.maxPoolSize ≤ limit32
  idle : p.maxIdleSeconds ≤ limit64
  directConnect : p.directConnectSeconds ≤ limit64
  directSelection : p.directSelectionSeconds ≤ limit64
  proxiedConnect : p.proxiedConnectSeconds ≤ limit64
  proxiedSelection : p.proxiedSelectionSeconds ≤ limit64

structure Settings.Fits (s : Settings) : Prop where
  version : s.version ≤ limit32
  account : s.account.Fits
  pool : s.pool.Fits
  port : s.proxy.port ≤ 65535

theorem countable_of_le64 {n : Nat} (h : n ≤ limit64) : (Value.natural n).Countable :=
  .natural (Nat.lt_of_le_of_lt h (by decide))

theorem countable_of_le32 {n : Nat} (h : n ≤ limit32) : (Value.natural n).Countable :=
  countable_of_le64 (Nat.le_trans h (by decide))

/-! ## Texts -/

namespace AccountSettings

variable {a : AccountSettings}

theorem reads (fits : a.Fits) : Reads reader a.toJson a :=
  Fields.reads_record
    (.set (reads_natural fits.lifetime) <| .set (reads_text _) <| .set (reads_text _) <|
      .set (reads_text _) <| .set (reads_text _) <| .set (reads_text _) <|
      .set (reads_natural fits.passwordLength) <| .nil a)
    (by decide)

theorem countable (fits : a.Fits) : a.toJson.Countable := by
  refine .object ?_
  simp only [List.forall_mem_cons]
  exact ⟨countable_of_le64 fits.lifetime, .text _, .text _, .text _, .text _, .text _,
    countable_of_le64 fits.passwordLength, nofun⟩

theorem fits_usual : ({} : AccountSettings).Fits := ⟨by decide, by decide⟩

theorem yields_fits : Yields reader Fits := by
  have other {α : Type} {name : String} {r : Reader α} {set : AccountSettings → α → AccountSettings}
      (same : ∀ a v,
        (set a v).lifetime = a.lifetime ∧ (set a v).passwordLength = a.passwordLength) :
      (FieldReader.of name .optional r set).Keeps Fits :=
    .frame fun a v fits => ⟨(same a v).1 ▸ fits.lifetime, (same a v).2 ▸ fits.passwordLength⟩
  refine yields_record ?_ fits_usual
  simp only [fields, List.forall_mem_cons]
  exact ⟨.of (yields_natural _) fun _ _ fits small => ⟨small, fits.passwordLength⟩,
    other fun _ _ => ⟨rfl, rfl⟩, other fun _ _ => ⟨rfl, rfl⟩, other fun _ _ => ⟨rfl, rfl⟩,
    other fun _ _ => ⟨rfl, rfl⟩, other fun _ _ => ⟨rfl, rfl⟩,
    .of (yields_natural _) fun _ _ fits small => ⟨fits.lifetime, small⟩, nofun⟩

end AccountSettings

namespace PoolSettings

variable {p : PoolSettings}

theorem reads (fits : p.Fits) : Reads reader p.toJson p :=
  Fields.reads_record
    (.set (reads_natural fits.warmUp) <| .set (reads_natural fits.retry) <|
      .set (reads_natural fits.attempts) <| .set (reads_natural fits.poolSize) <|
      .set (reads_natural fits.idle) <| .set (reads_natural fits.directConnect) <|
      .set (reads_natural fits.directSelection) <| .set (reads_natural fits.proxiedConnect) <|
      .set (reads_natural fits.proxiedSelection) <| .nil p)
    (by decide)

theorem countable (fits : p.Fits) : p.toJson.Countable := by
  refine .object ?_
  simp only [List.forall_mem_cons]
  exact ⟨countable_of_le64 fits.warmUp, countable_of_le64 fits.retry,
    countable_of_le32 fits.attempts, countable_of_le32 fits.poolSize, countable_of_le64 fits.idle,
    countable_of_le64 fits.directConnect, countable_of_le64 fits.directSelection,
    countable_of_le64 fits.proxiedConnect, countable_of_le64 fits.proxiedSelection, nofun⟩

theorem fits_usual : ({} : PoolSettings).Fits :=
  ⟨by decide, by decide, by decide, by decide, by decide, by decide, by decide, by decide,
    by decide⟩

theorem yields_fits : Yields reader Fits := by
  refine yields_record ?_ fits_usual
  simp only [fields, List.forall_mem_cons]
  refine ⟨?_, ?_, ?_, ?_, ?_, ?_, ?_, ?_, ?_, nofun⟩ <;>
    refine .of (yields_natural _) fun p n fits small => ?_
  · exact { fits with warmUp := small }
  · exact { fits with retry := small }
  · exact { fits with attempts := small }
  · exact { fits with poolSize := small }
  · exact { fits with idle := small }
  · exact { fits with directConnect := small }
  · exact { fits with directSelection := small }
  · exact { fits with proxiedConnect := small }
  · exact { fits with proxiedSelection := small }

end PoolSettings

namespace ProxySettings

variable {p : ProxySettings}

/-- The password, which is never written, is absent from what is read. -/
theorem reads (fits : p.port ≤ 65535) : Reads reader p.toJson { p with password := none } :=
  Fields.reads_record
    (.set (reads_text _) <| .set (reads_natural fits) <| .set (reads_optional_text _) <|
      .absent (by decide) <| .nil _)
    (by decide)

theorem countable (fits : p.port ≤ 65535) : p.toJson.Countable := by
  refine .object ?_
  simp only [List.forall_mem_cons]
  refine ⟨.text _, countable_of_le64 (Nat.le_trans fits (by decide)), ?_, nofun⟩
  cases p.username with
  | none => exact .null
  | some name => exact .text name

theorem yields_port : Yields reader (·.port ≤ 65535) := by
  refine yields_record ?_ (by decide)
  simp only [fields, List.forall_mem_cons]
  exact ⟨.frame fun _ _ fits => fits, .of (yields_natural _) fun _ _ _ small => small,
    .frame fun _ _ fits => fits, .frame fun _ _ fits => fits, nofun⟩

end ProxySettings

namespace Settings

variable {s : Settings}

/-- The settings as they are in a file. -/
def withoutPassword (s : Settings) : Settings :=
  { s with proxy := { s.proxy with password := none } }

theorem reads (fits : s.Fits) : Reads reader s.toJson s.withoutPassword :=
  Fields.reads_record
    (.set (reads_natural fits.version) <| .set (AccountSettings.reads fits.account) <|
      .set (PoolSettings.reads fits.pool) <| .set (ProxySettings.reads fits.port) <| .nil _)
    (by decide)

theorem countable (fits : s.Fits) : s.toJson.Countable := by
  refine .object ?_
  simp only [List.forall_mem_cons]
  exact ⟨countable_of_le32 fits.version, AccountSettings.countable fits.account,
    PoolSettings.countable fits.pool, ProxySettings.countable fits.port, nofun⟩

theorem fits_usual : ({} : Settings).Fits :=
  ⟨by decide, AccountSettings.fits_usual, PoolSettings.fits_usual, by decide⟩

theorem yields_fits : Yields reader Fits := by
  refine yields_record ?_ fits_usual
  simp only [fields, List.forall_mem_cons]
  exact ⟨.of (yields_natural _) fun _ _ fits small => { fits with version := small },
    .of AccountSettings.yields_fits fun _ _ fits account => { fits with account },
    .of PoolSettings.yields_fits fun _ _ fits pool => { fits with pool },
    .of ProxySettings.yields_port fun _ _ fits port => { fits with port }, nofun⟩

/-- A text does not tell which password there is, or whether there is one. -/
theorem fileText_withPassword (s : Settings) (password : Option Secret) :
    { s with proxy := { s.proxy with password } }.fileText = s.fileText := rfl

/-- The text of settings is read as these settings without the password. -/
theorem parse_fileText (fits : s.Fits) :
    parse (Text.utf8Bytes s.fileText) = .ok s.withoutPassword := by
  have decoded : Text.decode? (Text.utf8Bytes s.fileText) = some s.fileText.toList :=
    Text.decode?_utf8 _
  rw [parse, decoded]
  simp only [String.ofList_toList]
  rw [fileText, (reads fits).read_pretty (countable fits)]

/-! ## Files -/

variable {f f' : Files} {path name : String}

/-- Saving replaces the file, or else it fails. -/
theorem save_eq_ok_iff : s.save f path = (.ok (), f') ↔
    ∃ draft place, f.Replaceable (withExtension path "tmp") path draft place ∧
      f' = f.replace draft place (Text.utf8Bytes s.fileText) := by
  constructor
  · intro saved
    unfold save at saved
    dsimp only at saved
    split at saved
    · cases saved
    next g written =>
      split at saved
      · cases saved
      next moved =>
        cases saved
        obtain ⟨draft, drafts, free, rfl⟩ := Files.write_eq_ok_iff.mp written
        obtain ⟨place, replaceable, rfl⟩ := (Files.rename_draft_eq_ok_iff drafts free).mp moved
        exact ⟨draft, place, replaceable, rfl⟩
  · rintro ⟨draft, place, replaceable, rfl⟩
    have written : f.write (withExtension path "tmp") (Text.utf8Bytes s.fileText) = .ok _ :=
      Files.write_eq_ok_iff.mpr ⟨draft, replaceable.drafts, replaceable.draft_free, rfl⟩
    unfold save
    dsimp only
    rw [written]
    dsimp only
    rw [(Files.rename_draft_eq_ok_iff replaceable.drafts replaceable.draft_free).mpr
      ⟨place, replaceable, rfl⟩]

/-- Which password there is makes no difference to a saved file. -/
theorem save_withPassword (s : Settings) (password : Option Secret) (f : Files) (path : String) :
    { s with proxy := { s.proxy with password } }.save f path = s.save f path := by
  unfold save
  rw [fileText_withPassword]

theorem find?_of_save (saved : s.save f path = (.ok (), f')) :
    f'.find? path = some (.file (Text.utf8Bytes s.fileText)) := by
  obtain ⟨draft, place, replaceable, rfl⟩ := save_eq_ok_iff.mp saved
  exact replaceable.find? _

/-- What was saved is loaded. -/
theorem load_of_save (fits : s.Fits) (saved : s.save f path = (.ok (), f')) :
    load f' path = .ok s.withoutPassword := by
  rw [load, find?_of_save saved]
  exact parse_fileText fits

/-- Whatever is loaded, its numbers are within the ranges of their fields. -/
theorem fits_of_load (loaded : load f path = .ok s) : s.Fits := by
  unfold load at loaded
  split at loaded
  · cases loaded
    exact fits_usual
  next bytes _ =>
    unfold parse at loaded
    split at loaded
    · cases loaded
    · split at loaded
      next s' read =>
        cases loaded
        exact yields_fits.read read
      · cases loaded
  · cases loaded

/-- Once saved, settings can be saved again, and this changes nothing. -/
theorem save_again (saved : s.save f path = (.ok (), f')) :
    ∃ f'', s.save f' path = (.ok (), f'') ∧ ∀ place, f''.entry? place = f'.entry? place := by
  obtain ⟨draft, place, replaceable, rfl⟩ := save_eq_ok_iff.mp saved
  have again := replaceable.of_sameFolders
    (replaceable.sameFolders (Text.utf8Bytes s.fileText))
  refine ⟨_, save_eq_ok_iff.mpr ⟨draft, place, again, rfl⟩, fun q => ?_⟩
  rw [again.entry?_replace, replaceable.entry?_replace]
  grind

section

variable {front : String} {folder : List String}

/-- In an empty folder, settings are saved whenever the names are short. -/
theorem exists_save_iff (leads : f.LeadsTo front folder) (plain : PlainName name)
    (empty : f.HoldsNothing folder) : (∃ f', s.save f (front ++ name) = (.ok (), f')) ↔
      ShortName front name ∧ ShortName front (withExtension name "tmp") := by
  constructor
  · rintro ⟨f', saved⟩
    obtain ⟨draft, place, replaceable, -⟩ := save_eq_ok_iff.mp saved
    exact ((leads.replaceable_iff plain empty).mp replaceable).1
  · intro short
    have replaceable := (leads.replaceable_iff plain empty).mpr ⟨short, rfl, rfl⟩
    exact ⟨_, save_eq_ok_iff.mpr ⟨_, _, replaceable, rfl⟩⟩

/-- The saved file is all that there is in a folder which was empty. -/
theorem holdsOnly_of_save (leads : f.LeadsTo front folder) (plain : PlainName name)
    (empty : f.HoldsNothing folder) (saved : s.save f (front ++ name) = (.ok (), f')) :
    f'.HoldsOnly folder name (Text.utf8Bytes s.fileText) ∧
      ∀ place, ¬ folder <+: place → f'.entry? place = f.entry? place := by
  obtain ⟨draft, place, replaceable, rfl⟩ := save_eq_ok_iff.mp saved
  obtain ⟨-, rfl, rfl⟩ := (leads.replaceable_iff plain empty).mp replaceable
  exact ⟨replaceable.holdsOnly empty _, fun _ outside => replaceable.entry?_outside _ outside⟩

end

/-- A settings file does not depend on the password of the proxy. Wherever settings are saved, they
are loaded without that password and are otherwise the same, and to save what was loaded leaves
every byte as it is. In an empty folder, saving succeeds whenever the names are short, and the
settings file is then all that the folder holds. -/
theorem file_round_trip (fits : s.Fits) :
    (∀ (password : Option Secret) (f : Files) (path : String),
      { s with proxy := { s.proxy with password } }.save f path = s.save f path) ∧
    (∀ (f f' : Files) (path : String), s.save f path = (.ok (), f') →
      f'.find? path = some (.file (Text.utf8Bytes s.fileText)) ∧
      load f' path = .ok s.withoutPassword ∧
      ∃ f'', s.withoutPassword.save f' path = (.ok (), f'') ∧
        f''.find? path = some (.file (Text.utf8Bytes s.fileText)) ∧
        ∀ place, f''.entry? place = f'.entry? place) ∧
    (∀ (f : Files) (front name : String) (folder : List String), f.LeadsTo front folder →
      PlainName name → f.HoldsNothing folder →
      ((∃ f', s.save f (front ++ name) = (.ok (), f')) ↔
        ShortName front name ∧ ShortName front (withExtension name "tmp")) ∧
      ∀ f', s.save f (front ++ name) = (.ok (), f') →
        f'.HoldsOnly folder name (Text.utf8Bytes s.fileText) ∧
          ∀ place, ¬ folder <+: place → f'.entry? place = f.entry? place) := by
  refine ⟨save_withPassword s, fun f f' path saved => ?_, fun f front name folder leads plain
    empty => ⟨exists_save_iff leads plain empty, fun f' => holdsOnly_of_save leads plain empty⟩⟩
  obtain ⟨f'', again, unchanged⟩ := save_again saved
  exact ⟨find?_of_save saved, load_of_save fits saved, f'',
    (save_withPassword s none f' path).trans again, find?_of_save again, unchanged⟩

/-- Settings with the largest numbers, and with texts that cannot be written as they are. -/
def extreme : Settings where
  version := limit32
  account :=
    { lifetime := limit64
      usernameStart := "\"\\\n"
      descriptionStart := "\x00\x1f\x7f"
      roleName := ""
      roleDatabase := "😀"
      authDatabase := "\ud7ff\uffff"
      passwordLength := limit64 }
  pool := ⟨limit64, limit64, limit32, limit32, limit64, limit64, limit64, limit64, limit64⟩
  proxy := { host := "proxy", port := 65535, username := some "", password := some ⟨"p"⟩ }

theorem file_round_trip_extreme :
    extreme.Fits ∧
    ∃ f', extreme.save (Rehearsal.disk []) "settings.json" = (.ok (), f') ∧
      load f' "settings.json" = .ok { extreme with proxy.password := none } ∧
      f'.HoldsOnly Rehearsal.workingFolder "settings.json" (Text.utf8Bytes extreme.fileText) := by
  have fits : extreme.Fits :=
    ⟨by decide, ⟨by decide, by decide⟩, ⟨by decide, by decide, by decide, by decide, by decide,
      by decide, by decide, by decide, by decide⟩, by decide⟩
  have plain : PlainName "settings.json" :=
    ⟨by decide, by decide, by decide, by decide, by decide⟩
  have empty : (Rehearsal.disk []).HoldsNothing Rehearsal.workingFolder :=
    Files.holdsNothing_of_entries (by decide)
  obtain ⟨-, loads, inFolder⟩ := file_round_trip fits
  obtain ⟨succeeds, leaves⟩ := inFolder (Rehearsal.disk []) "" "settings.json" _ (.here rfl) plain
    empty
  rw [String.empty_append] at succeeds leaves
  obtain ⟨f', saved⟩ := succeeds.mpr ⟨⟨by decide, by decide⟩, ⟨by decide, by decide⟩⟩
  exact ⟨fits, f', saved, (loads _ _ _ saved).2.1, (leaves _ saved).1⟩

end Settings
end ClusterAccess
