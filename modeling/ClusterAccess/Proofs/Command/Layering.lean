import ClusterAccess.Proofs.Api.Rejections
import ClusterAccess.Proofs.Settings.File

/-!
# Options put over the settings file

The command puts its options over the settings of the file, and can write what comes of that back to
the file. Options that are put over again what was written change nothing but the password, which
the file does not have.

## Main definitions

* `Command.Wrote`: what holds once the settings were written.

## Main statements

* `Command.Arguments.override_written`: the options, put over what was written.
* `Command.layering_stable`: what the command does to the settings file.
-/
namespace ClusterAccess

open Storage

namespace Command

/-! ## Options -/

theorem port?_le {text : String} {n : Nat} (h : port? text = some n) : n ≤ 65535 := by
  unfold port? at h
  split at h
  · split at h
    next inRange =>
      cases h
      have bounds := (Bool.and_eq_true_iff.mp inRange).2
      have := of_decide_eq_true bounds
      omega
    · cases h
  · cases h

variable {environment : List (String × String)} {args : List String} {a : Arguments}

theorem proxyPort_le (asked : Request.parse? environment args = some (.probe a)) :
    ∀ port ∈ a.proxyPort, port ≤ 65535 := by
  unfold Request.parse? at asked
  split at asked
  case h_4 values _ =>
    obtain ⟨_, made, same⟩ := Option.map_eq_some_iff.mp asked
    cases same
    unfold Arguments.ofValues? at made
    dsimp only at made
    split at made <;> cases made
    intro port given
    obtain ⟨text, -, read⟩ := Option.bind_eq_some_iff.mp given
    exact port?_le read
  all_goals cases asked

namespace Arguments

theorem fits_override {s : Settings} (fits : s.Fits) (small : ∀ port ∈ a.proxyPort, port ≤ 65535) :
    (a.override s).Fits := by
  refine ⟨fits.version, fits.account, fits.pool, ?_⟩
  cases given : a.proxyPort with
  | none => simpa [override, given] using fits.port
  | some port => simpa [override, given] using small port given

/-- Put over what was written, the options give the same settings, with the password only if they
give that as well. -/
theorem override_written (a : Arguments) (s : Settings) :
    a.override (a.override s).withoutPassword =
      { a.override s with proxy := {
          (a.override s).proxy with password := a.proxyPassword.map .ofString } } := by
  have again {α : Type} (o : Option α) (usual : α) : o.getD (o.getD usual) = o.getD usual := by
    cases o <;> rfl
  simp only [override, Settings.withoutPassword, again, Option.or_none, ← Option.or_assoc,
    Option.or_self]

/-- It is saved as it was. -/
theorem save_override_written (a : Arguments) (s : Settings) (f : Files) (path : String) :
    (a.override (a.override s).withoutPassword).save f path = (a.override s).save f path := by
  rw [override_written]
  exact Settings.save_withPassword _ _ f path

end Arguments

/-! ## Writing the settings -/

variable {σ : Type} {files : Files} {s : Settings}

section

variable (surroundings : Surroundings σ) (session : Api.Session σ)

theorem run_probe (asked : Request.parse? environment args = some (.probe a)) :
    run surroundings environment args files session =
      runArguments surroundings a files session := by
  rw [run, asked]

theorem runArguments_invalid {e : AccessError}
    (loaded : Settings.load files a.settingsFile = .ok s)
    (invalid : (a.override s).validate = .error e) :
    runArguments surroundings a files session =
      refused files session (.because "Invalid settings" e) := by
  rw [runArguments, loaded]
  dsimp only
  rw [invalid]

theorem runArguments_valid (loaded : Settings.load files a.settingsFile = .ok s)
    (valid : (a.override s).validate = .ok ()) :
    runArguments surroundings a files session =
      if a.writesSettings then writeSettings a (a.override s) files session
      else checkAndProbe surroundings a (a.override s) files session := by
  rw [runArguments, loaded]
  dsimp only
  rw [valid]

end

/-- What holds once the settings were written: they are loaded without the password of the proxy,
the options can be put over them again, and writing what comes of that writes the same bytes. -/
structure Wrote (environment : List (String × String)) (args : List String) (a : Arguments)
    (s : Settings) (f : Files) : Prop where
  file : f.find? a.settingsFile = some (.file (Text.utf8Bytes (a.override s).fileText))
  loads : Settings.load f a.settingsFile = .ok (a.override s).withoutPassword
  layered : a.override (a.override s).withoutPassword =
    { a.override s with proxy := {
        (a.override s).proxy with password := a.proxyPassword.map .ofString } }
  again : (a.override (a.override s).withoutPassword).validate = .ok () →
    ∀ {σ : Type} (surroundings : Surroundings σ) (session : Api.Session σ),
      ∃ f', run surroundings environment args f session = { status := 0, files := f', session } ∧
        f'.find? a.settingsFile = f.find? a.settingsFile ∧
        ∀ place, f'.entry? place = f.entry? place

theorem writeSettings_ok {f : Files} (session : Api.Session σ)
    (saved : s.save files a.settingsFile = (.ok (), f)) :
    writeSettings a s files session = { status := 0, files := f, session } := by
  unfold writeSettings
  rw [saved]

theorem writeSettings_error {f : Files} {e : IoError} (session : Api.Session σ)
    (saved : s.save files a.settingsFile = (.error e, f)) : writeSettings a s files session =
      refused f session (.because s!"Failed to write {a.settingsFile}" (.io e)) := by
  unfold writeSettings
  rw [saved]

theorem wrote_of_save {f : Files} (asked : Request.parse? environment args = some (.probe a))
    (writes : a.writesSettings = true) (loaded : Settings.load files a.settingsFile = .ok s)
    (saved : (a.override s).save files a.settingsFile = (.ok (), f)) :
    Wrote environment args a s f := by
  have fits : (a.override s).Fits :=
    a.fits_override (Settings.fits_of_load loaded) (proxyPort_le asked)
  have loads : Settings.load f a.settingsFile = .ok (a.override s).withoutPassword :=
    Settings.load_of_save fits saved
  refine ⟨Settings.find?_of_save saved, loads, a.override_written s, fun valid _ _ session => ?_⟩
  -- What is written the second time differs only in the password, which is never written.
  obtain ⟨f', again, unchanged⟩ := Settings.save_again saved
  have kept : (a.override (a.override s).withoutPassword).save f a.settingsFile = (.ok (), f') :=
    (a.save_override_written s f a.settingsFile).trans again
  have same : f'.find? a.settingsFile = f.find? a.settingsFile :=
    (Settings.find?_of_save again).trans (Settings.find?_of_save saved).symm
  refine ⟨f', ?_, same, unchanged⟩
  rw [run_probe _ session asked, runArguments_valid _ session loads valid, if_pos writes]
  exact writeSettings_ok session kept

/-- A run that is to write the settings does nothing else. It succeeds if the options and the file
together are valid and the file can be replaced. Options that do not fit the file leave all files as
they are. -/
theorem layering_stable (asked : Request.parse? environment args = some (.probe a))
    (writes : a.writesSettings = true) (loaded : Settings.load files a.settingsFile = .ok s)
    (surroundings : Surroundings σ) (session : Api.Session σ) :
    (run surroundings environment args files session).session = session ∧
      ((run surroundings environment args files session).status = 0 ↔
        (a.override s).validate = .ok () ∧
          ∃ draft place, files.Replaceable (withExtension a.settingsFile "tmp") a.settingsFile
            draft place) ∧
      ((run surroundings environment args files session).status = 0 →
        Wrote environment args a s (run surroundings environment args files session).files) ∧
      ∀ e, (a.override s).validate = .error e →
        run surroundings environment args files session =
          refused files session (.because "Invalid settings" e) := by
  rw [run_probe surroundings session asked]
  cases valid : (a.override s).validate with
  | error e =>
    rw [runArguments_invalid surroundings session loaded valid]
    refine ⟨rfl, ⟨nofun, nofun⟩, nofun, fun e' same => ?_⟩
    cases same
    rfl
  | ok =>
    rw [runArguments_valid surroundings session loaded valid, if_pos writes]
    rcases saved : (a.override s).save files a.settingsFile with ⟨e | ⟨⟩, f⟩
    · have kept : ¬ ∃ draft place, files.Replaceable (withExtension a.settingsFile "tmp")
          a.settingsFile draft place := by
        rintro ⟨draft, place, replaceable⟩
        have done : (a.override s).save files a.settingsFile = (.ok (), _) :=
          Settings.save_eq_ok_iff.mpr ⟨draft, place, replaceable, rfl⟩
        cases saved.symm.trans done
      rw [writeSettings_error session saved]
      exact ⟨rfl, ⟨nofun, fun able => absurd able.2 kept⟩, nofun, nofun⟩
    · rw [writeSettings_ok session saved]
      obtain ⟨draft, place, replaceable, -⟩ := Settings.save_eq_ok_iff.mp saved
      exact ⟨rfl, ⟨fun _ => ⟨rfl, draft, place, replaceable⟩, fun _ => rfl⟩,
        fun _ => wrote_of_save asked writes loaded saved, nofun⟩

/-- A disk with settings that have a whole proxy. -/
def proxiedDisk : Files := Rehearsal.disk [("atlas-broker.json", .file (Text.utf8Bytes
  "\x7b\"proxy\":\x7b\"host\":\"h\",\"port\":1,\"username\":\"u\",\"password\":\"p\"\x7d\x7d"))]

/-- Options that replace both halves of the file's means of signing in. -/
def renamed : Arguments :=
  { writesSettings := true, proxyUser := some "v", proxyPassword := some "q" }

/-- The arguments that make these options. -/
def renamedArguments : List String :=
  ["--write-default-settings", "--proxy-user", "v", "--proxy-pass=q"]

/-- How the command ends with them. -/
def renamedEnding (files : Files) : Ending Unit :=
  run (alone (.rebuffed (.bearer ⟨"t"⟩) 403)) [] renamedArguments files { world := () }

/-- The new user is written and the old password is not. With the new one, the same is written
again. -/
theorem layering_stable_renamed :
    Request.parse? [] renamedArguments = some (.probe renamed) ∧ renamed.writesSettings = true ∧
      Settings.load proxiedDisk "atlas-broker.json" =
        .ok { proxy := ⟨"h", 1, some "u", some ⟨"p"⟩⟩ } ∧
      (renamedEnding proxiedDisk).status = 0 ∧
      Settings.load (renamedEnding proxiedDisk).files "atlas-broker.json" =
        .ok { proxy := ⟨"h", 1, some "v", none⟩ } ∧
      ∃ f', renamedEnding (renamedEnding proxiedDisk).files =
          { status := 0, files := f', session := { world := () } } ∧
        f'.find? "atlas-broker.json" =
          (renamedEnding proxiedDisk).files.find? "atlas-broker.json" := by
  have asked : Request.parse? [] renamedArguments = some (.probe renamed) := by decide +kernel
  have loaded : Settings.load proxiedDisk renamed.settingsFile =
      .ok { proxy := ⟨"h", 1, some "u", some ⟨"p"⟩⟩ } := Api.ok_of_toOption (by decide +kernel)
  have ended : (renamedEnding proxiedDisk).status = 0 := by decide +kernel
  obtain ⟨-, -, wrote, -⟩ := layering_stable asked rfl loaded
    (alone (.rebuffed (.bearer ⟨"t"⟩) 403)) { world := () }
  have written := wrote ended
  obtain ⟨f', again, same, -⟩ := written.again rfl (alone (.rebuffed (.bearer ⟨"t"⟩) 403))
    { world := () }
  exact ⟨asked, rfl, loaded, ended, written.loads, f', again, same⟩

end Command
end ClusterAccess
