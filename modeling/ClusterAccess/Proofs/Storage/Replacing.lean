import ClusterAccess.Storage

/-!
# Replacing a file

A file is replaced by writing a draft and moving it into place. Neither step changes which places
are folders, so every path leads to where it led before; afterwards the file has the new bytes, the
draft is gone, and all else is as it was.

## Main definitions

* `Files.SameFolders`: two worlds of files with the same folders.
* `Files.Replaceable`: a draft can be written beside a file and moved into its place.
* `Files.replace`: the files afterwards.

## Main statements

* `Files.SameFolders.locate`: with the same folders, paths lead to the same places.
* `Files.rename_eq_ok_iff`: when a file can be moved.
* `Files.Replaceable.entry?_replace`: what stands where after a file was replaced.
-/
namespace ClusterAccess.Storage

namespace Files

variable {f g : Files} {place q : List String} {e : Entry}

/-! ## Entries -/

theorem lookup_filter_self (entries : List (List String × Entry)) (place : List String) :
    (entries.filter (·.1 != place)).lookup place = none := by
  rw [List.lookup_eq_none_iff]
  intro entry mem
  have other : entry.1 ≠ place := by simpa using (List.mem_filter.mp mem).2
  simpa using other.symm

theorem lookup_filter_of_ne (entries : List (List String × Entry)) (other : q ≠ place) :
    (entries.filter (·.1 != place)).lookup q = entries.lookup q := by
  induction entries with
  | nil => rfl
  | cons entry entries ih =>
    obtain ⟨there, e⟩ := entry
    by_cases same : there = place
    · have apart : (q == there) = false := by simpa [same] using other
      rw [List.lookup_cons, apart, List.filter_cons_of_neg (by simp [same]), ih]
    · rw [List.filter_cons_of_pos (by simpa using same), List.lookup_cons, List.lookup_cons, ih]

theorem entry?_of_ne_nil (named : place ≠ []) : f.entry? place = f.entries.lookup place := by
  cases place with
  | nil => exact absurd rfl named
  | cons _ _ => rfl

theorem entry?_put (named : place ≠ []) :
    Files.entry? (f.put place e) q = if q = place then some e else f.entry? q := by
  by_cases same : q = place
  · subst same
    simp [entry?_of_ne_nil named, put]
  · rw [if_neg same]
    cases q with
    | nil => rfl
    | cons name names =>
      have other : (name :: names == place) = false := by simpa using same
      simp [put, entry?, List.lookup_cons, other, lookup_filter_of_ne f.entries same]

theorem entry?_erase (named : place ≠ []) :
    Files.entry? (f.erase place) q = if q = place then none else f.entry? q := by
  by_cases same : q = place
  · subst same
    simp [entry?_of_ne_nil named, erase, lookup_filter_self]
  · rw [if_neg same]
    cases q with
    | nil => rfl
    | cons _ _ => exact lookup_filter_of_ne f.entries same

/-- The root is a folder. -/
theorem ne_nil_of_not_folder (free : f.entry? place ≠ some .folder) : place ≠ [] := by
  rintro rfl
  exact free rfl

/-! ## Folders -/

theorem locate_eq_ok_iff {path : String} : f.locate path = .ok place ↔
    '\x00' ∉ path.toList ∧ path ≠ "" ∧ path.utf8ByteSize ≤ longestPath ∧
      (parts path).foldlM f.step (if path.startsWith "/" then [] else f.home) = .ok place := by
  rw [Files.locate]
  simp only [List.contains_eq_mem, decide_eq_true_eq, String.isEmpty_iff]
  grind

/-- The folders are the same, and so is the working folder. -/
structure SameFolders (f g : Files) : Prop where
  home : g.home = f.home
  folder (place : List String) : g.entry? place = some .folder ↔ f.entry? place = some .folder

namespace SameFolders

theorem symm (same : SameFolders f g) : SameFolders g f :=
  ⟨same.home.symm, fun place => (same.folder place).symm⟩

theorem put (free : f.entry? place ≠ some .folder) (bytes : List UInt8) :
    SameFolders f (f.put place (.file bytes)) where
  home := rfl
  folder q := by
    rw [entry?_put (ne_nil_of_not_folder free)]
    by_cases same : q = place
    · subst same
      simp [free]
    · rw [if_neg same]

theorem step (same : SameFolders f g) {part : String} {next : List String}
    (h : f.step place part = .ok next) : g.step place part = .ok next := by
  unfold Files.step at h ⊢
  split at h
  · cases h
  · cases h
  next folder =>
    rw [(same.folder place).mpr folder]
    exact h

theorem foldlM_step (same : SameFolders f g) {parts : List String} {next : List String}
    (h : parts.foldlM f.step place = .ok next) : parts.foldlM g.step place = .ok next := by
  induction parts generalizing place with
  | nil => exact h
  | cons part parts ih =>
    rw [List.foldlM_cons] at h ⊢
    cases went : f.step place part with
    | error e =>
      rw [went] at h
      cases h
    | ok on =>
      rw [went] at h
      rw [same.step went]
      exact ih h

theorem locate_of_ok (same : SameFolders f g) {path : String} (h : f.locate path = .ok place) :
    g.locate path = .ok place := by
  rw [locate_eq_ok_iff] at h ⊢
  obtain ⟨noNul, filled, short, walked⟩ := h
  rw [same.home]
  exact ⟨noNul, filled, short, same.foldlM_step walked⟩

/-- With the same folders, a path leads to the same place. -/
theorem locate (same : SameFolders f g) {path : String} :
    g.locate path = .ok place ↔ f.locate path = .ok place :=
  ⟨same.symm.locate_of_ok, same.locate_of_ok⟩

end SameFolders

/-! ## Operations -/

variable {path source target : String} {bytes : List UInt8} {draft : List String}

theorem write_eq_ok_iff : f.write path bytes = .ok g ↔
    ∃ place, f.locate path = .ok place ∧ f.entry? place ≠ some .folder ∧
      g = f.put place (.file bytes) := by
  unfold write
  cases located : f.locate path with
  | error e => simp
  | ok place =>
    dsimp only
    split
    next folder => simp [folder]
    next free =>
      constructor
      · intro wrote
        cases wrote
        exact ⟨place, rfl, free, rfl⟩
      · rintro ⟨there, same, -, rfl⟩
        cases same
        rfl

/-- A path that does not end in a slash has none to lose. -/
theorem withoutSlashes_eq (named : endsInSlash path = false) : withoutSlashes path = path := by
  unfold endsInSlash at named
  unfold withoutSlashes
  rw [← List.head?_reverse] at named
  have kept : path.toList.reverse.dropWhile (· == '/') = path.toList.reverse := by
    cases last : path.toList.reverse with
    | nil => rfl
    | cons c rest =>
      rw [last] at named
      have other : (c == '/') = false := by simpa using named
      simp [other]
  rw [kept, List.reverse_reverse, String.ofList_toList]

/-- A path that ends in a name, and not in a step to a folder. -/
structure EndsInName (path : String) : Prop where
  noSlash : endsInSlash path = false
  noDots : ((parts path).getLast?.any fun last => last == "." || last == "..") = false

theorem rename_eq_ok_iff {old : List String} (found : f.locate source = .ok old)
    (file : f.entry? old = some (.file bytes)) :
    f.rename source target = .ok g ↔
      EndsInName target ∧ ∃ new, f.locate target = .ok new ∧ f.entry? new ≠ some .folder ∧
        g = (f.erase old).put new (.file bytes) := by
  unfold rename
  simp only [found, bind, Except.bind]
  constructor
  · intro h
    cases located : f.locate (withoutSlashes target) with
    | error e => simp [located] at h
    | ok new =>
      simp only [located, file] at h
      split at h
      · cases h
      next noDots =>
        split at h
        · cases h
        next noSlash =>
          split at h
          · cases h
          next free =>
            cases h
            have noSlash : endsInSlash target = false := by simpa using noSlash
            rw [withoutSlashes_eq noSlash] at located noDots
            exact ⟨⟨noSlash, by simpa using noDots⟩, new, located, free, rfl⟩
  · rintro ⟨⟨noSlash, noDots⟩, new, located, free, rfl⟩
    simp [withoutSlashes_eq noSlash, located, file, noDots, noSlash, free]

/-- A draft can be written beside a file, and then be moved into its place. -/
structure Replaceable (f : Files) (draftPath path : String) (draft place : List String) : Prop where
  drafts : f.locate draftPath = .ok draft
  draft_free : f.entry? draft ≠ some .folder
  named : EndsInName path
  leads : f.locate path = .ok place
  place_free : f.entry? place ≠ some .folder

/-- The files after that. -/
def replace (f : Files) (draft place : List String) (bytes : List UInt8) : Files :=
  ((f.put draft (.file bytes)).erase draft).put place (.file bytes)

section

variable {draftPath : String}

theorem rename_draft_eq_ok_iff (drafts : f.locate draftPath = .ok draft)
    (free : f.entry? draft ≠ some .folder) :
    (f.put draft (.file bytes)).rename draftPath path = .ok g ↔
      ∃ place, f.Replaceable draftPath path draft place ∧ g = f.replace draft place bytes := by
  have same := SameFolders.put free bytes
  have written : Files.entry? (f.put draft (.file bytes)) draft = some (.file bytes) := by
    rw [entry?_put (ne_nil_of_not_folder free), if_pos rfl]
  rw [rename_eq_ok_iff (same.locate.mpr drafts) written]
  simp only [same.locate, ne_eq, same.folder]
  constructor
  · rintro ⟨named, place, leads, place_free, rfl⟩
    exact ⟨place, ⟨drafts, free, named, leads, place_free⟩, rfl⟩
  · rintro ⟨place, ⟨-, -, named, leads, place_free⟩, rfl⟩
    exact ⟨named, place, leads, place_free, rfl⟩

variable {place : List String}

/-- What stands where afterwards: the file has the new bytes, and the draft is gone. -/
theorem Replaceable.entry?_replace (h : f.Replaceable draftPath path draft place)
    (bytes : List UInt8) (q : List String) :
    Files.entry? (f.replace draft place bytes) q =
      if q = place then some (.file bytes) else if q = draft then none else f.entry? q := by
  have draft_named := ne_nil_of_not_folder h.draft_free
  rw [replace, entry?_put (ne_nil_of_not_folder h.place_free), entry?_erase draft_named,
    entry?_put draft_named]
  -- The draft may be the file itself, which then has the new bytes all the same.
  grind

theorem Replaceable.sameFolders (h : f.Replaceable draftPath path draft place)
    (bytes : List UInt8) : SameFolders f (f.replace draft place bytes) where
  home := rfl
  folder q := by
    have draft_free := h.draft_free
    have place_free := h.place_free
    rw [h.entry?_replace]
    grind

/-- With the same folders, the same can be replaced. -/
theorem Replaceable.of_sameFolders (h : f.Replaceable draftPath path draft place)
    (same : SameFolders f g) : g.Replaceable draftPath path draft place where
  drafts := same.locate.mpr h.drafts
  draft_free := mt (same.folder draft).mp h.draft_free
  named := h.named
  leads := same.locate.mpr h.leads
  place_free := mt (same.folder place).mp h.place_free

/-- The path leads to the new bytes. -/
theorem Replaceable.find? (h : f.Replaceable draftPath path draft place) (bytes : List UInt8) :
    (f.replace draft place bytes).find? path = some (.file bytes) := by
  rw [Files.find?, (h.sameFolders bytes).locate.mpr h.leads]
  dsimp only
  rw [h.entry?_replace, if_pos rfl]

end

end Files

end ClusterAccess.Storage
