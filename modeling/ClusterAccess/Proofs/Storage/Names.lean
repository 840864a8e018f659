import ClusterAccess.Proofs.Storage.Replacing

/-!
# Names in a folder

A path that consists of the way to a folder and of a name leads to that name in the folder, unless
it is too long. The draft of such a file has a name of the same kind in the same folder. So an empty
folder in which a file was replaced holds this file and nothing else.

## Main definitions

* `PlainName`: a path that is only the name of a file.
* `Files.LeadsTo`: what stands before the last name of a path, with the folder that this leads to.
* `Files.HoldsOnly`: one file is all that stands in a folder.

## Main statements

* `Files.LeadsTo.locate_eq`: where a path with a plain name leads.
* `Files.LeadsTo.withExtension_eq`: the draft stands in the same folder.
* `Files.LeadsTo.replaceable_iff`: in an empty folder, short names suffice.
* `Files.Replaceable.holdsOnly`: afterwards the draft is not in the folder.
-/
namespace ClusterAccess.Storage

/-! ## Paths -/

/-- A path that is only the name of a file. -/
structure PlainName (name : String) : Prop where
  filled : name ≠ ""
  noSlash : '/' ∉ name.toList
  noNul : '\x00' ∉ name.toList
  notHere : name ≠ "."
  notAbove : name ≠ ".."

/-- What stands before the last name of a path, with the folder that this leads to. -/
inductive Files.LeadsTo (f : Files) : String → List String → Prop
  | here (exists_home : f.entry? f.home = some .folder) : LeadsTo f "" f.home
  | along {path : String} {folder : List String} (located : f.locate (path ++ "/") = .ok folder) :
    LeadsTo f (path ++ "/") folder

variable {f : Files} {front name : String} {folder : List String}

theorem parts_eq_singleton (noSlash : '/' ∉ name.toList) : parts name = [name] := by
  rw [parts, List.splitOn_eq_singleton noSlash, List.map_singleton, String.ofList_toList]

theorem parts_append (path : String) (noSlash : '/' ∉ name.toList) :
    parts (path ++ "/" ++ name) = parts path ++ [name] := by
  rw [← parts_eq_singleton noSlash]
  simp [parts, String.toList_append, List.splitOn_append_cons_self]

namespace Files.LeadsTo

theorem toList_eq (h : f.LeadsTo front folder) :
    front.toList = [] ∨ ∃ path : List Char, front.toList = path ++ ['/'] := by
  cases h with
  | here => exact .inl rfl
  | along => exact .inr ⟨_, String.toList_append⟩

theorem getLast?_parts (h : f.LeadsTo front folder) (noSlash : '/' ∉ name.toList) :
    (parts (front ++ name)).getLast? = some name := by
  cases h with
  | here => simp [parts_eq_singleton noSlash]
  | along => simp [parts_append _ noSlash]

theorem endsInName (h : f.LeadsTo front folder) (plain : PlainName name) :
    EndsInName (front ++ name) where
  noSlash := by
    have last : name.toList.getLast? ≠ some '/' := fun ends =>
      plain.noSlash (List.mem_of_getLast? ends)
    simpa [endsInSlash, String.toList_append, plain.filled] using last
  noDots := by simp [h.getLast?_parts plain.noSlash, plain.notHere, plain.notAbove]

end Files.LeadsTo

theorem Files.step_name (plain : PlainName name) (stands : f.entry? folder = some .folder) :
    f.step folder name =
      if name.utf8ByteSize ≤ longestName then .ok (folder ++ [name])
      else .error .nameTooLong := by
  rw [Files.step, stands]
  by_cases short : name.utf8ByteSize ≤ longestName
  · simp [plain.filled, plain.notHere, plain.notAbove, short, Nat.not_lt.mpr short]
  · simp [plain.filled, plain.notHere, plain.notAbove, short, Nat.not_le.mp short]

theorem startsWith_append {path : String} (filled : path ≠ "") (rest : String) :
    (path ++ rest).startsWith "/" = path.startsWith "/" := by
  rw [Bool.eq_iff_iff, String.startsWith_string_iff, String.startsWith_string_iff,
    String.toList_append]
  cases chars : path.toList with
  | nil => exact absurd (by simpa using chars) filled
  | cons c rest => simp

/-- A path that ends in a slash leads to a folder, and so does what stands before the slash. -/
theorem Files.stands_of_locate {path : String} (h : f.locate (path ++ "/") = .ok folder) :
    f.entry? folder = some .folder ∧
      (parts path).foldlM f.step (if (path ++ "/").startsWith "/" then [] else f.home) =
        .ok folder := by
  obtain ⟨-, -, -, walked⟩ := locate_eq_ok_iff.mp h
  have last : parts (path ++ "/") = parts path ++ [""] := by
    simpa using parts_append path (show '/' ∉ "".toList by decide)
  rw [last, List.foldlM_append] at walked
  cases before : (parts path).foldlM f.step (if (path ++ "/").startsWith "/" then [] else f.home)
    with
  | error e =>
    rw [before] at walked
    cases walked
  | ok place =>
    rw [before] at walked
    have stays : f.step place "" = .ok folder := (bind_pure (f.step place "")).symm.trans walked
    unfold Files.step at stays
    split at stays
    · cases stays
    · cases stays
    next stands =>
      cases stays
      exact ⟨stands, rfl⟩

namespace Files.LeadsTo

theorem stands (h : f.LeadsTo front folder) : f.entry? folder = some .folder := by
  cases h with
  | here exists_home => exact exists_home
  | along located => exact (stands_of_locate located).1

theorem noNul (h : f.LeadsTo front folder) : '\x00' ∉ front.toList := by
  cases h with
  | here => decide
  | along located => exact (locate_eq_ok_iff.mp located).1

/-- One part after another, such a path leads to its folder before it comes to its last name. -/
theorem foldlM_parts (h : f.LeadsTo front folder) (noSlash : '/' ∉ name.toList) :
    (parts (front ++ name)).foldlM f.step
      (if (front ++ name).startsWith "/" then [] else f.home) = f.step folder name := by
  cases h with
  | here exists_home =>
    have relative : name.startsWith "/" = false := by
      rw [Bool.eq_false_iff, ne_eq, String.startsWith_string_iff]
      rintro ⟨rest, split⟩
      exact noSlash (by simp [← split])
    rw [String.empty_append, relative, parts_eq_singleton noSlash]
    exact bind_pure (f.step f.home name)
  | @along path _ located =>
    rw [startsWith_append (by simp) name, parts_append path noSlash, List.foldlM_append,
      (stands_of_locate located).2]
    exact bind_pure (f.step folder name)

/-- Such a path leads to its last name in the folder, unless it is too long. -/
theorem locate_eq (h : f.LeadsTo front folder) (plain : PlainName name) :
    f.locate (front ++ name) =
      if (front ++ name).utf8ByteSize ≤ longestPath ∧ name.utf8ByteSize ≤ longestName then
        .ok (folder ++ [name])
      else .error .nameTooLong := by
  have noNul : '\x00' ∉ (front ++ name).toList := by
    simp [String.toList_append, h.noNul, plain.noNul]
  have filled : ¬ (front ++ name).isEmpty := by simp [plain.filled]
  rw [Files.locate, if_neg (by simpa using noNul), if_neg filled, h.foldlM_parts plain.noSlash,
    step_name plain h.stands]
  grind

end Files.LeadsTo

/-! ## The draft -/

/-- What is left before the last point is part of the name. -/
theorem stem_subset (name : List Char) : stem name ⊆ name := by
  unfold stem
  dsimp only
  split
  · exact List.Subset.refl name
  · intro c mem
    have kept := List.mem_of_mem_drop (List.mem_reverse.mp mem)
    exact List.mem_reverse.mp ((List.dropWhile_suffix _).subset kept)

/-- Read backwards, a path that ends in a name has nothing idle at its end. -/
theorem dropIdle_append {backwards : List Char} (filled : backwards ≠ [])
    (noSlash : '/' ∉ backwards) (notHere : backwards ≠ ['.']) (rest : List Char) :
    dropIdle (backwards ++ rest) = backwards ++ rest := by
  -- Idle is a slash, or a point with a slash after it: one or two characters tell.
  match backwards with
  | [] => exact absurd rfl filled
  | [c] =>
    have notSlash : '/' ≠ c := by simpa using noSlash
    have notPoint : c ≠ '.' := by simpa using notHere
    rw [List.singleton_append, dropIdle] <;> simp [notSlash.symm, notPoint]
  | c :: d :: more =>
    rw [List.mem_cons, List.mem_cons, not_or, not_or] at noSlash
    rw [List.cons_append, List.cons_append, dropIdle] <;>
      simp [Ne.symm noSlash.1, Ne.symm noSlash.2.1]

/-- The last name of a path is changed, and the folder is not. -/
theorem withExtension_append (slash : front.toList = [] ∨ ∃ path, front.toList = path ++ ['/'])
    (plain : PlainName name) (extension : String) :
    withExtension (front ++ name) extension =
      String.ofList (front.toList ++ stem name.toList ++ '.' :: extension.toList) := by
  have filled : name.toList ≠ [] := by simpa using plain.filled
  have noSlash : '/' ∉ name.toList.reverse := by simpa using plain.noSlash
  have notHere : name.toList ≠ ['.'] := fun here => plain.notHere (String.toList_inj.mp here)
  have notAbove : name.toList ≠ ['.', '.'] := fun above =>
    plain.notAbove (String.toList_inj.mp above)
  have kept : dropIdle (front ++ name).toList.reverse = (front ++ name).toList.reverse := by
    rw [String.toList_append, List.reverse_append]
    exact dropIdle_append (by simpa using filled) noSlash
      (fun here => notHere (by simpa using congrArg List.reverse here)) _
  have last : (front ++ name).toList.reverse.takeWhile (· != '/') = name.toList.reverse := by
    have inName : ∀ c ∈ name.toList.reverse, (c != '/') = true := by
      intro c mem
      simpa using ne_of_mem_of_not_mem mem noSlash
    rw [String.toList_append, List.reverse_append, List.takeWhile_append_of_pos inName]
    obtain blank | ⟨path, ends⟩ := slash
    · simp [blank]
    · simp [ends]
  unfold withExtension
  simp only [kept, List.reverse_reverse, last]
  simp [filled, notHere, notAbove]

theorem PlainName.withExtension_eq (plain : PlainName name) (extension : String) :
    withExtension name extension = String.ofList (stem name.toList ++ '.' :: extension.toList) := by
  simpa using withExtension_append (.inl rfl : "".toList = [] ∨ _) plain extension

theorem Files.LeadsTo.withExtension_eq (h : f.LeadsTo front folder) (plain : PlainName name)
    (extension : String) :
    withExtension (front ++ name) extension = front ++ withExtension name extension := by
  rw [withExtension_append h.toList_eq plain, plain.withExtension_eq, List.append_assoc,
    String.ofList_append, String.ofList_toList]

/-- The name of the draft is plain, too. -/
theorem PlainName.withExtension (plain : PlainName name) :
    PlainName (Storage.withExtension name "tmp") := by
  have spelled : (Storage.withExtension name "tmp").toList =
      stem name.toList ++ ['.', 't', 'm', 'p'] := by
    rw [plain.withExtension_eq, String.toList_ofList]
    rfl
  have ends : 'p' ∈ (Storage.withExtension name "tmp").toList := by simp [spelled]
  have only : ∀ c ∈ (Storage.withExtension name "tmp").toList,
      c ∈ name.toList ∨ c ∈ ['.', 't', 'm', 'p'] := by
    intro c mem
    rw [spelled] at mem
    exact (List.mem_append.mp mem).imp_left fun inStem => stem_subset _ inStem
  refine ⟨?_, ?_, ?_, ?_, ?_⟩
  · intro blank
    simp [blank] at ends
  · intro mem
    exact (only _ mem).elim plain.noSlash (by decide)
  · intro mem
    exact (only _ mem).elim plain.noNul (by decide)
  · intro here
    simp [here] at ends
  · intro above
    simp [above] at ends

/-! ## In an empty folder -/

/-- A path of a folder and a name that are both short enough for a file. -/
structure ShortName (front name : String) : Prop where
  path : (front ++ name).utf8ByteSize ≤ longestPath
  name : name.utf8ByteSize ≤ longestName

namespace Files

/-- Nothing stands in a folder. -/
def HoldsNothing (f : Files) (folder : List String) : Prop :=
  ∀ place, folder <+: place → place ≠ folder → f.entry? place = none

/-- One file is all that stands in a folder. -/
def HoldsOnly (f : Files) (folder : List String) (name : String) (bytes : List UInt8) : Prop :=
  ∀ place, folder <+: place → place ≠ folder →
    f.entry? place = if place = folder ++ [name] then some (.file bytes) else none

theorem holdsNothing_of_entries
    (outside : ∀ entry ∈ f.entries, folder <+: entry.1 → entry.1 = folder) :
    f.HoldsNothing folder := by
  intro place inFolder other
  cases place with
  | nil => exact absurd (List.prefix_nil.mp inFolder).symm other
  | cons first more =>
    refine List.lookup_eq_none_iff.mpr fun entry mem => ?_
    have apart : first :: more ≠ entry.1 := fun same =>
      other (same.trans (outside entry mem (same ▸ inFolder)))
    simpa using apart

theorem LeadsTo.locate_eq_ok_iff (h : f.LeadsTo front folder) (plain : PlainName name)
    {place : List String} :
    f.locate (front ++ name) = .ok place ↔ ShortName front name ∧ place = folder ++ [name] := by
  rw [h.locate_eq plain]
  split
  next short => simp [ShortName.mk short.1 short.2, eq_comm]
  next long =>
    have notShort : ¬ ShortName front name := fun short => long ⟨short.path, short.name⟩
    simp [notShort]

/-- In an empty folder, a file can be written when its name and that of its draft are short. -/
theorem LeadsTo.replaceable_iff (h : f.LeadsTo front folder) (plain : PlainName name)
    (empty : f.HoldsNothing folder) {draft place : List String} :
    f.Replaceable (withExtension (front ++ name) "tmp") (front ++ name) draft place ↔
      (ShortName front name ∧ ShortName front (withExtension name "tmp")) ∧
        draft = folder ++ [withExtension name "tmp"] ∧ place = folder ++ [name] := by
  have free (last : String) : f.entry? (folder ++ [last]) ≠ some .folder := by
    rw [empty _ (List.prefix_append folder [last]) (by simp)]
    nofun
  rw [h.withExtension_eq plain]
  constructor
  · rintro ⟨drafts, -, -, leads, -⟩
    obtain ⟨shortDraft, rfl⟩ := (h.locate_eq_ok_iff plain.withExtension).mp drafts
    obtain ⟨short, rfl⟩ := (h.locate_eq_ok_iff plain).mp leads
    exact ⟨⟨short, shortDraft⟩, rfl, rfl⟩
  · rintro ⟨⟨short, shortDraft⟩, rfl, rfl⟩
    exact ⟨(h.locate_eq_ok_iff plain.withExtension).mpr ⟨shortDraft, rfl⟩, free _,
      h.endsInName plain, (h.locate_eq_ok_iff plain).mpr ⟨short, rfl⟩, free _⟩

/-- After a file was put into an empty folder, its draft is not there, either. -/
theorem Replaceable.holdsOnly {draftPath path draftName : String} (empty : f.HoldsNothing folder)
    (h : f.Replaceable draftPath path (folder ++ [draftName]) (folder ++ [name]))
    (bytes : List UInt8) :
    (f.replace (folder ++ [draftName]) (folder ++ [name]) bytes).HoldsOnly folder name bytes := by
  intro q inFolder other
  rw [h.entry?_replace, empty q inFolder other, ite_self]

/-- Outside the folder of a file and of its draft, everything stays as it was. -/
theorem Replaceable.entry?_outside {draftPath path draftName : String}
    (h : f.Replaceable draftPath path (folder ++ [draftName]) (folder ++ [name]))
    (bytes : List UInt8) {q : List String} (outside : ¬ folder <+: q) :
    Files.entry? (f.replace (folder ++ [draftName]) (folder ++ [name]) bytes) q =
      f.entry? q := by
  have apart (last : String) : q ≠ folder ++ [last] := by
    rintro rfl
    exact outside (List.prefix_append folder [last])
  rw [h.entry?_replace, if_neg (apart name), if_neg (apart draftName)]

end Files

end ClusterAccess.Storage
