import ClusterAccess.Proofs.Text.Pieces
import ClusterAccess.Proofs.Url.Segments
import ClusterAccess.Url.Parser

/-!
# The paths of URLs that are read

A path is cut at its slashes when it is read, so that no segment has one.

## Main statements

* `whole_of_parse`: the segments of a URL that was read are the pieces of its path.
-/
namespace ClusterAccess.Url

variable {items : List String} {s : String}

/-! ## Cutting a path -/

theorem whole_writtenSegments (special : Bool) (text : List Char) :
    Whole (writtenSegments special text) := by
  intro i mem slash
  obtain ⟨piece, cut, rfl⟩ := List.mem_map.mp mem
  rw [encoded, String.toList_ofList] at slash
  rcases Text.Percent.mem_encodeWith slash with ⟨inPiece, -⟩ | percent | unreserved
  · exact Text.not_mem_of_mem_splitOn cut inPiece
  · cases percent
  · cases unreserved

/-! ## Following a path -/

theorem Whole.outer (h : Whole items) : Whole (outer items) := by
  unfold Url.outer
  split
  · exact h
  · exact fun i mem => h i (List.dropLast_subset _ mem)

theorem Whole.addSegment (h : Whole items) (noSlash : '/' ∉ s.toList) (isLast : Bool) :
    Whole (addSegment items s isLast) := by
  have last : Whole (if isLast then [""] else []) := by
    cases isLast
    · exact fun _ mem => nomatch mem
    · exact .singleton (by simp)
  unfold Url.addSegment
  split
  · exact h.outer.append last
  · split
    · exact h.append last
    · exact h.append (.singleton noSlash)

theorem Whole.addSegments {written : List String} (h : Whole items) (hw : Whole written) :
    Whole (addSegments items written) := by
  fun_induction Url.addSegments items written with
  | case1 => exact h
  | case2 items last => exact h.addSegment (hw last List.mem_cons_self) true
  | case3 items s rest _ ih =>
    exact ih (h.addSegment (hw s List.mem_cons_self) false)
      fun i mem => hw i (List.mem_cons_of_mem _ mem)

theorem whole_parseSegments (special : Bool) (text : List Char) :
    Whole (parseSegments special text) :=
  Whole.addSegments (fun _ mem => nomatch mem) (whole_writtenSegments special text)

/-! ## Files -/

theorem Whole.plainRoot (h : Whole items) : Whole (plainRoot items) := by
  unfold Url.plainRoot
  split
  next drive =>
    have noSlash := h drive List.mem_cons_self
    split
    · refine .singleton ?_
      rw [plainDrive, String.toList_ofList]
      intro mem
      rcases List.mem_append.mp mem with mem | mem
      · exact noSlash (List.mem_of_mem_take mem)
      · simp at mem
    · exact .singleton noSlash
  next => exact h

theorem Whole.addFileSegments {written : List String} (h : Whole items) (hw : Whole written) :
    Whole (addFileSegments items written) := by
  fun_induction Url.addFileSegments items written with
  | case1 => exact h
  | case2 items last => exact (h.addSegment (hw last List.mem_cons_self) true).plainRoot
  | case3 items s rest _ ih =>
    exact ih (h.addSegment (hw s List.mem_cons_self) false).plainRoot
      fun i mem => hw i (List.mem_cons_of_mem _ mem)

theorem Whole.withoutEmptyStart (h : Whole items) : Whole (withoutEmptyStart items) := by
  unfold Url.withoutEmptyStart
  split
  · exact .singleton (by simp)
  next kept _ => exact fun i mem => h i ((List.dropWhile_sublist _).subset mem)

/-! ## Whole texts -/

/-- If the path has segments, they stand between two slashes as they are. -/
def Path.IsWhole (p : Path) : Prop := ∀ items, p = .segments items → Whole items

theorem Path.isWhole_segments (h : Whole items) : (Path.segments items).IsWhole := by
  rintro _ ⟨⟩
  exact h

theorem Path.isWhole_rootless (text : String) : (Path.rootless text).IsWhole :=
  fun _ same => nomatch same

theorem isWhole_parsePath (special : Bool) (text : List Char) :
    (parsePath special text).IsWhole := by
  unfold parsePath
  split
  · cases special
    · exact Path.isWhole_segments fun _ mem => nomatch mem
    · exact Path.isWhole_segments (.singleton (by simp))
  · split <;> exact Path.isWhole_segments (whole_parseSegments _ _)

theorem isWhole_ofFile (host : Option Host) (text : List Char) : (ofFile host text).path.IsWhole :=
  Path.isWhole_segments (Whole.withoutEmptyStart
    (Whole.addFileSegments (fun _ mem => nomatch mem) (whole_writtenSegments _ _)))

theorem isWhole_parsePlace {scheme : String} {text : List Char} {u : Url}
    (h : parsePlace scheme text = .ok u) : u.path.IsWhole := by
  unfold parsePlace at h
  dsimp only at h
  split at h <;> cases h
  exact isWhole_parsePath _ _

theorem isWhole_parseFile {text : List Char} {u : Url} (h : parseFile text = .ok u) :
    u.path.IsWhole := by
  have place {text : List Char} (h : parseFilePlace text = .ok u) : u.path.IsWhole := by
    unfold parseFilePlace at h
    dsimp only at h
    repeat' split at h
    all_goals cases h
    all_goals exact isWhole_ofFile _ _
  unfold parseFile at h
  repeat' split at h
  case h_1.isFalse.isTrue => exact place h
  all_goals
    cases h
    exact isWhole_ofFile _ _

/-- The segments of a URL that was read are the pieces of its path. -/
theorem whole_of_parse {text : String} {u : Url} (h : parse text = .ok u) : u.path.IsWhole := by
  unfold parse at h
  split at h
  next => cases h
  next scheme rest _ =>
    unfold parseAfterScheme at h
    split at h
    · exact isWhole_parseFile h
    split at h
    · exact isWhole_parsePlace h
    split at h
    · exact isWhole_parsePlace h
    · cases h
      exact Path.isWhole_segments (whole_parseSegments _ _)
    · cases h
      exact Path.isWhole_rootless _

end ClusterAccess.Url
