import ClusterAccess.Proofs.Text.Percent
import ClusterAccess.Url.Edit
import Mathlib.Data.List.Induction

/-!
# Names as segments of a path

A name is added to the path of a URL as one segment, with escapes, from which it can be read back.
The names of directories are not added, and those characters are left out that URLs drop.

## Main definitions

* `Literal`: names that become segments as they are.
* `segmentOf`: the segment of a name.
* `Path.pieces`: a path, cut at its slashes.
* `Whole`: segments without slashes, which are the pieces of their path.
* `stem`: what is left of a path to which names are added.
* `Added`, `Pushed`: what becomes of a path to which a name is added, and what can be read of that.

## Main statements

* `decode?_segmentOf`, `segmentOf_injective`: a name is read back from its segment.
* `isSingleDot_segmentOf`, `isDoubleDot_segmentOf`: only two names are taken for directories.
* `Path.pieces_segments`: the pieces of a path are its segments.
* `pushSegments?_pushed`: names that are added are read back if they are literal, and only then.
-/
namespace ClusterAccess.Url

open Text

/-! ## One name -/

/-- A name that becomes a segment as it is. -/
structure Literal (s : String) : Prop where
  notDirectory : s ≠ "." ∧ s ≠ ".."
  kept : ∀ c ∈ s.toList, isDropped c = false

instance (s : String) : Decidable (Literal s) :=
  decidable_of_iff ((s ≠ "." ∧ s ≠ "..") ∧ (s.toList.all fun c => !isDropped c) = true)
    ⟨fun h => ⟨h.1, by simpa using h.2⟩, fun h => ⟨h.notDirectory, by simpa using h.kept⟩⟩

/-- The segment of a name. -/
def segmentOf (special : Bool) (s : String) : String := encoded (keepsSegment special) s.toList

variable {special : Bool} {s t : String}

theorem keepsSegment_percent (special : Bool) : keepsSegment special '%' = false := by
  cases special <;> rfl

/-- A name is read back from its segment. -/
theorem decode?_segmentOf (special : Bool) (s : String) :
    Percent.decode? (segmentOf special s) = some s := by
  rw [segmentOf, encoded, Percent.decode?_encodeWith (keepsSegment_percent special),
    String.ofList_toList]

theorem segmentOf_injective (h : segmentOf special s = segmentOf special t) : s = t := by
  have read := congrArg Percent.decode? h
  simpa [decode?_segmentOf] using read

theorem slash_not_mem_segmentOf (special : Bool) (s : String) :
    '/' ∉ (segmentOf special s).toList := by
  intro mem
  rw [segmentOf, encoded, String.toList_ofList] at mem
  rcases Percent.mem_encodeWith mem with ⟨-, kept⟩ | percent | unreserved
  · cases special <;> cases kept
  · cases percent
  · cases unreserved

/-! ## Names of directories -/

theorem toLower_eq {c d : Char} (small : d.toNat < 97) (h : c.toLower = d) : c = d := by
  unfold Char.toLower at h
  split at h
  next upper =>
    have first : 65 ≤ c.val.toNat := upper.1
    have last : c.val.toNat ≤ 90 := upper.2
    have shifted : d.toNat = c.val.toNat + 32 := by
      subst h
      show (c.val + ('a'.val - 'A'.val)).toNat = _
      rw [UInt32.toNat_add, show ('a'.val - 'A'.val).toNat = 32 from rfl]
      omega
    omega
  next => exact h

theorem toLower_eq_e {c : Char} (h : c.toLower = 'e') : c = 'e' ∨ c = 'E' := by
  unfold Char.toLower at h
  split at h
  next upper =>
    have last : c.val.toNat ≤ 90 := upper.2
    have shifted : (c.val + ('a'.val - 'A'.val)).toNat = 101 := congrArg Char.toNat h
    rw [UInt32.toNat_add, show ('a'.val - 'A'.val).toNat = 32 from rfl] at shifted
    have same : c.toNat = 'E'.toNat := by
      show c.val.toNat = 69
      omega
    exact .inr (Char.toNat_inj.mp same)
  next => exact .inl h

/-- A point, plain or escaped. -/
inductive Point : List Char → Prop
  | plain : Point ['.']
  | small : Point ['%', '2', 'e']
  | capital : Point ['%', '2', 'E']

theorem point_of_toLower {l : List Char}
    (h : l.map Char.toLower = ['.'] ∨ l.map Char.toLower = ['%', '2', 'e']) : Point l := by
  rcases h with h | h
  · obtain ⟨c, rfl, h⟩ := List.map_eq_singleton_iff.mp h
    rw [toLower_eq (by decide) (List.cons.inj h).1]
    exact .plain
  · obtain ⟨a, l, rfl, ha, h⟩ := List.map_eq_cons_iff.mp h
    obtain ⟨b, l, rfl, hb, h⟩ := List.map_eq_cons_iff.mp h
    obtain ⟨c, rfl, hc⟩ := List.map_eq_singleton_iff.mp h
    rw [toLower_eq (by decide) ha, toLower_eq (by decide) hb]
    rcases toLower_eq_e hc with rfl | rfl
    · exact .small
    · exact .capital

theorem point_of_isSingleDot (h : isSingleDot s = true) : Point s.toList := by
  rcases (Bool.or_eq_true _ _).mp h with h | h
  · rw [beq_iff_eq.mp h]
    exact .plain
  · refine point_of_toLower (.inr ?_)
    rw [← String.toList_map]
    exact congrArg String.toList (beq_iff_eq.mp h)

theorem points_of_isDoubleDot (h : isDoubleDot s = true) :
    ∃ l m, Point l ∧ Point m ∧ s.toList = l ++ m := by
  have split {l m : List Char} (hl : l = ['.'] ∨ l = ['%', '2', 'e'])
      (hm : m = ['.'] ∨ m = ['%', '2', 'e']) (h : s.toLower.toList = l ++ m) :
      ∃ l m, Point l ∧ Point m ∧ s.toList = l ++ m := by
    have h : s.toList.map Char.toLower = l ++ m := String.toList_map.symm.trans h
    obtain ⟨l', m', all, rfl, rfl⟩ := List.map_eq_append_iff.mp h
    exact ⟨l', m', point_of_toLower hl, point_of_toLower hm, all⟩
  simp only [isDoubleDot, Bool.or_eq_true, beq_iff_eq] at h
  rcases h with ((h | h) | h) | h
  · exact split (.inl rfl) (.inl rfl) (congrArg String.toList h)
  · exact split (.inr rfl) (.inr rfl) (congrArg String.toList h)
  · exact split (.inr rfl) (.inl rfl) (congrArg String.toList h)
  · exact split (.inl rfl) (.inr rfl) (congrArg String.toList h)

theorem Point.decodeBytes {l : List Char} (h : Point l) (rest : List Char) :
    Percent.decodeBytes (l ++ rest) = 46 :: Percent.decodeBytes rest := by
  cases h <;> rfl

/-- Only the names of directories are taken for such. -/
theorem isSingleDot_segmentOf (h : isSingleDot (segmentOf special s) = true) : s = "." := by
  have bytes := (point_of_isSingleDot h).decodeBytes []
  rw [List.append_nil] at bytes
  have read := decode?_segmentOf special s
  rw [Percent.decode?, bytes, Percent.decodeBytes,
    show decode? [46] = some ['.'] by decide +kernel] at read
  exact (Option.some.inj read).symm

theorem isDoubleDot_segmentOf (h : isDoubleDot (segmentOf special s) = true) : s = ".." := by
  obtain ⟨l, m, hl, hm, split⟩ := points_of_isDoubleDot h
  have read := decode?_segmentOf special s
  rw [Percent.decode?, split, hl.decodeBytes, ← List.append_nil m, hm.decodeBytes,
    Percent.decodeBytes, show decode? [46, 46] = some ['.', '.'] by decide +kernel] at read
  exact (Option.some.inj read).symm

/-! ## Pieces -/

/-- A path, cut at its slashes. The first piece stands before the first slash. -/
def Path.pieces (p : Path) : List String := (p.render.toList.splitOn '/').map String.ofList

/-- Segments that stand between two slashes as they are. -/
def Whole (items : List String) : Prop := ∀ i ∈ items, '/' ∉ i.toList

variable {items added : List String}

theorem Whole.append (h : Whole items) (h' : Whole added) : Whole (items ++ added) :=
  List.forall_mem_append.mpr ⟨h, h'⟩

theorem Whole.singleton (h : '/' ∉ s.toList) : Whole [s] := by
  intro i mem
  rwa [List.mem_singleton.mp mem]

theorem splitOn_slashes (whole : Whole items) (before : List Char) (noSlash : '/' ∉ before) :
    (before ++ items.flatMap fun i => '/' :: i.toList).splitOn '/' =
      before :: items.map String.toList := by
  induction items generalizing before with
  | nil => rw [List.flatMap_nil, List.append_nil, List.splitOn_eq_singleton noSlash, List.map_nil]
  | cons i items ih =>
    rw [List.flatMap_cons, List.cons_append, List.splitOn_append_cons_self,
      List.splitOn_eq_singleton noSlash,
      ih (fun j mem => whole j (List.mem_cons_of_mem _ mem)) _ (whole i List.mem_cons_self)]
    rfl

/-- The pieces of a path are its segments. -/
theorem Path.pieces_segments (whole : Whole items) :
    (Path.segments items).pieces = "" :: items := by
  have text : (Path.segments items).render.toList = items.flatMap fun i => '/' :: i.toList := by
    simp only [Path.render, String.toList_join, List.flatMap_map, String.toList_append]
    rfl
  have cut := splitOn_slashes whole [] (by simp)
  rw [List.nil_append] at cut
  rw [pieces, text, cut, List.map_cons, List.map_map]
  congr 1
  exact List.map_id'' (fun _ => String.ofList_toList) items

/-! ## Adding a name -/

/-- A path without the empty segment at its end. Of a path of two empty segments nothing is left. -/
def stem (items : List String) : List String :=
  if items = ["", ""] then [] else if items.getLast? = some "" then items.dropLast else items

theorem stem_subset (items : List String) : stem items ⊆ items := by
  unfold stem
  split
  · exact List.nil_subset _
  · split
    · exact List.dropLast_subset _
    · exact fun _ => id

/-- What is added for a name that is not that of a directory. -/
def withoutDropped (s : String) : String := String.ofList (s.toList.filter fun c => !isDropped c)

theorem withoutDropped_eq_iff : withoutDropped s = s ↔ ∀ c ∈ s.toList, isDropped c = false := by
  rw [withoutDropped, ← String.toList_inj, String.toList_ofList, List.filter_eq_self]
  simp

/-- What becomes of a path to which a name is added. -/
inductive Added (special : Bool) (items : List String) (s : String) : List String → Prop
  | leftOut (directory : s = "." ∨ s = "..") : Added special items s items
  | followedOut (notDirectory : s ≠ "." ∧ s ≠ "..") (double : withoutDropped s = "..") :
      Added special items s (outer items ++ [""])
  | followed (notDirectory : s ≠ "." ∧ s ≠ "..") (single : withoutDropped s = ".") :
      Added special items s (items ++ [""])
  | named (notDirectory : s ≠ "." ∧ s ≠ "..")
      (other : withoutDropped s ≠ "." ∧ withoutDropped s ≠ "..") :
      Added special items s (items ++ [segmentOf special (withoutDropped s)])

theorem pushSegment_added (special : Bool) (some : items ≠ [""]) (s : String) :
    Added special items s (pushSegment special items s) := by
  have pushed : pushSegment special items s = if s == "." || s == ".." then items
      else addSegment items (segmentOf special (withoutDropped s)) true := by
    rw [pushSegment, if_neg some, segmentOf, withoutDropped, String.toList_ofList]
  rw [pushed]
  by_cases directory : s = "." ∨ s = ".."
  · rw [if_pos (by simpa using directory)]
    exact .leftOut directory
  rw [if_neg (by simpa using directory)]
  have notDirectory := not_or.mp directory
  by_cases double : withoutDropped s = ".."
  · have climbs : isDoubleDot (segmentOf special "..") = true := by
      cases special <;> decide +kernel
    rw [double, addSegment, if_pos climbs, if_pos rfl]
    exact .followedOut notDirectory double
  by_cases single : withoutDropped s = "."
  · have stays : isDoubleDot (segmentOf special ".") = false ∧
        isSingleDot (segmentOf special ".") = true := by
      cases special <;> decide +kernel
    rw [single, addSegment, if_neg (by simp [stays.1]), if_pos stays.2, if_pos rfl]
    exact .followed notDirectory single
  · rw [addSegment, if_neg (mt isDoubleDot_segmentOf double),
      if_neg (mt isSingleDot_segmentOf single)]
    exact .named notDirectory ⟨single, double⟩

/-- A literal name is not changed, so that it is not followed either. -/
theorem Literal.not_followed (h : Literal s) :
    withoutDropped s ≠ "." ∧ withoutDropped s ≠ ".." := by
  rw [withoutDropped_eq_iff.mpr h.kept]
  exact h.notDirectory

theorem pushSegment_literal (special : Bool) (some : items ≠ [""]) (h : Literal s) :
    pushSegment special items s = items ++ [segmentOf special s] := by
  have pushed := pushSegment_added special some s
  generalize pushSegment special items s = items' at pushed ⊢
  cases pushed with
  | leftOut directory => exact absurd directory (not_or.mpr h.notDirectory)
  | followedOut _ double => exact absurd double h.not_followed.2
  | followed _ single => exact absurd single h.not_followed.1
  | named => rw [withoutDropped_eq_iff.mpr h.kept]

theorem stem_eq (items : List String) :
    stem items = if dropEmptyLast items = [""] then [] else dropEmptyLast items := by
  unfold stem dropEmptyLast
  by_cases empty : items.getLast? = some ""
  · obtain ⟨front, rfl⟩ := List.getLast?_eq_some_iff.mp empty
    have two : front ++ [""] = ["", ""] ↔ front = [""] := by
      rw [show ["", ""] = [""] ++ [""] from rfl, List.append_left_inj]
    rw [empty, List.dropLast_concat, List.length_append, List.length_singleton]
    by_cases none : front = []
    · simp [none]
    · simp [two, List.length_pos_iff, none]
  · have alone : items ≠ [""] := by
      rintro rfl
      exact empty rfl
    have two : items ≠ ["", ""] := by
      rintro rfl
      exact empty rfl
    simp [empty, alone, two]

/-- The first name takes the place of an empty segment that is left alone. -/
theorem pushSegment_first (special : Bool) (items : List String) (h : Literal s) :
    pushSegment special (dropEmptyLast items) s = stem items ++ [segmentOf special s] := by
  rw [stem_eq]
  by_cases alone : dropEmptyLast items = [""]
  · have same : pushSegment special [""] s = pushSegment special [] s := by
      simp [pushSegment, h.notDirectory]
    rw [if_pos alone, alone, same]
    exact pushSegment_literal special (by simp) h
  · rw [if_neg alone]
    exact pushSegment_literal special alone h

/-! ## Adding names -/

/-- What a path is like to which a name was added behind some segments. -/
inductive Pushed (added : List String) (s : String) : List String → Prop
  /-- The name is found there if it is literal, and otherwise something else is. -/
  | behind {x : String} (noSlash : '/' ∉ x.toList)
      (read_iff : Percent.decode? x = some s ↔ Literal s) : Pushed added s (added ++ [x])
  /-- The path has not become longer. -/
  | instead {added' : List String} (notLiteral : ¬ Literal s) (whole : Whole added → Whole added')
      (length : added'.length = added.length) : Pushed added s added'

theorem Pushed.empty (added : List String)
    (followed : withoutDropped s = "." ∨ withoutDropped s = "..") :
    Pushed added s (added ++ [""]) := by
  have filled : s ≠ "" := by
    rintro rfl
    revert followed
    decide +kernel
  refine .behind (by simp) ⟨fun read => ?_, fun h => absurd followed (not_or.mpr h.not_followed)⟩
  rw [show Percent.decode? "" = some "" by decide +kernel] at read
  exact absurd (Option.some.inj read).symm filled

theorem pushSegment_pushed (special : Bool) (front : List String) (long : 1 < added.length)
    (s : String) :
    ∃ added', pushSegment special (front ++ added) s = front ++ added' ∧ Pushed added s added' := by
  have some : front ++ added ≠ [""] := fun same => by
    have length := congrArg List.length same
    rw [List.length_append, List.length_singleton] at length
    omega
  have pushed := pushSegment_added special some s
  generalize pushSegment special (front ++ added) s = items' at pushed ⊢
  cases pushed with
  | leftOut directory =>
    exact ⟨added, rfl, .instead (fun h => not_or.mpr h.notDirectory directory) id rfl⟩
  | followedOut _ double =>
    rw [outer]
    split
    · exact ⟨_, List.append_assoc .., .empty added (.inr double)⟩
    · have notEmpty : added ≠ [] := by
        rintro rfl
        cases long
      refine ⟨added.dropLast ++ [""], ?_, .instead (fun h => h.not_followed.2 double)
        (fun whole => .append (fun i mem => whole i (List.dropLast_subset _ mem))
          (.singleton (by simp))) ?_⟩
      · rw [List.dropLast_append_of_ne_nil notEmpty, List.append_assoc]
      · rw [List.length_append, List.length_dropLast, List.length_singleton]
        omega
  | followed _ single => exact ⟨_, List.append_assoc .., .empty added (.inl single)⟩
  | named notDirectory =>
    refine ⟨_, List.append_assoc .., .behind (slash_not_mem_segmentOf _ _) ?_⟩
    rw [decode?_segmentOf, Option.some_inj, withoutDropped_eq_iff]
    exact ⟨.mk notDirectory, Literal.kept⟩

/-- Behind some segments, names are added in order; they are read back in order if they are all
literal, and only then. -/
theorem foldl_pushSegment (special : Bool) (front : List String) (long : 1 < added.length)
    (whole : Whole added) (ns : List String) : ∃ added',
      ns.foldl (pushSegment special) (front ++ added) = front ++ added' ∧ Whole added' ∧
      added.length ≤ added'.length ∧ added'.length ≤ added.length + ns.length ∧
      (added'.map Percent.decode? = added.map Percent.decode? ++ ns.map some ↔
        ∀ n ∈ ns, Literal n) := by
  induction ns using List.reverseRecOn with
  | nil => exact ⟨added, rfl, whole, Nat.le_refl _, Nat.le_refl _, by simp⟩
  | append_singleton ns n ih =>
    obtain ⟨added₁, fold, whole₁, least, most, read_iff⟩ := ih
    have filled : 1 < added₁.length := by omega
    obtain ⟨added', push, pushed⟩ := pushSegment_pushed special front filled n
    refine ⟨added', by rw [List.foldl_append, fold]; exact push, ?_⟩
    rw [List.map_append, ← List.append_assoc, List.length_append, List.length_singleton,
      List.forall_mem_append, List.forall_mem_singleton, List.map_singleton]
    cases pushed with
    | @behind x noSlash read =>
      refine ⟨whole₁.append (.singleton noSlash), by simp; omega, by simp; omega, ?_⟩
      rw [List.map_append, List.map_singleton, ← List.concat_eq_append, ← List.concat_eq_append,
        List.concat_inj, read_iff, read]
    | instead notLiteral whole' length =>
      refine ⟨whole' whole₁, by omega, by omega, ⟨fun same => ?_, fun h => absurd h.2 notLiteral⟩⟩
      -- One name more would have made the path longer.
      have lengths := congrArg List.length same
      simp only [List.length_append, List.length_map, List.length_singleton] at lengths
      omega

variable {u : Url} {first second : String}

/-- Names that are added to the path of a URL are found there in order if they are all literal, and
only then. The first two are to be literal in any case. -/
theorem pushSegments?_pushed (path : u.path = .segments items) (filled : first ≠ "")
    (literal : Literal first ∧ Literal second) (ns : List String) : ∃ added,
      u.pushSegments? (first :: second :: ns) =
        some { u with path := .segments (stem items ++ added) } ∧
      Whole added ∧ (added.map Percent.decode? = (first :: second :: ns).map some ↔
        ∀ n ∈ ns, Literal n) := by
  let special := isSpecial u.scheme
  have empty : segmentOf special "" = "" := rfl
  have notEmpty : segmentOf special first ≠ "" := fun same =>
    filled (segmentOf_injective (same.trans empty.symm))
  have lone : stem items ++ [segmentOf special first] ≠ [""] := fun same =>
    notEmpty (List.mem_singleton.mp (same ▸ List.mem_concat_self))
  have whole : Whole [segmentOf special first, segmentOf special second] :=
    (Whole.singleton (slash_not_mem_segmentOf special first)).append
      (.singleton (slash_not_mem_segmentOf special second))
  obtain ⟨added, fold, whole', -, -, read_iff⟩ :=
    foldl_pushSegment special (stem items) (by simp) whole ns
  refine ⟨added, ?_, whole', ?_⟩
  · unfold pushSegments?
    rw [path]
    dsimp only
    rw [List.foldl_cons, List.foldl_cons, pushSegment_first _ _ literal.1,
      pushSegment_literal _ lone literal.2, List.append_assoc, List.singleton_append, fold]
  · rw [← read_iff]
    simp only [List.map_cons, List.map_nil, decode?_segmentOf, List.cons_append, List.nil_append]

end ClusterAccess.Url
