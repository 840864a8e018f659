import ClusterAccess.Proofs.Probe.Seeds
import ClusterAccess.Proofs.Text.Pieces
import Mathlib.Data.List.Forall2

/-!
# Lists of hosts

The hosts of a target as a grammar: items between commas, with blanks around each, up to the first
slash or question mark. Where there is nothing but blanks between two commas, nothing is listed.
Seeds that are written into such a list are read from it again, those with colons too, which have
brackets around them.

## Main definitions

* `Target.Lists`: the items between commas.
* `Target.HostsText`: the texts that list items.
* `Target.Cut`: a text, cut where the hosts end.
* `Seed.Listable`: the seeds that can stand in a list.
* `Seed.WrittenAs`: the texts that list seeds.

## Main statements

* `Target.seeds_eq_iff`: exactly the items that a text lists are read from it.
* `Seed.Listable.named`: a seed is named by what it is written as.
* `TcpProbe.hosts_round_trip`: from seeds to a list of hosts and back.
-/
namespace ClusterAccess

open Text

namespace Target

variable {hosts part rest : List Char} {pieces : List (List Char)} {item : String}
  {items : List String} {t : Target}

/-! ## The grammar -/

/-- What may follow the hosts: nothing, or what a slash or a question mark begins. -/
inductive AfterHosts : List Char → Prop
  | nothing : AfterHosts []
  | path (more : List Char) : AfterHosts ('/' :: more)
  | options (more : List Char) : AfterHosts ('?' :: more)

/-- The items between commas, in order. -/
inductive Lists : List (List Char) → List String → Prop
  | nil : Lists [] []
  | item {item : String} {piece : List Char} {pieces : List (List Char)} {items : List String}
      (filled : item ≠ "") (trimmed : Trimmed item.toList) (spaced : Spaced item.toList piece)
      (others : Lists pieces items) : Lists (piece :: pieces) (item :: items)
  | blank {piece : List Char} {pieces : List (List Char)} {items : List String}
      (blank : Blank piece) (others : Lists pieces items) : Lists (piece :: pieces) items

/-- The texts that list items. -/
inductive HostsText : List Char → List String → Prop
  | of {pieces : List (List Char)} {items : List String} {rest : List Char}
      (plain : ∀ piece ∈ pieces, ∀ c ∈ piece, c ∉ [',', '/', '?']) (lists : Lists pieces items)
      (after : AfterHosts rest) : HostsText ([','].intercalate pieces ++ rest) items

/-! ## Where the hosts end -/

/-- A text, cut at the first slash or question mark. -/
structure Cut (hosts part rest : List Char) : Prop where
  whole : hosts = part ++ rest
  within : ∀ c ∈ part, c ∉ ['/', '?']
  after : AfterHosts rest

theorem Cut.seedPart_eq (h : Cut hosts part rest) : seedPart hosts = part := by
  obtain ⟨rfl, within, after⟩ := h
  have all : ∀ c ∈ part, (c != '/' && c != '?') = true := by simpa using within
  rw [seedPart, List.takeWhile_append_of_pos all]
  cases after <;> simp

theorem exists_cut (hosts : List Char) : ∃ rest, Cut hosts (seedPart hosts) rest := by
  refine ⟨hosts.dropWhile fun c => c != '/' && c != '?', List.takeWhile_append_dropWhile.symm,
    fun c mem => by simpa using List.mem_takeWhile_imp mem, ?_⟩
  have first := List.head?_dropWhile_not (fun c => c != '/' && c != '?') hosts
  cases rest : hosts.dropWhile fun c => c != '/' && c != '?' with
  | nil => exact .nothing
  | cons c more =>
    rw [rest, List.head?_cons] at first
    obtain rfl | rfl : c = '/' ∨ c = '?' := by
      simpa [← or_iff_not_imp_left] using first
    · exact .path more
    · exact .options more

/-! ## What is listed -/

/-- What is left of the pieces without blanks is what they list, but for those of which nothing is
left. -/
theorem lists_iff :
    ((pieces.map trim).filter (!·.isEmpty)).map String.ofList = items ↔ Lists pieces items := by
  constructor
  · rintro rfl
    induction pieces with
    | nil => exact .nil
    | cons piece pieces ih =>
      obtain ⟨trimmed, spaced⟩ := trim_eq_iff.mp (rfl : trim piece = _)
      rw [List.map_cons]
      by_cases nothing : trim piece = []
      · rw [nothing] at spaced ⊢
        exact .blank spaced.blank ih
      · rw [List.filter_cons_of_pos (by simpa using nothing), List.map_cons]
        refine .item (by simpa using nothing) ?_ ?_ ih
        · rwa [String.toList_ofList]
        · rwa [String.toList_ofList]
  · intro lists
    induction lists with
    | nil => rfl
    | @item item piece pieces items filled trimmed spaced others ih =>
      have kept : trim piece = item.toList := trim_eq_iff.mpr ⟨trimmed, spaced⟩
      rw [List.map_cons, kept, List.filter_cons_of_pos (by simpa using filled), List.map_cons, ih,
        String.ofList_toList]
    | @blank piece pieces items blank others ih =>
      have gone : trim piece = [] := trim_eq_iff.mpr ⟨.of_forall (by simp), .of_blank blank⟩
      rw [List.map_cons, gone, List.filter_cons_of_neg (by simp), ih]

theorem Lists.of_mem (h : Lists pieces items) (mem : item ∈ items) :
    item ≠ "" ∧ Trimmed item.toList ∧ ∃ piece ∈ pieces, Spaced item.toList piece := by
  induction h with
  | nil => cases mem
  | @item first piece pieces items filled trimmed spaced others ih =>
    rcases List.mem_cons.mp mem with rfl | mem
    · exact ⟨filled, trimmed, piece, List.mem_cons_self, spaced⟩
    · obtain ⟨filled, trimmed, piece, inside, spaced⟩ := ih mem
      exact ⟨filled, trimmed, piece, List.mem_cons_of_mem _ inside, spaced⟩
  | blank blank others ih =>
    obtain ⟨filled, trimmed, piece, inside, spaced⟩ := ih mem
    exact ⟨filled, trimmed, piece, List.mem_cons_of_mem _ inside, spaced⟩

theorem intercalate_within (plain : ∀ piece ∈ pieces, ∀ c ∈ piece, c ∉ [',', '/', '?']) :
    ∀ c ∈ [','].intercalate pieces, c ∉ ['/', '?'] := by
  intro c mem
  rcases mem_intercalate_iff.mp mem with ⟨piece, inside, mem⟩ | ⟨rfl, -⟩
  · exact fun delimiter => plain piece inside c mem (List.mem_cons_of_mem _ delimiter)
  · decide

/-- No item that is listed has a delimiter in it. -/
theorem HostsText.of_mem {hosts : List Char} (h : HostsText hosts items) (mem : item ∈ items) :
    item ≠ "" ∧ Trimmed item.toList ∧ ∀ c ∈ item.toList, c ∉ [',', '/', '?'] := by
  obtain ⟨plain, lists, after⟩ := h
  obtain ⟨filled, trimmed, piece, inside, spaced⟩ := lists.of_mem mem
  exact ⟨filled, trimmed, fun c mem => plain piece inside c (spaced.mem mem)⟩

theorem Cut.seeds_eq (h : Cut t.hosts.toList part rest) :
    t.seeds = (((part.splitOn ',').map trim).filter (!·.isEmpty)).map String.ofList := by
  rw [seeds, h.seedPart_eq]

/-- Exactly the items that a text lists are read from it. -/
theorem seeds_eq_iff : t.seeds = items ↔ HostsText t.hosts.toList items := by
  constructor
  · intro read
    obtain ⟨rest, cut⟩ := exists_cut t.hosts.toList
    rw [cut.seeds_eq, lists_iff] at read
    generalize seedPart t.hosts.toList = part at cut read
    have joined : [','].intercalate (part.splitOn ',') = part := List.intercalate_splitOn ','
    have plain : ∀ piece ∈ part.splitOn ',', ∀ c ∈ piece, c ∉ [',', '/', '?'] := by
      intro piece inside c mem
      have inPart : c ∈ part := joined ▸ mem_intercalate_iff.mpr (.inl ⟨piece, inside, mem⟩)
      rw [List.mem_cons, not_or]
      exact ⟨fun comma => not_mem_of_mem_splitOn inside (comma ▸ mem), cut.within c inPart⟩
    rw [cut.whole, ← joined]
    exact .of plain read cut.after
  · generalize text : t.hosts.toList = hosts
    rintro @⟨pieces, items, rest, plain, lists, after⟩
    have cut : Cut t.hosts.toList ([','].intercalate pieces) rest :=
      ⟨text, intercalate_within plain, after⟩
    rw [cut.seeds_eq, lists_iff]
    -- An empty text is cut into one piece, so no pieces and an empty one are written alike.
    by_cases nothing : pieces = []
    · subst nothing
      cases lists
      exact .blank (by simp [Blank]) .nil
    · have noComma : ∀ piece ∈ pieces, ',' ∉ piece := fun piece inside comma =>
        plain piece inside ',' comma List.mem_cons_self
      rwa [List.splitOn_intercalate ',' noComma nothing]

end Target

/-! ## Seeds in a list -/

namespace Probe.Seed

variable {seed : Seed} {seeds : List Seed} {c : Char} {piece : List Char}
  {pieces : List (List Char)} {hosts : String}

/-- The seeds that can stand in a list. -/
structure Listable (s : Seed) : Prop where
  filled : s.host ≠ ""
  plain : ∀ c ∈ s.host.toList, c ∉ ['[', ']', ',', '/', '?'] ∧ isBlank c = false
  port_le : s.port ≤ 65535

/-- The texts that list seeds, each as it is written and with blanks around it. -/
inductive WrittenAs (seeds : List Seed) : String → Prop
  | of {pieces : List String} {rest : String}
      (spaced :
        List.Forall₂ (fun seed piece => Spaced seed.render.toList piece.toList) seeds pieces)
      (after : Target.AfterHosts rest.toList) : WrittenAs seeds (",".intercalate pieces ++ rest)

theorem toList_render_of_colon (colon : ':' ∈ seed.host.toList) : seed.render.toList =
    '[' :: (seed.host.toList ++ ']' :: ':' :: Nat.toDigits 10 seed.port) := by
  simp [render, colon, toString, Nat.toList_repr]

theorem toList_render_of_noColon (noColon : ':' ∉ seed.host.toList) : seed.render.toList =
    seed.host.toList ++ ':' :: Nat.toDigits 10 seed.port := by
  simp [render, noColon, toString, Nat.toList_repr]

theorem Listable.portText (h : Listable seed) :
    PortText (':' :: Nat.toDigits 10 seed.port) seed.port :=
  .given (Text.Numeral.bounded?_toDigits h.port_le)

/-- A seed is named by what it is written as. -/
theorem Listable.named (h : Listable seed) : Named seed.render.toList seed := by
  have nonempty : seed.host.toList ≠ [] := by simpa using h.filled
  have noBrackets : ∀ bracket ∈ ['[', ']'], bracket ∉ seed.host.toList :=
    fun bracket isBracket mem =>
      (h.plain bracket mem).1 (List.mem_append_left [',', '/', '?'] isBracket)
  by_cases colon : ':' ∈ seed.host.toList
  · rw [toList_render_of_colon colon]
    have named := Named.bracketed nonempty (noBrackets ']' (by decide)) h.portText
    rwa [String.ofList_toList] at named
  · rw [toList_render_of_noColon colon]
    have noOpen : seed.host.toList.head? ≠ some '[' := fun first =>
      noBrackets '[' (by decide) (List.mem_of_mem_head? first)
    have named := Named.plain nonempty noOpen (fun _ => colon) h.portText
    rwa [String.ofList_toList] at named

/-- A seed is written with its host, the digits of its port and punctuation. -/
theorem mem_render (mem : c ∈ seed.render.toList) :
    c ∈ seed.host.toList ∨ c ∈ Nat.toDigits 10 seed.port ∨ c ∈ ['[', ']', ':'] := by
  by_cases colon : ':' ∈ seed.host.toList
  · rw [toList_render_of_colon colon] at mem
    simp only [List.mem_cons, List.mem_append] at mem ⊢
    tauto
  · rw [toList_render_of_noColon colon] at mem
    simp only [List.mem_cons, List.mem_append] at mem ⊢
    tauto

/-- Nothing in what a seed is written as could end it early. -/
theorem Listable.plain_of_mem (h : Listable seed) (mem : c ∈ seed.render.toList) :
    c ∉ [',', '/', '?'] ∧ isBlank c = false := by
  rcases mem_render mem with ofHost | ofPort | mark
  · obtain ⟨plain, noBlank⟩ := h.plain c ofHost
    exact ⟨fun delimiter => plain (List.mem_append_right ['[', ']'] delimiter), noBlank⟩
  · have digits : ∀ d < 10, Nat.digitChar d ∉ [',', '/', '?'] ∧
        isBlank (Nat.digitChar d) = false := by decide
    have digit := List.all_eq_true.mp (Text.Numeral.all_isDigit_toDigits seed.port) c ofPort
    obtain ⟨d, small, rfl⟩ := Text.Numeral.exists_digitChar digit
    exact digits d small
  · have marks : ∀ mark ∈ ['[', ']', ':'], mark ∉ [',', '/', '?'] ∧ isBlank mark = false := by
      rw [List.forall_mem_cons, List.forall_mem_cons, List.forall_mem_singleton]
      decide
    exact marks c mark

theorem lists_render (listable : ∀ seed ∈ seeds, seed.Listable)
    (spaced : List.Forall₂ (fun seed piece => Spaced seed.render.toList piece) seeds pieces) :
    Target.Lists pieces (seeds.map render) := by
  induction spaced with
  | nil => exact .nil
  | @cons seed piece seeds pieces spaced others ih =>
    have first := listable seed List.mem_cons_self
    have trimmed : Trimmed seed.render.toList := .of_forall fun c mem => (first.plain_of_mem mem).2
    have filled : seed.render ≠ "" := by
      intro empty
      have read := parse?_of_named first.named
      rw [empty] at read
      cases read
    exact .item filled trimmed spaced
      (ih fun seed mem => listable seed (List.mem_cons_of_mem _ mem))

/-- The blanks around a seed are no delimiters either. -/
theorem Listable.plain_of_spaced (h : Listable seed) (spaced : Spaced seed.render.toList piece)
    (mem : c ∈ piece) : c ∉ [',', '/', '?'] := by
  rcases spaced.of_mem mem with blank | mem
  · have noBlank : ∀ delimiter ∈ [',', '/', '?'], isBlank delimiter = false := by
      rw [List.forall_mem_cons, List.forall_mem_cons, List.forall_mem_singleton]
      decide
    intro delimiter
    rw [noBlank c delimiter] at blank
    cases blank
  · exact (h.plain_of_mem mem).1

theorem plain_of_listable (listable : ∀ seed ∈ seeds, seed.Listable)
    (spaced : List.Forall₂ (fun seed piece => Spaced seed.render.toList piece) seeds pieces) :
    ∀ piece ∈ pieces, ∀ c ∈ piece, c ∉ [',', '/', '?'] := by
  induction spaced with
  | nil => simp
  | @cons seed piece seeds pieces spaced others ih =>
    rw [List.forall_mem_cons]
    exact ⟨fun c => (listable seed List.mem_cons_self).plain_of_spaced spaced,
      ih fun seed mem => listable seed (List.mem_cons_of_mem _ mem)⟩

/-- Seeds are listed by the texts that they are written as. -/
theorem WrittenAs.hostsText (written : WrittenAs seeds hosts)
    (listable : ∀ seed ∈ seeds, seed.Listable) :
    Target.HostsText hosts.toList (seeds.map render) := by
  obtain @⟨pieces, rest, spaced, after⟩ := written
  have spaced := List.forall₂_map_right_iff.mpr spaced
  rw [String.toList_append, String.toList_intercalate]
  exact .of (plain_of_listable listable spaced) (lists_render listable spaced) after

end Probe.Seed

namespace Probe.TcpProbe

/-- Seeds that are written into a list are what is read from it, in order, and each is read as it
was, so that a probe keeps just these. Whatever a list looks like, its items have no delimiter and
no blank at either end, and they are those of what precedes the first slash or question mark,
whatever follows. -/
theorem hosts_round_trip (t : Target) :
    (∀ seeds, (∀ seed ∈ seeds, Seed.Listable seed) → Seed.WrittenAs seeds t.hosts →
      t.seeds = seeds.map Seed.render ∧ (∀ seed ∈ seeds, Seed.parse? seed.render = some seed) ∧
        (t.scheme ≠ .srv → seeds ≠ [] → seedsOf t = .ok seeds)) ∧
    (∀ item ∈ t.seeds, item ≠ "" ∧ Trimmed item.toList ∧ ∀ c ∈ item.toList, c ∉ [',', '/', '?']) ∧
    (∃ part rest, Target.Cut t.hosts.toList part rest) ∧
    ∀ (t' : Target) part rest rest', Target.Cut t.hosts.toList part rest →
      Target.Cut t'.hosts.toList part rest' → t'.seeds = t.seeds := by
  refine ⟨fun seeds listable written => ?_, fun item => (Target.seeds_eq_iff.mp rfl).of_mem,
    ⟨_, Target.exists_cut t.hosts.toList⟩, fun t' part rest rest' cut cut' => ?_⟩
  · have listed := Target.seeds_eq_iff.mpr (written.hostsText listable)
    have read (seed : Seed) (mem : seed ∈ seeds) : Seed.parse? seed.render = some seed :=
      Seed.parse?_of_named (listable seed mem).named
    exact ⟨listed, read, fun plain nonempty => seedsOf_render plain nonempty listed read⟩
  · rw [cut'.seeds_eq, cut.seeds_eq]

/-- A seed with colons, blanks around it, and options with delimiters of their own. -/
theorem hosts_round_trip_colons :
    let t := listing "\t[fd00::1]:27018 ,db:65535/?ssl=true"
    let seeds : List Seed := [⟨"fd00::1", 27018⟩, ⟨"db", 65535⟩]
    t.seeds = ["[fd00::1]:27018", "db:65535"] ∧ seedsOf t = .ok seeds ∧
      (listing "\t[fd00::1]:27018 ,db:65535?a/b,c").seeds = t.seeds := by
  intro t seeds
  obtain ⟨round, -, -, same⟩ := hosts_round_trip t
  have listable : ∀ seed ∈ seeds, seed.Listable := by
    rw [List.forall_mem_cons, List.forall_mem_singleton]
    exact ⟨⟨by decide, by simp [isBlank], by decide⟩, ⟨by decide, by simp [isBlank], by decide⟩⟩
  have written : Seed.WrittenAs seeds t.hosts := by
    refine @Seed.WrittenAs.of seeds ["\t[fd00::1]:27018 ", "db:65535"] "/?ssl=true" ?_ (.path _)
    exact .cons (trim_eq_iff.mp (by decide +kernel)).2
      (.cons (trim_eq_iff.mp (by decide +kernel)).2 .nil)
  obtain ⟨listed, -, kept⟩ := round seeds listable written
  have unchanged := same (listing "\t[fd00::1]:27018 ,db:65535?a/b,c")
    "\t[fd00::1]:27018 ,db:65535".toList "/?ssl=true".toList "?a/b,c".toList
    ⟨by decide, by simp, .path _⟩ ⟨by decide, by simp, .options _⟩
  exact ⟨listed, kept (by decide) (by decide), unchanged⟩

end Probe.TcpProbe
end ClusterAccess
