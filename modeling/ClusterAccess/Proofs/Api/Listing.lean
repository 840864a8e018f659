import ClusterAccess.Proofs.Api.Messages
import ClusterAccess.Proofs.Json.Written
import ClusterAccess.Proofs.Text.Utf8
import ClusterAccess.Proofs.Url.Queries

/-!
# Lists of accounts

The accounts of a project are listed page by page. A list ends with the first page that is not full,
or that the accounts found so far are enough for by its own count.

## Main definitions

* `AsksForPage`: the request for a page, by its number.
* `Client.page`, `Client.pages`: one page, and so many from the first one on.
* `Ends`: whether a list ends with the last of some pages.
* `Client.Listing`: how a list can go.
* `block`, `Client.Lists`: the pages of a list of users, and a server that has them.

## Main statements

* `Client.accountsFrom_iff`: a list goes in one of these ways.
* `Client.accounts_law`: the same for whole calls, and a server's list is given completely.
-/
namespace ClusterAccess.Api

open Http

variable {σ : Type}

/-! ## Pages -/

/-- How many users some pages have. -/
def countUsers (ps : List Page) : Nat := (ps.flatMap (·.results)).length

/-- The accounts of the users of some pages. -/
def accountsOf (project : String) (ps : List Page) : List Account :=
  ps.flatMap fun page => page.results.map (·.toAccount project)

theorem length_accountsOf (project : String) (ps : List Page) :
    (accountsOf project ps).length = countUsers ps := by
  rw [accountsOf, countUsers, ← List.map_flatMap, List.length_map]

/-- The last page is not full, or there are as many users as it counts. -/
def Ends (ps : List Page) : Prop :=
  ∃ before page, ps = before ++ [page] ∧
    (page.results.length < 100 ∨ ∃ total, page.total = some total ∧ total ≤ countUsers ps)

theorem not_ends_nil : ¬ Ends [] := by
  rintro ⟨before, page, h, -⟩
  simp at h

theorem ends_append_singleton {ps : List Page} {page : Page} : Ends (ps ++ [page]) ↔
    Client.isLast page (countUsers (ps ++ [page])) = true := by
  have last : Client.isLast page (countUsers (ps ++ [page])) = true ↔ page.results.length < 100 ∨
      ∃ total, page.total = some total ∧ total ≤ countUsers (ps ++ [page]) := by
    simp only [Client.isLast, Bool.or_eq_true, decide_eq_true_iff, Option.any_eq_true]
    rfl
  rw [last]
  constructor
  · rintro ⟨before, page', split, ends⟩
    obtain ⟨rfl, same⟩ := List.append_inj' split rfl
    obtain rfl := List.singleton_inj.mp same
    exact ends
  · exact fun ends => ⟨ps, page, rfl, ends⟩

/-- No part of the pages from the first one on is a list. -/
def Unended (ps : List Page) : Prop := ∀ n ≤ ps.length, ¬ Ends (ps.take n)

theorem unended_nil : Unended [] := by
  intro n _
  rw [List.take_nil]
  exact not_ends_nil

theorem unended_append_singleton {ps : List Page} {page : Page} :
    Unended (ps ++ [page]) ↔ Unended ps ∧ ¬ Ends (ps ++ [page]) := by
  constructor
  · intro unended
    have last := unended _ (Nat.le_refl _)
    rw [List.take_length] at last
    refine ⟨fun n le => ?_, last⟩
    rw [← List.take_append_of_le_length le]
    exact unended n (by rw [List.length_append]; exact Nat.le_add_right_of_le le)
  · rintro ⟨unended, last⟩ n le
    rcases Nat.lt_or_ge ps.length n with more | few
    · rwa [List.take_of_length_le (by rwa [List.length_append])]
    · rw [List.take_append_of_le_length few]
      exact unended n few

/-! ## Requests for pages -/

/-- A request for the page with a number, counted from one, of the list at `url`. -/
structure AsksForPage (url : Url) (number : Nat) (r : Request) : Prop where
  method : r.method = .get
  server : r.url.scheme = url.scheme ∧ r.url.host = url.host ∧ r.url.port = url.port
  path : r.url.path = url.path
  query : r.url.pairs = url.pairs ++
    [("pageNum", toString number), ("itemsPerPage", "100"), ("includeCount", "true")]

theorem pageQuery_toList (number : Nat) : (Client.pageQuery number).toList =
    ("pageNum".toList ++ '=' :: Nat.toDigits 10 number) ++
      '&' :: "itemsPerPage=100&includeCount=true".toList := by
  have before : "pageNum=".toList = "pageNum".toList ++ ['='] := by decide
  have digits : (toString number).toList = Nat.toDigits 10 number := String.toList_ofList
  have behind : "&itemsPerPage=".toList ++ (toString Client.pageSize).toList ++
      "&includeCount=true".toList = '&' :: "itemsPerPage=100&includeCount=true".toList := by
    decide +kernel
  calc (Client.pageQuery number).toList
      = "pageNum=".toList ++ (toString number).toList ++ ("&itemsPerPage=".toList ++
          (toString Client.pageSize).toList ++ "&includeCount=true".toList) := by
        simp only [Client.pageQuery, String.toList_append, List.append_assoc]
        rfl
    _ = _ := by
        rw [before, behind, digits]
        simp

theorem pairsOf_pageQuery (number : Nat) : Url.pairsOf (Client.pageQuery number).toList =
    [("pageNum", toString number), ("itemsPerPage", "100"), ("includeCount", "true")] := by
  have digits : '&' ∉ Nat.toDigits 10 number := fun mem =>
    absurd (List.all_eq_true.mp (Text.Numeral.all_isDigit_toDigits number) _ mem) (by decide)
  have others : Url.pairsOf "itemsPerPage=100&includeCount=true".toList =
      [("itemsPerPage", "100"), ("includeCount", "true")] := by decide +kernel
  rw [pageQuery_toList, Url.pairsOf_append, Url.pairsOf_piece (by simp) digits, others]
  rfl

/-- The request for a page asks for it by its number. -/
theorem Call.asksForPage {url : Url} {n : Nat} {r : Request} (h : Call.pageRequest url n = .ok r) :
    AsksForPage url (n + 1) r := by
  have numbered (u : Url) : (u.appendQuery (Client.pageQuery (n + 1))).pairs = u.pairs ++
      [("pageNum", toString (n + 1)), ("itemsPerPage", "100"), ("includeCount", "true")] := by
    rw [Url.pairs_appendQuery, pairsOf_pageQuery]
  unfold Call.pageRequest Request.start at h
  split at h
  · split at h <;> cases h <;> exact ⟨rfl, ⟨rfl, rfl, rfl⟩, rfl, numbered _⟩
  · cases h

/-! ## What a list is made of -/

namespace Client

variable (c : Client σ) (url : Url)

/-- A page of the list at `url`, counted from zero. -/
def page (n : Nat) : Action σ Page := c.send Page.reader (Call.pageRequest url n)

/-- The first so many pages, one after the other. -/
def pages : Nat → Action σ (List Page)
  | 0 => pure []
  | n + 1 => do
    let before ← pages n
    let page ← c.page url n
    return before ++ [page]

/-- How a list can go, if there can be so many pages at most. -/
inductive Listing (project : String) (limit : Nat) (s : Session σ) :
    Except Failure (List Account) → Session σ → Prop
  | complete {before : List Page} {last : Page} {s' : Session σ}
      (within : before.length < limit)
      (pages : c.pages url (before.length + 1) s = (.ok (before ++ [last]), s'))
      (unended : Unended before) (ends : Ends (before ++ [last])) :
      Listing project limit s (.ok (accountsOf project (before ++ [last]))) s'
  | failed {before : List Page} {f : Failure} {s₁ s' : Session σ} (within : before.length < limit)
      (pages : c.pages url before.length s = (.ok before, s₁)) (unended : Unended before)
      (page : c.page url before.length s₁ = (.error f, s')) :
      Listing project limit s (.error f) s'
  /-- The pages can be counted no further. -/
  | uncounted {ps : List Page} {s' : Session σ} (all : ps.length = limit)
      (pages : c.pages url ps.length s = (.ok ps, s')) (unended : Unended ps) :
      Listing project limit s (.error .overflow) s'

variable {c url} {project : String} {s s' : Session σ} {n m : Nat}

theorem pages_succ {ps : List Page} {s₁ : Session σ} (h : c.pages url n s = (.ok ps, s₁)) :
    c.pages url (n + 1) s = ((c.page url n s₁).1.map (ps ++ [·]), (c.page url n s₁).2) := by
  rw [pages, Action.bind_of_ok h, Action.map_apply]

theorem pages_succ_ok {qs : List Page} (h : c.pages url (n + 1) s = (.ok qs, s')) :
    ∃ ps last s₁, qs = ps ++ [last] ∧ c.pages url n s = (.ok ps, s₁) ∧
      c.page url n s₁ = (.ok last, s') := by
  rcases before : c.pages url n s with ⟨f | ps, s₁⟩
  · rw [pages, Action.bind_of_error before] at h
    cases h
  · rw [pages_succ before] at h
    rcases page : c.page url n s₁ with ⟨f | last, s₂⟩ <;> rw [page] at h <;> cases h
    exact ⟨ps, last, s₁, rfl, rfl, page⟩

theorem length_pages {ps : List Page} (h : c.pages url n s = (.ok ps, s')) : ps.length = n := by
  induction n generalizing ps s' with
  | zero => cases h; rfl
  | succ n ih =>
    obtain ⟨ps, last, s₁, rfl, before, -⟩ := pages_succ_ok h
    rw [List.length_append, ih before, List.length_singleton]

/-- One more page of a list. -/
theorem accountsFrom_page {ps : List Page} :
    c.accountsFrom project url (m + 1) (n + 1) (accountsOf project ps) =
      c.page url n >>= fun page =>
      if isLast page (countUsers (ps ++ [page])) then
        pure (accountsOf project (ps ++ [page]))
      else c.accountsFrom project url m (n + 2) (accountsOf project (ps ++ [page])) := by
  have more (page : Page) : accountsOf project ps ++ page.results.map (·.toAccount project) =
      accountsOf project (ps ++ [page]) := by
    simp [accountsOf]
  rw [accountsFrom_succ]
  refine congrArg (c.page url n >>= ·) (funext fun page => ?_)
  simp only [more, length_accountsOf]

/-- After pages that no list ends with, the next one is asked for. -/
theorem accountsFrom_unended {ps : List Page} {s₁ : Session σ}
    (h : c.pages url n s = (.ok ps, s₁)) (unended : Unended ps) :
    c.accountsFrom project url (n + m) 1 [] s =
      c.accountsFrom project url m (n + 1) (accountsOf project ps) s₁ := by
  induction n generalizing ps s₁ m with
  | zero =>
    cases h
    rw [Nat.zero_add]
    rfl
  | succ n ih =>
    obtain ⟨ps, last, s₂, rfl, before, page⟩ := pages_succ_ok h
    obtain ⟨unended, goesOn⟩ := unended_append_singleton.mp unended
    rw [Nat.add_assoc, Nat.add_comm 1 m, ih before unended, accountsFrom_page,
      Action.bind_of_ok page, if_neg (mt ends_append_singleton.mpr goesOn)]

/-- A list that has come to some page goes on in one of these ways. -/
theorem accountsFrom_listing {o : Except Failure (List Account)} {ps : List Page} {s₁ : Session σ}
    (pages : c.pages url n s = (.ok ps, s₁)) (unended : Unended ps)
    (h : c.accountsFrom project url m (n + 1) (accountsOf project ps) s₁ = (o, s')) :
    c.Listing url project (n + m) s o s' := by
  induction m generalizing n ps s₁ with
  | zero =>
    obtain rfl := length_pages pages
    cases h
    exact .uncounted rfl pages unended
  | succ m ih =>
    rw [accountsFrom_page] at h
    rcases page : c.page url n s₁ with ⟨f | last, s₂⟩
    · rw [Action.bind_of_error page] at h
      cases h
      obtain rfl := length_pages pages
      exact .failed (by omega) pages unended page
    · rw [Action.bind_of_ok page] at h
      have next : c.pages url (n + 1) s = (.ok (ps ++ [last]), s₂) := by
        rw [pages_succ pages, page]
        rfl
      split at h
      next ends =>
        cases h
        obtain rfl := length_pages pages
        exact .complete (by omega) next unended (ends_append_singleton.mpr ends)
      next goesOn =>
        rw [Nat.add_comm m 1, ← Nat.add_assoc]
        exact ih next (unended_append_singleton.mpr
          ⟨unended, mt ends_append_singleton.mp goesOn⟩) h

/-- A list goes in one of these ways. -/
theorem accountsFrom_iff {o : Except Failure (List Account)} {limit : Nat} :
    c.accountsFrom project url limit 1 [] s = (o, s') ↔ c.Listing url project limit s o s' := by
  constructor
  · intro h
    have listing := accountsFrom_listing (n := 0) (m := limit) rfl unended_nil h
    rwa [Nat.zero_add] at listing
  · rintro (⟨within, pages, unended, ends⟩ | ⟨within, pages, unended, page⟩ |
      ⟨rfl, pages, unended⟩)
    · obtain ⟨ps, last, s₁, split, before, page⟩ := pages_succ_ok pages
      obtain ⟨rfl, same⟩ := List.append_inj' split rfl
      obtain rfl := List.singleton_inj.mp same
      obtain ⟨m, rfl⟩ := Nat.exists_eq_add_of_lt within
      rw [Nat.add_assoc, accountsFrom_unended before unended, accountsFrom_page,
        Action.bind_of_ok page, if_pos (ends_append_singleton.mp ends)]
      rfl
    · obtain ⟨m, rfl⟩ := Nat.exists_eq_add_of_lt within
      rw [Nat.add_assoc, accountsFrom_unended pages unended, accountsFrom_page,
        Action.bind_of_error page]
    · exact accountsFrom_unended (m := 0) pages unended

end Client

/-! ## The list of a server -/

section

variable (users : List LegacyUser) (counted : Bool)

/-- The page of a list with a number, counted from zero. -/
def pageOf (n : Nat) : Page :=
  { results := (users.drop (100 * n)).take 100
    total := if counted then some users.length else none }

def pagesOf (n : Nat) : List Page := (List.range n).map (pageOf users counted)

/-- How many pages a list has that is never empty. One more is needed to see that nothing comes
after a full page, if that is not said. -/
def pagesNeeded : Nat :=
  max 1 ((users.length + 99) / 100) +
    if counted = false ∧ 0 < users.length ∧ users.length % 100 = 0 then 1 else 0

variable {users counted} {n : Nat}

theorem length_pagesOf : (pagesOf users counted n).length = n := by
  rw [pagesOf, List.length_map, List.length_range]

theorem pagesOf_succ :
    pagesOf users counted (n + 1) = pagesOf users counted n ++ [pageOf users counted n] := by
  rw [pagesOf, List.range_succ, List.map_append]
  rfl

theorem countUsers_pagesOf : countUsers (pagesOf users counted n) = min (100 * n) users.length := by
  induction n with
  | zero => simp [pagesOf, countUsers]
  | succ n ih =>
    have last : (pageOf users counted n).results.length = min 100 (users.length - 100 * n) := by
      simp [pageOf]
    rw [pagesOf_succ, countUsers, List.flatMap_append, List.length_append, ← countUsers, ih,
      List.flatMap_singleton, last]
    omega

theorem accountsOf_pagesOf (project : String) (counted : Bool) :
    accountsOf project (pagesOf users counted n) =
      (users.take (100 * n)).map (·.toAccount project) := by
  induction n with
  | zero => simp [pagesOf, accountsOf]
  | succ n ih =>
    rw [pagesOf_succ, accountsOf, List.flatMap_append, ← accountsOf, ih, Nat.mul_succ,
      List.take_add, List.map_append]
    simp [pageOf]

/-- The list ends where it should. -/
theorem ends_pagesOf :
    Ends (pagesOf users counted (n + 1)) ↔ pagesNeeded users counted ≤ n + 1 := by
  have last : (pageOf users counted n).results.length = min 100 (users.length - 100 * n) := by
    simp [pageOf]
  rw [pagesOf_succ, ends_append_singleton, ← pagesOf_succ, countUsers_pagesOf, Client.isLast, last,
    Bool.or_eq_true, decide_eq_true_iff, Client.pageSize, pagesNeeded]
  cases counted with
  | true =>
    simp only [pageOf, if_true, Option.any_some, decide_eq_true_iff]
    rw [if_neg (by simp)]
    omega
  | false =>
    simp only [pageOf, Option.any_none, Bool.false_eq_true, if_false, or_false, true_and]
    split <;> omega

theorem unended_pagesOf (h : n < pagesNeeded users counted) :
    Unended (pagesOf users counted n) := by
  induction n with
  | zero => exact unended_nil
  | succ n ih =>
    have goesOn : ¬ Ends (pagesOf users counted (n + 1)) := by
      rw [ends_pagesOf]
      omega
    rw [pagesOf_succ] at goesOn ⊢
    exact unended_append_singleton.mpr ⟨ih (by omega), goesOn⟩

end

namespace Client

/-- In all sessions of some kind, the pages that are needed of a list can be had. -/
def Lists (c : Client σ) (url : Url) (users : List LegacyUser) (counted : Bool)
    (holds : Session σ → Prop) : Prop :=
  ∀ n < pagesNeeded users counted, ∀ s, holds s → ∃ response s',
    c.receive (Call.pageRequest url n) s = (.ok response, s') ∧ isSuccess response.status = true ∧
      Json.read Page.reader response.text = .ok (pageOf users counted n) ∧ holds s'

section

variable {c : Client σ} {url : Url} {users : List LegacyUser} {counted : Bool}
  {holds : Session σ → Prop} {s : Session σ} {n : Nat}

theorem Lists.page (lists : c.Lists url users counted holds)
    (needed : n < pagesNeeded users counted) (h : holds s) :
    ∃ s', c.page url n s = (.ok (pageOf users counted n), s') ∧ holds s' := by
  obtain ⟨response, s', received, success, read, h'⟩ := lists n needed s h
  refine ⟨s', ?_, h'⟩
  rw [Client.page, send_received received, verdict, if_pos success, read, Session.after,
    if_neg (ne_unauthorized_of_success success)]
  rfl

theorem Lists.pages (lists : c.Lists url users counted holds)
    (needed : n ≤ pagesNeeded users counted) (h : holds s) :
    ∃ s', c.pages url n s = (.ok (pagesOf users counted n), s') ∧ holds s' := by
  induction n with
  | zero => exact ⟨s, rfl, h⟩
  | succ n ih =>
    obtain ⟨s₁, before, h₁⟩ := ih (by omega)
    obtain ⟨s', page, h'⟩ := lists.page (n := n) (by omega) h₁
    refine ⟨s', ?_, h'⟩
    rw [pages_succ before, page, pagesOf_succ]
    rfl

/-- A list is given completely, from the pages that are needed and no others. -/
theorem Lists.accountsFrom (lists : c.Lists url users counted holds) (h : holds s)
    (project : String) (limit : Nat) :
    ∃ s', holds s' ∧
      c.pages url (min (pagesNeeded users counted) limit) s =
        (.ok (pagesOf users counted (min (pagesNeeded users counted) limit)), s') ∧
      c.accountsFrom project url limit 1 [] s = (if pagesNeeded users counted ≤ limit
        then .ok (users.map (·.toAccount project)) else .error .overflow, s') := by
  obtain ⟨s', pages, h'⟩ := lists.pages (n := min (pagesNeeded users counted) limit)
    (Nat.min_le_left _ _) h
  refine ⟨s', h', pages, accountsFrom_iff.mpr ?_⟩
  have all : users.take (100 * pagesNeeded users counted) = users := by
    refine List.take_of_length_le ?_
    rw [pagesNeeded]
    omega
  rcases Nat.lt_or_ge limit (pagesNeeded users counted) with many | few
  · rw [if_neg (Nat.not_le_of_lt many)]
    rw [Nat.min_eq_right (Nat.le_of_lt many)] at pages
    exact .uncounted length_pagesOf (length_pagesOf.symm ▸ pages) (unended_pagesOf many)
  · rw [if_pos few]
    rw [Nat.min_eq_left few] at pages
    obtain ⟨n, needed⟩ : ∃ n, pagesNeeded users counted = n + 1 :=
      Nat.exists_eq_add_one.mpr (by rw [pagesNeeded]; omega)
    have ends := ends_pagesOf.mpr (Nat.le_of_eq needed)
    rw [needed] at pages few all
    rw [← all, ← accountsOf_pagesOf project counted, pagesOf_succ]
    rw [pagesOf_succ] at pages ends
    exact .complete (by rwa [length_pagesOf]) (by rwa [length_pagesOf])
      (unended_pagesOf (by omega)) ends

/-- A server that answers requests for pages with these has the list for every client that signs in
without a token from elsewhere. -/
theorem lists_of_answers (user : userOf? url = none) (named : Request.namesHost url = true)
    (usable : ∀ n < pagesNeeded users counted, isWeb (url.appendQuery (pageQuery (n + 1))) = true)
    (auth : (∃ token, c.auth = .bearer token ∧ isHeaderText (bearerAuthorization token.expose)) ∨
      ∃ username password, c.auth = .apiKey username password)
    (answers : ∀ n < pagesNeeded users counted, ∀ r w,
      r.method = .get → r.url = url.appendQuery (pageQuery (n + 1)) →
        ∃ response, (c.web.answer c.proxy r w).1 = .response response ∧
          isSuccess response.status = true ∧
          Json.read Page.reader response.text = .ok (pageOf users counted n)) :
    c.Lists url users counted fun _ => True := by
  intro n needed s _
  have request : Call.pageRequest url n = .ok ((Call.list "").plain url n) :=
    (Call.request_of_unsigned user (.list "") n).trans (if_pos named)
  have direct (r : Request) (method : r.method = .get)
      (place : r.url = url.appendQuery (pageQuery (n + 1))) :
      ∃ response s', c.fetch r s = (.ok response, s') ∧ isSuccess response.status = true ∧
        Json.read Page.reader response.text = .ok (pageOf users counted n) := by
    obtain ⟨response, answered, success, read⟩ := answers n needed r s.world method place
    rcases answer : c.web.answer c.proxy r s.world with ⟨reply, world⟩
    rw [answer] at answered
    cases answered
    refine ⟨response, _, fetch_direct (place ▸ usable n needed) answer ?_, success, read⟩
    intro response' same
    cases same
    exact redirected?_of_success success
  rcases auth with ⟨token, auth, text⟩ | ⟨username, password, auth⟩
  · obtain ⟨response, s', fetched, success, read⟩ := direct
      { (Call.list "").plain url n with
        accept := versionedJson
        authorization := [bearerAuthorization token.expose] } rfl rfl
    refine ⟨response, s', ?_, success, read, trivial⟩
    have borne : bearing token (.ok ((Call.list "").plain url n)) = .ok _ := if_pos text
    rw [receive_bearer auth, request, borne, Action.ofExcept_ok,
      Action.bind_of_ok (Action.pure_apply _ _)]
    exact fetched
  · obtain ⟨response, s', fetched, success, read⟩ := direct
      { (Call.list "").plain url n with accept := versionedJson } rfl rfl
    refine ⟨response, s', ?_, success, read, trivial⟩
    rw [receive_digest auth, request, Except.map, Action.ofExcept_ok,
      Action.bind_of_ok (Action.pure_apply _ _), fetchWithDigest, Action.bind_of_ok fetched,
      if_pos (ne_unauthorized_of_success success)]
    rfl

end

/-- The accounts of a project are those of its pages up to the first with which the list ends,
unless one of these fails. Pages of a hundred are asked for by their numbers, from one on. If there
is a list of users, all of them are given, in order, and no more pages are asked for than are
needed. -/
theorem accounts_law (c : Client σ) (project : String) :
    (∀ url n, Request.namesHost url = true →
      ∃ r, Call.pageRequest url n = .ok r ∧ AsksForPage url (n + 1) r) ∧
    (∀ s o s', c.accounts project s = (o, s') ↔
      match c.endpoint ["groups", project, "databaseUsers"] with
      | .error e => o = .error (.error e) ∧ s' = s
      | .ok url => c.Listing url project (UInt64.size - 1) s o s') ∧
    ∀ url users counted holds s, c.endpoint ["groups", project, "databaseUsers"] = .ok url →
      c.Lists url users counted holds → holds s → ∃ s', holds s' ∧
        c.pages url (min (pagesNeeded users counted) (UInt64.size - 1)) s = (.ok
          (pagesOf users counted (min (pagesNeeded users counted) (UInt64.size - 1))), s') ∧
        c.accounts project s = (if pagesNeeded users counted ≤ UInt64.size - 1
          then .ok (users.map (·.toAccount project)) else .error .overflow, s') := by
  refine ⟨fun url n named => ?_, fun s o s' => ?_,
    fun url users counted holds s place lists h => ?_⟩
  · obtain ⟨r, request⟩ : ∃ r, Call.pageRequest url n = .ok r := by
      rw [Call.pageRequest, Request.start, if_pos named]
      exact ⟨_, rfl⟩
    exact ⟨r, request, Call.asksForPage request⟩
  · cases place : c.endpoint ["groups", project, "databaseUsers"] with
    | error e =>
      rw [accounts_of_misplaced place]
      simp [eq_comm]
    | ok url =>
      rw [accounts_of_place place]
      exact accountsFrom_iff
  · rw [accounts_of_place place]
    exact lists.accountsFrom h project _

/-- What a server says of a hundred users, and of nobody. -/
def crowdPage (isFirst : Bool) : Json.Value :=
  .object [("results", .array (if isFirst then List.replicate 100
    (.object [("username", .text "u"), ("databaseName", .text "d")]) else []))]

/-- A client of a server with a hundred users that does not count them. -/
def crowded : Client Unit where
  web :=
    { answer := fun _ r w => (.response
        { status := 200
          body := Text.utf8Bytes (crowdPage (r.url.query == some (pageQuery 1))).pretty }, w)
      clock := fun w => (0, w)
      nonce := fun w => ("", w) }
  auth := .bearer ⟨"t"⟩
  base := { scheme := "https", host := some (.domain "host"), path := .segments [""] }
  tokenUrl := { scheme := "https", host := some (.domain "host"), path := .segments ["token"] }
  proxy := none

theorem text_utf8Bytes (status : Nat) (s : String) :
    Response.text { status, body := Text.utf8Bytes s } = s := by
  rw [Response.text, Text.utf8Bytes, Text.decodeLossy_utf8, String.ofList_toList]

theorem read_crowdPage (isFirst : Bool) : Json.read Page.reader (crowdPage isFirst).pretty = .ok
    { results := if isFirst then List.replicate 100 { username := "u", database := "d" }
      else [] } := by
  have countable : (crowdPage isFirst).Countable := by
    refine .object fun m mem => ?_
    obtain rfl := List.mem_singleton.mp mem
    refine .array fun v mem => ?_
    cases isFirst with
    | false => cases mem
    | true =>
      obtain rfl := List.eq_of_mem_replicate mem
      refine .object fun m mem => ?_
      simp only [List.mem_cons, List.not_mem_nil, or_false] at mem
      rcases mem with rfl | rfl <;> exact .text _
  rw [Json.read, Json.tokens_pretty countable]
  apply ok_of_toOption
  cases isFirst <;> decide +kernel

/-- Where the server has its users. -/
def crowdUrl : Url :=
  { crowded.base with path := .segments ["api", "atlas", "v2", "groups", "p", "databaseUsers"] }

theorem crowded_lists : crowded.Lists crowdUrl
    (List.replicate 100 { username := "u", database := "d" }) false fun _ => True := by
  have needed :
      pagesNeeded (List.replicate 100 { username := "u", database := "d" }) false = 2 := by
    decide +kernel
  refine lists_of_answers (by decide +kernel) (by decide +kernel) ?_
    (.inl ⟨_, rfl, by decide +kernel⟩) ?_
  · rw [needed]
    decide +kernel
  · rw [needed]
    intro n small r w _ place
    refine ⟨_, rfl, rfl, ?_⟩
    rw [text_utf8Bytes, read_crowdPage, place]
    obtain rfl | rfl : n = 0 ∨ n = 1 := by omega
    all_goals rfl

/-- One page would do, but that the server does not say so. -/
theorem accounts_law_crowded : ∃ r s',
    Call.pageRequest crowdUrl 1 = .ok r ∧ AsksForPage crowdUrl 2 r ∧
    crowded.pages crowdUrl 2 { world := () } =
      (.ok (pagesOf (List.replicate 100 { username := "u", database := "d" }) false 2), s') ∧
    crowded.accounts "p" { world := () } =
      (.ok (List.replicate 100
        { username := "u", project := "p", database := "d", roles := [], auth := .password }),
        s') := by
  have place : crowded.endpoint ["groups", "p", "databaseUsers"] = .ok crowdUrl := by
    have pushed :
        crowded.base.pushSegments? ["api", "atlas", "v2", "groups", "p", "databaseUsers"] =
          some crowdUrl := by decide +kernel
    rw [endpoint, join, List.cons_append, List.cons_append, List.singleton_append, pushed]
  obtain ⟨asked, -, listed⟩ := accounts_law crowded "p"
  obtain ⟨r, request, second⟩ := asked crowdUrl 1 (by decide +kernel)
  obtain ⟨s', -, pages, accounts⟩ := listed _ _ _ _ { world := () } place crowded_lists trivial
  rw [show pagesNeeded _ _ = 2 by decide +kernel] at pages accounts
  exact ⟨r, s', request, second, pages, accounts⟩

end Client
end ClusterAccess.Api
