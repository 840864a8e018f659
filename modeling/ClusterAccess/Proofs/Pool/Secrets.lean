import ClusterAccess.Proofs.Pool.Likeness

/-!
# Where secrets show

The passwords of accounts go into the requests for accounts and into the URIs for the driver, and
the password for the proxy goes into the dialer. Nothing else that can be seen of a pool depends on
them.

## Main definitions

* `Hidden`: the two kinds of passwords.
* `Receipt.seen`: a receipt with the passwords of a kind blotted out where they belong.
* `Receipt.texts`: all that is told of a receipt in words.
* `Hidden.Apart`: pools that differ in passwords of a kind.

## Main statements

* `Receipt.texts_seen`: texts show no passwords.
* `PoolConfig.secrets_hidden`: pools that differ in passwords of a kind cannot be told apart.
-/
namespace ClusterAccess

variable {σ σ' C C' V α β : Type}

/-- A kind of passwords. -/
inductive Hidden where
  | account
  | proxy

/-! ## What is seen -/

/-- What stands for a password that is blotted out. -/
def Secret.blot : Secret := .ofString ""

namespace Hidden

def request : Hidden → AccountRequest → AccountRequest
  | account, q => { q with password := .blot }
  | proxy, q => q

def credential : Hidden → Credential → Credential
  | account, c => { c with password := .blot }
  | proxy, c => c

def target : Hidden → Target → Target
  | account, t => { t with uri := .blot }
  | proxy, t => t

def dialer : Hidden → ProxyDialer → ProxyDialer
  | account, d => d
  | proxy, d => { d with credentials := d.credentials.map fun (user, _) => (user, .blot) }

variable (hidden : Hidden) (view : C → V)

/-- A call, with the connection that it is about in some view. -/
def call : Call C → Call V
  | .password policy => .password policy
  | .createAccount project q => .createAccount project (hidden.request q)
  | .clusterInfo project cluster => .clusterInfo project cluster
  | .connect t d o => .connect (hidden.target t) (d.map hidden.dialer) o
  | .ping c => .ping (view c)
  | .disconnect c => .disconnect (view c)

/-- What a call gives back. -/
def outcome : Outcome (Credential × C) → Outcome (Credential × V) :=
  Outcome.map fun (credential, c) => (hidden.credential credential, view c)

def answer : Answer C → Answer V
  | .connected os => .connected (os.map (hidden.outcome view))
  | .closed o => .closed o
  | .slept => .slept

end Hidden

/-- A receipt without the passwords of a kind. -/
def Receipt.seen (hidden : Hidden) (view : C → V) (x : Receipt C) : Receipt V where
  answer := hidden.answer view x.answer
  elapsed := x.elapsed
  size := x.size
  calls := x.calls.map fun (time, call) => (time, hidden.call view call)

/-! ## What is told -/

/-- The descriptions of what is handed over with a call. -/
def Call.texts : Call C → List String
  | createAccount _ q => [q.describe]
  | connect t d _ =>
    t.redacted :: t.describe :: t.seeds ++
      d.toList.flatMap fun d => [d.describe, describeCancellable d.describe]
  | _ => []

/-- The description of a credential, or the text of a failure. -/
def Outcome.texts : Outcome (Credential × C) → List String
  | ok (credential, _) => [credential.describe]
  | failed e => [e.message]
  | _ => []

def Answer.texts : Answer C → List String
  | connected os => os.flatMap (·.texts)
  | closed (.failed e) => [e.message]
  | _ => []

def Receipt.texts (x : Receipt C) : List String := x.answer.texts ++ x.calls.flatMap (·.2.texts)

namespace Hidden

variable (hidden : Hidden) (view : C → V)

theorem describe_request (q : AccountRequest) : (hidden.request q).describe = q.describe := by
  cases hidden <;> rfl

theorem describe_credential (c : Credential) : (hidden.credential c).describe = c.describe := by
  cases hidden <;> rfl

theorem describe_dialer (d : ProxyDialer) : (hidden.dialer d).describe = d.describe := by
  cases hidden with
  | account => rfl
  | proxy => simp [ProxyDialer.describe, dialer]

theorem texts_call (call : Call C) : (hidden.call view call).texts = call.texts := by
  cases call with
  | createAccount _ q => exact congrArg ([·]) (hidden.describe_request q)
  | connect t d o =>
    have redacted : (hidden.target t).redacted = t.redacted := by cases hidden <;> rfl
    have seeds : (hidden.target t).seeds = t.seeds := by cases hidden <;> rfl
    simp only [Hidden.call, Call.texts, Target.describe, redacted, seeds]
    cases d with
    | none => rfl
    | some d => simp [describe_dialer]
  | _ => rfl

theorem texts_answer (answer : Answer C) : (hidden.answer view answer).texts = answer.texts := by
  cases answer with
  | closed o => cases o <;> rfl
  | slept => rfl
  | connected os =>
    simp only [Hidden.answer, Answer.texts, List.flatMap_map]
    congr 1
    funext o
    cases o with
    | ok result => exact congrArg ([·]) (hidden.describe_credential result.1)
    | _ => rfl

end Hidden

/-- Texts show no passwords. -/
theorem Receipt.texts_seen (hidden : Hidden) (view : C → V) (x : Receipt C) :
    (x.seen hidden view).texts = x.texts := by
  simp only [texts, seen, hidden.texts_answer, List.flatMap_map, hidden.texts_call]

/-! ## Pools that differ in passwords -/

namespace Hidden

/-- Settings that differ in the password for the proxy, if that is to be hidden. -/
inductive Settings : Hidden → ClusterAccess.Settings → ClusterAccess.Settings → Prop
  | account (s : ClusterAccess.Settings) : Settings .account s s
  | proxy (s : ClusterAccess.Settings) {a b : Secret} (filled : a.isEmpty = false)
      (filled' : b.isEmpty = false) :
      Settings .proxy { s with proxy := { s.proxy with password := some a } }
        { s with proxy := { s.proxy with password := some b } }

/-- What may differ together with passwords of a kind: the worlds, into which they find their way,
and connections, which may carry them along. -/
def likeness (hidden : Hidden) (worlds : σ → σ' → Prop) (connections : C → C' → Prop) :
    Likeness σ C σ' C' where
  secret a b := match hidden with
    | account => True
    | proxy => a = b
  world := worlds
  connection := connections
  way x y := x.1.map hidden.dialer = y.1.map hidden.dialer ∧ x.2 = y.2

/-- Pools that differ in passwords of a kind, over services that do not look at these. -/
structure Apart (hidden : Hidden) (worlds : σ → σ' → Prop) (connections : C → C' → Prop)
    (p : PoolConfig σ C) (p' : PoolConfig σ' C') : Prop where
  services : p.services.Alike (hidden.likeness worlds connections) p'.services
  settings : hidden.Settings p.settings p'.settings
  delay : p.delay = p'.delay

variable {hidden : Hidden} {worlds : σ → σ' → Prop} {connections : C → C' → Prop}

theorem request_eq {q q' : AccountRequest}
    (h : q.Alike (hidden.likeness worlds connections).secret q') :
    hidden.request q = hidden.request q' := by
  cases hidden with
  | account =>
    rw [h.rest]
    rfl
  | proxy => exact AccountRequest.Alike.eq id h

theorem credential_eq {c c' : Credential}
    (h : c.Alike (hidden.likeness worlds connections).secret c') :
    hidden.credential c = hidden.credential c' := by
  cases hidden with
  | account =>
    rw [h.rest]
    rfl
  | proxy => exact Credential.Alike.eq id h

theorem target_eq {t t' : Target} (h : t.Alike (hidden.likeness worlds connections).secret t') :
    hidden.target t = hidden.target t' := by
  cases hidden with
  | account =>
    cases h with
    | assemble e h =>
      rw [h.rest]
      rfl
  | proxy => exact Target.Alike.eq id h

variable {view : C → V} {view' : C' → V}

theorem call_eq (views : ∀ c c', connections c c' → view c = view' c') {call : Call C}
    {call' : Call C'} (h : call.Alike (hidden.likeness worlds connections) call') :
    hidden.call view call = hidden.call view' call' := by
  cases h with
  | password => rfl
  | createAccount project request => simp only [Hidden.call, request_eq request]
  | clusterInfo => rfl
  | connect target way =>
    obtain ⟨dialers, rfl⟩ := way
    simp only [Hidden.call, target_eq target, dialers]
  | ping connection => simp only [Hidden.call, views _ _ connection]
  | disconnect connection => simp only [Hidden.call, views _ _ connection]

theorem outcome_eq (views : ∀ c c', connections c c' → view c = view' c')
    {o : Outcome (Credential × C)} {o' : Outcome (Credential × C')}
    (h : Outcome.Alike (hidden.likeness worlds connections).Result o o') :
    hidden.outcome view o = hidden.outcome view' o' := by
  cases h with
  | ok results =>
    simp only [Hidden.outcome, Outcome.map]
    rw [credential_eq results.1, views _ _ results.2]
  | _ => rfl

theorem answer_eq (views : ∀ c c', connections c c' → view c = view' c') {a : Answer C}
    {a' : Answer C'} (h : a.Alike (hidden.likeness worlds connections) a') :
    hidden.answer view a = hidden.answer view' a' := by
  cases h with
  | slept => rfl
  | closed outcomes => simp only [Hidden.answer, outcomes.eq id]
  | connected outcomes =>
    exact congrArg Answer.connected (map_eq_of_forall₂ outcomes (outcome_eq views))

theorem receipt_eq (views : ∀ c c', connections c c' → view c = view' c') {x : Receipt C}
    {y : Receipt C'} (h : x.Alike (hidden.likeness worlds connections) y) :
    x.seen hidden view = y.seen hidden view' := by
  have calls : x.calls.map (fun (time, call) => (time, hidden.call view call)) =
      y.calls.map fun (time, call) => (time, hidden.call view' call) :=
    map_eq_of_forall₂ h.calls fun same => Prod.ext same.1 (call_eq views same.2)
  rw [Receipt.seen, Receipt.seen, answer_eq views h.answer, h.elapsed, h.size, calls]

/-- Whether the password may be used, and for what, does not depend on what it is. -/
theorem Settings.dialer {s s' : ClusterAccess.Settings} (h : hidden.Settings s s') :
    (∃ e, s.proxy.dialer = .error e ∧ s'.proxy.dialer = .error e) ∨
      ∃ d d', s.proxy.dialer = .ok d ∧ s'.proxy.dialer = .ok d' ∧
        d.map hidden.dialer = d'.map hidden.dialer := by
  cases h with
  | account =>
    cases s.proxy.dialer with
    | error e => exact .inl ⟨e, rfl, rfl⟩
    | ok d => exact .inr ⟨d, d, rfl, rfl, rfl⟩
  | proxy s filled filled' =>
    simp only [ProxySettings.dialer, ProxySettings.isEnabled, ProxySettings.credentials,
      Option.filter_some, filled, filled', Bool.not_false, if_true]
    split
    · cases s.proxy.username.filter (!·.isEmpty) with
      | none => exact .inl ⟨_, rfl, rfl⟩
      | some user => exact .inr ⟨_, _, rfl, rfl, rfl⟩
    · exact .inr ⟨none, none, rfl, rfl, rfl⟩

theorem Settings.account_eq {s s' : ClusterAccess.Settings} (h : hidden.Settings s s') :
    s.account = s'.account := by
  cases h <;> rfl

theorem Settings.pool_eq {s s' : ClusterAccess.Settings} (h : hidden.Settings s s') :
    s.pool = s'.pool := by
  cases h <;> rfl

theorem Apart.alike {p : PoolConfig σ C} {p' : PoolConfig σ' C'}
    (h : hidden.Apart worlds connections p p') :
    p.Alike (hidden.likeness worlds connections) p' where
  services := h.services
  account := h.settings.account_eq
  attempts := by rw [PoolConfig.maxAttempts, PoolConfig.maxAttempts, h.settings.pool_eq]
  delay := h.delay
  dialer key := by
    unfold PoolConfig.dialer PoolConfig.options
    rcases h.settings.dialer with ⟨e, hd, hd'⟩ | ⟨d, d', hd, hd', same⟩
    · exact .inl ⟨_, by rw [hd], by rw [hd']⟩
    · refine .inr ⟨d, d', by rw [hd], by rw [hd'], same, ?_⟩
      have proxied : d.isSome = d'.isSome := by
        simpa using congrArg Option.isSome same
      rw [proxied, h.settings.pool_eq]

end Hidden

/-- Pools that differ in passwords of a kind cannot be told apart. -/
theorem PoolConfig.secrets_hidden {hidden : Hidden} {worlds : σ → σ' → Prop}
    {connections : C → C' → Prop} {view : C → V} {view' : C' → V}
    (views : ∀ c c', connections c c' → view c = view' c') {p : PoolConfig σ C}
    {p' : PoolConfig σ' C'} (apart : hidden.Apart worlds connections p p') {w : σ} {w' : σ'}
    (start : worlds w w') (instructions : List Instruction) :
    (p.play instructions (.start w)).1.map (·.seen hidden view) =
        (p'.play instructions (.start w')).1.map (·.seen hidden view') ∧
      (p.play instructions (.start w)).1.map (·.texts) =
        (p'.play instructions (.start w')).1.map (·.texts) := by
  have receipts := (apart.alike.play instructions (PoolState.Alike.start start)).1
  have seen := map_eq_of_forall₂ receipts (Hidden.receipt_eq views)
  refine ⟨seen, ?_⟩
  have texts := congrArg (List.map Receipt.texts) seen
  simpa only [List.map_map, Function.comp_def, Receipt.texts_seen] using texts

/-! ## Rehearsals -/

/-- Services that follow a script do not look at passwords. -/
theorem Rehearsal.services_alike (r : Rehearsal) (hidden : Hidden) {a b : Secret}
    (passwords : (hidden.likeness Eq Eq : Likeness Stage Nat Stage Nat).secret a b) :
    Services.Alike (hidden.likeness Eq Eq) { r with passwords := .fixed a }.services
      { r with passwords := .fixed b }.services where
  password _ _ _ worlds := ⟨.ok passwords, worlds⟩
  identifier _ _ _ worlds := by
    cases worlds
    exact ⟨rfl, rfl⟩
  clock _ := rfl
  createAccount project q q' w w' request worlds := by
    cases worlds
    rw [request.rest]
    exact ⟨rfl, rfl⟩
  clusterInfo _ _ _ _ worlds := by
    cases worlds
    exact ⟨rfl, rfl⟩
  connect _ _ worlds := by
    cases worlds
    exact ⟨Time.Reply.Alike.refl (fun _ => .refl _) _, rfl⟩
  ping connection worlds := by
    cases connection
    cases worlds
    exact ⟨rfl, rfl⟩
  disconnect connection worlds := by
    cases connection
    cases worlds
    exact ⟨rfl, rfl⟩

/-- A pool with passwords for its accounts and for the proxy. -/
def lockedPool (account proxy : String) : PoolConfig Stage Nat where
  services := { smoothRehearsal with passwords := .fixed (.ofString account) }.services
  settings := { proxy := ⟨"gate", 1080, some "guest", some (.ofString proxy)⟩ }
  delay := smoothRehearsal.pool.delay

/-- Two pools with passwords of their own, and the credentials that they give out. -/
theorem PoolConfig.secrets_hidden_rehearsed :
    let instructions : List Instruction :=
      [.connect none ⟨"shop", "orders"⟩, .close none fun _ => 0]
    let receipts account proxy :=
      ((lockedPool account proxy).play instructions (.start {})).1
    (receipts "rook" "oak").map (·.seen .account id) =
        (receipts "wren" "oak").map (·.seen .account id) ∧
      (receipts "rook" "oak").map (·.seen .proxy id) =
        (receipts "rook" "elm").map (·.seen .proxy id) ∧
      ∀ password ∈ ["rook", "wren"], ∃ credential,
        ((lockedPool password "oak").perform (.connect none ⟨"shop", "orders"⟩) (.start {})).1 =
            .connected [.ok (credential, 1)] ∧
          credential.password = .ofString password := by
  intro instructions receipts
  have accounts : Hidden.account.Apart Eq Eq (lockedPool "rook" "oak") (lockedPool "wren" "oak") :=
    ⟨smoothRehearsal.services_alike _ trivial, .account _, rfl⟩
  have proxies : Hidden.proxy.Apart Eq Eq (lockedPool "rook" "oak") (lockedPool "rook" "elm") :=
    ⟨smoothRehearsal.services_alike _ rfl,
      .proxy { proxy := ⟨"gate", 1080, some "guest", none⟩ } rfl rfl, rfl⟩
  refine ⟨(secrets_hidden (fun _ _ => id) accounts rfl _).1,
    (secrets_hidden (fun _ _ => id) proxies rfl _).1, ?_⟩
  intro password given
  simp only [List.mem_cons, List.not_mem_nil, or_false] at given
  rcases given with rfl | rfl <;> exact ⟨_, rfl, rfl⟩

end ClusterAccess
