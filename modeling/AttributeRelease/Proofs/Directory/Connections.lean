import AttributeRelease.Directory.Connector
import AttributeRelease.Proofs.Pool.Size
import AttributeRelease.Proofs.Resolution.Simulation

/-!
# Where the connections of a directory connector are

A directory can be given a ledger, which lists the connections that are opened and closed and
changes nothing else.  A connector that has a pool to itself borrows a connection for a search or a
check and gives it back, whether the directory fails or not.  So its pool is at rest between calls:
no slot is taken, and every connection in the ledger waits in the pool or is closed.
-/

namespace AttributeRelease

variable {κ σ α : Type}

/-! ## Ledgers -/

/-- The connections that were opened and those that were closed, the last ones first. -/
structure Ledger (κ : Type) where
  opened : List κ := []
  closed : List κ := []

/-- An operation in a world with a ledger, which it leaves alone. -/
def unrecorded (act : σ → α × σ) (w : σ × Ledger κ) : α × σ × Ledger κ :=
  ((act w.1).1, (act w.1).2, w.2)

/-- The world without its ledger. -/
def Part.bare : Part (σ × Ledger κ) σ where
  get := Prod.fst
  set s w := (s, w.2)

/-- A directory with a ledger of its connections. -/
def Directory.recorded (d : Directory κ σ) : Directory κ (σ × Ledger κ) where
  create w :=
    match d.create w.1 with
    | (.error e, s) => (.error e, s, w.2)
    | (.ok k, s) => (.ok k, s, { w.2 with opened := k :: w.2.opened })
  connect k := unrecorded (d.connect k)
  search k filter attributes := unrecorded (d.search k filter attributes)
  isValid k := unrecorded (d.isValid k)
  close k w := (d.close k w.1, { w.2 with closed := k :: w.2.closed })

def CacheAccess.recorded (κ : Type) (c : CacheAccess σ) : CacheAccess (σ × Ledger κ) where
  cache := Part.bare.comp c.cache
  clock := unrecorded c.clock

/-- A connector whose directory has a ledger. -/
def DirectorySearch.recorded (d : DirectorySearch κ σ) : DirectorySearch κ (σ × Ledger κ) where
  settings := d.settings
  templates := Part.bare.comp d.templates
  directory := d.directory.recorded
  connections := Part.bare.comp d.connections
  clock := unrecorded d.clock
  returned := d.returned
  emptyIsError := d.emptyIsError
  cache := d.cache.map (CacheAccess.recorded κ)

/-! ## Pools at rest -/

namespace Pool

variable {d : Directory κ σ} {settings : PoolSettings} {p p' : Pool κ} {l l' : Ledger κ}

/-- A pool that nobody uses: no slot is taken, no more connections wait than its size says, and each
one that was opened waits in it or is closed. -/
structure AtRest (settings : PoolSettings) (l : Ledger κ) (p : Pool κ) : Prop where
  bounds : p.settings = settings
  slots : p.slots = settings.maxSize
  idle : p.idle.length ≤ settings.maxSize
  everywhere : (p.idle.map (·.connection) ++ l.closed).Perm l.opened

/-- A pool at rest has a slot, so that nobody waits for one or gets a connection beyond it. -/
theorem AtRest.claim (h : p.AtRest settings l) (hsize : 1 ≤ settings.maxSize) : p.claim = .slot :=
  claim_eq_slot_iff.mpr (h.slots ▸ hsize)

/-- A pool at rest that has lent one connection. -/
structure Lent (settings : PoolSettings) (l : Ledger κ) (k : κ) (p : Pool κ) : Prop where
  bounds : p.settings = settings
  slots : p.slots + 1 = settings.maxSize
  idle : p.idle.length + 1 ≤ settings.maxSize
  everywhere : (k :: (p.idle.map (·.connection) ++ l.closed)).Perm l.opened

/-- A pool is at rest again when the connection comes back. -/
theorem Lent.checkin {k : κ} (h : p.Lent settings l k) (now : Nat) :
    AtRest settings l { p with idle := p.idle ++ [⟨k, now⟩], slots := p.slots + 1 } where
  bounds := h.bounds
  slots := h.slots
  idle := by
    rw [List.length_append, List.length_singleton]
    exact h.idle
  everywhere := by
    have hmoved : (p.idle.map (·.connection) ++ k :: l.closed).Perm l.opened :=
      List.perm_middle.trans h.everywhere
    rwa [List.map_append, List.map_singleton, List.append_assoc, List.singleton_append]

/-- What a checkout from a pool at rest comes to, with a ledger and without one. -/
inductive Borrowed (d : Directory κ σ) (settings : PoolSettings) (p : Pool κ) (s : σ)
    (l : Ledger κ) : Prop
  | failed (reason : Failure) (s' : σ) :
    p.checkout d s = (.error reason, p, s') →
    p.checkout d.recorded (s, l) = (.error reason, p, s', l) → Borrowed d settings p s l
  | lent (k : κ) (p' : Pool κ) (s' : σ) (l' : Ledger κ) :
    p.checkout d s = (.ok ⟨k, true⟩, p', s') →
    p.checkout d.recorded (s, l) = (.ok ⟨k, true⟩, p', s', l') →
    p'.Lent settings l' k → Borrowed d settings p s l

theorem AtRest.borrowed (h : p.AtRest settings l) (hsize : 1 ≤ settings.maxSize) (s : σ) :
    Borrowed d settings p s l := by
  have hclaim := h.claim hsize
  have hslots := claim_eq_slot_iff.mp hclaim
  obtain ⟨poolSettings, idle, slots⟩ := p
  cases idle with
  | cons i rest =>
      refine .lent i.connection ⟨poolSettings, rest, slots - 1⟩ s l ?_ ?_ ?_
      · rw [checkout, hclaim]
      · rw [checkout, hclaim]
      · refine ⟨h.bounds, ?_, h.idle, h.everywhere⟩
        rw [← h.slots]
        exact Nat.sub_add_cancel hslots
  | nil =>
      rcases hcreate : d.create s with ⟨e | k, s'⟩
      · refine .failed (.unopened e) s' ?_ ?_
        · rw [checkout, hclaim]
          simp only [hcreate]
        · rw [checkout, hclaim]
          simp only [Directory.recorded, hcreate]
      · refine .lent k ⟨poolSettings, [], slots - 1⟩ s' { l with opened := k :: l.opened } ?_ ?_ ?_
        · rw [checkout, hclaim]
          simp only [hcreate]
        · rw [checkout, hclaim]
          simp only [Directory.recorded, hcreate]
        · refine ⟨h.bounds, ?_, hsize, h.everywhere.cons k⟩
          rw [← h.slots]
          exact Nat.sub_add_cancel hslots

theorem openIdle_recorded {now n : Nat} {s s' : σ} {idle : List (Idle κ)} (l : Ledger κ)
    (h : openIdle d now n s = (.ok idle, s')) :
    openIdle d.recorded now n (s, l) =
      (.ok idle, s', { l with opened := (idle.map (·.connection)).reverse ++ l.opened }) := by
  induction n generalizing s idle l with
  | zero =>
      cases h
      rfl
  | succ n ih =>
      rw [openIdle] at h ⊢
      rcases hcreate : d.create s with ⟨_ | k, s₁⟩
      · rw [hcreate] at h
        cases h
      · rw [hcreate] at h
        rcases hrest : openIdle d now n s₁ with ⟨_ | rest, s₂⟩
        · simp only [hrest] at h
          cases h
        · simp only [hrest] at h
          cases h
          have hmore := ih { l with opened := k :: l.opened } hrest
          have hcreate' : d.recorded.create (s, l) =
              (.ok k, s₁, { l with opened := k :: l.opened }) := by
            simp only [Directory.recorded, hcreate]
          simp only [hcreate', hmore, List.map_cons, List.reverse_cons, List.append_assoc,
            List.singleton_append]

/-- A new pool is at rest. -/
theorem start_recorded {now : Nat} {s s' : σ} (h : start d settings now s = (.ok p, s')) :
    ∃ l, start d.recorded settings now (s, {}) = (.ok p, s', l) ∧ p.AtRest settings l := by
  obtain ⟨hbounds, hslots, hidle⟩ := start_ok h
  rw [start] at h
  rcases hopen : openIdle d now (min settings.minSize settings.maxSize) s with ⟨_ | idle, s₁⟩
  · rw [hopen] at h
    cases h
  · rw [hopen] at h
    cases h
    refine ⟨⟨(idle.map Idle.connection).reverse ++ [], []⟩, ?_, hbounds, hslots,
      hidle ▸ Nat.min_le_right _ _, ((List.reverse_perm _).append_right []).symm⟩
    rw [start, openIdle_recorded {} hopen]

end Pool

/-! ## Connectors -/

namespace DirectorySearch

section Uses

variable {d : DirectorySearch κ σ} {p p' : Pool κ} {s s' : σ} {use : κ → σ → α × σ}

theorem giveBack_slot {k : κ} (hpool : d.connections.get (d.clock s).2 = .pooled p) :
    d.giveBack ⟨k, true⟩ s = d.connections.set (.pooled
      { p with idle := p.idle ++ [⟨k, (d.clock s).1⟩], slots := p.slots + 1 }) (d.clock s).2 := by
  simp only [giveBack, hpool]
  rfl

theorem withConnection_error {reason : Pool.Failure} (hpool : d.connections.get s = .pooled p)
    (hcheckout : p.checkout d.directory s = (.error reason, p', s')) :
    d.withConnection use s = (.error reason, d.connections.set (.pooled p') s') := by
  simp only [withConnection, hpool, Connections.checkout, hcheckout]

/-- A connection with a slot waits in the pool again after its use. -/
theorem withConnection_slot {k : κ} {s₁ : σ} (hpool : d.connections.get s = .pooled p)
    (hcheckout : p.checkout d.directory s = (.ok ⟨k, true⟩, p', s'))
    (hused : (use k (d.connections.set (.pooled p') s')).2 = s₁)
    (hpool' : d.connections.get (d.clock s₁).2 = .pooled p') :
    d.withConnection use s =
      (.ok (use k (d.connections.set (.pooled p') s')).1, d.connections.set (.pooled
        { p' with idle := p'.idle ++ [⟨k, (d.clock s₁).1⟩], slots := p'.slots + 1 })
        (d.clock s₁).2) := by
  simp only [withConnection, hpool, Connections.checkout, hcheckout, hused, giveBack_slot hpool']

end Uses

/-- A connector that has its connections to itself: what it does with a connection, with its cache
and with its clocks does not touch them. -/
structure SoleUser (d : DirectorySearch κ σ) : Prop where
  connect : ∀ k s, d.connections.get (d.directory.connect k s).2 = d.connections.get s
  search : ∀ k filter s,
    d.connections.get (d.directory.search k filter d.returned s).2 = d.connections.get s
  clock : ∀ s, d.connections.get (d.clock s).2 = d.connections.get s
  cacheClock : ∀ c ∈ d.cache, ∀ s, d.connections.get (c.clock s).2 = d.connections.get s
  cacheSet : ∀ c ∈ d.cache, ∀ cache s,
    d.connections.get (c.cache.set cache s) = d.connections.get s

/-- The connector has a pool, which is at rest. -/
def Rests (d : DirectorySearch κ σ) (settings : PoolSettings) (w : σ × Ledger κ) : Prop :=
  ∃ p, d.connections.get w.1 = .pooled p ∧ p.AtRest settings w.2

/-- A world with a ledger in which the pool is at rest, and the same world without the ledger. -/
def RestsAs (d : DirectorySearch κ σ) (settings : PoolSettings) (w : σ × Ledger κ) (s : σ) : Prop :=
  w.1 = s ∧ d.Rests settings w

variable {d : DirectorySearch κ σ} {settings : PoolSettings}

/-- What leaves the connections alone leaves the pool at rest. -/
theorem RestsAs.elsewhere {w : σ × Ledger κ} {s s' : σ} (h : d.RestsAs settings w s)
    (hsame : d.connections.get s' = d.connections.get s) : d.RestsAs settings (s', w.2) s' := by
  obtain ⟨rfl, p, hpool, hrest⟩ := h
  exact ⟨rfl, p, hsame.trans hpool, hrest⟩

theorem unrecorded_corresponds (act : σ → α × σ)
    (hact : ∀ s, d.connections.get (act s).2 = d.connections.get s) :
    Corresponds (d.RestsAs settings) (unrecorded act) act := by
  intro w s hw
  have hrests := hw.elsewhere (hact s)
  obtain ⟨rfl, -⟩ := hw
  exact ⟨_, _, _, rfl, rfl, hrests⟩

theorem restsAs_set {p : Pool κ} {l : Ledger κ} (h : p.AtRest settings l) (s : σ) :
    d.RestsAs settings (d.recorded.connections.set (.pooled p) (s, l))
      (d.connections.set (.pooled p) s) :=
  ⟨rfl, p, d.connections.get_set _ s, h⟩

/-- A connection that is borrowed comes back, whatever comes of its use. -/
theorem withConnection_corresponds (hsole : d.SoleUser) (hsize : 1 ≤ settings.maxSize)
    {use : κ → σ → α × σ} (huse : ∀ k s, d.connections.get (use k s).2 = d.connections.get s) :
    Corresponds (d.RestsAs settings) (d.recorded.withConnection fun k => unrecorded (use k))
      (d.withConnection use) := by
  rintro ⟨s, l⟩ _ ⟨rfl, p, hpool, hrest⟩
  have hpool' : d.recorded.connections.get (s, l) = .pooled p := hpool
  cases hrest.borrowed (d := d.directory) hsize s with
  | failed reason s' hcheckout hcheckout' =>
      exact ⟨_, _, _, withConnection_error hpool' hcheckout', withConnection_error hpool hcheckout,
        restsAs_set hrest s'⟩
  | lent k p' s' l' hcheckout hcheckout' hlent =>
      have hused : d.connections.get (d.clock (use k (d.connections.set (.pooled p') s')).2).2 =
          .pooled p' := by
        rw [hsole.clock, huse, d.connections.get_set]
      exact ⟨_, _, _, withConnection_slot hpool' hcheckout' rfl hused,
        withConnection_slot hpool hcheckout rfl hused, restsAs_set (hlent.checkin _) _⟩

/-! ## Calls -/

theorem search_corresponds (hsole : d.SoleUser) (hsize : 1 ≤ settings.maxSize) (filter : String) :
    Corresponds (d.RestsAs settings) (d.recorded.search filter) (d.search filter) := by
  intro w s hw
  obtain ⟨result, w', s', hrecorded, hplain, hrests⟩ :=
    withConnection_corresponds hsole hsize (fun k s => hsole.search k filter s) w s hw
  have hrecorded' : d.recorded.withConnection (fun k =>
      d.recorded.directory.search k filter d.recorded.returned) w = (result, w') := hrecorded
  simp only [search, hrecorded', hplain]
  rcases result with e | e | entries
  · exact ⟨_, _, _, rfl, rfl, hrests⟩
  · exact ⟨_, _, _, rfl, rfl, hrests⟩
  · exact ⟨_, _, _, rfl, rfl, hrests⟩

theorem ask_corresponds (hsole : d.SoleUser) (hsize : 1 ≤ settings.maxSize) (filter : String) :
    Corresponds (d.RestsAs settings) (d.recorded.ask filter) (d.ask filter) := by
  intro w s hw
  obtain ⟨result, w', s', hrecorded, hplain, hrests⟩ := search_corresponds hsole hsize filter w s hw
  simp only [ask, hrecorded, hplain]
  rcases result with e | entries
  · exact ⟨_, _, _, rfl, rfl, hrests⟩
  · cases entries with
    | nil =>
        have hempty : d.recorded.emptyIsError = d.emptyIsError := rfl
        have hid : d.recorded.id = d.id := rfl
        simp only [hempty, hid]
        cases d.emptyIsError with
        | true => exact ⟨_, _, _, rfl, rfl, hrests⟩
        | false => exact ⟨_, _, _, rfl, rfl, hrests⟩
    | cons entry rest => exact ⟨_, _, _, rfl, rfl, hrests⟩

theorem check_corresponds (hsole : d.SoleUser) (hsize : 1 ≤ settings.maxSize) :
    Corresponds (d.RestsAs settings) d.recorded.check d.check := by
  intro w s hw
  obtain ⟨result, w', s', hrecorded, hplain, hrests⟩ :=
    withConnection_corresponds hsole hsize hsole.connect w s hw
  have hrecorded' : d.recorded.withConnection d.recorded.directory.connect w = (result, w') :=
    hrecorded
  simp only [check, hrecorded', hplain]
  rcases result with e | e | u
  · exact ⟨_, _, _, rfl, rfl, hrests⟩
  · exact ⟨_, _, _, rfl, rfl, hrests⟩
  · exact ⟨_, _, _, rfl, rfl, hrests⟩

theorem answer_corresponds (hsole : d.SoleUser) (hsize : 1 ≤ settings.maxSize)
    (statement : String) :
    Corresponds (d.RestsAs settings) (d.recorded.inquiry.answer statement)
      (d.inquiry.answer statement) := by
  intro w s hw
  have hask := ask_corresponds hsole hsize statement
  cases hcache : d.cache with
  | none =>
      have hnone : d.recorded.inquiry.cache = none := congrArg (Option.map _) hcache
      have hnone' : d.inquiry.cache = none := hcache
      simp only [Inquiry.answer, hnone, hnone']
      exact hask w s hw
  | some c =>
      have hsome : d.recorded.inquiry.cache = some (c.recorded κ) := congrArg (Option.map _) hcache
      have hsome' : d.inquiry.cache = some c := hcache
      have hask : Corresponds (d.RestsAs settings) (d.recorded.inquiry.ask statement)
          (d.inquiry.ask statement) := ask_corresponds hsole hsize statement
      have hsame : ∀ cache s, d.connections.get (c.cache.set cache (c.clock s).2) =
          d.connections.get s := fun cache s =>
        (hsole.cacheSet c hcache cache _).trans (hsole.cacheClock c hcache s)
      obtain ⟨found, w', s', hget, hget', hrests⟩ : ∃ found w' s',
          (c.recorded κ).get statement w = (found, w') ∧ c.get statement s = (found, s') ∧
            d.RestsAs settings w' s' :=
        unrecorded_corresponds (c.get statement) (fun s => hsame _ s) w s hw
      simp only [Inquiry.answer, hsome, hsome', CacheAccess.answer, hget, hget']
      cases found with
      | some found => exact ⟨_, _, _, rfl, rfl, hrests⟩
      | none =>
          obtain ⟨reply, w'', s'', hreply, hreply', hrests'⟩ := hask w' s' hrests
          simp only [hreply, hreply']
          cases reply with
          | error e => exact ⟨_, _, _, rfl, rfl, hrests'⟩
          | ok fresh =>
              have hput : d.RestsAs settings (c.put statement fresh s'', w''.2)
                  (c.put statement fresh s'') := hrests'.elsewhere (hsame _ s'')
              obtain ⟨rfl, -⟩ := hrests'
              exact ⟨_, _, _, rfl, rfl, hput⟩

theorem resolve_corresponds (hsole : d.SoleUser) (hsize : 1 ≤ settings.maxSize)
    (request : Request) (memo : Memo) :
    Corresponds (d.RestsAs settings) (d.recorded.inquiry.resolve request memo)
      (d.inquiry.resolve request memo) := by
  intro w s hw
  have htemplates : d.recorded.inquiry.templates.get w = d.inquiry.templates.get s :=
    congrArg d.templates.get hw.1
  have hsettings : d.recorded.inquiry.settings = d.inquiry.settings := rfl
  have hescaping : d.recorded.inquiry.escaping = d.inquiry.escaping := rfl
  simp only [Inquiry.resolve, htemplates, hsettings, hescaping]
  cases (d.inquiry.templates.get s).statement (Inquiry.templateName d.inquiry.settings)
      d.inquiry.escaping request memo d.inquiry.settings.plugin.dependencies with
  | error e => exact ⟨_, _, _, rfl, rfl, hw⟩
  | ok text => exact answer_corresponds hsole hsize (d.inquiry.statementOf text) w s hw

/-! ## Runs -/

/-- What can happen next in a world with a connector: it is asked for the attributes for a request,
it is checked, or something goes on that leaves its connections alone. -/
inductive Next (d : DirectorySearch κ σ) (w : σ × Ledger κ) : σ × Ledger κ → Prop
  | resolve (request : Request) (memo : Memo) :
    Next d w (d.recorded.inquiry.connector.resolve request memo w).2
  | check : Next d w (d.recorded.inquiry.connector.check w).2
  | elsewhere (s : σ) : d.connections.get s = d.connections.get w.1 → Next d w (s, w.2)

/-- One thing after the other. -/
def Run (d : DirectorySearch κ σ) : σ × Ledger κ → σ × Ledger κ → Prop :=
  Relation.ReflTransGen d.Next

/-- An operation that corresponds to one without a ledger leaves the pool at rest, and comes to the
same but for the ledger. -/
theorem Rests.of_corresponds {act' : σ × Ledger κ → α × σ × Ledger κ} {act : σ → α × σ}
    (hact : Corresponds (d.RestsAs settings) act' act) {w : σ × Ledger κ}
    (h : d.Rests settings w) :
    d.Rests settings (act' w).2 ∧ act w.1 = ((act' w).1, (act' w).2.1) := by
  obtain ⟨result, w', s', hact', hplain, rfl, hrests⟩ := hact w w.1 ⟨rfl, h⟩
  rw [hact', hplain]
  exact ⟨hrests, rfl⟩

theorem Next.rests (hsole : d.SoleUser) (hsize : 1 ≤ settings.maxSize) {w w' : σ × Ledger κ}
    (h : d.Next w w') (hrests : d.Rests settings w) : d.Rests settings w' := by
  cases h with
  | resolve request memo =>
      exact (hrests.of_corresponds (resolve_corresponds hsole hsize request memo)).1
  | check => exact (hrests.of_corresponds (check_corresponds hsole hsize)).1
  | elsewhere s hsame =>
      obtain ⟨p, hpool, hrest⟩ := hrests
      exact ⟨p, hsame.trans hpool, hrest⟩

theorem Run.rests (hsole : d.SoleUser) (hsize : 1 ≤ settings.maxSize) {w w' : σ × Ledger κ}
    (h : d.Run w w') (hrests : d.Rests settings w) : d.Rests settings w' := by
  induction h with
  | refl => exact hrests
  | tail _ hnext ih => exact hnext.rests hsole hsize ih

end DirectorySearch

/-! ## An unreliable directory -/

/-- A world with templates and connections, and with what its directory will do: whether each of the
next operations succeeds. -/
structure Line where
  templates : Templates
  connections : Connections Nat
  created : Nat := 0
  luck : List Bool

namespace Line

/-- An operation that succeeds if it is lucky; after the last chance each one does. -/
def attempt (a : α) (s : Line) : Except ResolutionError α × Line :=
  match s.luck with
  | false :: luck => (.error (.directory "unavailable"), { s with luck })
  | _ => (.ok a, { s with luck := s.luck.tail })

/-- A directory that numbers its connections, and has no entries. -/
def directory : Directory Nat Line where
  create s := attempt s.created { s with created := s.created + 1 }
  connect _ := attempt ()
  search _ _ _ := attempt []
  isValid _ s := (true, s)
  close _ s := s

def unreliable : DirectorySearch Nat Line where
  settings := { plugin := { id := "ldap" } }
  templates := { get := templates, set := fun t s => { s with templates := t } }
  directory := directory
  connections := { get := connections, set := fun c s => { s with connections := c } }
  clock s := (0, s)

theorem get_attempt (a : α) (s : Line) :
    unreliable.connections.get (attempt a s).2 = unreliable.connections.get s := by
  rw [attempt]
  split <;> rfl

theorem unreliable_soleUser : unreliable.SoleUser where
  connect _ := get_attempt ()
  search _ _ := get_attempt []
  clock _ := rfl
  cacheClock _ hc := nomatch hc
  cacheSet _ hc := nomatch hc

def one : PoolSettings := { maxSize := 1 }

/-- The connector has no template yet, and every other operation of its directory will fail. -/
def unlucky : Line where
  templates := .empty
  connections := .pooled ⟨one, [], 1⟩
  luck := [false, true, false, true, false]

/-- No connection can be opened for a first check, and the one that is opened for a second check
cannot be used. -/
def checked : Line × Ledger Nat :=
  let connector := unreliable.recorded.inquiry.connector
  (connector.check (connector.check (unlucky, {})).2).2

/-- There is no template for a request. -/
def unanswered : Line × Ledger Nat :=
  (unreliable.recorded.inquiry.connector.resolve {} .empty checked).2

/-- The template is registered. -/
def prepared : Line :=
  { unanswered.1 with templates :=
    (Inquiry.registerTemplate unreliable.settings .whole "(uid=jdoe)" unanswered.1.templates).2 }

/-- The directory is searched for another request, and the search for a last one fails. -/
def asked : Line × Ledger Nat :=
  let connector := unreliable.recorded.inquiry.connector
  (connector.resolve {} .empty (connector.resolve {} .empty (prepared, unanswered.2)).2).2

theorem run_asked : unreliable.Run (unlucky, {}) asked := by
  apply Relation.ReflTransGen.head .check
  apply Relation.ReflTransGen.head .check
  apply Relation.ReflTransGen.head (.resolve {} .empty)
  apply Relation.ReflTransGen.head (.elsewhere prepared rfl)
  apply Relation.ReflTransGen.head (.resolve {} .empty)
  exact .single (.resolve {} .empty)

end Line

/-! ## No leaks -/

namespace DirectorySearch

variable {d : DirectorySearch κ σ} {settings : PoolSettings}

/-- A connector that has a new pool to itself leaks no connection.  After each of its calls all
slots are free, so that the next one need not wait, no more connections wait than the pool's size
says, and every connection that was opened waits or is closed.  The ledger that says so makes no
difference to any call. -/
theorem no_connection_leaks (hsole : d.SoleUser) (hsize : 1 ≤ settings.maxSize) {now : Nat}
    {s₀ s₁ : σ} {p : Pool κ} (hstart : Pool.start d.directory settings now s₀ = (.ok p, s₁)) :
    ∃ l, Pool.start d.directory.recorded settings now (s₀, {}) = (.ok p, s₁, l) ∧
      ∀ s, d.connections.get s = .pooled p → ∀ w, d.Run (s, l) w →
        (∃ p', d.connections.get w.1 = .pooled p' ∧ p'.settings = settings ∧
          p'.slots = settings.maxSize ∧ p'.claim = .slot ∧ p'.idle.length ≤ settings.maxSize ∧
          (p'.idle.map (·.connection) ++ w.2.closed).Perm w.2.opened) ∧
        (∀ request memo, d.inquiry.connector.resolve request memo w.1 =
          ((d.recorded.inquiry.connector.resolve request memo w).1,
            (d.recorded.inquiry.connector.resolve request memo w).2.1)) ∧
        d.inquiry.connector.check w.1 = ((d.recorded.inquiry.connector.check w).1,
          (d.recorded.inquiry.connector.check w).2.1) := by
  obtain ⟨l, hrecorded, hnew⟩ := Pool.start_recorded hstart
  refine ⟨l, hrecorded, fun s hpool w hrun => ?_⟩
  have hrests : d.Rests settings w := hrun.rests hsole hsize ⟨p, hpool, hnew⟩
  have hpools := hrests
  obtain ⟨p', hpool', hrest⟩ := hpools
  refine ⟨⟨p', hpool', hrest.bounds, hrest.slots, hrest.claim hsize, hrest.idle, hrest.everywhere⟩,
    fun request memo => ?_, ?_⟩
  · exact (hrests.of_corresponds (resolve_corresponds hsole hsize request memo)).2
  · exact (hrests.of_corresponds (check_corresponds hsole hsize)).2

open Line in
/-- One connection was opened in all, and it waits. -/
theorem no_connection_leaks_unlucky :
    Pool.start Line.directory one 0 unlucky = (.ok ⟨one, [], 1⟩, unlucky) ∧
      unreliable.Run (unlucky, {}) asked ∧ asked.1.luck = [] ∧ asked.2.opened = [1] ∧
      ∃ p, asked.1.connections = .pooled p ∧ p.slots = 1 ∧ p.idle.length ≤ 1 ∧
        (p.idle.map (·.connection) ++ asked.2.closed).Perm [1] := by
  have hstart : Pool.start Line.directory one 0 unlucky = (.ok ⟨one, [], 1⟩, unlucky) := rfl
  have hluck : asked.1.luck = [] := by decide +kernel
  have hopened : asked.2.opened = [1] := by decide +kernel
  obtain ⟨l, hrecorded, hruns⟩ := no_connection_leaks unreliable_soleUser (by decide) hstart
  have hledger : {} = l := congrArg (·.2.2) hrecorded
  obtain ⟨⟨p, hpool, -, hslots, -, hidle, hplaces⟩, -⟩ :=
    hruns unlucky rfl asked (hledger ▸ run_asked)
  exact ⟨hstart, run_asked, hluck, hopened, p, hpool, hslots, hidle, hopened ▸ hplaces⟩

end DirectorySearch

end AttributeRelease
