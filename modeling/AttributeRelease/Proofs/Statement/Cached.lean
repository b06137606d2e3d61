import AttributeRelease.Directory.Connector
import AttributeRelease.Proofs.Cache.Entries
import AttributeRelease.Sql.Connector

/-!
# Connectors with caches

A connector whose source says the same to a statement every time says the same with a cache of its
own as without one, whatever the cache has room for and whatever its clock shows.  What it keeps is
what the source says, and it keeps nothing where it fails.
-/

namespace AttributeRelease

variable {σ κ α : Type} {c : CacheAccess σ} {usual : σ → Prop} {t : Templates}
  {answers : String → Except ResolutionError AttributeMap}

namespace CacheAccess

/-- What is usual in a world does not depend on a cache or on its clock, and the clock leaves the
cache alone. -/
structure Apart (c : CacheAccess σ) (usual : σ → Prop) : Prop where
  clock : ∀ s, usual s → usual (c.clock s).2
  cache_clock : ∀ s, usual s → c.cache.get (c.clock s).2 = c.cache.get s
  set : ∀ cache s, usual s → usual (c.cache.set cache s)

/-- An operation has one result as long as the world is usual; it keeps the world so, and leaves the
cache alone. -/
def Gives (c : CacheAccess σ) (usual : σ → Prop) (act : σ → α × σ) (result : α) : Prop :=
  ∀ s, usual s → (act s).1 = result ∧ usual (act s).2 ∧ c.cache.get (act s).2 = c.cache.get s

/-- The entries that are in a cache. -/
def entries (c : CacheAccess σ) (s : σ) : List (Cache.Entry String) := (c.cache.get s).entries

/-- What comes of a question with a cache: the answer is in the entry of its statement, or it is
what the source says, which makes the only new entry there may be.  A failure makes none. -/
structure Answered (c : CacheAccess σ) (usual : σ → Prop)
    (question : Except ResolutionError String)
    (answers : String → Except ResolutionError AttributeMap) (s : σ)
    (out : Except ResolutionError AttributeMap × σ) : Prop where
  usual : usual out.2
  result : out.1 = question.bind answers ∨
    ∃ f ∈ c.entries s, question = .ok f.key ∧ out.1 = .ok f.result
  kept : ∀ f ∈ c.entries out.2, f ∈ c.entries s ∨
    question = .ok f.key ∧ answers f.key = .ok f.result
  failed : ∀ e, out.1 = .error e → c.entries out.2 = c.entries s

/-- Every entry is what the source says to its statement. -/
def Faithful (c : CacheAccess σ) (answers : String → Except ResolutionError AttributeMap)
    (s : σ) : Prop := ∀ f ∈ c.entries s, answers f.key = .ok f.result

theorem usual_get (h : c.Apart usual) {s : σ} (hs : usual s) (statement : String) :
    usual (c.get statement s).2 := h.set _ _ (h.clock s hs)

theorem entries_get (h : c.Apart usual) {s : σ} (hs : usual s) (statement : String) :
    c.entries (c.get statement s).2 = c.entries s := by
  rw [entries, entries, get, c.cache.get_set, Cache.entries_get, h.cache_clock s hs]

theorem exists_of_get_eq_some (h : c.Apart usual) {s : σ} (hs : usual s) {statement : String}
    {found : AttributeMap} (hfound : (c.get statement s).1 = some found) :
    ∃ f ∈ c.entries s, f.key = statement ∧ f.result = found := by
  rw [get] at hfound
  have hentry := Cache.exists_of_get_eq_some hfound
  rwa [h.cache_clock s hs] at hentry

theorem usual_put (h : c.Apart usual) {s : σ} (hs : usual s) (statement : String)
    (fresh : AttributeMap) : usual (c.put statement fresh s) := h.set _ _ (h.clock s hs)

theorem mem_of_mem_put (h : c.Apart usual) {s : σ} (hs : usual s) {statement : String}
    {fresh : AttributeMap} {f : Cache.Entry String} (hf : f ∈ c.entries (c.put statement fresh s)) :
    (f.key = statement ∧ f.result = fresh) ∨ f ∈ c.entries s := by
  rw [entries, put, c.cache.get_set] at hf
  rcases Cache.mem_of_mem_put hf with rfl | hold
  · exact .inl ⟨rfl, rfl⟩
  · rw [h.cache_clock s hs] at hold
    exact .inr hold

theorem answer_answered (h : c.Apart usual)
    {ask : String → σ → Except ResolutionError AttributeMap × σ} {statement : String}
    (hask : c.Gives usual (ask statement) (answers statement)) {s : σ} (hs : usual s) :
    c.Answered usual (.ok statement) answers s (c.answer ask statement s) := by
  have husual := usual_get h hs statement
  have hentries := entries_get h hs statement
  rw [answer]
  rcases hget : c.get statement s with ⟨_ | found, s'⟩
  · -- The cache has no answer, and the source is asked.
    rw [hget] at husual hentries
    obtain ⟨hreply, husual', hcache⟩ := hask s' husual
    have hasked : c.entries (ask statement s').2 = c.entries s := by
      rw [← hentries, entries, entries, hcache]
    dsimp only
    rcases hout : ask statement s' with ⟨e | fresh, s''⟩
    · rw [hout] at hreply husual' hasked
      refine ⟨husual', .inl hreply, ?_, fun _ _ => hasked⟩
      intro f hf
      exact .inl (hasked ▸ hf)
    · rw [hout] at hreply husual' hasked
      refine ⟨usual_put h husual' statement fresh, .inl hreply, ?_, ?_⟩
      · intro f hf
        rcases mem_of_mem_put h husual' hf with ⟨hstatement, hresult⟩ | hold
        · exact .inr ⟨by rw [hstatement], by rw [hstatement, ← hreply, hresult]⟩
        · exact .inl (hasked ▸ hold)
      · intro e he
        cases he
  · -- The answer is that of an entry.
    obtain ⟨f, hf, hstatement, hresult⟩ := exists_of_get_eq_some h hs (by rw [hget])
    rw [hget] at husual hentries
    refine ⟨husual, .inr ⟨f, hf, by rw [hstatement], by rw [hresult]⟩, ?_, ?_⟩
    · intro g hg
      exact .inl (hentries ▸ hg)
    · intro e he
      cases he

namespace Answered

variable {question : Except ResolutionError String} {s : σ}
  {out : Except ResolutionError AttributeMap × σ}

/-- An entry that is what the source says makes no difference. -/
theorem result_of_faithful (h : c.Answered usual question answers s out)
    (hfaithful : c.Faithful answers s) : out.1 = question.bind answers := by
  rcases h.result with hreply | ⟨f, hf, hquestion, hresult⟩
  · exact hreply
  · rw [hresult, hquestion]
    exact (hfaithful f hf).symm

theorem faithful (h : c.Answered usual question answers s out)
    (hfaithful : c.Faithful answers s) : c.Faithful answers out.2 := by
  intro f hf
  rcases h.kept f hf with hold | ⟨-, hnew⟩
  · exact hfaithful f hold
  · exact hnew

end Answered

end CacheAccess

/-! ## Inquiries -/

namespace Inquiry

/-- The statement for a request, by templates. -/
def question (q : Inquiry σ) (t : Templates) (call : Request × Memo) :
    Except ResolutionError String :=
  (t.statement (templateName q.settings) q.escaping call.1 call.2
    q.settings.plugin.dependencies).map q.statementOf

/-- What a source says to the statement for a request. -/
def reply (q : Inquiry σ) (t : Templates)
    (answers : String → Except ResolutionError AttributeMap) (call : Request × Memo) :
    Except ResolutionError AttributeMap := (q.question t call).bind answers

/-- An inquiry with a cache, and a source that gives one answer to a statement; nobody else changes
the templates. -/
structure Answers (q : Inquiry σ) (c : CacheAccess σ) (usual : σ → Prop) (t : Templates)
    (answers : String → Except ResolutionError AttributeMap) : Prop where
  cached : q.cache = some c
  templates : ∀ s, usual s → q.templates.get s = t
  ask : ∀ statement, c.Gives usual (q.ask statement) (answers statement)

/-- The inquiry without its cache. -/
def uncached (q : Inquiry σ) : Inquiry σ := { q with cache := none }

/-- Answers requests one after the other. -/
def resolveAll (q : Inquiry σ) :
    List (Request × Memo) → σ → List (Except ResolutionError AttributeMap) × σ
  | [], s => ([], s)
  | call :: rest, s =>
    match q.resolve call.1 call.2 s with
    | (result, s) =>
      match q.resolveAll rest s with
      | (results, s) => (result :: results, s)

theorem resolveAll_cons (q : Inquiry σ) (call : Request × Memo) (rest : List (Request × Memo))
    (s : σ) : q.resolveAll (call :: rest) s =
      ((q.resolve call.1 call.2 s).1 :: (q.resolveAll rest (q.resolve call.1 call.2 s).2).1,
        (q.resolveAll rest (q.resolve call.1 call.2 s).2).2) := rfl

variable {q : Inquiry σ}

namespace Answers

theorem answered (h : q.Answers c usual t answers) (hapart : c.Apart usual)
    (call : Request × Memo) {s : σ} (hs : usual s) :
    c.Answered usual (q.question t call) answers s (q.resolve call.1 call.2 s) := by
  rw [resolve, h.templates s hs, question]
  cases t.statement (templateName q.settings) q.escaping call.1 call.2
      q.settings.plugin.dependencies with
  | error e => exact ⟨hs, .inl rfl, fun f hf => .inl hf, fun _ _ => rfl⟩
  | ok text =>
      dsimp only
      rw [answer, h.cached]
      exact CacheAccess.answer_answered hapart (h.ask (q.statementOf text)) hs

/-- Without its cache, an inquiry has the reply of its source for every request. -/
theorem resolve_uncached (h : q.Answers c usual t answers) (call : Request × Memo) {s : σ}
    (hs : usual s) :
    (q.uncached.resolve call.1 call.2 s).1 = q.reply t answers call ∧
      usual (q.uncached.resolve call.1 call.2 s).2 := by
  have htemplates : q.uncached.templates.get s = t := h.templates s hs
  rw [resolve, htemplates, reply, question]
  dsimp only [uncached, answer]
  cases t.statement (templateName q.settings) q.escaping call.1 call.2
      q.settings.plugin.dependencies with
  | error e => exact ⟨rfl, hs⟩
  | ok text =>
      obtain ⟨hreply, husual, -⟩ := h.ask (q.statementOf text) s hs
      exact ⟨hreply, husual⟩

theorem resolveAll_uncached (h : q.Answers c usual t answers) (calls : List (Request × Memo))
    {s : σ} (hs : usual s) :
    (q.uncached.resolveAll calls s).1 = calls.map (q.reply t answers) := by
  induction calls generalizing s with
  | nil => rfl
  | cons call rest ih =>
      obtain ⟨hreply, husual⟩ := h.resolve_uncached call hs
      rw [resolveAll_cons, List.map_cons]
      dsimp only
      rw [hreply, ih husual]

/-- As long as the entries are what the source says, so are the answers. -/
theorem resolveAll_of_faithful (h : q.Answers c usual t answers) (hapart : c.Apart usual)
    (calls : List (Request × Memo)) {s : σ} (hs : usual s) (hfaithful : c.Faithful answers s) :
    (q.resolveAll calls s).1 = calls.map (q.reply t answers) ∧
      usual (q.resolveAll calls s).2 := by
  induction calls generalizing s with
  | nil => exact ⟨rfl, hs⟩
  | cons call rest ih =>
      have hcall := h.answered hapart call hs
      obtain ⟨hresults, husual⟩ := ih hcall.usual (hcall.faithful hfaithful)
      rw [resolveAll_cons, List.map_cons]
      dsimp only
      rw [hcall.result_of_faithful hfaithful, hresults]
      exact ⟨rfl, husual⟩

end Answers

end Inquiry

/-! ## Databases and directories -/

/-- A database connector with a cache, and a database that gives one answer to a statement; nobody
else changes the templates. -/
structure DatabaseQuery.Fixed (q : DatabaseQuery σ) (c : CacheAccess σ) (usual : σ → Prop)
    (t : Templates) (rows : String → Except ResolutionError (List SqlRow)) : Prop where
  cached : q.cache = some c
  templates : ∀ s, usual s → q.templates.get s = t
  query : ∀ statement, c.Gives usual (q.database.query statement q.options) (rows statement)

/-- The inquiry without its cache is that of a connector that has none. -/
theorem DatabaseQuery.inquiry_uncached (q : DatabaseQuery σ) :
    q.inquiry.uncached = { q with cache := none }.inquiry := rfl

/-- What a connector makes of what a database answers. -/
def DatabaseQuery.reading (q : DatabaseQuery σ)
    (rows : String → Except ResolutionError (List SqlRow)) (statement : String) :
    Except ResolutionError AttributeMap :=
  match rows statement with
  | .error e => .error (.dataConnector q.id e.message)
  | .ok rows => q.attributes rows

theorem DatabaseQuery.Fixed.toAnswers {q : DatabaseQuery σ}
    {rows : String → Except ResolutionError (List SqlRow)}
    (h : q.Fixed c usual t rows) : q.inquiry.Answers c usual t (q.reading rows) where
  cached := h.cached
  templates := h.templates
  ask := by
    intro statement s hs
    obtain ⟨hrows, husual, hcache⟩ := h.query statement s hs
    change (q.ask statement s).1 = _ ∧ usual (q.ask statement s).2 ∧
      c.cache.get (q.ask statement s).2 = _
    rw [ask, reading, ← hrows]
    rcases hquery : q.database.query statement q.options s with ⟨_ | _, s'⟩
    all_goals
      rw [hquery] at husual hcache
      exact ⟨rfl, husual, hcache⟩

/-- A directory connector with a cache, and a directory that gives one answer to a filter; nobody
else changes the templates. -/
structure DirectorySearch.Fixed (d : DirectorySearch κ σ) (c : CacheAccess σ) (usual : σ → Prop)
    (t : Templates) (found : String → Except ResolutionError (List DirectoryEntry)) : Prop where
  cached : d.cache = some c
  templates : ∀ s, usual s → d.templates.get s = t
  search : ∀ filter, c.Gives usual (d.search filter) (found filter)

/-- The inquiry without its cache is that of a connector that has none. -/
theorem DirectorySearch.inquiry_uncached (d : DirectorySearch κ σ) :
    d.inquiry.uncached = { d with cache := none }.inquiry := rfl

/-- What a connector makes of what a directory answers. -/
def DirectorySearch.reading (d : DirectorySearch κ σ)
    (found : String → Except ResolutionError (List DirectoryEntry)) (filter : String) :
    Except ResolutionError AttributeMap :=
  match found filter with
  | .error e => .error e
  | .ok [] => if d.emptyIsError then .error (.noResult d.id) else .ok []
  | .ok (entry :: _) => .ok entry.toAttributes

theorem DirectorySearch.Fixed.toAnswers {d : DirectorySearch κ σ}
    {found : String → Except ResolutionError (List DirectoryEntry)}
    (h : d.Fixed c usual t found) : d.inquiry.Answers c usual t (d.reading found) where
  cached := h.cached
  templates := h.templates
  ask := by
    intro filter s hs
    obtain ⟨hfound, husual, hcache⟩ := h.search filter s hs
    change (d.ask filter s).1 = _ ∧ usual (d.ask filter s).2 ∧ c.cache.get (d.ask filter s).2 = _
    rw [ask, reading, ← hfound]
    rcases hsearch : d.search filter s with ⟨_ | _ | _, s'⟩
    · rw [hsearch] at husual hcache
      exact ⟨rfl, husual, hcache⟩
    · rw [hsearch] at husual hcache
      cases hempty : d.emptyIsError <;> exact ⟨rfl, husual, hcache⟩
    · rw [hsearch] at husual hcache
      exact ⟨rfl, husual, hcache⟩

namespace Inquiry

/-- Inquiries of databases and directories that give one answer to a statement, and what the
connectors make of it. -/
inductive FromSource (c : CacheAccess σ) (usual : σ → Prop) (t : Templates) :
    Inquiry σ → (String → Except ResolutionError AttributeMap) → Prop
  | database {q : DatabaseQuery σ} {rows : String → Except ResolutionError (List SqlRow)} :
    q.Fixed c usual t rows → FromSource c usual t q.inquiry (q.reading rows)
  | directory {κ : Type} {d : DirectorySearch κ σ}
    {found : String → Except ResolutionError (List DirectoryEntry)} :
    d.Fixed c usual t found → FromSource c usual t d.inquiry (d.reading found)

variable {q : Inquiry σ}

theorem FromSource.toAnswers (h : FromSource c usual t q answers) :
    q.Answers c usual t answers := by
  cases h with
  | database hfixed => exact hfixed.toAnswers
  | directory hfixed => exact hfixed.toAnswers

end Inquiry

/-! ## A directory of people -/

/-- A world with templates, a cache, connections and a clock. -/
structure Desk where
  templates : Templates
  cache : Cache String
  connections : Connections Unit
  time : Nat

namespace Desk

def templatesPart : Part Desk Templates where
  get := templates
  set t s := { s with templates := t }

def cacheAccess : CacheAccess Desk where
  cache := { get := cache, set := fun c s => { s with cache := c } }
  clock s := (s.time, { s with time := s.time + 1 })

/-- A directory that knows one person. -/
def people : Directory Unit Desk where
  create s := (.ok (), s)
  connect _ s := (.ok (), s)
  search _ filter _ s :=
    (.ok (if filter = "(uid=jdoe)" then [⟨"uid=jdoe", [("cn", [.text "Jane Doe"])]⟩] else []), s)
  isValid _ s := (true, s)
  close _ s := s

def peopleSearch : DirectorySearch Unit Desk where
  settings := { plugin := { id := "ldap" } }
  templates := templatesPart
  directory := people
  connections := { get := connections, set := fun c s => { s with connections := c } }
  clock := cacheAccess.clock
  emptyIsError := true
  cache := some cacheAccess

/-- The desk with the template of the connector, and with room for one result and one
connection. -/
def opened : Desk where
  templates := (Inquiry.registerTemplate peopleSearch.settings .whole
    "(uid=\x7b\x7brequestContext.principalName\x7d\x7d)" .empty).2
  cache := .empty { capacity := 1 }
  connections := .pooled ⟨{ maxSize := 1 }, [], 1⟩
  time := 0

/-- Nobody changes the templates, and the connection is free. -/
def Attended (s : Desk) : Prop :=
  s.templates = opened.templates ∧
    ∃ idle, s.connections = .pooled ⟨{ maxSize := 1 }, idle, 1⟩

def callFor (principal : String) : Request × Memo := ({ principalName := some principal }, .empty)

def janeTwice : List (Request × Memo) := [callFor "jdoe", callFor "jdoe"]

/-- The desk after Jane was asked for twice. -/
def afterJane : Desk := (peopleSearch.inquiry.resolveAll janeTwice opened).2

theorem cacheAccess_apart : cacheAccess.Apart Attended where
  clock _ hs := hs
  cache_clock _ _ := rfl
  set _ _ hs := hs

theorem peopleSearch_fixed : peopleSearch.Fixed cacheAccess Attended opened.templates
    fun filter => .ok
      (if filter = "(uid=jdoe)" then [⟨"uid=jdoe", [("cn", [.text "Jane Doe"])]⟩] else []) where
  cached := rfl
  templates _ hs := hs.1
  search := by
    rintro filter ⟨templates, cache, connections, time⟩ ⟨htemplates, idle, rfl⟩
    cases idle with
    | nil => exact ⟨rfl, ⟨htemplates, _, rfl⟩, rfl⟩
    | cons i idle => exact ⟨rfl, ⟨htemplates, _, rfl⟩, rfl⟩

end Desk

/-! ## With a cache and without -/

namespace Inquiry

variable {q : Inquiry σ}

open Desk

/-- A connector with a cache of its own answers as it does without one, and it keeps nothing when
it fails. -/
theorem resolveAll_cached (h : FromSource c usual t q answers) (hapart : c.Apart usual) {s : σ}
    (hs : usual s) (hempty : c.entries s = []) (calls : List (Request × Memo)) :
    (q.resolveAll calls s).1 = (q.uncached.resolveAll calls s).1 ∧
      ∀ (call : Request × Memo) (e : ResolutionError) (s' : σ),
        q.resolve call.1 call.2 (q.resolveAll calls s).2 = (.error e, s') →
          c.entries s' = c.entries (q.resolveAll calls s).2 := by
  have hfaithful : c.Faithful answers s := by
    intro f hf
    rw [hempty] at hf
    exact absurd hf List.not_mem_nil
  obtain ⟨hresults, husual⟩ := h.toAnswers.resolveAll_of_faithful hapart calls hs hfaithful
  constructor
  · rw [hresults, h.toAnswers.resolveAll_uncached calls hs]
  · intro call e s' hcall
    have hfailed := (h.toAnswers.answered hapart call husual).failed
    rw [hcall] at hfailed
    exact hfailed e rfl

/-- Jane is found in the cache the second time; then somebody is asked for who is not there, and
what is kept of Jane stays. -/
theorem resolveAll_cached_people :
    afterJane.cache.hits = 1 ∧
      (peopleSearch.inquiry.resolveAll janeTwice opened).1 =
        (peopleSearch.inquiry.uncached.resolveAll janeTwice opened).1 ∧
      ∃ e s', peopleSearch.inquiry.resolve (callFor "rroe").1 (callFor "rroe").2 afterJane =
          (.error e, s') ∧ cacheAccess.entries s' = cacheAccess.entries afterJane := by
  have hattended : Attended opened := ⟨rfl, [], rfl⟩
  obtain ⟨hresults, hfailed⟩ := resolveAll_cached (.directory peopleSearch_fixed) cacheAccess_apart
    hattended rfl janeTwice
  have hhits : afterJane.cache.hits = 1 := by decide +kernel
  have hnobody : (peopleSearch.inquiry.resolve (callFor "rroe").1 (callFor "rroe").2
      afterJane).1.isOk = false := by decide +kernel
  refine ⟨hhits, hresults, ?_⟩
  rcases hcall : peopleSearch.inquiry.resolve (callFor "rroe").1 (callFor "rroe").2 afterJane with
    ⟨result, s'⟩
  rw [hcall] at hnobody
  cases result with
  | error e => exact ⟨e, s', rfl, hfailed _ _ _ hcall⟩
  | ok m => cases hnobody

end Inquiry

end AttributeRelease
