import AttributeRelease.Proofs.Cache.History
import Mathlib.Data.Set.Function

/-!
# Digests in place of statements

A cache can know results by digests of their statements.  As long as no two of the statements that
it has to do with have one digest, it does what a cache does that knows them by the statements
themselves.
-/

namespace AttributeRelease.Cache

variable {κ κ' : Type} {f : κ → κ'} {known : Set κ}

/-- An entry with another key. -/
def Entry.rekey (f : κ → κ') (e : Entry κ) : Entry κ' := ⟨f e.key, e.result, e.putAt⟩

/-- A cache with other keys. -/
def rekey (f : κ → κ') (c : Cache κ) : Cache κ' :=
  ⟨c.settings, c.entries.map (Entry.rekey f), c.hits, c.misses, c.expirations⟩

def Operation.rekey (f : κ → κ') : Operation κ → Operation κ'
  | get key => get (f key)
  | put key result => put (f key) result
  | clear => clear

def Event.rekey (f : κ → κ') (e : Event κ) : Event κ' := ⟨e.time, e.operation.rekey f⟩

def Operation.key? : Operation κ → Option κ
  | get key => some key
  | put key _ => some key
  | clear => none

/-- The keys that a history is about. -/
def mentioned (history : List (Event κ)) : Set κ :=
  {key | ∃ e ∈ history, e.operation.key? = some key}

/-! ## Entries -/

theorem oldest?_rekey (entries : List (Entry κ)) :
    oldest? (entries.map (Entry.rekey f)) = (oldest? entries).map (Entry.rekey f) := by
  induction entries with
  | nil => rfl
  | cons e rest ih =>
      rw [List.map_cons, oldest?, oldest?, ih]
      cases oldest? rest with
      | none => rfl
      | some g =>
          dsimp only [Option.map]
          change (if e.putAt ≤ g.putAt then _ else _) = _
          split <;> rfl

theorem fresh_rekey (settings : CacheSettings) (now : Nat) (entries : List (Entry κ)) :
    fresh settings now (entries.map (Entry.rekey f)) =
      (fresh settings now entries).map (Entry.rekey f) := List.filter_map

theorem displaced?_rekey (settings : CacheSettings) (now : Nat) (entries : List (Entry κ)) :
    displaced? settings now (entries.map (Entry.rekey f)) =
      (displaced? settings now entries).map (Entry.rekey f) := by
  rw [displaced?, displaced?, fresh_rekey, List.length_map, oldest?_rekey]
  split <;> rfl

/-- All keys of a list of entries are among the known ones. -/
def Within (known : Set κ) (entries : List (Entry κ)) : Prop := ∀ e ∈ entries, e.key ∈ known

variable [DecidableEq κ] [DecidableEq κ']

theorem find?_rekey (hf : known.InjOn f) {entries : List (Entry κ)}
    (hentries : Within known entries) {key : κ} (hkey : key ∈ known) :
    (entries.map (Entry.rekey f)).find? (fun e => e.key == f key) =
      (entries.find? fun e => e.key == key).map (Entry.rekey f) := by
  induction entries with
  | nil => rfl
  | cons e rest ih =>
      obtain ⟨he, hrest⟩ := List.forall_mem_cons.mp hentries
      have htest : ((e.rekey f).key == f key) = (e.key == key) := by
        rw [Bool.beq_eq_decide_eq, Bool.beq_eq_decide_eq]
        exact decide_eq_decide.mpr (hf.eq_iff he hkey)
      rw [List.map_cons, List.find?_cons, List.find?_cons, htest, ih hrest]
      cases e.key == key <;> rfl

theorem store_rekey (hf : known.InjOn f) {entries : List (Entry κ)}
    (hentries : Within known entries) {e : Entry κ} (he : e.key ∈ known) :
    store (e.rekey f) (entries.map (Entry.rekey f)) = (store e entries).map (Entry.rekey f) := by
  induction entries with
  | nil => rfl
  | cons g rest ih =>
      obtain ⟨hg, hrest⟩ := List.forall_mem_cons.mp hentries
      have htest : (g.rekey f).key = (e.rekey f).key ↔ g.key = e.key := hf.eq_iff hg he
      rw [List.map_cons, store, store, ih hrest]
      by_cases hsame : g.key = e.key
      · rw [if_pos hsame, if_pos (htest.mpr hsame), List.map_cons]
      · rw [if_neg hsame, if_neg (fun h => hsame (htest.mp h)), List.map_cons]

theorem evict_rekey (hf : known.InjOn f) (settings : CacheSettings) (now : Nat)
    {entries : List (Entry κ)} (hentries : Within known entries) :
    evict settings now (entries.map (Entry.rekey f)) =
      (evict settings now entries).map (Entry.rekey f) := by
  rw [evict_eq, evict_eq, fresh_rekey, displaced?_rekey, List.filter_map]
  congr 1
  refine List.filter_congr fun g hg => ?_
  have hg := hentries g (mem_fresh.mp hg).1
  cases hdisplaced : displaced? settings now entries with
  | none => rfl
  | some e =>
      have he := hentries e (displaced?_mem hdisplaced)
      exact decide_eq_decide.mpr (not_congr (hf.eq_iff hg he))

/-! ## Caches -/

theorem within_perform {c : Cache κ} (h : Within known c.entries) {e : Event κ}
    (he : ∀ key, e.operation.key? = some key → key ∈ known) :
    Within known (c.perform e).entries := by
  intro g hg
  rcases mem_of_mem_perform hg with rfl | hold
  · exact he g.key rfl
  · exact h g hold

theorem get_rekey (hf : known.InjOn f) {c : Cache κ} (hc : Within known c.entries) (now : Nat)
    {key : κ} (hkey : key ∈ known) :
    (c.rekey f).get now (f key) = ((c.get now key).1, (c.get now key).2.rekey f) := by
  have hfind : (c.rekey f).find? (f key) = (c.find? key).map (Entry.rekey f) :=
    find?_rekey hf hc hkey
  rw [get, get, hfind]
  cases c.find? key with
  | none => rfl
  | some e =>
      change (if e.expired c.settings.ttl now then _ else _) = _
      dsimp only
      split <;> rfl

theorem put_rekey (hf : known.InjOn f) {c : Cache κ} (hc : Within known c.entries) (now : Nat)
    {key : κ} (hkey : key ∈ known) (result : AttributeMap) :
    (c.rekey f).put now (f key) result = (c.put now key result).rekey f := by
  have hfind : (c.rekey f).find? (f key) = (c.find? key).map (Entry.rekey f) :=
    find?_rekey hf hc hkey
  have hevict := evict_rekey hf c.settings now hc
  have hleft : Within known (evict c.settings now c.entries) :=
    fun e he => hc e ((evict_sublist _ _ _).subset he)
  have hstore {entries : List (Entry κ)} (hentries : Within known entries) :
      store ⟨f key, result, now⟩ (entries.map (Entry.rekey f)) =
        (store ⟨key, result, now⟩ entries).map (Entry.rekey f) :=
    store_rekey hf hentries (e := ⟨key, result, now⟩) hkey
  have hlength : (c.entries.map (Entry.rekey f)).length = c.entries.length := List.length_map _
  rw [put, put, hfind, Option.isNone_map]
  simp only [rekey, hlength, hevict]
  split
  · rfl
  · split
    · rw [hstore hleft]
    · rw [hstore hc]

theorem perform_rekey (hf : known.InjOn f) {c : Cache κ} (hc : Within known c.entries)
    {e : Event κ} (he : ∀ key, e.operation.key? = some key → key ∈ known) :
    (c.rekey f).perform (e.rekey f) = (c.perform e).rekey f := by
  obtain ⟨now, operation⟩ := e
  cases operation with
  | get key => exact congrArg Prod.snd (get_rekey hf hc now (he key rfl))
  | put key result => exact put_rekey hf hc now (he key rfl) result
  | clear => rfl

/-- Caches with one history do the same under keys of either kind. -/
theorem run_rekey (settings : CacheSettings) {history : List (Event κ)}
    (hf : known.InjOn f) (h : mentioned history ⊆ known) :
    Within known ((empty settings).run history).entries ∧
      (empty settings).run (history.map (Event.rekey f)) =
        ((empty settings).run history).rekey f := by
  induction history using List.reverseRecOn with
  | nil => exact ⟨List.forall_mem_nil _, rfl⟩
  | append_singleton history e ih =>
      have hbefore : mentioned history ⊆ known := by
        rintro key ⟨g, hg, hkey⟩
        exact h ⟨g, List.mem_append_left _ hg, hkey⟩
      have he : ∀ key, e.operation.key? = some key → key ∈ known := fun key hkey =>
        h ⟨e, List.mem_append_right _ List.mem_cons_self, hkey⟩
      obtain ⟨hwithin, hrun⟩ := ih hbefore
      rw [List.map_append, List.map_singleton, run_concat, run_concat, hrun]
      exact ⟨within_perform hwithin he, perform_rekey hf hwithin he⟩

/-- Unless two statements of a history, or one of them and the one that is asked for, have one
digest, a cache that knows them by their digests answers and counts as one that knows them by
themselves. -/
theorem get_digest (settings : CacheSettings) (history : List (Event String)) (now : Nat)
    (statement : String) (h : (insert statement (mentioned history)).InjOn digest) :
    ((empty settings).run (history.map (Event.rekey digest))).get now (digest statement) =
      ((((empty settings).run history).get now statement).1,
        (((empty settings).run history).get now statement).2.rekey digest) := by
  obtain ⟨hwithin, hrun⟩ := run_rekey settings h (Set.subset_insert statement _)
  rw [hrun]
  exact get_rekey h hwithin now (Set.mem_insert statement _)

end AttributeRelease.Cache
