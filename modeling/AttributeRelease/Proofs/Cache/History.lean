import AttributeRelease.Proofs.Cache.Entries
import Mathlib.Data.List.Induction
import Mathlib.Data.List.Pairwise

/-!
# Histories of caches

A cache is put to use by one operation after the other.  What it holds in the end is told by its
history: a key has the entry that was put last, unless the cache was cleared after it or the
entry was evicted.
-/

namespace AttributeRelease.Cache

variable {κ : Type}

/-- What is done with a cache. -/
inductive Operation (κ : Type)
  | get (key : κ)
  | put (key : κ) (result : AttributeMap)
  | clear

/-- Something that is done with a cache, and when. -/
structure Event (κ : Type) where
  time : Nat
  operation : Operation κ

namespace Event

def isGet (e : Event κ) : Bool :=
  match e.operation with
  | .get _ => true
  | _ => false

def isPut (e : Event κ) : Bool :=
  match e.operation with
  | .put _ _ => true
  | _ => false

def isClear (e : Event κ) : Bool :=
  match e.operation with
  | .clear => true
  | _ => false

end Event

/-- A history by a clock that never goes back, and that goes on between puts. -/
def InOrder (history : List (Event κ)) : Prop :=
  history.Pairwise fun e f => e.time ≤ f.time ∧ (e.isPut = true → f.isPut = true → e.time < f.time)

instance (history : List (Event κ)) : Decidable (InOrder history) :=
  inferInstanceAs (Decidable (List.Pairwise _ _))

/-- The event in which an entry was put. -/
def Entry.event (f : Entry κ) : Event κ := ⟨f.putAt, .put f.key f.result⟩

/-- An entry is what was put last for its key since the cache was cleared; `before` and `after` are
what happened before and after the put. -/
structure LatestPut (history : List (Event κ)) (f : Entry κ) (before after : List (Event κ)) :
    Prop where
  split : history = before ++ f.event :: after
  uncleared : ∀ e ∈ after, e.operation ≠ .clear
  unreplaced : ∀ e ∈ after, ∀ result, e.operation ≠ .put f.key result

theorem Entry.event_injective : Function.Injective (Entry.event : Entry κ → Event κ) := by
  rintro ⟨key, result, putAt⟩ ⟨key', result', putAt'⟩ h
  simp only [Entry.event, Event.mk.injEq, Operation.put.injEq] at h
  obtain ⟨rfl, rfl, rfl⟩ := h
  rfl

theorem latestPut_concat_iff {history : List (Event κ)} {e : Event κ} {f : Entry κ}
    {before after : List (Event κ)} :
    LatestPut (history ++ [e]) f before after ↔
      (e = f.event ∧ before = history ∧ after = []) ∨
        ∃ earlier, after = earlier ++ [e] ∧ LatestPut history f before earlier ∧
          e.operation ≠ .clear ∧ ∀ result, e.operation ≠ .put f.key result := by
  constructor
  · intro h
    rcases List.eq_nil_or_concat' after with rfl | ⟨earlier, last, rfl⟩
    · obtain ⟨rfl, hlast⟩ := List.append_inj' h.split rfl
      exact .inl ⟨List.singleton_inj.mp hlast, rfl, rfl⟩
    · have hsplit := h.split
      rw [← List.cons_append, ← List.append_assoc] at hsplit
      obtain ⟨hhistory, hlast⟩ := List.append_inj' hsplit rfl
      obtain rfl := List.singleton_inj.mp hlast
      have hmem : e ∈ earlier ++ [e] := List.mem_append_right _ List.mem_cons_self
      refine .inr ⟨earlier, rfl, ⟨hhistory, ?_, ?_⟩, h.uncleared e hmem, h.unreplaced e hmem⟩
      · intro e' he'
        exact h.uncleared e' (List.mem_append_left _ he')
      · intro e' he'
        exact h.unreplaced e' (List.mem_append_left _ he')
  · rintro (⟨rfl, rfl, rfl⟩ | ⟨earlier, rfl, h, hclear, hput⟩)
    · exact ⟨rfl, by simp, by simp⟩
    · refine ⟨?_, ?_, ?_⟩
      · rw [h.split, List.append_assoc, List.cons_append]
      · intro e' he'
        rcases List.mem_append.mp he' with he' | he'
        · exact h.uncleared e' he'
        · rwa [List.mem_singleton.mp he']
      · intro e' he'
        rcases List.mem_append.mp he' with he' | he'
        · exact h.unreplaced e' he'
        · rwa [List.mem_singleton.mp he']

/-- A cache keeps one entry for a key at most, and no more than it has room for. -/
structure Orderly (c : Cache κ) : Prop where
  distinct : (keys c.entries).Nodup
  bounded : c.entries.length ≤ c.settings.capacity

theorem Orderly.empty (settings : CacheSettings) : (empty settings : Cache κ).Orderly :=
  ⟨List.nodup_nil, Nat.zero_le _⟩

theorem Orderly.entries_eq_nil {c : Cache κ} (h : c.Orderly)
    (hcapacity : c.settings.capacity = 0) : c.entries = [] := by
  have hbounded := h.bounded
  rw [hcapacity] at hbounded
  exact List.length_eq_zero_iff.mp (Nat.eq_zero_of_le_zero hbounded)

/-! ## One event -/

variable [DecidableEq κ]

/-- What an event makes of a cache. -/
def perform (c : Cache κ) (e : Event κ) : Cache κ :=
  match e.operation with
  | .get key => (c.get e.time key).2
  | .put key result => c.put e.time key result
  | .clear => c.clear

/-- What a history makes of a cache. -/
def run (c : Cache κ) (history : List (Event κ)) : Cache κ := history.foldl perform c

/-- An event takes an entry out of a cache, which it does not clear, and leaves none for the key. -/
structure Evicted (c : Cache κ) (e : Event κ) (f : Entry κ) : Prop where
  stored : f ∈ c.entries
  uncleared : e.operation ≠ .clear
  gone : (c.perform e).find? f.key = none

/-- None of the events after a put takes its entry out. -/
def Spared (settings : CacheSettings) (f : Entry κ) (before after : List (Event κ)) : Prop :=
  ∀ between e rest, after = between ++ e :: rest →
    ¬ ((empty settings).run (before ++ f.event :: between)).Evicted e f

theorem run_concat (c : Cache κ) (history : List (Event κ)) (e : Event κ) :
    c.run (history ++ [e]) = (c.run history).perform e := by
  simp [run]

theorem settings_perform (c : Cache κ) (e : Event κ) : (c.perform e).settings = c.settings := by
  rw [perform]
  cases e.operation with
  | get key => exact settings_get c e.time key
  | put key result => exact settings_put c e.time key result
  | clear => rfl

theorem settings_run (c : Cache κ) (history : List (Event κ)) :
    (c.run history).settings = c.settings := by
  induction history using List.reverseRecOn with
  | nil => rfl
  | append_singleton history e ih => rw [run_concat, settings_perform, ih]

/-- No entry comes in but the one that is put. -/
theorem mem_of_mem_perform {c : Cache κ} {e : Event κ} {f : Entry κ}
    (hf : f ∈ (c.perform e).entries) : e = f.event ∨ f ∈ c.entries := by
  rw [perform] at hf
  obtain ⟨time, operation⟩ := e
  cases operation with
  | get key => exact .inr (entries_get c time key ▸ hf)
  | put key result =>
      rcases mem_of_mem_put hf with rfl | hold
      · exact .inl rfl
      · exact .inr hold
  | clear => cases hf

namespace Orderly

variable {c : Cache κ}

theorem put (h : c.Orderly) (now : Nat) (key : κ) (result : AttributeMap) :
    (c.put now key result).Orderly := by
  have hsettings := settings_put c now key result
  by_cases hcapacity : c.settings.capacity = 0
  · rwa [Cache.put, if_pos hcapacity]
  by_cases hfull : c.IsFullFor key
  · have hentries := entries_put_of_full hcapacity now hfull result
    refine ⟨?_, ?_⟩
    · rw [hentries]
      exact nodup_store (nodup_evict h.distinct _ _) _
    · rw [hentries, hsettings]
      have hroom := length_evict_lt hcapacity now h.bounded
      have hone := length_store_le ⟨key, result, now⟩ (evict c.settings now c.entries)
      omega
  · have hentries := entries_put_of_not_full hcapacity now hfull result
    refine ⟨?_, ?_⟩
    · rw [hentries]
      exact nodup_store h.distinct _
    · rw [hentries, hsettings, length_store]
      split
      · exact h.bounded
      · rename_i hnew
        have hroom : ¬ c.settings.capacity ≤ c.entries.length := fun hle => hfull ⟨hnew, hle⟩
        omega

theorem perform (h : c.Orderly) (e : Event κ) : (c.perform e).Orderly := by
  rw [Cache.perform]
  cases e.operation with
  | get key =>
      refine ⟨?_, ?_⟩
      · rw [entries_get]
        exact h.distinct
      · rw [entries_get, settings_get]
        exact h.bounded
  | put key result => exact h.put _ _ _
  | clear => exact .empty _

theorem run (settings : CacheSettings) (history : List (Event κ)) :
    ((Cache.empty settings).run history).Orderly := by
  induction history using List.reverseRecOn with
  | nil => exact .empty settings
  | append_singleton history e ih =>
      rw [run_concat]
      exact ih.perform e

/-- The answer to a key is the result of its entry, while that lasts. -/
theorem get_eq_some_iff (h : c.Orderly) {now : Nat} {key : κ} {result : AttributeMap} :
    (c.get now key).1 = some result ↔
      ∃ f ∈ c.entries, f.key = key ∧ f.result = result ∧
        f.expired c.settings.ttl now = false := by
  rw [get]
  cases hfind : c.find? key with
  | none =>
      have hnone := find?_eq_none_iff.mp hfind
      simp only [reduceCtorEq, false_iff]
      rintro ⟨f, hf, hkey, -⟩
      exact hnone (mem_keys.mpr ⟨f, hf, hkey⟩)
  | some g =>
      obtain ⟨hg, hkey⟩ := (find?_eq_some_iff h.distinct).mp hfind
      have hunique : ∀ f ∈ c.entries, f.key = key → f = g := fun f hf hsame =>
        eq_of_key_eq h.distinct hf hg (hsame.trans hkey.symm)
      dsimp only
      split
      · rename_i hexpired
        simp only [reduceCtorEq, false_iff]
        rintro ⟨f, hf, hsame, -, hfresh⟩
        rw [hunique f hf hsame, hexpired] at hfresh
        cases hfresh
      · rename_i hfresh
        rw [Option.some.injEq]
        constructor
        · rintro rfl
          exact ⟨g, hg, hkey, rfl, by simpa using hfresh⟩
        · rintro ⟨f, hf, hsame, rfl, -⟩
          rw [hunique f hf hsame]

/-- After an event there are the entries from before it and the one that it puts. -/
theorem mem_perform_iff (h : c.Orderly) {e : Event κ} {f : Entry κ} :
    f ∈ (c.perform e).entries ↔
      (c.settings.capacity ≠ 0 ∧ e = f.event) ∨
        (f ∈ c.entries ∧ e.operation ≠ .clear ∧
          (∀ result, e.operation ≠ .put f.key result) ∧ ¬ c.Evicted e f) := by
  have hafter := h.perform e
  constructor
  · intro hf
    by_cases hcapacity : c.settings.capacity = 0
    · have hnil := hafter.entries_eq_nil (by rw [settings_perform, hcapacity])
      rw [hnil] at hf
      cases hf
    by_cases hnew : e = f.event
    · exact .inl ⟨hcapacity, hnew⟩
    refine .inr ⟨(mem_of_mem_perform hf).resolve_left hnew, ?_, ?_, ?_⟩
    · intro hclear
      rw [Cache.perform, hclear] at hf
      cases hf
    · intro result hput
      obtain ⟨time, operation⟩ := e
      change operation = _ at hput
      subst hput
      have hput := mem_put_self c time f.key result hcapacity
      have hsame := eq_of_key_eq hafter.distinct hput hf rfl
      exact hnew (congrArg Entry.event hsame)
    · intro hevicted
      exact find?_eq_none_iff.mp hevicted.gone (mem_keys.mpr ⟨f, hf, rfl⟩)
  · rintro (⟨hcapacity, rfl⟩ | ⟨hf, hclear, hput, hevicted⟩)
    · exact mem_put_self c f.putAt f.key f.result hcapacity
    · cases hfind : (c.perform e).find? f.key with
      | none => exact absurd ⟨hf, hclear, hfind⟩ hevicted
      | some g =>
          obtain ⟨hg, hsame⟩ := (find?_eq_some_iff hafter.distinct).mp hfind
          rcases mem_of_mem_perform hg with rfl | hold
          · exact absurd (by rw [← hsame]; rfl) (hput g.result)
          · rwa [eq_of_key_eq h.distinct hf hold hsame.symm]

end Orderly

/-! ## Histories -/

theorem spared_concat_iff {settings : CacheSettings} {f : Entry κ} {before after : List (Event κ)}
    {e : Event κ} :
    Spared settings f before (after ++ [e]) ↔ Spared settings f before after ∧
      ¬ ((empty settings).run (before ++ f.event :: after)).Evicted e f := by
  constructor
  · intro h
    refine ⟨?_, h after e [] rfl⟩
    rintro between e' rest rfl
    exact h between e' (rest ++ [e]) (by simp)
  · rintro ⟨hspared, hlast⟩ between e' rest hsplit
    rcases List.eq_nil_or_concat' rest with rfl | ⟨rest, last, rfl⟩
    · obtain ⟨rfl, he⟩ := List.append_inj' hsplit rfl
      rwa [← List.singleton_inj.mp he]
    · rw [← List.cons_append, ← List.append_assoc] at hsplit
      obtain ⟨hafter, -⟩ := List.append_inj' hsplit rfl
      exact hspared between e' rest hafter

/-- A cache holds the entries that were put last for their keys and not evicted since. -/
theorem mem_run_iff {settings : CacheSettings} {history : List (Event κ)} {f : Entry κ} :
    f ∈ ((empty settings).run history).entries ↔ settings.capacity ≠ 0 ∧
      ∃ before after, LatestPut history f before after ∧ Spared settings f before after := by
  induction history using List.reverseRecOn with
  | nil =>
      constructor
      · intro hf
        cases hf
      · rintro ⟨-, before, after, hlatest, -⟩
        simpa using hlatest.split
  | append_singleton history e ih =>
      rw [run_concat, (Orderly.run settings history).mem_perform_iff, settings_run, ih]
      constructor
      · rintro (⟨hcapacity, rfl⟩ |
          ⟨⟨hcapacity, before, after, hlatest, hspared⟩, hclear, hput, hstays⟩)
        · refine ⟨hcapacity, history, [], latestPut_concat_iff.mpr (.inl ⟨rfl, rfl, rfl⟩), ?_⟩
          intro between e rest hsplit
          simp at hsplit
        · refine ⟨hcapacity, before, after ++ [e], ?_, ?_⟩
          · exact latestPut_concat_iff.mpr (.inr ⟨after, rfl, hlatest, hclear, hput⟩)
          · rw [spared_concat_iff, ← hlatest.split]
            exact ⟨hspared, hstays⟩
      · rintro ⟨hcapacity, before, after, hlatest, hspared⟩
        rcases latestPut_concat_iff.mp hlatest with ⟨rfl, -, -⟩ | ⟨earlier, rfl, h, hclear, hput⟩
        · exact .inl ⟨hcapacity, rfl⟩
        · rw [spared_concat_iff, ← h.split] at hspared
          exact .inr ⟨⟨hcapacity, before, earlier, h, hspared.1⟩, hclear, hput, hspared.2⟩

/-- No two entries were put at one time. -/
theorem putAt_ne {settings : CacheSettings} {history : List (Event κ)} (h : InOrder history)
    {f g : Entry κ} (hf : f ∈ ((empty settings).run history).entries)
    (hg : g ∈ ((empty settings).run history).entries) (hne : f ≠ g) : f.putAt ≠ g.putAt := by
  have hmem : ∀ f ∈ ((empty settings).run history).entries, f.event ∈ history := by
    intro f hf
    obtain ⟨-, before, after, hlatest, -⟩ := mem_run_iff.mp hf
    rw [hlatest.split]
    simp
  have hapart : history.Pairwise fun e f => e.isPut = true → f.isPut = true → e.time ≠ f.time :=
    h.imp fun hlater he hf => Nat.ne_of_lt (hlater.2 he hf)
  have hsymm : Std.Symm fun e f : Event κ => e.isPut = true → f.isPut = true → e.time ≠ f.time :=
    ⟨fun _ _ hef hf he => (hef he hf).symm⟩
  exact hapart.forall (hmem f hf) (hmem g hg) (fun hsame => hne (Entry.event_injective hsame))
    rfl rfl

end AttributeRelease.Cache
