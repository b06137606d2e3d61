import AttributeRelease.Proofs.Cache.History
import Mathlib.Data.List.DropRight

/-!
# Evictions from caches

Entries are evicted only when a new key comes to a full cache: those that have expired, or, if
they are none, the one that was put first.  With what a history says about the other entries, this
makes a cache a queue of bounded length, whose entries can be renewed and last for a time.
-/

namespace AttributeRelease.Cache

variable {κ : Type}

/-- What was done with a cache since it was cleared last. -/
def sinceClear (history : List (Event κ)) : List (Event κ) := history.rtakeWhile fun e => !e.isClear

theorem sinceClear_concat (history : List (Event κ)) (e : Event κ) :
    sinceClear (history ++ [e]) =
      if e.isClear = true then [] else sinceClear history ++ [e] := by
  rw [sinceClear, List.rtakeWhile_concat]
  cases e.isClear <;> rfl

/-- Why an entry goes when room is made: it has expired, or what has not expired still fills the
cache, and of that it was put first. -/
def Outlived (c : Cache κ) (now : Nat) (f : Entry κ) : Prop :=
  f.expired c.settings.ttl now = true ∨
    c.settings.capacity ≤ (fresh c.settings now c.entries).length ∧
      ∀ g ∈ fresh c.settings now c.entries, g ≠ f → f.putAt < g.putAt

namespace Orderly

variable {c : Cache κ}

theorem capacity_ne_zero (h : c.Orderly) {f : Entry κ} (hf : f ∈ c.entries) :
    c.settings.capacity ≠ 0 := by
  intro hcapacity
  rw [h.entries_eq_nil hcapacity] at hf
  cases hf

theorem displaced_iff
    (hapart : ∀ f ∈ c.entries, ∀ g ∈ c.entries, f ≠ g → f.putAt ≠ g.putAt) {now : Nat}
    {f : Entry κ}
    (hf : f ∈ fresh c.settings now c.entries) :
    displaced? c.settings now c.entries = some f ↔
      c.settings.capacity ≤ (fresh c.settings now c.entries).length ∧
        ∀ g ∈ fresh c.settings now c.entries, g ≠ f → f.putAt < g.putAt := by
  rw [displaced?]
  split
  · rename_i hroom
    simp only [reduceCtorEq, false_iff]
    rintro ⟨hfull, -⟩
    omega
  · rename_i hfull
    constructor
    · intro holdest
      refine ⟨Nat.le_of_not_lt hfull, ?_⟩
      intro g hg hne
      have hle := (oldest?_spec holdest).2 g hg
      have hputAt := hapart g (mem_fresh.mp hg).1 f (mem_fresh.mp hf).1 hne
      omega
    · rintro ⟨-, hfirst⟩
      cases holdest : oldest? (fresh c.settings now c.entries) with
      | none =>
          rw [oldest?_eq_none_iff.mp holdest] at hf
          cases hf
      | some e =>
          obtain ⟨he, hle⟩ := oldest?_spec holdest
          by_cases hsame : e = f
          · rw [hsame]
          · have hlt := hfirst e he hsame
            have hge := hle f hf
            omega

variable [DecidableEq κ]

theorem not_mem_evict_iff (h : c.Orderly)
    (hapart : ∀ f ∈ c.entries, ∀ g ∈ c.entries, f ≠ g → f.putAt ≠ g.putAt) {now : Nat}
    {f : Entry κ}
    (hf : f ∈ c.entries) : f ∉ evict c.settings now c.entries ↔ c.Outlived now f := by
  rw [evict_eq, List.mem_filter, Outlived]
  cases hexpired : f.expired c.settings.ttl now with
  | true =>
      have hgone : f ∉ fresh c.settings now c.entries := by
        rw [mem_fresh, hexpired]
        simp
      simp [hgone]
  | false =>
      have hfresh : f ∈ fresh c.settings now c.entries := mem_fresh.mpr ⟨hf, hexpired⟩
      have hgoes : displaced? c.settings now c.entries = some f ↔
          ¬ (displaced? c.settings now c.entries).all (fun e => f.key ≠ e.key) = true := by
        cases hdisplaced : displaced? c.settings now c.entries with
        | none => simp
        | some e =>
            have he : e ∈ c.entries := displaced?_mem hdisplaced
            constructor
            · intro hsame
              cases hsame
              simp
            · intro hkey
              have hkey : f.key = e.key := by simpa using hkey
              rw [eq_of_key_eq h.distinct hf he hkey]
      rw [← displaced_iff hapart hfresh, hgoes]
      simp [hfresh]

/-- An entry is evicted exactly when a key without an entry is put into a full cache, and the
entry has expired, or none has and it was put first. -/
theorem evicted_iff (h : c.Orderly)
    (hapart : ∀ f ∈ c.entries, ∀ g ∈ c.entries, f ≠ g → f.putAt ≠ g.putAt) {e : Event κ}
    {f : Entry κ} :
    c.Evicted e f ↔ f ∈ c.entries ∧
      (∃ key result, e.operation = .put key result ∧ c.find? key = none) ∧
      c.size = c.settings.capacity ∧ c.Outlived e.time f := by
  obtain ⟨now, operation⟩ := e
  constructor
  · rintro ⟨hf, hclear, hgone⟩
    have hcapacity := h.capacity_ne_zero hf
    rw [find?_eq_none_iff] at hgone
    have hmem : f.key ∈ keys c.entries := mem_keys.mpr ⟨f, hf, rfl⟩
    cases operation with
    | get key =>
        rw [Cache.perform, entries_get] at hgone
        exact absurd hmem hgone
    | put key result =>
        rw [Cache.perform] at hgone
        dsimp only at hgone
        by_cases hfull : c.IsFullFor key
        · rw [entries_put_of_full hcapacity _ hfull] at hgone
          have hout : f ∉ evict c.settings now c.entries := by
            intro hin
            apply hgone
            rw [keys_store]
            have hstill := mem_keys.mpr ⟨f, hin, rfl⟩
            split
            · exact hstill
            · exact List.mem_append_left _ hstill
          refine ⟨hf, ⟨key, result, rfl, find?_eq_none_iff.mpr hfull.1⟩, ?_, ?_⟩
          · exact Nat.le_antisymm h.bounded hfull.2
          · exact (h.not_mem_evict_iff hapart hf).mp hout
        · rw [entries_put_of_not_full hcapacity _ hfull, keys_store] at hgone
          split at hgone
          · exact absurd hmem hgone
          · exact absurd (List.mem_append_left _ hmem) hgone
    | clear => exact absurd rfl hclear
  · rintro ⟨hf, ⟨key, result, hput, hnew⟩, hsize, houtlived⟩
    change operation = _ at hput
    subst hput
    have hnew := find?_eq_none_iff.mp hnew
    have hfull : c.IsFullFor key := ⟨hnew, Nat.le_of_eq hsize.symm⟩
    refine ⟨hf, by simp, ?_⟩
    rw [find?_eq_none_iff, Cache.perform]
    dsimp only
    rw [entries_put_of_full (h.capacity_ne_zero hf) _ hfull]
    have hout := (h.not_mem_evict_iff hapart hf).mpr houtlived
    have hother : f.key ∉ keys (evict c.settings now c.entries) := by
      intro hin
      obtain ⟨g, hg, hsame⟩ := mem_keys.mp hin
      have hgf := eq_of_key_eq h.distinct ((evict_sublist _ _ _).subset hg) hf hsame
      exact hout (hgf ▸ hg)
    have hapart : f.key ≠ key := by
      rintro rfl
      exact hnew (mem_keys.mpr ⟨f, hf, rfl⟩)
    rw [keys_store]
    split
    · exact hother
    · simpa [hother] using hapart

end Orderly

/-! ## Counts -/

variable [DecidableEq κ]

/-- A question is a hit or a miss, and it is a miss if the result has expired. -/
theorem counts_get (c : Cache κ) (now : Nat) (key : κ) :
    (c.get now key).2.hits + (c.get now key).2.misses = c.hits + c.misses + 1 ∧
      (c.expirations ≤ c.misses →
        (c.get now key).2.expirations ≤ (c.get now key).2.misses) := by
  rw [get]
  cases c.find? key with
  | none =>
      dsimp only
      constructor <;> omega
  | some e =>
      dsimp only
      split
      · dsimp only
        constructor <;> omega
      · dsimp only
        constructor <;> omega

theorem counts_put (c : Cache κ) (now : Nat) (key : κ) (result : AttributeMap) :
    (c.put now key result).hits = c.hits ∧ (c.put now key result).misses = c.misses ∧
      (c.put now key result).expirations = c.expirations := by
  rw [put]
  split <;> exact ⟨rfl, rfl, rfl⟩

/-- Every question since the cache was cleared is counted once, and expired results are among those
that were missed. -/
theorem counts_run (settings : CacheSettings) (history : List (Event κ)) :
    ((empty settings).run history).hits + ((empty settings).run history).misses =
        (sinceClear history).countP Event.isGet ∧
      ((empty settings).run history).expirations ≤ ((empty settings).run history).misses := by
  induction history using List.reverseRecOn with
  | nil => exact ⟨rfl, Nat.le_refl _⟩
  | append_singleton history e ih =>
      obtain ⟨hcount, hexpired⟩ := ih
      obtain ⟨now, operation⟩ := e
      rw [run_concat, sinceClear_concat]
      cases operation with
      | get key =>
          obtain ⟨hone, hmissed⟩ := counts_get ((empty settings).run history) now key
          refine ⟨?_, hmissed hexpired⟩
          change _ = (sinceClear history ++ _).countP Event.isGet
          rw [List.countP_append, ← hcount]
          exact hone
      | put key result =>
          obtain ⟨hhits, hmisses, hexpirations⟩ :=
            counts_put ((empty settings).run history) now key result
          change (put _ now key result).hits + (put _ now key result).misses =
              (sinceClear history ++ _).countP Event.isGet ∧
            (put _ now key result).expirations ≤ (put _ now key result).misses
          rw [hhits, hmisses, hexpirations, List.countP_append, ← hcount]
          exact ⟨rfl, hexpired⟩
      | clear => exact ⟨rfl, Nat.le_refl _⟩

/-! ## Caches as queues -/

/-- What a cache does, told by its history: it never holds more than it has room for; it answers
with what was put last for a key since it was cleared, while that is not too old, unless the
entry was evicted; it evicts only when a new key is put while it is full, and then what has
expired, or else only the entry that was put first; it counts every question. -/
theorem run_bounded_queue (settings : CacheSettings) {history : List (Event κ)}
    (h : InOrder history) :
    ((empty settings).run history).size ≤ settings.capacity ∧
    (∀ now key result,
      (((empty settings).run history).get now key).1 = some result ↔
        settings.capacity ≠ 0 ∧ ∃ putAt before after,
          LatestPut history ⟨key, result, putAt⟩ before after ∧
          Spared settings ⟨key, result, putAt⟩ before after ∧
          now - putAt ≤ settings.ttl.nanos) ∧
    (∀ e f, ((empty settings).run history).Evicted e f ↔
      f ∈ ((empty settings).run history).entries ∧
      (∃ key result, e.operation = .put key result ∧
        ((empty settings).run history).find? key = none) ∧
      ((empty settings).run history).size = settings.capacity ∧
      ((empty settings).run history).Outlived e.time f) ∧
    ((empty settings).run history).hits + ((empty settings).run history).misses =
      (sinceClear history).countP Event.isGet ∧
    ((empty settings).run history).expirations ≤ ((empty settings).run history).misses := by
  have horderly := Orderly.run settings history
  have hsettings : ((empty settings).run history).settings = settings := settings_run _ _
  obtain ⟨hcount, hexpired⟩ := counts_run settings history
  refine ⟨?_, ?_, ?_, hcount, hexpired⟩
  · have hbounded := horderly.bounded
    rwa [hsettings] at hbounded
  · intro now key result
    rw [horderly.get_eq_some_iff, hsettings]
    constructor
    · rintro ⟨⟨_, _, putAt⟩, hf, rfl, rfl, hfresh⟩
      obtain ⟨hcapacity, before, after, hlatest, hspared⟩ := mem_run_iff.mp hf
      refine ⟨hcapacity, putAt, before, after, hlatest, hspared, ?_⟩
      simpa [Entry.expired] using hfresh
    · rintro ⟨hcapacity, putAt, before, after, hlatest, hspared, hage⟩
      refine ⟨⟨key, result, putAt⟩, ?_, rfl, rfl, ?_⟩
      · exact mem_run_iff.mpr ⟨hcapacity, before, after, hlatest, hspared⟩
      · simpa [Entry.expired] using hage
  · intro e f
    have hapart : ∀ f ∈ ((empty settings).run history).entries,
        ∀ g ∈ ((empty settings).run history).entries, f ≠ g → f.putAt ≠ g.putAt :=
      fun f hf g hg hne => putAt_ne h hf hg hne
    rw [horderly.evicted_iff hapart, hsettings]

/-- Two keys are put, and the first of them is asked for. -/
def filled : List (Event String) := [⟨1, .put "a" []⟩, ⟨2, .put "b" []⟩, ⟨2, .get "a"⟩]

/-- A third key takes the room of the first one, although that was used last. -/
theorem run_bounded_queue_filled :
    InOrder filled ∧
    ((empty ⟨2, 60⟩).run filled).Evicted ⟨3, .put "c" []⟩ ⟨"a", [], 1⟩ ∧
    ¬ ((empty ⟨2, 60⟩).run filled).Evicted ⟨3, .put "c" []⟩ ⟨"b", [], 2⟩ ∧
    (((empty ⟨2, 60⟩).run filled).get 60000000002 "b").1 = some [] ∧
    (((empty ⟨2, 60⟩).run filled).get 60000000003 "b").1 = none := by
  have horder : InOrder filled := by decide
  have hentries : ((empty ⟨2, 60⟩).run filled).entries = [⟨"a", [], 1⟩, ⟨"b", [], 2⟩] := rfl
  have hfresh : fresh ⟨2, 60⟩ 3 [⟨"a", [], 1⟩, ⟨"b", [], 2⟩] = [⟨"a", [], 1⟩, ⟨"b", [], 2⟩] := rfl
  have hsettings : ((empty ⟨2, 60⟩).run filled).settings = ⟨2, 60⟩ := rfl
  obtain ⟨-, hget, hevicted, -, -⟩ := run_bounded_queue ⟨2, 60⟩ horder
  refine ⟨horder, (hevicted _ _).mpr ⟨?_, ⟨"c", [], rfl, rfl⟩, rfl, .inr ⟨Nat.le_refl _, ?_⟩⟩, ?_,
    (hget _ _ _).mpr ⟨by decide, 2, [⟨1, .put "a" []⟩], [⟨2, .get "a"⟩], ?_, ?_, by decide⟩, rfl⟩
  · rw [hentries]
    exact List.mem_cons_self
  · rw [hentries, hsettings, hfresh]
    simp
  · rw [hevicted]
    rintro ⟨-, -, -, hexpired | ⟨-, hfirst⟩⟩
    · exact absurd hexpired (by decide)
    · rw [hentries, hsettings, hfresh] at hfirst
      exact absurd (hfirst ⟨"a", [], 1⟩ List.mem_cons_self (by simp)) (by decide)
  · exact ⟨rfl, by simp, by simp⟩
  · intro between e rest hsplit hgone
    cases between with
    | nil =>
        cases hsplit
        exact absurd hgone.gone (by decide)
    | cons => simp at hsplit

end AttributeRelease.Cache
