import AttributeRelease.Cache.Basic
import Mathlib.Data.List.Nodup

/-!
# Entries of caches

What storing an entry does to a list of entries, which entries are left when room is made for one
more, and what follows for the questions and answers of a cache.
-/

namespace AttributeRelease.Cache

variable {κ : Type}

/-- The keys that have entries. -/
def keys (entries : List (Entry κ)) : List κ := entries.map (·.key)

theorem mem_keys {entries : List (Entry κ)} {key : κ} :
    key ∈ keys entries ↔ ∃ f ∈ entries, f.key = key := by
  simp [keys]

/-- Where no key has two entries, entries are known by their keys. -/
theorem eq_of_key_eq {entries : List (Entry κ)} (h : (keys entries).Nodup) {f g : Entry κ}
    (hf : f ∈ entries) (hg : g ∈ entries) (hsame : f.key = g.key) : f = g :=
  List.inj_on_of_nodup_map h hf hg hsame

/-! ## Ages -/

theorem oldest?_eq_none_iff {entries : List (Entry κ)} : oldest? entries = none ↔ entries = [] := by
  cases entries with
  | nil => simp [oldest?]
  | cons e rest =>
      rw [oldest?]
      cases oldest? rest with
      | none => simp
      | some f => dsimp only; split <;> simp

theorem oldest?_spec {entries : List (Entry κ)} {e : Entry κ} (h : oldest? entries = some e) :
    e ∈ entries ∧ ∀ f ∈ entries, e.putAt ≤ f.putAt := by
  induction entries generalizing e with
  | nil => simp [oldest?] at h
  | cons g rest ih =>
      rw [oldest?] at h
      cases hrest : oldest? rest with
      | none =>
          rw [hrest] at h
          cases h
          rw [oldest?_eq_none_iff.mp hrest]
          simp
      | some f =>
          rw [hrest] at h
          obtain ⟨hf, hfirst⟩ := ih hrest
          dsimp only at h
          split at h
          · rename_i hle
            cases h
            refine ⟨List.mem_cons_self, ?_⟩
            intro x hx
            rcases List.mem_cons.mp hx with rfl | hx
            · exact Nat.le_refl _
            · exact Nat.le_trans hle (hfirst x hx)
          · rename_i hlt
            cases h
            refine ⟨List.mem_cons_of_mem _ hf, ?_⟩
            intro x hx
            rcases List.mem_cons.mp hx with rfl | hx
            · omega
            · exact hfirst x hx

/-- The entries that have not expired. -/
def fresh (settings : CacheSettings) (now : Nat) (entries : List (Entry κ)) : List (Entry κ) :=
  entries.filter fun e => !e.expired settings.ttl now

theorem mem_fresh {settings : CacheSettings} {now : Nat} {entries : List (Entry κ)} {f : Entry κ} :
    f ∈ fresh settings now entries ↔ f ∈ entries ∧ f.expired settings.ttl now = false := by
  simp [fresh]

/-- The entry that has to go although it has not expired, if there is one. -/
def displaced? (settings : CacheSettings) (now : Nat) (entries : List (Entry κ)) :
    Option (Entry κ) :=
  if (fresh settings now entries).length < settings.capacity then none
  else oldest? (fresh settings now entries)

theorem displaced?_mem {settings : CacheSettings} {now : Nat} {entries : List (Entry κ)}
    {e : Entry κ} (h : displaced? settings now entries = some e) : e ∈ entries := by
  rw [displaced?] at h
  split at h
  · cases h
  · exact (mem_fresh.mp (oldest?_spec h).1).1

/-! ## Looking -/

variable [DecidableEq κ]

theorem find?_eq_none_iff {c : Cache κ} {key : κ} :
    c.find? key = none ↔ key ∉ keys c.entries := by
  rw [mem_keys]
  simp [find?]

theorem find?_eq_some_iff {c : Cache κ} (h : (keys c.entries).Nodup) {key : κ}
    {f : Entry κ} : c.find? key = some f ↔ f ∈ c.entries ∧ f.key = key := by
  constructor
  · intro hfind
    have htest := List.find?_some hfind
    exact ⟨List.mem_of_find?_eq_some hfind, by simpa using htest⟩
  · rintro ⟨hf, rfl⟩
    cases hfind : c.find? f.key with
    | none => exact absurd (mem_keys.mpr ⟨f, hf, rfl⟩) (find?_eq_none_iff.mp hfind)
    | some g =>
        have hg := List.mem_of_find?_eq_some hfind
        have hsame : g.key = f.key := by simpa using List.find?_some hfind
        rw [eq_of_key_eq h hg hf hsame]

/-! ## Storing -/

theorem keys_store (e : Entry κ) (entries : List (Entry κ)) :
    keys (store e entries) =
      if e.key ∈ keys entries then keys entries
      else keys entries ++ [e.key] := by
  induction entries with
  | nil => simp [store, keys]
  | cons g rest ih =>
      have hcons : ∀ (f : Entry κ) l, keys (f :: l) = f.key :: keys l :=
        fun _ _ => rfl
      rw [store]
      by_cases hsame : g.key = e.key
      · rw [if_pos hsame, hcons, hcons, hsame, if_pos List.mem_cons_self]
      · rw [if_neg hsame, hcons, hcons, ih]
        by_cases hmem : e.key ∈ keys rest
        · rw [if_pos hmem, if_pos (List.mem_cons_of_mem _ hmem)]
        · have hnone : e.key ∉ g.key :: keys rest := by
            rw [List.mem_cons]
            rintro (hhead | htail)
            · exact hsame hhead.symm
            · exact hmem htail
          rw [if_neg hmem, if_neg hnone, List.cons_append]

theorem nodup_store {entries : List (Entry κ)} (h : (keys entries).Nodup) (e : Entry κ) :
    (keys (store e entries)).Nodup := by
  rw [keys_store]
  split
  · exact h
  · rename_i hnew
    exact List.nodup_append.mpr ⟨h, List.nodup_singleton _, by
      intro x hx y hy hxy
      rw [List.mem_singleton.mp hy] at hxy
      exact hnew (hxy ▸ hx)⟩

theorem length_store (e : Entry κ) (entries : List (Entry κ)) :
    (store e entries).length =
      if e.key ∈ keys entries then entries.length else entries.length + 1 := by
  have hlength := congrArg List.length (keys_store e entries)
  rw [keys, List.length_map] at hlength
  rw [hlength]
  split <;> simp [keys]

/-! ## Making room -/

theorem evict_eq (settings : CacheSettings) (now : Nat) (entries : List (Entry κ)) :
    evict settings now entries = (fresh settings now entries).filter fun f =>
      (displaced? settings now entries).all fun e => f.key ≠ e.key := by
  rw [evict, displaced?, ← fresh]
  split
  · simp
  · cases oldest? (fresh settings now entries) <;> simp

theorem evict_sublist (settings : CacheSettings) (now : Nat) (entries : List (Entry κ)) :
    (evict settings now entries).Sublist entries := by
  rw [evict_eq]
  exact List.filter_sublist.trans List.filter_sublist

theorem nodup_evict {entries : List (Entry κ)} (h : (keys entries).Nodup)
    (settings : CacheSettings) (now : Nat) : (keys (evict settings now entries)).Nodup :=
  ((evict_sublist settings now entries).map _).nodup h

/-- After room was made there is some. -/
theorem length_evict_lt {settings : CacheSettings} (hcapacity : settings.capacity ≠ 0) (now : Nat)
    {entries : List (Entry κ)} (h : entries.length ≤ settings.capacity) :
    (evict settings now entries).length < settings.capacity := by
  have hfresh : (fresh settings now entries).length ≤ entries.length := List.length_filter_le _ _
  rw [evict_eq, displaced?]
  split
  · simpa using ‹(fresh settings now entries).length < settings.capacity›
  · rename_i hfull
    cases holdest : oldest? (fresh settings now entries) with
    | none =>
        rw [oldest?_eq_none_iff.mp holdest] at hfull
        simp at hfull
        omega
    | some e =>
        have hgoes : ((fresh settings now entries).filter fun f =>
            (some e).all fun e => f.key ≠ e.key).length <
              (fresh settings now entries).length := by
          apply List.length_filter_lt_length_iff_exists.mpr
          exact ⟨e, (oldest?_spec holdest).1, by simp⟩
        omega

/-! ## Questions and answers -/

theorem entries_get (c : Cache κ) (now : Nat) (key : κ) :
    (c.get now key).2.entries = c.entries := by
  rw [get]
  split
  · rfl
  · split <;> rfl

theorem settings_get (c : Cache κ) (now : Nat) (key : κ) :
    (c.get now key).2.settings = c.settings := by
  rw [get]
  split
  · rfl
  · split <;> rfl

theorem settings_put (c : Cache κ) (now : Nat) (key : κ) (result : AttributeMap) :
    (c.put now key result).settings = c.settings := by
  rw [put]
  split <;> rfl

/-- An answer is the result of an entry. -/
theorem exists_of_get_eq_some {c : Cache κ} {now : Nat} {key : κ} {result : AttributeMap}
    (h : (c.get now key).1 = some result) :
    ∃ f ∈ c.entries, f.key = key ∧ f.result = result := by
  rw [get] at h
  cases hfind : c.find? key with
  | none =>
      rw [hfind] at h
      cases h
  | some f =>
      rw [hfind] at h
      dsimp only at h
      split at h
      · cases h
      · have hsame : f.key = key := by simpa using List.find?_some hfind
        exact ⟨f, List.mem_of_find?_eq_some hfind, hsame, Option.some.inj h⟩

/-- A key comes that a cache does not have, and the cache is full. -/
def IsFullFor (c : Cache κ) (key : κ) : Prop :=
  key ∉ keys c.entries ∧ c.settings.capacity ≤ c.entries.length

theorem entries_put_of_full {c : Cache κ} (hcapacity : c.settings.capacity ≠ 0) (now : Nat)
    {key : κ} (hfull : c.IsFullFor key) (result : AttributeMap) :
    (c.put now key result).entries =
      store ⟨key, result, now⟩ (evict c.settings now c.entries) := by
  have hnone := find?_eq_none_iff.mpr hfull.1
  simp [put, hcapacity, hnone, hfull.2]

theorem entries_put_of_not_full {c : Cache κ} (hcapacity : c.settings.capacity ≠ 0) (now : Nat)
    {key : κ} (hfull : ¬ c.IsFullFor key) (result : AttributeMap) :
    (c.put now key result).entries = store ⟨key, result, now⟩ c.entries := by
  have htest : ((c.find? key).isNone &&
      decide (c.settings.capacity ≤ c.entries.length)) = false := by
    rw [Bool.and_eq_false_iff]
    by_cases hknown : key ∈ keys c.entries
    · left
      cases hfind : c.find? key with
      | none => exact absurd hknown (find?_eq_none_iff.mp hfind)
      | some f => rfl
    · right
      simpa using fun hle => hfull ⟨hknown, hle⟩
  simp [put, hcapacity, htest]

/-- No entry comes in but the one that is put. -/
theorem mem_of_mem_put {c : Cache κ} {now : Nat} {key : κ} {result : AttributeMap}
    {f : Entry κ} (hf : f ∈ (c.put now key result).entries) :
    f = ⟨key, result, now⟩ ∨ f ∈ c.entries := by
  by_cases hcapacity : c.settings.capacity = 0
  · rw [put, if_pos hcapacity] at hf
    exact .inr hf
  by_cases hfull : c.IsFullFor key
  · rw [entries_put_of_full hcapacity now hfull] at hf
    rcases mem_store hf with rfl | hold
    · exact .inl rfl
    · exact .inr ((evict_sublist _ _ _).subset hold)
  · rw [entries_put_of_not_full hcapacity now hfull] at hf
    exact mem_store hf

/-- What is put is there, if there is room for anything. -/
theorem mem_put_self (c : Cache κ) (now : Nat) (key : κ) (result : AttributeMap)
    (hcapacity : c.settings.capacity ≠ 0) :
    ⟨key, result, now⟩ ∈ (c.put now key result).entries :=
  List.mem_of_find?_eq_some (find?_put_self c now key result hcapacity)

end AttributeRelease.Cache
