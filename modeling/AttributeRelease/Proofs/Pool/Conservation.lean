import AttributeRelease.Proofs.Pool.Traffic
import Mathlib.Data.List.Count
import Mathlib.Data.List.Nodup
import Mathlib.Data.List.Pairwise

/-!
# What a pool keeps

Whoever uses a pool, and in whatever order, each slot is left in the pool or taken by one checkout
or one connection, and each connection that was opened is in one place.  A connection that is closed
or dropped stays where it is.
-/

namespace AttributeRelease.Pool

variable {κ σ : Type} {d : Directory κ σ} {t t' : Traffic κ} {p p' : Pool κ}

/-! ## Slots -/

namespace Traffic

/-- The slots that checkouts and connections have taken, or whose connections are no longer held. -/
def slotsTaken (t : Traffic κ) : Nat :=
  t.checkouts.countP (·.slot) + t.held.countP (·.slot) + t.returning

end Traffic

/-- An element counts wherever it stands. -/
theorem countP_insert {α : Type} (q : α → Bool) (before after : List α) (a : α) :
    (before ++ a :: after).countP q = (before ++ after).countP q + (q a).toNat := by
  rw [List.perm_middle.countP_eq, List.countP_cons]
  cases q a <;> rfl

/-- A checkout without a connection leaves those that wait alone, and has no more than its slot. -/
theorem Attempt.keeps {c c' : Option Checkout} (h : Attempt d p c p' c') :
    p'.idle = p.idle ∧
      p'.slots + c'.toList.countP (·.slot) = p.slots + c.toList.countP (·.slot) := by
  cases h with
  | claim hclaim =>
      have hslots := claim_eq_slot_iff.mp hclaim
      refine ⟨rfl, ?_⟩
      change p.slots - 1 + 1 = p.slots
      omega
  | overflow => exact ⟨rfl, rfl⟩
  | refused => exact ⟨rfl, rfl⟩
  | look => exact ⟨rfl, rfl⟩
  | @unopened slot => cases slot <;> exact ⟨rfl, rfl⟩
  | @abandoned c => cases hslot : c.slot <;> simp [returnSlot, hslot]

theorem Step.slots (h : Step d t t') :
    t'.pool.slots + t'.slotsTaken = t.pool.slots + t.slotsTaken := by
  cases h with
  | attempt before after hcheckouts hattempt =>
      have hslots := hattempt.keeps.2
      simp only [Traffic.slotsTaken, hcheckouts, List.countP_append]
      omega
  | reuse before after hcheckouts =>
      simp only [Traffic.slotsTaken, hcheckouts, countP_insert, List.countP_cons, Checkout.slot,
        Bool.toNat_true, if_true]
      omega
  | @opened before after slot k s s' hcheckouts =>
      simp only [Traffic.slotsTaken, hcheckouts, countP_insert, List.countP_cons, Checkout.slot]
      cases slot
      · simp only [Bool.toNat_false, Bool.false_eq_true, if_false]
        omega
      · simp only [Bool.toNat_true, if_true]
        omega
  | checkin before after hheld hslot =>
      simp only [Traffic.slotsTaken, hheld, countP_insert, hslot, putBack, Bool.toNat_true]
      omega
  | discard before after hheld hslot =>
      simp only [Traffic.slotsTaken, hheld, countP_insert, hslot, Bool.toNat_false, Nat.add_zero]
  | drop before after hheld =>
      simp only [Traffic.slotsTaken, hheld, countP_insert]
      omega
  | release hreturning =>
      simp only [Traffic.slotsTaken, hreturning, returnSlot, Bool.toNat_true]
      omega
  | drain => rfl
  | keep => rfl
  | close => rfl
  | restore => rfl

/-! ## Places -/

/-- Where a connection can be. -/
inductive Place
  | waiting
  | held
  | validated
  | closed
  | dropped
deriving DecidableEq

def Place.all : List Place := [.waiting, .held, .validated, .closed, .dropped]

theorem Place.mem_all (place : Place) : place ∈ all := by cases place <;> decide

namespace Traffic

/-- The connections in a place. -/
def connections (t : Traffic κ) : Place → List κ
  | .waiting => t.pool.idle.map (·.connection)
  | .held => t.held.map (·.connection)
  | .validated => t.passes.flatMap fun p => (p.pending ++ p.kept).map (·.connection)
  | .closed => t.closed
  | .dropped => t.dropped

/-- The connections in all places. -/
def everywhere (t : Traffic κ) : List κ := Place.all.flatMap t.connections

end Traffic

theorem Traffic.count_everywhere [DecidableEq κ] (t : Traffic κ) (k : κ) :
    t.everywhere.count k = (t.pool.idle.map (·.connection)).count k +
      ((t.held.map (·.connection)).count k +
        ((t.passes.flatMap fun p => (p.pending ++ p.kept).map (·.connection)).count k +
          (t.closed.count k + t.dropped.count k))) := by
  simp only [everywhere, Place.all, connections, List.flatMap_cons, List.flatMap_nil,
    List.count_append, List.append_nil]

/-- A connection moves from one place to another, or it is new in all of them. -/
theorem Step.everywhere (h : Step d t t') (hperm : t.everywhere.Perm t.opened) :
    t'.everywhere.Perm t'.opened := by
  classical
  rw [List.perm_iff_count] at hperm ⊢
  intro k
  have hcount := hperm k
  rw [Traffic.count_everywhere] at hcount ⊢
  -- In each case a connection leaves one of the five lists and comes into another one, so that the
  -- sum of the five counts stays, or grows by one where `opened` does.
  cases h with
  | attempt before after hcheckouts hattempt =>
      rw [hattempt.keeps.1]
      exact hcount
  | reuse before after hcheckouts hidle =>
      rw [hidle] at hcount
      simp only [List.map_cons, List.count_cons] at hcount ⊢
      omega
  | opened before after hcheckouts =>
      simp only [List.map_cons, List.count_cons] at hcount ⊢
      omega
  | checkin before after hheld =>
      rw [hheld] at hcount
      simp only [putBack, List.map_append, List.map_cons, List.map_nil, List.count_append,
        List.count_cons, List.count_nil] at hcount ⊢
      omega
  | discard before after hheld =>
      rw [hheld] at hcount
      simp only [List.map_append, List.map_cons, List.count_append, List.count_cons] at hcount ⊢
      omega
  | drop before after hheld =>
      rw [hheld] at hcount
      simp only [List.map_append, List.map_cons, List.count_append, List.count_cons] at hcount ⊢
      omega
  | release => exact hcount
  | drain =>
      simp only [Pool.drain, List.flatMap_cons, List.map_nil, List.append_nil, List.count_append,
        List.count_nil]
      omega
  | keep before after hpasses =>
      rw [hpasses] at hcount
      simp only [List.flatMap_append, List.flatMap_cons, List.map_append, List.map_cons,
        List.map_nil, List.count_append, List.count_cons, List.count_nil] at hcount ⊢
      omega
  | close before after hpasses =>
      rw [hpasses] at hcount
      simp only [List.flatMap_append, List.flatMap_cons, List.map_append, List.map_cons,
        List.count_append, List.count_cons] at hcount ⊢
      omega
  | restore before after hpasses =>
      rw [hpasses] at hcount
      simp only [Pool.restore, List.flatMap_append, List.flatMap_cons, List.map_append,
        List.map_nil, List.nil_append, List.count_append] at hcount ⊢
      omega

theorem Step.final (h : Step d t t') : t.closed ⊆ t'.closed ∧ t.dropped ⊆ t'.dropped := by
  cases h with
  | discard | close => exact ⟨List.subset_cons_self _ _, List.Subset.refl _⟩
  | drop => exact ⟨List.Subset.refl _, List.subset_cons_self _ _⟩
  | attempt | reuse | opened | checkin | release | drain | keep | restore =>
      exact ⟨List.Subset.refl _, List.Subset.refl _⟩

/-! ## Runs -/

/-- No slot is lost or made, and every connection is somewhere. -/
structure Conserved (size : Nat) (t : Traffic κ) : Prop where
  slots : t.pool.slots + t.slotsTaken = size
  everywhere : t.everywhere.Perm t.opened

variable {size : Nat}

theorem Conserved.start {settings : PoolSettings} {now : Nat} {s s' : σ}
    (h : start d settings now s = (.ok p, s')) : Conserved settings.maxSize (.start p) := by
  rw [Pool.start] at h
  rcases hopen : openIdle d now (min settings.minSize settings.maxSize) s with ⟨_ | idle, s₁⟩
  · rw [hopen] at h
    cases h
  · rw [hopen] at h
    cases h
    refine ⟨rfl, ?_⟩
    simp [Traffic.everywhere, Place.all, Traffic.connections, Traffic.start]

theorem Conserved.run (h : Conserved size t) (hrun : Run d t t') : Conserved size t' := by
  induction hrun with
  | refl => exact h
  | tail _ hstep ih => exact ⟨hstep.slots.trans ih.slots, hstep.everywhere ih.everywhere⟩

theorem Run.final (hrun : Run d t t') : t.closed ⊆ t'.closed ∧ t.dropped ⊆ t'.dropped := by
  induction hrun with
  | refl => exact ⟨List.Subset.refl _, List.Subset.refl _⟩
  | tail _ hstep ih =>
      exact ⟨List.Subset.trans ih.1 hstep.final.1, List.Subset.trans ih.2 hstep.final.2⟩

namespace Conserved

theorem mem_opened_iff (h : Conserved size t) {k : κ} :
    k ∈ t.opened ↔ ∃ place, k ∈ t.connections place := by
  rw [← h.everywhere.mem_iff, Traffic.everywhere, List.mem_flatMap]
  constructor
  · rintro ⟨place, -, hk⟩
    exact ⟨place, hk⟩
  · rintro ⟨place, hk⟩
    exact ⟨place, place.mem_all, hk⟩

theorem nodup_connections (h : Conserved size t) (hnames : t.opened.Nodup) (place : Place) :
    (t.connections place).Nodup := by
  have hnodup := h.everywhere.nodup_iff.mpr hnames
  exact (List.nodup_flatMap.mp hnodup).1 place place.mem_all

/-- No connection is in two places. -/
theorem place_unique (h : Conserved size t) (hnames : t.opened.Nodup) {k : κ} {a b : Place}
    (ha : k ∈ t.connections a) (hb : k ∈ t.connections b) : a = b := by
  have hnodup := h.everywhere.nodup_iff.mpr hnames
  have hdisjoint := (List.nodup_flatMap.mp hnodup).2
  have : Std.Symm (Function.onFun List.Disjoint t.connections) :=
    ⟨fun _ _ hxy _ hy hx => hxy hx hy⟩
  by_contra hab
  exact hdisjoint.forall a.mem_all b.mem_all hab ha hb

theorem closed_or_dropped (h : Conserved size t) (hnames : t.opened.Nodup) {k : κ}
    (hk : k ∈ t.closed ∨ k ∈ t.dropped) {place : Place} (hplace : k ∈ t.connections place) :
    place = .closed ∨ place = .dropped := by
  rcases hk with hclosed | hdropped
  · exact .inl (h.place_unique hnames hplace (b := .closed) hclosed)
  · exact .inr (h.place_unique hnames hplace (b := .dropped) hdropped)

end Conserved

/-! ## A busy pool -/

/-- A directory whose connections are numbered; the first one is no longer valid. -/
def numbered : Directory Nat Nat where
  create n := (.ok n, n + 1)
  connect _ n := (.ok (), n)
  search _ _ _ n := (.ok [], n)
  isValid k n := (k != 0, n)
  close _ n := n

def single : PoolSettings := { minSize := 1, maxSize := 1 }

/-- A pool with its one connection. -/
def singlePool : Pool Nat := ⟨single, [⟨0, 0⟩], 1⟩

/-- While a validation pass closed that connection, somebody checked out another one. -/
def busy : Traffic Nat where
  pool := ⟨single, [], 0⟩
  checkouts := []
  held := [⟨1, true⟩]
  returning := 0
  passes := []
  closed := [0]
  dropped := []
  opened := [1, 0]

theorem run_busy : Run numbered (.start singlePool) busy := by
  apply Relation.ReflTransGen.head .drain
  apply Relation.ReflTransGen.head (.attempt [] [] (c := none) rfl (.claim rfl))
  apply Relation.ReflTransGen.head (.attempt [] [] (c := some .looking) rfl (.look rfl))
  have hinvalid : inspect numbered single.idleTime 0 ⟨0, 0⟩ 1 = (false, numbered.close 0 1) := rfl
  apply Relation.ReflTransGen.head (.close [] [] rfl hinvalid)
  apply Relation.ReflTransGen.head (.opened [] [] (s := 1) rfl rfl)
  exact .single (.restore [] [] rfl)

/-! ## Conservation -/

/-- Whatever happens to a pool, no slot is lost, and no connection is lost or in two places, or in
use again once it is closed or dropped.  A checkout that fails changes nothing: each of its steps
leaves the connections that wait alone, and takes no slot but its own. -/
theorem conservation {settings : PoolSettings} {now : Nat} {s s' : σ}
    (hstart : start d settings now s = (.ok p, s')) (hrun : Run d (.start p) t) :
    t.pool.slots + t.slotsTaken = settings.maxSize ∧
    (t.opened.Nodup →
      (∀ place, (t.connections place).Nodup) ∧
      (∀ k ∈ t.opened, ∃! place, k ∈ t.connections place) ∧
      (∀ k place, k ∈ t.connections place → k ∈ t.opened) ∧
      ∀ earlier, Run d earlier t → ∀ k, k ∈ earlier.closed ∨ k ∈ earlier.dropped →
        ∀ place, k ∈ t.connections place → place = .closed ∨ place = .dropped) ∧
    (∀ c p' c', Attempt d t.pool c p' c' → p'.idle = t.pool.idle ∧
      p'.slots + c'.toList.countP (·.slot) = t.pool.slots + c.toList.countP (·.slot)) ∧
    (∀ e p' s s', t.pool.checkout d s = (.error e, p', s') → p' = t.pool) := by
  have hconserved := (Conserved.start hstart).run hrun
  refine ⟨hconserved.slots, ?_, fun _ _ _ hattempt => hattempt.keeps,
    fun _ _ _ _ hcheckout => checkout_error hcheckout⟩
  intro hnames
  refine ⟨hconserved.nodup_connections hnames, ?_, ?_, ?_⟩
  · intro k hk
    obtain ⟨place, hplace⟩ := hconserved.mem_opened_iff.mp hk
    exact ⟨place, hplace, fun other hother => hconserved.place_unique hnames hother hplace⟩
  · intro k place hk
    exact hconserved.mem_opened_iff.mpr ⟨place, hk⟩
  · intro earlier hlater k hk place hplace
    obtain ⟨hclosed, hdropped⟩ := Run.final hlater
    exact hconserved.closed_or_dropped hnames (hk.imp (hclosed ·) (hdropped ·)) hplace

/-- The connection that the pass closed is nowhere else, and the slot is taken by the new one. -/
theorem conservation_busy :
    start numbered single 0 0 = (.ok singlePool, 1) ∧ Run numbered (.start singlePool) busy ∧
      busy.slotsTaken = 1 ∧ busy.pool.slots + busy.slotsTaken = 1 ∧
      ∃! place, 0 ∈ busy.connections place := by
  have hstart : start numbered single 0 0 = (.ok singlePool, 1) := rfl
  obtain ⟨hslots, hplaces, -⟩ := conservation hstart run_busy
  exact ⟨hstart, run_busy, rfl, hslots, (hplaces (by decide)).2.1 0 (by decide)⟩

end AttributeRelease.Pool
