import AttributeRelease.Proofs.Pool.Conservation

/-!
# How large a pool gets

A checkout opens a connection where none waits.  If that is because a validation pass has taken out
those that wait, the pool has one more than it may have: the pass puts back what it keeps, however
many have come in meanwhile.  A pool exceeds its size by no more connections than were opened in
this way, but passes can go on making it larger without end.
-/

namespace AttributeRelease.Pool

variable {κ σ : Type} {d : Directory κ σ} {t t' : Traffic κ} {p p' : Pool κ}

/-- A checkout that opens a connection within the pool's size. -/
def Checkout.opens : Checkout → Bool
  | looking => false
  | opening slot => slot

namespace Traffic

/-- The connections within the pool's size: those that wait, those that were handed out with a slot,
and those that validation passes have. -/
def pooled (t : Traffic κ) : Nat :=
  (t.connections .waiting).length + t.held.countP (·.slot) + (t.connections .validated).length

/-- The connections that will be within the pool's size once they are open. -/
def opening (t : Traffic κ) : Nat := t.checkouts.countP (·.opens)

/-- A checkout turns to opening a connection while a validation pass has some. -/
def OpensBeside (t t' : Traffic κ) : Prop :=
  t.opening < t'.opening ∧ t.connections .validated ≠ []

end Traffic

/-- Steps one after the other, a number of which open a connection beside a validation pass. -/
inductive RunBeside (d : Directory κ σ) (t : Traffic κ) : Nat → Traffic κ → Prop
  | start : RunBeside d t 0 t
  | apart {n : Nat} {t₁ t₂ : Traffic κ} (before : RunBeside d t n t₁) (step : Step d t₁ t₂)
      (apart : ¬ t₁.OpensBeside t₂) : RunBeside d t n t₂
  | beside {n : Nat} {t₁ t₂ : Traffic κ} (before : RunBeside d t n t₁) (step : Step d t₁ t₂)
      (beside : t₁.OpensBeside t₂) : RunBeside d t (n + 1) t₂

theorem RunBeside.run {n : Nat} (h : RunBeside d t n t') : Run d t t' := by
  induction h with
  | start => exact .refl
  | apart _ step _ ih => exact ih.tail step
  | beside _ step _ ih => exact ih.tail step

theorem Run.exists_runBeside (h : Run d t t') : ∃ n, RunBeside d t n t' := by
  classical
  induction h with
  | refl => exact ⟨0, .start⟩
  | @tail t₁ t₂ _ step ih =>
      obtain ⟨n, hn⟩ := ih
      by_cases hbeside : t₁.OpensBeside t₂
      · exact ⟨n + 1, .beside hn step hbeside⟩
      · exact ⟨n, .apart hn step hbeside⟩

/-! ## Bounds -/

theorem Traffic.pooled_eq (t : Traffic κ) :
    t.pooled = t.pool.idle.length + t.held.countP (·.slot) +
      (t.passes.flatMap fun p => (p.pending ++ p.kept).map (·.connection)).length := by
  rw [pooled, connections, connections, List.length_map]

/-- Whoever opens a connection within the pool's size has a slot. -/
theorem Checkout.countP_opens_le (cs : List Checkout) :
    cs.countP (·.opens) ≤ cs.countP (·.slot) := by
  refine List.countP_mono_left fun c _ hc => ?_
  cases c with
  | looking => cases hc
  | opening slot => exact hc

/-- A checkout without a connection has one to open after it looked for one in vain. -/
theorem Attempt.opens {c c' : Option Checkout} (h : Attempt d p c p' c') :
    c'.toList.countP (·.opens) ≤ c.toList.countP (·.opens) ∨
      p.idle = [] ∧ c = some .looking ∧ c' = some (.opening true) := by
  cases h with
  | look hidle => exact .inr ⟨hidle, rfl, rfl⟩
  | claim | overflow | refused => exact .inl (Nat.le_refl _)
  | unopened | abandoned => exact .inl (Nat.zero_le _)

/-- Where none waits and no pass has any, every connection has a slot. -/
theorem Traffic.pooled_le_slotsTaken (hidle : t.pool.idle = [])
    (hnone : t.connections .validated = []) : t.pooled + t.opening ≤ t.slotsTaken := by
  have hopens := Checkout.countP_opens_le t.checkouts
  rw [pooled, hnone, connections, hidle, opening, slotsTaken]
  simp only [List.map_nil, List.length_nil]
  omega

/-- A step adds no connection but one that a checkout turns to opening, since none waits. -/
theorem Step.pooled (h : Step d t t') :
    t'.pooled + t'.opening ≤ t.pooled + t.opening ∨
      t'.pooled + t'.opening = t.pooled + t.opening + 1 ∧ t.opening < t'.opening ∧
        t'.pool.idle = [] ∧ t'.connections .validated = t.connections .validated := by
  cases h with
  | attempt before after hcheckouts hattempt =>
      have hidle := hattempt.keeps.1
      simp only [Traffic.pooled_eq, Traffic.opening, hcheckouts, hidle, List.countP_append]
      rcases hattempt.opens with hle | ⟨hempty, rfl, rfl⟩
      · left
        omega
      · right
        refine ⟨?_, ?_, hempty, rfl⟩
        · simp [Checkout.opens]
          omega
        · simp [Checkout.opens]
  | reuse before after hcheckouts hidle =>
      left
      simp only [Traffic.pooled_eq, Traffic.opening, hcheckouts, hidle, countP_insert,
        List.length_cons, List.countP_cons, Checkout.opens, if_true]
      omega
  | @opened before after slot k s s' hcheckouts =>
      left
      simp only [Traffic.pooled_eq, Traffic.opening, hcheckouts, countP_insert, List.countP_cons,
        Checkout.opens]
      cases slot
      · simp only [Bool.toNat_false, Bool.false_eq_true, if_false]
        omega
      · simp only [Bool.toNat_true, if_true]
        omega
  | checkin before after hheld hslot =>
      left
      simp only [Traffic.pooled_eq, Traffic.opening, hheld, countP_insert, hslot, putBack,
        Bool.toNat_true, List.length_append, List.length_singleton]
      omega
  | discard before after hheld =>
      left
      simp only [Traffic.pooled_eq, Traffic.opening, hheld, countP_insert]
      omega
  | drop before after hheld =>
      left
      simp only [Traffic.pooled_eq, Traffic.opening, hheld, countP_insert]
      omega
  | release =>
      left
      exact Nat.le_refl _
  | drain =>
      left
      simp only [Traffic.pooled_eq, Traffic.opening, Pool.drain, List.flatMap_cons,
        List.append_nil, List.length_append, List.length_map, List.length_nil]
      omega
  | keep before after hpasses =>
      left
      simp only [Traffic.pooled_eq, Traffic.opening, hpasses, List.flatMap_append,
        List.flatMap_cons, List.length_append, List.length_map, List.length_cons, List.length_nil]
      omega
  | close before after hpasses =>
      left
      simp only [Traffic.pooled_eq, Traffic.opening, hpasses, List.flatMap_append,
        List.flatMap_cons, List.length_append, List.length_map, List.length_cons]
      omega
  | restore before after hpasses =>
      left
      simp only [Traffic.pooled_eq, Traffic.opening, hpasses, Pool.restore, List.flatMap_append,
        List.flatMap_cons, List.nil_append, List.length_append, List.length_map]
      omega

/-- A run exceeds the size by no more than was opened beside validation passes.  The induction is on
the run; every other step leaves the pool no larger, or finds all of it taken by slots. -/
theorem RunBeside.pooled_le {size n : Nat} (hslots : Conserved size t)
    (hstart : t.pooled + t.opening ≤ size) (h : RunBeside d t n t') :
    t'.pooled + t'.opening ≤ size + n := by
  induction h with
  | start => exact hstart
  | @apart n t₁ t₂ before step apart ih =>
      rcases step.pooled with hle | ⟨-, hopens, hidle, hvalidated⟩
      · omega
      · by_cases hnone : t₁.connections .validated = []
        · have htaken := Traffic.pooled_le_slotsTaken hidle (hvalidated.trans hnone)
          have hconserved := (hslots.run (before.run.tail step)).slots
          omega
        · exact absurd ⟨hopens, hnone⟩ apart
  | beside _ step _ ih =>
      rcases step.pooled with hle | ⟨hone, -⟩
      · omega
      · omega

theorem length_openIdle {now n : Nat} {s s' : σ} {idle : List (Idle κ)}
    (h : openIdle d now n s = (.ok idle, s')) : idle.length = n := by
  induction n generalizing s idle with
  | zero =>
      cases h
      rfl
  | succ n ih =>
      rw [openIdle] at h
      rcases hcreate : d.create s with ⟨_ | k, s₁⟩
      · rw [hcreate] at h
        cases h
      · rw [hcreate] at h
        rcases hrest : openIdle d now n s₁ with ⟨_ | rest, s₂⟩
        · simp only [hrest] at h
          cases h
        · simp only [hrest] at h
          cases h
          rw [List.length_cons, ih hrest]

/-- A new pool has its least number of connections, and all slots. -/
theorem start_ok {settings : PoolSettings} {now : Nat} {s s' : σ}
    (h : start d settings now s = (.ok p, s')) :
    p.settings = settings ∧ p.slots = settings.maxSize ∧
      p.idle.length = min settings.minSize settings.maxSize := by
  rw [start] at h
  rcases hopen : openIdle d now (min settings.minSize settings.maxSize) s with ⟨_ | idle, s₁⟩
  · rw [hopen] at h
    cases h
  · rw [hopen] at h
    cases h
    exact ⟨rfl, rfl, length_openIdle hopen⟩

theorem pooled_start (p : Pool κ) :
    (Traffic.start p).pooled + (Traffic.start p).opening = p.idle.length := by
  simp [Traffic.pooled_eq, Traffic.opening, Traffic.start]

/-! ## Growth -/

/-- Nobody uses the pool, and it has a slot. -/
structure Traffic.Resting (t : Traffic κ) : Prop where
  checkouts : t.checkouts = []
  held : t.held = []
  returning : t.returning = 0
  passes : t.passes = []
  slots : 0 < t.pool.slots

/-- A pass can keep all its connections, if they are valid whenever they are looked at. -/
theorem keep_run (hvalid : ∀ k, ∃ s s', d.isValid k s = (true, s')) {pending kept : List (Idle κ)}
    {rest : List (Pass κ)} (h : t.passes = ⟨pending, kept⟩ :: rest) :
    Run d t { t with passes := ⟨[], kept ++ pending⟩ :: rest } := by
  induction pending generalizing t kept with
  | nil =>
      rw [List.append_nil, ← h]
      exact .refl
  | cons i pending ih =>
      obtain ⟨s, s', hi⟩ := hvalid i.connection
      have hinspect : inspect d t.pool.settings.idleTime 0 i s = (true, s') := by
        rw [inspect, Nat.zero_sub, if_neg (Nat.not_lt_zero _), hi]
      have hkeep : Step d t { t with passes := ⟨pending, kept ++ [i]⟩ :: rest } :=
        .keep [] rest h hinspect
      have hrest := ih (t := { t with passes := ⟨pending, kept ++ [i]⟩ :: rest }) rfl
      rw [List.append_assoc] at hrest
      exact hrest.head hkeep

/-- One pass and one checkout that comes between its steps make a pool larger. -/
theorem Traffic.Resting.grow (hopen : ∃ s k s', d.create s = (.ok k, s'))
    (hvalid : ∀ k, ∃ s s', d.isValid k s = (true, s')) (h : t.Resting) :
    ∃ t', Run d t t' ∧ t'.Resting ∧ t'.pool.idle.length = t.pool.idle.length + 1 := by
  obtain ⟨⟨settings, idle, slots⟩, checkouts, held, returning, passes, closed, dropped, opened⟩ := t
  obtain ⟨rfl, rfl, rfl, rfl, hslots⟩ := h
  obtain ⟨s, k, s', hk⟩ := hopen
  have hclaim : claim (⟨settings, [], slots⟩ : Pool κ) = .slot := claim_eq_slot_iff.mpr hslots
  have hcheckout : checkout d (⟨settings, [], slots⟩ : Pool κ) s =
      (.ok ⟨k, true⟩, ⟨settings, [], slots - 1⟩, s') := by
    simp only [checkout, hclaim, hk]
  -- The pass has taken all connections out, so that the checkout opens another one.
  have hdrained : Run d ⟨⟨settings, idle, slots⟩, [], [], 0, [], closed, dropped, opened⟩
      ⟨⟨settings, [], slots⟩, [], [], 0, [⟨idle, []⟩], closed, dropped, opened⟩ := .single .drain
  obtain ⟨all, -, htaken⟩ := checkout_run
    (t := ⟨⟨settings, [], slots⟩, [], [], 0, [⟨idle, []⟩], closed, dropped, opened⟩) hcheckout
  have hcheckin : checkin d 0 ⟨k, true⟩ (⟨settings, [], slots - 1⟩ : Pool κ) s' =
      (⟨settings, [⟨k, 0⟩], slots - 1 + 1⟩, s') := rfl
  have hheld : [(⟨k, true⟩ : Lease κ)] = [] ++ ⟨k, true⟩ :: [] := rfl
  have hreturned := checkin_run
    (t := ⟨⟨settings, [], slots - 1⟩, [], _, 0, [⟨idle, []⟩], closed, dropped, all⟩) hheld hcheckin
  have hkept := keep_run hvalid (t := ⟨⟨settings, [⟨k, 0⟩], slots - 1 + 1⟩, [], [], 0,
    [⟨idle, []⟩], closed, dropped, all⟩) rfl
  have hrun := ((hdrained.trans htaken).trans hreturned).trans hkept
  have hlength : ([⟨k, 0⟩] ++ ([] ++ idle) : List (Idle κ)).length = idle.length + 1 := by simp
  exact ⟨_, hrun.tail (.restore [] [] rfl), ⟨rfl, rfl, rfl, rfl, Nat.succ_pos _⟩, hlength⟩

/-- No number of connections is too large for a pool, whatever its size: passes and checkouts that
take turns make it larger and larger, where connections can be opened and are found valid. -/
theorem exists_idle_length {settings : PoolSettings} {now : Nat} {s s' : σ}
    (hstart : start d settings now s = (.ok p, s')) (hsize : 0 < settings.maxSize)
    (hopen : ∃ s k s', d.create s = (.ok k, s'))
    (hvalid : ∀ k, ∃ s s', d.isValid k s = (true, s')) (n : Nat) :
    ∃ t, Run d (.start p) t ∧ t.Resting ∧ n ≤ t.pool.idle.length := by
  induction n with
  | zero =>
      have hslots : 0 < p.slots := by rw [(start_ok hstart).2.1]; exact hsize
      exact ⟨_, .refl, ⟨rfl, rfl, rfl, rfl, hslots⟩, Nat.zero_le _⟩
  | succ n ih =>
      obtain ⟨t, hrun, hresting, hlength⟩ := ih
      obtain ⟨t', hgrow, hresting', hlonger⟩ := hresting.grow hopen hvalid
      exact ⟨t', hrun.trans hgrow, hresting', by omega⟩

/-! ## The size of a pool -/

/-- A pool hands out no more connections than its size says.  With those that wait and those that a
pass has, it exceeds its size by no more than checkouts opened beside passes, and not at all where
none did. -/
theorem pooled_bounded {settings : PoolSettings} {now : Nat} {s s' : σ}
    (hstart : start d settings now s = (.ok p, s')) :
    (∀ t, Run d (.start p) t → t.held.countP (·.slot) + t.opening ≤ settings.maxSize) ∧
    (∀ t, Run d (.start p) t → ∃ n, RunBeside d (.start p) n t) ∧
    ∀ n t, RunBeside d (.start p) n t → t.pooled + t.opening ≤ settings.maxSize + n := by
  have hconserved := Conserved.start hstart
  refine ⟨?_, fun t hrun => hrun.exists_runBeside, ?_⟩
  · intro t hrun
    have hslots := (hconserved.run hrun).slots
    have hopens := Checkout.countP_opens_le t.checkouts
    rw [Traffic.slotsTaken] at hslots
    rw [Traffic.opening]
    omega
  · intro n t hrun
    refine hrun.pooled_le hconserved ?_
    rw [pooled_start, (start_ok hstart).2.2]
    exact Nat.min_le_right _ _

/-- A pool of size one, with one connection that stays valid. -/
def lastingPool : Pool Nat := ⟨single, [⟨1, 0⟩], 1⟩

/-- While a pass looked at that connection, somebody opened another one and brought it back. -/
def crowded : Traffic Nat where
  pool := ⟨single, [⟨2, 0⟩, ⟨1, 0⟩], 1⟩
  checkouts := []
  held := []
  returning := 0
  passes := []
  closed := []
  dropped := []
  opened := [2, 1]

theorem runBeside_crowded : RunBeside numbered (.start lastingPool) 1 crowded := by
  have hinspect : inspect numbered single.idleTime 0 ⟨1, 0⟩ 3 = (true, 3) := rfl
  have drained := RunBeside.start.apart (.drain (d := numbered) (t := .start lastingPool))
    (fun h => absurd h.1 (by decide))
  have claimed := drained.apart (.attempt [] [] (c := none) rfl (.claim rfl))
    (fun h => absurd h.1 (by decide))
  have looked := claimed.beside (.attempt [] [] (c := some .looking) rfl (.look rfl))
    ⟨by decide, by decide⟩
  have opened := looked.apart (.opened [] [] (s := 2) rfl rfl) (fun h => absurd h.1 (by decide))
  have back := opened.apart (@Step.checkin _ _ numbered _ [] [] _ 0 rfl rfl)
    (fun h => absurd h.1 (by decide))
  have returned := back.apart (.release rfl) (fun h => absurd h.1 (by decide))
  have kept := returned.apart (.keep [] [] rfl hinspect) (fun h => absurd h.1 (by decide))
  exact kept.apart (.restore [] [] rfl) (fun h => absurd h.1 (by decide))

/-- One connection was opened beside a pass, and one is too many. -/
theorem pooled_bounded_crowded :
    start numbered single 0 1 = (.ok lastingPool, 2) ∧
    RunBeside numbered (.start lastingPool) 1 crowded ∧
    crowded.pooled + crowded.opening = 2 ∧ 2 ≤ single.maxSize + 1 := by
  have hstart : start numbered single 0 1 = (.ok lastingPool, 2) := rfl
  have hcrowded : crowded.pooled + crowded.opening = 2 := by decide
  have hle := (pooled_bounded hstart).2.2 1 crowded runBeside_crowded
  rw [hcrowded] at hle
  exact ⟨hstart, runBeside_crowded, hcrowded, hle⟩

/-- A pool of size one that nobody uses, with two connections. -/
theorem pooled_crowded_gt :
    ∃ p s' t, start numbered single 0 1 = (.ok p, s') ∧ Run numbered (.start p) t ∧
      single.maxSize < t.pooled :=
  ⟨lastingPool, 2, crowded, rfl, runBeside_crowded.run, by decide⟩

end AttributeRelease.Pool
