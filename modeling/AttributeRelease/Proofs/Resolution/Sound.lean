import AttributeRelease.Proofs.Resolution.Evaluation

/-!
# Sound memos

A memo is sound when it has no other results than those that plugins yield.  Walks keep it so, and
what a walk comes to from a sound memo is what evaluation without a memo comes to, whatever the memo
has already.
-/

namespace AttributeRelease

variable {σ : Type}

/-- A memo that has all results of another one. -/
def Memo.Extends (m m' : Memo) : Prop := ∀ id a, m.get? id = some a → m'.get? id = some a

theorem Memo.Extends.refl (m : Memo) : m.Extends m := fun _ _ h => h

theorem Memo.Extends.trans {m m' m'' : Memo} (h : m.Extends m') (h' : m'.Extends m'') :
    m.Extends m'' := fun id a hget => h' id a (h id a hget)

theorem Memo.extends_put {m : Memo} {id : String} (h : m.get? id = none) (a : Resolved) :
    m.Extends (m.put id a) := by
  intro other b hget
  have hne : id ≠ other := by
    intro heq
    rw [← heq, h] at hget
    cases hget
  rw [get?_put_of_ne m hne]
  exact hget

/-- The result of a plugin that has one. -/
def Memo.resultOf (m : Memo) (id : String) : Resolved :=
  (m.get? id).getD (.connector ⟨id, []⟩)

namespace Registry

/-- A memo that has no other results than those that plugins yield. -/
def Sound (r : Registry σ) (request : Request) (m : Memo) : Prop :=
  ∀ id a, m.get? id = some a → ∃ t, r.target? id = some t ∧ r.Yields request t a

variable {r : Registry σ} {request : Request} {m : Memo}

theorem Sound.empty : r.Sound request .empty := fun _ _ h => by cases h

theorem Sound.put (h : r.Sound request m) {t : Target} {a : Resolved}
    (ht : r.target? t.id = some t) (ha : r.Yields request t a) :
    r.Sound request (m.put t.id a) := by
  intro id b hget
  by_cases heq : t.id = id
  · subst heq
    rw [Memo.get?_put_self] at hget
    cases hget
    exact ⟨t, ht, ha⟩
  · rw [Memo.get?_put_of_ne m heq] at hget
    exact h id b hget

/-- What a sound memo has of a plugin is what the plugin yields. -/
theorem Sound.yields (h : r.Sound request m) {t : Target} {a : Resolved}
    (hresult : m.result? t = some a) : r.Yields request t a := by
  obtain ⟨hget, hsuits⟩ := Memo.get?_of_result? hresult
  obtain ⟨u, htarget, hyields⟩ := h t.id a hget
  have heq : t = u := Target.eq_of_suits hsuits hyields.suits (id_of_target? htarget).symm
  rw [heq]
  exact hyields

theorem Sound.get?_eq_none (hbuilt : r.Built) (h : r.Sound request m) {t : Target}
    (ht : (r.work? t).isSome) (hfresh : m.result? t = none) : m.get? t.id = none := by
  cases hget : m.get? t.id with
  | none => rfl
  | some a =>
      obtain ⟨u, htarget, hyields⟩ := h t.id a hget
      rw [hbuilt.target?_eq ht] at htarget
      cases htarget
      rw [Memo.result?_of_suits hget hyields.suits] at hfresh
      cases hfresh

/-- A sound memo with the results of all dependencies supplies a plugin with them. -/
theorem Sound.supplied (h : r.Sound request m) {w : Work σ}
    (hdependencies : ∀ u ∈ r.targets w.dependencies, (m.result? u).isSome) :
    r.Supplied request w m m.resultOf where
  dependencies d hd u hu := by
    obtain ⟨b, hresult⟩ := Option.isSome_iff_exists.mp
      (hdependencies u (mem_targets.mpr ⟨d, hd, hu⟩))
    have hget := (Memo.get?_of_result? hresult).1
    rw [id_of_target? hu] at hget
    rw [Memo.resultOf, hget]
    exact h.yields hresult
  memo d hd := by
    cases htarget : r.target? d with
    | none =>
        cases hget : m.get? d with
        | none => rfl
        | some b =>
            obtain ⟨u, hu, _⟩ := h d b hget
            rw [htarget] at hu
            cases hu
    | some u =>
        obtain ⟨b, hresult⟩ := Option.isSome_iff_exists.mp
          (hdependencies u (mem_targets.mpr ⟨d, hd, htarget⟩))
        have hget := (Memo.get?_of_result? hresult).1
        rw [id_of_target? htarget] at hget
        rw [Memo.resultOf, hget]
        rfl

/-! ## Walks -/

theorem result?_of_extends {m' : Memo} (hext : m.Extends m') {t : Target} {a : Resolved}
    (hresult : m.result? t = some a) : m'.result? t = some a := by
  obtain ⟨hget, hsuits⟩ := Memo.get?_of_result? hresult
  exact Memo.result?_of_suits (hext _ _ hget) hsuits

/-- What walks keep and what they bring about: the memo stays sound, no result changes, and all
plugins have results unless a fault ended the walk. -/
structure Kept (r : Registry σ) (request : Request) (ts : List Target) (m : Memo)
    (out : Except Fault Unit) (m' : Memo) : Prop where
  sound : r.Sound request m'
  extend : m.Extends m'
  results : out = .ok () → ∀ t ∈ ts, (r.work? t).isSome → (m'.result? t).isSome

theorem Kept.refl (hsound : r.Sound request m) : r.Kept request [] m (.ok ()) m where
  sound := hsound
  extend := .refl m
  results _ _ ht := absurd ht List.not_mem_nil

/-- A walk that was ended by a fault has nothing to bring about. -/
theorem Kept.of_error {ts us : List Target} {m₁ m₂ : Memo} {out : Except Fault Unit} {f : Fault}
    (h : r.Kept request ts m₁ out m₂) (hext : m.Extends m₁) :
    r.Kept request us m (.error f) m₂ where
  sound := h.sound
  extend := hext.trans h.extend
  results hout := by cases hout

/-- A plugin that has its result keeps it while the walk goes on. -/
theorem Kept.cons {t : Target} {rest : List Target} {m₁ m₂ : Memo} {out : Except Fault Unit}
    (h : r.Kept request rest m₁ out m₂) (hext : m.Extends m₁)
    (ht : (r.work? t).isSome → (m₁.result? t).isSome) : r.Kept request (t :: rest) m out m₂ where
  sound := h.sound
  extend := hext.trans h.extend
  results hout u hu hwork := by
    rcases List.mem_cons.mp hu with rfl | hmem
    · obtain ⟨a, hresult⟩ := Option.isSome_iff_exists.mp (ht hwork)
      rw [result?_of_extends h.extend hresult]
      rfl
    · exact h.results hout u hmem hwork

theorem Kept.supplied {w : Work σ} {m' : Memo}
    (h : r.Kept request (r.targets w.dependencies) m (.ok ()) m') :
    r.Supplied request w m' m'.resultOf := by
  refine h.sound.supplied fun u hu => ?_
  obtain ⟨id, _, htarget⟩ := mem_targets.mp hu
  exact h.results rfl u hu (work?_of_target? htarget)

/-- Plugins in progress are given no result. -/
theorem Walk.untouched {ts : List Target} {x y : Resolution} {s s' : σ} {out : Except Fault Unit}
    (h : r.Walk ts x s out y s') : ∀ id ∈ x.inProgress, y.memo.get? id = x.memo.get? id := by
  induction h with
  | nil => exact fun _ _ => rfl
  | known _ _ ih => exact ih
  | absent _ _ _ ih => exact ih
  | unknown _ _ => exact fun _ _ => rfl
  | cycle _ _ _ => exact fun _ _ => rfl
  | dependency _ _ _ _ ih => exact fun id hid => ih id (List.mem_cons_of_mem _ hid)
  | @own t _ _ x y _ _ _ _ _ a _ _ _ free dependencies _ _ ih ihNext =>
      intro id hid
      have hne : t.id ≠ id := fun heq => free (heq ▸ hid)
      have hframe := Resolution.leave_inProgress dependencies.frame.2
      have hrecord : ((y.leave t.id).record t.id a).memo.get? id = y.memo.get? id :=
        Memo.get?_put_of_ne y.memo hne a
      rw [ihNext id (hframe ▸ hid), hrecord]
      exact ih id (List.mem_cons_of_mem _ hid)
  | failed _ _ _ _ _ _ ih => exact fun id hid => ih id (List.mem_cons_of_mem _ hid)
  | @failover t _ _ _ _ _ _ _ _ _ _ _ _ _ _ _ dependencies _ _ _ ih ihInstead =>
      intro id hid
      have hmem := List.mem_cons_of_mem t.id hid
      exact (ihInstead id (dependencies.frame.2 ▸ hmem)).trans (ih id hmem)
  | @replaced t _ _ _ y z _ _ _ _ _ _ _ _ a _ _ _ free dependencies _ _ instead _ _ ih ihInstead
      ihNext =>
      intro id hid
      have hne : t.id ≠ id := fun heq => free (heq ▸ hid)
      have hmem := List.mem_cons_of_mem t.id hid
      have hframe := Resolution.leave_inProgress (instead.frame.2.trans dependencies.frame.2)
      have hrecord : ((z.leave t.id).record t.id a).memo.get? id = z.memo.get? id :=
        Memo.get?_put_of_ne z.memo hne a
      rw [ihNext id (hframe ▸ hid), hrecord]
      exact (ihInstead id (dependencies.frame.2 ▸ hmem)).trans (ih id hmem)

/-- A walk from a sound memo. -/
theorem Walk.kept (hbuilt : r.Built) {ts : List Target} {x y : Resolution} {s s' : σ}
    {out : Except Fault Unit} (h : r.Walk ts x s out y s') (hrequest : x.request = request)
    (hsound : r.Sound request x.memo) : r.Kept request ts x.memo out y.memo := by
  induction h with
  | nil => exact .refl hsound
  | known result _ ih => exact (ih hrequest hsound).cons (.refl _) fun _ => result
  | absent _ none _ ih =>
      refine (ih hrequest hsound).cons (.refl _) fun hwork => ?_
      rw [none] at hwork
      cases hwork
  | unknown _ _ => exact (Kept.refl hsound).of_error (.refl _)
  | cycle _ _ _ => exact (Kept.refl hsound).of_error (.refl _)
  | dependency _ _ _ _ ih => exact (ih hrequest hsound).of_error (.refl _)
  | @own t w _ x y _ _ _ _ _ a _ fresh work _ dependencies resolved _ ih ihNext =>
      have hwork := Option.isSome_of_eq_some work
      have hkept := ih hrequest hsound
      have hrequest' : y.request = request := dependencies.frame.1.trans hrequest
      rw [hrequest'] at resolved
      have hyields := hkept.supplied.own work resolved
      have hnone : y.memo.get? t.id = none :=
        (dependencies.untouched t.id List.mem_cons_self).trans
          (hsound.get?_eq_none hbuilt hwork fresh)
      have hnext := ihNext hrequest' (hkept.sound.put (hbuilt.target?_eq hwork) hyields)
      refine hnext.cons (hkept.extend.trans (Memo.extends_put hnone a)) fun _ => ?_
      have hput := Memo.result?_of_suits (Memo.get?_put_self y.memo t.id a) hyields.suits
      exact Option.isSome_iff_exists.mpr ⟨a, hput⟩
  | failed _ _ _ _ _ _ ih => exact (ih hrequest hsound).of_error (.refl _)
  | failover _ _ _ dependencies _ _ _ ih ihInstead =>
      have hkept := ih hrequest hsound
      exact (ihInstead (dependencies.frame.1.trans hrequest) hkept.sound).of_error hkept.extend
  | @replaced t w _ x y z _ _ _ _ _ _ _ _ a _ fresh work _ dependencies failed other_eq instead
      result _ ih ihInstead ihNext =>
      have hwork := Option.isSome_of_eq_some work
      have hkept := ih hrequest hsound
      have hrequest' : y.request = request := dependencies.frame.1.trans hrequest
      have hinstead := ihInstead hrequest' hkept.sound
      rw [hrequest'] at failed
      have hyields := hkept.supplied.replaced work failed other_eq (hinstead.sound.yields result)
      have hin : t.id ∈ y.inProgress := dependencies.frame.2 ▸ List.mem_cons_self
      have hnone : z.memo.get? t.id = none :=
        ((instead.untouched t.id hin).trans
          (dependencies.untouched t.id List.mem_cons_self)).trans
            (hsound.get?_eq_none hbuilt hwork fresh)
      have hnext := ihNext (instead.frame.1.trans hrequest')
        (hinstead.sound.put (hbuilt.target?_eq hwork) hyields)
      refine hnext.cons ((hkept.extend.trans hinstead.extend).trans
        (Memo.extends_put hnone a)) fun _ => ?_
      have hput := Memo.result?_of_suits (Memo.get?_put_self z.memo t.id a) hyields.suits
      exact Option.isSome_iff_exists.mpr ⟨a, hput⟩

end Registry

end AttributeRelease
