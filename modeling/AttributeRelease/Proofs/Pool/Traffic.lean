import AttributeRelease.Pool.Basic
import Mathlib.Logic.Relation

/-!
# Traffic of a pool

Many use one pool at a time.  A checkout takes a slot first and then a connection, which it may have
to open; a connection that comes back waits already before its slot is given back; and a validation
pass looks at one connection after the other.  All others go on meanwhile: the steps here are what
nothing can come between.

Each step may find the world as it likes.  A connection can be opened or not, and it can be valid or
not, at any time.
-/

namespace AttributeRelease.Pool

variable {κ σ : Type}

/-- A checkout that is under way.  One that waits for a slot has nothing yet, and is not among
these. -/
inductive Checkout
  /-- It has a slot, and looks for a connection that waits. -/
  | looking
  /-- It opens a connection, with a slot or beyond the pool's size. -/
  | opening (slot : Bool)

def Checkout.slot : Checkout → Bool
  | looking => true
  | opening slot => slot

/-- A validation pass that is under way: the connections that it has not looked at, and those that
are kept. -/
structure Pass (κ : Type) where
  pending : List (Idle κ)
  kept : List (Idle κ)

/-- A pool and all who use it, and the connections that were opened, closed, and dropped by those
who held them. -/
structure Traffic (κ : Type) where
  pool : Pool κ
  checkouts : List Checkout
  held : List (Lease κ)
  /-- The slots whose connections are no longer held, and that are not given back yet. -/
  returning : Nat
  passes : List (Pass κ)
  closed : List κ
  dropped : List κ
  opened : List κ

/-- The connections that wait in a new pool are the first that were opened. -/
def Traffic.start (p : Pool κ) : Traffic κ where
  pool := p
  checkouts := []
  held := []
  returning := 0
  passes := []
  closed := []
  dropped := []
  opened := p.idle.map (·.connection)

def takeSlot (p : Pool κ) : Pool κ := { p with slots := p.slots - 1 }

def returnSlot (slot : Bool) (p : Pool κ) : Pool κ := { p with slots := p.slots + slot.toNat }

/-- A connection that came back waits behind those that wait. -/
def putBack (now : Nat) (l : Lease κ) (p : Pool κ) : Pool κ :=
  { p with idle := p.idle ++ [⟨l.connection, now⟩] }

/-! ## Steps -/

/-- What a checkout does that does not give it a connection, from when it begins until it fails. -/
inductive Attempt (d : Directory κ σ) :
    Pool κ → Option Checkout → Pool κ → Option Checkout → Prop
  | claim {p : Pool κ} : p.claim = .slot → Attempt d p none p.takeSlot (some .looking)
  | overflow {p : Pool κ} : p.claim = .overflow → Attempt d p none p (some (.opening false))
  | refused {p : Pool κ} {reason : Failure} : p.claim = .nothing reason → Attempt d p none p none
  | look {p : Pool κ} : p.idle = [] → Attempt d p (some .looking) p (some (.opening true))
  | unopened {p : Pool κ} {slot : Bool} {e : ResolutionError} {s s' : σ} :
    d.create s = (.error e, s') → Attempt d p (some (.opening slot)) (p.returnSlot slot) none
  /-- Its caller no longer waits for it. -/
  | abandoned {p : Pool κ} {c : Checkout} : Attempt d p (some c) (p.returnSlot c.slot) none

/-- What can happen next. -/
inductive Step (d : Directory κ σ) (t : Traffic κ) : Traffic κ → Prop
  | attempt (before after : List Checkout) {c c' : Option Checkout} {p : Pool κ} :
    t.checkouts = before ++ c.toList ++ after → Attempt d t.pool c p c' →
    Step d t { t with pool := p, checkouts := before ++ c'.toList ++ after }
  /-- A checkout gets the connection that waits longest. -/
  | reuse (before after : List Checkout) {i : Idle κ} {idle : List (Idle κ)} :
    t.checkouts = before ++ .looking :: after → t.pool.idle = i :: idle →
    Step d t { t with
      pool := { t.pool with idle := idle }
      checkouts := before ++ after
      held := ⟨i.connection, true⟩ :: t.held }
  /-- A checkout gets a new connection. -/
  | opened (before after : List Checkout) {slot : Bool} {k : κ} {s s' : σ} :
    t.checkouts = before ++ .opening slot :: after → d.create s = (.ok k, s') →
    Step d t { t with
      checkouts := before ++ after
      held := ⟨k, slot⟩ :: t.held
      opened := k :: t.opened }
  /-- A connection comes back and waits, and its slot is still taken. -/
  | checkin (before after : List (Lease κ)) {l : Lease κ} {now : Nat} :
    t.held = before ++ l :: after → l.slot = true →
    Step d t { t with
      pool := t.pool.putBack now l
      held := before ++ after
      returning := t.returning + 1 }
  /-- A connection beyond the pool's size comes back, and is closed. -/
  | discard (before after : List (Lease κ)) {l : Lease κ} :
    t.held = before ++ l :: after → l.slot = false →
    Step d t { t with held := before ++ after, closed := l.connection :: t.closed }
  | drop (before after : List (Lease κ)) {l : Lease κ} :
    t.held = before ++ l :: after →
    Step d t { t with
      held := before ++ after
      returning := t.returning + l.slot.toNat
      dropped := l.connection :: t.dropped }
  /-- A slot is given back whose connection came back or was dropped. -/
  | release {n : Nat} :
    t.returning = n + 1 → Step d t { t with pool := t.pool.returnSlot true, returning := n }
  /-- A validation pass begins. -/
  | drain :
    Step d t { t with pool := t.pool.drain.2, passes := ⟨t.pool.drain.1, []⟩ :: t.passes }
  | keep (before after : List (Pass κ)) {i : Idle κ} {pending kept : List (Idle κ)} {now : Nat}
    {s s' : σ} :
    t.passes = before ++ ⟨i :: pending, kept⟩ :: after →
    inspect d t.pool.settings.idleTime now i s = (true, s') →
    Step d t { t with passes := before ++ ⟨pending, kept ++ [i]⟩ :: after }
  | close (before after : List (Pass κ)) {i : Idle κ} {pending kept : List (Idle κ)} {now : Nat}
    {s s' : σ} :
    t.passes = before ++ ⟨i :: pending, kept⟩ :: after →
    inspect d t.pool.settings.idleTime now i s = (false, d.close i.connection s') →
    Step d t { t with
      passes := before ++ ⟨pending, kept⟩ :: after
      closed := i.connection :: t.closed }
  /-- A validation pass ends. -/
  | restore (before after : List (Pass κ)) {kept : List (Idle κ)} :
    t.passes = before ++ ⟨[], kept⟩ :: after →
    Step d t { t with pool := t.pool.restore kept, passes := before ++ after }

/-- Steps of all who use a pool, one after the other. -/
def Run (d : Directory κ σ) : Traffic κ → Traffic κ → Prop := Relation.ReflTransGen (Step d)

/-! ## Operations that nothing comes between -/

variable {d : Directory κ σ} {t : Traffic κ} {p : Pool κ} {s s' : σ}

/-- What can come of a checkout. -/
inductive CheckedOut (d : Directory κ σ) (p : Pool κ) (s : σ) :
    Except Failure (Lease κ) × Pool κ × σ → Prop
  | refused {reason : Failure} : p.claim = .nothing reason → CheckedOut d p s (.error reason, p, s)
  | reused {i : Idle κ} {idle : List (Idle κ)} :
    p.claim = .slot → p.idle = i :: idle →
    CheckedOut d p s (.ok ⟨i.connection, true⟩, { p.takeSlot with idle := idle }, s)
  | opened {k : κ} {s' : σ} :
    p.claim = .slot → p.idle = [] → d.create s = (.ok k, s') →
    CheckedOut d p s (.ok ⟨k, true⟩, p.takeSlot, s')
  | overflowed {k : κ} {s' : σ} :
    p.claim = .overflow → d.create s = (.ok k, s') → CheckedOut d p s (.ok ⟨k, false⟩, p, s')
  | unopened {e : ResolutionError} {s' : σ} :
    d.create s = (.error e, s') → CheckedOut d p s (.error (.unopened e), p, s')

theorem checkout_checkedOut (d : Directory κ σ) (p : Pool κ) (s : σ) :
    CheckedOut d p s (p.checkout d s) := by
  obtain ⟨settings, idle, slots⟩ := p
  rw [checkout]
  cases hclaim : claim ⟨settings, idle, slots⟩ with
  | nothing reason => exact .refused hclaim
  | overflow =>
      rcases hcreate : d.create s with ⟨_ | _, s'⟩
      · exact .unopened hcreate
      · exact .overflowed hclaim hcreate
  | slot =>
      cases idle with
      | cons i idle => exact .reused hclaim rfl
      | nil =>
          rcases hcreate : d.create s with ⟨_ | _, s'⟩
          · exact .unopened hcreate
          · exact .opened hclaim rfl hcreate

/-- A checkout that has a connection has it by steps, one that waited or a new one. -/
theorem checkout_run {l : Lease κ} (h : t.pool.checkout d s = (.ok l, p, s')) :
    ∃ opened, (opened = t.opened ∨ opened = l.connection :: t.opened) ∧
      Run d t { t with pool := p, held := l :: t.held, opened := opened } := by
  have hcheckedOut := checkout_checkedOut d t.pool s
  rw [h] at hcheckedOut
  cases hcheckedOut with
  | reused hclaim hidle =>
      refine ⟨_, .inl rfl, ?_⟩
      apply Relation.ReflTransGen.head (.attempt [] t.checkouts rfl (.claim hclaim))
      exact .single (.reuse [] t.checkouts rfl hidle)
  | opened hclaim hidle hcreate =>
      refine ⟨_, .inr rfl, ?_⟩
      apply Relation.ReflTransGen.head (.attempt [] t.checkouts rfl (.claim hclaim))
      apply Relation.ReflTransGen.head
        (.attempt [] t.checkouts (c := some .looking) rfl (.look hidle))
      exact .single (.opened [] t.checkouts rfl hcreate)
  | overflowed hclaim hcreate =>
      refine ⟨_, .inr rfl, ?_⟩
      apply Relation.ReflTransGen.head (.attempt [] t.checkouts rfl (.overflow hclaim))
      exact .single (.opened [] t.checkouts rfl hcreate)

/-- A checkout that fails leaves the pool as it was. -/
theorem checkout_error {e : Failure} {p' : Pool κ} (h : p.checkout d s = (.error e, p', s')) :
    p' = p := by
  have hcheckedOut := checkout_checkedOut d p s
  rw [h] at hcheckedOut
  cases hcheckedOut with
  | refused => rfl
  | unopened => rfl

/-- A connection comes back by steps, and so does its slot. -/
theorem checkin_run {before after : List (Lease κ)} {l : Lease κ} {now : Nat}
    (hheld : t.held = before ++ l :: after) (h : t.pool.checkin d now l s = (p, s')) :
    Run d t { t with
      pool := p
      held := before ++ after
      closed := if l.slot then t.closed else l.connection :: t.closed } := by
  rw [checkin] at h
  cases hslot : l.slot with
  | true =>
      rw [hslot, if_pos rfl] at h
      cases h
      exact (Relation.ReflTransGen.single (.checkin before after hheld hslot)).tail (.release rfl)
  | false =>
      rw [hslot, if_neg Bool.false_ne_true] at h
      cases h
      exact .single (.discard before after hheld hslot)

/-- A connection is dropped by steps, and its slot comes back. -/
theorem forget_run {before after : List (Lease κ)} {l : Lease κ}
    (hheld : t.held = before ++ l :: after) :
    Run d t { t with
      pool := t.pool.forget l
      held := before ++ after
      dropped := l.connection :: t.dropped } := by
  have hdrop := Step.drop (d := d) before after hheld
  rw [forget]
  cases hslot : l.slot with
  | true =>
      rw [hslot] at hdrop
      exact (Relation.ReflTransGen.single hdrop).tail (.release rfl)
  | false =>
      rw [hslot] at hdrop
      exact .single hdrop

/-- A connection that a pass does not keep is closed. -/
theorem inspect_eq_false {limit : Duration} {now : Nat} {i : Idle κ}
    (h : inspect d limit now i s = (false, s')) : ∃ s₁, s' = d.close i.connection s₁ := by
  rw [inspect] at h
  split at h
  · cases h
    exact ⟨s, rfl⟩
  · rcases hvalid : d.isValid i.connection s with ⟨_ | _, s₁⟩
    · rw [hvalid] at h
      cases h
      exact ⟨s₁, rfl⟩
    · rw [hvalid] at h
      cases h

/-- A pass looks at its connections by steps. -/
theorem inspectAll_run {pending kept : List (Idle κ)} {rest : List (Pass κ)} (now : Nat)
    (h : t.passes = ⟨pending, kept⟩ :: rest) :
    ∃ closed, Run d t { t with
      passes := ⟨[], kept ++ (inspectAll d t.pool.settings.idleTime now pending s).1⟩ :: rest
      closed := closed } := by
  induction pending generalizing t kept s with
  | nil =>
      refine ⟨t.closed, ?_⟩
      rw [inspectAll, List.append_nil, ← h]
      exact .refl
  | cons i pending ih =>
      rw [inspectAll]
      rcases hinspect : inspect d t.pool.settings.idleTime now i s with ⟨_ | _, s₁⟩
      · obtain ⟨s₂, rfl⟩ := inspect_eq_false hinspect
        have hclose : Step d t { t with
            passes := ⟨pending, kept⟩ :: rest, closed := i.connection :: t.closed } :=
          .close [] rest h hinspect
        obtain ⟨closed, hrest⟩ := ih (s := d.close i.connection s₂) (t := { t with
          passes := ⟨pending, kept⟩ :: rest, closed := i.connection :: t.closed }) rfl
        exact ⟨closed, hrest.head hclose⟩
      · have hkeep : Step d t { t with passes := ⟨pending, kept ++ [i]⟩ :: rest } :=
          .keep [] rest h hinspect
        obtain ⟨closed, hrest⟩ := ih (s := s₁) (t := { t with
          passes := ⟨pending, kept ++ [i]⟩ :: rest }) rfl
        rw [List.append_assoc] at hrest
        exact ⟨closed, hrest.head hkeep⟩

/-- A pass leaves the pool as its steps do. -/
theorem validateIdle_run {now : Nat} (h : t.pool.validateIdle d now s = (p, s')) :
    ∃ closed, Run d t { t with pool := p, closed := closed } := by
  unfold validateIdle at h
  split at h
  rename_i candidates drained hdrain
  split at h
  rename_i kept s₁ hinspect
  cases h
  have hpass := inspectAll_run (d := d) (s := s) (t := { t with
    pool := drained, passes := ⟨candidates, []⟩ :: t.passes }) now rfl
  obtain ⟨closed, hpass⟩ := hpass
  rw [hinspect] at hpass
  have hdrained := Step.drain (d := d) (t := t)
  rw [hdrain] at hdrained
  exact ⟨closed, (hpass.tail (.restore [] t.passes rfl)).head hdrained⟩

end AttributeRelease.Pool
