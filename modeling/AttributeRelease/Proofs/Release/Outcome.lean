import AttributeRelease.Proofs.Release.Policies
import Mathlib.Tactic.FinCases

/-!
# What an engine releases

When all policies have been applied, the permitted values that no rule in force withholds are
released.  The main statement says which values these are, and in which order, for all policies of
built-in criteria.
-/

namespace AttributeRelease

variable {σ : Type}

/-- The values that a map has under a key. -/
def AttributeMap.valuesOf (m : AttributeMap) (id : String) : List Value :=
  ((m.get? id).map (·.values)).getD []

namespace Selection

/-- Whether a value is withheld by one of some built-in criteria. -/
theorem withheld_eq_any {denials : List (Criterion σ)} (h : ∀ c ∈ denials, c.BuiltIn)
    (facts : Facts) (id : String) (v : Value) (s : σ) :
    withheld facts id v denials s =
      (.ok (denials.any fun c => c.holds facts (.denies id v) s), s) := by
  induction denials with
  | nil => rfl
  | cons c rest ih =>
      have hrest := ih fun d hd => h d (List.mem_cons_of_mem c hd)
      rw [withheld, (h c List.mem_cons_self).evaluate_eq_holds facts rfl s, List.any_cons]
      cases c.holds facts (.denies id v) s with
      | true => rfl
      | false => exact hrest

theorem remaining_eq_filter {denials : List (Criterion σ)} (h : ∀ c ∈ denials, c.BuiltIn)
    (facts : Facts) (id : String) (values : List Value) (s : σ) :
    remaining facts id denials values s =
      (.ok (values.filter fun v => !denials.any fun c => c.holds facts (.denies id v) s), s) := by
  induction values with
  | nil => rfl
  | cons v rest ih =>
      rw [remaining, withheld_eq_any h]
      simp only [ih, List.filter_cons]
      cases denials.any fun c => c.holds facts (.denies id v) s <;> rfl

/-- What is released of an entry, if any of its values is left. -/
def released? (sel : Selection σ) (s : σ) (id : String) (values : List Value) :
    Option Attribute :=
  let kept := values.filter fun v =>
    !(sel.denialsOf id).any fun c => c.holds sel.facts (.denies id v) s
  if kept = [] then none
  else some ⟨id, kept, (sel.facts.attributes.get? id).bind (·.comparator)⟩

/-- Entries are released one by one. -/
theorem release_eq_filterMap {sel : Selection σ} {entries : List (String × List Value)} {s : σ}
    (h : ∀ entry ∈ entries, entry.2 ≠ [] → ∀ c ∈ sel.denialsOf entry.1, c.BuiltIn) :
    sel.release entries s =
      (.ok (entries.filterMap fun entry =>
        (sel.released? s entry.1 entry.2).map (Prod.mk entry.1)), s) := by
  induction entries with
  | nil => rfl
  | cons entry rest ih =>
      obtain ⟨id, values⟩ := entry
      have hrest := ih fun entry hentry => h entry (List.mem_cons_of_mem _ hentry)
      have hkept : remaining sel.facts id (sel.denialsOf id) values s =
          (.ok (values.filter fun v =>
            !(sel.denialsOf id).any fun c => c.holds sel.facts (.denies id v) s), s) := by
        by_cases hvalues : values = []
        · subst hvalues
          rfl
        · exact remaining_eq_filter (h (id, values) List.mem_cons_self hvalues) _ id values s
      rw [release, hkept]
      simp only [hrest, List.isEmpty_iff]
      by_cases hnone : (values.filter fun v =>
          !(sel.denialsOf id).any fun c => c.holds sel.facts (.denies id v) s) = []
      · rw [if_pos hnone, List.filterMap_cons_none]
        rw [released?, if_pos hnone]
        rfl
      · rw [if_neg hnone, List.filterMap_cons_some]
        rw [released?, if_neg hnone]
        rfl

/-- Where no key comes twice, what becomes of an entry is found under its key. -/
theorem get?_filterMap {entries : List (String × List Value)} (h : (entries.map (·.1)).Nodup)
    (f : String → List Value → Option Attribute) (id : String) :
    AttributeMap.get? (entries.filterMap fun entry => (f entry.1 entry.2).map (Prod.mk entry.1))
        id = (entries.lookup id).bind (f id) := by
  induction entries with
  | nil => rfl
  | cons entry rest ih =>
      obtain ⟨k, values⟩ := entry
      obtain ⟨hk, hrest⟩ := List.nodup_cons.mp h
      have hlookup : rest.lookup k = none := by
        rw [List.lookup_eq_none_iff]
        intro entry hentry
        have hne : k ≠ entry.1 := fun heq => hk (List.mem_map.mpr ⟨entry, hentry, heq.symm⟩)
        simpa using hne
      by_cases hid : k = id
      · subst hid
        cases hf : f k values with
        | none =>
            rw [List.filterMap_cons_none (by simp [hf]), ih hrest, hlookup]
            simp [hf]
        | some a =>
            rw [List.filterMap_cons_some (b := (k, a)) (by simp [hf]), AttributeMap.get?_cons]
            simp [hf]
      · have hne : (id == k) = false := by simpa using Ne.symm hid
        rw [List.lookup_cons, hne]
        cases hf : f k values with
        | none =>
            rw [List.filterMap_cons_none (by simp [hf])]
            exact ih hrest
        | some a =>
            rw [List.filterMap_cons_some (b := (k, a)) (by simp [hf]), AttributeMap.get?_cons,
              if_neg hid]
            exact ih hrest

theorem ids_filterMap_sublist (entries : List (String × List Value))
    (f : String → List Value → Option Attribute) :
    (AttributeMap.ids (entries.filterMap fun entry =>
      (f entry.1 entry.2).map (Prod.mk entry.1))).Sublist (entries.map (·.1)) := by
  induction entries with
  | nil => exact List.Sublist.slnil
  | cons entry rest ih =>
      obtain ⟨k, values⟩ := entry
      cases hf : f k values with
      | none =>
          rw [List.filterMap_cons_none (by simp [hf])]
          exact ih.cons k
      | some a =>
          rw [List.filterMap_cons_some (b := (k, a)) (by simp [hf])]
          exact ih.cons_cons k

/-- Where no key comes twice, an entry is found under its key. -/
theorem lookup_of_mem {entries : List (String × List Value)} (h : (entries.map (·.1)).Nodup)
    {id : String} {values : List Value} (hentry : (id, values) ∈ entries) :
    entries.lookup id = some values := by
  induction entries with
  | nil => cases hentry
  | cons head rest ih =>
      obtain ⟨k, old⟩ := head
      obtain ⟨hk, hrest⟩ := List.nodup_cons.mp h
      rcases List.mem_cons.mp hentry with heq | hmem
      · cases heq
        exact List.lookup_cons_self
      · have hne : (id == k) = false := by
          rw [beq_eq_false_iff_ne]
          intro heq
          exact hk (List.mem_map.mpr ⟨(id, values), hmem, heq⟩)
        rw [List.lookup_cons, hne]
        exact ih hrest hmem

/-! ## From the start -/

/-- What is released of an attribute. -/
def outcome? (policies : List (Policy σ)) (facts : Facts) (s : σ) (id : String) :
    Option Attribute :=
  let values := Policy.releasable policies facts s id
  if values = [] then none else some ⟨id, values, (facts.attributes.get? id).bind (·.comparator)⟩

theorem values_of_follows {facts : Facts} {rules : List (AttributeRule σ)} {s : σ}
    {sel : Selection σ} (h : (start facts).Follows sel rules s) (id : String) :
    sel.values id false =
      keepFirst ((AttributeRule.rulesFor id rules).flatMap (·.permitted facts s)) := by
  rw [h.values, ← addNew_nil]
  rfl

theorem denials_of_follows {facts : Facts} {rules : List (AttributeRule σ)} {s : σ}
    {sel : Selection σ} (h : (start facts).Follows sel rules s) {id : String}
    (hid : sel.values id false ≠ []) :
    sel.denialsOf id = (AttributeRule.rulesFor id rules).flatMap (·.deny.toList) := by
  have hresolved : (facts.attributes.get? id).isSome := by
    by_contra hnone
    rw [Option.not_isSome_iff_eq_none] at hnone
    apply hid
    rw [values_of_follows h, List.flatMap_eq_nil_iff.mpr]
    · rfl
    · intro r hr
      apply AttributeRule.permitted_of_unresolved
      rw [(AttributeRule.mem_rulesFor.mp hr).2, hnone]
  rw [h.denials id hresolved]
  rfl

/-- The criteria of rules for an attribute withhold what the rules do. -/
theorem any_denials_eq {id : String} {rules : List (AttributeRule σ)}
    (h : ∀ r ∈ rules, r.target = id) (facts : Facts) (s : σ) (v : Value) :
    ((rules.flatMap (·.deny.toList)).any fun c => c.holds facts (.denies id v) s) =
      rules.any (·.withholds facts s v) := by
  induction rules with
  | nil => rfl
  | cons r rest ih =>
      have hrest := ih fun r' hr' => h r' (List.mem_cons_of_mem r hr')
      have htarget := h r List.mem_cons_self
      rw [List.flatMap_cons, List.any_append, hrest, List.any_cons, AttributeRule.withholds,
        htarget]
      cases r.deny <;> simp

/-- After all policies, an entry leaves behind what is releasable of its attribute. -/
theorem bind_released?_eq_outcome? {policies : List (Policy σ)} {facts : Facts} {s : σ}
    {sel : Selection σ}
    (h : (start facts).Follows sel (Policy.rulesInForce policies facts s) s) (id : String) :
    (sel.retained.lookup id).bind (sel.released? s id) = outcome? policies facts s id := by
  have hvalues := values_of_follows h id
  have hfacts : sel.facts = facts := h.facts
  by_cases hnil : sel.values id false = []
  · have hreleasable : Policy.releasable policies facts s id = [] := by
      rw [Policy.releasable, ← hvalues, hnil]
      rfl
    rw [outcome?, hreleasable, if_pos rfl]
    cases hlookup : sel.retained.lookup id with
    | none => rfl
    | some values =>
        have hempty : values = [] := by
          rw [Selection.values, hlookup] at hnil
          exact hnil
        rw [hempty]
        rfl
  · cases hlookup : sel.retained.lookup id with
    | none =>
        rw [Selection.values, hlookup] at hnil
        exact absurd rfl hnil
    | some values =>
        have hkept : values =
            keepFirst ((AttributeRule.rulesFor id
              (Policy.rulesInForce policies facts s)).flatMap (·.permitted facts s)) := by
          rw [Selection.values, hlookup] at hvalues
          exact hvalues
        have htarget : ∀ r ∈ AttributeRule.rulesFor id (Policy.rulesInForce policies facts s),
            r.target = id := fun r hr => (AttributeRule.mem_rulesFor.mp hr).2
        have hdenied := any_denials_eq htarget facts s
        rw [Option.bind_some, released?, denials_of_follows h hnil, hkept, hfacts]
        simp only [hdenied]
        rfl

end Selection

namespace ReleaseEngine

open Selection (Answered outcome?)

/-- An engine whose requirements can be evaluated releases what its policies make releasable. -/
theorem filter_of_answered {e : ReleaseEngine σ} (hbuilt : ∀ p ∈ e.policies, p.BuiltIn)
    {attributes : AttributeMap} {request : Request} {s : σ}
    (h : Answered e.policies ⟨attributes, request⟩ s) :
    ∃ m, e.filter attributes request s = (.ok m, s) ∧ m.ids.Nodup ∧
      ∀ id, m.get? id = outcome? e.policies ⟨attributes, request⟩ s id := by
  obtain ⟨id, policies⟩ := e
  cases policies with
  | nil => exact ⟨[], rfl, List.nodup_nil, fun _ => rfl⟩
  | cons p rest =>
      let first : Selection σ := .start ⟨attributes, request⟩
      have hfirst : Answered (p :: rest) first.facts s := h
      obtain ⟨sel, hsel, hfollows⟩ := Selection.applyPolicies_follows hbuilt hfirst
      change (Selection.start ⟨attributes, request⟩).applyPolicies (p :: rest) s = _ at hsel
      have hnodup : sel.ids.Nodup := hfollows.nodup List.nodup_nil
      have hbuiltIn : ∀ entry ∈ sel.retained, entry.2 ≠ [] →
          ∀ c ∈ sel.denialsOf entry.1, c.BuiltIn := by
        intro entry hentry hne c hc
        have hlookup := Selection.lookup_of_mem hnodup hentry
        have hvalues : sel.values entry.1 false ≠ [] := by
          rw [Selection.values, hlookup]
          exact hne
        rw [Selection.denials_of_follows hfollows hvalues, List.mem_flatMap] at hc
        obtain ⟨r, hr, hdeny⟩ := hc
        have hrule := (AttributeRule.mem_rulesFor.mp hr).1
        exact (Policy.rulesInForce_builtIn hbuilt _ s r hrule).deny c (Option.mem_toList.mp hdeny)
      refine ⟨sel.retained.filterMap fun entry =>
        (sel.released? s entry.1 entry.2).map (Prod.mk entry.1), ?_, ?_, ?_⟩
      · rw [filter]
        simp only [hsel]
        exact Selection.release_eq_filterMap hbuiltIn
      · exact (Selection.ids_filterMap_sublist _ _).nodup hnodup
      · intro id
        rw [Selection.get?_filterMap hnodup]
        exact Selection.bind_released?_eq_outcome? hfollows id

/-- An engine that releases anything has requirements that can be evaluated. -/
theorem answered_of_filter {e : ReleaseEngine σ} (hbuilt : ∀ p ∈ e.policies, p.BuiltIn)
    {attributes m : AttributeMap} {request : Request} {s s' : σ}
    (h : e.filter attributes request s = (.ok m, s')) :
    Answered e.policies ⟨attributes, request⟩ s := by
  obtain ⟨id, policies⟩ := e
  cases policies with
  | nil => exact fun p hp => absurd hp List.not_mem_nil
  | cons p rest =>
      rw [filter] at h
      cases hsel : (Selection.start ⟨attributes, request⟩).applyPolicies (p :: rest) s with
      | mk result t =>
          cases result with
          | error e =>
              simp only [hsel] at h
              cases h
          | ok sel => exact Selection.answered_of_applyPolicies hbuilt hsel

theorem valuesOf_of_outcome {policies : List (Policy σ)} {facts : Facts} {s : σ}
    {m : AttributeMap} {id : String} (h : m.get? id = outcome? policies facts s id) :
    m.valuesOf id = Policy.releasable policies facts s id := by
  rw [AttributeMap.valuesOf, h, outcome?]
  by_cases hnone : Policy.releasable policies facts s id = [] <;> simp [hnone]

/-- What an engine of built-in criteria releases: of each attribute the values that some rule in
force permits and none withholds, each where it comes first, with the comparator that the attribute
had.  Reordered policies release the same values. -/
theorem filter_releases {e : ReleaseEngine σ} (hbuilt : ∀ p ∈ e.policies, p.BuiltIn)
    {attributes m : AttributeMap} {request : Request} {s s' : σ}
    (h : e.filter attributes request s = (.ok m, s')) :
    m.ids.Nodup ∧
    (∀ id, m.get? id =
      let values := Policy.releasable e.policies ⟨attributes, request⟩ s id
      if values = [] then none
      else some ⟨id, values, (attributes.get? id).bind (·.comparator)⟩) ∧
    (∀ id v, v ∈ m.valuesOf id ↔
      (∃ p ∈ e.policies, p.applies ⟨attributes, request⟩ s = true ∧
        ∃ r ∈ p.rules, r.target = id ∧ v ∈ r.permitted ⟨attributes, request⟩ s) ∧
      ¬ ∃ p ∈ e.policies, p.applies ⟨attributes, request⟩ s = true ∧
        ∃ r ∈ p.rules, r.target = id ∧ r.withholds ⟨attributes, request⟩ s v = true) ∧
    ∀ others, Policy.Reordered e.policies others →
      ∃ m', ReleaseEngine.filter ⟨e.id, others⟩ attributes request s = (.ok m', s) ∧
        ∀ id v, v ∈ m'.valuesOf id ↔ v ∈ m.valuesOf id := by
  have hanswered := answered_of_filter hbuilt h
  obtain ⟨m₀, hm₀, hnodup, houtcome⟩ := filter_of_answered hbuilt hanswered
  have hm : m₀ = m := by
    rw [h] at hm₀
    cases hm₀
    rfl
  subst hm
  refine ⟨hnodup, houtcome, ?_, ?_⟩
  · intro id v
    rw [valuesOf_of_outcome (houtcome id)]
    exact Policy.mem_releasable
  · intro others hothers
    have hothersBuilt : ∀ p ∈ others, p.BuiltIn := hothers.builtIn hbuilt
    obtain ⟨m', hm', _, houtcome'⟩ := filter_of_answered (e := ⟨e.id, others⟩) hothersBuilt
      (hanswered.reordered hothers)
    refine ⟨m', hm', fun id v => ?_⟩
    rw [valuesOf_of_outcome (houtcome' id), valuesOf_of_outcome (houtcome id)]
    exact hothers.mem_releasable_iff _ s id v

/-! ## Overlapping policies -/

/-- Two policies with two rules each for one attribute.  The first policy withholds what the second
one permits, and the criterion that permits it is never asked. -/
def overlapping : ReleaseEngine Unit where
  id := "release"
  policies := [
    { id := "everybody", requirement := .always,
      rules := [
        { target := "role", permit := some (.value none (.exact "staff" true)) },
        { target := "role", deny := some (.value none (.exact "guest" true)) }] },
    { id := "others", requirement := .not (.request .requester (.exact "portal" true)),
      rules := [
        { target := "role", permit := some (.any [.always]) },
        { target := "mail", permit := some .always }] }]

/-- An attribute with a value that comes twice. -/
def roles : AttributeMap :=
  [("role", { id := "role",
              values := [.string "guest", .string "member", .string "staff", .string "member"] })]

/-- What is released of it: what the first policy permits comes first. -/
def releasedRoles : AttributeMap :=
  [("role", { id := "role", values := [.string "staff", .string "member"] })]

theorem overlapping_builtIn : ∀ p ∈ overlapping.policies, p.BuiltIn := by
  have everything : (Criterion.any [.always] : Criterion Unit).BuiltIn :=
    .any fun c hc => List.mem_singleton.mp hc ▸ .always
  intro p hp
  fin_cases hp
  · refine ⟨.always, fun r hr => ?_⟩
    fin_cases hr
    · constructor <;> rintro c ⟨⟩
      exact .value none _
    · constructor <;> rintro c ⟨⟩
      exact .value none _
  · refine ⟨.not (.request _ _), fun r hr => ?_⟩
    fin_cases hr
    · constructor <;> rintro c ⟨⟩
      exact everything
    · constructor <;> rintro c ⟨⟩
      exact .always

theorem filter_releases_overlapping :
    (∀ p ∈ overlapping.policies, p.BuiltIn) ∧
    overlapping.filter roles .empty () = (.ok releasedRoles, ()) ∧
    releasedRoles.get? "role" =
      some ⟨"role", Policy.releasable overlapping.policies ⟨roles, .empty⟩ () "role", none⟩ ∧
    ∀ others, Policy.Reordered overlapping.policies others →
      ∃ m, filter ⟨"release", others⟩ roles .empty () = (.ok m, ()) ∧
        ∀ id v, v ∈ m.valuesOf id ↔ v ∈ releasedRoles.valuesOf id := by
  have hfilter : overlapping.filter roles .empty () = (.ok releasedRoles, ()) := rfl
  obtain ⟨_, hget, _, hreordered⟩ := filter_releases overlapping_builtIn hfilter
  exact ⟨overlapping_builtIn, hfilter, hget "role", hreordered⟩

end ReleaseEngine

end AttributeRelease
