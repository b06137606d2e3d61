import AttributeRelease.Proofs.Resolution.Acyclic
import AttributeRelease.Proofs.Resolution.Sequence

/-!
# Plugins in progress

A walk that is watched takes down every change of what is in progress: what it was right before the
change, and what it was right after.  Watching changes nothing else.  Whatever comes of a walk, each
change puts a plugin that is not there on top of the others, or takes off the one on top, and in the
end what is in progress is what it was at first.  At every moment in between, no plugin is in
progress twice, and each is needed by the one below it.
-/

namespace AttributeRelease

variable {σ α β : Type}

/-! ## Changes -/

/-- A plugin is put in progress, or taken out of it. -/
inductive Passage
  | entered (id : String)
  | left (id : String)

/-- A change of what is in progress, which is listed from the innermost plugin on. -/
structure Change where
  passage : Passage
  before : List String
  after : List String

/-- Changes one after the other, from what is in progress at first to what is in the end.  A plugin
that is entered is put on top, and one that is left is taken from there. -/
inductive Course : List String → List Change → List String → Prop
  | nil {inProgress : List String} : Course inProgress [] inProgress
  | entered {id : String} {inProgress last : List String} {rest : List Change}
      (free : id ∉ inProgress) (next : Course (id :: inProgress) rest last) :
      Course inProgress (⟨.entered id, inProgress, id :: inProgress⟩ :: rest) last
  | left {id : String} {inProgress last : List String} {rest : List Change}
      (next : Course inProgress rest last) :
      Course (id :: inProgress) (⟨.left id, id :: inProgress, inProgress⟩ :: rest) last

theorem Course.append {first mid last : List String} {changes more : List Change}
    (h : Course first changes mid) (next : Course mid more last) :
    Course first (changes ++ more) last := by
  induction h with
  | nil => exact next
  | entered free _ ih => exact .entered free (ih next)
  | left _ ih => exact .left (ih next)

/-- Changes from the one that enters a plugin to the one that leaves it. -/
def Encloses (id : String) (inProgress : List String) (changes : List Change) : Prop :=
  ∃ between, changes = ⟨.entered id, inProgress, id :: inProgress⟩ :: between ++
    [⟨.left id, id :: inProgress, inProgress⟩]

/-! ## Walks that are watched -/

/-- A world with the changes so far. -/
abbrev Watched (σ : Type) := List Change × σ

/-- An operation that takes no note of changes. -/
def unnoted (act : σ → β × σ) : Watched σ → β × Watched σ := fun s =>
  ((act s.2).1, (s.1, (act s.2).2))

def Connector.watched (c : Connector σ) : Connector (Watched σ) where
  id := c.id
  dependencies := c.dependencies
  failover := c.failover
  resolve request m := unnoted (c.resolve request m)
  check := unnoted c.check

def Definition.watched (d : Definition σ) : Definition (Watched σ) where
  id := d.id
  dependencies := d.dependencies
  dependencyOnly := d.dependencyOnly
  resolve request m := unnoted (d.resolve request m)
  check := unnoted d.check

/-- The plugins that a walk resolves, in a world with changes. -/
def Registry.watched (r : Registry σ) : Registry (Watched σ) where
  connectors := r.connectors.map Connector.watched
  definitions := r.definitions.map Definition.watched
  principals := []

/-- A step with a plugin in progress, which takes down both changes that this makes. -/
def Resolution.watch (id : String) (step : Step (Watched σ) α) : Step (Watched σ) α := fun x s =>
  match x.enter id with
  | .error e => (.error e, x, s)
  | .ok y =>
    match step y (s.1 ++ [⟨.entered id, x.inProgress, y.inProgress⟩], s.2) with
    | (result, z, s) =>
      (result, z.leave id, (s.1 ++ [⟨.left id, z.inProgress, (z.leave id).inProgress⟩], s.2))

namespace Registry

open Resolution (Step during discard each watch)

/-- Resolves a connector as it is resolved otherwise, but watched. -/
def watchedConnectorStep (r : Registry (Watched σ)) (visit : String → Step (Watched σ) Unit)
    (connector : String → Step (Watched σ) Sourced) (id : String) : Step (Watched σ) Sourced :=
  fun x s =>
    match x.memo.connector? id with
    | some result => (.ok result, x, s)
    | none =>
      match r.connector? id with
      | none => (.error (.unknownDataConnector id), x, s)
      | some c =>
        match watch id (withFailover visit connector c) x s with
        | (.error e, x, s) => (.error e, x, s)
        | (.ok result, x, s) => (.ok result, x.record id (.connector result), s)

/-- Resolves a definition as it is resolved otherwise, but watched. -/
def watchedDefinitionStep (r : Registry (Watched σ)) (visit : String → Step (Watched σ) Unit)
    (id : String) : Step (Watched σ) (Option Attribute) := fun x s =>
  match x.memo.definition? id with
  | some a => (.ok (some a), x, s)
  | none =>
    match r.definition? id with
    | none => (.ok none, x, s)
    | some d =>
      match watch id (withDependencies visit d) x s with
      | (.error e, x, s) => (.error e, x, s)
      | (.ok a, x, s) => (.ok (some a), x.record id (.definition a), s)

mutual

def watchedConnectorWithin (r : Registry (Watched σ)) :
    Nat → String → Step (Watched σ) Sourced
  | 0 => fun _ => outOfRoom
  | room + 1 =>
    r.watchedConnectorStep
      (r.visit (watchedConnectorWithin r room) (watchedDefinitionWithin r room))
      (watchedConnectorWithin r room)

def watchedDefinitionWithin (r : Registry (Watched σ)) :
    Nat → String → Step (Watched σ) (Option Attribute)
  | 0 => fun _ => outOfRoom
  | room + 1 =>
    r.watchedDefinitionStep
      (r.visit (watchedConnectorWithin r room) (watchedDefinitionWithin r room))

end

/-- Resolves a connector, watched. -/
def watchConnector (r : Registry σ) : String → Step (Watched σ) Sourced :=
  r.watched.watchedConnectorWithin (r.size + 1)

/-- Resolves a definition, watched. -/
def watchDefinition (r : Registry σ) : String → Step (Watched σ) (Option Attribute) :=
  r.watched.watchedDefinitionWithin (r.size + 1)

/-! ## What is in progress -/

/-- What may be in progress: plugins, none of them twice, and each a declared dependency or the
failover of the one below it. -/
structure Stacked (r : Registry σ) (inProgress : List String) : Prop where
  nodup : inProgress.Nodup
  registered : ∀ id ∈ inProgress, r.contains id = true
  linked : inProgress.IsChain fun inner outer => r.Links outer inner

/-- Ids that the innermost plugin in progress names, as its dependencies or its failover. -/
def Named (r : Registry σ) (inProgress ids : List String) : Prop :=
  ∀ innermost ∈ inProgress.head?, ∀ id ∈ ids, r.Links innermost id

/-- Changes that are made while plugins with the given ids are resolved. -/
structure Disciplined (r : Registry σ) (ids inProgress : List String) (changes : List Change) :
    Prop where
  course : Course inProgress changes inProgress
  stacked : r.Stacked inProgress → r.Named inProgress ids →
    ∀ c ∈ changes, r.Stacked c.before ∧ r.Stacked c.after

/-- What a step came to is what it came to when it was watched, and what is in progress is what it
was before.  The changes are those of resolving plugins with the given ids. -/
def Accounts (r : Registry σ) (ids : List String) (x : Resolution) (changes : List Change)
    (answer : Except ResolutionError α × Resolution × σ)
    (watched : Except ResolutionError α × Resolution × Watched σ) : Prop :=
  ∃ result y s more,
    answer = (result, y, s) ∧ watched = (result, y, (changes ++ more, s)) ∧
    y.inProgress = x.inProgress ∧ r.Disciplined ids x.inProgress more

/-- A step, and the same step watched. -/
def Watches (r : Registry σ) (ids : List String) (step : Step σ α)
    (watched : Step (Watched σ) α) : Prop :=
  ∀ x changes s, r.Accounts ids x changes (step x s) (watched x (changes, s))

section Changes

variable {r : Registry σ} {ids more inProgress : List String} {changes next : List Change}

theorem Named.append (h : r.Named inProgress (ids ++ more)) :
    r.Named inProgress ids ∧ r.Named inProgress more :=
  ⟨fun innermost hinnermost id hid => h innermost hinnermost id (List.mem_append_left _ hid),
    fun innermost hinnermost id hid => h innermost hinnermost id (List.mem_append_right _ hid)⟩

/-- A plugin that is named by the innermost one can be put on top of it. -/
theorem Stacked.push (h : r.Stacked inProgress) {id : String} (free : id ∉ inProgress)
    (registered : r.contains id = true) (named : r.Named inProgress [id]) :
    r.Stacked (id :: inProgress) where
  nodup := List.nodup_cons.mpr ⟨free, h.nodup⟩
  registered := List.forall_mem_cons.mpr ⟨registered, h.registered⟩
  linked := List.isChain_cons.mpr
    ⟨fun innermost hinnermost => named innermost hinnermost id List.mem_cons_self, h.linked⟩

theorem Disciplined.nil : r.Disciplined ids inProgress [] where
  course := .nil
  stacked _ _ _ hc := absurd hc List.not_mem_nil

/-- Where nothing is entered, there are no changes. -/
theorem Accounts.unchanged (r : Registry σ) (ids : List String) (x : Resolution)
    (changes : List Change) (result : Except ResolutionError α) (s : σ) :
    r.Accounts ids x changes (result, x, s) (result, x, (changes, s)) :=
  ⟨result, x, s, [], rfl, by rw [List.append_nil], rfl, .nil⟩

/-- It makes no difference that further plugins might have been resolved. -/
theorem Disciplined.mono (h : r.Disciplined ids inProgress changes) (hsubset : ids ⊆ more) :
    r.Disciplined more inProgress changes where
  course := h.course
  stacked hstacked hnamed := by
    apply h.stacked hstacked
    exact fun innermost hinnermost id hid => hnamed innermost hinnermost id (hsubset hid)

theorem Disciplined.append (h : r.Disciplined ids inProgress changes)
    (h' : r.Disciplined more inProgress next) :
    r.Disciplined (ids ++ more) inProgress (changes ++ next) where
  course := h.course.append h'.course
  stacked hstacked hnamed := by
    obtain ⟨hids, hmore⟩ := hnamed.append
    exact List.forall_mem_append.mpr ⟨h.stacked hstacked hids, h'.stacked hstacked hmore⟩

/-- All that happens between entering a plugin and leaving it happens on top of the plugin. -/
theorem Disciplined.within {id : String} (h : r.Disciplined ids (id :: inProgress) changes)
    (free : id ∉ inProgress) (registered : r.contains id = true)
    (named : ∀ other ∈ ids, r.Links id other) :
    r.Disciplined [id] inProgress
      (⟨.entered id, inProgress, id :: inProgress⟩ :: changes ++
        [⟨.left id, id :: inProgress, inProgress⟩]) where
  course := .entered free (h.course.append (.left .nil))
  stacked hstacked hnamed := by
    have hpush : r.Stacked (id :: inProgress) := hstacked.push free registered hnamed
    -- the plugin itself is the innermost one now, and what is resolved within is what it names
    have hids : r.Named (id :: inProgress) ids := by
      intro innermost hinnermost
      cases hinnermost
      exact named
    simp only [List.cons_append, List.forall_mem_cons, List.forall_mem_append]
    refine ⟨⟨hstacked, hpush⟩, h.stacked hpush hids, ⟨hpush, hstacked⟩, ?_⟩
    exact fun c hc => absurd hc List.not_mem_nil

end Changes

/-! ## Steps -/

section Steps

variable {r : Registry σ} {ids : List String}

theorem Watches.inProgress {step : Step σ α} {watched : Step (Watched σ) α}
    (h : r.Watches ids step watched) (x : Resolution) (s : σ) :
    (step x s).2.1.inProgress = x.inProgress := by
  obtain ⟨result, y, s', more, hstep, -, hsame, -⟩ := h x [] s
  rw [hstep]
  exact hsame

/-- Where nothing is in progress at first, only what may be is at any moment. -/
theorem Watches.stacked {step : Step σ α} {watched : Step (Watched σ) α}
    (h : r.Watches ids step watched) {x : Resolution} (hx : x.inProgress = []) (s : σ) :
    ∀ c ∈ (watched x ([], s)).2.2.1, r.Stacked c.before ∧ r.Stacked c.after := by
  obtain ⟨result, y, s', changes, -, hwatched, -, hdisciplined⟩ := h x [] s
  rw [hwatched, List.nil_append]
  apply hdisciplined.stacked
  · rw [hx]
    exact ⟨.nil, fun id hid => absurd hid List.not_mem_nil, .nil⟩
  · rw [hx]
    exact fun innermost hinnermost => nomatch hinnermost

theorem Watches.discard {step : Step σ α} {watched : Step (Watched σ) α}
    (h : r.Watches ids step watched) : r.Watches ids (discard step) (discard watched) := by
  intro x changes s
  obtain ⟨result, y, s', more, hstep, hwatched, hsame, hdisciplined⟩ := h x changes s
  simp only [Resolution.discard, hstep, hwatched]
  cases result with
  | error e => exact ⟨_, _, _, _, rfl, rfl, hsame, hdisciplined⟩
  | ok a => exact ⟨_, _, _, _, rfl, rfl, hsame, hdisciplined⟩

theorem Watches.each {step : String → Step σ α} {watched : String → Step (Watched σ) α}
    (h : ∀ id, r.Watches [id] (step id) (watched id)) (ids : List String) :
    r.Watches ids (each step ids) (each watched ids) := by
  induction ids with
  | nil =>
      exact fun x changes s => .unchanged r [] x changes (.ok []) s
  | cons id rest ih =>
      intro x changes s
      obtain ⟨result, y, s', first, hstep, hwatched, hsame, hfirst⟩ := h id x changes s
      simp only [Resolution.each, hstep, hwatched]
      cases result with
      | error e =>
          exact ⟨_, _, _, _, rfl, rfl, hsame, hfirst.mono (List.subset_append_left [id] rest)⟩
      | ok a =>
          obtain ⟨others, z, s'', second, hrest, hwatchedRest, hsameRest, hsecond⟩ :=
            ih y (changes ++ first) s'
          rw [hsame] at hsecond
          have hboth : r.Disciplined (id :: rest) x.inProgress (first ++ second) :=
            hfirst.append hsecond
          simp only [hrest, hwatchedRest, List.append_assoc]
          cases others with
          | error e => exact ⟨_, _, _, _, rfl, rfl, hsameRest.trans hsame, hboth⟩
          | ok others => exact ⟨_, _, _, _, rfl, rfl, hsameRest.trans hsame, hboth⟩

/-- A plugin is entered, what it needs is resolved on top of it, and it is left. -/
theorem Watches.within {step : Step σ α} {watched : Step (Watched σ) α}
    (h : r.Watches ids step watched) {id : String} (registered : r.contains id = true)
    (named : ∀ other ∈ ids, r.Links id other) :
    r.Watches [id] (during id step) (watch id watched) := by
  intro x changes s
  by_cases hin : id ∈ x.inProgress
  -- a plugin that is in progress already is not entered, so that the fault leaves all as it was
  · simp only [during, watch, Resolution.enter_of_mem hin]
    exact .unchanged r [id] x changes _ s
  · simp only [during, watch, Resolution.enter_of_not_mem hin]
    obtain ⟨result, y, s', more, hstep, hwatched, hsame, hdisciplined⟩ :=
      h (x.push id) (changes ++ [⟨.entered id, x.inProgress, (x.push id).inProgress⟩]) s
    have hleft : (y.leave id).inProgress = x.inProgress := Resolution.leave_inProgress hsame
    have hwithin := hdisciplined.within hin registered named
    simp only [hstep, hwatched, hleft, hsame, List.append_assoc]
    exact ⟨_, _, _, _, rfl, rfl, hleft, hwithin⟩

theorem Watches.encloses {step : Step σ α} {watched : Step (Watched σ) α}
    (h : r.Watches ids step watched) {id : String} {x : Resolution} (free : id ∉ x.inProgress)
    (s : σ) : Encloses id x.inProgress (watch id watched x ([], s)).2.2.1 := by
  obtain ⟨result, y, s', between, -, hwatched, hsame, -⟩ :=
    h (x.push id) [⟨.entered id, x.inProgress, (x.push id).inProgress⟩] s
  have hleft : (y.leave id).inProgress = x.inProgress := Resolution.leave_inProgress hsame
  refine ⟨between, ?_⟩
  simp only [watch, Resolution.enter_of_not_mem free, List.nil_append, hwatched, hleft, hsame]
  rfl

variable {visit : String → Step σ Unit} {watchedVisit : String → Step (Watched σ) Unit}
  {connector : String → Step σ Sourced} {watchedConnector : String → Step (Watched σ) Sourced}
  {definition : String → Step σ (Option Attribute)}
  {watchedDefinition : String → Step (Watched σ) (Option Attribute)}

theorem connector?_watched (r : Registry σ) (id : String) :
    r.watched.connector? id = (r.connector? id).map Connector.watched := by
  rw [connector?, connector?, watched, List.find?_map]
  rfl

theorem definition?_watched (r : Registry σ) (id : String) :
    r.watched.definition? id = (r.definition? id).map Definition.watched := by
  rw [definition?, definition?, watched, List.find?_map]
  rfl

theorem visit_watches
    (hconnector : ∀ id, r.Watches [id] (connector id) (watchedConnector id))
    (hdefinition : ∀ id, r.Watches [id] (definition id) (watchedDefinition id)) (id : String) :
    r.Watches [id] (r.visit connector definition id)
      (r.watched.visit watchedConnector watchedDefinition id) := by
  simp only [Registry.visit, connector?_watched, definition?_watched, Option.isSome_map]
  split
  · exact (hconnector id).discard
  · split
    · exact (hdefinition id).discard
    · exact fun x changes s => .unchanged r [id] x changes (.ok ()) s

/-- What a connector names is resolved, and nothing else. -/
theorem withFailover_watches (hvisit : ∀ id, r.Watches [id] (visit id) (watchedVisit id))
    (hconnector : ∀ id, r.Watches [id] (connector id) (watchedConnector id)) (c : Connector σ) :
    r.Watches (c.dependencies ++ c.failover.toList) (withFailover visit connector c)
      (withFailover watchedVisit watchedConnector c.watched) := by
  intro x changes s
  obtain ⟨result, y, s', more, heach, hwatched, hsame, hfirst⟩ :=
    Watches.each hvisit c.dependencies x changes s
  have hall : r.Disciplined (c.dependencies ++ c.failover.toList) x.inProgress more :=
    hfirst.mono (List.subset_append_left _ _)
  simp only [withFailover, Connector.watched, heach, hwatched]
  cases result with
  | error e => exact ⟨_, _, _, _, rfl, rfl, hsame, hall⟩
  | ok _ =>
      simp only [unnoted]
      rcases hown : c.resolve y.request y.memo s' with ⟨own, s''⟩
      cases own with
      | ok attributes => exact ⟨_, _, _, _, rfl, rfl, hsame, hall⟩
      | error e =>
          cases hfailover : c.failover with
          | none => exact ⟨_, _, _, _, rfl, rfl, hsame, hfailover ▸ hall⟩
          | some other =>
              -- the connector stays in progress while its failover is resolved
              obtain ⟨result, z, s₃, instead, hother, hwatchedOther, hsameOther, hsecond⟩ :=
                hconnector other y (changes ++ more) s''
              rw [hsame] at hsecond
              simp only [hother, hwatchedOther, List.append_assoc]
              exact ⟨_, _, _, _, rfl, rfl, hsameOther.trans hsame, hfirst.append hsecond⟩

theorem withDependencies_watches (hvisit : ∀ id, r.Watches [id] (visit id) (watchedVisit id))
    (d : Definition σ) :
    r.Watches d.dependencies (withDependencies visit d)
      (withDependencies watchedVisit d.watched) := by
  intro x changes s
  obtain ⟨result, y, s', more, heach, hwatched, hsame, hdisciplined⟩ :=
    Watches.each hvisit d.dependencies x changes s
  simp only [withDependencies, Definition.watched, heach, hwatched]
  cases result with
  | error e => exact ⟨_, _, _, _, rfl, rfl, hsame, hdisciplined⟩
  | ok _ => exact ⟨_, _, _, _, rfl, rfl, hsame, hdisciplined⟩

theorem connectorStep_watches (hvisit : ∀ id, r.Watches [id] (visit id) (watchedVisit id))
    (hconnector : ∀ id, r.Watches [id] (connector id) (watchedConnector id)) (id : String) :
    r.Watches [id] (r.connectorStep visit connector id)
      (r.watched.watchedConnectorStep watchedVisit watchedConnector id) := by
  intro x changes s
  simp only [connectorStep, watchedConnectorStep, connector?_watched]
  cases x.memo.connector? id with
  | some result => exact .unchanged r [id] x changes (.ok result) s
  | none =>
      cases hc : r.connector? id with
      | none => exact .unchanged r [id] x changes _ s
      | some c =>
          have hwork := work?_connector hc
          have registered : r.contains id = true := contains_id_of_work? (by rw [hwork]; rfl)
          have named : ∀ other ∈ c.dependencies ++ c.failover.toList, r.Links id other := by
            intro other hother
            apply links_of_work hwork
            exact (List.mem_append.mp hother).imp_right Option.mem_toList.mp
          obtain ⟨result, y, s', more, hstep, hwatched, hsame, hdisciplined⟩ :=
            (withFailover_watches hvisit hconnector c).within registered named x changes s
          simp only [Option.map_some, hstep, hwatched]
          cases result with
          | error e => exact ⟨_, _, _, _, rfl, rfl, hsame, hdisciplined⟩
          | ok a => exact ⟨_, _, _, _, rfl, rfl, hsame, hdisciplined⟩

theorem definitionStep_watches (hvisit : ∀ id, r.Watches [id] (visit id) (watchedVisit id))
    (id : String) :
    r.Watches [id] (r.definitionStep visit id)
      (r.watched.watchedDefinitionStep watchedVisit id) := by
  intro x changes s
  simp only [definitionStep, watchedDefinitionStep, definition?_watched]
  cases x.memo.definition? id with
  | some a => exact .unchanged r [id] x changes (.ok (some a)) s
  | none =>
      cases hd : r.definition? id with
      | none => exact .unchanged r [id] x changes (.ok none) s
      | some d =>
          have hwork := work?_definition hd
          have registered : r.contains id = true := contains_id_of_work? (by rw [hwork]; rfl)
          have named : ∀ other ∈ d.dependencies, r.Links id other := fun other hother =>
            links_of_work hwork (.inl hother)
          obtain ⟨result, y, s', more, hstep, hwatched, hsame, hdisciplined⟩ :=
            (withDependencies_watches hvisit d).within registered named x changes s
          simp only [Option.map_some, hstep, hwatched]
          cases result with
          | error e => exact ⟨_, _, _, _, rfl, rfl, hsame, hdisciplined⟩
          | ok a => exact ⟨_, _, _, _, rfl, rfl, hsame, hdisciplined⟩

end Steps

/-- The induction is on the room, as steps lie in each other. -/
theorem within_watches (r : Registry σ) (room : Nat) :
    (∀ id, r.Watches [id] (r.connectorWithin room id)
        (r.watched.watchedConnectorWithin room id)) ∧
      ∀ id, r.Watches [id] (r.definitionWithin room id)
        (r.watched.watchedDefinitionWithin room id) := by
  induction room with
  | zero =>
      constructor
      · exact fun id x changes s => .unchanged r [id] x changes _ s
      · exact fun id x changes s => .unchanged r [id] x changes _ s
  | succ room ih =>
      obtain ⟨hconnector, hdefinition⟩ := ih
      have hvisit := visit_watches hconnector hdefinition
      constructor
      · intro id
        rw [connectorWithin, watchedConnectorWithin]
        exact connectorStep_watches hvisit hconnector id
      · intro id
        rw [definitionWithin, watchedDefinitionWithin]
        exact definitionStep_watches hvisit id

/-- A connector that has no result yet is entered first and left last. -/
theorem watchConnector_encloses {r : Registry σ} {id : String} {x : Resolution}
    (unresolved : x.memo.connector? id = none) (registered : (r.connector? id).isSome = true)
    (free : id ∉ x.inProgress) (s : σ) :
    Encloses id x.inProgress (r.watchConnector id x ([], s)).2.2.1 := by
  obtain ⟨c, hc⟩ := Option.isSome_iff_exists.mp registered
  obtain ⟨hconnector, hdefinition⟩ := r.within_watches r.size
  have hencloses :=
    (withFailover_watches (visit_watches hconnector hdefinition) hconnector c).encloses free s
  rw [watchConnector, watchedConnectorWithin]
  simp only [watchedConnectorStep, unresolved, connector?_watched, hc, Option.map_some]
  split
  · next heq => rwa [heq] at hencloses
  · next heq => rwa [heq] at hencloses

/-- So is a definition. -/
theorem watchDefinition_encloses {r : Registry σ} {id : String} {x : Resolution}
    (unresolved : x.memo.definition? id = none) (registered : (r.definition? id).isSome = true)
    (free : id ∉ x.inProgress) (s : σ) :
    Encloses id x.inProgress (r.watchDefinition id x ([], s)).2.2.1 := by
  obtain ⟨d, hd⟩ := Option.isSome_iff_exists.mp registered
  obtain ⟨hconnector, hdefinition⟩ := r.within_watches r.size
  have hencloses :=
    (withDependencies_watches (visit_watches hconnector hdefinition) d).encloses free s
  rw [watchDefinition, watchedDefinitionWithin]
  simp only [watchedDefinitionStep, unresolved, definition?_watched, hd, Option.map_some]
  split
  · next heq => rwa [heq] at hencloses
  · next heq => rwa [heq] at hencloses

end Registry

/-! ## Calls -/

namespace Resolver

open Registry (Watches)

theorem resolveIn_inProgress (e : Resolver σ) (x : Resolution) (s : σ) :
    (e.resolveIn x s).2.1.inProgress = x.inProgress := by
  have hdefinitions : ∀ id, e.registry.Watches [id] (e.registry.resolveDefinition id)
      (e.registry.watchDefinition id) := (e.registry.within_watches (e.registry.size + 1)).2
  have hsame := (Watches.each hdefinitions (e.requested x.request)).inProgress x s
  rw [resolveIn]
  split
  · rfl
  · rcases heach : Resolution.each e.registry.resolveDefinition (e.requested x.request) x s with
      ⟨result, y, s'⟩
    rw [heach] at hsame
    cases result with
    | error _ => exact hsame
    | ok _ => exact hsame

theorem answer_inProgress (e : Resolver σ) (call : Call) (x : Resolution) (s : σ) :
    (e.answer call x s).2.1.inProgress = x.inProgress := by
  obtain ⟨hconnector, hdefinition⟩ := e.registry.within_watches (e.registry.size + 1)
  cases call with
  | connector id => exact (hconnector id).inProgress x s
  | definition id => exact (hdefinition id).inProgress x s
  | attributes => exact e.resolveIn_inProgress x s

theorem answerAll_inProgress (e : Resolver σ) (calls : List Call) (x : Resolution) (s : σ) :
    (e.answerAll calls x s).2.1.inProgress = x.inProgress := by
  induction calls generalizing x s with
  | nil => rfl
  | cons call rest ih =>
      rw [answerAll_cons]
      exact (ih _ _).trans (e.answer_inProgress call x s)

end Resolver

/-- Every call for a plugin, in every resolution and whatever comes of it, makes one change of what
is in progress after the other, always on top, and in the end takes back what it put there.  A
plugin that has no result yet is the first one to be entered and the last one to be left.  So calls
leave nothing in progress where nothing was.  From there on, at every moment only plugins are, none
of them twice, and each is needed by the one below it. -/
theorem Resolver.last_in_first_out (e : Resolver σ) :
    (∀ id, e.registry.Watches [id] (e.registry.resolveConnector id)
      (e.registry.watchConnector id)) ∧
    (∀ id, e.registry.Watches [id] (e.registry.resolveDefinition id)
      (e.registry.watchDefinition id)) ∧
    (∀ (id : String) (x : Resolution) (s : σ), id ∉ x.inProgress →
      (x.memo.connector? id = none → (e.registry.connector? id).isSome = true →
        Encloses id x.inProgress (e.registry.watchConnector id x ([], s)).2.2.1) ∧
      (x.memo.definition? id = none → (e.registry.definition? id).isSome = true →
        Encloses id x.inProgress (e.registry.watchDefinition id x ([], s)).2.2.1)) ∧
    (∀ (calls : List Call) (x : Resolution) (s : σ),
      (e.answerAll calls x s).2.1.inProgress = x.inProgress) ∧
    ∀ x : Resolution, x.inProgress = [] → ∀ (s : σ) (id : String),
      (∀ c ∈ (e.registry.watchConnector id x ([], s)).2.2.1,
        e.registry.Stacked c.before ∧ e.registry.Stacked c.after) ∧
      ∀ c ∈ (e.registry.watchDefinition id x ([], s)).2.2.1,
        e.registry.Stacked c.before ∧ e.registry.Stacked c.after := by
  obtain ⟨hconnector, hdefinition⟩ := e.registry.within_watches (e.registry.size + 1)
  refine ⟨hconnector, hdefinition, ?_, e.answerAll_inProgress, ?_⟩
  · intro id x s free
    exact ⟨fun unresolved registered =>
        Registry.watchConnector_encloses unresolved registered free s,
      fun unresolved registered =>
        Registry.watchDefinition_encloses unresolved registered free s⟩
  · intro x hx s id
    exact ⟨(hconnector id).stacked hx s, (hdefinition id).stacked hx s⟩

theorem Resolver.last_in_first_out_roundabout :
    (Registry.roundabout.watchDefinition "mail" (.start .empty) ([], ())).2.2.1.map Change.after =
      [["mail"], ["directory", "mail"], ["replica", "directory", "mail"], ["directory", "mail"],
        ["mail"], []] ∧
    Encloses "mail" []
      (Registry.roundabout.watchDefinition "mail" (.start .empty) ([], ())).2.2.1 ∧
    Registry.roundabout.Stacked ["replica", "directory", "mail"] := by
  obtain ⟨-, -, hencloses, -, hstacked⟩ :=
    Resolver.last_in_first_out ⟨"resolver", Registry.roundabout⟩
  refine ⟨rfl, ?_, ?_⟩
  · exact (hencloses "mail" (.start .empty) () List.not_mem_nil).2 rfl rfl
  · exact ((hstacked (.start .empty) rfl () "mail").2
      ⟨.entered "replica", ["directory", "mail"], ["replica", "directory", "mail"]⟩
      (.tail _ (.tail _ (.head _)))).2

end AttributeRelease
