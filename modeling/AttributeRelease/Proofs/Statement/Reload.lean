import AttributeRelease.Proofs.Registry.Check
import AttributeRelease.Proofs.Resolution.Simulation
import AttributeRelease.Proofs.Template.Plain
import AttributeRelease.Directory.Connector
import AttributeRelease.Sql.Connector

/-!
# Reloads that are rejected

Plugins that are rejected leave a resolver as it was, but not the templates: each connector that was
made for them has registered its own.  All that a resolver can come to notice of this is what the
templates of its own connectors show.
-/

namespace AttributeRelease

variable {σ α : Type} {T : Part σ Templates}

/-! ## Worlds with the same statements -/

/-- Worlds in which the templates of some connectors show the same for all data. -/
def SameStatements (T : Part σ Templates) (ids : List String) (s t : σ) : Prop :=
  ∀ id ∈ ids, ∀ data,
    (T.get s).render ("resolver.dc." ++ id) data = (T.get t).render ("resolver.dc." ++ id) data

/-- An operation with one result, whatever the world is, which leaves the templates alone. -/
def Steady (T : Part σ Templates) (act : σ → α × σ) : Prop :=
  ∃ result, ∀ s, (act s).1 = result ∧ T.get (act s).2 = T.get s

/-- An inquiry without a cache, with a source that gives one answer to each statement. -/
structure Inquiry.Fixed (T : Part σ Templates) (q : Inquiry σ) : Prop where
  templates : q.templates = T
  uncached : q.cache = none
  ask : ∀ statement, Steady T (q.ask statement)

/-- Plugins that ask by the templates, and else do not look at the world. -/
structure Registry.Asks (T : Part σ Templates) (r : Registry σ) : Prop where
  connectors : ∀ c ∈ r.connectors, (∃ q : Inquiry σ, q.Fixed T ∧ c = q.connector) ∨
    ∀ request m, Steady T (c.resolve request m)
  definitions : ∀ d ∈ r.definitions, ∀ request m, Steady T (d.resolve request m)

theorem SameStatements.of_eq {ids : List String} {s t s' t' : σ}
    (h : SameStatements T ids s t) (hs : T.get s' = T.get s) (ht : T.get t' = T.get t) :
    SameStatements T ids s' t' := by
  intro id hid data
  rw [hs, ht]
  exact h id hid data

theorem Steady.corresponds {act : σ → α × σ} (h : Steady T act) (ids : List String) :
    Corresponds (SameStatements T ids) act act := by
  obtain ⟨result, hact⟩ := h
  intro s t hst
  have hs := hact s
  have ht := hact t
  rcases hfirst : act s with ⟨first, s'⟩
  rcases hsecond : act t with ⟨second, t'⟩
  rw [hfirst] at hs
  rw [hsecond] at ht
  obtain ⟨rfl, hs'⟩ := hs
  obtain ⟨rfl, ht'⟩ := ht
  exact ⟨_, _, _, rfl, rfl, hst.of_eq hs' ht'⟩

/-- Where the template shows the same, the source is asked with the same statement. -/
theorem Inquiry.Fixed.corresponds {q : Inquiry σ} (h : q.Fixed T) {ids : List String}
    (hid : q.settings.plugin.id ∈ ids) (request : Request) (m : Memo) :
    Corresponds (SameStatements T ids) (q.resolve request m) (q.resolve request m) := by
  intro s t hst
  have hrender : ∀ data, (T.get s).render (templateName q.settings) data =
      (T.get t).render (templateName q.settings) data := hst _ hid
  have hstatement : (T.get s).statement (templateName q.settings) q.escaping request m
      q.settings.plugin.dependencies = (T.get t).statement (templateName q.settings) q.escaping
        request m q.settings.plugin.dependencies := by
    rw [Templates.statement, Templates.statement, hrender]
  simp only [resolve, answer, h.templates, h.uncached, hstatement]
  cases (T.get t).statement (templateName q.settings) q.escaping request m
    q.settings.plugin.dependencies with
  | error e => exact ⟨_, _, _, rfl, rfl, hst⟩
  | ok text => exact (h.ask (q.statementOf text)).corresponds ids s t hst

namespace Registry.Asks

variable {r : Registry σ}

theorem corresponds (h : r.Asks T) :
    r.Corresponds (SameStatements T r.connectorIds) r where
  connectors := by
    rw [List.forall₂_same]
    intro c hc
    have hid : c.id ∈ r.connectorIds := List.mem_map_of_mem hc
    refine ⟨rfl, rfl, rfl, fun request m => ?_⟩
    rcases h.connectors c hc with ⟨q, hfixed, rfl⟩ | hsteady
    · exact hfixed.corresponds hid request m
    · exact (hsteady request m).corresponds _
  definitions := by
    rw [List.forall₂_same]
    intro d hd
    exact ⟨rfl, rfl, rfl, fun request m => (h.definitions d hd request m).corresponds _⟩

end Registry.Asks

/-- A resolver notices nothing of what its own templates do not show. -/
theorem Resolver.resolve_of_sameStatements {r : Resolver σ} (h : r.registry.Asks T)
    {s t : σ} (hst : SameStatements T r.registry.connectorIds s t) (request : Request) :
    (r.resolve request s).1 = (r.resolve request t).1 := by
  obtain ⟨result, s', t', hs, ht, -⟩ := resolve_corresponds h.corresponds request s t hst
  rw [hs, ht]

/-! ## Making connectors -/

namespace Inquiry

/-- Makes a connector. -/
def make (q : Inquiry σ) (template : String) (s : σ) : Except ResolutionError (Connector σ) × σ :=
  match registerTemplate q.settings q.templates template s with
  | (.error e, s) => (.error e, s)
  | (.ok (), s) => (.ok q.connector, s)

/-- Makes one connector after the other, up to the first one that fails. -/
def makeAll : List (Inquiry σ × String) → σ → Except ResolutionError (List (Connector σ)) × σ
  | [], s => (.ok [], s)
  | (q, template) :: rest, s =>
    match q.make template s with
    | (.error e, s) => (.error e, s)
    | (.ok c, s) =>
      match makeAll rest s with
      | (.error e, s) => (.error e, s)
      | (.ok more, s) => (.ok (c :: more), s)

end Inquiry

theorem DatabaseQuery.connector_eq_make (q : DatabaseQuery σ) (template : String) (s : σ) :
    q.connector template s = q.inquiry.make template s := by
  rcases hregister : Inquiry.registerTemplate q.settings q.templates template s with ⟨result, s'⟩
  have hmake : Inquiry.registerTemplate q.inquiry.settings q.inquiry.templates template s =
      (result, s') := hregister
  cases result with
  | error e => simp only [connector, Inquiry.make, hregister, hmake]
  | ok _ => simp only [connector, Inquiry.make, hregister, hmake]

theorem DirectorySearch.connector_eq_make {κ : Type} (d : DirectorySearch κ σ)
    (template : String) (s : σ) : d.connector template s = d.inquiry.make template s := by
  rcases hregister : Inquiry.registerTemplate d.settings d.templates template s with ⟨result, s'⟩
  have hmake : Inquiry.registerTemplate d.inquiry.settings d.inquiry.templates template s =
      (result, s') := hregister
  cases result with
  | error e => simp only [connector, Inquiry.make, hregister, hmake]
  | ok _ => simp only [connector, Inquiry.make, hregister, hmake]

namespace Inquiry

theorem templateName_eq_iff {settings : ConnectorSettings} {id : String} :
    templateName settings = "resolver.dc." ++ id ↔ settings.plugin.id = id := by
  rw [templateName]
  constructor
  · intro h
    have hchars := congrArg String.toList h
    rw [String.toList_append, String.toList_append] at hchars
    exact String.toList_inj.mp (List.append_cancel_left hchars)
  · rintro rfl
    rfl

/-- What making a connector does to the templates. -/
theorem templates_make {q : Inquiry σ} (hq : q.templates = T) (template : String) (s : σ) :
    T.get (q.make template s).2 = T.get s ∨
      (T.get s).register (templateName q.settings) template =
        .ok (T.get (q.make template s).2) := by
  subst hq
  rw [make, registerTemplate]
  cases hregister : (q.templates.get s).register (templateName q.settings) template with
  | error e => exact .inl rfl
  | ok t =>
      dsimp only
      exact .inr (by rw [q.templates.get_set])

/-- A template stays registered while connectors are made that have other ids or the same text. -/
theorem elements?_make {q : Inquiry σ} (hq : q.templates = T) {template id : String} {s : σ}
    (h : q.settings.plugin.id = id →
      Template.ofText? template = (T.get s).elements? ("resolver.dc." ++ id)) :
    (T.get (q.make template s).2).elements? ("resolver.dc." ++ id) =
      (T.get s).elements? ("resolver.dc." ++ id) := by
  rcases templates_make hq template s with hsame | hregister
  · rw [hsame]
  · rw [Templates.elements?_register hregister]
    by_cases hid : q.settings.plugin.id = id
    · rw [if_pos (templateName_eq_iff.mpr hid).symm, h hid]
    · rw [if_neg fun hname => hid (templateName_eq_iff.mp hname.symm)]

theorem elements?_makeAll {drafts : List (Inquiry σ × String)}
    (hdrafts : ∀ d ∈ drafts, d.1.templates = T) (id : String) (s : σ)
    (h : ∀ d ∈ drafts, d.1.settings.plugin.id = id →
      Template.ofText? d.2 = (T.get s).elements? ("resolver.dc." ++ id)) :
    (T.get (makeAll drafts s).2).elements? ("resolver.dc." ++ id) =
      (T.get s).elements? ("resolver.dc." ++ id) := by
  induction drafts generalizing s with
  | nil => rfl
  | cons d rest ih =>
      obtain ⟨q, template⟩ := d
      have hfirst := elements?_make (hdrafts _ List.mem_cons_self) (h _ List.mem_cons_self)
      rw [makeAll]
      rcases hmake : q.make template s with ⟨result, s'⟩
      rw [hmake] at hfirst
      cases result with
      | error e => exact hfirst
      | ok c =>
          have hdrafts' : ∀ d ∈ rest, d.1.templates = T := fun d hd =>
            hdrafts d (List.mem_cons_of_mem _ hd)
          have hrest := ih hdrafts' s' fun d hd hid =>
            (h d (List.mem_cons_of_mem _ hd) hid).trans hfirst.symm
          dsimp only
          rcases hmore : makeAll rest s' with ⟨more, s''⟩
          rw [hmore] at hrest
          cases more with
          | error e => exact hrest.trans hfirst
          | ok more => exact hrest.trans hfirst

end Inquiry

/-! ## Rejection -/

/-- Plugins whose checks leave the templates alone. -/
structure Registry.ChecksApart (T : Part σ Templates) (r : Registry σ) : Prop where
  connectors : ∀ c ∈ r.connectors, ∀ s, T.get (c.check s).2 = T.get s
  definitions : ∀ d ∈ r.definitions, ∀ s, T.get (d.check s).2 = T.get s
  principals : ∀ p ∈ r.principals, ∀ s, T.get (p.check s).2 = T.get s

namespace Resolver

theorem templates_reload {r : Resolver σ} {offered : Registry σ} (h : offered.ChecksApart T)
    (s : σ) : T.get (r.reload offered s).2 = T.get s := by
  have hcheck := Registry.check_keeps h.connectors h.definitions h.principals s
  rw [reload]
  rcases hresult : offered.check s with ⟨result, s'⟩
  rw [hresult] at hcheck
  cases result <;> exact hcheck

/-! ## A connector that is made again -/

/-- A database that answers every statement with the statement, in a world of templates. -/
def echo : Database Templates where
  query statement _ s := (.ok [[("mail", .text statement)]], s)
  connect s := (.ok (), s)
  storedProcedures := false

def echoQuery : DatabaseQuery Templates where
  settings := { plugin := { id := "db" } }
  templates := .whole
  database := echo

def echoed : Definition Templates := .copied { plugin := { id := "mail", dependencies := ["db"] } }

/-- A definition that depends on itself. -/
def looped : Definition Templates :=
  .copied { plugin := { id := "loop", dependencies := ["loop"] } }

def echoing : Resolver Templates := ⟨"resolver", ⟨[echoQuery.inquiry.connector], [echoed], []⟩⟩

/-- The templates after the connector was made. -/
def peopleTemplates : Templates := (echoQuery.connector "people" .empty).2

/-- The templates after it was made again. -/
def templatesWith (template : String) : Templates :=
  (echoQuery.connector template peopleTemplates).2

/-- The values that come out of a resolution. -/
def echoedValues (s : Templates) : Option (List (String × List Value)) :=
  (echoing.resolve .empty s).1.toOption.map fun m => m.map fun entry => (entry.1, entry.2.values)

theorem echoing_asks : echoing.registry.Asks .whole where
  connectors := by
    intro c hc
    have hfixed : echoQuery.inquiry.Fixed .whole :=
      ⟨rfl, rfl, fun statement => ⟨_, fun s => ⟨rfl, rfl⟩⟩⟩
    exact .inl ⟨echoQuery.inquiry, hfixed, List.mem_singleton.mp hc⟩
  definitions := by
    intro d hd request m
    rw [List.mem_singleton.mp hd]
    exact ⟨_, fun s => ⟨rfl, rfl⟩⟩

theorem looped_checksApart :
    Registry.ChecksApart .whole ⟨[echoQuery.inquiry.connector], [looped], []⟩ where
  connectors := by
    intro c hc s
    rw [List.mem_singleton.mp hc]
    rfl
  definitions := by
    intro d hd s
    rw [List.mem_singleton.mp hd]
    rfl
  principals := by simp

/-- After plugins were rejected, the active ones answer by the templates that the making of the
others has left.  That changes no answer if connectors that were made with the ids of active ones
have their templates too, and the active templates include no others. -/
theorem resolve_of_rejected {r : Resolver σ} (hactive : r.registry.Asks T)
    {drafts : List (Inquiry σ × String)} (hdrafts : ∀ d ∈ drafts, d.1.templates = T)
    {s s' s'' : σ} {connectors : List (Connector σ)}
    (hmade : Inquiry.makeAll drafts s = (.ok connectors, s'))
    {definitions : List (Definition σ)} {principals : List (PrincipalConnector σ)}
    (hchecks : Registry.ChecksApart T ⟨connectors, definitions, principals⟩)
    {refused : Refused ResolutionError}
    (hrejected : r.reload ⟨connectors, definitions, principals⟩ s' = (.error refused, s''))
    (request : Request) :
    (r.resolve request s'').1 = (r.resolve request (T.set (T.get s') s)).1 ∧
      ((∀ d ∈ drafts, d.1.settings.plugin.id ∈ r.registry.connectorIds →
          Template.ofText? d.2 = (T.get s).elements? (Inquiry.templateName d.1.settings)) →
        (∀ id ∈ r.registry.connectorIds, ∀ elements ∈ (T.get s).elements? ("resolver.dc." ++ id),
          Template.plain elements = true) →
        (r.resolve request s'').1 = (r.resolve request s).1) := by
  have hreload := templates_reload (r := r) hchecks s'
  rw [hrejected] at hreload
  change T.get s'' = T.get s' at hreload
  constructor
  · apply resolve_of_sameStatements hactive
    intro id hid data
    rw [hreload, T.get_set]
  · intro hsame hplain
    apply resolve_of_sameStatements hactive
    intro id hid data
    have hkept := Inquiry.elements?_makeAll hdrafts id s fun d hd hsettings => by
      rw [← hsettings]
      exact hsame d hd (hsettings ▸ hid)
    rw [hmade] at hkept
    rw [hreload]
    exact Templates.render_eq_of_plain hkept (hplain id hid) data

/-- The connector is made again with its template, beside a definition that cannot be used. -/
theorem resolve_of_rejected_people :
    echoing.reload ⟨[echoQuery.inquiry.connector], [looped], []⟩ (templatesWith "people") =
        (.error ⟨"resolver", .circularDependency "loop -> loop"⟩, templatesWith "people") ∧
      (echoing.resolve .empty (templatesWith "people")).1 =
        (echoing.resolve .empty peopleTemplates).1 := by
  have hmade : Inquiry.makeAll [(echoQuery.inquiry, "people")] peopleTemplates =
      (.ok [echoQuery.inquiry.connector], templatesWith "people") := rfl
  have hrejected : echoing.reload ⟨[echoQuery.inquiry.connector], [looped], []⟩
      (templatesWith "people") =
        (.error ⟨"resolver", .circularDependency "loop -> loop"⟩, templatesWith "people") := rfl
  have hdrafts : ∀ d ∈ [(echoQuery.inquiry, "people")], d.1.templates = .whole := by
    intro d hd
    rw [List.mem_singleton.mp hd]
    rfl
  refine ⟨hrejected, (resolve_of_rejected echoing_asks hdrafts hmade looped_checksApart hrejected
    .empty).2 ?_ ?_⟩
  · intro d hd _
    rw [List.mem_singleton.mp hd]
    rfl
  · intro id hid elements helements
    rw [List.mem_singleton.mp hid] at helements
    cases helements
    rfl

/-- The connector is made again with another template, and the active one asks by that from then
on, although the plugins were rejected. -/
theorem resolve_of_rejected_archive :
    Inquiry.makeAll [(echoQuery.inquiry, "archive")] peopleTemplates =
        (.ok [echoQuery.inquiry.connector], templatesWith "archive") ∧
      echoing.reload ⟨[echoQuery.inquiry.connector], [looped], []⟩ (templatesWith "archive") =
        (.error ⟨"resolver", .circularDependency "loop -> loop"⟩, templatesWith "archive") ∧
      echoedValues peopleTemplates = some [("mail", [.string "people"])] ∧
      echoedValues (templatesWith "archive") = some [("mail", [.string "archive"])] := by
  exact ⟨rfl, rfl, rfl, rfl⟩

end Resolver

end AttributeRelease
