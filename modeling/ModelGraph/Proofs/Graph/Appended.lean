import ModelGraph.Proofs.Action.Imports

/-!
# Appended models

An action is linked to the first model whose name occurs in its model type, so models that are
declared behind all others take no action away from its model. Read `Action.continues_of_build`
first: it compares one action among some models and among these and more. `links_kept_of_appended`
says the same of whole graphs.
-/

namespace ModelGraph

/-- The document with more models behind its own. -/
def Document.appendModels (d : Document) (more : List Document.Model) : Document :=
  { d with datamodel := { d.datamodel with models := d.datamodel.models ++ more } }

/-! ## One action -/

namespace Action

/-- What an action `a` becomes when models are appended: an action with the same name and all that
comes from it alone. If `a` is linked, nothing about it changes at all: neither its link and those
of its arguments, nor its imports, nor the texts that are generated for it. -/
structure Continues (a b : Action) : Prop where
  source_eq : b.source = a.source
  names_eq : b.names = a.names
  verb_eq : b.verb = a.verb
  modelType_eq : b.modelType = a.modelType
  argName_eq : b.argName = a.argName
  eq_of_linked : a.linkedIndex.isSome = true → b = a

variable {options : Options} {verbs : List String} {models longer : List Model}
  {source : Document.Operation} {names : Name.Forms} {verb : String} {a b : Action}

/-- An action that leads to one of some models is the same among these and more. -/
theorem ofVerb_eq_of_prefix (hlonger : models <+: longer)
    (hlinked : (ofVerb options models source names verb).linkedIndex.isSome = true) :
    ofVerb options longer source names verb = ofVerb options models source names verb := by
  obtain ⟨i, hi⟩ := Option.isSome_iff_exists.1 hlinked
  have hfound : linkedIndex? (modelTypeOf verb source.name) models = some i := hi
  have hstill : linkedIndex? (modelTypeOf verb source.name) longer = some i :=
    hlonger.findIdx?_eq_some hfound
  have hmodel : longer[i]? = models[i]? := by
    obtain ⟨hlt, -⟩ := List.findIdx?_eq_some_iff_getElem.1 hfound
    obtain ⟨more, rfl⟩ := hlonger
    exact List.getElem?_append_left hlt
  -- An action knows the models through its link only.
  simp only [ofVerb, hfound, hstill, Option.bind_some, hmodel]

/-- One action, built from some models and from these and more. -/
theorem continues_of_build (hlonger : models <+: longer)
    (ha : (build options verbs models source).outcome = .ok a)
    (hb : (build options verbs longer source).outcome = .ok b) : Continues a b := by
  obtain ⟨names, verb, hnames, hverb, rfl⟩ := build_eq_ok_iff.1 ha
  obtain ⟨names', verb', hnames', hverb', rfl⟩ := build_eq_ok_iff.1 hb
  cases hnames.symm.trans hnames'
  cases hverb.symm.trans hverb'
  exact ⟨rfl, rfl, rfl, rfl, rfl, ofVerb_eq_of_prefix hlonger⟩

/-- The actions for some operations, built from some models and from these and more. -/
theorem continues_of_forall₂_build (hlonger : models <+: longer)
    {sources : List Document.Operation} {as bs : List Action}
    (has : List.Forall₂ (fun s a => (build options verbs models s).outcome = .ok a) sources as)
    (hbs : List.Forall₂ (fun s b => (build options verbs longer s).outcome = .ok b) sources bs) :
    List.Forall₂ Continues as bs := by
  induction has generalizing bs with
  | nil =>
      cases hbs
      exact .nil
  | cons ha _ ih =>
      cases hbs with
      | cons hb hbs => exact .cons (continues_of_build hlonger ha hb) (ih hbs)

end Action

/-! ## Datamodels and graphs -/

variable {options : Options} {verbs : List String}

/-- A datamodel with more models has the nodes of the others in front, and the same
enumerations. -/
theorem Datamodel.prefix_of_build {source : Document.Datamodel} {more : List Document.Model}
    {datamodel extended : Datamodel} (h : (build options source).outcome = .ok datamodel)
    (hextended : (build options { source with models := source.models ++ more }).outcome =
      .ok extended) :
    datamodel.models <+: extended.models ∧ extended.enums = datamodel.enums := by
  obtain ⟨hmodels, henums⟩ := build_eq_ok_iff.1 h
  obtain ⟨hall, henums'⟩ := build_eq_ok_iff.1 hextended
  have hfront := List.forall₂_take source.models.length hall
  rw [List.take_left] at hfront
  -- A node is determined by its source.
  have hsame : datamodel.models = extended.models.take source.models.length :=
    List.right_unique_forall₂' (fun _ _ _ hm hm' => Except.ok.inj (hm.symm.trans hm')) hmodels
      hfront
  constructor
  · rw [hsame]
    exact List.take_prefix _ _
  · exact List.right_unique_forall₂' (fun _ _ _ he he' => Except.ok.inj (he.symm.trans he'))
      henums' henums

namespace Graph

/-- Appending models to a document changes no node of its models and enumerations, and every action
goes on with the same verb, model type and name of its type of arguments; an action that was linked
stays as it is. -/
theorem links_kept_of_appended {document : Document} {more : List Document.Model}
    {g extended : Graph} (h : (ofDocument options verbs document).outcome = .ok g)
    (hextended : (ofDocument options verbs (document.appendModels more)).outcome = .ok extended) :
    g.datamodel.models <+: extended.datamodel.models ∧
      extended.datamodel.enums = g.datamodel.enums ∧
      List.Forall₂ Action.Continues g.queries extended.queries ∧
      List.Forall₂ Action.Continues g.mutations extended.mutations := by
  obtain ⟨-, hdatamodel, hqueries, hmutations⟩ := ofDocument_eq_ok_iff.1 h
  obtain ⟨-, hdatamodel', hqueries', hmutations'⟩ := ofDocument_eq_ok_iff.1 hextended
  obtain ⟨hlonger, henums⟩ := Datamodel.prefix_of_build hdatamodel hdatamodel'
  exact ⟨hlonger, henums, Action.continues_of_forall₂_build hlonger hqueries hqueries',
    Action.continues_of_forall₂_build hlonger hmutations hmutations'⟩

/-- The places of the models that the queries of a graph are linked to. -/
def queryLinks (g : Graph) : List (Option Nat) :=
  g.queries.map Action.linkedIndex

/-- A document with one query on its only model and one on a model that it does not have. -/
def usersAndTeams : Document :=
  .ofQueries [.plain "User" [.plain "posts" .object "Post" []]]
    [.plain "findManyUser" "User", .plain "findManyTeam" "Team"]

/-- A model whose name occurs in "User" takes no query away, and a query without a model may get
one. -/
theorem links_kept_of_use_and_team :
    ∃ g extended, (ofDocument .default Verb.all usersAndTeams).outcome = .ok g ∧
      (ofDocument .default Verb.all
        (usersAndTeams.appendModels [.plain "Use" [], .plain "Team" []])).outcome = .ok extended ∧
      g.queryLinks = [some 0, none] ∧ extended.queryLinks = [some 0, some 2] ∧
      List.Forall₂ Action.Continues g.queries extended.queries := by
  obtain ⟨g, hg, hlinks⟩ := Traced.exists_outcome_of_any
    (x := ofDocument .default Verb.all usersAndTeams)
    (p := fun g => decide (g.queryLinks = [some 0, none])) (by decide)
  obtain ⟨extended, hextended, hlinks'⟩ := Traced.exists_outcome_of_any
    (x := ofDocument .default Verb.all
      (usersAndTeams.appendModels [.plain "Use" [], .plain "Team" []]))
    (p := fun g => decide (g.queryLinks = [some 0, some 2])) (by decide)
  obtain ⟨-, -, hqueries, -⟩ := links_kept_of_appended hg hextended
  exact ⟨g, extended, hg, hextended, of_decide_eq_true hlinks, of_decide_eq_true hlinks', hqueries⟩

end Graph

end ModelGraph
