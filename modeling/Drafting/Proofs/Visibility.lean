import Drafting.Proofs.Hiding
import Drafting.Proofs.Understanding
import Drafting.Source

/-!
# Sequences of requests

A scene is asked one request after the other.  What a single request can do is
said once: it has been understood as hiding or showing one of the four layers and
does just that, or it leaves the scene as it is.  So the visibility of a layer at
the end is what the last request that set it has made of it, or what it was at the
start.
-/

namespace Drafting

/-!
## Setting layers

Setting one layer leaves the others as they are.  Hiding a list of layers hides
those that it names, and nothing else; a number that is no layer is passed over.
-/

namespace Scene

theorem isLayerVisible_setLayer (s : Scene) (l : Layer) (visible : Bool) (n : Int) :
    (s.setLayer l visible).isLayerVisible n =
      if n = l.number then visible else s.isLayerVisible n := by
  unfold isLayerVisible
  cases hlayer : Layer.ofNumber? n with
  | none =>
      have hne : n ≠ l.number := by
        rintro rfl
        rw [Layer.ofNumber?_number] at hlayer
        cases hlayer
      rw [if_neg hne]
  | some other =>
      simp only [mem_hidden_setLayer]
      by_cases hsame : other = l
      · have heq : n = l.number := hsame ▸ Layer.ofNumber?_eq_some_iff.mp hlayer
        rw [if_pos heq]
        cases visible <;> simp [hsame]
      · have hne : n ≠ l.number := by
          rw [Layer.ofNumber?_eq_some_iff.mp hlayer, Ne, Layer.number_inj]
          exact hsame
        rw [if_neg hne]
        simp [hsame]

theorem document_hideAll (s : Scene) (layers : List Int) :
    (s.hideAll layers).document = s.document := by
  induction layers generalizing s with
  | nil => rfl
  | cons layer rest ih =>
      rw [hideAll, List.foldl_cons]
      refine (ih _).trans ?_
      rw [setLayerVisible]
      cases Layer.ofNumber? layer <;> rfl

theorem isLayerVisible_hideAll (s : Scene) (layers : List Int) (n : Int) :
    (s.hideAll layers).isLayerVisible n = true ↔
      s.isLayerVisible n = true ∧ (n ∈ layers -> Layer.ofNumber? n = none) := by
  induction layers generalizing s with
  | nil => simp [hideAll]
  | cons layer rest ih =>
      cases hlayer : Layer.ofNumber? layer with
      | none =>
          have hnext : s.hideAll (layer :: rest) = s.hideAll rest := by
            rw [hideAll, List.foldl_cons, setLayerVisible, hlayer]
            rfl
          rw [hnext, ih, List.mem_cons]
          constructor
          · intro h
            refine ⟨h.1, ?_⟩
            rintro (rfl | hrest)
            · exact hlayer
            · exact h.2 hrest
          · intro h
            exact ⟨h.1, fun hrest => h.2 (Or.inr hrest)⟩
      | some l =>
          have hnext : s.hideAll (layer :: rest) = (s.setLayer l false).hideAll rest := by
            rw [hideAll, List.foldl_cons, setLayerVisible, hlayer]
            rfl
          have hnumber := Layer.ofNumber?_eq_some_iff.mp hlayer
          rw [hnext, ih, isLayerVisible_setLayer, List.mem_cons]
          by_cases hsame : n = layer
          · simp [hsame, hnumber, Layer.ofNumber?_number]
          · simp [hsame, ← hnumber]

end Scene

/-!
## One request

A request is typed as a name and arguments, and has a radius for picks that name
none.  It sets a layer if it is understood in this way and names one of the four
layers; then it sets that layer only, and in one way only.  All others leave the
scene as it is.
-/

structure TypedRequest where
  name : String
  arguments : List String
  pickRadius : Float
deriving DecidableEq

/-- A request and the scene that it is made to. -/
structure Exchange where
  request : TypedRequest
  before : Scene
deriving DecidableEq

namespace Exchange

def outcome (x : Exchange) : Except RequestError Reply × Scene :=
  x.before.answer x.request.pickRadius x.request.name x.request.arguments

def reply (x : Exchange) : Except RequestError Reply :=
  x.outcome.1

def after (x : Exchange) : Scene :=
  x.outcome.2

def Succeeds (x : Exchange) : Prop :=
  exists reply, x.reply = .ok reply

/-- The request is one to show, or to hide, the layer of that number, and is carried out. -/
def Sets (x : Exchange) (layer : Int) (visible : Bool) : Prop :=
  x.Succeeds ∧ x.request.name = Request.settingName visible ∧
    exists raw, x.request.arguments = [raw] ∧
      Decimal.readInt32 (Text.trim raw.toList) = some layer

theorem outcome_of_error {x : Exchange} {e : RequestError}
    (h : Request.ofArguments x.request.pickRadius x.request.name x.request.arguments = .error e) :
    x.outcome = (.error e, x.before) := by
  rw [outcome, Scene.answer, h]

theorem outcome_of_ok {x : Exchange} {request : Request}
    (h : Request.ofArguments x.request.pickRadius x.request.name x.request.arguments =
      .ok request) :
    x.outcome = x.before.carryOut request := by
  rw [outcome, Scene.answer, h]

theorem outcome_of_layer {x : Exchange} {l : Layer} {visible : Bool}
    (h : Request.ofArguments x.request.pickRadius x.request.name x.request.arguments =
      .ok (.setLayer l.number visible)) :
    x.outcome = (.ok (.layerSet l.number visible), x.before.setLayer l visible) := by
  rw [outcome_of_ok h, Scene.carryOut, Scene.setLayerVisible, Layer.ofNumber?_number]

theorem outcome_of_no_layer {x : Exchange} {layer : Int} {visible : Bool}
    (h : Request.ofArguments x.request.pickRadius x.request.name x.request.arguments =
      .ok (.setLayer layer visible)) (hlayer : Layer.ofNumber? layer = none) :
    x.outcome = (.error (.scene (.layerOutOfRange layer)), x.before) := by
  rw [outcome_of_ok h, Scene.carryOut, Scene.setLayerVisible, hlayer]

theorem sets_iff {x : Exchange} {layer : Int} {visible : Bool} :
    x.Sets layer visible ↔
      Request.ofArguments x.request.pickRadius x.request.name x.request.arguments =
        .ok (.setLayer layer visible) ∧ exists l : Layer, layer = l.number := by
  rw [Sets, ← @Request.ofArguments_eq_setLayer_iff x.request.pickRadius, and_comm]
  apply and_congr_right
  intro hrequest
  constructor
  · intro hsucceeds
    rcases hsucceeds with ⟨r, hr⟩
    cases hlayer : Layer.ofNumber? layer with
    | none =>
        rw [reply, outcome_of_no_layer hrequest hlayer] at hr
        cases hr
    | some l => exact ⟨l, Layer.ofNumber?_eq_some_iff.mp hlayer⟩
  · intro hlayer
    rcases hlayer with ⟨l, rfl⟩
    exact ⟨_, congrArg Prod.fst (outcome_of_layer hrequest)⟩

theorem after_of_sets {x : Exchange} {l : Layer} {visible : Bool} (h : x.Sets l.number visible) :
    x.after = x.before.setLayer l visible :=
  congrArg Prod.snd (outcome_of_layer (sets_iff.mp h).1)

theorem after_of_not_sets {x : Exchange} (h : forall layer visible, ¬ x.Sets layer visible) :
    x.after = x.before := by
  cases hrequest :
      Request.ofArguments x.request.pickRadius x.request.name x.request.arguments with
  | error e => exact congrArg Prod.snd (outcome_of_error hrequest)
  | ok request =>
      cases request with
      | pick p radius => exact congrArg Prod.snd (outcome_of_ok hrequest)
      | within area mode => exact congrArg Prod.snd (outcome_of_ok hrequest)
      | bounds => exact congrArg Prod.snd (outcome_of_ok hrequest)
      | setLayer layer visible =>
          cases hlayer : Layer.ofNumber? layer with
          | none => exact congrArg Prod.snd (outcome_of_no_layer hrequest hlayer)
          | some l =>
              have hnumber := Layer.ofNumber?_eq_some_iff.mp hlayer
              exact absurd (sets_iff.mpr ⟨hrequest, l, hnumber⟩) (h layer visible)

theorem Sets.unique {x : Exchange} {layer other : Int} {visible shown : Bool}
    (h : x.Sets layer visible) (hother : x.Sets other shown) :
    other = layer ∧ shown = visible := by
  have hsame := (sets_iff.mp hother).1
  rw [(sets_iff.mp h).1] at hsame
  cases hsame
  exact ⟨rfl, rfl⟩

theorem document_after (x : Exchange) : x.after.document = x.before.document := by
  by_cases hsets : exists layer visible, x.Sets layer visible
  · rcases hsets with ⟨layer, visible, hsets⟩
    rcases (sets_iff.mp hsets).2 with ⟨l, rfl⟩
    rw [after_of_sets hsets, Scene.document_setLayer]
  · rw [after_of_not_sets]
    intro layer visible hset
    exact hsets ⟨layer, visible, hset⟩

theorem not_sets_of_question {x : Exchange} (h : x.request.name ∈ ["pick", "within", "bounds"])
    (layer : Int) (visible : Bool) : ¬ x.Sets layer visible := by
  intro hsets
  rw [hsets.2.1] at h
  revert h
  cases visible <;> decide

theorem isDefect_reply {x : Exchange} {e : RequestError} (h : x.reply = .error e) :
    e.isDefect = false := by
  cases hrequest :
      Request.ofArguments x.request.pickRadius x.request.name x.request.arguments with
  | error cause =>
      rw [reply, outcome_of_error hrequest] at h
      cases h
      exact Request.sane_ofArguments _ _ _ e hrequest
  | ok request =>
      rw [reply, outcome_of_ok hrequest] at h
      cases request with
      | pick p radius => cases h
      | within area mode => cases h
      | bounds => cases h
      | setLayer layer visible =>
          simp only [Scene.carryOut] at h
          split at h
          · cases h
          · cases h
            rfl

theorem isLayerVisible_after_of_sets {x : Exchange} {layer : Int} {visible : Bool}
    (h : x.Sets layer visible) : x.after.isLayerVisible layer = visible := by
  rcases (sets_iff.mp h).2 with ⟨l, rfl⟩
  rw [after_of_sets h, Scene.isLayerVisible_setLayer, if_pos rfl]

theorem isLayerVisible_after_of_not_sets {x : Exchange} {layer : Int}
    (h : forall visible, ¬ x.Sets layer visible) :
    x.after.isLayerVisible layer = x.before.isLayerVisible layer := by
  by_cases hsets : exists other shown, x.Sets other shown
  · rcases hsets with ⟨other, shown, hset⟩
    rcases (sets_iff.mp hset).2 with ⟨l, rfl⟩
    have hne : layer ≠ l.number := by
      rintro rfl
      exact h shown hset
    rw [after_of_sets hset, Scene.isLayerVisible_setLayer, if_neg hne]
  · rw [after_of_not_sets]
    intro other shown hset
    exact hsets ⟨other, shown, hset⟩

/-!
## Who has set a layer last

Either no request sets the layer, or there is one that does and none behind it.
-/

def NoneSets (xs : List Exchange) (layer : Int) : Prop :=
  forall x, x ∈ xs -> forall visible, ¬ x.Sets layer visible

/-- The last of the requests that set the layer has given it this visibility. -/
def LastSets (xs : List Exchange) (layer : Int) (visible : Bool) : Prop :=
  exists earlier x later, xs = earlier ++ x :: later ∧ x.Sets layer visible ∧ NoneSets later layer

theorem noneSets_cons {x : Exchange} {xs : List Exchange} {layer : Int} :
    NoneSets (x :: xs) layer ↔ (forall visible, ¬ x.Sets layer visible) ∧ NoneSets xs layer :=
  List.forall_mem_cons

theorem not_lastSets_nil {layer : Int} {visible : Bool} : ¬ LastSets [] layer visible := by
  intro h
  rcases h with ⟨earlier, x, later, hxs, _⟩
  simp at hxs

theorem lastSets_cons {x : Exchange} {xs : List Exchange} {layer : Int} {visible : Bool} :
    LastSets (x :: xs) layer visible ↔
      LastSets xs layer visible ∨ (NoneSets xs layer ∧ x.Sets layer visible) := by
  constructor
  · intro h
    rcases h with ⟨earlier, y, later, hxs, hsets, hlater⟩
    cases earlier with
    | nil =>
        cases hxs
        exact Or.inr ⟨hlater, hsets⟩
    | cons first earlier =>
        cases hxs
        exact Or.inl ⟨earlier, y, later, rfl, hsets, hlater⟩
  · intro h
    rcases h with ⟨earlier, y, later, rfl, hsets, hlater⟩ | ⟨hnone, hsets⟩
    · exact ⟨x :: earlier, y, later, rfl, hsets, hlater⟩
    · exact ⟨[], x, xs, rfl, hsets, hnone⟩

end Exchange

/-!
## Sequences

Each request of a sequence is made to the scene that the requests before it have
left.  The last one that sets a layer decides; without any, the layer is as it
was.
-/

namespace Scene

def exchanges (s : Scene) : List TypedRequest -> List Exchange
  | [] => []
  | request :: rest =>
      { request := request, before := s } ::
        (Exchange.after { request := request, before := s }).exchanges rest

def afterRequests (s : Scene) : List TypedRequest -> Scene
  | [] => s
  | request :: rest => (Exchange.after { request := request, before := s }).afterRequests rest

theorem map_request_exchanges (s : Scene) (requests : List TypedRequest) :
    (s.exchanges requests).map Exchange.request = requests := by
  induction requests generalizing s with
  | nil => rfl
  | cons request rest ih => rw [exchanges, List.map_cons, ih]

theorem document_afterRequests (s : Scene) (requests : List TypedRequest) :
    (s.afterRequests requests).document = s.document := by
  induction requests generalizing s with
  | nil => rfl
  | cons request rest ih => rw [afterRequests, ih, Exchange.document_after]

theorem document_exchanges (s : Scene) (requests : List TypedRequest) :
    forall x, x ∈ s.exchanges requests -> x.before.document = s.document := by
  induction requests generalizing s with
  | nil =>
      intro x hx
      cases hx
  | cons request rest ih =>
      rw [exchanges, List.forall_mem_cons]
      refine ⟨rfl, ?_⟩
      intro x hx
      rw [ih _ x hx, Exchange.document_after]

theorem isLayerVisible_afterRequests (s : Scene) (requests : List TypedRequest) (n : Int) :
    (s.afterRequests requests).isLayerVisible n = true ↔
      Exchange.LastSets (s.exchanges requests) n true ∨
        (Exchange.NoneSets (s.exchanges requests) n ∧ s.isLayerVisible n = true) := by
  induction requests generalizing s with
  | nil =>
      simp [afterRequests, exchanges, Exchange.not_lastSets_nil, Exchange.NoneSets]
  | cons request rest ih =>
      rw [afterRequests, ih, exchanges, Exchange.lastSets_cons, Exchange.noneSets_cons, or_assoc]
      generalize hx : ({ request := request, before := s } : Exchange) = x
      have hbefore : x.before = s := hx ▸ rfl
      apply or_congr_right
      -- The first request decides only if it sets the layer and none behind it does.
      by_cases hsets : exists visible, x.Sets n visible
      · rcases hsets with ⟨visible, hset⟩
        have honly : x.Sets n true ↔ visible = true := by
          constructor
          · intro hshown
            exact (hshown.unique hset).2
          · rintro rfl
            exact hset
        rw [Exchange.isLayerVisible_after_of_sets hset, honly]
        constructor
        · exact Or.inl
        · rintro (h | ⟨⟨hnone, _⟩, _⟩)
          · exact h
          · exact absurd hset (hnone visible)
      · have hnone : forall visible, ¬ x.Sets n visible := by
          intro visible hset
          exact hsets ⟨visible, hset⟩
        rw [Exchange.isLayerVisible_after_of_not_sets hnone, hbefore]
        constructor
        · intro h
          exact Or.inr ⟨⟨hnone, h.1⟩, h.2⟩
        · rintro (⟨_, hset⟩ | ⟨⟨_, h⟩, hvisible⟩)
          · exact absurd hset (hnone true)
          · exact ⟨h, hvisible⟩

end Scene

namespace Loaded

theorem document_withSettings (settings : Settings) (kind : SourceKind) (path : String)
    (document : Document) (rowErrors : List RowError) :
    (withSettings settings kind path document rowErrors).scene.document = document :=
  Scene.document_hideAll (.ofDocument document) settings.hiddenLayers

theorem isLayerVisible_withSettings (settings : Settings) (kind : SourceKind) (path : String)
    (document : Document) (rowErrors : List RowError) (n : Int) :
    (withSettings settings kind path document rowErrors).scene.isLayerVisible n = true ↔
      (n ∈ settings.hiddenLayers -> Layer.ofNumber? n = none) := by
  have hbare : (Scene.ofDocument document).isLayerVisible n = true := by
    rw [Scene.isLayerVisible_iff]
    exact List.not_mem_nil
  rw [withSettings, Scene.isLayerVisible_hideAll, and_iff_right hbare]

/--
Whatever is asked of a loaded drawing: no request fails by a defect, none changes
the document, and only requests that succeed in setting a layer change the scene.
A layer is visible at the end if the last request that set it was to show it; a
layer that none has set is visible unless the settings hide it.  Layers outside
the four are always visible.
-/
theorem visibility_after_requests (settings : Settings) (kind : SourceKind) (path : String)
    (document : Document) (rowErrors : List RowError) (requests : List TypedRequest) :
    let start := (withSettings settings kind path document rowErrors).scene
    let exchanges := start.exchanges requests
    let final := start.afterRequests requests
    exchanges.map Exchange.request = requests ∧
      (forall x, x ∈ exchanges ->
        (forall e, x.reply = .error e -> e.isDefect = false) ∧
        x.before.document = document ∧ x.after.document = document ∧
        (¬ x.Succeeds ∨ x.request.name ∈ ["pick", "within", "bounds"] -> x.after = x.before)) ∧
      final.document = document ∧
      (forall n, 1 ≤ n ∧ n ≤ 4 ->
        (final.isLayerVisible n = true ↔
          Exchange.LastSets exchanges n true ∨
            (Exchange.NoneSets exchanges n ∧ n ∉ settings.hiddenLayers))) ∧
      (forall n, ¬ (1 ≤ n ∧ n ≤ 4) -> final.isLayerVisible n = true) := by
  intro start exchanges final
  have hdocument : start.document = document := document_withSettings _ _ _ _ _
  have hstart : forall n, start.isLayerVisible n = true ↔
      (n ∈ settings.hiddenLayers -> Layer.ofNumber? n = none) :=
    isLayerVisible_withSettings settings kind path document rowErrors
  refine ⟨Scene.map_request_exchanges start requests, ?_, ?_, ?_, ?_⟩
  · intro x hx
    have hbefore : x.before.document = document := by
      rw [Scene.document_exchanges start requests x hx, hdocument]
    refine ⟨fun e he => Exchange.isDefect_reply he, hbefore, ?_, ?_⟩
    · rw [Exchange.document_after, hbefore]
    · intro hidle
      apply Exchange.after_of_not_sets
      intro layer visible hsets
      rcases hidle with hfails | hquestion
      · exact hfails hsets.1
      · exact Exchange.not_sets_of_question hquestion layer visible hsets
  · rw [Scene.document_afterRequests, hdocument]
  · intro n hn
    rw [Scene.isLayerVisible_afterRequests, hstart]
    -- A number that is a layer is hidden at the start exactly if the settings have it.
    have hlayer : ¬ Layer.ofNumber? n = none := by
      rw [Layer.ofNumber?_eq_none_iff, Decidable.not_not]
      exact hn
    simp only [hlayer, imp_false]
    exact Iff.rfl
  · intro n hn
    have hlayer := Layer.ofNumber?_eq_none_iff.mpr hn
    simp only [Scene.isLayerVisible, hlayer]

end Loaded

end Drafting
