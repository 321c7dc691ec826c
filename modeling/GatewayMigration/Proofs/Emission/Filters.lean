import GatewayMigration.Emission.EnvoyFilter
import GatewayMigration.Proofs.Collections
import GatewayMigration.Proofs.Schema.Record
/-!
# The filters of a route

Main statements:

* `key_eq_iff`: a key tells concerns apart, but of the route only what a dash between its namespace
  and its name leaves;
* `forRoute_ok_iff`: the filters of a route can be made exactly if the URL of its authorization
  service, if it has one, names a cluster;
* `mem_forRoute_iff`: a route has one filter for each of its concerns, and no other one;
* `source?_wrap`, `patches?_wrap`, `targets?_wrap`: what a filter says about itself.
-/

namespace GatewayMigration

/-! ## Reading extensions -/

theorem Value.lookup_labels (name : String) (es : List (String × String)) :
    Value.lookup name ((es.map fun e => (e.1, Value.string e.2)).map fun f =>
      (Value.string f.1, f.2)) = (es.lookup name).map Value.string := by
  rw [lookup_object]
  exact OrderedMap.lookup_map_values (fun _ => Value.string) name es

namespace Extension

def field? (x : Extension) (outer inner : String) : Option Value :=
  (x.content.get? outer).bind (Value.field? inner)

/-- What an extension says it was made from. -/
def source? (x : Extension) : Option String :=
  ((x.field? "metadata" "annotations").bind (Value.field? sourceAnnotationKey)).bind Value.text?

def patches? (x : Extension) : Option (List Value) :=
  (x.field? "spec" "configPatches").bind fun v =>
    match v with
    | .list items => some items
    | _ => none

/-- The Gateway that one target of an extension means. -/
def gatewayTarget? (v : Value) : Option ObjectKey := do
  let kind ← (v.field? "kind").bind Value.text?
  let space ← (v.field? "namespace").bind Value.text?
  let name ← (v.field? "name").bind Value.text?
  if kind = "Gateway" then some ⟨space, name⟩ else none

/-- The Gateways that an extension is for; nothing if it is for something else as well. -/
def targets? (x : Extension) : Option (List ObjectKey) :=
  (x.field? "spec" "targetRefs").bind fun v =>
    match v with
    | .list items => items.mapM gatewayTarget?
    | _ => none

end Extension

theorem get?_generatedAnnotations (source : String) (description : Option String) :
    (generatedAnnotations source description).get? sourceAnnotationKey = some source := by
  have differ : descriptionAnnotationKey ≠ sourceAnnotationKey := by decide
  unfold generatedAnnotations
  rw [OrderedMap.get?_ofList]
  cases description.filter (!·.isEmpty) with
  | none => simp [OrderedMap.lookup_cons]
  | some d => simp [OrderedMap.lookup_cons, differ]

namespace EnvoyFilter

/-! ## Keys -/

/-- The names of concerns end in different letters. -/
theorem Concern.eq_of_append_eq {c d : Concern} {a b : String} (same : a ++ c.name = b ++ d.name) :
    c = d := by
  have ends := congrArg (fun s => s.toList.getLast?) same
  simp only [String.toList_append, List.getLast?_append] at ends
  cases c <;> cases d <;> first | rfl | exact absurd ends (by simp [Concern.name])

theorem key_eq_iff {l : GatewayLayout} {k k' : ObjectKey} {c c' : Concern} :
    key l k c = key l k' c' ↔
      c = c' ∧ l.filterSpace k.space = l.filterSpace k'.space ∧
        k.space ++ "-" ++ k.name = k'.space ++ "-" ++ k'.name := by
  unfold key
  constructor
  · intro same
    obtain ⟨spaces, names⟩ := ObjectKey.mk.inj same
    obtain rfl := Concern.eq_of_append_eq names
    exact ⟨rfl, spaces, (String.append_left_inj _).mp ((String.append_left_inj _).mp names)⟩
  · rintro ⟨rfl, spaces, names⟩
    rw [spaces, names]

/-- Where every namespace has its own filters, a key tells everything. -/
theorem key_injective_of_perNamespace {l : GatewayLayout} (mode : l.mode = .perNamespace)
    {k k' : ObjectKey} {c c' : Concern} (same : key l k c = key l k' c') : k = k' ∧ c = c' := by
  obtain ⟨rfl, spaces, names⟩ := key_eq_iff.mp same
  have spaces : k.space = k'.space := by simpa [GatewayLayout.filterSpace, mode] using spaces
  rw [spaces, String.append_right_inj] at names
  exact ⟨by cases k; cases k'; simp_all, rfl⟩

/-! ## The filters of a route -/

/-- A concern that settings have something to say about. -/
def Concern.IsActive (s : RouteSettings) : Concern → Prop
  | .rateLimit => ∃ rate, s.requestRate = some rate ∧ 0 < rate
  | .bodySize => s.bodySize ≠ none
  | .noBuffer => s.buffering = some false
  | .externalAuth => s.externalAuth ≠ none

theorem Concern.isActive_iff {s : RouteSettings} {c : Concern} :
    c.IsActive s ↔ ∃ made, c.patches? s = some made := by
  rw [← Option.isSome_iff_exists]
  cases c with
  | rateLimit =>
    simp only [IsActive, patches?, RouteSettings.rateLimit?, Option.isSome_map,
      Option.isSome_filter, Option.any_eq_true, decide_eq_true_eq]
  | bodySize => simp only [IsActive, patches?, Option.isSome_map, Option.isSome_iff_ne_none]
  | noBuffer =>
    by_cases off : s.buffering = some false <;>
      simp [IsActive, patches?, RouteSettings.bufferingDisabled, off]
  | externalAuth => simp only [IsActive, patches?, Option.isSome_map, Option.isSome_iff_ne_none]

/-- Only the patches of an authorization service may fail. -/
theorem Concern.patches?_error_iff {s : RouteSettings} {c : Concern} {why : Interruption} :
    c.patches? s = some (.error why) ↔
      c = .externalAuth ∧ ∃ a, s.externalAuth = some a ∧ authCluster a.url = .error why := by
  cases c with
  | externalAuth =>
    simp only [patches?, Option.map_eq_some_iff, true_and]
    refine exists_congr fun a => and_congr_right fun _ => ?_
    unfold authPatches
    cases authCluster a.url <;> simp [bind, Except.bind, pure, Except.pure]
  | rateLimit => simp [patches?]
  | bodySize => simp [patches?]
  | noBuffer => simp [patches?]

theorem mem_asked_iff {s : RouteSettings} {c : Concern} {made : Except Interruption (List Value)} :
    (c, made) ∈ (Concern.all.filterMap fun c => (c.patches? s).map fun ps => (c, ps)) ↔
      c.patches? s = some made := by
  have listed : c ∈ Concern.all := by cases c <;> decide
  simp only [List.mem_filterMap, Option.map_eq_some_iff, Prod.mk.injEq]
  constructor
  · rintro ⟨_, _, _, asked, rfl, rfl⟩
    exact asked
  · intro asked
    exact ⟨c, listed, made, asked, rfl, rfl⟩

theorem mem_forRoute_iff {l : GatewayLayout} {k : ObjectKey} {s : RouteSettings}
    {fs : List (ObjectKey × Extension)} (made : forRoute l k s = .ok fs)
    {f : ObjectKey × Extension} :
    f ∈ fs ↔ ∃ c ps, c.patches? s = some (.ok ps) ∧ f = (key l k c, wrap l k c ps) := by
  rw [mem_iff_of_mapM_ok made]
  constructor
  · rintro ⟨⟨c, _ | ps⟩, asked, built⟩
    · cases built
    · exact ⟨c, ps, mem_asked_iff.mp asked, (Except.ok.inj built).symm⟩
  · rintro ⟨c, ps, asked, rfl⟩
    exact ⟨(c, .ok ps), mem_asked_iff.mpr asked, rfl⟩

theorem forRoute_ok_iff {l : GatewayLayout} {k : ObjectKey} {s : RouteSettings} :
    (∃ fs, forRoute l k s = .ok fs) ↔
      ∀ a, s.externalAuth = some a → ∃ cluster, authCluster a.url = .ok cluster := by
  unfold forRoute
  rw [exists_mapM_ok_iff]
  constructor
  · intro built a given
    cases reached : authCluster a.url with
    | ok cluster => exact ⟨cluster, rfl⟩
    | error why =>
      have fails := Concern.patches?_error_iff.mpr ⟨rfl, a, given, reached⟩
      obtain ⟨f, made⟩ := built _ (mem_asked_iff.mpr fails)
      cases made
  · rintro served ⟨c, why | ps⟩ asked
    · obtain ⟨rfl, a, given, fails⟩ := Concern.patches?_error_iff.mp (mem_asked_iff.mp asked)
      obtain ⟨cluster, reached⟩ := served a given
      cases reached.symm.trans fails
    · exact ⟨_, rfl⟩

/-! ## What a filter says about itself -/

theorem content_wrap (l : GatewayLayout) (k : ObjectKey) (c : Concern) (ps : List Value) :
    (wrap l k c ps).kind = .string "EnvoyFilter" ∧
      (wrap l k c ps).field? "spec" "configPatches" = some (.list ps) ∧
      (wrap l k c ps).field? "metadata" "annotations" = some (labelsValue
        (generatedAnnotations ("HTTPRoute/" ++ toString k)
          (some (c.name ++ " for " ++ toString k)))) := by
  refine ⟨rfl, rfl, rfl⟩

theorem source?_wrap (l : GatewayLayout) (k : ObjectKey) (c : Concern) (ps : List Value) :
    (wrap l k c ps).source? = some ("HTTPRoute/" ++ toString k) := by
  obtain ⟨-, -, annotations⟩ := content_wrap l k c ps
  unfold Extension.source?
  rw [annotations, Option.bind_some, labelsValue, Value.object, Value.field?, Value.lookup_labels]
  have found := get?_generatedAnnotations ("HTTPRoute/" ++ toString k)
    (some (c.name ++ " for " ++ toString k))
  rw [OrderedMap.get?] at found
  rw [found]
  rfl

theorem patches?_wrap (l : GatewayLayout) (k : ObjectKey) (c : Concern) (ps : List Value) :
    (wrap l k c ps).patches? = some ps := by
  obtain ⟨-, patches, -⟩ := content_wrap l k c ps
  rw [Extension.patches?, patches]
  rfl

theorem targets?_wrap (l : GatewayLayout) (k : ObjectKey) (c : Concern) (ps : List Value) :
    (wrap l k c ps).targets? = some [l.gatewayFor k.space] := rfl

end EnvoyFilter

end GatewayMigration
