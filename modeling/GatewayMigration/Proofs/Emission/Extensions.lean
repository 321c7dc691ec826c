import GatewayMigration.Proofs.Emission.Materialize
import Mathlib.Data.Finset.Card
/-!
# Which filters are kept

In an output without extensions, every concern of every route is to have a filter of its own. Of two
filters with one key only the first is kept, and in a shared namespace the keys of two routes meet
where the dash in front of the name cannot be told from one inside. Main statement: `keeps_iff`.
-/

namespace GatewayMigration

open EnvoyFilter

/-- If values that are all different are among those of another function, this one repeats none. -/
theorem injective_of_covers {α β : Type} [DecidableEq α] [DecidableEq β] {xs : List α} {f g : α → β}
    (differ : ∀ a ∈ xs, ∀ b ∈ xs, f a = f b → a = b) (covers : ∀ a ∈ xs, ∃ b ∈ xs, g b = f a) :
    ∀ a ∈ xs, ∀ b ∈ xs, g a = g b → a = b := by
  have inside : xs.toFinset.image f ⊆ xs.toFinset.image g := by
    intro y mem
    obtain ⟨a, there, rfl⟩ := Finset.mem_image.mp mem
    obtain ⟨b, other, same⟩ := covers a (List.mem_toFinset.mp there)
    exact Finset.mem_image.mpr ⟨b, List.mem_toFinset.mpr other, same⟩
  have count : (xs.toFinset.image f).card = xs.toFinset.card := by
    apply Finset.card_image_of_injOn
    intro a mem b other same
    exact differ a (by simpa using mem) b (by simpa using other) same
  have full : (xs.toFinset.image g).card = xs.toFinset.card := by
    have atLeast := Finset.card_le_card inside
    have atMost : (xs.toFinset.image g).card ≤ xs.toFinset.card := Finset.card_image_le
    omega
  intro a mem b other same
  exact Finset.card_image_iff.mp full (by simpa using mem) (by simpa using other) same

namespace Plan

/-- A route whose settings have something to say about a concern. -/
def IsActive (p : Plan) (k : ObjectKey) (c : Concern) : Prop :=
  ∃ r s, p.routes.get? k = some r ∧ r.settings = some s ∧ c.IsActive s

/-- Every concern of every route has a filter of its own, which names the route as its source and
has the patches that the settings of the route ask for. -/
def Keeps (p : Plan) (xs : Catalog Extension) : Prop :=
  ∃ place : ObjectKey × Concern → ObjectKey,
    (∀ k c, p.IsActive k c → ∃ x ps, xs.get? (place (k, c)) = some x ∧
      x.kind = .string "EnvoyFilter" ∧ x.source? = some ("HTTPRoute/" ++ toString k) ∧
      p.AsksFilter k c ps ∧ x.patches? = some ps) ∧
    ∀ k c k' c', p.IsActive k c → p.IsActive k' c' → place (k, c) = place (k', c') →
      k = k' ∧ c = c'

theorem isActive_iff_asksFilter {p : Plan} (named : p.NamesClusters) {k : ObjectKey} {c : Concern} :
    p.IsActive k c ↔ ∃ ps, p.AsksFilter k c ps := by
  constructor
  · rintro ⟨r, s, there, given, active⟩
    obtain ⟨why | ps, asks⟩ := Concern.isActive_iff.mp active
    · obtain ⟨-, a, auth, fails⟩ := Concern.patches?_error_iff.mp asks
      obtain ⟨cluster, reached⟩ := named k r s a there given auth
      cases fails.symm.trans reached
    · exact ⟨ps, r, s, there, given, asks⟩
  · rintro ⟨ps, r, s, there, given, asks⟩
    exact ⟨r, s, there, given, Concern.isActive_iff.mpr ⟨_, asks⟩⟩

/-- All pairs of a route and one of its concerns. -/
def activePairs (p : Plan) : List (ObjectKey × Concern) :=
  p.routes.toList.flatMap fun e =>
    (Concern.all.filter fun c => (e.2.settings.bind c.patches?).isSome).map fun c => (e.1, c)

theorem mem_activePairs_iff {p : Plan} {k : ObjectKey} {c : Concern} :
    (k, c) ∈ p.activePairs ↔ p.IsActive k c := by
  have listed : c ∈ Concern.all := by cases c <;> decide
  unfold activePairs
  simp only [List.mem_flatMap, List.mem_map, List.mem_filter, Prod.mk.injEq,
    Option.isSome_iff_exists, Option.bind_eq_some_iff]
  constructor
  · rintro ⟨⟨k, r⟩, there, c, ⟨-, made, s, given, asks⟩, rfl, rfl⟩
    exact ⟨r, s, OrderedMap.mem_toList.mp there, given, Concern.isActive_iff.mpr ⟨made, asks⟩⟩
  · rintro ⟨r, s, there, given, active⟩
    obtain ⟨made, asks⟩ := Concern.isActive_iff.mp active
    exact ⟨(k, r), OrderedMap.mem_toList.mpr there, c, ⟨listed, made, s, given, asks⟩, rfl, rfl⟩

end Plan

namespace Emission

variable {l : GatewayLayout} {plan : Plan} {e : Emission}

/-- Filters are kept as long as no two of them have one key. Otherwise there are fewer entries than
filters, wherever these are looked for. -/
theorem keeps_iff_keys_differ (named : plan.NamesClusters)
    (fresh : e.resources.extensions = .empty) :
    plan.Keeps (materialize l plan e).state.resources.extensions ↔
      ∀ k c k' c', plan.IsActive k c → plan.IsActive k' c' → key l k c = key l k' c' →
        k = k' ∧ c = c' := by
  have entries := get?_extensions_materialize (l := l) named fresh
  constructor
  · rintro ⟨place, held, apart⟩
    -- Wherever the filters are, each of these places is the key of some filter.
    have covers : ∀ a ∈ plan.activePairs, ∃ b ∈ plan.activePairs, key l b.1 b.2 = place a := by
      rintro ⟨k, c⟩ mem
      obtain ⟨x, -, found, -⟩ := held k c (Plan.mem_activePairs_iff.mp mem)
      obtain ⟨k', c', ps, asks, here, -⟩ := (entries _).1 x found
      exact ⟨(k', c'), Plan.mem_activePairs_iff.mpr
        ((Plan.isActive_iff_asksFilter named).mpr ⟨ps, asks⟩), here⟩
    have differ : ∀ a ∈ plan.activePairs, ∀ b ∈ plan.activePairs, place a = place b → a = b := by
      rintro ⟨k, c⟩ mem ⟨k', c'⟩ other same
      obtain ⟨rfl, rfl⟩ := apart k c k' c' (Plan.mem_activePairs_iff.mp mem)
        (Plan.mem_activePairs_iff.mp other) same
      rfl
    intro k c k' c' active active' same
    have pair : (k, c) = (k', c') := injective_of_covers differ covers _
      (Plan.mem_activePairs_iff.mpr active) _ (Plan.mem_activePairs_iff.mpr active') same
    exact Prod.mk.inj pair
  · intro differ
    refine ⟨fun a => key l a.1 a.2, ?_, differ⟩
    intro k c active
    obtain ⟨ps, asks⟩ := (Plan.isActive_iff_asksFilter named).mp active
    obtain ⟨x, found⟩ := (entries (key l k c)).2 k c ps asks rfl
    obtain ⟨k', c', qs, other, same, rfl⟩ := (entries (key l k c)).1 x found
    have active' := (Plan.isActive_iff_asksFilter named).mpr ⟨qs, other⟩
    obtain ⟨rfl, rfl⟩ := differ k' c' k c active' active same
    exact ⟨_, qs, found, rfl, source?_wrap l k' c' qs, other, patches?_wrap l k' c' qs⟩

/-- If every URL of an authorization service names a cluster, materializing completes, and it keeps
every filter exactly if there is no shared namespace in which two routes with a common concern get
one name. -/
theorem keeps_iff (named : plan.NamesClusters) (fresh : e.resources.extensions = .empty) :
    (materialize l plan e).stop = none ∧
      (plan.Keeps (materialize l plan e).state.resources.extensions ↔
        ∀ k k' c, plan.IsActive k c → plan.IsActive k' c → l.mode = .centralized →
          k.space ++ "-" ++ k.name = k'.space ++ "-" ++ k'.name → k = k') := by
  refine ⟨materialize_completes_iff.mpr named, ?_⟩
  rw [keeps_iff_keys_differ named fresh]
  constructor
  · intro differ k k' c active active' shared names
    have spaces : l.filterSpace k.space = l.filterSpace k'.space := by
      simp only [GatewayLayout.filterSpace, shared]
    exact (differ k c k' c active active' (key_eq_iff.mpr ⟨rfl, spaces, names⟩)).1
  · intro apart k c k' c' active active' same
    cases mode : l.mode with
    | perNamespace => exact key_injective_of_perNamespace mode same
    | centralized =>
      obtain ⟨rfl, -, names⟩ := key_eq_iff.mp same
      exact ⟨apart k k' c active active' mode names, rfl⟩

/-- Two routes with different rates, and a dash in the name of one and the namespace of the
other. -/
def dashedPlan : Plan where
  routes := .ofList [route ⟨"a", "b-c"⟩ 5, route ⟨"a-b", "c"⟩ 7]
where
  route (k : ObjectKey) (rate : Int) : ObjectKey × RoutePlan :=
    (k, { route := { metadata := { name := k.name, space := k.space } }
          settings := some { requestRate := some rate } })

theorem namesClusters_dashedPlan : dashedPlan.NamesClusters := by
  intro k r s a there given auth
  have free : ∀ e ∈ dashedPlan.routes.toList, e.2.settings.bind (·.externalAuth) = none := by
    decide +kernel
  have none := free (k, r) (OrderedMap.mem_toList.mpr there)
  rw [given, Option.bind_some, auth] at none
  cases none

/-- With a Gateway for each namespace both rates are kept. -/
theorem keeps_dashedPlan_perNamespace :
    dashedPlan.Keeps
      (materialize { mode := .perNamespace } dashedPlan {}).state.resources.extensions :=
  (keeps_iff namesClusters_dashedPlan rfl).2.mpr fun _ _ _ _ _ shared => nomatch shared

/-- On a shared Gateway one of the two rates is lost. -/
theorem not_keeps_dashedPlan :
    (materialize {} dashedPlan {}).stop = none ∧
      ¬ dashedPlan.Keeps (materialize {} dashedPlan {}).state.resources.extensions := by
  refine ⟨materialize_completes_iff.mpr namesClusters_dashedPlan, ?_⟩
  rw [keeps_iff_keys_differ namesClusters_dashedPlan rfl]
  intro differ
  have first : dashedPlan.IsActive ⟨"a", "b-c"⟩ .rateLimit :=
    ⟨_, _, rfl, rfl, 5, rfl, by decide⟩
  have second : dashedPlan.IsActive ⟨"a-b", "c"⟩ .rateLimit :=
    ⟨_, _, rfl, rfl, 7, rfl, by decide⟩
  exact absurd (differ _ _ _ _ first second (by decide)).1 (by decide)

end Emission

end GatewayMigration
