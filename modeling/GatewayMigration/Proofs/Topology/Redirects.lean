import GatewayMigration.Proofs.Topology.Output
/-!
# Which redirects are there

Redirects are filed among the routes under names of their own, which end in another word than the
names of routes do, unless a host ends in it too. A route that is there stays. Main statements:

* `get?_redirect_unattached`: a redirect is there as it was built where no route has its key;
* `redirected_iff`: all routes keep their requests, and these are the redirects that are there.

`redirect_name_taken` is a redirect that is not.
-/

namespace GatewayMigration

/-- The route answers all requests on the HTTP listener of the host, with a redirect to HTTPS. -/
structure HttpRoute.Redirects (route : HttpRoute) (host : String) : Prop where
  hostnames : route.spec.hostnames = [host]
  parent : ∃ ref, route.spec.parentRefs = [ref] ∧
    ref.sectionName = some (listenerName host "http")
  rule : ∃ rule filter action, route.spec.rules = [rule] ∧ rule.backendRefs = none ∧
    rule.filters = some [filter] ∧ filter.type = "RequestRedirect" ∧
    filter.requestRedirect = some action ∧ action.scheme = some "https" ∧
    action.statusCode = some 301

/-- The routes have one name and answer the same requests, whatever they are attached to. -/
structure HttpRoute.Matches (route other : HttpRoute) : Prop where
  metadata : route.metadata = other.metadata
  hostnames : route.spec.hostnames = other.spec.hostnames
  rules : route.spec.rules = other.spec.rules

/-- A redirect is named after its route alone if the route has one hostname. -/
theorem RedirectRoute.key_eq_iff {j k : ObjectKey} {a b : String} :
    RedirectRoute.key j a [a] = RedirectRoute.key k b [b] ↔ j = k := by
  unfold RedirectRoute.key
  constructor
  · intro same
    obtain ⟨spaces, names⟩ := ObjectKey.mk.inj same
    have names : j.name = k.name := (String.append_left_inj _).mp names
    cases j
    cases k
    cases spaces
    cases names
    rfl
  · rintro rfl
    rfl

theorem RedirectRoute.redirects_retargetRefs (l : GatewayLayout) (k : ObjectKey)
    (hosts : List String) (host : String) (replaced : ObjectKey → Bool) (new : ObjectKey) :
    ((RedirectRoute.build l k hosts host).retargetRefs replaced new).Redirects host where
  hostnames := rfl
  parent := ⟨_, rfl, ParentRef.sectionName_retarget _ _ _ _⟩
  rule := ⟨_, _, _, rfl, rfl, rfl, rfl, rfl, rfl, rfl⟩

theorem Emission.wantsRedirect_iff {p : RoutePlan} :
    wantsRedirect p = true ↔ ∃ s, p.settings = some s ∧ s.sslRedirect = some true := by
  unfold wantsRedirect
  cases p.settings with
  | none => simp
  | some s => simp

namespace IngressNginx

variable {l : GatewayLayout} {is : List Ingress} {ports : Catalog PortLookup} {r : Resources}
  {k : ObjectKey} {p : RoutePlan} {host : String}

/-- A planned route has the one hostname that is in it. -/
theorem hostnames_of_planned (planned : (annotate is ports).state.plan.routes.get? k = some p)
    (named : host ∈ p.route.spec.hostnames) : p.route.spec.hostnames = [host] := by
  obtain ⟨g, -, -, -, -, hosts⟩ := route_of_planned planned
  rw [hosts] at named ⊢
  split at named
  · cases named
  · rename_i filled
    rw [if_neg filled, List.mem_singleton.mp named]

/-- A planned route is among the routes of the migration, whatever redirects there are. -/
theorem get?_planned_unattached (planned : (annotate is ports).state.plan.routes.get? k = some p) :
    (unattached l is ports).routes.get? k = some p.route := by
  rw [routes_unattached, OrderedMap.get?_foldl_insertNew, Plan.resources,
    OrderedMap.get?_mapValues, planned]
  rfl

/-- Redirects of one key are for one route, and for its one hostname. -/
theorem eq_build_of_mem_redirects
    (planned : (annotate is ports).state.plan.routes.get? k = some p)
    (named : host ∈ p.route.spec.hostnames) {redirect : HttpRoute}
    (mem : (RedirectRoute.key k host p.route.spec.hostnames, redirect) ∈
      (annotate is ports).state.plan.routes.toList.flatMap (Emission.redirectsOf l)) :
    redirect = RedirectRoute.build l k p.route.spec.hostnames host := by
  obtain ⟨⟨j, q⟩, listed, inside⟩ := List.mem_flatMap.mp mem
  obtain ⟨-, other, named', built, filed⟩ := Emission.mem_redirectsOf_iff.mp inside
  have there := OrderedMap.mem_toList.mp listed
  dsimp only at there named' built filed
  rw [built] at filed
  have same : RedirectRoute.key k host p.route.spec.hostnames =
      RedirectRoute.key j other q.route.spec.hostnames := filed
  rw [hostnames_of_planned planned named, hostnames_of_planned there named',
    RedirectRoute.key_eq_iff] at same
  subst same
  obtain rfl : p = q := Option.some.inj (planned.symm.trans there)
  rw [hostnames_of_planned planned named] at named'
  rw [built, List.mem_singleton.mp named']

/-- A redirect is there as it was built, if no route has its key. -/
theorem get?_redirect_unattached
    (planned : (annotate is ports).state.plan.routes.get? k = some p)
    (wanted : Emission.wantsRedirect p = true) (named : host ∈ p.route.spec.hostnames)
    (free : RedirectRoute.key k host p.route.spec.hostnames ∉
      (annotate is ports).state.plan.routes.keys) :
    (unattached l is ports).routes.get? (RedirectRoute.key k host p.route.spec.hostnames) =
      some (RedirectRoute.build l k p.route.spec.hostnames host) := by
  have absent : (annotate is ports).state.plan.resources.routes.get?
      (RedirectRoute.key k host p.route.spec.hostnames) = none := by
    rw [Plan.resources, OrderedMap.get?_mapValues, Option.map_eq_none_iff,
      Option.eq_none_iff_forall_ne_some]
    exact fun q there => free (OrderedMap.mem_keys_iff.mpr ⟨q, there⟩)
  rw [routes_unattached, OrderedMap.get?_foldl_insertNew, absent, Option.none_or,
    OrderedMap.lookup_eq_some_iff_mem]
  · exact List.mem_flatMap.mpr ⟨(k, p), OrderedMap.mem_toList.mpr planned,
      Emission.mem_redirectsOf_iff.mpr ⟨wanted, host, named, rfl, rfl⟩⟩
  · intro a b first second
    rw [eq_build_of_mem_redirects planned named first,
      eq_build_of_mem_redirects planned named second]

theorem Migrates.get?_routes (m : Migrates l is ports r) (j : ObjectKey) :
    r.routes.get? j = ((unattached l is ports).routes.get? j).map fun route =>
      route.retargetRefs (unattached l is ports).gateways.contains (l.gatewayFor j.space) := by
  rw [m.eq_attach, GatewayLayout.attach, OrderedMap.get?_mapValues]

/-- The route of a group is attached to no listener, so it is no redirect. -/
theorem Migrates.not_redirects (m : Migrates l is ports r)
    (taken : k ∈ (annotate is ports).state.plan.routes.keys) {route : HttpRoute}
    (found : r.routes.get? k = some route) : ¬ route.Redirects host := by
  intro redirects
  rw [keys_routes_annotate] at taken
  obtain ⟨g, kept⟩ := OrderedMap.mem_keys_iff.mp taken
  obtain ⟨lowered, there, -, parents⟩ := exists_lowered_route l ports kept
  rw [m.get?_routes, there] at found
  cases found
  obtain ⟨ref, attached, picked⟩ := redirects.parent
  unfold HttpRoute.retargetRefs at attached
  dsimp only at attached
  rw [parents] at attached
  cases attached
  rw [ParentRef.sectionName_retarget] at picked
  cases picked

/-- In the output of a complete run every planned route is there, and a route that is to be
redirected has the redirect of a hostname exactly if no route has its key. -/
theorem redirected_iff (m : Migrates l is ports r) :
    (∀ k p, (annotate is ports).state.plan.routes.get? k = some p →
      ∃ route, r.routes.get? k = some route ∧ route.Matches p.route) ∧
    ∀ k p s, (annotate is ports).state.plan.routes.get? k = some p → p.settings = some s →
      s.sslRedirect = some true → ∀ host ∈ p.route.spec.hostnames,
        ((∃ route, r.routes.get? (RedirectRoute.key k host p.route.spec.hostnames) = some route ∧
          route.Redirects host) ↔
            RedirectRoute.key k host p.route.spec.hostnames ∉
              (annotate is ports).state.plan.routes.keys) := by
  constructor
  · intro k p planned
    rw [m.get?_routes, get?_planned_unattached planned]
    exact ⟨_, rfl, rfl, rfl, rfl⟩
  · intro k p s planned given redirect host named
    constructor
    · rintro ⟨route, found, redirects⟩ taken
      exact m.not_redirects taken found redirects
    · intro free
      have wanted := Emission.wantsRedirect_iff.mpr ⟨s, given, redirect⟩
      rw [m.get?_routes, get?_redirect_unattached planned wanted named free]
      exact ⟨_, rfl, RedirectRoute.redirects_retargetRefs l k _ host _ _⟩

/-- What is planned under a key: the hostnames of the route, and whether it is to be redirected. -/
def plannedAt? (is : List Ingress) (k : ObjectKey) : Option (List String × Option Bool) :=
  ((annotate is .empty).state.plan.routes.get? k).map fun p =>
    (p.route.spec.hostnames, p.settings.bind (·.sslRedirect))

theorem exists_planned {hosts : List String} (planned : plannedAt? is k = some (hosts, some true)) :
    ∃ p s, (annotate is .empty).state.plan.routes.get? k = some p ∧ p.settings = some s ∧
      s.sslRedirect = some true ∧ p.route.spec.hostnames = hosts := by
  obtain ⟨p, there, both⟩ := Option.map_eq_some_iff.mp planned
  obtain ⟨named, redirect⟩ := Prod.mk.inj both
  obtain ⟨s, given, redirect⟩ := Option.bind_eq_some_iff.mp redirect
  exact ⟨p, s, there, given, redirect, named⟩

/-- The redirect of the one host is there. -/
theorem limited_redirected :
    ∃ route, (emit {} (annotate limited .empty).state.plan).state.resources.routes.get?
        ⟨"shop", "web-a-b-redirect"⟩ = some route ∧ route.Redirects "a.b" := by
  have planned : plannedAt? limited ⟨"shop", "web-a-b"⟩ = some (["a.b"], some true) := by
    decide +kernel
  obtain ⟨p, s, there, given, redirect, hosts⟩ := exists_planned planned
  have redirected := (redirected_iff (migrates_limited .centralized)).2 _ p s there given redirect
    "a.b" (by simp [hosts])
  rw [hosts] at redirected
  exact redirected.mpr (by decide +kernel)

/-- An Ingress with two hosts, of which the second is the first one and the word that redirects
end in. -/
def extended : List Ingress :=
  [.plain ⟨"shop", "web"⟩ [("a.b", "one"), ("a.b.redirect", "two")] []
    (.ofList [(AnnotationKey.sslRedirect, "true")])]

/-- The route of the second host has the name of the redirect for the first one, which is not
there. -/
theorem redirect_name_taken :
    (annotate extended .empty).stop = none ∧
      (emit {} (annotate extended .empty).state.plan).stop = none ∧
      ∃ p s, (annotate extended .empty).state.plan.routes.get? ⟨"shop", "web-a-b"⟩ = some p ∧
        p.settings = some s ∧ s.sslRedirect = some true ∧ p.route.spec.hostnames = ["a.b"] ∧
        ¬ ∃ route, (emit {} (annotate extended .empty).state.plan).state.resources.routes.get?
            (RedirectRoute.key ⟨"shop", "web-a-b"⟩ "a.b" ["a.b"]) = some route ∧
          route.Redirects "a.b" := by
  have planned : plannedAt? extended ⟨"shop", "web-a-b"⟩ = some (["a.b"], some true) := by
    decide +kernel
  have m : Migrates {} extended .empty
      (emit {} (annotate extended .empty).state.plan).state.resources :=
    ⟨by decide +kernel, by decide +kernel, rfl⟩
  obtain ⟨p, s, there, given, redirect, hosts⟩ := exists_planned planned
  refine ⟨m.planned, m.emitted, p, s, there, given, redirect, hosts, ?_⟩
  rintro ⟨route, found, redirects⟩
  exact m.not_redirects (by decide +kernel) found redirects

end IngressNginx

end GatewayMigration
