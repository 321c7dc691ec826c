import GatewayMigration.Proofs.Emission.Materialize
/-!
# Materializing once more

An object is added only where its key is free, so whatever the output holds already stays, and an
output that has an entry for everything the plan asks for is left as it is. Main statements:

* `settled_materialize`: a complete run leaves such an output;
* `materialize_of_settled`: on such an output a run completes and does nothing but give its advice;
* `extends_materialize`: every entry of the output before is in the output afterwards;
* `materialize_again`: so a second run of the same plan changes no object and announces no redirect.
-/

namespace GatewayMigration

/-- Every entry of the old objects is one of the new ones, with the same key, the same value and at
the same place. -/
structure Resources.Extends (new old : Resources) : Prop where
  gateways : new.gateways = old.gateways
  routes : old.routes.toList <+: new.routes.toList
  tlsPolicies : new.tlsPolicies = old.tlsPolicies
  grants : old.grants.toList <+: new.grants.toList
  extensions : old.extensions.toList <+: new.extensions.toList

/-- The message that a redirect was made. -/
def Notification.AnnouncesRedirect (n : Notification) : Prop :=
  ∃ rest, n.message = "Generated redirect" ++ rest

namespace Emission

variable {l : GatewayLayout} {plan : Plan} {e : Emission} {r : ObjectKey × RoutePlan}

/-! ## Taken keys -/

theorem addRedirects_of_taken
    (taken : ∀ x ∈ redirectsOf l r, e.resources.routes.contains x.1 = true) :
    addRedirects l e r = e := by
  unfold addRedirects
  split
  · rename_i wanted
    rw [redirectsOf, if_pos wanted] at taken
    apply foldl_of_still
    intro made mem
    exact if_pos (taken _ (List.mem_map_of_mem mem))
  · rfl

theorem addExtension_of_taken {x : ObjectKey × Extension}
    (taken : e.resources.extensions.contains x.1 = true) : addExtension e x = e := by
  unfold addExtension OrderedMap.insertNew
  rw [if_pos taken]

theorem addFilters_of_taken {fs : List (ObjectKey × Extension)} (made : filtersOf l r = .ok fs)
    (taken : ∀ x ∈ fs, e.resources.extensions.contains x.1 = true) :
    addFilters l e r = ⟨e, none⟩ := by
  rw [addFilters_of_ok made, foldl_of_still fun x mem => addExtension_of_taken (taken x mem)]

theorem addGrant_of_taken {space : String}
    (taken : (l.gatewayFor space).space ≠ space →
      e.resources.grants.contains (ReferenceGrant.keyFor space (l.gatewayFor space)) = true) :
    addGrant l e space = e := by
  unfold addGrant OrderedMap.insertNew
  dsimp only
  split
  · rfl
  · rename_i elsewhere
    rw [if_pos (taken elsewhere)]

/-! ## Settled outputs -/

/-- The output has an entry under every key that the plan asks for, whichever object it is. -/
structure Settled (l : GatewayLayout) (plan : Plan) (e : Emission) : Prop where
  redirects : ∀ r ∈ plan.routes.toList, ∀ x ∈ redirectsOf l r,
    e.resources.routes.contains x.1 = true
  filters : ∀ r ∈ plan.routes.toList, ∃ fs, filtersOf l r = .ok fs ∧
    ∀ x ∈ fs, e.resources.extensions.contains x.1 = true
  grants : ∀ x ∈ grantsFor l (routeSpaces e.resources), e.resources.grants.contains x.1 = true

theorem materialize_of_settled (settled : Settled l plan e) :
    materialize l plan e = ⟨addAdvice l plan.routes e, none⟩ := by
  have redirects : plan.routes.toList.foldl (addRedirects l) e = e :=
    foldl_of_still fun r mem => addRedirects_of_taken (settled.redirects r mem)
  have filters : Progress.each (addFilters l) e plan.routes.toList = ⟨e, none⟩ := by
    apply Progress.each_of_still
    intro r mem
    obtain ⟨fs, made, taken⟩ := settled.filters r mem
    exact addFilters_of_taken made taken
  have grants : addGrants l e = e := by
    apply foldl_of_still
    intro space mem
    apply addGrant_of_taken
    intro elsewhere
    exact settled.grants _ (mem_grantsFor_iff.mpr ⟨space, mem, elsewhere, rfl⟩)
  rw [materialize, redirects, filters, Progress.andThen_complete _ rfl, grants]

theorem settled_materialize (complete : (materialize l plan e).stop = none) :
    Settled l plan (materialize l plan e).state := by
  obtain ⟨fss, made⟩ := exists_filters (l := l) (materialize_completes_iff.mp complete)
  have output := resources_materialize made e
  constructor
  · intro r mem x wanted
    rw [output]
    exact OrderedMap.contains_foldl_insertNew _ (List.mem_flatMap.mpr ⟨r, mem, wanted⟩)
  · intro r mem
    obtain ⟨fs, own⟩ := materialize_completes_iff_made.mp complete r mem
    have listed : fs ∈ fss := (mem_iff_of_mapM_ok made).mpr ⟨r, mem, own⟩
    refine ⟨fs, own, fun x inside => ?_⟩
    rw [output]
    exact OrderedMap.contains_foldl_insertNew _ (List.mem_flatten.mpr ⟨fs, listed, inside⟩)
  · -- The grants are made last, for the namespaces of the routes that are there in the end.
    rw [output]
    exact fun x wanted => OrderedMap.contains_foldl_insertNew _ wanted

theorem extends_materialize (complete : (materialize l plan e).stop = none) :
    (materialize l plan e).state.resources.Extends e.resources := by
  obtain ⟨fss, made⟩ := exists_filters (l := l) (materialize_completes_iff.mp complete)
  rw [resources_materialize made]
  exact
    { gateways := rfl
      routes := OrderedMap.toList_prefix_foldl_insertNew _ _
      tlsPolicies := rfl
      grants := OrderedMap.toList_prefix_foldl_insertNew _ _
      extensions := OrderedMap.toList_prefix_foldl_insertNew _ _ }

/-! ## Advice -/

/-- Advice is a warning about a route, whose message begins with its kind. -/
theorem eq_warning_of_mem_advice {gateway : ObjectKey} {n : Notification}
    (mem : n ∈ advice gateway r) : ∃ rest, n = ⟨.warning, "HTTPRoute " ++ rest, some r.1⟩ := by
  unfold advice at mem
  split at mem
  · cases mem
  · rcases List.mem_append.mp mem with auth | cert
    · obtain ⟨-, -, rfl⟩ := Option.map_eq_some_iff.mp (Option.mem_toList.mp auth)
      exact ⟨_, by simp only [authAdvice, String.append_assoc]; rfl⟩
    · obtain ⟨-, -, rfl⟩ := Option.map_eq_some_iff.mp (Option.mem_toList.mp cert)
      exact ⟨_, by simp only [clientCertAdvice, String.append_assoc]; rfl⟩

theorem not_announcesRedirect_of_mem_advice {gateway : ObjectKey} {n : Notification}
    (mem : n ∈ advice gateway r) : ¬ n.AnnouncesRedirect := by
  obtain ⟨rest, rfl⟩ := eq_warning_of_mem_advice mem
  rintro ⟨rest', announced⟩
  have first := congrArg (·.toList.head?) announced
  simp [String.toList_append] at first

theorem notices_addAdvice (l : GatewayLayout) (routes : Catalog RoutePlan) (e : Emission) :
    ∃ more, (addAdvice l routes e).notices = e.notices ++ more ∧
      ∀ n ∈ more, ¬ n.AnnouncesRedirect := by
  unfold addAdvice
  split
  · refine ⟨_, rfl, fun n mem => ?_⟩
    obtain ⟨r, -, own⟩ := List.mem_flatMap.mp mem
    exact not_announcesRedirect_of_mem_advice own
  · exact ⟨[], (List.append_nil _).symm, nofun⟩

/-! ## The second run -/

/-- A complete run keeps every entry that was there. A second run of the same plan completes too,
leaves all objects as they are, and what it says announces no redirect. -/
theorem materialize_again (complete : (materialize l plan e).stop = none) :
    let once := (materialize l plan e).state
    let twice := materialize l plan once
    once.resources.Extends e.resources ∧ twice.stop = none ∧
      twice.state.resources = once.resources ∧
      ∃ more, twice.state.notices = once.notices ++ more ∧ ∀ n ∈ more, ¬ n.AnnouncesRedirect := by
  intro once twice
  have second : twice = ⟨addAdvice l plan.routes once, none⟩ :=
    materialize_of_settled (settled_materialize complete)
  rw [second]
  exact ⟨extends_materialize complete, rfl, resources_addAdvice l plan.routes once,
    notices_addAdvice l plan.routes once⟩

/-- A route with two hosts that wants TLS only. -/
def redirectedPlan : Plan where
  routes := .ofList [(⟨"shop", "web"⟩,
    { route := { metadata := { name := "web", space := "shop" }
                 spec := { hostnames := ["a.b", "c.d"] } }
      settings := some { sslRedirect := some true } })]

/-- An output that has a route of its own under the key of one of the redirects. -/
def occupied : Emission where
  resources := { routes := .ofList [(⟨"shop", "web-a-b-redirect"⟩, foreign)] }
where
  foreign : HttpRoute := { metadata := { name := "other", space := "elsewhere" } }

/-- The route that was there is kept, the first run announces the redirect that it adds, and the
second one does not. -/
theorem occupied_again :
    let once := (materialize {} redirectedPlan occupied).state
    let twice := materialize {} redirectedPlan once
    (once.resources.routes.get? ⟨"shop", "web-a-b-redirect"⟩ = some occupied.foreign ∧
      once.notices = [⟨.info, "Generated redirect HTTPRoute shop/web-c-d-redirect for c.d",
        some ⟨"shop", "web"⟩⟩]) ∧
      once.resources.Extends occupied.resources ∧ twice.stop = none ∧
      twice.state.resources = once.resources ∧
      ∃ more, twice.state.notices = once.notices ++ more ∧ ∀ n ∈ more, ¬ n.AnnouncesRedirect := by
  have first : (materialize {} redirectedPlan occupied).stop = none ∧
      (materialize {} redirectedPlan occupied).state.resources.routes.get?
        ⟨"shop", "web-a-b-redirect"⟩ = some occupied.foreign ∧
      (materialize {} redirectedPlan occupied).state.notices =
        [⟨.info, "Generated redirect HTTPRoute shop/web-c-d-redirect for c.d",
          some ⟨"shop", "web"⟩⟩] := by decide +kernel
  exact ⟨first.2, materialize_again first.1⟩

end Emission

end GatewayMigration
