import GatewayMigration.Gateway.Basic
/-!
# Provenance

The labels and annotations that mark an object as generated and say what it was generated from.
-/

namespace GatewayMigration

def managedByLabel : String := "app.kubernetes.io/managed-by"
def migrationLabel : String := "gateway-api-migration"

def sourceAnnotationKey : String := "ingress2gateway.kubernetes.io/source"
def descriptionAnnotationKey : String := "ingress2gateway.kubernetes.io/description"
def sourceNamespaceAnnotationKey : String := "ingress2gateway.kubernetes.io/source-namespace"

/-- The labels of every generated object. -/
def generatedLabels : Labels :=
  .ofList [(managedByLabel, "ingress2gateway"), (migrationLabel, "true")]

/-- What an object was generated from, and a description unless it is empty. -/
def generatedAnnotations (source : String) (description : Option String) : Labels :=
  .ofList ((sourceAnnotationKey, source) ::
    (description.filter (!·.isEmpty)).toList.map fun d => (descriptionAnnotationKey, d))

end GatewayMigration
