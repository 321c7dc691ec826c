import GatewayMigration.Gateway.Provenance
/-!
# Grants for routes

The permission for the routes of one namespace to attach to a Gateway in another one.
-/

namespace GatewayMigration

namespace ReferenceGrant

def routeKinds : List String := ["HTTPRoute", "GRPCRoute"]

def keyFor (routeSpace : String) (gateway : ObjectKey) : ObjectKey :=
  ⟨gateway.space, "allow-routes-from-" ++ routeSpace⟩

def forRoutes (routeSpace : String) (gateway : ObjectKey) : ReferenceGrant :=
  let key := keyFor routeSpace gateway
  { metadata :=
      { name := key.name
        space := key.space
        labels := some generatedLabels
        annotations := some (.ofList
          [(sourceNamespaceAnnotationKey, routeSpace),
           (descriptionAnnotationKey,
             "Allows routes in " ++ routeSpace ++ " to attach to Gateway " ++ toString gateway)]) }
    spec :=
      { sources := routeKinds.map fun kind => ⟨gatewayGroup, kind, routeSpace⟩
        targets := [{ group := gatewayGroup, kind := "Gateway", name := some gateway.name }] } }

end ReferenceGrant

end GatewayMigration
