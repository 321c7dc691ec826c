import GatewayMigration.Gateway.Schema
import GatewayMigration.Proofs.Schema.Record
/-!
# Manifests are read as the objects they were written from

The laws of the records follow their descriptions, from the inside out: one law for each field, in
the order of the fields. What has to be checked of a record itself is that no two of its fields share
a spelling. Main statement: `manifests_roundTrip`, for Gateways, routes, policies and grants.
-/

namespace GatewayMigration

open Codec Fields

theorem ObjectMeta.codec_lawful : ObjectMeta.codec.Lawful :=
  closed_lawful ((required_lawful text_lawful).map _
    |>.seq (required_lawful text_lawful)
    |>.seq (optional_lawful (dictionary_lawful text_lawful))
    |>.seq (optional_lawful (dictionary_lawful text_lawful))) (fun _ => rfl) (by decide)

/-! ## Gateways -/

theorem SecretRef.codec_lawful : SecretRef.codec.Lawful :=
  closed_lawful ((optional_lawful text_lawful).map _
    |>.seq (optional_lawful text_lawful)
    |>.seq (required_lawful text_lawful)
    |>.seq (optional_lawful text_lawful)) (fun _ => rfl) (by decide)

theorem ListenerTls.codec_lawful : ListenerTls.codec.Lawful :=
  closed_lawful ((defaulted_lawful text_lawful).map _
    |>.seq (defaulted_lawful (list_lawful SecretRef.codec_lawful))) (fun _ => rfl)
    (by decide)

theorem Listener.codec_lawful : Listener.codec.Lawful :=
  closed_lawful ((required_lawful text_lawful).map _
    |>.seq (optional_lawful text_lawful)
    |>.seq (required_lawful integer_lawful)
    |>.seq (required_lawful text_lawful)
    |>.seq (optional_lawful ListenerTls.codec_lawful)) (fun _ => rfl) (by decide)

theorem GatewaySpec.codec_lawful : GatewaySpec.codec.Lawful :=
  closed_lawful ((required_lawful text_lawful).map _
    |>.seq (defaulted_lawful (list_lawful Listener.codec_lawful))) (fun _ => rfl)
    (by decide)

theorem Gateway.codec_lawful : Gateway.codec.Lawful :=
  closed_lawful ((defaulted_lawful text_lawful).map _
    |>.seq (defaulted_lawful text_lawful)
    |>.seq (required_lawful ObjectMeta.codec_lawful)
    |>.seq (required_lawful GatewaySpec.codec_lawful)) (fun _ => rfl) (by decide)

/-! ## Routes -/

theorem ParentRef.codec_lawful : ParentRef.codec.Lawful :=
  closed_lawful ((optional_lawful text_lawful).map _
    |>.seq (optional_lawful text_lawful)
    |>.seq (optional_lawful text_lawful)
    |>.seq (required_lawful text_lawful)
    |>.seq (optional_lawful text_lawful)) (fun _ => rfl) (by decide)

theorem PathMatch.codec_lawful : PathMatch.codec.Lawful :=
  closed_lawful ((defaulted_lawful text_lawful).map _
    |>.seq (defaulted_lawful text_lawful)) (fun _ => rfl) (by decide)

theorem RouteMatch.codec_lawful : RouteMatch.codec.Lawful :=
  closed_lawful ((optional_lawful PathMatch.codec_lawful).map _) (fun _ => rfl) (by decide)

theorem BackendRef.codec_lawful : BackendRef.codec.Lawful :=
  closed_lawful ((required_lawful text_lawful).map _
    |>.seq (optional_lawful text_lawful)
    |>.seq (optional_lawful integer_lawful)) (fun _ => rfl) (by decide)

theorem RedirectAction.codec_lawful : RedirectAction.codec.Lawful :=
  closed_lawful ((optional_lawful text_lawful).map _
    |>.seq (optional_lawful text_lawful)
    |>.seq (optional_lawful integer_lawful)
    |>.seq (optional_lawful integer_lawful)) (fun _ => rfl) (by decide)

theorem RouteFilter.codec_lawful : RouteFilter.codec.Lawful :=
  closed_lawful ((required_lawful text_lawful).map _
    |>.seq (optional_lawful RedirectAction.codec_lawful)) (fun _ => rfl) (by decide)

theorem RouteTimeouts.codec_lawful : RouteTimeouts.codec.Lawful :=
  closed_lawful ((optional_lawful text_lawful).map _
    |>.seq (optional_lawful text_lawful)) (fun _ => rfl) (by decide)

theorem RouteRule.codec_lawful : RouteRule.codec.Lawful :=
  closed_lawful ((optional_lawful (list_lawful RouteMatch.codec_lawful)).map _
    |>.seq (optional_lawful (list_lawful RouteFilter.codec_lawful))
    |>.seq (optional_lawful (list_lawful BackendRef.codec_lawful))
    |>.seq (optional_lawful RouteTimeouts.codec_lawful)) (fun _ => rfl) (by decide)

theorem HttpRouteSpec.codec_lawful : HttpRouteSpec.codec.Lawful :=
  closed_lawful ((defaulted_lawful (list_lawful ParentRef.codec_lawful)).map _
    |>.seq (defaulted_lawful (list_lawful text_lawful))
    |>.seq (defaulted_lawful (list_lawful RouteRule.codec_lawful))) (fun _ => rfl)
    (by decide)

theorem HttpRoute.codec_lawful : HttpRoute.codec.Lawful :=
  closed_lawful ((defaulted_lawful text_lawful).map _
    |>.seq (defaulted_lawful text_lawful)
    |>.seq (required_lawful ObjectMeta.codec_lawful)
    |>.seq (defaulted_lawful HttpRouteSpec.codec_lawful)) (fun _ => rfl) (by decide)

/-! ## Policies -/

theorem PolicyTarget.codec_lawful : PolicyTarget.codec.Lawful :=
  closed_lawful ((defaulted_lawful text_lawful).map _
    |>.seq (required_lawful text_lawful)
    |>.seq (required_lawful text_lawful)) (fun _ => rfl) (by decide)

theorem LocalRef.codec_lawful : LocalRef.codec.Lawful :=
  closed_lawful ((defaulted_lawful text_lawful).map _
    |>.seq (required_lawful text_lawful)
    |>.seq (required_lawful text_lawful)) (fun _ => rfl) (by decide)

theorem TlsValidation.codec_lawful : TlsValidation.codec.Lawful :=
  closed_lawful ((required_lawful text_lawful).map _
    |>.seq (optional_lawful (list_lawful LocalRef.codec_lawful))
    |>.seq (optional_lawful text_lawful)) (fun _ => rfl) (by decide)

theorem TlsPolicySpec.codec_lawful : TlsPolicySpec.codec.Lawful :=
  closed_lawful ((required_lawful (list_lawful PolicyTarget.codec_lawful)).map _
    |>.seq (required_lawful TlsValidation.codec_lawful)) (fun _ => rfl) (by decide)

theorem BackendTlsPolicy.codec_lawful : BackendTlsPolicy.codec.Lawful :=
  closed_lawful ((defaulted_lawful text_lawful).map _
    |>.seq (defaulted_lawful text_lawful)
    |>.seq (required_lawful ObjectMeta.codec_lawful)
    |>.seq (required_lawful TlsPolicySpec.codec_lawful)) (fun _ => rfl) (by decide)

/-! ## Grants -/

theorem GrantFrom.codec_lawful : GrantFrom.codec.Lawful :=
  closed_lawful ((required_lawful text_lawful).map _
    |>.seq (required_lawful text_lawful)
    |>.seq (required_lawful text_lawful)) (fun _ => rfl) (by decide)

theorem GrantTo.codec_lawful : GrantTo.codec.Lawful :=
  closed_lawful ((required_lawful text_lawful).map _
    |>.seq (required_lawful text_lawful)
    |>.seq (optional_lawful text_lawful)) (fun _ => rfl) (by decide)

theorem GrantSpec.codec_lawful : GrantSpec.codec.Lawful :=
  closed_lawful ((required_lawful (list_lawful GrantFrom.codec_lawful)).map _
    |>.seq (required_lawful (list_lawful GrantTo.codec_lawful))) (fun _ => rfl) (by decide)

theorem ReferenceGrant.codec_lawful : ReferenceGrant.codec.Lawful :=
  closed_lawful ((defaulted_lawful text_lawful).map _
    |>.seq (defaulted_lawful text_lawful)
    |>.seq (required_lawful ObjectMeta.codec_lawful)
    |>.seq (required_lawful GrantSpec.codec_lawful)) (fun _ => rfl) (by decide)

/-! ## Manifests -/

/-- Every object is read back from its manifest, and a manifest that can be read is settled by one
round of reading and writing. -/
theorem manifests_roundTrip :
    Gateway.codec.RoundTrips ∧ HttpRoute.codec.RoundTrips ∧ BackendTlsPolicy.codec.RoundTrips ∧
      ReferenceGrant.codec.RoundTrips :=
  ⟨Gateway.codec_lawful.roundTrips, HttpRoute.codec_lawful.roundTrips,
    BackendTlsPolicy.codec_lawful.roundTrips, ReferenceGrant.codec_lawful.roundTrips⟩

end GatewayMigration
