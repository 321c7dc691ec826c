import GatewayMigration.Plan.Diagnostic
/-!
# Single settings of a route

A setting is one field of `RouteSettings` with a value. Writing a setting replaces the field
(`get_write`) and no other one (`get_write_other`).
-/

namespace GatewayMigration

inductive RouteField
  | sslRedirect
  | bodySize
  | buffering
  | requestBuffering
  | requestRate
  | burst
  | connections
  | clientCert
  | externalAuth
deriving DecidableEq, Repr

namespace RouteField

def name : RouteField → String
  | .sslRedirect => "ssl_redirect"
  | .bodySize => "proxy_body_size"
  | .buffering => "proxy_buffering"
  | .requestBuffering => "proxy_request_buffering"
  | .requestRate => "rate_limit_rps"
  | .burst => "rate_limit_burst"
  | .connections => "rate_limit_connections"
  | .clientCert => "client_cert_auth"
  | .externalAuth => "external_auth"

end RouteField

inductive Setting
  | sslRedirect (on : Bool)
  | bodySize (size : BodySize)
  | buffering (on : Bool)
  | requestBuffering (on : Bool)
  | requestRate (perSecond : Int)
  | burst (n : Int)
  | connections (n : Int)
  | clientCert (c : ClientCertAuth)
  | externalAuth (a : ExternalAuth)
deriving DecidableEq, Repr

namespace Setting

def field : Setting → RouteField
  | .sslRedirect _ => .sslRedirect
  | .bodySize _ => .bodySize
  | .buffering _ => .buffering
  | .requestBuffering _ => .requestBuffering
  | .requestRate _ => .requestRate
  | .burst _ => .burst
  | .connections _ => .connections
  | .clientCert _ => .clientCert
  | .externalAuth _ => .externalAuth

/-- The value as a message shows it; an integer that is too long cannot be shown. -/
def diagnostic : Setting → Option String
  | .sslRedirect b | .buffering b | .requestBuffering b => some (flagText b)
  | .bodySize b => b.diagnostic
  | .requestRate n | .burst n | .connections n => Text.integerText? n
  | .clientCert c => c.diagnostic
  | .externalAuth a => some a.diagnostic

end Setting

namespace RouteSettings

def get (s : RouteSettings) : RouteField → Option Setting
  | .sslRedirect => s.sslRedirect.map .sslRedirect
  | .bodySize => s.bodySize.map .bodySize
  | .buffering => s.buffering.map .buffering
  | .requestBuffering => s.requestBuffering.map .requestBuffering
  | .requestRate => s.requestRate.map .requestRate
  | .burst => s.burst.map .burst
  | .connections => s.connections.map .connections
  | .clientCert => s.clientCert.map .clientCert
  | .externalAuth => s.externalAuth.map .externalAuth

def write (s : RouteSettings) : Setting → RouteSettings
  | .sslRedirect b => { s with sslRedirect := some b }
  | .bodySize b => { s with bodySize := some b }
  | .buffering b => { s with buffering := some b }
  | .requestBuffering b => { s with requestBuffering := some b }
  | .requestRate n => { s with requestRate := some n }
  | .burst n => { s with burst := some n }
  | .connections n => { s with connections := some n }
  | .clientCert c => { s with clientCert := some c }
  | .externalAuth a => { s with externalAuth := some a }

theorem get_write (s : RouteSettings) (v : Setting) : (s.write v).get v.field = some v := by
  cases v <;> rfl

theorem get_write_other (s : RouteSettings) {v : Setting} {f : RouteField} (h : v.field ≠ f) :
    (s.write v).get f = s.get f := by
  cases v <;> cases f <;> first | rfl | exact absurd rfl h

theorem field_of_get {s : RouteSettings} {f : RouteField} {v : Setting} (h : s.get f = some v) :
    v.field = f := by
  cases f <;> (simp only [get, Option.map_eq_some_iff] at h; obtain ⟨_, _, rfl⟩ := h; rfl)

/-- Settings are equal when all their fields are. -/
theorem ext_get {s t : RouteSettings} (h : ∀ f, s.get f = t.get f) : s = t := by
  cases s; cases t
  have h1 := h .sslRedirect; have h2 := h .bodySize; have h3 := h .buffering
  have h4 := h .requestBuffering; have h5 := h .requestRate; have h6 := h .burst
  have h7 := h .connections; have h8 := h .clientCert; have h9 := h .externalAuth
  simp only [get] at h1 h2 h3 h4 h5 h6 h7 h8 h9
  rw [Option.map_inj_right (by simp)] at h1 h2 h3 h4 h5 h6 h7 h8 h9
  simp [h1, h2, h3, h4, h5, h6, h7, h8, h9]

end RouteSettings

end GatewayMigration
