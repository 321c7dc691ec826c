import GatewayMigration.Annotations.All
import GatewayMigration.Proofs.Collections
/-!
# What passes have a say in

Every edit touches some aspects of the plan, and every pass has aspects of its own. Main statements:

* `aspects_sound`: the edits of a pass touch only the aspects that `passAspects` lists for it;
* `aspects_disjoint`: no aspect belongs to two passes;
* `apart_of_ne`: so edits of different passes never touch the same aspect.
-/

namespace GatewayMigration

/-! ## Aspects -/

inductive ServiceField
  | protocol
  | sslSecret
  | sslVerify
  | sslName
  | sslProtocols
  | sslCiphers
  | loadBalancing
deriving DecidableEq

/-- Whether a field of a Service has a value. -/
def ServiceSettings.isSet (s : ServiceSettings) : ServiceField → Bool
  | .protocol => s.protocol.isSome
  | .sslSecret => s.sslSecret.isSome
  | .sslVerify => s.sslVerify.isSome
  | .sslName => s.sslName.isSome
  | .sslProtocols => s.sslProtocols.isSome
  | .sslCiphers => s.sslCiphers.isSome
  | .loadBalancing => s.loadBalancing.isSome

/-- What an annotation can decide about: a field of routes, their timeouts, a field of Services, or
the policies of Services. -/
inductive Aspect
  | field (f : RouteField)
  | timeouts
  | service (f : ServiceField)
  | policies
deriving DecidableEq

namespace Edit

/-- The edit may change this aspect of the plan. -/
def Touches (a : Aspect) : Edit → Prop
  | .setting _ v _ => a = .field v.field
  | .timeouts _ _ => a = .timeouts
  | .service _ v => ∃ f, v.isSet f = true ∧ a = .service f
  | .tlsPolicy _ _ _ => a = .policies
  | .notify _ => False

/-- No aspect is touched by both edits. -/
def Apart (d e : Edit) : Prop := ∀ a, d.Touches a → ¬ e.Touches a

theorem Apart.symm {d e : Edit} (apart : d.Apart e) : e.Apart d :=
  fun a second first => apart a first second

theorem field_of_mem_settings {routes : List ObjectKey} {vs : List Setting} {source : ObjectKey}
    {e : Edit} (mem : e ∈ routes.flatMap fun k => vs.map fun v => .setting k v source) {a : Aspect}
    (touches : e.Touches a) : ∃ v ∈ vs, a = .field v.field := by
  obtain ⟨k, -, inside⟩ := List.mem_flatMap.mp mem
  obtain ⟨v, listed, rfl⟩ := List.mem_map.mp inside
  exact ⟨v, listed, touches⟩

end Edit

/-! ## The aspects of a pass -/

/-- The edits of a pass touch no other aspects than these. -/
def AnnotationPass.TouchesOnly (p : AnnotationPass) (as : List Aspect) : Prop :=
  ∀ i routes present, ∀ e ∈ (p.read i).edits routes present, ∀ a, e.Touches a → a ∈ as

/-- The passes with the aspects that they have a say in. -/
def passAspects : List (AnnotationPass × List Aspect) :=
  [(Blockers.pass, []),
   (BackendTls.pass, [.service .protocol, .service .sslSecret, .service .sslVerify,
     .service .sslName, .service .sslProtocols, .service .sslCiphers, .policies]),
   (Timeouts.pass, [.timeouts]),
   (SslRedirect.pass, [.field .sslRedirect]),
   (RateLimit.pass, [.field .requestRate, .field .burst, .field .connections]),
   (ProxySettings.pass, [.field .bodySize, .field .buffering, .field .requestBuffering,
     .service .loadBalancing]),
   (ClientCert.pass, [.field .clientCert]),
   (ExternalAuthorization.pass, [.field .externalAuth]),
   (FilterNotice.pass, [])]

theorem Blockers.touchesOnly : pass.TouchesOnly [] := by
  intro i routes present e mem a touches
  obtain ⟨n, -, rfl⟩ := List.mem_map.mp mem
  cases touches

theorem BackendTls.touchesOnly :
    pass.TouchesOnly [.service .protocol, .service .sslSecret, .service .sslVerify,
      .service .sslName, .service .sslProtocols, .service .sslCiphers, .policies] := by
  intro i routes present e mem a touches
  dsimp only [pass, reading] at mem
  split at mem
  · rcases List.mem_append.mp mem with service | policy
    · obtain ⟨b, -, rfl⟩ := List.mem_map.mp service
      obtain ⟨f, set, rfl⟩ := touches
      cases f with
      | loadBalancing => cases set
      | _ => simp
    · split at policy
      · obtain ⟨b, -, rfl⟩ := List.mem_map.mp policy
        cases touches
        simp
      · cases policy
  · cases mem

theorem Timeouts.touchesOnly : pass.TouchesOnly [.timeouts] := by
  intro i routes present e mem a touches
  dsimp only [pass, edits] at mem
  split at mem
  · obtain ⟨k, -, rfl⟩ := List.mem_map.mp mem
    cases touches
    exact .head _
  · cases mem

theorem SslRedirect.touchesOnly : pass.TouchesOnly [.field .sslRedirect] := by
  intro i routes present e mem a touches
  dsimp only [pass, edits] at mem
  split at mem
  · obtain ⟨k, -, inside⟩ := List.mem_flatMap.mp mem
    rcases List.mem_cons.mp inside with rfl | notice
    · cases touches
      exact .head _
    · cases List.mem_singleton.mp notice
      cases touches
  · cases mem

theorem RateLimit.field_of_mem_settings {i : Ingress} {rate : Option Int} {v : Setting}
    (mem : v ∈ settings i rate) : v.field ∈ [.requestRate, .burst, .connections] := by
  simp only [settings, List.mem_append, Option.mem_toList, Option.map_eq_some_iff] at mem
  rcases mem with (⟨n, -, rfl⟩ | ⟨n, -, rfl⟩) | ⟨n, -, rfl⟩
  · exact .head _
  · exact .tail _ (.head _)
  · exact .tail _ (.tail _ (.head _))

theorem RateLimit.touchesOnly :
    pass.TouchesOnly [.field .requestRate, .field .burst, .field .connections] := by
  intro i routes present e mem a touches
  dsimp only [pass, reading] at mem
  split at mem
  · cases mem
  · dsimp only at mem
    split at mem
    · obtain ⟨v, listed, rfl⟩ := Edit.field_of_mem_settings mem touches
      exact List.mem_map_of_mem (field_of_mem_settings listed)
    · cases mem

theorem ProxySettings.field_of_mem_settings {i : Ingress} {v : Setting} (mem : v ∈ settings i) :
    v.field ∈ [.bodySize, .buffering, .requestBuffering] := by
  simp only [settings, List.mem_append, Option.mem_toList, Option.map_eq_some_iff] at mem
  rcases mem with (⟨b, -, rfl⟩ | ⟨b, -, rfl⟩) | ⟨b, -, rfl⟩
  · exact .head _
  · exact .tail _ (.head _)
  · exact .tail _ (.tail _ (.head _))

theorem ProxySettings.touchesOnly :
    pass.TouchesOnly [.field .bodySize, .field .buffering, .field .requestBuffering,
      .service .loadBalancing] := by
  intro i routes present e mem a touches
  rcases List.mem_append.mp mem with setting | service
  · obtain ⟨v, listed, rfl⟩ := Edit.field_of_mem_settings setting touches
    exact List.mem_append_left [_] (List.mem_map_of_mem (field_of_mem_settings listed))
  · split at service
    · obtain ⟨b, -, rfl⟩ := List.mem_map.mp service
      obtain ⟨f, set, rfl⟩ := touches
      cases f with
      | loadBalancing => simp
      | _ => cases set
    · cases service

theorem ClientCert.touchesOnly : pass.TouchesOnly [.field .clientCert] := by
  intro i routes present e mem a touches
  dsimp only [pass, edits] at mem
  split at mem
  · obtain ⟨k, -, rfl⟩ := List.mem_map.mp mem
    cases touches
    exact .head _
  · cases mem

theorem ExternalAuthorization.touchesOnly : pass.TouchesOnly [.field .externalAuth] := by
  intro i routes present e mem a touches
  dsimp only [pass, edits] at mem
  split at mem
  · obtain ⟨k, -, rfl⟩ := List.mem_map.mp mem
    cases touches
    exact .head _
  · cases mem

theorem FilterNotice.touchesOnly : pass.TouchesOnly [] := by
  intro i routes present e mem a touches
  dsimp only [pass, edits] at mem
  split at mem
  · cases mem
  · cases List.mem_singleton.mp mem
    cases touches

theorem aspects_sound : ∀ e ∈ passAspects, e.1.TouchesOnly e.2 := by
  intro e mem
  simp only [passAspects, List.mem_cons, List.not_mem_nil, or_false] at mem
  rcases mem with rfl | rfl | rfl | rfl | rfl | rfl | rfl | rfl | rfl
  · exact Blockers.touchesOnly
  · exact BackendTls.touchesOnly
  · exact Timeouts.touchesOnly
  · exact SslRedirect.touchesOnly
  · exact RateLimit.touchesOnly
  · exact ProxySettings.touchesOnly
  · exact ClientCert.touchesOnly
  · exact ExternalAuthorization.touchesOnly
  · exact FilterNotice.touchesOnly

/-- No aspect belongs to two passes. -/
theorem aspects_disjoint : (passAspects.flatMap Prod.snd).Nodup := by decide

theorem exists_mem_passAspects {p : AnnotationPass} (mem : p ∈ annotationPasses) :
    ∃ as, (p, as) ∈ passAspects := by
  have listed : p ∈ passAspects.map Prod.fst := mem
  obtain ⟨⟨q, as⟩, there, rfl⟩ := List.mem_map.mp listed
  exact ⟨as, there⟩

/-- Edits of different passes touch nothing that is the same. -/
theorem apart_of_ne {p q : AnnotationPass} (first : p ∈ annotationPasses)
    (second : q ∈ annotationPasses) (other : p ≠ q) {i j : Ingress}
    {routes present routes' present' : List ObjectKey} {d e : Edit}
    (mem : d ∈ (p.read i).edits routes present) (mem' : e ∈ (q.read j).edits routes' present') :
    d.Apart e := by
  obtain ⟨as, listed⟩ := exists_mem_passAspects first
  obtain ⟨bs, listed'⟩ := exists_mem_passAspects second
  intro a touches touches'
  exact other (owner_unique aspects_disjoint listed listed'
    (aspects_sound _ listed i _ _ d mem a touches)
    (aspects_sound _ listed' j _ _ e mem' a touches'))

end GatewayMigration
