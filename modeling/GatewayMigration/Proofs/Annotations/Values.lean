import GatewayMigration.Proofs.Annotations.Settings
import GatewayMigration.Proofs.Annotations.ZoneRate
/-!
# What an Ingress gives its routes

Main statements:

* `Ingress.Gives`: the settings that an Ingress gives, read off its annotations;
* `Ingress.value?_eq_some_iff`: an Ingress gives at most one value for a field;
* `allWrites_eq_givenFor`: what is written into a field of a route is what its Ingresses give, in
  their order.
-/

namespace GatewayMigration

/-! ## Annotations as statements -/

namespace Ingress

theorem given?_eq_some_iff {i : Ingress} {key value : String} :
    i.given? key = some value ↔
      ∃ raw, i.annotation? key = some raw ∧ Text.strip raw = value ∧ value ≠ "" := by
  unfold given? trimmed?
  rw [Option.filter_eq_some_iff, Option.map_eq_some_iff]
  constructor
  · rintro ⟨⟨raw, there, trimmed⟩, filled⟩
    exact ⟨raw, there, trimmed, by simpa using filled⟩
  · rintro ⟨raw, there, trimmed, filled⟩
    exact ⟨⟨raw, there, trimmed⟩, by simpa using filled⟩

theorem ne_empty_of_given? {i : Ingress} {key value : String}
    (given : i.given? key = some value) : value ≠ "" := by
  obtain ⟨raw, -, -, filled⟩ := given?_eq_some_iff.mp given
  exact filled

/-- More than blanks is there, and it is an integer that is not too small. -/
def HoldsInteger (i : Ingress) (least : Int) (key : String) (n : Int) : Prop :=
  ∃ raw, i.given? key = some raw ∧ Text.readInteger raw = .ok n ∧ least ≤ n

/-- More than blanks is there, but no such integer. -/
def IsMalformed (i : Ingress) (least : Int) (key : String) : Prop :=
  (i.given? key).isSome = true ∧ ∀ n, ¬ i.HoldsInteger least key n

/-- One of the texts for on, or for off, in any case. -/
def HoldsFlag (i : Ingress) (key : String) (on : Bool) : Prop :=
  ∃ raw, i.given? key = some raw ∧ Text.lower raw ∈ if on then onTexts else offTexts

theorem value_integerFrom_iff {i : Ingress} {least n : Int} {key : String} :
    (i.integerFrom least key).value = some n ↔ i.HoldsInteger least key n := by
  unfold integerFrom HoldsInteger
  cases i.given? key with
  | none => simp
  | some raw =>
    dsimp only
    cases read : Text.readInteger raw with
    | error why => simp [read]
    | ok m =>
      by_cases small : m < least
      · have other : ¬ (m = n ∧ least ≤ n) := by
          rintro ⟨rfl, enough⟩
          omega
        simp [small, read, other]
      · have enough : least ≤ m := Int.not_lt.mp small
        simp only [if_neg small, Option.some.injEq, exists_eq_left', read, Except.ok.injEq]
        constructor
        · rintro rfl
          exact ⟨rfl, enough⟩
        · exact And.left

theorem errors_integerFrom_eq_nil_iff {i : Ingress} {least : Int} {key : String} :
    (i.integerFrom least key).errors = [] ↔ ¬ i.IsMalformed least key := by
  unfold IsMalformed
  simp only [← value_integerFrom_iff]
  unfold integerFrom
  cases i.given? key with
  | none => simp
  | some raw =>
    dsimp only
    cases Text.readInteger raw with
    | error why => simp
    | ok m =>
      by_cases small : m < least
      · simp [small]
      · simp [small]

theorem value_flag_iff {i : Ingress} {key : String} {on : Bool} :
    (i.flag key).value = some on ↔ i.HoldsFlag key on := by
  have apart : ∀ text ∈ offTexts, text ∉ onTexts := by decide
  unfold flag HoldsFlag
  cases i.given? key with
  | none => simp
  | some raw =>
    simp only [List.contains_iff_mem, Option.some.injEq, exists_eq_left']
    by_cases isOn : Text.lower raw ∈ onTexts
    · have notOff : Text.lower raw ∉ offTexts := fun isOff => apart _ isOff isOn
      cases on with
      | true => simp [isOn]
      | false => simp [isOn, notOff]
    · by_cases isOff : Text.lower raw ∈ offTexts
      · cases on with
        | true => simp [isOn, isOff]
        | false => simp [isOn, isOff]
      · cases on with
        | true => simp [isOn, isOff]
        | false => simp [isOn, isOff]

end Ingress

/-! ## Rates -/

namespace RateLimit

/-- The annotations that hold integers, with the smallest ones allowed. -/
def limits : List (String × Int) :=
  [(AnnotationKey.limitRps, 0), (AnnotationKey.limitRpm, 0),
   (AnnotationKey.limitBurstMultiplier, 1), (AnnotationKey.limitConnections, 0)]

/-- None of the limits is malformed. -/
def IsSound (i : Ingress) : Prop := ∀ l ∈ limits, ¬ i.IsMalformed l.2 l.1

/-- No positive number of requests is in the annotation. -/
def LacksRate (i : Ingress) (key : String) : Prop := ∀ n, i.HoldsInteger 0 key n → n = 0

/-- The rate of requests per second that an Ingress asks for: by the second, or else by the minute,
or else in a zone. -/
inductive HasRate (i : Ingress) : Int → Prop
  | bySecond {n : Int} (given : i.HoldsInteger 0 AnnotationKey.limitRps n) (positive : 0 < n) :
      HasRate i n
  | byMinute {n : Int} (noSecond : LacksRate i AnnotationKey.limitRps)
      (given : i.HoldsInteger 0 AnnotationKey.limitRpm n) (positive : 0 < n) :
      HasRate i (perSecond n)
  | inZone {zone : String} {n : Int} (noSecond : LacksRate i AnnotationKey.limitRps)
      (noMinute : LacksRate i AnnotationKey.limitRpm)
      (given : i.given? AnnotationKey.limitReqZone = some zone) (read : ofZone zone = .ok (some n))
      (positive : 0 < n) : HasRate i n

theorem errors_isEmpty_iff {i : Ingress} : (errors i).isEmpty = true ↔ IsSound i := by
  unfold errors IsSound limits rps rpm multiplier connections
  simp only [List.isEmpty_iff, List.append_eq_nil_iff, Ingress.errors_integerFrom_eq_nil_iff,
    List.forall_mem_cons, List.not_mem_nil, false_implies, implies_true, and_true, and_assoc]

theorem nonzero_eq_some_iff {i : Ingress} {key : String} {n : Int} :
    nonzero (i.integerFrom 0 key) = some n ↔ i.HoldsInteger 0 key n ∧ 0 < n := by
  unfold nonzero
  rw [Option.filter_eq_some_iff, Ingress.value_integerFrom_iff]
  refine and_congr_right ?_
  rintro ⟨raw, -, -, least⟩
  rw [bne_iff_ne]
  omega

theorem nonzero_eq_none_iff {i : Ingress} {key : String} :
    nonzero (i.integerFrom 0 key) = none ↔ LacksRate i key := by
  unfold LacksRate
  rw [Option.eq_none_iff_forall_ne_some]
  refine forall_congr' fun n => ?_
  rw [ne_eq, nonzero_eq_some_iff]
  constructor
  · intro fails held
    obtain ⟨raw, -, -, least⟩ := id held
    by_contra other
    exact fails ⟨held, by omega⟩
  · rintro zero ⟨held, positive⟩
    have := zero held
    omega

theorem ofZone_nonneg {zone : String} {n : Int} (read : ofZone zone = .ok (some n)) : 0 ≤ n := by
  obtain ⟨ds, u, -, -, rfl⟩ := ofZone_eq_some_iff.mp read
  exact Int.natCast_nonneg _

/-- An Ingress has at most one rate, the one that is computed. -/
theorem rate_eq_iff {i : Ingress} {r : Int} : rate i = .ok (some r) ↔ HasRate i r := by
  constructor
  · intro computed
    unfold rate at computed
    split at computed
    · rename_i n second
      cases computed
      obtain ⟨given, positive⟩ := nonzero_eq_some_iff.mp second
      exact .bySecond given positive
    · rename_i n second minute
      cases computed
      obtain ⟨given, positive⟩ := nonzero_eq_some_iff.mp minute
      exact .byMinute (nonzero_eq_none_iff.mp second) given positive
    · rename_i second minute
      split at computed
      · rename_i zone given
        cases read : ofZone zone with
        | error why =>
          rw [read] at computed
          cases computed
        | ok n =>
          rw [read] at computed
          obtain ⟨rfl, nonzero⟩ := Option.filter_eq_some_iff.mp (Except.ok.inj computed)
          have least := ofZone_nonneg read
          have nonzero : r ≠ 0 := by simpa using nonzero
          exact .inZone (nonzero_eq_none_iff.mp second) (nonzero_eq_none_iff.mp minute) given read
            (by omega)
      · cases computed
  · intro has
    unfold rate
    cases has with
    | bySecond given positive =>
      have second : nonzero (rps i) = some r := nonzero_eq_some_iff.mpr ⟨given, positive⟩
      rw [second]
    | byMinute noSecond given positive =>
      have second : nonzero (rps i) = none := nonzero_eq_none_iff.mpr noSecond
      have minute := nonzero_eq_some_iff.mpr ⟨given, positive⟩
      rw [second, rpm, minute]
    | inZone noSecond noMinute given read positive =>
      have second : nonzero (rps i) = none := nonzero_eq_none_iff.mpr noSecond
      have minute : nonzero (rpm i) = none := nonzero_eq_none_iff.mpr noMinute
      have nonzero : r ≠ 0 := by omega
      rw [second, minute]
      dsimp only
      rw [given]
      dsimp only
      rw [read, Except.map, Option.filter_some_pos (by simpa using nonzero)]

theorem HasRate.pos {i : Ingress} {r : Int} (has : HasRate i r) : 0 < r := by
  cases has with
  | bySecond _ positive => exact positive
  | byMinute _ _ positive =>
    unfold perSecond
    omega
  | inZone _ _ _ _ positive => exact positive

end RateLimit

/-! ## What an Ingress gives -/

/-- An Ingress asks for this setting of its routes. -/
inductive Ingress.Gives (i : Ingress) : Setting → Prop
  | sslRedirect {key raw : String}
      (redirects : key = AnnotationKey.sslRedirect ∨ key = AnnotationKey.forceSslRedirect)
      (given : i.annotation? key = some raw) (yes : Text.lower (Text.strip raw) = "true") :
      i.Gives (.sslRedirect true)
  | requestRate {r : Int} (sound : RateLimit.IsSound i) (rate : RateLimit.HasRate i r) :
      i.Gives (.requestRate r)
  | burst {r m : Int} (sound : RateLimit.IsSound i) (rate : RateLimit.HasRate i r)
      (multiplier : i.HoldsInteger 1 AnnotationKey.limitBurstMultiplier m) :
      i.Gives (.burst (r * m))
  | connections {n : Int} (sound : RateLimit.IsSound i)
      (given : i.HoldsInteger 0 AnnotationKey.limitConnections n) : i.Gives (.connections n)
  | bodySize {raw : String} {n : Int} (given : i.given? AnnotationKey.proxyBodySize = some raw)
      (size : ProxySettings.parseBodySize raw = .ok n) : i.Gives (.bodySize ⟨raw, n⟩)
  | buffering {on : Bool} (flag : i.HoldsFlag AnnotationKey.proxyBuffering on) :
      i.Gives (.buffering on)
  | requestBuffering {on : Bool} (flag : i.HoldsFlag AnnotationKey.proxyRequestBuffering on) :
      i.Gives (.requestBuffering on)
  | clientCert {secret : String} (given : i.given? AnnotationKey.authTlsSecret = some secret) :
      i.Gives (.clientCert (ClientCert.config i secret))
  | externalAuth {url : String} (given : i.given? AnnotationKey.authUrl = some url) :
      i.Gives (.externalAuth (ExternalAuthorization.config i url))

theorem Ingress.Gives.rate_pos {i : Ingress} {r : Int} (gives : i.Gives (.requestRate r)) :
    0 < r := by
  cases gives with
  | requestRate _ rate => exact rate.pos

/-- The settings that a pass writes for an Ingress into each of its routes, at most one for each
field. -/
structure AnnotationPass.Offers (p : AnnotationPass) (settings : Ingress → List Setting) :
    Prop where
  triggers : ∀ i, settings i ≠ [] → p.isTriggered i = true
  written : ∀ i routes, routes.Nodup → ∀ k f,
    ((p.read i).edits routes routes).filterMap (·.written? k f) =
      if k ∈ routes then (settings i).filter (·.field = f) else []
  distinct : ∀ i, ((settings i).map Setting.field).Nodup

theorem written?_map_settings {routes : List ObjectKey} (distinct : routes.Nodup) (k : ObjectKey)
    (f : RouteField) (v : Setting) (source : ObjectKey) :
    (routes.map fun j => Edit.setting j v source).filterMap (·.written? k f) =
      if k ∈ routes then [v].filter (·.field = f) else [] := by
  rw [← Edit.written?_flatMap_settings distinct k f [v] source, List.map_eq_flatMap]
  rfl

/-! ## The passes -/

namespace SslRedirect

def settings (i : Ingress) : List Setting := if isEnabled i then [.sslRedirect true] else []

theorem isEnabled_iff {i : Ingress} :
    isEnabled i = true ↔ ∃ key ∈ triggers, ∃ raw, i.annotation? key = some raw ∧
      Text.lower (Text.strip raw) = "true" := by
  simp [isEnabled, Ingress.saysTrue, Ingress.trimmed?, List.any_eq_true, Option.any_eq_true]

theorem mem_settings_iff {i : Ingress} {v : Setting} :
    v ∈ settings i ↔ isEnabled i = true ∧ v = .sslRedirect true := by
  unfold settings
  split
  · rename_i enabled
    simp [enabled]
  · rename_i disabled
    simp [disabled]

theorem gives_of_mem {i : Ingress} {v : Setting} (mem : v ∈ settings i) : i.Gives v := by
  obtain ⟨enabled, rfl⟩ := mem_settings_iff.mp mem
  obtain ⟨key, own, raw, given, yes⟩ := isEnabled_iff.mp enabled
  exact .sslRedirect (by simpa [triggers] using own) given yes

theorem offers : pass.Offers settings where
  triggers := by
    intro i some
    obtain ⟨v, mem⟩ := List.exists_mem_of_ne_nil _ some
    obtain ⟨key, own, raw, given, -⟩ := isEnabled_iff.mp (mem_settings_iff.mp mem).1
    exact List.any_eq_true.mpr ⟨key, own, OrderedMap.contains_of_get? given⟩
  written := by
    intro i routes distinct k f
    dsimp only [pass, edits, settings]
    by_cases enabled : isEnabled i = true
    · rw [if_pos enabled, if_pos enabled, ← written?_map_settings distinct k f _ i.key,
        List.map_eq_flatMap, List.filterMap_flatMap, List.filterMap_flatMap]
      rfl
    · rw [if_neg enabled, if_neg enabled]
      simp
  distinct := by
    intro i
    unfold settings
    split
    · simp
    · simp

end SslRedirect

/-- Fields that are written at most once, in this order. -/
theorem nodup_fields {a b c : RouteField} {xs ys zs : List Setting}
    (first : (xs.map Setting.field).Sublist [a]) (second : (ys.map Setting.field).Sublist [b])
    (third : (zs.map Setting.field).Sublist [c]) (apart : [a, b, c].Nodup) :
    ((xs ++ ys ++ zs).map Setting.field).Nodup := by
  rw [List.map_append, List.map_append]
  exact apart.sublist ((first.append second).append third)

theorem fields_toList {α : Type} (x : Option α) (make : α → Setting) (f : RouteField)
    (field : ∀ a, (make a).field = f) : ((x.map make).toList.map Setting.field).Sublist [f] := by
  cases x with
  | none => exact List.nil_sublist _
  | some a =>
    rw [← field a]
    exact List.Sublist.refl _

namespace RateLimit

/-- What an Ingress without errors gives. -/
def given (i : Ingress) : List Setting :=
  match rate i with
  | .ok r => if (errors i).isEmpty then settings i r else []
  | .error _ => []

theorem isTriggered_of_hasRate {i : Ingress} {r : Int} (has : HasRate i r) :
    pass.isTriggered i = true := by
  cases has with
  | bySecond held positive =>
    obtain ⟨raw, there, -⟩ := held
    exact AnnotationPass.isTriggered_of_given? (by simp [pass]) there
  | byMinute noSecond held positive =>
    obtain ⟨raw, there, -⟩ := held
    exact AnnotationPass.isTriggered_of_given? (by simp [pass]) there
  | inZone noSecond noMinute there read positive =>
    exact AnnotationPass.isTriggered_of_given? (by simp [pass]) there

theorem burst?_eq_some_iff {i : Ingress} {rate : Option Int} {n : Int} :
    burst? i rate = some n ↔ ∃ r m, rate = some r ∧
      i.HoldsInteger 1 AnnotationKey.limitBurstMultiplier m ∧ r * m = n := by
  simp only [← Ingress.value_integerFrom_iff]
  unfold burst? multiplier
  cases rate with
  | none => simp
  | some r =>
    cases (i.integerFrom 1 AnnotationKey.limitBurstMultiplier).value with
    | none => simp
    | some m => simp

theorem mem_given_iff {i : Ingress} (readable : ∃ r, rate i = .ok r) {v : Setting} :
    v ∈ given i ↔ IsSound i ∧ ((∃ r, HasRate i r ∧ .requestRate r = v) ∨
      (∃ r m, HasRate i r ∧ i.HoldsInteger 1 AnnotationKey.limitBurstMultiplier m ∧
        .burst (r * m) = v) ∨
      ∃ n, i.HoldsInteger 0 AnnotationKey.limitConnections n ∧ .connections n = v) := by
  obtain ⟨rate?, found⟩ := readable
  have rates : ∀ r, rate? = some r ↔ HasRate i r := by
    intro r
    rw [← rate_eq_iff, found, Except.ok.injEq]
  unfold given
  rw [found]
  dsimp only
  by_cases sound : IsSound i
  · rw [if_pos (errors_isEmpty_iff.mpr sound), and_iff_right sound]
    unfold settings connections
    simp only [List.mem_append, Option.mem_toList, Option.map_eq_some_iff, burst?_eq_some_iff,
      rates, Ingress.value_integerFrom_iff, or_assoc]
    refine or_congr_right (or_congr_left ?_)
    constructor
    · rintro ⟨n, ⟨r, m, has, holds, rfl⟩, made⟩
      exact ⟨r, m, has, holds, made⟩
    · rintro ⟨r, m, has, holds, made⟩
      exact ⟨r * m, ⟨r, m, has, holds, rfl⟩, made⟩
  · rw [if_neg (fun fine => sound (errors_isEmpty_iff.mp fine))]
    simp [sound]

theorem gives_of_mem {i : Ingress} (readable : ∃ r, rate i = .ok r) {v : Setting}
    (mem : v ∈ given i) : i.Gives v := by
  obtain ⟨sound, ⟨r, has, rfl⟩ | ⟨r, m, has, holds, rfl⟩ | ⟨n, holds, rfl⟩⟩ :=
    (mem_given_iff readable).mp mem
  · exact .requestRate sound has
  · exact .burst sound has holds
  · exact .connections sound holds

theorem offers : pass.Offers given where
  triggers := by
    intro i some
    obtain ⟨v, mem⟩ := List.exists_mem_of_ne_nil _ some
    have readable : ∃ r, rate i = .ok r := by
      unfold given at mem
      split at mem
      · rename_i r found
        exact ⟨r, found⟩
      · cases mem
    obtain ⟨-, ⟨r, has, -⟩ | ⟨r, m, has, -⟩ | ⟨n, ⟨raw, there, -⟩, -⟩⟩ :=
      (mem_given_iff readable).mp mem
    · exact isTriggered_of_hasRate has
    · exact isTriggered_of_hasRate has
    · exact AnnotationPass.isTriggered_of_given? (by simp [pass]) there
  written := by
    intro i routes distinct k f
    dsimp only [pass, reading, given]
    cases rate i with
    | error why => simp
    | ok r =>
      dsimp only
      by_cases fine : (errors i).isEmpty = true
      · rw [if_pos fine, if_pos fine, Edit.written?_flatMap_settings distinct]
      · rw [if_neg fine, if_neg fine]
        simp
  distinct := by
    intro i
    unfold given
    split
    · split
      · exact nodup_fields (fields_toList _ _ _ fun _ => rfl) (fields_toList _ _ _ fun _ => rfl)
          (fields_toList _ _ _ fun _ => rfl) (by decide)
      · exact List.nodup_nil
    · exact List.nodup_nil

end RateLimit

namespace ProxySettings

theorem bodySize_eq_some_iff {i : Ingress} {b : BodySize} :
    (bodySize i).value = some b ↔ i.given? AnnotationKey.proxyBodySize = some b.raw ∧
      parseBodySize b.raw = .ok b.bytes := by
  unfold bodySize
  cases i.given? AnnotationKey.proxyBodySize with
  | none => simp
  | some raw =>
    dsimp only
    cases size : parseBodySize raw with
    | error why =>
      refine iff_of_false nofun ?_
      rintro ⟨⟨⟩, parsed⟩
      cases size.symm.trans parsed
    | ok n =>
      simp only [Option.some.injEq]
      constructor
      · rintro rfl
        exact ⟨rfl, size⟩
      · rintro ⟨rfl, parsed⟩
        cases size.symm.trans parsed
        rfl

theorem mem_settings_iff {i : Ingress} {v : Setting} :
    v ∈ settings i ↔
      (∃ b : BodySize, (i.given? AnnotationKey.proxyBodySize = some b.raw ∧
        parseBodySize b.raw = .ok b.bytes) ∧ .bodySize b = v) ∨
      (∃ on, i.HoldsFlag AnnotationKey.proxyBuffering on ∧ .buffering on = v) ∨
      ∃ on, i.HoldsFlag AnnotationKey.proxyRequestBuffering on ∧ .requestBuffering on = v := by
  unfold settings buffering requestBuffering
  simp only [List.mem_append, Option.mem_toList, Option.map_eq_some_iff, bodySize_eq_some_iff,
    Ingress.value_flag_iff, or_assoc]

theorem gives_of_mem {i : Ingress} {v : Setting} (mem : v ∈ settings i) : i.Gives v := by
  obtain ⟨b, ⟨given, size⟩, rfl⟩ | ⟨on, flag, rfl⟩ | ⟨on, flag, rfl⟩ := mem_settings_iff.mp mem
  · exact .bodySize given size
  · exact .buffering flag
  · exact .requestBuffering flag

theorem offers : pass.Offers settings where
  triggers := by
    intro i some
    obtain ⟨v, mem⟩ := List.exists_mem_of_ne_nil _ some
    obtain ⟨b, ⟨there, -⟩, -⟩ | ⟨on, ⟨raw, there, -⟩, -⟩ | ⟨on, ⟨raw, there, -⟩, -⟩ :=
      mem_settings_iff.mp mem
    · exact AnnotationPass.isTriggered_of_given? (by simp [pass]) there
    · exact AnnotationPass.isTriggered_of_given? (by simp [pass]) there
    · exact AnnotationPass.isTriggered_of_given? (by simp [pass]) there
  written := by
    intro i routes distinct k f
    -- Settings of Services are written into no route.
    have services : ∀ es : List Edit, (∀ e ∈ es, e.written? k f = none) →
        es.filterMap (·.written? k f) = [] := fun es => List.filterMap_eq_nil_iff.mpr
    dsimp only [pass, edits]
    rw [List.filterMap_append, Edit.written?_flatMap_settings distinct, services, List.append_nil]
    intro e mem
    split at mem
    · obtain ⟨b, -, rfl⟩ := List.mem_map.mp mem
      rfl
    · cases mem
  distinct := by
    intro i
    exact nodup_fields (fields_toList _ _ _ fun _ => rfl) (fields_toList _ _ _ fun _ => rfl)
      (fields_toList _ _ _ fun _ => rfl) (by decide)

end ProxySettings

/-- A pass that writes one setting, and only for an Ingress with a certain annotation. -/
theorem AnnotationPass.offers_of_anchor {p : AnnotationPass} {key : String} (own : key ∈ p.triggers)
    {value : Ingress → Option Setting}
    (anchored : ∀ i v, value i = some v → ∃ raw, i.given? key = some raw)
    (edits : ∀ i routes present, (p.read i).edits routes present =
      (value i).toList.flatMap fun v => present.map fun k => .setting k v i.key) :
    p.Offers fun i => (value i).toList where
  triggers := by
    intro i some
    obtain ⟨v, mem⟩ := List.exists_mem_of_ne_nil _ some
    obtain ⟨raw, there⟩ := anchored i v (Option.mem_toList.mp mem)
    exact isTriggered_of_given? own there
  written := by
    intro i routes distinct k f
    rw [edits]
    cases value i with
    | none => simp
    | some v =>
      have single : ((some v).toList.flatMap fun v => routes.map fun k =>
          Edit.setting k v i.key) = routes.map fun k => Edit.setting k v i.key :=
        List.append_nil _
      rw [single]
      exact written?_map_settings distinct k f v i.key
  distinct := by
    intro i
    cases value i with
    | none => exact List.nodup_nil
    | some v => exact List.nodup_cons.mpr ⟨List.not_mem_nil, List.nodup_nil⟩

namespace ClientCert

/-- A secret with the defaults for what is missing or not understood. -/
theorem value_parse (i : Ingress) :
    (parse i).value = (i.given? AnnotationKey.authTlsSecret).map (config i) := by
  unfold parse Ingress.given?
  cases i.trimmed? AnnotationKey.authTlsSecret with
  | none => rfl
  | some secret =>
    dsimp only
    by_cases blank : secret.isEmpty = true
    · rw [if_pos blank, Option.filter_some_neg (by simp [blank])]
      rfl
    · rw [if_neg blank, Option.filter_some_pos (by simp [blank])]
      rfl

def value? (i : Ingress) : Option Setting := (parse i).value.map .clientCert

theorem value?_eq_some_iff {i : Ingress} {v : Setting} :
    value? i = some v ↔ ∃ secret, i.given? AnnotationKey.authTlsSecret = some secret ∧
      .clientCert (config i secret) = v := by
  rw [value?, value_parse, Option.map_map, Option.map_eq_some_iff]
  rfl

theorem offers : pass.Offers fun i => (value? i).toList := by
  refine AnnotationPass.offers_of_anchor (.head _) ?_ ?_
  · intro i v made
    obtain ⟨secret, there, -⟩ := value?_eq_some_iff.mp made
    exact ⟨secret, there⟩
  · intro i routes present
    dsimp only [pass, edits, value?]
    cases (parse i).value with
    | none => rfl
    | some c => exact (List.append_nil _).symm

end ClientCert

namespace ExternalAuthorization

theorem value_parse (i : Ingress) :
    (parse i).value = (i.given? AnnotationKey.authUrl).map (config i) := by
  unfold parse Ingress.given?
  cases i.trimmed? AnnotationKey.authUrl with
  | none => rfl
  | some url =>
    dsimp only
    by_cases blank : url.isEmpty = true
    · rw [if_pos blank, Option.filter_some_neg (by simp [blank])]
      rfl
    · rw [if_neg blank, Option.filter_some_pos (by simp [blank])]
      rfl

def value? (i : Ingress) : Option Setting := (parse i).value.map .externalAuth

theorem value?_eq_some_iff {i : Ingress} {v : Setting} :
    value? i = some v ↔ ∃ url, i.given? AnnotationKey.authUrl = some url ∧
      .externalAuth (config i url) = v := by
  rw [value?, value_parse, Option.map_map, Option.map_eq_some_iff]
  rfl

theorem offers : pass.Offers fun i => (value? i).toList := by
  refine AnnotationPass.offers_of_anchor (.head _) ?_ ?_
  · intro i v made
    obtain ⟨url, there, -⟩ := value?_eq_some_iff.mp made
    exact ⟨url, there⟩
  · intro i routes present
    dsimp only [pass, edits, value?]
    cases (parse i).value with
    | none => rfl
    | some a => exact (List.append_nil _).symm

end ExternalAuthorization

/-! ## All fields -/

/-- The pass that writes a field. -/
def RouteField.pass : RouteField → AnnotationPass
  | .sslRedirect => SslRedirect.pass
  | .requestRate | .burst | .connections => RateLimit.pass
  | .bodySize | .buffering | .requestBuffering => ProxySettings.pass
  | .clientCert => ClientCert.pass
  | .externalAuth => ExternalAuthorization.pass

/-- The settings that this pass takes from an Ingress. -/
def Ingress.settingsBeside (i : Ingress) : RouteField → List Setting
  | .sslRedirect => SslRedirect.settings i
  | .requestRate | .burst | .connections => RateLimit.given i
  | .bodySize | .buffering | .requestBuffering => ProxySettings.settings i
  | .clientCert => (ClientCert.value? i).toList
  | .externalAuth => (ExternalAuthorization.value? i).toList

/-- The value that an Ingress writes into a field of each of its routes. -/
def Ingress.value? (i : Ingress) (f : RouteField) : Option Setting :=
  (i.settingsBeside f).find? (·.field = f)

theorem RouteField.offers (f : RouteField) : f.pass.Offers fun i => i.settingsBeside f := by
  cases f with
  | sslRedirect => exact SslRedirect.offers
  | requestRate => exact RateLimit.offers
  | burst => exact RateLimit.offers
  | connections => exact RateLimit.offers
  | bodySize => exact ProxySettings.offers
  | buffering => exact ProxySettings.offers
  | requestBuffering => exact ProxySettings.offers
  | clientCert => exact ClientCert.offers
  | externalAuth => exact ExternalAuthorization.offers

theorem RouteField.listed_pass (f : RouteField) : ∃ fs, (f.pass, fs) ∈ passFields ∧ f ∈ fs := by
  cases f with
  | sslRedirect => exact ⟨[.sslRedirect], by simp [passFields, pass], by simp⟩
  | requestRate | burst | connections =>
    exact ⟨[.requestRate, .burst, .connections], by simp [passFields, pass], by simp⟩
  | bodySize | buffering | requestBuffering =>
    exact ⟨[.bodySize, .buffering, .requestBuffering], by simp [passFields, pass], by simp⟩
  | clientCert => exact ⟨[.clientCert], by simp [passFields, pass], by simp⟩
  | externalAuth => exact ⟨[.externalAuth], by simp [passFields, pass], by simp⟩

theorem mem_settingsBeside_iff {i : Ingress} (readable : ∃ r, RateLimit.rate i = .ok r)
    {v : Setting} : v ∈ i.settingsBeside v.field ↔ i.Gives v := by
  constructor
  · intro mem
    cases v with
    | sslRedirect => exact SslRedirect.gives_of_mem mem
    | requestRate | burst | connections => exact RateLimit.gives_of_mem readable mem
    | bodySize | buffering | requestBuffering => exact ProxySettings.gives_of_mem mem
    | clientCert c =>
      obtain ⟨secret, given, made⟩ := ClientCert.value?_eq_some_iff.mp (Option.mem_toList.mp mem)
      cases made
      exact .clientCert given
    | externalAuth a =>
      obtain ⟨url, given, made⟩ :=
        ExternalAuthorization.value?_eq_some_iff.mp (Option.mem_toList.mp mem)
      cases made
      exact .externalAuth given
  · intro gives
    cases gives with
    | sslRedirect redirects given yes =>
      have enabled := SslRedirect.isEnabled_iff.mpr
        ⟨_, by simpa [SslRedirect.triggers] using redirects, _, given, yes⟩
      exact SslRedirect.mem_settings_iff.mpr ⟨enabled, rfl⟩
    | requestRate sound rate =>
      exact (RateLimit.mem_given_iff readable).mpr ⟨sound, .inl ⟨_, rate, rfl⟩⟩
    | burst sound rate multiplier =>
      exact (RateLimit.mem_given_iff readable).mpr
        ⟨sound, .inr (.inl ⟨_, _, rate, multiplier, rfl⟩)⟩
    | connections sound given =>
      exact (RateLimit.mem_given_iff readable).mpr ⟨sound, .inr (.inr ⟨_, given, rfl⟩)⟩
    | bodySize given size =>
      exact ProxySettings.mem_settings_iff.mpr (.inl ⟨⟨_, _⟩, ⟨given, size⟩, rfl⟩)
    | buffering flag =>
      exact ProxySettings.mem_settings_iff.mpr (.inr (.inl ⟨_, flag, rfl⟩))
    | requestBuffering flag =>
      exact ProxySettings.mem_settings_iff.mpr (.inr (.inr ⟨_, flag, rfl⟩))
    | clientCert given =>
      exact Option.mem_toList.mpr (ClientCert.value?_eq_some_iff.mpr ⟨_, given, rfl⟩)
    | externalAuth given =>
      exact Option.mem_toList.mpr (ExternalAuthorization.value?_eq_some_iff.mpr ⟨_, given, rfl⟩)

/-- Where fields are set once, the settings of a field are the one that is found first. -/
theorem filter_field_eq {vs : List Setting} (distinct : (vs.map Setting.field).Nodup)
    (f : RouteField) : vs.filter (·.field = f) = (vs.find? (·.field = f)).toList := by
  induction vs with
  | nil => rfl
  | cons v vs ih =>
    obtain ⟨fresh, others⟩ := List.nodup_cons.mp distinct
    by_cases own : v.field = f
    · have nothing : vs.filter (·.field = f) = [] := by
        apply List.filter_eq_nil_iff.mpr
        intro w mem taken
        have same : w.field = v.field := (of_decide_eq_true taken).trans own.symm
        exact fresh (List.mem_map.mpr ⟨w, mem, same⟩)
      rw [List.filter_cons_of_pos (by simpa using own), List.find?_cons_of_pos (by simpa using own),
        nothing]
      rfl
    · rw [List.filter_cons_of_neg (by simpa using own), List.find?_cons_of_neg (by simpa using own),
        ih others]

/-- An Ingress gives at most one value for a field, the one that it writes. -/
theorem Ingress.value?_eq_some_iff {i : Ingress} (readable : ∃ r, RateLimit.rate i = .ok r)
    {f : RouteField} {v : Setting} : i.value? f = some v ↔ i.Gives v ∧ v.field = f := by
  have found : i.value? f = some v ↔ v ∈ i.settingsBeside f ∧ v.field = f := by
    rw [value?, ← Option.mem_toList, ← filter_field_eq (f.offers.distinct i), List.mem_filter,
      decide_eq_true_iff]
  rw [found]
  constructor
  · rintro ⟨mem, rfl⟩
    exact ⟨(mem_settingsBeside_iff readable).mp mem, rfl⟩
  · rintro ⟨gives, rfl⟩
    exact ⟨(mem_settingsBeside_iff readable).mpr gives, rfl⟩

namespace IngressNginx

/-- The Ingresses of a route write what they give one after the other. -/
theorem writes_eq_givenFor (s : Sources) (k : ObjectKey) (f : RouteField) :
    writes s k f f.pass = givenFor s.ingresses k (·.value? f) := by
  rw [← List.map_id (givenFor s.ingresses k (·.value? f))]
  apply writes_eq_map_givenFor
  · intro i v found
    apply f.offers.triggers i
    intro nothing
    rw [Ingress.value?, nothing] at found
    cases found
  · intro i routes distinct
    rw [f.offers.written i routes distinct k f, filter_field_eq (f.offers.distinct i),
      Option.map_id_apply]
    split
    · rfl
    · rfl

theorem givenFor_map {α β : Type} (is : List Ingress) (k : ObjectKey) (value : Ingress → Option α)
    (f : α → β) : (givenFor is k fun i => (value i).map f) = (givenFor is k value).map f := by
  unfold givenFor
  rw [List.map_filterMap]
  congr 1
  funext i
  split
  · rfl
  · rfl

/-- What all passes write into a field of a route, one after the other. -/
def allWrites (is : List Ingress) (k : ObjectKey) (f : RouteField) : List Setting :=
  annotationPasses.flatMap (writes { ingresses := is } k f)

/-- Only one pass writes into a field, what the Ingresses give for it. -/
theorem allWrites_eq_givenFor (is : List Ingress) (k : ObjectKey) (f : RouteField) :
    allWrites is k f = givenFor is k (·.value? f) := by
  obtain ⟨fs, listed, own⟩ := f.listed_pass
  have one : allWrites is k f = writes { ingresses := is } k f f.pass := flatMap_writes listed own
  rw [one, writes_eq_givenFor]

theorem written?_allEdits (is : List Ingress) (k : ObjectKey) (f : RouteField) :
    (allEdits is).filterMap (·.written? k f) = allWrites is k f := List.filterMap_flatMap

end IngressNginx

end GatewayMigration
