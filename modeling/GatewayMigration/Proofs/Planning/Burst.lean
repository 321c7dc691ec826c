import GatewayMigration.Proofs.Emission.Materialize
import GatewayMigration.Proofs.Planning.LastWriter
/-!
# Rates and bursts

The burst that an Ingress gives is a multiple of its rate, but the two are written as two fields,
the burst only with a multiplier. The burst of one Ingress stays when a later one gives a rate
alone. Main statement:

* `burst_stems_iff`: when the rate and the burst of a route are those of one Ingress, and when its
  token bucket holds as much as is filled in.

`burst_left_behind` is a route where both go wrong.
-/

namespace GatewayMigration

namespace Ingress

variable {i : Ingress} {r n : Int}

/-- An Ingress has this rate, and a multiplier that makes this burst of it. -/
def GivesBoth (i : Ingress) (rate burst : Int) : Prop :=
  i.Gives (.requestRate rate) ∧
    ∃ m, i.HoldsInteger 1 AnnotationKey.limitBurstMultiplier m ∧ burst = rate * m

theorem gives_burst_iff : i.Gives (.burst n) ↔ ∃ r, i.GivesBoth r n := by
  constructor
  · intro gives
    cases gives with
    | burst sound rate multiplier => exact ⟨_, .requestRate sound rate, _, multiplier, rfl⟩
  · rintro ⟨r, gives, m, multiplier, rfl⟩
    cases gives with
    | requestRate sound rate => exact .burst sound rate multiplier

theorem GivesBoth.le (both : i.GivesBoth r n) : r ≤ n := by
  obtain ⟨gives, m, ⟨-, -, -, least⟩, rfl⟩ := both
  have more := Int.mul_le_mul_of_nonneg_left least (Int.le_of_lt gives.rate_pos)
  rwa [Int.mul_one] at more

theorem Gives.burst_pos (gives : i.Gives (.burst n)) : 0 < n := by
  obtain ⟨r, both⟩ := gives_burst_iff.mp gives
  exact Int.lt_of_lt_of_le both.1.rate_pos both.le

end Ingress

/-! ## Token buckets -/

theorem Plan.asksFilter_iff {p : Plan} {k : ObjectKey} {c : EnvoyFilter.Concern}
    {ps : List Value} :
    p.AsksFilter k c ps ↔ ∃ s, p.settings? k = some s ∧ c.patches? s = some (.ok ps) :=
  exists_settings_iff.symm

namespace EnvoyFilter

/-- The size of the token bucket in the first of some patches, and how much is filled in at a
time. -/
def tokenBucket? (ps : List Value) : Option (Int × Int) := do
  let value ← (← ps.head?.bind (Value.field? "patch")).field? "value"
  let bucket ← (← value.field? "typed_config").field? "token_bucket"
  match ← bucket.field? "max_tokens", ← bucket.field? "tokens_per_fill" with
  | .int size, .int fill => some (size, fill)
  | _, _ => none

theorem tokenBucket?_rateLimitPatches (rate : Int) (burst : Option Int) :
    tokenBucket? (rateLimitPatches rate burst) = some (bucketSize rate burst, rate) := by
  simp [tokenBucket?, rateLimitPatches, insertFilter, patch, Value.object, Value.field?,
    Value.lookup, OrderedMap.lookup_cons]

theorem le_bucketSize_iff {rate : Int} (positive : 0 < rate) {burst : Option Int}
    (nonzero : ∀ n, burst = some n → 0 < n) :
    rate ≤ bucketSize rate burst ↔ ∀ n, burst = some n → rate ≤ n := by
  cases burst with
  | none =>
    simp only [bucketSize, defaultBurstFactor, Option.filter_none, Option.getD_none]
    exact iff_of_true (by omega) nofun
  | some n =>
    have kept : n ≠ 0 := Int.ne_of_gt (nonzero n rfl)
    rw [bucketSize, Option.filter_some_pos (by simpa using kept), Option.getD_some]
    simp

end EnvoyFilter

namespace IngressNginx

variable {is : List Ingress} {ports : Catalog PortLookup} {k : ObjectKey} {rate n : Int}

/-- The last Ingress of the route that has a rate has no multiplier, while the last burst is this
one. -/
def LeavesBurst (is : List Ingress) (k : ObjectKey) (rate burst : Int) : Prop :=
  (∃ before i after, is = before ++ i :: after ∧
    (k ∈ (PassContext.ofIngresses is).routesOf i ∧ i.Gives (.requestRate rate) ∧
      ∀ m, ¬ i.HoldsInteger 1 AnnotationKey.limitBurstMultiplier m) ∧
    ∀ j ∈ after, k ∈ (PassContext.ofIngresses is).routesOf j → ∀ r, ¬ j.Gives (.requestRate r)) ∧
  GivesLast is k (.burst burst)

/-- One of the Ingresses of the route gives both. -/
def ComeFromOne (is : List Ingress) (k : ObjectKey) (rate burst : Int) : Prop :=
  ∃ i ∈ is, k ∈ (PassContext.ofIngresses is).routesOf i ∧ i.GivesBoth rate burst

theorem LeavesBurst.givesLast (leaves : LeavesBurst is k rate n) :
    GivesLast is k (.requestRate rate) := by
  obtain ⟨⟨before, i, after, split, ⟨routed, gives, -⟩, later⟩, -⟩ := leaves
  refine ⟨before, i, after, split, ⟨routed, gives⟩, ?_⟩
  intro j mem contributes w other field
  cases w with
  | requestRate r => exact later j mem contributes r other
  | _ => cases field

/-- The last rate and the last burst are those of one Ingress, if the one with the rate has a
multiplier. -/
theorem comeFromOne_or_leavesBurst (complete : (planFor is ports).stop = none)
    (lastRate : GivesLast is k (.requestRate rate)) (lastBurst : GivesLast is k (.burst n)) :
    ComeFromOne is k rate n ∨ LeavesBurst is k rate n := by
  obtain ⟨before, i, after, split, ⟨routed, gives⟩, later⟩ := lastRate
  have mem : i ∈ is := split ▸ List.mem_append_right before (.head after)
  have noRate : ∀ j ∈ after, k ∈ (PassContext.ofIngresses is).routesOf j →
      ∀ r, ¬ j.Gives (.requestRate r) :=
    fun j there contributes r other => later j there contributes _ other rfl
  by_cases multiplied : ∃ m, i.HoldsInteger 1 AnnotationKey.limitBurstMultiplier m
  · obtain ⟨m, multiplier⟩ := multiplied
    have both : i.GivesBoth rate (rate * m) := ⟨gives, m, multiplier, rfl⟩
    -- Without a rate no later Ingress gives a burst.
    have own : GivesLast is k (.burst (rate * m)) := by
      refine ⟨before, i, after, split, ⟨routed, Ingress.gives_burst_iff.mpr ⟨rate, both⟩⟩, ?_⟩
      intro j there contributes w other field
      cases w with
      | burst n =>
        obtain ⟨r, theirs⟩ := Ingress.gives_burst_iff.mp other
        exact noRate j there contributes r theirs.1
      | _ => cases field
    have found := (setting?_eq_some_iff complete).mpr own
    have found' := (setting?_eq_some_iff complete).mpr lastBurst
    cases found.symm.trans found'
    exact .inl ⟨i, mem, routed, both⟩
  · exact .inr ⟨⟨before, i, after, split, ⟨routed, gives, not_exists.mp multiplied⟩, noRate⟩,
      lastBurst⟩

/-- Where there is a burst, there is a rate. -/
theorem exists_rate_of_burst (complete : (planFor is ports).stop = none)
    (lastBurst : GivesLast is k (.burst n)) : ∃ r, GivesLast is k (.requestRate r) := by
  obtain ⟨i, mem, routed, gives⟩ := lastBurst.exists_gives
  obtain ⟨r, both⟩ := Ingress.gives_burst_iff.mp gives
  obtain ⟨w, field, last⟩ := exists_givesLast complete mem routed both.1
  cases w with
  | requestRate r => exact ⟨r, last⟩
  | _ => cases field

/-- The rate and the burst of a route with settings are those that were given last. -/
theorem settings_eq_some_iff (complete : (planFor is ports).stop = none) {s : RouteSettings}
    (given : (planFor is ports).state.plan.settings? k = some s) :
    (∀ r, s.requestRate = some r ↔ GivesLast is k (.requestRate r)) ∧
      ∀ n, s.burst = some n ↔ GivesLast is k (.burst n) := by
  simp [givesLast_iff complete, given, Setting.field, RouteSettings.get]

/-- The burst of the route, if it has one, is a multiple of its rate by what one Ingress says. -/
def BurstStems (is : List Ingress) (p : Plan) (k : ObjectKey) : Prop :=
  ∀ s n, p.settings? k = some s → s.burst = some n →
    ∃ rate, s.requestRate = some rate ∧ ComeFromOne is k rate n

/-- The token bucket of the route's filter, if it has one, holds what is filled in at a time. -/
def BucketHoldsFill (p : Plan) (k : ObjectKey) : Prop :=
  ∀ ps, p.AsksFilter k .rateLimit ps →
    ∃ size fill, EnvoyFilter.tokenBucket? ps = some (size, fill) ∧ fill ≤ size

theorem burstStems_iff (complete : (planFor is ports).stop = none) :
    BurstStems is (planFor is ports).state.plan k ↔
      ∀ rate n, LeavesBurst is k rate n → ComeFromOne is k rate n := by
  constructor
  · intro stems rate n leaves
    obtain ⟨s, given, -⟩ := (givesLast_iff complete).mp leaves.2
    obtain ⟨rates, bursts⟩ := settings_eq_some_iff complete given
    obtain ⟨r, lastRate, one⟩ := stems s n given ((bursts n).mpr leaves.2)
    have same := lastRate.symm.trans ((rates rate).mpr leaves.givesLast)
    cases same
    exact one
  · intro fits s n given burst
    obtain ⟨rates, bursts⟩ := settings_eq_some_iff complete given
    have lastBurst := (bursts n).mp burst
    obtain ⟨rate, lastRate⟩ := exists_rate_of_burst complete lastBurst
    refine ⟨rate, (rates rate).mpr lastRate, ?_⟩
    rcases comeFromOne_or_leavesBurst complete lastRate lastBurst with one | leaves
    · exact one
    · exact fits rate n leaves

theorem bucketHoldsFill_iff_le {p : Plan} :
    BucketHoldsFill p k ↔ ∀ s rate, p.settings? k = some s → s.requestRate = some rate →
      0 < rate → rate ≤ EnvoyFilter.bucketSize rate s.burst := by
  constructor
  · intro holds s rate given limit positive
    have asks : EnvoyFilter.Concern.rateLimit.patches? s =
        some (.ok (EnvoyFilter.rateLimitPatches rate s.burst)) := by
      simp [EnvoyFilter.Concern.patches?, RouteSettings.rateLimit?, limit, positive]
    obtain ⟨size, fill, bucket, enough⟩ := holds _ (Plan.asksFilter_iff.mpr ⟨s, given, asks⟩)
    rw [EnvoyFilter.tokenBucket?_rateLimitPatches] at bucket
    cases bucket
    exact enough
  · intro large ps asks
    obtain ⟨s, given, made⟩ := Plan.asksFilter_iff.mp asks
    obtain ⟨rate, limit, made⟩ := Option.map_eq_some_iff.mp made
    cases made
    obtain ⟨limit, positive⟩ := Option.filter_eq_some_iff.mp limit
    exact ⟨_, _, EnvoyFilter.tokenBucket?_rateLimitPatches rate s.burst,
      large s rate given limit (of_decide_eq_true positive)⟩

/-- The bucket of a route with a rate is large enough if its burst is. -/
theorem le_bucketSize_iff_givesLast (complete : (planFor is ports).stop = none)
    {s : RouteSettings} (given : (planFor is ports).state.plan.settings? k = some s)
    (positive : 0 < rate) :
    rate ≤ EnvoyFilter.bucketSize rate s.burst ↔ ∀ n, GivesLast is k (.burst n) → rate ≤ n := by
  obtain ⟨-, bursts⟩ := settings_eq_some_iff complete given
  simp only [← bursts]
  apply EnvoyFilter.le_bucketSize_iff positive
  intro n burst
  obtain ⟨i, -, -, gives⟩ := ((bursts n).mp burst).exists_gives
  exact gives.burst_pos

theorem bucketHoldsFill_iff (complete : (planFor is ports).stop = none) :
    BucketHoldsFill (planFor is ports).state.plan k ↔
      ∀ rate n, LeavesBurst is k rate n → rate ≤ n := by
  rw [bucketHoldsFill_iff_le]
  constructor
  · intro large rate n leaves
    obtain ⟨s, given, -⟩ := (givesLast_iff complete).mp leaves.2
    obtain ⟨i, -, -, gives⟩ := leaves.givesLast.exists_gives
    have limit := ((settings_eq_some_iff complete given).1 rate).mpr leaves.givesLast
    have enough := large s rate given limit gives.rate_pos
    exact (le_bucketSize_iff_givesLast complete given gives.rate_pos).mp enough n leaves.2
  · intro fits s rate given limit positive
    rw [le_bucketSize_iff_givesLast complete given positive]
    intro n lastBurst
    have lastRate := ((settings_eq_some_iff complete given).1 rate).mp limit
    rcases comeFromOne_or_leavesBurst complete lastRate lastBurst with one | leaves
    · obtain ⟨i, -, -, both⟩ := one
      exact both.le
    · exact fits rate n leaves

/-- Every burst goes with a rate. The two are those of one Ingress, and the token bucket is not
smaller than what is filled in, unless an Ingress without a multiplier has the last rate. -/
theorem burst_stems_iff (complete : (planFor is ports).stop = none) (k : ObjectKey) :
    (∀ s n, (planFor is ports).state.plan.settings? k = some s → s.burst = some n →
      ∃ rate, s.requestRate = some rate ∧ 0 < rate) ∧
    (BurstStems is (planFor is ports).state.plan k ↔
      ∀ rate n, LeavesBurst is k rate n → ComeFromOne is k rate n) ∧
    (BucketHoldsFill (planFor is ports).state.plan k ↔
      ∀ rate n, LeavesBurst is k rate n → rate ≤ n) := by
  refine ⟨?_, burstStems_iff complete, bucketHoldsFill_iff complete⟩
  intro s n given burst
  obtain ⟨rates, bursts⟩ := settings_eq_some_iff complete given
  obtain ⟨rate, lastRate⟩ := exists_rate_of_burst complete ((bursts n).mp burst)
  obtain ⟨i, -, -, gives⟩ := lastRate.exists_gives
  exact ⟨rate, (rates rate).mpr lastRate, gives.rate_pos⟩

/-- Two Ingresses of one route with a rate each, and with multipliers if there are any. -/
def rated (first second : List (String × String)) : List Ingress :=
  [.plain ⟨"shop", "web"⟩ [("a.b", "one")] []
    (.ofList ((AnnotationKey.limitRps, "10") :: first)),
   .plain ⟨"shop", "api"⟩ [("a.b", "two")] []
    (.ofList ((AnnotationKey.limitRps, "100") :: second))]

/-- With a multiplier each, the second Ingress decides about both. -/
theorem burst_stems_multiplied :
    let is := rated [(AnnotationKey.limitBurstMultiplier, "3")]
      [(AnnotationKey.limitBurstMultiplier, "2")]
    (planFor is .empty).stop = none ∧
      (planFor is .empty).state.plan.settings? ⟨"shop", "web-a-b"⟩ =
        some { requestRate := some 100, burst := some 200 } ∧
      ComeFromOne is ⟨"shop", "web-a-b"⟩ 100 200 ∧
      BucketHoldsFill (planFor is .empty).state.plan ⟨"shop", "web-a-b"⟩ := by
  intro is
  have complete : (planFor is .empty).stop = none := by decide +kernel
  have given : (planFor is .empty).state.plan.settings? ⟨"shop", "web-a-b"⟩ =
      some { requestRate := some 100, burst := some 200 } := by decide +kernel
  have multiplied : ∀ i ∈ is, ∃ m, i.HoldsInteger 1 AnnotationKey.limitBurstMultiplier m := by
    simp only [← Ingress.value_integerFrom_iff, ← Option.isSome_iff_exists]
    decide +kernel
  have nothingLeft : ∀ rate n, ¬ LeavesBurst is ⟨"shop", "web-a-b"⟩ rate n := by
    rintro rate n ⟨⟨before, i, after, split, ⟨-, -, plain⟩, -⟩, -⟩
    obtain ⟨m, multiplier⟩ := multiplied i (split ▸ List.mem_append_right before (.head after))
    exact plain m multiplier
  obtain ⟨-, stems, bucket⟩ := burst_stems_iff complete ⟨"shop", "web-a-b"⟩
  refine ⟨complete, given, ?_, bucket.mpr fun rate n leaves => absurd leaves (nothingLeft rate n)⟩
  obtain ⟨rate, same, one⟩ :=
    stems.mpr (fun rate n leaves => absurd leaves (nothingLeft rate n)) _ 200 given rfl
  cases same
  exact one

/-- Without one for the second Ingress, the burst is left at three times the first rate, which is
less than the second rate. -/
theorem burst_left_behind :
    let is := rated [(AnnotationKey.limitBurstMultiplier, "3")] []
    (planFor is .empty).stop = none ∧
      ¬ BurstStems is (planFor is .empty).state.plan ⟨"shop", "web-a-b"⟩ ∧
      ¬ BucketHoldsFill (planFor is .empty).state.plan ⟨"shop", "web-a-b"⟩ := by
  intro is
  have complete : (planFor is .empty).stop = none := by decide +kernel
  have given : (planFor is .empty).state.plan.settings? ⟨"shop", "web-a-b"⟩ =
      some { requestRate := some 100, burst := some 30 } := by decide +kernel
  refine ⟨complete, ?_, ?_⟩
  · intro stems
    obtain ⟨rate, same, i, -, -, -, m, -, multiple⟩ := stems _ 30 given rfl
    cases same
    omega
  · intro holds
    have large := bucketHoldsFill_iff_le.mp holds _ 100 given rfl (by decide)
    exact absurd large (by decide)

end IngressNginx

end GatewayMigration
