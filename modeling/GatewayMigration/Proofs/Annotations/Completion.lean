import GatewayMigration.Proofs.Annotations.Conflicts
import GatewayMigration.Proofs.Annotations.Values
import GatewayMigration.Proofs.Text.Integer
/-!
# When the annotation passes complete

Integers of too many digits can be read from no text and shown in no message, and not every such
failure is reported as an error of the annotation. Main statements:

* `BackendTls.stop_reading_eq_none_iff`, `RateLimit.stop_reading_eq_none_iff`: the two passes that
  an Ingress can stop while it is read;
* `annotate_completes_iff`: all passes complete exactly if no Ingress stops one of these two, and
  no burst and no body size of too many digits has to be reported because of a different one.
-/

namespace GatewayMigration

/-! ## Ports -/

namespace BackendTls

/-- A port is told apart by a name, or by a number that has a text. -/
def HasMark (p : BackendPort) : Prop :=
  ∀ n, p.number = some n → Text.IsShort n ∨ ∃ name, p.name = some name ∧ name ≠ ""

theorem portMark?_isSome_iff {p : BackendPort} : (portMark? p).isSome = true ↔ HasMark p := by
  unfold portMark? HasMark
  cases named : p.name.filter (!·.isEmpty) with
  | some name =>
    obtain ⟨there, filled⟩ := Option.filter_eq_some_iff.mp named
    have filled : name ≠ "" := by
      rintro rfl
      cases filled
    exact iff_of_true rfl fun _ _ => .inr ⟨name, there, filled⟩
  | none =>
    have nameless : ¬ ∃ name, p.name = some name ∧ name ≠ "" := by
      rintro ⟨name, there, filled⟩
      rw [there] at named
      have blank := Option.filter_eq_none_iff.mp named name rfl
      simp only [Bool.not_eq_true', Bool.not_eq_false, String.isEmpty_iff] at blank
      exact filled blank
    simp only [or_iff_left nameless]
    cases p.number with
    | none => exact iff_of_true rfl nofun
    | some n =>
      simp only [Option.some.injEq, forall_eq']
      by_cases zero : n = 0
      · subst zero
        exact iff_of_true rfl (Nat.pow_pos (by decide))
      · rw [Option.filter_some_pos (by simpa using zero)]
        exact Text.integerText?_isSome_iff

theorem stop_reading_eq_none_iff {i : Ingress} :
    (reading i).stop = none ↔ ∀ b ∈ i.backends, HasMark b.port := by
  have marked : canMark i = true ↔ ∀ b ∈ i.backends, HasMark b.port := by
    simp only [canMark, List.all_eq_true, portMark?_isSome_iff]
  unfold reading
  rw [← marked]
  split
  · rename_i can
    exact iff_of_true rfl can
  · rename_i cannot
    exact iff_of_false nofun cannot

end BackendTls

/-! ## Integers of annotations -/

theorem Ingress.isShort_of_integerFrom {i : Ingress} {least n : Int} {key : String}
    (found : (i.integerFrom least key).value = some n) : Text.IsShort n := by
  obtain ⟨_, -, read, -⟩ := Ingress.value_integerFrom_iff.mp found
  exact Text.isShort_of_readInteger read

/-! ## Rates -/

namespace RateLimit

/-- A zone whose rate has too many digits. -/
def IsLong (zone : String) : Prop :=
  ∃ ds unit, firstRate? zone.toList = some (ds, unit) ∧ Text.maxIntegerDigits < ds.length

/-- The rate is looked for in a zone, and has too many digits there. -/
def ReadsLongZone (i : Ingress) : Prop :=
  nonzero (rps i) = none ∧ nonzero (rpm i) = none ∧
    ∃ zone, i.given? AnnotationKey.limitReqZone = some zone ∧ IsLong zone

theorem ofZone_error_iff {zone : String} : (∃ why, ofZone zone = .error why) ↔ IsLong zone := by
  unfold ofZone IsLong
  cases firstRate? zone.toList with
  | none => exact iff_of_false (by rintro ⟨_, ⟨⟩⟩) (by rintro ⟨_, _, ⟨⟩, _⟩)
  | some rate =>
    obtain ⟨ds, unit⟩ := rate
    by_cases long : Text.maxIntegerDigits < ds.length
    · dsimp only
      rw [Text.readDigits_of_long long]
      exact iff_of_true ⟨_, rfl⟩ ⟨ds, unit, rfl, long⟩
    · dsimp only
      rw [Text.readDigits_of_short (Nat.not_lt.mp long)]
      apply iff_of_false
      · rintro ⟨why, made⟩
        cases unit with
        | second => cases made
        | minute => cases made
      · rintro ⟨_, _, ⟨⟩, isLong⟩
        exact long isLong

theorem rate_error_iff {i : Ingress} : (∃ why, rate i = .error why) ↔ ReadsLongZone i := by
  unfold rate ReadsLongZone
  cases nonzero (rps i) with
  | some n => exact iff_of_false (by rintro ⟨_, ⟨⟩⟩) (by rintro ⟨⟨⟩, _⟩)
  | none =>
    cases nonzero (rpm i) with
    | some n => exact iff_of_false (by rintro ⟨_, ⟨⟩⟩) (by rintro ⟨_, ⟨⟩, _⟩)
    | none =>
      cases i.given? AnnotationKey.limitReqZone with
      | none => exact iff_of_false (by rintro ⟨_, ⟨⟩⟩) (by rintro ⟨_, _, _, ⟨⟩, _⟩)
      | some zone =>
        simp only [Option.some.injEq, exists_eq_left', true_and, ← ofZone_error_iff]
        cases ofZone zone with
        | error why => exact iff_of_true ⟨_, rfl⟩ ⟨_, rfl⟩
        | ok r => exact iff_of_false (by rintro ⟨_, ⟨⟩⟩) (by rintro ⟨_, ⟨⟩⟩)

theorem stop_reading_eq_none_iff {i : Ingress} : (reading i).stop = none ↔ ¬ ReadsLongZone i := by
  rw [← rate_error_iff]
  unfold reading
  cases rate i with
  | error why => exact iff_of_false nofun (fun fine => fine ⟨why, rfl⟩)
  | ok r => exact iff_of_true rfl (fun ⟨_, made⟩ => nomatch made)

theorem isTriggered_of_readsLongZone {i : Ingress} (long : ReadsLongZone i) :
    pass.isTriggered i = true := by
  obtain ⟨-, -, zone, given, -⟩ := long
  exact AnnotationPass.isTriggered_of_given? (by simp [pass]) given

theorem isShort_perSecond {n : Int} (short : Text.IsShort n) : Text.IsShort (perSecond n) := by
  unfold perSecond
  split
  · exact Nat.pow_pos (by decide)
  · rename_i positive
    exact Text.isShort_of_le (by omega) (by omega) short

theorem isShort_of_ofZone {zone : String} {n : Int} (found : ofZone zone = .ok (some n)) :
    Text.IsShort n := by
  obtain ⟨ds, u, -, fits, rfl⟩ := ofZone_eq_some_iff.mp found
  have short : Text.IsShort (Text.digitsValue ds) :=
    Text.isShort_of_readDigits (Text.readDigits_of_short fits)
  cases u with
  | second => exact short
  | minute =>
    rw [← perSecond_natCast]
    exact isShort_perSecond short

/-- A rate has a text: no reading of an integer lets too many digits through. -/
theorem isShort_of_rate {i : Ingress} {n : Int} (found : rate i = .ok (some n)) :
    Text.IsShort n := by
  unfold rate at found
  split at found
  · rename_i m given
    cases found
    exact Ingress.isShort_of_integerFrom (Option.filter_eq_some_iff.mp given).1
  · rename_i m _ given
    cases found
    exact isShort_perSecond (Ingress.isShort_of_integerFrom (Option.filter_eq_some_iff.mp given).1)
  · split at found
    · rename_i zone _
      cases read : ofZone zone with
      | error why =>
        rw [read] at found
        cases found
      | ok r =>
        rw [read] at found
        obtain ⟨rfl, -⟩ := Option.filter_eq_some_iff.mp (Except.ok.inj found)
        exact isShort_of_ofZone read
    · cases found

/-- The burst that an Ingress gives its routes. -/
def burstOf? (i : Ingress) : Option Int :=
  match rate i with
  | .ok r => if (errors i).isEmpty then burst? i r else none
  | .error _ => none

theorem value?_burst (i : Ingress) : i.value? .burst = (burstOf? i).map .burst := by
  have listed : i.value? .burst = (given i).find? (·.field = .burst) := rfl
  rw [listed]
  unfold given burstOf?
  cases rate i with
  | error why => rfl
  | ok r =>
    dsimp only
    split
    · unfold settings
      rw [List.find?_append, List.find?_append]
      cases r <;> cases burst? i _ <;> cases (connections i).value <;> rfl
    · rfl

end RateLimit

theorem ProxySettings.value?_bodySize (i : Ingress) :
    i.value? .bodySize = (bodySize i).value.map .bodySize := by
  have listed : i.value? .bodySize = (settings i).find? (·.field = .bodySize) := rfl
  rw [listed]
  unfold settings
  rw [List.find?_append, List.find?_append]
  cases (bodySize i).value <;> cases (buffering i).value <;> cases (requestBuffering i).value <;>
    rfl

/-! ## Values that a message can show -/

namespace Setting

theorem isShown_bodySize_iff {b : BodySize} :
    (Setting.bodySize b).IsShown ↔ Text.IsShort b.bytes := by
  have diagnostic : (Setting.bodySize b).diagnostic = b.diagnostic := rfl
  rw [← Text.integerText?_isSome_iff, IsShown, diagnostic, BodySize.diagnostic]
  cases Text.integerText? b.bytes with
  | none => exact Iff.rfl
  | some bytes => exact Iff.rfl

theorem isShown_clientCert_iff {c : ClientCertAuth} :
    (Setting.clientCert c).IsShown ↔ Text.IsShort c.verifyDepth := by
  have diagnostic : (Setting.clientCert c).diagnostic = c.diagnostic := rfl
  rw [← Text.integerText?_isSome_iff, IsShown, diagnostic, ClientCertAuth.diagnostic]
  cases Text.integerText? c.verifyDepth with
  | none => exact Iff.rfl
  | some depth => exact Iff.rfl

theorem burst_mayPrecede_iff {m n : Int} :
    (Setting.burst m).MayPrecede (.burst n) ↔ m = n ∨ Text.IsShort m ∧ Text.IsShort n := by
  unfold MayPrecede IsShown diagnostic
  rw [Setting.burst.injEq, Text.integerText?_isSome_iff, Text.integerText?_isSome_iff]

theorem bodySize_mayPrecede_iff {a b : BodySize} :
    (Setting.bodySize a).MayPrecede (.bodySize b) ↔
      a = b ∨ Text.IsShort a.bytes ∧ Text.IsShort b.bytes := by
  unfold MayPrecede
  rw [Setting.bodySize.injEq, isShown_bodySize_iff, isShown_bodySize_iff]

theorem isChain_of_isShown {vs : List Setting} (shown : ∀ v ∈ vs, v.IsShown) :
    vs.IsChain MayPrecede := by
  induction vs with
  | nil => exact .nil
  | cons v vs ih =>
    obtain ⟨first, rest⟩ := List.forall_mem_cons.mp shown
    cases vs with
    | nil => exact .singleton v
    | cons w vs => exact .cons_cons (.inr ⟨first, rest w (.head _)⟩) (ih rest)

end Setting

theorem RateLimit.isShown_of_mem_settings {i : Ingress} {r : Option Int} (found : rate i = .ok r)
    {v : Setting} (mem : v ∈ settings i r) (other : v.field ≠ .burst) : v.IsShown := by
  simp only [settings, List.mem_append, Option.mem_toList, Option.map_eq_some_iff] at mem
  rcases mem with (⟨n, rfl, rfl⟩ | ⟨n, -, rfl⟩) | ⟨n, given, rfl⟩
  · exact Text.integerText?_isSome_iff.mpr (isShort_of_rate found)
  · exact absurd rfl other
  · exact Text.integerText?_isSome_iff.mpr (Ingress.isShort_of_integerFrom given)

theorem RateLimit.isShown_of_mem_given {i : Ingress} {v : Setting} (mem : v ∈ given i)
    (other : v.field ≠ .burst) : v.IsShown := by
  unfold given at mem
  split at mem
  · rename_i r found
    split at mem
    · exact isShown_of_mem_settings found mem other
    · cases mem
  · cases mem

theorem ClientCert.isShort_depth (i : Ingress) : Text.IsShort (depth i).1 := by
  have one : Text.IsShort defaultDepth := Text.integerText?_isSome_iff.mp rfl
  unfold depth
  split
  · exact one
  · rename_i raw _
    split
    · rename_i n kept
      obtain ⟨understood, -⟩ := Option.filter_eq_some_iff.mp kept
      cases read : Text.readInteger raw with
      | error why =>
        rw [read] at understood
        cases understood
      | ok m =>
        rw [read] at understood
        cases understood
        exact Text.isShort_of_readInteger read
    · exact one

theorem ClientCert.isShown_of_parse {i : Ingress} {c : ClientCertAuth}
    (given : (parse i).value = some c) : (Setting.clientCert c).IsShown := by
  unfold parse at given
  split at given
  · cases given
  · split at given
    · cases given
    · cases given
      exact Setting.isShown_clientCert_iff.mpr (isShort_depth i)

/-! ## All passes -/

namespace IngressNginx

/-- Only bursts and body sizes may have too many digits to be shown. -/
theorem isShown_of_mem_allWrites {is : List Ingress} {k : ObjectKey} {f : RouteField} {v : Setting}
    (mem : v ∈ allWrites is k f) (burst : f ≠ .burst) (size : f ≠ .bodySize) : v.IsShown := by
  rw [allWrites_eq_givenFor] at mem
  obtain ⟨i, -, gave⟩ := List.mem_filterMap.mp mem
  obtain ⟨-, found⟩ := Option.ite_none_right_eq_some.mp gave
  have field : v.field = f := by simpa using List.find?_some found
  subst field
  have listed := List.mem_of_find?_eq_some found
  cases v with
  | sslRedirect | buffering | requestBuffering | externalAuth => rfl
  | burst => exact absurd rfl burst
  | bodySize => exact absurd rfl size
  | requestRate => exact RateLimit.isShown_of_mem_given listed burst
  | connections => exact RateLimit.isShown_of_mem_given listed burst
  | clientCert c =>
    obtain ⟨c, given, made⟩ := Option.map_eq_some_iff.mp (Option.mem_toList.mp listed)
    cases made
    exact ClientCert.isShown_of_parse given

theorem asked_complete_iff {is : List Ingress} {ports : Catalog PortLookup} :
    (Progress.each PlanState.edit { plan := (lower is ports).1 }
      (askedEdits (.ofIngresses is) { plan := (lower is ports).1 })).stop = none ↔
      ∀ k f, k ∈ (ruleGroups is).keys → (allWrites is k f).IsChain Setting.MayPrecede := by
  refine PlanState.edits_complete_iff.trans (forall₂_congr fun k f => ?_)
  rw [askedEdits_lower, written?_allEdits, setting?_lower, Option.toList_none, List.nil_append,
    ← keys_routes_lower is ports]
  exact Iff.rfl

theorem allWrites_burst (is : List Ingress) (k : ObjectKey) :
    allWrites is k .burst = (givenFor is k RateLimit.burstOf?).map .burst := by
  rw [allWrites_eq_givenFor, ← givenFor_map]
  simp only [RateLimit.value?_burst]

theorem allWrites_bodySize (is : List Ingress) (k : ObjectKey) :
    allWrites is k .bodySize =
      (givenFor is k fun i => (ProxySettings.bodySize i).value).map .bodySize := by
  rw [allWrites_eq_givenFor, ← givenFor_map]
  simp only [ProxySettings.value?_bodySize]

/-- Nothing is given for what is no route. -/
theorem givenFor_eq_nil {α : Type} {is : List Ingress} {k : ObjectKey}
    (absent : k ∉ (ruleGroups is).keys) (value : Ingress → Option α) :
    givenFor is k value = [] := by
  apply List.filterMap_eq_nil_iff.mpr
  intro i _
  rw [if_neg]
  intro mem
  obtain ⟨g, kept, -⟩ := mem_routesOf_iff.mp mem
  exact absent (OrderedMap.mem_keys_iff.mpr ⟨g, kept⟩)

theorem readable_iff {is : List Ingress} :
    Readable (.ofIngresses is) ↔
      (∀ i ∈ is, BackendTls.pass.isTriggered i = true →
        ∀ b ∈ i.backends, BackendTls.HasMark b.port) ∧
      ∀ i ∈ is, ¬ RateLimit.ReadsLongZone i := by
  constructor
  · intro readable
    constructor
    · intro i mem triggered
      have read := readable BackendTls.pass (by simp [annotationPasses]) i
        (List.mem_filter.mpr ⟨mem, triggered⟩)
      exact BackendTls.stop_reading_eq_none_iff.mp read
    · intro i mem long
      have triggered := RateLimit.isTriggered_of_readsLongZone long
      have read := readable RateLimit.pass (by simp [annotationPasses]) i
        (List.mem_filter.mpr ⟨mem, triggered⟩)
      exact RateLimit.stop_reading_eq_none_iff.mp read long
  · rintro ⟨marked, short⟩ p mem i looked
    obtain ⟨listed, triggered⟩ := List.mem_filter.mp looked
    simp only [annotationPasses, List.mem_cons, List.not_mem_nil, or_false] at mem
    rcases mem with rfl | rfl | rfl | rfl | rfl | rfl | rfl | rfl | rfl
    · rfl
    · exact BackendTls.stop_reading_eq_none_iff.mpr (marked i listed triggered)
    · rfl
    · rfl
    · exact RateLimit.stop_reading_eq_none_iff.mpr (short i listed)
    · rfl
    · rfl
    · rfl
    · rfl

/-- The passes complete exactly if they can read the Ingresses, and no value that is given for a
field of a route comes after one that it may not follow. -/
theorem annotate_completes_iff_readable (is : List Ingress) (ports : Catalog PortLookup) :
    (annotate is ports).stop = none ↔
      Readable (.ofIngresses is) ∧
        ∀ k f, (givenFor is k (·.value? f)).IsChain Setting.MayPrecede := by
  unfold annotate
  rw [run_completes_iff, asked_complete_iff]
  refine and_congr_right fun _ => forall₂_congr fun k f => ?_
  rw [allWrites_eq_givenFor]
  by_cases present : k ∈ (ruleGroups is).keys
  · exact ⟨fun chain => chain present, fun chain _ => chain⟩
  · rw [givenFor_eq_nil present]
    exact iff_of_true (fun there => absurd there present) .nil

/-- The passes complete, whatever the ports of the Services are, exactly if

* the ports of every Ingress that the pass for Services looks at can be told apart;
* no Ingress has a zone with a rate of too many digits, and no other rate;
* of the bursts that the Ingresses of one route give, and of their body sizes, neighbours are equal
  or both short. -/
theorem annotate_completes_iff (is : List Ingress) (ports : Catalog PortLookup) :
    (annotate is ports).stop = none ↔
      ((∀ i ∈ is, BackendTls.pass.isTriggered i = true →
        ∀ b ∈ i.backends, BackendTls.HasMark b.port) ∧
      ∀ i ∈ is, ¬ RateLimit.ReadsLongZone i) ∧
      ∀ k,
        (givenFor is k RateLimit.burstOf?).IsChain
          (fun m n => m = n ∨ Text.IsShort m ∧ Text.IsShort n) ∧
        (givenFor is k fun i => (ProxySettings.bodySize i).value).IsChain
          (fun a b => a = b ∨ Text.IsShort a.bytes ∧ Text.IsShort b.bytes) := by
  unfold annotate
  rw [run_completes_iff, readable_iff, asked_complete_iff]
  simp only [← Setting.burst_mayPrecede_iff, ← Setting.bodySize_mayPrecede_iff]
  have bursts : ∀ k, (givenFor is k RateLimit.burstOf?).IsChain
      (fun m n => Setting.MayPrecede (.burst m) (.burst n)) ↔
        (allWrites is k .burst).IsChain Setting.MayPrecede := by
    intro k
    rw [allWrites_burst, List.isChain_map]
  have sizes : ∀ k, (givenFor is k fun i => (ProxySettings.bodySize i).value).IsChain
      (fun a b => Setting.MayPrecede (.bodySize a) (.bodySize b)) ↔
        (allWrites is k .bodySize).IsChain Setting.MayPrecede := by
    intro k
    rw [allWrites_bodySize, List.isChain_map]
  simp only [bursts, sizes]
  refine and_congr_right fun _ => ?_
  constructor
  · intro chains k
    by_cases present : k ∈ (ruleGroups is).keys
    · exact ⟨chains k .burst present, chains k .bodySize present⟩
    · rw [allWrites_burst, allWrites_bodySize, givenFor_eq_nil present, givenFor_eq_nil present]
      exact ⟨.nil, .nil⟩
  · intro chains k f _
    by_cases burst : f = .burst
    · subst burst
      exact (chains k).1
    · by_cases size : f = .bodySize
      · subst size
        exact (chains k).2
      · exact Setting.isChain_of_isShown fun v mem => isShown_of_mem_allWrites mem burst size

/-- A zone with a rate of so many digits. -/
def onesZone (digits : Nat) : String :=
  String.ofList ('r' :: 'a' :: 't' :: 'e' :: '=' :: (List.replicate digits '1' ++ ['r', '/', 's']))

/-- An Ingress whose only rate is in a zone. -/
def zoned (digits : Nat) : Ingress :=
  .plain ⟨"shop", "web"⟩ [("a.b", "one")] []
    (.ofList [(AnnotationKey.limitReqZone, onesZone digits)])

theorem strip_onesZone (digits : Nat) : Text.strip (onesZone digits) = onesZone digits := by
  unfold Text.strip Text.stripChars onesZone
  rw [String.toList_ofList, Text.stripBy_eq_self]
  · intro c first
    cases first
    decide
  · intro c last
    simp only [List.getLast?_cons, List.getLast?_append] at last
    cases last
    exact (by decide : Text.isBlank 's' = false)

theorem isLong_onesZone {digits : Nat} (long : Text.maxIntegerDigits < digits) :
    RateLimit.IsLong (onesZone digits) := by
  have ones : ∀ c ∈ List.replicate digits '1', Text.isDigit c = true := by
    intro c mem
    rw [List.eq_of_mem_replicate mem]
    decide
  have filled : List.replicate digits '1' ≠ [] := by
    rw [ne_eq, List.replicate_eq_nil_iff]
    omega
  have there : RateLimit.rateAt? (onesZone digits).toList =
      some (List.replicate digits '1', .second) := by
    unfold onesZone
    rw [String.toList_ofList, RateLimit.rateAt?_eq_some_iff]
    exact ⟨filled, ones, [], by simp [RateLimit.RateUnit.letter]⟩
  exact ⟨List.replicate digits '1', .second,
    RateLimit.firstRate?_eq_some_iff.mpr
      ⟨0, there, fun q earlier => absurd earlier (Nat.not_lt_zero q)⟩,
    by rwa [List.length_replicate]⟩

theorem readsLongZone_zoned {digits : Nat} (long : Text.maxIntegerDigits < digits) :
    RateLimit.ReadsLongZone (zoned digits) := by
  have annotations : (zoned digits).metadata.annotations =
      .ofList [(AnnotationKey.limitReqZone, onesZone digits)] := rfl
  have absent : ∀ key least, AnnotationKey.limitReqZone ≠ key →
      RateLimit.nonzero ((zoned digits).integerFrom least key) = none := by
    intro key least other
    have missing : (zoned digits).annotation? key = none := by
      rw [Ingress.annotation?, annotations, OrderedMap.get?_ofList]
      exact (OrderedMap.lookup_cons key _ []).trans (if_neg other)
    unfold Ingress.integerFrom Ingress.given? Ingress.trimmed?
    rw [missing]
    rfl
  have there : (zoned digits).annotation? AnnotationKey.limitReqZone = some (onesZone digits) := by
    rw [Ingress.annotation?, annotations, OrderedMap.get?_ofList]
    exact List.lookup_cons_self
  refine ⟨absent _ 0 (by decide), absent _ 0 (by decide), onesZone digits, ?_,
    isLong_onesZone long⟩
  have filled : (onesZone digits).isEmpty = false := by
    rw [← Bool.not_eq_true, String.isEmpty_iff, ← String.toList_inj]
    unfold onesZone
    rw [String.toList_ofList]
    nofun
  unfold Ingress.given? Ingress.trimmed?
  rw [there, Option.map_some, strip_onesZone, Option.filter_some_pos (by rw [filled]; rfl)]

/-- A rate with a digit too many in a zone interrupts the passes. -/
theorem long_zone_interrupts : (annotate [zoned 4301] .empty).stop ≠ none := by
  intro complete
  have readable := readable_iff.mp (readable_of_complete complete)
  exact readable.2 (zoned 4301) (.head _) (readsLongZone_zoned (by decide))

end IngressNginx

end GatewayMigration
