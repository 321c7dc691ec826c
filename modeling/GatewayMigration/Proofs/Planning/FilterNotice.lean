import GatewayMigration.Proofs.Planning.Warnings
import Mathlib.Data.List.Sublists
/-!
# The notice of filters

The notice tells the concerns that the annotations of an Ingress raise, before their values are
understood. Main statements:

* `FilterNotice.mem_raisedConcerns_iff`: which concerns these are;
* `FilterNotice.noticeFor_inj`: the notice tells the Ingress and the concerns;
* `initials_sound`, `eq_of_initial`: every pass has its own way to begin a notification;
* `origin_of_promise`: only an Ingress that raises a concern is told that it gets a filter.
-/

namespace GatewayMigration

open EnvoyFilter

/-! ## The notice -/

namespace EnvoyFilter.Concern

/-- What the notice calls a concern. -/
def title : Concern → String
  | .rateLimit => "rate-limiting"
  | .bodySize => "body-size"
  | .noBuffer => "no-buffering"
  | .externalAuth => "ext-authz"

/-- The annotations that raise a concern. -/
def annotations : Concern → List String
  | .rateLimit => [AnnotationKey.limitRps, AnnotationKey.limitRpm, AnnotationKey.limitReqZone]
  | .bodySize => [AnnotationKey.proxyBodySize]
  | .noBuffer => [AnnotationKey.proxyBuffering]
  | .externalAuth => [AnnotationKey.authUrl]

end EnvoyFilter.Concern

/-- More than blanks is in one of the concern's annotations; buffering is turned off. -/
def Ingress.Raises (i : Ingress) : Concern → Prop
  | .noBuffer => i.HoldsFlag AnnotationKey.proxyBuffering false
  | c => ∃ key ∈ c.annotations, ∃ raw, i.given? key = some raw

namespace FilterNotice

/-- The concerns that the notice is about. -/
def raisedConcerns (i : Ingress) : List Concern :=
  Concern.all.filter fun c =>
    isRaised i (c.title, c.annotations) && (c != .noBuffer || turnsBufferingOff i)

theorem concerns_eq : concerns = Concern.all.map fun c => (c.title, c.annotations) := rfl

theorem raised_eq (i : Ingress) : raised i = (raisedConcerns i).map Concern.title := by
  have buffering : ∀ c : Concern, (c.title != "no-buffering") = (c != .noBuffer) := by
    intro c
    cases c <;> rfl
  unfold raised raisedConcerns
  simp only [concerns_eq, List.filter_map, List.map_map, List.filter_filter, Function.comp_def,
    buffering, Bool.and_comm]

theorem turnsBufferingOff_iff {i : Ingress} :
    (i.given? AnnotationKey.proxyBuffering).isSome = true ∧ turnsBufferingOff i = true ↔
      i.HoldsFlag AnnotationKey.proxyBuffering false := by
  unfold turnsBufferingOff Ingress.HoldsFlag Ingress.given?
  cases i.trimmed? AnnotationKey.proxyBuffering with
  | none => simp
  | some raw =>
    by_cases blank : raw = ""
    · simp [blank, Option.filter]
    · simp [blank, Option.filter]

theorem mem_raisedConcerns_iff {i : Ingress} {c : Concern} :
    c ∈ raisedConcerns i ↔ i.Raises c := by
  have listed : c ∈ Concern.all := by cases c <;> decide
  unfold raisedConcerns
  rw [List.mem_filter, and_iff_right listed]
  cases c with
  | noBuffer =>
    rw [Ingress.Raises, ← turnsBufferingOff_iff]
    simp [isRaised, Concern.annotations]
  | rateLimit => simp [Ingress.Raises, isRaised, Option.isSome_iff_exists]
  | bodySize => simp [Ingress.Raises, isRaised, Option.isSome_iff_exists]
  | externalAuth => simp [Ingress.Raises, isRaised, Option.isSome_iff_exists]

/-- The notice that these concerns get a filter. -/
def noticeFor (source : ObjectKey) (cs : List Concern) : Notification where
  severity := .info
  message := "EnvoyFilter resources will be generated for: " ++
    ", ".intercalate (cs.map Concern.title)
  source := some source

theorem noticeFor_inj {j k : ObjectKey} {cs ds : List Concern} (first : cs.Sublist Concern.all)
    (second : ds.Sublist Concern.all) (same : noticeFor j cs = noticeFor k ds) :
    j = k ∧ cs = ds := by
  have texts : ∀ cs ∈ Concern.all.sublists, ∀ ds ∈ Concern.all.sublists,
      ", ".intercalate (cs.map Concern.title) = ", ".intercalate (ds.map Concern.title) →
      cs = ds := by decide +kernel
  obtain ⟨-, message, source⟩ := Notification.mk.inj same
  exact ⟨Option.some.inj source, texts cs (List.mem_sublists.mpr first) ds
    (List.mem_sublists.mpr second) ((String.append_right_inj _).mp message)⟩

/-- The pass looks at every Ingress that raises a concern. -/
theorem isTriggered_of_raises {i : Ingress} {c : Concern} (raises : i.Raises c) :
    pass.isTriggered i = true := by
  have given : ∃ key ∈ c.annotations, ∃ raw, i.given? key = some raw := by
    cases c with
    | noBuffer =>
      obtain ⟨raw, there, -⟩ := raises
      exact ⟨_, .head _, raw, there⟩
    | rateLimit => exact raises
    | bodySize => exact raises
    | externalAuth => exact raises
  obtain ⟨key, own, raw, there⟩ := given
  have triggers : pass.triggers = Concern.all.flatMap Concern.annotations := rfl
  have listed : key ∈ pass.triggers := by
    rw [triggers]
    exact List.mem_flatMap.mpr ⟨c, by cases c <;> decide, own⟩
  exact AnnotationPass.isTriggered_of_given? listed there

/-- An Ingress with a route is told about the concerns that it raises. -/
theorem mem_edits_of_raises {i : Ingress} {c : Concern} (raises : i.Raises c)
    {routes : List ObjectKey} (routed : routes ≠ []) :
    .notify (noticeFor i.key (raisedConcerns i)) ∈ edits i routes := by
  have raised : raisedConcerns i ≠ [] := List.ne_nil_of_mem (mem_raisedConcerns_iff.mpr raises)
  unfold edits
  rw [raised_eq, if_neg (by simp [raised, routed])]
  exact .head _

theorem notice?_of_mem_edits {i : Ingress} {routes : List ObjectKey} {e : Edit}
    (mem : e ∈ edits i routes) : e.notice? = some (noticeFor i.key (raisedConcerns i)) := by
  unfold edits at mem
  split at mem
  · cases mem
  · rw [raised_eq] at mem
    cases List.mem_singleton.mp mem
    rfl

end FilterNotice

/-- The notification tells the Ingress of this key that the concern will get a filter. -/
def Notification.Promises (n : Notification) (source : ObjectKey) (c : Concern) : Prop :=
  ∃ cs : List Concern, cs.Sublist Concern.all ∧ n = FilterNotice.noticeFor source cs ∧ c ∈ cs

/-! ## Other notifications -/

theorem head?_append {s : String} {c : Char} (first : s.toList.head? = some c) (rest : String) :
    (s ++ rest).toList.head? = some c := by
  rw [String.toList_append, List.head?_append, first]
  rfl

theorem Notification.Promises.initial {n : Notification} {source : ObjectKey} {c : Concern}
    (promises : n.Promises source c) : n.message.toList.head? = some 'E' := by
  obtain ⟨cs, -, rfl, -⟩ := promises
  exact head?_append rfl _

theorem Notification.Warns.initial {n : Notification} {slot : RouteSlot} {k : ObjectKey}
    (warns : n.Warns slot k) : n.message.toList.head? = some 'c' := by
  obtain ⟨-, values, made⟩ := warns
  rw [made]
  exact head?_append (head?_append (head?_append (head?_append (head?_append rfl _) _) _) _) _

/-- What the notification of a pass begins with, if it makes any. -/
def AnnotationPass.NoticesBegin (p : AnnotationPass) (initials : List Char) : Prop :=
  ∀ i routes, ∀ e ∈ (p.read i).edits routes routes, ∀ n, e.notice? = some n →
    ∃ c ∈ initials, n.message.toList.head? = some c

theorem Edit.notice?_of_mem_settings {routes : List ObjectKey} {vs : List Setting}
    {source : ObjectKey} {e : Edit}
    (mem : e ∈ routes.flatMap fun k => vs.map fun v => .setting k v source) :
    e.notice? = none := by
  obtain ⟨k, -, inside⟩ := List.mem_flatMap.mp mem
  obtain ⟨v, -, rfl⟩ := List.mem_map.mp inside
  rfl

theorem Blockers.noticesBegin : pass.NoticesBegin ['M', 'r', 'A'] := by
  intro i routes e mem n own
  obtain ⟨n', noticed, rfl⟩ := List.mem_map.mp mem
  cases own
  unfold notices at noticed
  rw [List.mem_append, List.mem_append] at noticed
  rcases noticed with (blocked | rewritten) | guided
  · obtain ⟨e, -, made⟩ := List.mem_filterMap.mp blocked
    obtain ⟨v, -, rfl⟩ := Option.map_eq_some_iff.mp made
    exact ⟨'M', by decide, head?_append (head?_append (head?_append rfl _) _) _⟩
  · obtain ⟨v, -, rfl⟩ := Option.map_eq_some_iff.mp (Option.mem_toList.mp rewritten)
    split
    · exact ⟨'M', by decide, head?_append (head?_append rfl _) _⟩
    · exact ⟨'r', by decide, head?_append rfl _⟩
  · obtain ⟨e, -, made⟩ := List.mem_filterMap.mp guided
    unfold guidanceNotice at made
    split at made
    · split at made
      · cases made
      · cases made
        exact ⟨'A', by decide, head?_append rfl _⟩
    · cases made

theorem BackendTls.exists_policy_of_notice? {i : Ingress} {routes present : List ObjectKey}
    {e : Edit} (mem : e ∈ (pass.read i).edits routes present) {n : Notification}
    (own : e.notice? = some n) : ∃ b, e = policyEdit i b := by
  dsimp only [pass, reading] at mem
  split at mem
  · rcases List.mem_append.mp mem with service | policy
    · obtain ⟨b, -, rfl⟩ := List.mem_map.mp service
      cases own
    · split at policy
      · obtain ⟨b, -, rfl⟩ := List.mem_map.mp policy
        exact ⟨b, rfl⟩
      · cases policy
  · cases mem

theorem BackendTls.noticesBegin : pass.NoticesBegin ['g'] := by
  intro i routes e mem n own
  obtain ⟨b, rfl⟩ := exists_policy_of_notice? mem own
  cases own
  exact ⟨'g', by decide, head?_append (head?_append (head?_append (head?_append
    (head?_append (head?_append rfl _) _) _) _) _) _⟩

theorem Timeouts.noticesBegin : pass.NoticesBegin [] := by
  intro i routes e mem n own
  dsimp only [pass, Timeouts.edits] at mem
  split at mem
  · obtain ⟨k, -, rfl⟩ := List.mem_map.mp mem
    cases own
  · cases mem

theorem SslRedirect.eq_flagged_of_notice? {i : Ingress} {routes : List ObjectKey} {e : Edit}
    (mem : e ∈ (pass.read i).edits routes routes) {n : Notification} (own : e.notice? = some n) :
    ∃ k : ObjectKey, n = ⟨.info, "HTTPRoute " ++ toString k ++
      " flagged for HTTP to HTTPS redirect", some i.key⟩ := by
  dsimp only [pass, SslRedirect.edits] at mem
  split at mem
  · obtain ⟨k, -, inside⟩ := List.mem_flatMap.mp mem
    rcases List.mem_cons.mp inside with rfl | notice
    · cases own
    · cases List.mem_singleton.mp notice
      cases own
      exact ⟨k, rfl⟩
  · cases mem

theorem SslRedirect.noticesBegin : pass.NoticesBegin ['H'] := by
  intro i routes e mem n own
  obtain ⟨k, rfl⟩ := eq_flagged_of_notice? mem own
  exact ⟨'H', by decide, head?_append (head?_append rfl _) _⟩

theorem RateLimit.noticesBegin : pass.NoticesBegin [] := by
  intro i routes e mem n own
  dsimp only [pass, reading] at mem
  split at mem
  · cases mem
  · dsimp only at mem
    split at mem
    · rw [Edit.notice?_of_mem_settings mem] at own
      cases own
    · cases mem

theorem ProxySettings.noticesBegin : pass.NoticesBegin [] := by
  intro i routes e mem n own
  rcases List.mem_append.mp mem with setting | service
  · rw [Edit.notice?_of_mem_settings setting] at own
    cases own
  · split at service
    · obtain ⟨b, -, rfl⟩ := List.mem_map.mp service
      cases own
    · cases service

theorem ClientCert.noticesBegin : pass.NoticesBegin [] := by
  intro i routes e mem n own
  dsimp only [pass, ClientCert.edits] at mem
  split at mem
  · obtain ⟨k, -, rfl⟩ := List.mem_map.mp mem
    cases own
  · cases mem

theorem ExternalAuthorization.noticesBegin : pass.NoticesBegin [] := by
  intro i routes e mem n own
  dsimp only [pass, ExternalAuthorization.edits] at mem
  split at mem
  · obtain ⟨k, -, rfl⟩ := List.mem_map.mp mem
    cases own
  · cases mem

theorem FilterNotice.noticesBegin : pass.NoticesBegin ['E'] := by
  intro i routes e mem n own
  cases (notice?_of_mem_edits mem).symm.trans own
  exact ⟨'E', by decide, head?_append rfl _⟩

/-- The passes with what their notifications begin with. -/
def passInitials : List (AnnotationPass × List Char) :=
  [(Blockers.pass, ['M', 'r', 'A']), (BackendTls.pass, ['g']), (Timeouts.pass, []),
   (SslRedirect.pass, ['H']), (RateLimit.pass, []), (ProxySettings.pass, []),
   (ClientCert.pass, []), (ExternalAuthorization.pass, []), (FilterNotice.pass, ['E'])]

theorem initials_sound : ∀ e ∈ passInitials, e.1.NoticesBegin e.2 := by
  intro e mem
  simp only [passInitials, List.mem_cons, List.not_mem_nil, or_false] at mem
  rcases mem with rfl | rfl | rfl | rfl | rfl | rfl | rfl | rfl | rfl
  · exact Blockers.noticesBegin
  · exact BackendTls.noticesBegin
  · exact Timeouts.noticesBegin
  · exact SslRedirect.noticesBegin
  · exact RateLimit.noticesBegin
  · exact ProxySettings.noticesBegin
  · exact ClientCert.noticesBegin
  · exact ExternalAuthorization.noticesBegin
  · exact FilterNotice.noticesBegin

/-- No two passes make notifications that begin in the same way. -/
theorem initials_disjoint : (passInitials.flatMap Prod.snd).Nodup := by decide

/-- The first character of a notification tells which pass made it. -/
theorem eq_of_initial {p q : AnnotationPass} (passed : p ∈ annotationPasses) {cs : List Char}
    (listed : (q, cs) ∈ passInitials) {c : Char} (own : c ∈ cs) {i : Ingress}
    {routes : List ObjectKey} {e : Edit} (mem : e ∈ (p.read i).edits routes routes)
    {n : Notification} (noticed : e.notice? = some n) (begins : n.message.toList.head? = some c) :
    p = q := by
  have named : p ∈ passInitials.map Prod.fst := passed
  obtain ⟨⟨p, ds⟩, there, rfl⟩ := List.mem_map.mp named
  obtain ⟨d, own', begins'⟩ := initials_sound _ there i routes e mem n noticed
  cases begins.symm.trans begins'
  exact owner_unique initials_disjoint there listed own' own

/-- No other pass makes a notice that promises something. -/
theorem eq_noticeFor_of_mem_edits {p : AnnotationPass} (passed : p ∈ annotationPasses) {i : Ingress}
    {routes : List ObjectKey} {e : Edit} (mem : e ∈ (p.read i).edits routes routes)
    {n : Notification} (own : e.notice? = some n) {source : ObjectKey} {c : Concern}
    (promises : n.Promises source c) :
    n = FilterNotice.noticeFor i.key (FilterNotice.raisedConcerns i) := by
  have listed : (FilterNotice.pass, ['E']) ∈ passInitials := by simp [passInitials]
  cases eq_of_initial passed listed (.head _) mem own promises.initial
  exact Option.some.inj (own.symm.trans (FilterNotice.notice?_of_mem_edits mem))

/-- A promise is made to an Ingress that raises the concern. -/
theorem IngressNginx.origin_of_promise {is : List Ingress} {ports : Catalog PortLookup}
    (complete : (planFor is ports).stop = none) {n : Notification}
    (noticed : n ∈ (planFor is ports).state.notices) {source : ObjectKey} {c : Concern}
    (promises : n.Promises source c) : ∃ i ∈ is, i.key = source ∧ i.Raises c := by
  obtain ⟨state, -⟩ := planFor_eq_edits complete
  rw [state] at noticed
  rcases PlanState.mem_notices_edits_cases noticed with start | ⟨f, k, warns⟩ | ⟨e, asked, own⟩
  · cases start
  · cases promises.initial.symm.trans warns.initial
  · obtain ⟨p, passed, inside⟩ := List.mem_flatMap.mp asked
    obtain ⟨i, looked, edits⟩ := List.mem_flatMap.mp inside
    have made := eq_noticeFor_of_mem_edits passed edits own promises
    obtain ⟨cs, listed, same, mem⟩ := promises
    obtain ⟨rfl, rfl⟩ := FilterNotice.noticeFor_inj listed List.filter_sublist
      (same.symm.trans made)
    exact ⟨i, (List.mem_filter.mp looked).1, rfl, FilterNotice.mem_raisedConcerns_iff.mp mem⟩

end GatewayMigration
