import GatewayMigration.Proofs.Text.Blank
import GatewayMigration.Topology.Layout
/-!
# Layouts from flags

Whether a flag is empty is asked before its blanks are stripped, and not again. Main statements:

* `ofFlags_cases`: flags make a layout, or a fault about the configuration;
* `usable_iff`: the layout can be used exactly if no flag for a name is there and has nothing but
  blanks.

`blank_space_unusable` is a layout that cannot be used.
-/

namespace GatewayMigration

/-- It is the configuration that is wrong. -/
def Interruption.IsConfiguration (why : Interruption) : Prop :=
  ∃ message field expected actual, why = .fault (.configuration message field expected actual)

/-- A name in a layout, the flag that it comes from, and what it is without the flag. -/
structure NameFlag where
  flag : String
  fallback : String
  name : GatewayLayout → String
  filled : fallback ≠ ""
  trimmed : Text.IsTrimmed fallback

def nameFlags : List NameFlag :=
  [⟨LayoutFlag.space, "istio-system", (·.space), by decide, Text.isTrimmed_of_all (by decide)⟩,
   ⟨LayoutFlag.name, "platform-gateway", (·.name), by decide, Text.isTrimmed_of_all (by decide)⟩,
   ⟨LayoutFlag.className, "istio", (·.className), by decide, Text.isTrimmed_of_all (by decide)⟩]

namespace GatewayLayout

theorem flag?_eq_some_iff {flags : Flags} {name v : String} :
    flag? flags name = some v ↔ flags.get? name = some v ∧ v ≠ "" := by
  rw [flag?, Option.filter_eq_some_iff, Bool.not_eq_true', ← Bool.not_eq_true, String.isEmpty_iff]

theorem flag?_eq_none_iff {flags : Flags} {name : String} :
    flag? flags name = none ↔ ∀ v, flags.get? name = some v → v = "" := by
  rw [Option.eq_none_iff_forall_ne_some]
  simp only [ne_eq, flag?_eq_some_iff, not_and, not_not]

end GatewayLayout

namespace NameFlag

/-- The flag is not empty, but there are only blanks. -/
def IsBlanked (n : NameFlag) (flags : Flags) : Prop :=
  ∃ v, flags.get? n.flag = some v ∧ v ≠ "" ∧ Text.IsBlankText v

/-- The name is not empty and has no blanks at its ends. It is what the flag says if it says
anything, and the default otherwise. -/
structure IsSound (n : NameFlag) (flags : Flags) (l : GatewayLayout) : Prop where
  filled : n.name l ≠ ""
  trimmed : Text.IsTrimmed (n.name l)
  given : ∀ v, flags.get? n.flag = some v → ¬ Text.IsBlankText v →
    Text.IsStripped (n.name l) v
  fallback : (∀ v, flags.get? n.flag = some v → Text.IsBlankText v) → n.name l = n.fallback

/-- What becomes of a name, whatever it is for. -/
def read (n : NameFlag) (flags : Flags) : String :=
  ((GatewayLayout.flag? flags n.flag).map Text.strip).getD n.fallback

variable {n : NameFlag} {flags : Flags} {v : String}

theorem read_of_silent (silent : ∀ v, flags.get? n.flag = some v → v = "") :
    n.read flags = n.fallback := by
  rw [read, GatewayLayout.flag?_eq_none_iff.mpr silent]
  rfl

theorem read_of_filled (given : flags.get? n.flag = some v) (filled : v ≠ "") :
    n.read flags = Text.strip v := by
  rw [read, GatewayLayout.flag?_eq_some_iff.mpr ⟨given, filled⟩]
  rfl

theorem read_of_isBlanked (blanked : n.IsBlanked flags) : n.read flags = "" := by
  obtain ⟨v, given, filled, blank⟩ := blanked
  rw [read_of_filled given filled, Text.strip_eq_empty_iff]
  exact blank

theorem isSound_of_fallback {l : GatewayLayout} (same : n.name l = n.fallback)
    (silent : ∀ v, flags.get? n.flag = some v → Text.IsBlankText v) : n.IsSound flags l where
  filled := same ▸ n.filled
  trimmed := same ▸ n.trimmed
  given v given said := absurd (silent v given) said
  fallback _ := same

theorem isSound_iff {l : GatewayLayout} (made : n.name l = n.read flags) :
    n.IsSound flags l ↔ ¬ n.IsBlanked flags := by
  constructor
  · intro sound blanked
    exact sound.filled (made.trans (read_of_isBlanked blanked))
  · intro clear
    by_cases silent : ∀ v, flags.get? n.flag = some v → v = ""
    · refine isSound_of_fallback (made.trans (read_of_silent silent)) fun v given => ?_
      rw [silent v given]
      nofun
    · simp only [not_forall] at silent
      obtain ⟨v, given, filled⟩ := silent
      have said : ¬ Text.IsBlankText v := fun blank => clear ⟨v, given, filled, blank⟩
      have stripped : n.name l = Text.strip v := made.trans (read_of_filled given filled)
      refine ⟨?_, ?_, fun w same _ => ?_, fun quiet => absurd (quiet v given) said⟩
      · rw [stripped, ne_eq, Text.strip_eq_empty_iff]
        exact said
      · rw [stripped]
        exact (Text.isStripped_strip v).trimmed
      · obtain rfl : v = w := Option.some.inj (given.symm.trans same)
        rw [stripped]
        exact Text.isStripped_strip v

end NameFlag

/-! ## Modes -/

namespace TopologyMode

/-- The words for modes. -/
def words : List String := ["centralized", "per-namespace", "per-tenant"]

theorem parse_cases (v : String) :
    (Text.lower (Text.strip v) ∈ words ∧ ∃ m, parse v = .ok m) ∨
      (Text.lower (Text.strip v) ∉ words ∧ ∃ why, parse v = .error why ∧ why.IsConfiguration) := by
  unfold parse
  generalize Text.lower (Text.strip v) = word
  dsimp only
  by_cases tenant : word = "per-tenant"
  · left
    rw [if_pos tenant, tenant]
    exact ⟨by decide, _, rfl⟩
  · rw [if_neg tenant]
    cases found : ofName? word with
    | some m =>
      have same : m.name = word := by simpa using List.find?_some found
      left
      rw [← same]
      refine ⟨?_, m, rfl⟩
      cases m
      · decide
      · decide
    | none =>
      have other := List.find?_eq_none.mp found
      right
      refine ⟨?_, _, rfl, _, _, _, _, rfl⟩
      simp only [words, List.mem_cons, List.not_mem_nil, or_false, not_or]
      exact ⟨fun same => other .centralized (by decide) (by simp [same, name]),
        fun same => other .perNamespace (by decide) (by simp [same, name]), tenant⟩

end TopologyMode

namespace GatewayLayout

/-- All flags are known, and the one for the mode has the word for one unless it is empty. -/
structure Accepts (flags : Flags) : Prop where
  known : ∀ k ∈ flags.keys, k ∈ LayoutFlag.all.map Prod.fst
  mode : ∀ v, flags.get? LayoutFlag.mode = some v → v ≠ "" →
    Text.lower (Text.strip v) ∈ TopologyMode.words

theorem unknownFlags_eq_nil_iff {flags : Flags} :
    unknownFlags flags = [] ↔ ∀ k ∈ flags.keys, k ∈ LayoutFlag.all.map Prod.fst := by
  unfold unknownFlags sortTexts
  rw [List.eq_nil_iff_forall_not_mem]
  simp only [List.mem_mergeSort, List.mem_filter, decide_eq_true_eq, not_and, not_not]

/-- The layout of this mode with the names that flags give. -/
def withNames (flags : Flags) (mode : TopologyMode) : GatewayLayout where
  mode := mode
  space := ((flag? flags LayoutFlag.space).map Text.strip).getD "istio-system"
  name := ((flag? flags LayoutFlag.name).map Text.strip).getD "platform-gateway"
  className := ((flag? flags LayoutFlag.className).map Text.strip).getD "istio"

theorem name_withNames (flags : Flags) (mode : TopologyMode) :
    ∀ n ∈ nameFlags, n.name (withNames flags mode) = n.read flags := by
  intro n mem
  simp only [nameFlags, List.mem_cons, List.not_mem_nil, or_false] at mem
  rcases mem with rfl | rfl | rfl
  · rfl
  · rfl
  · rfl

/-- Flags that are accepted make a layout with the names that they give, and other flags a fault
about the configuration. -/
theorem ofFlags_cases (flags : Flags) :
    (¬ Accepts flags ∧ ∃ why, ofFlags flags = .error why ∧ why.IsConfiguration) ∨
    (Accepts flags ∧ ∃ l, ofFlags flags = .ok l ∧ ∀ n ∈ nameFlags, n.name l = n.read flags) := by
  by_cases known : unknownFlags flags = []
  · have listed := unknownFlags_eq_nil_iff.mp known
    cases given : flag? flags LayoutFlag.mode with
    | none =>
      right
      refine ⟨⟨listed, fun v there filled => ?_⟩, withNames flags .centralized, ?_,
        name_withNames flags .centralized⟩
      · exact absurd (flag?_eq_none_iff.mp given v there) filled
      · rw [ofFlags, known, given]
        rfl
    | some v =>
      obtain ⟨there, filled⟩ := flag?_eq_some_iff.mp given
      rcases TopologyMode.parse_cases v with ⟨word, m, parsed⟩ | ⟨word, why, parsed, wrong⟩
      · right
        refine ⟨⟨listed, fun w same _ => ?_⟩, withNames flags m, ?_, name_withNames flags m⟩
        · obtain rfl : v = w := Option.some.inj (there.symm.trans same)
          exact word
        · rw [ofFlags, known, given]
          dsimp only
          rw [parsed]
          rfl
      · left
        refine ⟨fun accepts => word (accepts.mode v there filled), why, ?_, wrong⟩
        rw [ofFlags, known, given]
        dsimp only
        rw [parsed]
        rfl
  · left
    have some : (!(unknownFlags flags).isEmpty) = true := by
      rw [Bool.not_eq_true', ← Bool.not_eq_true, List.isEmpty_iff]
      exact known
    exact ⟨fun accepts => known (unknownFlags_eq_nil_iff.mpr accepts.known), _, if_pos some,
      _, _, _, _, rfl⟩

/-- All names of the layout are what the flags say or the defaults, and can be used. So can those of
the shared Gateway. -/
structure IsUsable (l : GatewayLayout) (flags : Flags) : Prop where
  names : ∀ n ∈ nameFlags, n.IsSound flags l
  shared : l.mode = .centralized → ∀ space, (l.gatewayFor space).space ≠ "" ∧
    (l.gatewayFor space).name ≠ ""

theorem isUsable_iff {l : GatewayLayout} {flags : Flags} :
    l.IsUsable flags ↔ ∀ n ∈ nameFlags, n.IsSound flags l := by
  refine ⟨IsUsable.names, fun sound => ⟨sound, fun mode space => ?_⟩⟩
  rw [gatewayFor, mode]
  exact ⟨(sound _ (.head _)).filled, (sound _ (.tail _ (.head _))).filled⟩

/-- Flags make a fault about the configuration or a layout. The layout can be used exactly if no
flag for a name has blanks and nothing else, and a name with such a flag is empty. -/
theorem usable_iff (flags : Flags) :
    (¬ Accepts flags ∧ ∃ why, ofFlags flags = .error why ∧ why.IsConfiguration) ∨
    (Accepts flags ∧ ∃ l, ofFlags flags = .ok l ∧
      (l.IsUsable flags ↔ ∀ n ∈ nameFlags, ¬ n.IsBlanked flags) ∧
      ∀ n ∈ nameFlags, n.IsBlanked flags → n.name l = "") := by
  rcases ofFlags_cases flags with refused | ⟨accepts, l, made, names⟩
  · exact .inl refused
  · refine .inr ⟨accepts, l, made, ?_, fun n mem blanked => ?_⟩
    · rw [isUsable_iff]
      exact forall₂_congr fun n mem => NameFlag.isSound_iff (names n mem)
    · rw [names n mem]
      exact NameFlag.read_of_isBlanked blanked

/-- A namespace of one blank becomes an empty one, and the shared Gateway is nowhere. -/
theorem blank_space_unusable :
    ∃ l, ofFlags (.ofList [(LayoutFlag.space, " ")]) = .ok l ∧ l.mode = .centralized ∧
      (l.gatewayFor "shop").space = "" ∧ ¬ l.IsUsable (.ofList [(LayoutFlag.space, " ")]) := by
  refine ⟨{ space := "" }, by decide +kernel, rfl, rfl, fun usable => ?_⟩
  exact (usable.shared rfl "shop").1 rfl

end GatewayLayout

end GatewayMigration
