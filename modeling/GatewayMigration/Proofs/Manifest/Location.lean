import GatewayMigration.Proofs.Manifest.Flattening
/-!
# Where an invalid object is

A fault about an invalid object names a document. The number in it counts objects, not documents:
lists have been opened and empty documents passed over before objects are read. Main statements:

* `addObjects_eq_invalid_iff`: reading objects ends with this fault exactly at the first object that
  is not sound, if that one breaks its schema;
* `readFile_eq_invalid_iff`: so does reading a file, at the object that its documents hold;
* `located_iff`: the number is the position of the document that holds the object exactly if as many
  objects as documents come before the object.
-/

namespace GatewayMigration

/-- The fault tells the user that the document at this position is to blame. -/
structure Fault.PointsTo (f : Fault) (position : Nat) : Prop where
  context : ("document_index", .int position) ∈ f.context
  hint : f.hint? = some ("Check YAML document #" ++ toString (position : Int) ++
    " for a malformed Ingress or Service")

theorem Fault.pointsTo_iff {problem : ManifestProblem} {file : Option String}
    {document : Option Int} {position : Nat} :
    (manifest problem file document).PointsTo position ↔ document = some (position : Int) := by
  constructor
  · rintro ⟨context, -⟩
    rcases List.mem_append.mp context with path | number
    · cases file with
      | none => cases path
      | some s =>
        unfold textEntry at path
        dsimp only at path
        split at path
        · cases path
        · exact absurd (Prod.mk.inj (List.mem_singleton.mp path)).1 (by decide)
    · cases document with
      | none => cases number
      | some i =>
        have same := (Prod.mk.inj (List.mem_singleton.mp number)).2
        exact congrArg some (Value.int.inj same).symm
  · rintro rfl
    exact ⟨List.mem_append_right _ (.head _), rfl⟩

namespace Manifest

/-- The schema of the object's kind has these problems with it. -/
inductive Breaks (es : ObjectFields) : (kind : String) → List Problem → Prop
  | ingress {ps : List Problem} (own : IsIngress es)
      (invalid : Ingress.codec.read (.mapping es) = .invalid ps) : Breaks es "Ingress" ps
  | service {ps : List Problem} (own : IsService es)
      (invalid : Service.codec.read (.mapping es) = .invalid ps) : Breaks es "Service" ps

/-- The fault about an invalid object. -/
def invalidObject (kind : String) (ps : List Problem) (file : Option String)
    (document : Option Int) : Fault :=
  .manifest (.invalidObject kind ps) file document

section Results
variable {kind : String} {ps : List Problem} {file : Option String} {document : Option Int}

theorem invalidObject_inj {kind' : String} {ps' : List Problem} {file' : Option String}
    {document' : Option Int} (same : Interruption.fault (invalidObject kind ps file document) =
      .fault (invalidObject kind' ps' file' document')) :
    kind = kind' ∧ ps = ps' ∧ file = file' ∧ document = document' := by
  cases same
  exact ⟨rfl, rfl, rfl, rfl⟩

/-! ## Objects -/

theorem not_breaks_of_isSound {es : ObjectFields} (sound : IsSound es) : ¬ Breaks es kind ps := by
  rintro (⟨own, invalid⟩ | ⟨own, invalid⟩)
  · obtain ⟨i, valid⟩ := sound.ingress own
    exact absurd (invalid.symm.trans valid) nofun
  · obtain ⟨v, valid⟩ := sound.service own
    exact absurd (invalid.symm.trans valid) nofun

theorem not_breaksVersion_of_breaks {es : ObjectFields} (broken : Breaks es kind ps) :
    ¬ BreaksVersion es := by
  rintro ⟨ingress, v, given, collection⟩
  cases broken with
  | ingress own _ =>
    obtain rfl := Option.some.inj (given.symm.trans own.2)
    cases collection
  | service own _ => exact absurd (ingress.symm.trans own) (by decide)

theorem breaks_ingress_iff {es : ObjectFields} (own : IsIngress es) :
    Breaks es kind ps ↔ kind = "Ingress" ∧ Ingress.codec.read (.mapping es) = .invalid ps := by
  constructor
  · rintro (⟨-, invalid⟩ | ⟨service, -⟩)
    · exact ⟨rfl, invalid⟩
    · exact absurd own (not_isIngress_of_isService service)
  · rintro ⟨rfl, invalid⟩
    exact .ingress own invalid

theorem breaks_service_iff {es : ObjectFields} (own : IsService es) :
    Breaks es kind ps ↔ kind = "Service" ∧ Service.codec.read (.mapping es) = .invalid ps := by
  constructor
  · rintro (⟨ingress, -⟩ | ⟨-, invalid⟩)
    · exact absurd ingress (not_isIngress_of_isService own)
    · exact ⟨rfl, invalid⟩
  · rintro ⟨rfl, invalid⟩
    exact .service own invalid

theorem check_bind_eq_invalid_iff {α : Type} {name origin : String} {n : Nat} {c : Checked α}
    {f : α → Sources} :
    (check name origin n c >>= fun a => pure (f a)) =
        .error (.fault (invalidObject kind ps file document)) ↔
      (kind = name ∧ c = .invalid ps) ∧ file = some origin ∧ document = some (n : Int) := by
  cases c with
  | valid a => exact iff_of_false nofun (fun ⟨⟨_, invalid⟩, _⟩ => nomatch invalid)
  | invalid qs =>
    constructor
    · intro stopped
      obtain ⟨rfl, rfl, rfl, rfl⟩ := invalidObject_inj (Except.error.inj stopped)
      exact ⟨⟨rfl, rfl⟩, rfl, rfl⟩
    · rintro ⟨⟨rfl, ⟨⟩⟩, rfl, rfl⟩
      rfl

theorem addObject_eq_invalid_iff {cls origin : String} {n : Nat} {s : Sources} {es : ObjectFields} :
    addObject cls origin n s es = .error (.fault (invalidObject kind ps file document)) ↔
      Breaks es kind ps ∧ file = some origin ∧ document = some (n : Int) := by
  unfold addObject
  rcases kindOf_cases es with
    ⟨breaks, message, fails⟩ | ⟨-, ⟨own, found⟩ | ⟨own, found⟩ | ⟨no, nor, found⟩⟩
  · rw [fails]
    exact iff_of_false nofun fun both => not_breaksVersion_of_breaks both.1 breaks
  · rw [found, breaks_ingress_iff own]
    exact check_bind_eq_invalid_iff
  · rw [found, breaks_service_iff own]
    exact check_bind_eq_invalid_iff
  · rw [found]
    refine iff_of_false nofun ?_
    rintro ⟨⟨own, -⟩ | ⟨own, -⟩, -⟩
    · exact no own
    · exact nor own

/-- An object can be read exactly if it can be added to what was read before. -/
theorem isSound_iff {cls origin : String} {n : Nat} {s : Sources} {es : ObjectFields} :
    IsSound es ↔ ∃ s', addObject cls origin n s es = .ok s' := by
  rcases addObject_cases cls origin n s es with
    ⟨breaks, message, fails⟩ | ⟨sound, s', made, -⟩ | ⟨-, broken, problem, source, number, fails⟩
  · rw [fails]
    exact iff_of_false (fun sound => sound.version breaks) nofun
  · exact iff_of_true sound ⟨s', made⟩
  · rw [fails]
    exact iff_of_false broken nofun

/-- The first object that is not sound comes after those in front, and it breaks its schema. -/
inductive FailsAfter (kind : String) (ps : List Problem) :
    (front objects : List ObjectFields) → Prop
  | here {es : ObjectFields} {rest : List ObjectFields} (broken : Breaks es kind ps) :
    FailsAfter kind ps [] (es :: rest)
  | later {es : ObjectFields} {front rest : List ObjectFields} (sound : IsSound es)
    (fails : FailsAfter kind ps front rest) : FailsAfter kind ps (es :: front) (es :: rest)

theorem exists_failsAfter_cons_of_not_isSound {es : ObjectFields} {rest : List ObjectFields}
    {P : List ObjectFields → Prop} (broken : ¬ IsSound es) :
    (∃ front, FailsAfter kind ps front (es :: rest) ∧ P front) ↔ Breaks es kind ps ∧ P [] := by
  constructor
  · rintro ⟨front, breaks | ⟨sound, -⟩, holds⟩
    · exact ⟨breaks, holds⟩
    · exact absurd sound broken
  · exact fun both => ⟨[], .here both.1, both.2⟩

theorem exists_failsAfter_cons_of_isSound {es : ObjectFields} {rest : List ObjectFields}
    {P : List ObjectFields → Prop} (sound : IsSound es) :
    (∃ front, FailsAfter kind ps front (es :: rest) ∧ P front) ↔
      ∃ front, FailsAfter kind ps front rest ∧ P (es :: front) := by
  constructor
  · rintro ⟨front, breaks | ⟨-, fails⟩, holds⟩
    · exact absurd breaks (not_breaks_of_isSound sound)
    · exact ⟨_, fails, holds⟩
  · rintro ⟨front, fails, holds⟩
    exact ⟨es :: front, .later sound fails, holds⟩

/-- Reading objects ends with the fault at the first one that is not sound. -/
theorem addObjects_eq_invalid_iff {cls origin : String} {n : Nat} {s : Sources}
    {objects : List ObjectFields} :
    addObjects cls origin n s (objects.map .mapping) =
        .error (.fault (invalidObject kind ps file document)) ↔
      ∃ front, FailsAfter kind ps front objects ∧
        file = some origin ∧ document = some ((n + front.length : Nat) : Int) := by
  induction objects generalizing n s with
  | nil => exact iff_of_false nofun (fun ⟨_, fails, _⟩ => nomatch fails)
  | cons o objects ih =>
    rw [addObjects_cons, bind_eq_error_iff, addObject_eq_invalid_iff]
    by_cases sound : IsSound o
    · obtain ⟨s', made⟩ := isSound_iff.mp sound
      rw [exists_failsAfter_cons_of_isSound sound,
        or_iff_right fun stops => not_breaks_of_isSound sound stops.1, made]
      have count (front : List ObjectFields) :
          n + (o :: front).length = n + 1 + front.length := by
        rw [List.length_cons, Nat.add_comm front.length, Nat.add_assoc]
      simp only [Except.ok.injEq, exists_eq_left', ih, count]
    · rw [exists_failsAfter_cons_of_not_isSound sound, or_iff_left]
      · exact Iff.rfl
      · exact fun ⟨s', made, _⟩ => sound (isSound_iff.mpr ⟨s', made⟩)

/-! ## Documents -/

theorem failsAfter_append_iff {front xs ys : List ObjectFields} :
    FailsAfter kind ps front (xs ++ ys) ↔ FailsAfter kind ps front xs ∨
      ∃ more, front = xs ++ more ∧ (∀ o ∈ xs, IsSound o) ∧ FailsAfter kind ps more ys := by
  induction xs generalizing front with
  | nil =>
    rw [or_iff_right nofun]
    exact ⟨fun fails => ⟨front, rfl, nofun, fails⟩, fun ⟨_, same, _, fails⟩ => same ▸ fails⟩
  | cons x xs ih =>
    constructor
    · rintro (broken | ⟨sound, fails⟩)
      · exact .inl (.here broken)
      · rcases ih.mp fails with inside | ⟨more, rfl, sounds, behind⟩
        · exact .inl (.later sound inside)
        · exact .inr ⟨more, rfl, List.forall_mem_cons.mpr ⟨sound, sounds⟩, behind⟩
    · rintro ((broken | ⟨sound, inside⟩) | ⟨more, rfl, sounds, behind⟩)
      · exact .here broken
      · exact .later sound (ih.mpr (.inl inside))
      · obtain ⟨sound, sounds⟩ := List.forall_mem_cons.mp sounds
        exact .later sound (ih.mpr (.inr ⟨more, rfl, sounds, behind⟩))

/-- The first object that is not sound breaks its schema. It is held by the document after these,
and comes after these objects of that document. -/
def StopsAt (kind : String) (ps : List Problem) (ds before : List Value)
    (passed : List ObjectFields) : Prop :=
  ∃ d after, ds = before ++ d :: after ∧ (∀ o ∈ before.flatMap objectsOf, IsSound o) ∧
    FailsAfter kind ps passed (objectsOf d)

theorem failsAfter_flatMap_iff {ds : List Value} {front : List ObjectFields} :
    FailsAfter kind ps front (ds.flatMap objectsOf) ↔
      ∃ before passed, StopsAt kind ps ds before passed ∧
        front = before.flatMap objectsOf ++ passed := by
  induction ds generalizing front with
  | nil =>
    refine iff_of_false nofun ?_
    rintro ⟨before, passed, ⟨d, after, split, -⟩, -⟩
    exact absurd split.symm (by simp)
  | cons d ds ih =>
    rw [List.flatMap_cons, failsAfter_append_iff]
    constructor
    · rintro (inside | ⟨more, rfl, sounds, behind⟩)
      · exact ⟨[], front, ⟨d, ds, rfl, nofun, inside⟩, rfl⟩
      · obtain ⟨before, passed, ⟨e, after, rfl, sound, fails⟩, rfl⟩ := ih.mp behind
        refine ⟨d :: before, passed, ⟨e, after, rfl, ?_, fails⟩, ?_⟩
        · rw [List.flatMap_cons]
          exact List.forall_mem_append.mpr ⟨sounds, sound⟩
        · rw [List.flatMap_cons, List.append_assoc]
    · rintro ⟨_ | ⟨e, before⟩, passed, ⟨c, after, ⟨⟩, sounds, fails⟩, rfl⟩
      · exact .inl fails
      · rw [List.flatMap_cons, List.forall_mem_append] at sounds
        refine .inr ⟨before.flatMap objectsOf ++ passed, ?_, sounds.1,
          ih.mpr ⟨before, passed, ⟨c, after, rfl, sounds.2, fails⟩, rfl⟩⟩
        rw [List.flatMap_cons, List.append_assoc]

theorem objectsFrom_ne_invalid {origin : Option String} {n : Nat} {ds : List Value} :
    objectsFrom origin n ds ≠ .error (.fault (invalidObject kind ps file document)) := by
  induction ds generalizing n with
  | nil => nofun
  | cons d ds ih =>
    cases d with
    | null => exact ih
    | mapping es =>
      rw [objectsFrom_mapping, Ne, bind_eq_error_iff]
      rintro (opened | ⟨first, -, stopped⟩)
      · rcases unwrap_cases es with ⟨-, message, fails⟩ | ⟨-, own, made⟩
        · cases fails.symm.trans opened
        · cases made.symm.trans opened
      · rcases bind_eq_error_iff.mp stopped with rest | ⟨more, -, ⟨⟩⟩
        exact ih rest
    | _ => nofun

/-- Reading a file ends with the fault about an invalid object exactly if all its documents open and
the first object in them that is not sound breaks its schema. The number counts objects. -/
theorem readFile_eq_invalid_iff {t : FileTree} {path : FilePath} {ds : List Value}
    (holds : Holds t path ds) (cls : String) :
    readFile cls t path = .error (.fault (invalidObject kind ps file document)) ↔
      (∀ d ∈ ds, Opens d) ∧ file = some (toString path) ∧
        ∃ before passed, StopsAt kind ps ds before passed ∧
          document = some (((before.flatMap objectsOf ++ passed).length : Nat) : Int) := by
  have read : readFile cls t path = objectsFrom (some (toString path)) 0 ds >>= fun objects =>
      readObjects cls (toString path) (objects.map .mapping) := by
    rw [← load_of_holds holds]
    rfl
  rw [read, bind_eq_error_iff, or_iff_right objectsFrom_ne_invalid]
  constructor
  · rintro ⟨objects, made, stopped⟩
    obtain ⟨opens, rfl⟩ := objectsFrom_eq_ok_iff.mp made
    obtain ⟨front, fails, named, counted⟩ := addObjects_eq_invalid_iff.mp stopped
    obtain ⟨before, passed, stops, rfl⟩ := failsAfter_flatMap_iff.mp fails
    rw [Nat.zero_add] at counted
    exact ⟨opens, named, before, passed, stops, counted⟩
  · rintro ⟨opens, named, before, passed, stops, counted⟩
    refine ⟨ds.flatMap objectsOf, objectsFrom_eq_ok_iff.mpr ⟨opens, rfl⟩,
      addObjects_eq_invalid_iff.mpr ⟨_, failsAfter_flatMap_iff.mpr ⟨before, passed, stops, rfl⟩,
        named, ?_⟩⟩
    rw [Nat.zero_add]
    exact counted

end Results

/-- Where an invalid object ends reading, some document holds it. The fault points to this document
exactly if as many objects as documents come before the object. -/
theorem located_iff {t : FileTree} {path : FilePath} {ds : List Value} (holds : Holds t path ds)
    {cls kind : String} {ps : List Problem} {file : Option String} {document : Option Int}
    (stopped : readFile cls t path = .error (.fault (invalidObject kind ps file document))) :
    (∃ before passed, StopsAt kind ps ds before passed) ∧
      ∀ before passed, StopsAt kind ps ds before passed →
        ((invalidObject kind ps file document).PointsTo before.length ↔
          (before.flatMap objectsOf ++ passed).length = before.length) := by
  obtain ⟨opens, named, before, passed, stops, -⟩ :=
    (readFile_eq_invalid_iff holds cls).mp stopped
  refine ⟨⟨before, passed, stops⟩, fun other skipped same => ?_⟩
  -- the fault tells how many objects come before the one that is to blame
  have again := (readFile_eq_invalid_iff holds cls).mpr
    ⟨opens, named, other, skipped, same, rfl⟩
  obtain ⟨-, -, -, rfl⟩ := invalidObject_inj (Except.error.inj (stopped.symm.trans again))
  rw [invalidObject, Fault.pointsTo_iff, Option.some.injEq, Int.natCast_inj]

def withoutMetadata : List Problem := [⟨.missing, [.field "metadata"]⟩]

theorem breaks_namelessService : Breaks namelessService "Service" withoutMetadata :=
  .service rfl rfl

def configMap : ObjectFields := [(.string "kind", .string "ConfigMap")]

theorem isSound_configMap : IsSound configMap :=
  isSound_iff.mpr ⟨_, (rfl : addObject "" "" 0 {} configMap = .ok {})⟩

def inYaml : FilePath := ⟨"", ["in.yaml"]⟩

theorem holds_yamlFile {text : String} {ds : List Value}
    (ascii : text.toList.all (·.toNat < 128) = true)
    (parsed : Yaml.read (String.ofList (Text.unifyBreaks text.toList)) = some ds) :
    Holds (oneFile "in.yaml" text) inYaml ds := by
  have yaml : isYamlSuffix (Text.lower inYaml.suffix) = true := by decide +kernel
  refine ⟨by decide +kernel, _, text, rfl, Text.decode_ascii ascii, ?_⟩
  rw [documents?, if_pos yaml]
  exact parsed

/-- A Service in the second of two documents is found there. -/
theorem second_document_located :
    let t := oneFile "in.yaml" "kind: ConfigMap\n---\nkind: Service\n"
    let ds : List Value := [.mapping configMap, .mapping namelessService]
    Holds t inYaml ds ∧
      readFile "nginx" t inYaml =
        .error (.fault (invalidObject "Service" withoutMetadata (some "in.yaml") (some 1))) ∧
      StopsAt "Service" withoutMetadata ds [.mapping configMap] [] ∧
      (invalidObject "Service" withoutMetadata (some "in.yaml") (some 1)).PointsTo 1 := by
  intro t ds
  have holds : Holds t inYaml ds := holds_yamlFile (by decide +kernel) (by decide +kernel)
  have stopped : readFile "nginx" t inYaml =
      .error (.fault (invalidObject "Service" withoutMetadata (some "in.yaml") (some 1))) := by
    rw [readFile, load_of_holds holds]
    rfl
  have stops : StopsAt "Service" withoutMetadata ds [.mapping configMap] [] :=
    ⟨_, [], rfl, List.forall_mem_singleton.mpr isSound_configMap, .here breaks_namelessService⟩
  exact ⟨holds, stopped, stops, ((located_iff holds stopped).2 _ _ stops).mpr rfl⟩

/-- The fault about the second item of a list names a second document, and there is only one. -/
theorem second_item_misplaced :
    let t := oneFile "in.json" ("\x7b\"kind\": \"List\", \"items\": [" ++
      "\x7b\"kind\": \"ConfigMap\"\x7d, \x7b\"kind\": \"Service\"\x7d]\x7d")
    let ds : List Value := [.mapping (listOf [.mapping configMap, .mapping namelessService])]
    Holds t inJson ds ∧
      readFile "nginx" t inJson =
        .error (.fault (invalidObject "Service" withoutMetadata (some "in.json") (some 1))) ∧
      StopsAt "Service" withoutMetadata ds [] [configMap] ∧
      ¬ (invalidObject "Service" withoutMetadata (some "in.json") (some 1)).PointsTo 0 := by
  intro t ds
  have holds : Holds t inJson ds := holds_asciiFile (by decide +kernel) (by decide +kernel)
  have stops : FailsAfter "Service" withoutMetadata [configMap] [configMap, namelessService] :=
    .later isSound_configMap (.here breaks_namelessService)
  refine ⟨holds, ?_, ⟨_, [], rfl, nofun, stops⟩, ?_⟩
  · rw [readFile, load_of_holds holds]
    rfl
  · rw [invalidObject, Fault.pointsTo_iff]
    decide

end Manifest

end GatewayMigration
