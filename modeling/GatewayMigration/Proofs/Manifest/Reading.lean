import GatewayMigration.Manifest.Source
import GatewayMigration.Proofs.Collections
import GatewayMigration.Proofs.Text.Utf8
/-!
# What reading a manifest ends with

A file is read document by document, and then object by object, until something is wrong. Most of
what may be wrong is reported as a fault of the manifest. What is not are items that are no
collection, and versions that are one. Main statements:

* `reports_objectsFrom_iff`, `reports_addObjects_iff`: a run through documents or objects ends with
  an unreported error exactly if it meets one before anything that is reported;
* `reports_readFile_iff`: so does reading a file;
* `ingresses_of_readFile`: what is read are the Ingresses of the class, in the order of the file.
-/

namespace GatewayMigration

/-! ## Results -/

/-- There is a result, or the manifest is to blame. -/
def Reports {α : Type} (r : Except Interruption α) : Prop :=
  (∃ a, r = .ok a) ∨ ∃ problem file document, r = .error (.fault (.manifest problem file document))

section Results
variable {α β : Type}

theorem reports_ok (a : α) : Reports (.ok a) := .inl ⟨a, rfl⟩

theorem reports_fault (problem : ManifestProblem) (file : Option String) (document : Option Int) :
    Reports (.error (.fault (.manifest problem file document)) : Except Interruption α) :=
  .inr ⟨problem, file, document, rfl⟩

theorem not_reports_wrongType (message : String) :
    ¬ Reports (.error (.wrongType message) : Except Interruption α) := by
  rintro (⟨a, ok⟩ | ⟨problem, file, document, fault⟩)
  · cases ok
  · cases fault

theorem reports_bind_iff {r : Except Interruption α} {f : α → Except Interruption β} :
    Reports (r >>= f) ↔ Reports r ∧ ∀ a, r = .ok a → Reports (f a) := by
  cases r with
  | ok a =>
    constructor
    · intro reports
      refine ⟨reports_ok a, fun b same => ?_⟩
      cases same
      exact reports
    · exact fun both => both.2 a rfl
  | error why =>
    constructor
    · rintro (⟨b, ok⟩ | ⟨problem, file, document, fault⟩)
      · cases ok
      · cases fault
        exact ⟨reports_fault problem file document, nofun⟩
    · rintro ⟨⟨a, ok⟩ | ⟨problem, file, document, fault⟩, -⟩
      · cases ok
      · cases fault
        exact reports_fault problem file document

theorem bind_eq_error_iff {r : Except Interruption α} {f : α → Except Interruption β}
    {why : Interruption} :
    r >>= f = .error why ↔ r = .error why ∨ ∃ a, r = .ok a ∧ f a = .error why := by
  cases r with
  | ok a =>
    rw [or_iff_right nofun]
    exact ⟨fun stopped => ⟨a, rfl, stopped⟩, fun ⟨_, ok, stopped⟩ => Except.ok.inj ok ▸ stopped⟩
  | error other =>
    rw [or_iff_left fun ⟨_, ok, _⟩ => nomatch ok]
    exact ⟨fun stopped => congrArg _ (Except.error.inj stopped),
      fun stopped => congrArg _ (Except.error.inj stopped)⟩

end Results

/-- Something bad is met when going through a list up to the first element that is not fine. -/
def Meets {α : Type} (fine bad : α → Prop) (xs : List α) : Prop :=
  ∃ before x after, xs = before ++ x :: after ∧ (∀ y ∈ before, fine y) ∧ bad x

section Meeting
variable {α : Type} {fine bad : α → Prop}

theorem not_meets_nil : ¬ Meets fine bad [] := by
  rintro ⟨before, x, after, split, -⟩
  exact absurd split.symm (by simp)

theorem meets_cons_iff {x : α} {xs : List α} :
    Meets fine bad (x :: xs) ↔ bad x ∨ fine x ∧ Meets fine bad xs := by
  constructor
  · rintro ⟨before, y, after, split, fines, met⟩
    cases before with
    | nil =>
      cases split
      exact .inl met
    | cons z before =>
      cases split
      exact .inr ⟨fines x (.head _), before, y, after, rfl,
        fun w mem => fines w (.tail _ mem), met⟩
  · rintro (met | ⟨first, before, y, after, rfl, fines, met⟩)
    · exact ⟨[], x, xs, rfl, nofun, met⟩
    · exact ⟨x :: before, y, after, rfl, List.forall_mem_cons.mpr ⟨first, fines⟩, met⟩

theorem meets_cons_of_fine {x : α} {xs : List α} (good : ¬ bad x) (first : fine x) :
    Meets fine bad (x :: xs) ↔ Meets fine bad xs := by
  rw [meets_cons_iff, or_iff_right good, and_iff_right first]

theorem not_meets_singleton {x : α} (good : ¬ bad x) : ¬ Meets fine bad [x] := by
  rw [meets_cons_iff]
  rintro (met | ⟨-, met⟩)
  · exact good met
  · exact not_meets_nil met

end Meeting

/-! ## Documents -/

/-- A value that counts as something and has no members: a number, the truth value, or a date. -/
def Value.IsAtom : Value → Prop
  | .bool b => b = true
  | .int i => i ≠ 0
  | .float x => (Value.float x).isFalsy = false
  | .timestamp _ => True
  | _ => False

namespace Manifest

theorem members_cases (v : Value) :
    v.IsAtom ∧ (∃ message, members v = .error (.wrongType message)) ∨
      ¬ v.IsAtom ∧ ∃ vs, members v = .ok vs := by
  cases v with
  | null => exact .inr ⟨id, [], rfl⟩
  | bool b =>
    cases b with
    | true => exact .inl ⟨rfl, _, rfl⟩
    | false => exact .inr ⟨Bool.false_ne_true, [], rfl⟩
  | int i =>
    by_cases zero : i = 0
    · subst zero
      exact .inr ⟨fun other => other rfl, [], rfl⟩
    · refine .inl ⟨zero, "'int' object is not iterable", ?_⟩
      simp [members, Value.isFalsy, zero, Value.typeName]
  | float x =>
    cases falsy : (Value.float x).isFalsy with
    | true =>
      refine .inr ⟨fun other => ?_, [], by simp [members, falsy]⟩
      exact absurd (falsy.symm.trans other) nofun
    | false =>
      refine .inl ⟨falsy, "'float' object is not iterable", ?_⟩
      simp [members, falsy, Value.typeName]
  | string s => exact .inr ⟨id, [], rfl⟩
  | timestamp t => exact .inl ⟨trivial, _, rfl⟩
  | bytes o => exact .inr ⟨id, [], rfl⟩
  | list vs => exact .inr ⟨id, vs, rfl⟩
  | set vs => exact .inr ⟨id, vs, rfl⟩
  | mapping es => exact .inr ⟨id, _, rfl⟩

/-- A list of objects whose items are no collection. -/
def BreaksList (d : Value) : Prop :=
  ∃ es v, d = .mapping es ∧ isWrapper es = true ∧ Value.lookup "items" es = some v ∧ v.IsAtom

/-- The document has its objects: it is empty, or a mapping. -/
def Opens (d : Value) : Prop := d = .null ∨ ∃ es, d = .mapping es ∧ ¬ BreaksList d

theorem unwrap_cases (es : ObjectFields) :
    BreaksList (.mapping es) ∧ (∃ message, unwrap es = .error (.wrongType message)) ∨
      ¬ BreaksList (.mapping es) ∧ ∃ objects, unwrap es = .ok objects := by
  unfold unwrap
  by_cases wrapper : isWrapper es = true
  · rw [if_pos wrapper]
    have breaks : BreaksList (.mapping es) ↔ ((Value.lookup "items" es).getD .null).IsAtom := by
      constructor
      · rintro ⟨_, v, ⟨⟩, -, found, atom⟩
        rw [found]
        exact atom
      · intro atom
        cases found : Value.lookup "items" es with
        | none =>
          rw [found] at atom
          exact atom.elim
        | some v =>
          rw [found] at atom
          exact ⟨es, v, rfl, wrapper, found, atom⟩
    rw [breaks]
    rcases members_cases ((Value.lookup "items" es).getD .null) with
      ⟨atom, message, fails⟩ | ⟨collection, vs, made⟩
    · rw [fails]
      exact .inl ⟨atom, message, rfl⟩
    · rw [made]
      exact .inr ⟨collection, _, rfl⟩
  · rw [if_neg wrapper]
    refine .inr ⟨?_, _, rfl⟩
    rintro ⟨_, v, ⟨⟩, listed, -⟩
    exact wrapper listed

/-- A mapping is opened, and then the rest is. -/
theorem objectsFrom_mapping (file : Option String) (n : Nat) (es : ObjectFields) (ds : List Value) :
    objectsFrom file n (.mapping es :: ds) =
      unwrap es >>= fun objects =>
        objectsFrom file (n + 1) ds >>= fun more => .ok (objects ++ more) := rfl

theorem reports_objectsFrom_iff (file : Option String) (n : Nat) (ds : List Value) :
    Reports (objectsFrom file n ds) ↔ ¬ Meets Opens BreaksList ds := by
  induction ds generalizing n with
  | nil => exact iff_of_true (reports_ok []) not_meets_nil
  | cons d ds ih =>
    have other : ∀ d : Value, d.isMapping = false → ¬ BreaksList d := by
      rintro d scalar ⟨es, v, rfl, -⟩
      cases scalar
    have blamed : ∀ d : Value, d ≠ .null → d.isMapping = false →
        ¬ Meets Opens BreaksList (d :: ds) := by
      intro d given scalar
      rw [meets_cons_iff]
      rintro (breaks | ⟨null | ⟨es, same, -⟩, -⟩)
      · exact other d scalar breaks
      · exact given null
      · subst same
        cases scalar
    cases d with
    | null =>
      rw [meets_cons_of_fine (other _ rfl) (.inl rfl)]
      exact ih (n + 1)
    | mapping es =>
      rw [objectsFrom_mapping, reports_bind_iff]
      rcases unwrap_cases es with ⟨breaks, message, fails⟩ | ⟨good, objects, made⟩
      · rw [fails, meets_cons_iff]
        exact iff_of_false (fun both => not_reports_wrongType message both.1)
          (not_not_intro (.inl breaks))
      · rw [made, meets_cons_of_fine good (.inr ⟨es, rfl, good⟩), ← ih (n + 1),
          and_iff_right (reports_ok objects)]
        constructor
        · exact fun all => (reports_bind_iff.mp (all objects rfl)).1
        · exact fun rest _ _ => reports_bind_iff.mpr ⟨rest, fun _ _ => reports_ok _⟩
    | _ => exact iff_of_true (reports_fault _ _ _) (blamed _ nofun rfl)

/-! ## Objects -/

def IsIngress (es : ObjectFields) : Prop :=
  Value.lookup "kind" es = some (.string "Ingress") ∧
    Value.lookup "apiVersion" es = some (.string ingressApiVersion)

def IsService (es : ObjectFields) : Prop := Value.lookup "kind" es = some (.string "Service")

instance (es : ObjectFields) : Decidable (IsIngress es) := inferInstanceAs (Decidable (_ ∧ _))

/-- An object that calls itself an Ingress, with a collection for a version. -/
def BreaksVersion (es : ObjectFields) : Prop :=
  Value.lookup "kind" es = some (.string "Ingress") ∧
    ∃ v, Value.lookup "apiVersion" es = some v ∧ v.isScalar = false

/-- The object can be read. -/
structure IsSound (es : ObjectFields) : Prop where
  version : ¬ BreaksVersion es
  ingress : IsIngress es → ∃ i, Ingress.codec.read (.mapping es) = .valid i
  service : IsService es → ∃ v, Service.codec.read (.mapping es) = .valid v

/-- The Ingress that an object is. -/
def ingress? (es : ObjectFields) : Option Ingress :=
  if IsIngress es then
    match Ingress.codec.read (.mapping es) with
    | .valid i => some i
    | .invalid _ => none
  else none

/-- The Ingress that an object is, if it is of the class. -/
def kept? (cls : String) (es : ObjectFields) : Option Ingress :=
  (ingress? es).filter fun i => i.className = cls

theorem kept?_of_isIngress {cls : String} {es : ObjectFields} (ingress : IsIngress es) {i : Ingress}
    (valid : Ingress.codec.read (.mapping es) = .valid i) :
    kept? cls es = if i.className = cls then some i else none := by
  rw [kept?, ingress?, if_pos ingress, valid, Option.filter_some]
  simp only [decide_eq_true_eq]

theorem kept?_of_not_isIngress {cls : String} {es : ObjectFields} (other : ¬ IsIngress es) :
    kept? cls es = none := by
  rw [kept?, ingress?, if_neg other, Option.filter_none]

theorem ingresses_addIngress (cls : String) (s : Sources) (i : Ingress) :
    (s.addIngress cls i).ingresses =
      s.ingresses ++ (if i.className = cls then some i else none : Option Ingress).toList := by
  unfold Sources.addIngress
  split
  · rfl
  · exact (List.append_nil _).symm

theorem not_isIngress_of_isService {es : ObjectFields} (service : IsService es) :
    ¬ IsIngress es := by
  rintro ⟨ingress, -⟩
  have same := ingress.symm.trans service
  exact absurd same (by decide)

theorem kindOf_cases (es : ObjectFields) :
    BreaksVersion es ∧ (∃ message, kindOf es = .error (.wrongType message)) ∨
      ¬ BreaksVersion es ∧ (IsIngress es ∧ kindOf es = .ok .ingress ∨
        IsService es ∧ kindOf es = .ok .service ∨
        ¬ IsIngress es ∧ ¬ IsService es ∧ kindOf es = .ok .other) := by
  unfold kindOf
  dsimp only
  by_cases ingress : Value.lookup "kind" es = some (.string "Ingress")
  · have foreign : ¬ IsService es := fun service => absurd (ingress.symm.trans service) (by decide)
    rw [if_pos ingress]
    cases found : Value.lookup "apiVersion" es with
    | none =>
      refine .inr ⟨?_, .inr (.inr ⟨?_, foreign, rfl⟩)⟩
      · rintro ⟨-, v, given, -⟩
        exact absurd (found.symm.trans given) nofun
      · rintro ⟨-, given⟩
        exact absurd (found.symm.trans given) nofun
    | some v =>
      rw [Option.getD_some]
      cases scalar : v.isScalar with
      | false => exact .inl ⟨⟨ingress, v, found, scalar⟩, _, rfl⟩
      | true =>
        refine .inr ⟨?_, ?_⟩
        · rintro ⟨-, w, given, collection⟩
          obtain rfl : v = w := Option.some.inj (found.symm.trans given)
          exact absurd (scalar.symm.trans collection) nofun
        · by_cases version : v = .string ingressApiVersion
          · refine .inl ⟨⟨ingress, found.trans (congrArg some version)⟩, ?_⟩
            simp [version]
          · refine .inr (.inr ⟨?_, foreign, by simp [version]⟩)
            rintro ⟨-, given⟩
            exact version (Option.some.inj (found.symm.trans given))
  · rw [if_neg ingress]
    refine .inr ⟨fun breaks => ingress breaks.1, ?_⟩
    by_cases service : IsService es
    · exact .inr (.inl ⟨service, congrArg _ (if_pos service)⟩)
    · exact .inr (.inr ⟨fun own => ingress own.1, service, congrArg _ (if_neg service)⟩)

theorem check_cases {α : Type} (kind origin : String) (n : Nat) (c : Checked α) :
    (∃ a, c = .valid a ∧ check kind origin n c = .ok a) ∨
      (¬ ∃ a, c = .valid a) ∧ ∃ problem file document,
        check kind origin n c = .error (.fault (.manifest problem file document)) := by
  cases c with
  | valid a => exact .inl ⟨a, rfl, rfl⟩
  | invalid ps => exact .inr ⟨nofun, _, _, _, rfl⟩

/-- What becomes of one object. One that can be read is kept if it is an Ingress of the class. -/
theorem addObject_cases (cls origin : String) (n : Nat) (s : Sources) (es : ObjectFields) :
    BreaksVersion es ∧ (∃ message, addObject cls origin n s es = .error (.wrongType message)) ∨
      IsSound es ∧ (∃ s', addObject cls origin n s es = .ok s' ∧
        s'.ingresses = s.ingresses ++ (kept? cls es).toList) ∨
      ¬ BreaksVersion es ∧ ¬ IsSound es ∧ ∃ problem file document,
        addObject cls origin n s es = .error (.fault (.manifest problem file document)) := by
  unfold addObject
  rcases kindOf_cases es with
    ⟨breaks, message, fails⟩ | ⟨good, ⟨ingress, kind⟩ | ⟨service, kind⟩ | ⟨no, nor, kind⟩⟩
  · rw [fails]
    exact .inl ⟨breaks, message, rfl⟩
  · rw [kind]
    rcases check_cases "Ingress" origin n (Ingress.codec.read (.mapping es)) with
      ⟨i, valid, made⟩ | ⟨invalid, problem, file, document, fails⟩
    · refine .inr (.inl ⟨⟨good, fun _ => ⟨i, valid⟩, ?_⟩, s.addIngress cls i, ?_, ?_⟩)
      · exact fun service => absurd ingress (not_isIngress_of_isService service)
      · simp [made, bind, Except.bind, pure, Except.pure]
      · rw [kept?_of_isIngress ingress valid, ingresses_addIngress]
    · refine .inr (.inr ⟨good, fun sound => invalid (sound.ingress ingress), problem, file,
        document, ?_⟩)
      simp [fails, bind, Except.bind]
  · rw [kind]
    rcases check_cases "Service" origin n (Service.codec.read (.mapping es)) with
      ⟨v, valid, made⟩ | ⟨invalid, problem, file, document, fails⟩
    · have foreign := not_isIngress_of_isService service
      refine .inr (.inl ⟨⟨good, fun own => absurd own foreign, fun _ => ⟨v, valid⟩⟩,
        s.addService v, ?_, ?_⟩)
      · simp [made, bind, Except.bind, pure, Except.pure]
      · rw [kept?_of_not_isIngress foreign]
        exact (List.append_nil _).symm
    · refine .inr (.inr ⟨good, fun sound => invalid (sound.service service), problem, file,
        document, ?_⟩)
      simp [fails, bind, Except.bind]
  · rw [kind]
    refine .inr (.inl ⟨⟨good, fun own => absurd own no, fun own => absurd own nor⟩, s, rfl, ?_⟩)
    rw [kept?_of_not_isIngress no]
    exact (List.append_nil _).symm

/-- The objects are added one after the other. -/
theorem addObjects_cons (cls origin : String) (n : Nat) (s : Sources) (es : ObjectFields)
    (objects : List ObjectFields) :
    addObjects cls origin n s ((es :: objects).map .mapping) =
      addObject cls origin n s es >>= fun s' =>
        addObjects cls origin (n + 1) s' (objects.map .mapping) := rfl

theorem reports_addObjects_iff (cls origin : String) (n : Nat) (s : Sources)
    (objects : List ObjectFields) :
    Reports (addObjects cls origin n s (objects.map .mapping)) ↔
      ¬ Meets IsSound BreaksVersion objects := by
  induction objects generalizing n s with
  | nil => exact iff_of_true (reports_ok s) not_meets_nil
  | cons es objects ih =>
    rw [addObjects_cons, reports_bind_iff]
    rcases addObject_cases cls origin n s es with
      ⟨breaks, message, fails⟩ | ⟨sound, s', made, -⟩ |
      ⟨good, broken, problem, file, document, fails⟩
    · rw [fails, meets_cons_iff]
      exact iff_of_false (fun both => not_reports_wrongType message both.1)
        (not_not_intro (.inl breaks))
    · rw [made, meets_cons_of_fine sound.version sound, ← ih (n + 1) s',
        and_iff_right (reports_ok s')]
      constructor
      · exact fun all => all s' rfl
      · rintro rest _ ⟨⟩
        exact rest
    · rw [fails, meets_cons_iff]
      refine iff_of_true ⟨reports_fault problem file document, nofun⟩ ?_
      rintro (breaks | ⟨sound, -⟩)
      · exact good breaks
      · exact broken sound

/-- The file is there, it is UTF-8, and its text parses to these documents. -/
structure Holds (t : FileTree) (path : FilePath) (ds : List Value) : Prop where
  named : canLoad path = true
  parsed : ∃ octets text, t.read path = .ok octets ∧ Text.decode octets = .ok text ∧
    documents? path.suffix (String.ofList (Text.unifyBreaks text.toList)) = some ds

theorem contains_of_read {t : FileTree} {path : FilePath} {octets : List UInt8}
    (read : t.read path = .ok octets) : t.contains path = true := by
  unfold FileTree.read at read
  unfold FileTree.contains FileTree.node?
  split at read
  · cases read
  · rename_i place resolved
    rw [resolved]
    split at read
    · rename_i found
      dsimp only
      rw [found]
      rfl
    · cases read
    · cases read

theorem load_of_holds {t : FileTree} {path : FilePath} {ds : List Value} (holds : Holds t path ds) :
    load t path = objectsFrom (some (toString path)) 0 ds := by
  obtain ⟨named, octets, text, read, decoded, parsed⟩ := holds
  have there := contains_of_read read
  simp [load, there, named, read, parse, decoded, parsed, bind, Except.bind, pure, Except.pure]

/-- Reading a file that holds some documents ends with the Ingresses and Services or with a fault of
the manifest, unless it meets a list whose items are no collection, or, the documents being fine, an
Ingress whose version is one. -/
theorem reports_readFile_iff {t : FileTree} {path : FilePath} {ds : List Value}
    (holds : Holds t path ds) (cls : String) :
    Reports (readFile cls t path) ↔
      ¬ Meets Opens BreaksList ds ∧
        ∀ objects, load t path = .ok objects → ¬ Meets IsSound BreaksVersion objects := by
  have read : readFile cls t path = load t path >>= fun objects =>
      readObjects cls (toString path) (objects.map .mapping) := rfl
  rw [read, reports_bind_iff, ← reports_objectsFrom_iff (some (toString path)) 0,
    load_of_holds holds]
  refine and_congr_right fun _ => forall_congr' fun objects => ?_
  rw [readObjects, reports_addObjects_iff]

/-- A tree with this text in one file. The characters are ASCII. -/
def oneFile (name text : String) : FileTree :=
  ⟨.ofList [([name], .file (text.toList.map fun c => UInt8.ofNat c.toNat))]⟩

def inJson : FilePath := ⟨"", ["in.json"]⟩

theorem holds_oneFile {text : String} {ds : List Value}
    (decoded : Text.decode (text.toList.map fun c => UInt8.ofNat c.toNat) = .ok text)
    (parsed : documents? ".json" (String.ofList (Text.unifyBreaks text.toList)) = some ds) :
    Holds (oneFile "in.json" text) inJson ds := by
  have suffix : inJson.suffix = ".json" := by decide +kernel
  refine ⟨by decide +kernel, _, text, rfl, decoded, ?_⟩
  rw [suffix]
  exact parsed

theorem read_json (cs : List Char) : Json.read (String.ofList cs) =
    (Json.lexFrom cs.length [] cs).bind (Json.assemble · (.value false) []) := by
  unfold Json.read Json.lex
  rw [String.length_ofList, String.toList_ofList]
  rfl

/-- A JSON file of ASCII characters holds what its characters are read as. -/
theorem holds_asciiFile {text : String} {v : Value}
    (ascii : text.toList.all (·.toNat < 128) = true)
    (parsed : (Json.lexFrom (Text.unifyBreaks text.toList).length []
      (Text.unifyBreaks text.toList)).bind (Json.assemble · (.value false) []) = some v) :
    Holds (oneFile "in.json" text) inJson [v] := by
  have json : isYamlSuffix (Text.lower ".json") = false := by decide +kernel
  apply holds_oneFile (Text.decode_ascii ascii)
  rw [documents?, json, read_json, parsed]
  rfl

/-- A Service without metadata is reported. -/
theorem nameless_reported :
    let t := oneFile "in.json" "\x7b\"kind\": \"Service\"\x7d"
    Holds t inJson [Value.object [("kind", .string "Service")]] ∧
      Reports (readFile "nginx" t inJson) := by
  intro t
  have holds : Holds t inJson [Value.object [("kind", .string "Service")]] :=
    holds_oneFile rfl (by decide +kernel)
  refine ⟨holds, (reports_readFile_iff holds "nginx").mpr ⟨?_, fun objects given => ?_⟩⟩
  · apply not_meets_singleton
    rintro ⟨_, v, ⟨⟩, wrapper, -⟩
    exact absurd wrapper (by decide)
  · rw [load_of_holds holds] at given
    cases given
    apply not_meets_singleton
    rintro ⟨ingress, -⟩
    exact absurd ingress (by decide)

/-- A list whose items are a number ends reading with an error that does not blame the manifest. -/
theorem number_of_items_unreported :
    let t := oneFile "in.json" "\x7b\"items\": 5\x7d"
    Holds t inJson [Value.object [("items", .int 5)]] ∧
      readFile "nginx" t inJson = .error (.wrongType "'int' object is not iterable") ∧
      ¬ Reports (readFile "nginx" t inJson) := by
  intro t
  have holds : Holds t inJson [Value.object [("items", .int 5)]] :=
    holds_oneFile rfl (by decide +kernel)
  have fails : readFile "nginx" t inJson =
      .error (.wrongType "'int' object is not iterable") := by
    unfold readFile
    rw [load_of_holds holds]
    rfl
  refine ⟨holds, fails, ?_⟩
  rw [fails]
  exact not_reports_wrongType _

end Manifest

end GatewayMigration
