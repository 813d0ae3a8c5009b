import IndexQuery.Proofs.BoundMerging
import IndexQuery.Rehearsal.Index
import Mathlib.Data.List.Induction
import Mathlib.Data.List.Nodup

set_option autoImplicit false

/-!
Registered fields, and a test of any of them.

A registry keeps its mappings by name and, apart from them, the order of the names. A registration touches both, the
order only where the name is new; that the two list the same names, each once (`FieldRegistry.InStep`), is what every
registration preserves (`InStep.insert`). After any sequence of them a name has its latest mapping, and the names stand
in the order of their first registrations (`order_foldl`, `find?_foldl`). A test of any field asks each of them as it
would by itself (`build_anyField`).
-/

namespace IndexQuery

open IndexQuery.Expr

inductive Registration where
  | mapping (m : FieldMapping)
  | keywords (names : List String)

namespace Registration

def register (r : FieldRegistry) : Registration → FieldRegistry
  | mapping m => r.insert m
  | keywords names => r.insertKeywords names

def mappings : Registration → List FieldMapping
  | mapping m => [m]
  | keywords names => names.map .keyword

theorem register_eq (r : FieldRegistry) (step : Registration) :
    step.register r = step.mappings.foldl .insert r := by
  cases step with
  | mapping m => rfl
  | keywords names => exact List.foldl_map.symm

end Registration

/-- All that a sequence of calls registers, repeated names included. -/
def registered (steps : List Registration) : List FieldMapping := steps.flatMap Registration.mappings

def latest? (mappings : List FieldMapping) (name : String) : Option FieldMapping :=
  mappings.reverse.find? (·.name == name)

def firstNames (mappings : List FieldMapping) : List String := (mappings.map (·.name)).eraseDups

theorem latest?_append_singleton (mappings : List FieldMapping) (m : FieldMapping) (name : String) :
    latest? (mappings ++ [m]) name = if m.name == name then some m else latest? mappings name := by
  rw [latest?, List.reverse_append, List.reverse_singleton, List.singleton_append, List.find?_cons]
  cases m.name == name <;> rfl

theorem latest?_name {mappings : List FieldMapping} {name : String} {m : FieldMapping}
    (h : latest? mappings name = some m) : m.name = name := by
  simpa using List.find?_some h

theorem mem_firstNames {mappings : List FieldMapping} {name : String} :
    name ∈ firstNames mappings ↔ ∃ m, latest? mappings name = some m := by
  rw [firstNames, List.mem_eraseDups, ← Option.isSome_iff_exists, latest?, List.find?_isSome]
  simp

theorem firstNames_append_singleton (mappings : List FieldMapping) (m : FieldMapping) :
    firstNames (mappings ++ [m]) =
      if m.name ∈ firstNames mappings then firstNames mappings else firstNames mappings ++ [m.name] := by
  have hfirst : m.name ∈ firstNames mappings ↔ m.name ∈ mappings.map (·.name) := List.mem_eraseDups
  rw [firstNames, List.map_append, List.map_singleton, List.eraseDups_append]
  by_cases h : m.name ∈ mappings.map (·.name)
  · have hseen : [m.name].removeAll (mappings.map (·.name)) = [] := by simpa [List.removeAll] using h
    rw [if_pos (hfirst.2 h), hseen, List.eraseDups_nil, List.append_nil]
    rfl
  · have hnew : [m.name].removeAll (mappings.map (·.name)) = [m.name] := by simpa [List.removeAll] using h
    rw [if_neg (mt hfirst.1 h), hnew, List.eraseDups_cons]
    rfl

namespace FieldRegistry

variable {r : FieldRegistry} {name : String}

def ofRegistrations (steps : List Registration) : FieldRegistry := steps.foldl Registration.register empty

theorem ofRegistrations_eq (steps : List Registration) :
    ofRegistrations steps = (registered steps).foldl insert empty := by
  rw [ofRegistrations, registered, List.foldl_flatMap]
  exact congrFun (congrFun (congrArg _ (funext fun r => funext fun step => step.register_eq r)) _) _

/-- The mappings have the names of the order, each of them once. -/
structure InStep (r : FieldRegistry) : Prop where
  perm : (r.mappings.map (·.name)).Perm r.order
  nodup : r.order.Nodup

theorem InStep.isSome_find? (h : r.InStep) : (r.find? name).isSome = true ↔ name ∈ r.order := by
  rw [find?, List.find?_isSome, ← h.perm.mem_iff]
  simp

theorem InStep.insert (h : r.InStep) (m : FieldMapping) : (r.insert m).InStep := by
  have hothers : (r.mappings.filter (·.name != m.name)).map (·.name) =
      (r.mappings.map (·.name)).filter (· != m.name) := by
    rw [List.filter_map]
    rfl
  by_cases hm : m.name ∈ r.order
  · have horder : (r.insert m).order = r.order := if_pos (h.isSome_find?.2 hm)
    have herase : (r.mappings.map (·.name)).erase m.name =
        (r.mappings.map (·.name)).filter (· != m.name) :=
      (h.perm.nodup_iff.2 h.nodup).erase_eq_filter m.name
    refine ⟨?_, horder ▸ h.nodup⟩
    rw [horder]
    change (m.name :: (r.mappings.filter (·.name != m.name)).map (·.name)).Perm r.order
    rw [hothers, ← herase]
    exact (List.perm_cons_erase (h.perm.mem_iff.2 hm)).symm.trans h.perm
  · have horder : (r.insert m).order = r.order ++ [m.name] := if_neg (mt h.isSome_find?.1 hm)
    have hnone : (r.mappings.map (·.name)).filter (· != m.name) = r.mappings.map (·.name) :=
      List.filter_eq_self.2 fun name hname =>
        bne_iff_ne.2 fun heq => hm (h.perm.mem_iff.1 (heq ▸ hname))
    constructor
    · rw [horder]
      change (m.name :: (r.mappings.filter (·.name != m.name)).map (·.name)).Perm _
      rw [hothers, hnone]
      exact (h.perm.cons m.name).trans (List.perm_append_singleton m.name r.order).symm
    · rw [horder]
      exact h.nodup.append (List.nodup_singleton _) (by simpa using hm)

/-- A registration is seen under its own name only. -/
theorem find?_insert (r : FieldRegistry) (m : FieldMapping) (name : String) :
    (r.insert m).find? name = if m.name == name then some m else r.find? name := by
  rw [find?, insert, List.find?_cons]
  cases hm : m.name == name with
  | true => rfl
  | false =>
    rw [List.find?_filter]
    refine congrArg (fun test => List.find? test r.mappings) (funext fun other => ?_)
    by_cases hother : other.name = name
    · subst hother
      simpa using fun heq : other.name = m.name => by simp [heq] at hm
    · simp [hother]

variable (ms : List FieldMapping)

theorem inStep_foldl : (ms.foldl insert empty).InStep := by
  induction ms using List.reverseRecOn with
  | nil => exact ⟨.nil, List.nodup_nil⟩
  | append_singleton ms m ih =>
    rw [List.foldl_append]
    exact ih.insert m

/-- Each name has the mapping that was registered last for it. -/
theorem find?_foldl (name : String) : (ms.foldl insert empty).find? name = latest? ms name := by
  induction ms using List.reverseRecOn with
  | nil => rfl
  | append_singleton ms m ih =>
    rw [List.foldl_append, latest?_append_singleton, ← ih]
    exact find?_insert _ m name

/-- The names stand in the order of their first registrations. -/
theorem order_foldl : (ms.foldl insert empty).order = firstNames ms := by
  induction ms using List.reverseRecOn with
  | nil => rfl
  | append_singleton ms m ih =>
    rw [List.foldl_append, firstNames_append_singleton, ← ih]
    change (if _ then _ else _) = _
    simp only [(inStep_foldl ms).isSome_find?]

/-- There are as many mappings as distinct names. -/
theorem size_ofRegistrations (steps : List Registration) :
    (ofRegistrations steps).size = (firstNames (registered steps)).length := by
  rw [ofRegistrations_eq, ← order_foldl, ← (inStep_foldl (registered steps)).perm.length_eq, List.length_map, size]

end FieldRegistry

namespace FieldMapping

variable {matching : Matching} {v : Value}

structure Serves (m : FieldMapping) (matching : Matching) (text : String) : Prop where
  exact : matching = .exact → ∃ q, m.exactQuery text = .ok q
  bound : matching.isComparison = true → ∃ q, m.rangeQuery (matching.side (some text)) = .ok q

/-- The value is null, or it has a term and there is a query for that. -/
def Converts (m : FieldMapping) (matching : Matching) (v : Value) : Prop :=
  v.isNull = true ∨ ∃ text, m.encode v = .ok text ∧ m.Serves matching text

theorem keywordWith_converts (name : String) (sortKind : Option SortKind) (matching : Matching) (v : Value) :
    (keywordWith name sortKind).Converts matching v := by
  cases hn : v.isNull with
  | true => exact .inl hn
  | false => exact .inr ⟨v.plain, Compiler.encode_keyword hn, fun _ => ⟨_, rfl⟩, fun _ => ⟨_, rfl⟩⟩

theorem number_converts {text : String} (name : String) (sortKind : Option SortKind) (matching : Matching)
    (h : (number name sortKind).encode v = .ok text) : (number name sortKind).Converts matching v :=
  .inr ⟨text, h, fun _ => ⟨_, rfl⟩, fun _ => ⟨_, rfl⟩⟩

end FieldMapping

theorem Fragment.alternative_eq (f : Fragment) : f.alternative =
    if f.occur = .mustNot then .ofClauses [⟨.mustNot, f.query⟩, ⟨.should, .matchAll⟩] else f.query := by
  unfold Fragment.alternative
  cases f.occur <;> rfl

namespace Compiler

variable {c d : Compiler} {name : String} {p : Predicate Expr} {v : Value}

theorem testQuery_isOk_iff (c : Compiler) (mapping : FieldMapping) (name text : String) :
    (∃ q, c.testQuery mapping name p text = .ok q) ↔ mapping.Serves p.matching text := by
  constructor
  · rintro ⟨q, hq⟩
    refine ⟨fun he => ?_, fun hc => ⟨q, testQuery_comparison hc mapping text ▸ hq⟩⟩
    rw [testQuery, he] at hq
    exact ⟨q, hq⟩
  · rintro ⟨hexact, hbound⟩
    cases hc : p.matching.isComparison with
    | true => exact testQuery_comparison (c := c) hc mapping text ▸ hbound hc
    | false =>
      unfold testQuery
      cases hm : p.matching with
      | exact => exact hexact hm
      | greater | greaterOrEqual | less | lessOrEqual =>
        rw [hm] at hc
        cases hc
      | _ => exact ⟨_, rfl⟩

theorem fieldFragment_isOk_iff (hv : p.pattern.evaluate = .ok v) :
    (∃ f, c.fieldFragment name p = .ok f) ↔ (c.fields.resolve name).Converts p.matching v := by
  constructor
  · rintro ⟨f, hf⟩
    obtain ⟨value, hvalue, ⟨hn, _⟩ | ⟨_, text, q, ht, hq, _⟩⟩ := fieldFragment_ok hf <;>
      cases hv.symm.trans hvalue
    · exact .inl hn
    · exact .inr ⟨text, ht, (testQuery_isOk_iff c _ name text).1 ⟨q, hq⟩⟩
  · intro h
    rw [fieldFragment, hv, ok_bind]
    cases hn : v.isNull with
    | true => exact ⟨_, rfl⟩
    | false =>
      obtain hn' | ⟨text, ht, hs⟩ := h
      · exact absurd hn' (by simp [hn])
      · obtain ⟨q, hq⟩ := (testQuery_isOk_iff c _ name text).2 hs
        exact ⟨⟨withBoost p.boost q, p.occur⟩, by simp [ht, ok_bind, hq]⟩

/-- A test of one field looks at no other mapping. -/
theorem fieldFragment_congr (hs : c.settings = d.settings) (hr : c.fields.resolve name = d.fields.resolve name) :
    c.fieldFragment name p = d.fieldFragment name p := by
  unfold fieldFragment testQuery
  rw [hs, hr]

theorem predicateFragment_any (hany : p.field.isAny = true) (hne : c.fields.names ≠ []) :
    c.predicateFragment p = do
      let parts ← c.fields.names.mapM fun name => c.fieldFragment name { p with occur := .must }
      return .alternatives parts p.occur := by
  rw [predicateFragment, if_neg (by simp [hany])]
  cases hnames : c.fields.names with
  | nil => exact absurd hnames hne
  | cons name names => rfl

/-- A test of any field can be built if every mapping takes the value. -/
theorem predicateFragment_any_isOk_iff (hany : p.field.isAny = true) (hv : p.pattern.evaluate = .ok v)
    (hne : c.fields.names ≠ []) : (∃ f, c.predicateFragment p = .ok f) ↔
      ∀ name ∈ c.fields.names, (c.fields.resolve name).Converts p.matching v := by
  have hparts : (∃ f, c.predicateFragment p = .ok f) ↔ ∃ parts,
      c.fields.names.mapM (fun name => c.fieldFragment name { p with occur := .must }) = .ok parts := by
    rw [predicateFragment_any hany hne]
    constructor
    · rintro ⟨f, hf⟩
      obtain ⟨parts, hparts, _⟩ := bind_eq_ok.1 hf
      exact ⟨parts, hparts⟩
    · rintro ⟨parts, hparts⟩
      exact ⟨.alternatives parts p.occur, by rw [hparts]; rfl⟩
  rw [hparts, mapM_isOk_iff]
  exact forall₂_congr fun name _ => fieldFragment_isOk_iff (p := { p with occur := .must }) hv

def registering (settings : CompilerSettings) (steps : List Registration) : Compiler :=
  ⟨(FieldRegistry.ofRegistrations steps).provider, settings⟩

def alone (settings : CompilerSettings) (m : FieldMapping) : Compiler := registering settings [.mapping m]

section Registering

variable {settings : CompilerSettings} {steps : List Registration} {m : FieldMapping} {part : Fragment}

theorem registering_names : (registering settings steps).fields.names = firstNames (registered steps) := by
  change (FieldRegistry.ofRegistrations steps).order = _
  rw [FieldRegistry.ofRegistrations_eq, FieldRegistry.order_foldl]

theorem registering_names_ne_nil (h : registered steps ≠ []) :
    (registering settings steps).fields.names ≠ [] := by
  obtain ⟨m, hm⟩ := List.exists_mem_of_ne_nil _ h
  rw [registering_names]
  exact List.ne_nil_of_mem (List.mem_eraseDups.2 (List.mem_map_of_mem hm))

theorem registering_resolve (h : latest? (registered steps) name = some m) :
    (registering settings steps).fields.resolve name = m := by
  rw [FieldProvider.resolve]
  change ((FieldRegistry.ofRegistrations steps).find? name).getD _ = m
  rw [FieldRegistry.ofRegistrations_eq, FieldRegistry.find?_foldl, h]
  rfl

theorem alone_resolve (m : FieldMapping) : (alone settings m).fields.resolve m.name = m := by
  refine registering_resolve ?_
  change [m].find? (·.name == m.name) = some m
  simp

/-- What the required test of a field becomes where its mapping is the only one. (The any-field name can be the name
of a field too, which only the test of any field asks by itself.) -/
structure BuiltAlone (settings : CompilerSettings) (p : Predicate Expr) (m : FieldMapping) (part : Fragment) :
    Prop where
  field : (alone settings m).fieldFragment m.name { p with occur := .must } = .ok part
  test : m.name ≠ FieldRef.anyName → (alone settings m).build
    (.predicate { p with field := { p.field with name := m.name }, occur := .must }) = .ok part

theorem BuiltAlone.of_registering (hm : latest? (registered steps) name = some m)
    (h : (registering settings steps).fieldFragment name { p with occur := .must } = .ok part) :
    BuiltAlone settings p m part := by
  obtain rfl := latest?_name hm
  have hfield : (alone settings m).fieldFragment m.name { p with occur := .must } = .ok part := by
    rw [← h]
    exact fieldFragment_congr rfl ((alone_resolve m).trans (registering_resolve hm).symm)
  refine ⟨hfield, fun hname => ?_⟩
  have hsingle : ({ p.field with name := m.name } : FieldRef).isAny = false := by simpa [FieldRef.isAny] using hname
  change (alone settings m).predicateFragment _ = _
  rw [predicateFragment, hsingle]
  exact hfield

/-- A test of any field asks the fields that have been registered, each once, in the order of their first
registrations and by their latest mappings. Its own polarity holds for the whole. -/
theorem build_anyField (settings : CompilerSettings) (steps : List Registration) (p : Predicate Expr) (v : Value)
    (hany : p.field.isAny = true) (hv : p.pattern.evaluate = .ok v) :
    (registered steps = [] → (registering settings steps).build (.predicate p) =
      .error (.invalidArgument "any-field predicate but no searchable fields are mapped")) ∧
    (registered steps ≠ [] → ((∃ f, (registering settings steps).build (.predicate p) = .ok f) ↔
      ∀ name m, latest? (registered steps) name = some m → m.Converts p.matching v)) ∧
    ∀ f, (registering settings steps).build (.predicate p) = .ok f → ∃ parts : List Fragment,
      f = ⟨.ofClauses (parts.map fun part => ⟨.should, if part.occur = .mustNot
        then .ofClauses [⟨.mustNot, part.query⟩, ⟨.should, .matchAll⟩] else part.query⟩), p.occur⟩ ∧
      List.Forall₂ (fun name part => ∃ m, latest? (registered steps) name = some m ∧ BuiltAlone settings p m part)
        (firstNames (registered steps)) parts ∧
      (FieldRegistry.ofRegistrations steps).size = parts.length := by
  change (_ → (registering settings steps).predicateFragment p = _) ∧
    (_ → ((∃ f, (registering settings steps).predicateFragment p = .ok f) ↔ _)) ∧
    ∀ f, (registering settings steps).predicateFragment p = .ok f → _
  refine ⟨fun hnone => ?_, fun hsome => ?_, fun f hf => ?_⟩
  · rw [predicateFragment, if_neg (by simp [hany]), registering_names, hnone]
    rfl
  · rw [predicateFragment_any_isOk_iff hany hv (registering_names_ne_nil hsome), registering_names]
    constructor
    · intro h name m hm
      exact registering_resolve hm ▸ h name (mem_firstNames.2 ⟨m, hm⟩)
    · intro h name hname
      obtain ⟨m, hm⟩ := mem_firstNames.1 hname
      exact (registering_resolve hm).symm ▸ h name m hm
  · obtain ⟨hsingle, _⟩ | ⟨_, _, parts, hparts, rfl⟩ := predicateFragment_ok hf
    · exact absurd hsingle (by simp [hany])
    · have hfields := mapM_eq_ok hparts
      rw [registering_names] at hfields
      refine ⟨parts, ?_, ?_, ?_⟩
      · simp only [Fragment.alternatives, Fragment.alternative_eq]
      · have hmapped : ∀ name ∈ firstNames (registered steps), ∃ m, latest? (registered steps) name = some m :=
          fun name hname => mem_firstNames.1 hname
        refine ((List.forall₂_and_left _ _).2 ⟨hmapped, hfields⟩).imp fun name part h => ?_
        obtain ⟨⟨m, hm⟩, hpart⟩ := h
        exact ⟨m, hm, .of_registering hm hpart⟩
      · rw [FieldRegistry.size_ofRegistrations]
        exact hfields.length_eq

/-- Two keyword fields, the first of them named twice and then a number after all. -/
def repeated : List Registration := [.keywords ["a", "b", "a"], .mapping (.number "a" (some .int64))]

def isNot (pattern : Expr) : Predicate Expr :=
  { Predicate.ofField .any .exact pattern with occur := .mustNot }

theorem build_anyField_repeated : (isNot (constant (.int 7))).field.isAny = true ∧
    (isNot (constant (.int 7))).pattern.evaluate = .ok (.int 7) ∧
    (∃ f, (registering .standard repeated).build (.predicate (isNot (constant (.int 7)))) = .ok f ∧
      f.occur = .mustNot) ∧
    (FieldRegistry.ofRegistrations repeated).size = 2 := by
  obtain ⟨_, hbuild, hshape⟩ :=
    build_anyField .standard repeated (isNot (constant (.int 7))) (.int 7) rfl rfl
  have hkeyword (name : String) : (FieldMapping.keyword name).Converts .exact (.int 7) :=
    FieldMapping.keywordWith_converts _ _ _ _
  have hnumber : (FieldMapping.number "a" (some .int64)).Converts .exact (.int 7) :=
    FieldMapping.number_converts _ _ _ rfl
  have hall : ∀ m ∈ registered repeated, m.Converts .exact (.int 7) := by
    change ∀ m ∈ [FieldMapping.keyword "a", .keyword "b", .keyword "a", .number "a" (some .int64)], _
    simp only [List.forall_mem_cons, hkeyword, hnumber, List.not_mem_nil, false_imp_iff, implies_true, and_self]
  have hconverts : ∀ name m, latest? (registered repeated) name = some m → m.Converts .exact (.int 7) :=
    fun name m hm => hall m (List.mem_reverse.1 (List.mem_of_find?_eq_some hm))
  obtain ⟨f, hf⟩ := (hbuild (List.cons_ne_nil _ _)).2 hconverts
  obtain ⟨parts, hshape, hparts, hsize⟩ := hshape f hf
  have hnames : firstNames (registered repeated) = ["a", "b"] := by decide
  refine ⟨rfl, rfl, ⟨f, hf, congrArg Fragment.occur hshape⟩, ?_⟩
  rw [hsize, ← hparts.length_eq, hnames]
  rfl

end Registering

end Compiler

end IndexQuery
