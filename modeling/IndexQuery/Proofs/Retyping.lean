import IndexQuery.Proofs.Mirroring

set_option autoImplicit false

/-!
Trees that differ in declared kinds.

`Retyped e e'` says that `e'` is `e` with other kinds declared for some members, where a member that is a flag stays
one and no other becomes one; no part is a conditional. The text of a tree (`Retyped.display_eq`), the values of its
closed parts (`Retyped.evaluate_eq`), searches (`Retyped.any_eq`) and the weight (`Retyped.weight_eq`) do not depend on
kinds, and a walk whose step carries retyped nodes into retyped nodes does so with whole trees (`Retyped.mapUpM`). Two
runs are compared by `Lockstep`: both succeed with related results, or both fail with one error.
-/

namespace IndexQuery

inductive Lockstep {α β : Type} (R : α → β → Prop) : Except Error α → Except Error β → Prop where
  | ok {a : α} {b : β} (h : R a b) : Lockstep R (.ok a) (.ok b)
  | error (fault : Error) : Lockstep R (.error fault) (.error fault)

namespace Lockstep

variable {α β γ δ : Type} {R : α → β → Prop} {S : γ → δ → Prop} {x : Except Error α} {y : Except Error β}

theorem bind {f : α → Except Error γ} {g : β → Except Error δ} (h : Lockstep R x y)
    (hf : ∀ {a b}, R a b → Lockstep S (f a) (g b)) : Lockstep S (x >>= f) (y >>= g) := by
  cases h with
  | ok h => exact hf h
  | error fault => exact .error fault

/-- Computations that begin with the same one. -/
theorem bind_same {x : Except Error α} {f : α → Except Error γ} {g : α → Except Error δ}
    (h : ∀ a, Lockstep S (f a) (g a)) : Lockstep S (x >>= f) (x >>= g) := by
  cases x with
  | ok a => exact h a
  | error fault => exact .error fault

theorem mapM {ι : Type} {f : ι → Except Error α} {g : ι → Except Error β} (h : ∀ i, Lockstep R (f i) (g i))
    (is : List ι) : Lockstep (List.Forall₂ R) (is.mapM f) (is.mapM g) := by
  induction is with
  | nil => exact .ok .nil
  | cons i is ih =>
    rw [List.mapM_cons, List.mapM_cons]
    exact (h i).bind fun hb => ih.bind fun hbs => .ok (.cons hb hbs)

theorem of_result {R : α → α → Prop} {x : Except Error α} (h : ∀ a, x = .ok a → R a a) : Lockstep R x x := by
  cases x with
  | ok a => exact .ok (h a rfl)
  | error fault => exact .error fault

theorem eq {x y : Except Error α} (h : Lockstep Eq x y) : x = y := by
  cases h with
  | ok h => rw [h]
  | error fault => rfl

theorem of_ok {a : α} (h : Lockstep R (.ok a) y) : ∃ b, y = .ok b ∧ R a b := by
  cases h with
  | ok h => exact ⟨_, rfl, h⟩

theorem with_left {P : α → Prop} (h : Lockstep R x y) (hp : ∀ a, x = .ok a → P a) :
    Lockstep (fun a b => R a b ∧ P a) x y := by
  cases h with
  | ok h => exact .ok ⟨h, hp _ rfl⟩
  | error fault => exact .error fault

/-- The second computation goes on with a step that cannot fail. -/
theorem followed {f : β → Except Error γ} {T : α → γ → Prop} (h : Lockstep R x y)
    (hf : ∀ {a b}, R a b → ∃ c, f b = .ok c ∧ T a c) : Lockstep T x (y >>= f) := by
  cases h with
  | ok h =>
    obtain ⟨c, hc, ht⟩ := hf h
    rw [ok_bind, hc]
    exact .ok ht
  | error fault => exact .error fault

/-- Two computations that go in step with the same one. -/
theorem span {z : Except Error γ} {T : α → γ → Prop} {U : β → γ → Prop} (h : Lockstep R x y) (h' : Lockstep T x z)
    (hu : ∀ {a b c}, R a b → T a c → U b c) : Lockstep U y z := by
  cases h with
  | ok h =>
    cases h' with
    | ok h' => exact .ok (hu h h')
  | error fault =>
    cases h' with
    | error => exact .error fault

end Lockstep

def ScalarKind.Alike (k l : ScalarKind) : Prop := k = .bool ↔ l = .bool

instance (k l : ScalarKind) : Decidable (k.Alike l) := inferInstanceAs (Decidable (k = .bool ↔ l = .bool))

theorem ScalarKind.Alike.isFlag_eq {k l : ScalarKind} (h : k.Alike l) : (l == .bool) = (k == .bool) := by
  rw [Bool.eq_iff_iff, beq_iff_eq, beq_iff_eq]
  exact h.symm

namespace Expr

/-- The second tree is the first with other kinds declared for members and fields, flags remaining flags. Patterns and
bounds of tests count as parts. There is no case for conditionals: whether one is a null guard depends on finding its
subject in a branch, and this comparison does see kinds. -/
inductive Retyped : Expr → Expr → Prop where
  | constant (v : Value) : Retyped (constant v) (constant v)
  | captured (c : Capture) : Retyped (captured c) (captured c)
  | source (name : String) : Retyped (source name) (source name)
  | member {s t : Expr} (name : String) {k l : ScalarKind} (hk : k.Alike l) (h : Retyped s t) :
    Retyped (member s name k) (member t name l)
  | call {s t : Expr} {as bs : List Expr} (method : Method) (h : Retyped s t)
    (hs : List.Forall₂ Retyped as bs) : Retyped (call s method as) (call t method bs)
  | invoke {as bs : List Expr} (method : Method) (hs : List.Forall₂ Retyped as bs) :
    Retyped (invoke method as) (invoke method bs)
  | unary {a b : Expr} (op : UnaryOp) (h : Retyped a b) : Retyped (unary op a) (unary op b)
  | binary {a b c d : Expr} (op : BinaryOp) (hl : Retyped a c) (hr : Retyped b d) :
    Retyped (binary op a b) (binary op c d)
  | convert {a b : Expr} (kind : ScalarKind) (h : Retyped a b) : Retyped (convert a kind) (convert b kind)
  | field (ref : FieldRef) {k : ScalarKind} (hk : ref.kind.Alike k) :
    Retyped (field ref) (field { ref with kind := k })
  | predicate (p : Predicate Expr) {k : ScalarKind} {q : Expr} (hk : p.field.kind.Alike k)
    (h : Retyped p.pattern q) :
    Retyped (predicate p) (predicate { p with field := { p.field with kind := k }, pattern := q })
  | interval (r : Interval Expr) {k : ScalarKind} {lower upper : Option Expr} (hk : r.field.kind.Alike k)
    (hl : Option.Rel Retyped r.lower lower) (hu : Option.Rel Retyped r.upper upper) :
    Retyped (interval r)
      (interval { r with field := { r.field with kind := k }, lower := lower, upper := upper })
  | relevance : Retyped relevance relevance
  | anyField : Retyped anyField anyField
  | boosted {a b : Expr} (boost : Number.Binary32) (h : Retyped a b) : Retyped (boosted a boost) (boosted b boost)

namespace Retyped

mutual

theorem symm : {e e' : Expr} → Retyped e e' → Retyped e' e
  | _, _, .constant v => .constant v
  | _, _, .captured c => .captured c
  | _, _, .source name => .source name
  | _, _, .member name hk h => .member name hk.symm (symm h)
  | _, _, .call method h hs => .call method (symm h) (symmAll hs)
  | _, _, .invoke method hs => .invoke method (symmAll hs)
  | _, _, .unary op h => .unary op (symm h)
  | _, _, .binary op hl hr => .binary op (symm hl) (symm hr)
  | _, _, .convert kind h => .convert kind (symm h)
  | _, _, .field ref hk => .field { ref with kind := _ } hk.symm
  | _, _, .predicate p hk h => .predicate { p with field := { p.field with kind := _ }, pattern := _ } hk.symm (symm h)
  | _, _, .interval r hk hl hu =>
    .interval { r with field := { r.field with kind := _ }, lower := _, upper := _ } hk.symm (symmBound hl) (symmBound hu)
  | _, _, .relevance => .relevance
  | _, _, .anyField => .anyField
  | _, _, .boosted boost h => .boosted boost (symm h)

theorem symmAll : {as bs : List Expr} → List.Forall₂ Retyped as bs → List.Forall₂ Retyped bs as
  | _, _, .nil => .nil
  | _, _, .cons h hs => .cons (symm h) (symmAll hs)

theorem symmBound : {a b : Option Expr} → Option.Rel Retyped a b → Option.Rel Retyped b a
  | _, _, .none => .none
  | _, _, .some h => .some (symm h)

end

/-! ### What does not see kinds -/

section Heads

variable {e e' : Expr} (h : Retyped e e')

include h

/-- Related operands are one field with two kinds, or both are none. -/
theorem fieldOperand?_rel : Option.Rel (fun r s => ∃ k, r.kind.Alike k ∧ s = { r with kind := k })
    e.fieldOperand? e'.fieldOperand? := by
  cases h with
  | field ref hk => exact .some ⟨_, hk, rfl⟩
  | anyField => exact .some ⟨_, Iff.rfl, rfl⟩
  | _ => exact .none

theorem isSome_fieldOperand? : e'.fieldOperand?.isSome = e.fieldOperand?.isSome := by cases h <;> rfl

theorem asBoolConstant?_eq : e'.asBoolConstant? = e.asBoolConstant? := by cases h <;> rfl

theorem isQueryNode_eq : e'.isQueryNode = e.isQueryNode := by cases h <;> rfl

theorem isDocumentNode_eq : e'.isDocumentNode = e.isDocumentNode := by cases h <;> rfl

theorem isAnnotation_eq : e'.isAnnotation = e.isAnnotation := by
  cases h with
  | call method _ _ | invoke method _ => cases method <;> rfl
  | _ => rfl

end Heads

mutual

theorem any_eq {test : Expr → Bool} (ht : ∀ {a b}, Retyped a b → test b = test a) :
    {e e' : Expr} → Retyped e e' → e'.any test = e.any test
  | _, _, .member name hk h => by rw [any, any, ht (.member name hk h), any_eq ht h]
  | _, _, .call method h hs => by rw [any, any, ht (.call method h hs), any_eq ht h, anyOf_eq ht hs]
  | _, _, .invoke method hs => by rw [any, any, ht (.invoke method hs), anyOf_eq ht hs]
  | _, _, .unary op h => by rw [any, any, ht (.unary op h), any_eq ht h]
  | _, _, .binary op hl hr => by rw [any, any, ht (.binary op hl hr), any_eq ht hl, any_eq ht hr]
  | _, _, .convert kind h => by rw [any, any, ht (.convert kind h), any_eq ht h]
  | _, _, .boosted boost h => by rw [any, any, ht (.boosted boost h), any_eq ht h]
  | _, _, .constant v => rfl
  | _, _, .captured c => rfl
  | _, _, .source name => rfl
  | _, _, .relevance => rfl
  | _, _, .anyField => rfl
  | _, _, .field ref hk => ht (.field ref hk)
  | _, _, .predicate p hk h => ht (.predicate p hk h)
  | _, _, .interval r hk hl hu => ht (.interval r hk hl hu)

theorem anyOf_eq {test : Expr → Bool} (ht : ∀ {a b}, Retyped a b → test b = test a) :
    {as bs : List Expr} → List.Forall₂ Retyped as bs → anyOf test bs = anyOf test as
  | _, _, .nil => rfl
  | _, _, .cons h hs => by rw [anyOf, anyOf, any_eq ht h, anyOf_eq ht hs]

end

section

variable {e e' : Expr} (h : Retyped e e')

include h

theorem referencesDocument_eq : e'.referencesDocument = e.referencesDocument := h.any_eq isDocumentNode_eq

theorem isEvaluable_eq : e'.isEvaluable = e.isEvaluable := by
  rw [isEvaluable, isEvaluable, h.referencesDocument_eq, h.any_eq isAnnotation_eq]

end

mutual

theorem weight_eq : {e e' : Expr} → Retyped e e' → e'.weight = e.weight
  | _, _, .member _ _ h => by simp [weight_eq h]
  | _, _, .call _ h hs => by simp [weight_eq h, weightAll_eq hs]
  | _, _, .invoke _ hs => by simp [weightAll_eq hs]
  | _, _, .unary _ h => by simp [weight_eq h]
  | _, _, .binary _ hl hr => by simp [weight_eq hl, weight_eq hr]
  | _, _, .convert _ h => by simp [weight_eq h]
  | _, _, .boosted _ h => by simp [weight_eq h]
  | _, _, .constant _ | _, _, .captured _ | _, _, .source _ | _, _, .relevance | _, _, .anyField | _, _, .field _ _
  | _, _, .predicate _ _ _ | _, _, .interval _ _ _ _ => rfl

theorem weightAll_eq : {as bs : List Expr} → List.Forall₂ Retyped as bs → weightAll bs = weightAll as
  | _, _, .nil => rfl
  | _, _, .cons h hs => by simp [weight_eq h, weightAll_eq hs]

end

mutual

theorem hasNaN_eq : {e e' : Expr} → Retyped e e' → e'.hasNaN = e.hasNaN
  | _, _, .member _ _ h => by simp [hasNaN, hasNaN_eq h]
  | _, _, .call _ h hs => by simp [hasNaN, hasNaN_eq h, hasNaNAmong_eq hs]
  | _, _, .invoke _ hs => by simp [hasNaN, hasNaNAmong_eq hs]
  | _, _, .unary _ h => by simp [hasNaN, hasNaN_eq h]
  | _, _, .binary _ hl hr => by simp [hasNaN, hasNaN_eq hl, hasNaN_eq hr]
  | _, _, .convert _ h => by simp [hasNaN, hasNaN_eq h]
  | _, _, .predicate _ _ h => by simp [hasNaN_predicate, hasNaN_eq h]
  | _, _, .interval _ _ hl hu => by simp [hasNaN_interval, hasNaNBound_eq hl, hasNaNBound_eq hu]
  | _, _, .boosted _ h => by simp [hasNaN, hasNaN_eq h]
  | _, _, .constant _ | _, _, .captured _ | _, _, .source _ | _, _, .relevance | _, _, .anyField
  | _, _, .field _ _ => rfl

theorem hasNaNAmong_eq : {as bs : List Expr} → List.Forall₂ Retyped as bs → hasNaNAmong bs = hasNaNAmong as
  | _, _, .nil => rfl
  | _, _, .cons h hs => by simp [hasNaNAmong, hasNaN_eq h, hasNaNAmong_eq hs]

theorem hasNaNBound_eq : {a b : Option Expr} → Option.Rel Retyped a b → hasNaNBound b = hasNaNBound a
  | _, _, .none => rfl
  | _, _, .some h => by simp [hasNaNBound, hasNaN_eq h]

end

mutual

/-- Messages do not tell kinds. -/
theorem display_eq : {e e' : Expr} → Retyped e e' → e'.display = e.display
  | _, _, .member _ _ h => by simp [display, display_eq h]
  | _, _, .call _ h hs => by simp [display, display_eq h, displayArgs_eq hs]
  | _, _, .invoke _ hs => by simp [display, displayArgs_eq hs]
  | _, _, .unary _ h => by simp [display, display_eq h]
  | _, _, .binary _ hl hr => by simp [display, display_eq hl, display_eq hr]
  | _, _, .convert _ h => by simp [display, display_eq h]
  | _, _, .predicate p _ h => by
    obtain ⟨ref, pattern, _⟩ := p
    simp [display, displayPredicate, display_eq h]
  | _, _, .interval r _ hl hu => by
    obtain ⟨ref, lower, _, upper, _⟩ := r
    simp [display, displayInterval, displayBound_eq hl, displayBound_eq hu]
  | _, _, .boosted _ h => by simp [display, display_eq h]
  | _, _, .constant _ | _, _, .captured _ | _, _, .source _ | _, _, .relevance | _, _, .anyField
  | _, _, .field _ _ => rfl

theorem displayArgs_eq : {as bs : List Expr} → List.Forall₂ Retyped as bs → displayArgs bs = displayArgs as
  | _, _, .nil => rfl
  | _, _, .cons h .nil => by simp [displayArgs, display_eq h]
  | _, _, .cons h (.cons h' hs) => by
    rw [displayArgs, displayArgs, display_eq h, displayArgs_eq (.cons h' hs)]

theorem displayBound_eq : {a b : Option Expr} → Option.Rel Retyped a b → displayBound b = displayBound a
  | _, _, .none => rfl
  | _, _, .some h => by simp [displayBound, display_eq h]

end

theorem evaluate_fault {e e' : Expr} (h : Retyped e e') {α : Type} :
    (Value.fault ("cannot evaluate `" ++ e'.display ++ "`") : Except Error α) =
      Value.fault ("cannot evaluate `" ++ e.display ++ "`") := by rw [h.display_eq]

/-- Only closed parts have values, and their kinds are those of conversions. -/
theorem evaluate_eq : {e e' : Expr} → Retyped e e' → e'.evaluate = e.evaluate
  | _, _, .unary op h => by rw [evaluate, evaluate, evaluate_eq h]
  | _, _, .convert kind h => by rw [evaluate, evaluate, evaluate_eq h]
  | _, _, .binary op hl hr => by
    cases op <;> simp only [evaluate, evaluate_eq hl, evaluate_eq hr]
  | _, _, .call method h hs => by
    have hm := Retyped.call method h hs
    cases hs with
    | nil =>
      cases method with
      | toLowercase | toUppercase => rw [evaluate, evaluate, evaluate_eq h]
      | _ => exact hm.evaluate_fault
    | cons => cases method <;> exact hm.evaluate_fault
  | _, _, .constant _ | _, _, .captured _ | _, _, .source _ | _, _, .relevance | _, _, .anyField => rfl
  | _, _, .member name hk h => (Retyped.member name hk h).evaluate_fault
  | _, _, .invoke method hs => (Retyped.invoke method hs).evaluate_fault
  | _, _, .field ref hk => (Retyped.field ref hk).evaluate_fault
  | _, _, .predicate p hk h => (Retyped.predicate p hk h).evaluate_fault
  | _, _, .interval r hk hl hu => (Retyped.interval r hk hl hu).evaluate_fault
  | _, _, .boosted boost h => (Retyped.boosted boost h).evaluate_fault

/-! ### Walks -/

section Walks

variable {f : Expr → Except Error Expr}

mutual

theorem mapUpM (hf : ∀ {a b}, Retyped a b → Lockstep Retyped (f a) (f b)) :
    {e e' : Expr} → Retyped e e' → Lockstep Retyped (e.mapUpM f) (e'.mapUpM f)
  | _, _, .member name hk h => (mapUpM hf h).bind fun ht => hf (.member name hk ht)
  | _, _, .call method h hs =>
    (mapUpM hf h).bind fun ht => (mapAllM hf hs).bind fun has => hf (.call method ht has)
  | _, _, .invoke method hs => (mapAllM hf hs).bind fun has => hf (.invoke method has)
  | _, _, .unary op h => (mapUpM hf h).bind fun ha => hf (.unary op ha)
  | _, _, .binary op hl hr =>
    (mapUpM hf hl).bind fun ha => (mapUpM hf hr).bind fun hb => hf (.binary op ha hb)
  | _, _, .convert kind h => (mapUpM hf h).bind fun ha => hf (.convert kind ha)
  | _, _, .boosted boost h => (mapUpM hf h).bind fun ha => hf (.boosted boost ha)
  | _, _, .constant v => hf (.constant v)
  | _, _, .captured c => hf (.captured c)
  | _, _, .source name => hf (.source name)
  | _, _, .relevance => hf .relevance
  | _, _, .anyField => hf .anyField
  | _, _, .field ref hk => hf (.field ref hk)
  | _, _, .predicate p hk h => hf (.predicate p hk h)
  | _, _, .interval r hk hl hu => hf (.interval r hk hl hu)

theorem mapAllM (hf : ∀ {a b}, Retyped a b → Lockstep Retyped (f a) (f b)) :
    {as bs : List Expr} → List.Forall₂ Retyped as bs →
      Lockstep (List.Forall₂ Retyped) (mapAllM f as) (mapAllM f bs)
  | _, _, .nil => .ok .nil
  | _, _, .cons h hs => (mapUpM hf h).bind fun ha => (mapAllM hf hs).bind fun has => .ok (.cons ha has)

end

theorem mapUp {g : Expr → Expr} (hg : ∀ {a b}, Retyped a b → Retyped (g a) (g b)) {e e' : Expr}
    (h : Retyped e e') : Retyped (e.mapUp g) (e'.mapUp g) := by
  have hm := h.mapUpM fun hab => .ok (hg hab)
  rw [mapUpM_ok, mapUpM_ok] at hm
  cases hm with
  | ok hm => exact hm

end Walks

end Retyped

end Expr

end IndexQuery
