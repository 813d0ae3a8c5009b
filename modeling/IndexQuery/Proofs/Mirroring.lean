import IndexQuery.Proofs.Sameness

set_option autoImplicit false

/-!
Trees that differ in the order of compared operands.

`Mirrored e e'` says that `e'` is `e` with the operands of some comparisons swapped and their operators turned
round. Nothing that lowering asks of a tree sees the difference: searches (`Mirrored.any_eq`), the weight
(`Mirrored.weight_eq`) and the values of closed parts (`Mirrored.evaluate`) are the same, and a walk whose step
carries mirrored nodes into mirrored nodes does so with whole trees (`Mirrored.mapUpM`). Two runs are compared by
`Follows`: where the first succeeds, the second does with a related result.
-/

namespace IndexQuery

/-- Whenever the first computation succeeds, the second does, and their results are related. Which error they
fail with may differ. -/
def Follows {α β : Type} (R : α → β → Prop) (x : Except Error α) (y : Except Error β) : Prop :=
  ∀ a, x = .ok a → ∃ b, y = .ok b ∧ R a b

namespace Follows

variable {α β γ δ : Type} {R : α → β → Prop} {S : γ → δ → Prop} {x : Except Error α} {y : Except Error β}

theorem ok {a : α} {b : β} (h : R a b) : Follows R (.ok a) (.ok b) := by
  rintro _ ⟨⟩
  exact ⟨b, rfl, h⟩

theorem error {fault : Error} : Follows R (.error fault) y := by
  rintro _ ⟨⟩

theorem refl {R : α → α → Prop} (h : ∀ a, R a a) (x : Except Error α) : Follows R x x :=
  fun a ha => ⟨a, ha, h a⟩

theorem bind {f : α → Except Error γ} {g : β → Except Error δ} (h : Follows R x y)
    (hf : ∀ {a b}, R a b → Follows S (f a) (g b)) : Follows S (x >>= f) (y >>= g) := by
  intro r hr
  obtain ⟨a, ha, hr⟩ := bind_eq_ok.1 hr
  obtain ⟨b, hb, hab⟩ := h a ha
  rw [hb, ok_bind]
  exact hf hab r hr

/-- What runs the same on the same result. -/
theorem bind_eq {y : Except Error α} (h : Follows Eq x y) (f : α → Except Error γ) :
    Follows Eq (x >>= f) (y >>= f) := by
  refine h.bind ?_
  rintro a _ rfl
  exact refl Eq.refl (f a)

/-- Computations that go on alike for either truth value. -/
theorem branch {x y : Except Error Value} {f g : Bool → Except Error γ} (h : Follows Eq x y)
    (hf : ∀ b, Follows Eq (f b) (g b)) :
    Follows Eq (x >>= fun v => v.expectBool >>= f) (y >>= fun v => v.expectBool >>= g) := by
  refine h.bind ?_
  rintro v _ rfl
  refine (refl Eq.refl v.expectBool).bind ?_
  rintro b _ rfl
  exact hf b

/-- Two computations that do not depend on each other may trade places. -/
theorem bind_swapped {ε ζ : Type} {T : ε → ζ → Prop} {x' : Except Error γ} {y' : Except Error δ}
    {f : α → γ → Except Error ε} {g : δ → β → Except Error ζ} (h : Follows R x y) (h' : Follows S x' y')
    (hf : ∀ {a b c d}, R a b → S c d → Follows T (f a c) (g d b)) :
    Follows T (x >>= fun a => x' >>= f a) (y' >>= fun d => y >>= g d) := by
  intro r hr
  obtain ⟨a, ha, hr⟩ := bind_eq_ok.1 hr
  obtain ⟨c, hc, hr⟩ := bind_eq_ok.1 hr
  obtain ⟨b, hb, hab⟩ := h a ha
  obtain ⟨d, hd, hcd⟩ := h' c hc
  rw [hd, ok_bind, hb, ok_bind]
  exact hf hab hcd r hr

theorem mapM {f g : α → Except Error γ} (h : ∀ a, Follows Eq (f a) (g a)) (as : List α) :
    Follows Eq (as.mapM f) (as.mapM g) := by
  induction as with
  | nil => exact refl Eq.refl _
  | cons a as ih =>
    rw [List.mapM_cons, List.mapM_cons]
    refine (h a).bind ?_
    rintro c _ rfl
    exact ih.bind_eq _

end Follows

namespace Number.Binary

variable {f : Format} (x y : Binary f)

theorem same_comm : x.same y = y.same x := by
  rw [same, same, Bool.and_comm (!x.isNaN), Bool.beq_comm]

theorem totalCompare_swapped : y.totalCompare x = (x.totalCompare y).swap := by
  rw [totalCompare, totalCompare, ← Std.OrientedCmp.eq_swap]

end Number.Binary

theorem Time.Instant.order_swapped (s t : Time.Instant) : t.order s = (s.order t).swap := by
  rw [order, order, Ordering.swap_then, ← Std.OrientedCmp.eq_swap, ← Std.OrientedCmp.eq_swap]

namespace Value

variable {a b v : Value}

theorem equals_comm (a b : Value) : a.equals b = b.equals a := by
  cases a <;> cases b <;> simp [equals, isNumeric, asFloat?, same, Number.Binary.same_comm, Bool.beq_comm]

theorem order_swapped {o : Ordering} (h : a.order b = .ok o) : b.order a = .ok o.swap := by
  unfold order at h
  split at h
  · cases h
    rw [order, ← Std.OrientedCmp.eq_swap]
  · cases h
    rw [order, ← Std.OrientedCmp.eq_swap]
  · cases h
    rw [order, ← Std.OrientedCmp.eq_swap]
  · cases h
    rw [order, Time.Instant.order_swapped]
  · rename_i hint htext hbool hinstant
    split at h
    · rename_i x y hx hy
      cases h
      rw [order, hx, hy]
      · exact congrArg Except.ok (x.totalCompare_swapped y)
      · exact fun i j hb ha => hint j i ha hb
      · exact fun i j hb ha => htext j i ha hb
      · exact fun i j hb ha => hbool j i ha hb
      · exact fun i j hb ha => hinstant j i ha hb
    · cases h

theorem map_order_swapped {f g : Ordering → Value} (hfg : ∀ o, g o.swap = f o)
    (h : (a.order b).map f = .ok v) : (b.order a).map g = .ok v := by
  cases ho : a.order b with
  | error fault =>
    rw [ho] at h
    cases h
  | ok o =>
    rw [ho] at h
    rw [order_swapped ho, ← h]
    exact congrArg Except.ok (hfg o)

theorem applyBinary_swapped {op : BinaryOp} (hop : op.isComparison = true)
    (h : a.applyBinary op b = .ok v) : b.applyBinary op.swapped a = .ok v := by
  cases op with
  | equal =>
    rw [← h]
    exact congrArg (fun q => Except.ok (bool q)) (equals_comm b a)
  | notEqual =>
    rw [← h]
    exact congrArg (fun q => Except.ok (bool !q)) (equals_comm b a)
  | less | lessOrEqual | greater | greaterOrEqual => exact map_order_swapped (by decide) h
  | _ => cases hop

end Value

namespace Expr

/-- The second tree is the first with the operands of some comparisons swapped and the operators of those turned
round. Patterns and bounds of tests count as parts. A conditional is mirrored by itself only: whether it is a null
guard depends on finding the subject of its test in a branch, where another order would hide it. -/
inductive Mirrored : Expr → Expr → Prop where
  | refl (e : Expr) : Mirrored e e
  | member {s t : Expr} (name : String) (kind : ScalarKind) (h : Mirrored s t) :
    Mirrored (member s name kind) (member t name kind)
  | call {s t : Expr} {as bs : List Expr} (method : Method) (h : Mirrored s t)
    (hs : List.Forall₂ Mirrored as bs) : Mirrored (call s method as) (call t method bs)
  | invoke {as bs : List Expr} (method : Method) (hs : List.Forall₂ Mirrored as bs) :
    Mirrored (invoke method as) (invoke method bs)
  | unary {a b : Expr} (op : UnaryOp) (h : Mirrored a b) : Mirrored (unary op a) (unary op b)
  | binary {a b c d : Expr} (op : BinaryOp) (hl : Mirrored a c) (hr : Mirrored b d) :
    Mirrored (binary op a b) (binary op c d)
  | swapped {a b c d : Expr} {op : BinaryOp} (hop : op.isComparison = true) (hl : Mirrored a c)
    (hr : Mirrored b d) : Mirrored (binary op a b) (binary op.swapped d c)
  | convert {a b : Expr} (kind : ScalarKind) (h : Mirrored a b) :
    Mirrored (convert a kind) (convert b kind)
  | predicate {q : Expr} (p : Predicate Expr) (h : Mirrored p.pattern q) :
    Mirrored (predicate p) (predicate { p with pattern := q })
  | interval {lower upper : Option Expr} (r : Interval Expr) (hl : Option.Rel Mirrored r.lower lower)
    (hu : Option.Rel Mirrored r.upper upper) :
    Mirrored (interval r) (interval { r with lower := lower, upper := upper })
  | boosted {a b : Expr} (boost : Number.Binary32) (h : Mirrored a b) :
    Mirrored (boosted a boost) (boosted b boost)

theorem hasNaN_predicate (p : Predicate Expr) :
    (predicate p).hasNaN = (p.pattern.hasNaN || p.boost.isNaN || p.similarity.any (·.isNaN)) := by
  cases p
  simp [hasNaN, hasNaNTest]

theorem hasNaN_interval (r : Interval Expr) :
    (interval r).hasNaN = (hasNaNBound r.lower || hasNaNBound r.upper || r.boost.isNaN) := by
  cases r
  simp [hasNaN, hasNaNInterval]

theorem evaluate_comparison {op : BinaryOp} (hop : op.isComparison = true) (left right : Expr) :
    (binary op left right).evaluate =
      left.evaluate >>= fun a => right.evaluate >>= fun b => a.applyBinary op b := by
  cases op with
  | equal | notEqual | less | lessOrEqual | greater | greaterOrEqual => rfl
  | _ => cases hop

def KeepsValue (a b : Expr) : Prop := Follows Eq a.evaluate b.evaluate

theorem keepsValue_binary (op : BinaryOp) {a b c d : Expr} (hl : KeepsValue a c) (hr : KeepsValue b d) :
    KeepsValue (binary op a b) (binary op c d) := by
  cases op with
  | and =>
    refine Follows.branch hl fun q => ?_
    cases q with
    | true => exact Follows.bind_eq hr _
    | false => exact .refl Eq.refl _
  | or =>
    refine Follows.branch hl fun q => ?_
    cases q with
    | true => exact .refl Eq.refl _
    | false => exact Follows.bind_eq hr _
  | coalesce =>
    refine Follows.bind hl ?_
    rintro v _ rfl
    split
    · exact hr
    · exact .refl Eq.refl _
  | _ =>
    refine Follows.bind hl ?_
    rintro v _ rfl
    exact Follows.bind_eq hr _

/-- Calls with a value have no arguments, so that arguments need not be related. -/
theorem keepsValue_call (method : Method) {s t : Expr} {as bs : List Expr} (h : KeepsValue s t)
    (hs : as.length = bs.length) : KeepsValue (call s method as) (call t method bs) := by
  cases as with
  | nil =>
    obtain rfl := List.length_eq_zero_iff.1 hs.symm
    cases method with
    | toLowercase | toUppercase => exact Follows.bind_eq h _
    | _ => exact .error
  | cons => cases method <;> exact .error

theorem keepsValue_congruent : Congruent KeepsValue where
  refl e := .refl Eq.refl e.evaluate
  trans hab hbc v hv := by
    obtain ⟨_, hv, rfl⟩ := hab v hv
    exact hbc _ hv
  member _ _ _ := .error
  call method h hs := keepsValue_call method h hs.length_eq
  invoke _ _ := .error
  unary _ h := h.bind_eq _
  binary op hl hr := keepsValue_binary op hl hr
  conditional ht ha hb := by
    refine Follows.branch ht fun q => ?_
    cases q with
    | true => exact ha
    | false => exact hb
  convert _ h := h.bind_eq _
  boosted _ _ := .error

namespace Mirrored

section Heads

variable {e e' : Expr} (h : Mirrored e e')

include h

theorem fieldOperand?_eq : e'.fieldOperand? = e.fieldOperand? := by cases h <;> rfl

theorem asBoolConstant?_eq : e'.asBoolConstant? = e.asBoolConstant? := by cases h <;> rfl

theorem isQueryNode_eq : e'.isQueryNode = e.isQueryNode := by cases h <;> rfl

theorem isDocumentNode_eq : e'.isDocumentNode = e.isDocumentNode := by cases h <;> rfl

theorem isAnnotation_eq : e'.isAnnotation = e.isAnnotation := by
  cases h with
  | call method _ _ | invoke method _ => cases method <;> rfl
  | _ => rfl

end Heads

mutual

/-- A search finds a node in both trees or in none, if the test takes both for one. -/
theorem any_eq {test : Expr → Bool} (ht : ∀ {a b}, Mirrored a b → test b = test a) :
    {e e' : Expr} → Mirrored e e' → e'.any test = e.any test
  | _, _, .refl _ => rfl
  | _, _, .member name kind h => by rw [any, any, ht (.member name kind h), any_eq ht h]
  | _, _, .call method h hs => by rw [any, any, ht (.call method h hs), any_eq ht h, anyOf_eq ht hs]
  | _, _, .invoke method hs => by rw [any, any, ht (.invoke method hs), anyOf_eq ht hs]
  | _, _, .unary op h => by rw [any, any, ht (.unary op h), any_eq ht h]
  | _, _, .binary op hl hr => by rw [any, any, ht (.binary op hl hr), any_eq ht hl, any_eq ht hr]
  | _, _, .swapped hop hl hr => by
    rw [any, any, ht (.swapped hop hl hr), any_eq ht hl, any_eq ht hr, Bool.or_right_comm]
  | _, _, .convert kind h => by rw [any, any, ht (.convert kind h), any_eq ht h]
  | _, _, .predicate p h => ht (.predicate p h)
  | _, _, .interval r hl hu => ht (.interval r hl hu)
  | _, _, .boosted boost h => by rw [any, any, ht (.boosted boost h), any_eq ht h]

theorem anyOf_eq {test : Expr → Bool} (ht : ∀ {a b}, Mirrored a b → test b = test a) :
    {as bs : List Expr} → List.Forall₂ Mirrored as bs → anyOf test bs = anyOf test as
  | _, _, .nil => rfl
  | _, _, .cons h hs => by rw [anyOf, anyOf, any_eq ht h, anyOf_eq ht hs]

end

theorem isEvaluable_eq {e e' : Expr} (h : Mirrored e e') : e'.isEvaluable = e.isEvaluable := by
  rw [isEvaluable, isEvaluable, referencesDocument, referencesDocument, h.any_eq isDocumentNode_eq,
    h.any_eq isAnnotation_eq]

mutual

theorem weight_eq : {e e' : Expr} → Mirrored e e' → e'.weight = e.weight
  | _, _, .refl _ => rfl
  | _, _, .member _ _ h => by simp [weight_eq h]
  | _, _, .call _ h hs => by simp [weight_eq h, weightAll_eq hs]
  | _, _, .invoke _ hs => by simp [weightAll_eq hs]
  | _, _, .unary _ h => by simp [weight_eq h]
  | _, _, .binary _ hl hr => by simp [weight_eq hl, weight_eq hr]
  | _, _, .swapped _ hl hr => by
    simp [weight_eq hl, weight_eq hr, Lowering.opWeight_swapped, Nat.add_comm]
  | _, _, .convert _ h => by simp [weight_eq h]
  | _, _, .predicate _ _ => rfl
  | _, _, .interval _ _ _ => rfl
  | _, _, .boosted _ h => by simp [weight_eq h]

theorem weightAll_eq : {as bs : List Expr} → List.Forall₂ Mirrored as bs → weightAll bs = weightAll as
  | _, _, .nil => rfl
  | _, _, .cons h hs => by simp [weight_eq h, weightAll_eq hs]

end

mutual

theorem hasNaN_eq : {e e' : Expr} → Mirrored e e' → e'.hasNaN = e.hasNaN
  | _, _, .refl _ => rfl
  | _, _, .member _ _ h => by simp [hasNaN, hasNaN_eq h]
  | _, _, .call _ h hs => by simp [hasNaN, hasNaN_eq h, hasNaNAmong_eq hs]
  | _, _, .invoke _ hs => by simp [hasNaN, hasNaNAmong_eq hs]
  | _, _, .unary _ h => by simp [hasNaN, hasNaN_eq h]
  | _, _, .binary _ hl hr => by simp [hasNaN, hasNaN_eq hl, hasNaN_eq hr]
  | _, _, .swapped _ hl hr => by simp [hasNaN, hasNaN_eq hl, hasNaN_eq hr, Bool.or_comm]
  | _, _, .convert _ h => by simp [hasNaN, hasNaN_eq h]
  | _, _, .predicate _ h => by simp [hasNaN_predicate, hasNaN_eq h]
  | _, _, .interval _ hl hu => by simp [hasNaN_interval, hasNaNBound_eq hl, hasNaNBound_eq hu]
  | _, _, .boosted _ h => by simp [hasNaN, hasNaN_eq h]

theorem hasNaNAmong_eq : {as bs : List Expr} → List.Forall₂ Mirrored as bs →
    hasNaNAmong bs = hasNaNAmong as
  | _, _, .nil => rfl
  | _, _, .cons h hs => by simp [hasNaNAmong, hasNaN_eq h, hasNaNAmong_eq hs]

theorem hasNaNBound_eq : {a b : Option Expr} → Option.Rel Mirrored a b → hasNaNBound b = hasNaNBound a
  | _, _, .none => rfl
  | _, _, .some h => by simp [hasNaNBound, hasNaN_eq h]

end

mutual

theorem symm : {e e' : Expr} → Mirrored e e' → Mirrored e' e
  | _, _, .refl e => .refl e
  | _, _, .member name kind h => .member name kind (symm h)
  | _, _, .call method h hs => .call method (symm h) (symmAll hs)
  | _, _, .invoke method hs => .invoke method (symmAll hs)
  | _, _, .unary op h => .unary op (symm h)
  | _, _, .binary op hl hr => .binary op (symm hl) (symm hr)
  | _, _, @swapped _ _ _ _ op hop hl hr => by
    have hm := swapped (by rw [op.swapped_isComparison, hop]) (symm hr) (symm hl)
    rwa [op.swapped_swapped] at hm
  | _, _, .convert kind h => .convert kind (symm h)
  | _, _, .predicate p h => .predicate { p with pattern := _ } (symm h)
  | _, _, .interval r hl hu => .interval { r with lower := _, upper := _ } (symmBound hl) (symmBound hu)
  | _, _, .boosted boost h => .boosted boost (symm h)

theorem symmAll : {as bs : List Expr} → List.Forall₂ Mirrored as bs → List.Forall₂ Mirrored bs as
  | _, _, .nil => .nil
  | _, _, .cons h hs => .cons (symm h) (symmAll hs)

theorem symmBound : {a b : Option Expr} → Option.Rel Mirrored a b → Option.Rel Mirrored b a
  | _, _, .none => .none
  | _, _, .some h => .some (symm h)

end

/-- A closed part and its mirror image have one value. -/
theorem evaluate : {e e' : Expr} → Mirrored e e' → KeepsValue e e'
  | _, _, .refl e => keepsValue_congruent.refl e
  | _, _, .unary op h => keepsValue_congruent.unary op (evaluate h)
  | _, _, .convert kind h => keepsValue_congruent.convert kind (evaluate h)
  | _, _, .binary op hl hr => keepsValue_congruent.binary op (evaluate hl) (evaluate hr)
  | _, _, @swapped _ _ _ _ op hop hl hr => by
    rw [KeepsValue, evaluate_comparison hop, evaluate_comparison (by rw [op.swapped_isComparison, hop])]
    refine (evaluate hl).bind_swapped (evaluate hr) fun hv hw => ?_
    subst hv hw
    exact fun v hv => ⟨v, Value.applyBinary_swapped hop hv, rfl⟩
  | _, _, .call method h hs => keepsValue_call method (evaluate h) hs.length_eq
  | _, _, .member .. | _, _, .invoke .. | _, _, .predicate .. | _, _, .interval .. | _, _, .boosted .. => .error

section Walks

variable {f : Expr → Except Error Expr}

mutual

/-- A step that carries mirrored nodes into mirrored nodes makes a walk that does so with trees. -/
theorem mapUpM (hf : ∀ {a b}, Mirrored a b → Follows Mirrored (f a) (f b)) :
    {e e' : Expr} → Mirrored e e' → Follows Mirrored (e.mapUpM f) (e'.mapUpM f)
  | _, _, .refl e => .refl .refl _
  | _, _, .member name kind h => (mapUpM hf h).bind fun ht => hf (.member name kind ht)
  | _, _, .call method h hs =>
    (mapUpM hf h).bind fun ht => (mapAllM hf hs).bind fun has => hf (.call method ht has)
  | _, _, .invoke method hs => (mapAllM hf hs).bind fun has => hf (.invoke method has)
  | _, _, .unary op h => (mapUpM hf h).bind fun ha => hf (.unary op ha)
  | _, _, .binary op hl hr =>
    (mapUpM hf hl).bind fun ha => (mapUpM hf hr).bind fun hb => hf (.binary op ha hb)
  | _, _, .swapped hop hl hr =>
    (mapUpM hf hl).bind_swapped (mapUpM hf hr) fun ha hb => hf (.swapped hop ha hb)
  | _, _, .convert kind h => (mapUpM hf h).bind fun ha => hf (.convert kind ha)
  | _, _, .predicate p h => hf (.predicate p h)
  | _, _, .interval r hl hu => hf (.interval r hl hu)
  | _, _, .boosted boost h => (mapUpM hf h).bind fun ha => hf (.boosted boost ha)

theorem mapAllM (hf : ∀ {a b}, Mirrored a b → Follows Mirrored (f a) (f b)) :
    {as bs : List Expr} → List.Forall₂ Mirrored as bs →
      Follows (List.Forall₂ Mirrored) (mapAllM f as) (mapAllM f bs)
  | _, _, .nil => .ok .nil
  | _, _, .cons h hs => (mapUpM hf h).bind fun ha => (mapAllM hf hs).bind fun has => .ok (.cons ha has)

end

theorem mapUp {g : Expr → Expr} (hg : ∀ {a b}, Mirrored a b → Mirrored (g a) (g b)) {e e' : Expr}
    (h : Mirrored e e') : Mirrored (e.mapUp g) (e'.mapUp g) := by
  obtain ⟨r, hr, hm⟩ := h.mapUpM (fun hab => .ok (hg hab)) _ (mapUpM_ok g e)
  rw [mapUpM_ok] at hr
  cases hr
  exact hm

end Walks

end Mirrored

end Expr

end IndexQuery
