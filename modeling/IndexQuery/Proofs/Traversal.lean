import IndexQuery.Expr.Traversal
import Mathlib.Data.List.Forall2

set_option autoImplicit false

/-!
What a walk over an expression does, from what its step does to one node.

A relation between a node and its rewrite that passes through every constructor holds between a whole
tree and its rewrite (`Congruent.mapUpM`; where the step cannot fail, it need only hold of the nodes that the walk
meets, `Congruent.mapUp_visited`), a walk whose step fixes each node fixes the tree (`mapUpM_fixed`), and a walk fails
only as one of its steps does (`mapUpM_error`). A search looks at the nodes that a walk visits (`any_eq`).
-/

namespace IndexQuery

theorem bind_eq_ok {ε α β : Type} {x : Except ε α} {f : α → Except ε β} {b : β} :
    (x >>= f) = .ok b ↔ ∃ a, x = .ok a ∧ f a = .ok b := by
  cases x with
  | error e => simp [bind, Except.bind]
  | ok a => simp [bind, Except.bind]

theorem bind_eq_error {ε α β : Type} {x : Except ε α} {f : α → Except ε β} {e : ε} :
    (x >>= f) = .error e ↔ x = .error e ∨ ∃ a, x = .ok a ∧ f a = .error e := by
  cases x with
  | error e => simp [bind, Except.bind]
  | ok a => simp [bind, Except.bind]

theorem pure_eq_ok {ε α : Type} {a b : α} : (pure a : Except ε α) = .ok b ↔ a = b := by
  simp [pure, Except.pure]

theorem ok_bind {ε α β : Type} (a : α) (f : α → Except ε β) : ((.ok a : Except ε α) >>= f) = f a := rfl

theorem mapM_eq_ok {ε α β : Type} {f : α → Except ε β} {as : List α} {bs : List β} (h : as.mapM f = .ok bs) :
    List.Forall₂ (fun a b => f a = .ok b) as bs := by
  induction as generalizing bs with
  | nil =>
    obtain rfl := pure_eq_ok.1 h
    exact .nil
  | cons a as ih =>
    rw [List.mapM_cons] at h
    obtain ⟨b, hb, h⟩ := bind_eq_ok.1 h
    obtain ⟨rest, hr, h⟩ := bind_eq_ok.1 h
    obtain rfl := pure_eq_ok.1 h
    exact .cons hb (ih hr)

theorem mapM_isOk_iff {ε α β : Type} {f : α → Except ε β} {as : List α} :
    (∃ bs, as.mapM f = .ok bs) ↔ ∀ a ∈ as, ∃ b, f a = .ok b := by
  induction as with
  | nil => exact ⟨fun _ a ha => absurd ha List.not_mem_nil, fun _ => ⟨[], rfl⟩⟩
  | cons a as ih =>
    rw [List.forall_mem_cons, ← ih, List.mapM_cons]
    constructor
    · rintro ⟨bs, h⟩
      obtain ⟨b, hb, h⟩ := bind_eq_ok.1 h
      obtain ⟨rest, hr, _⟩ := bind_eq_ok.1 h
      exact ⟨⟨b, hb⟩, rest, hr⟩
    · rintro ⟨⟨b, hb⟩, rest, hr⟩
      refine ⟨b :: rest, ?_⟩
      rw [hb, ok_bind, hr]
      rfl

theorem forall_mem_of_forall₂ {α : Type} {P : α → Prop} {as bs : List α}
    (h : List.Forall₂ (fun a b => P a → P b) as bs) (ha : ∀ a ∈ as, P a) : ∀ b ∈ bs, P b := by
  induction h with
  | nil => exact ha
  | cons hab _ ih =>
    rw [List.forall_mem_cons] at ha ⊢
    exact ⟨hab ha.1, ih ha.2⟩

namespace Expr

/-- A relation that holds between nodes as soon as it holds between their parts. -/
structure Congruent (R : Expr → Expr → Prop) : Prop where
  refl : ∀ e, R e e
  trans : ∀ {a b c}, R a b → R b c → R a c
  member : ∀ {s t} name kind, R s t → R (member s name kind) (member t name kind)
  call : ∀ {s t as bs} method, R s t → List.Forall₂ R as bs → R (call s method as) (call t method bs)
  invoke : ∀ {as bs} method, List.Forall₂ R as bs → R (invoke method as) (invoke method bs)
  unary : ∀ {a b} op, R a b → R (unary op a) (unary op b)
  binary : ∀ {a b c d} op, R a c → R b d → R (binary op a b) (binary op c d)
  conditional : ∀ {a b c x y z}, R a x → R b y → R c z → R (conditional a b c) (conditional x y z)
  convert : ∀ {a b} kind, R a b → R (convert a kind) (convert b kind)
  boosted : ∀ {a b} boost, R a b → R (boosted a boost) (boosted b boost)

section Walk

variable {ε : Type} {f : Expr → Except ε Expr}

mutual

theorem Congruent.mapUpM {R : Expr → Expr → Prop} (h : Congruent R) (hf : ∀ e e', f e = .ok e' → R e e') :
    (e e' : Expr) → e.mapUpM f = .ok e' → R e e'
  | .member target name kind, e', he => by
    obtain ⟨t, ht, hn⟩ := bind_eq_ok.1 he
    exact h.trans (h.member name kind (h.mapUpM hf target t ht)) (hf _ _ hn)
  | .call target method args, e', he => by
    obtain ⟨t, ht, hr⟩ := bind_eq_ok.1 he
    obtain ⟨as, ha, hn⟩ := bind_eq_ok.1 hr
    exact h.trans (h.call method (h.mapUpM hf target t ht) (h.mapAllM hf args as ha)) (hf _ _ hn)
  | .invoke method args, e', he => by
    obtain ⟨as, ha, hn⟩ := bind_eq_ok.1 he
    exact h.trans (h.invoke method (h.mapAllM hf args as ha)) (hf _ _ hn)
  | .unary op operand, e', he => by
    obtain ⟨a, ha, hn⟩ := bind_eq_ok.1 he
    exact h.trans (h.unary op (h.mapUpM hf operand a ha)) (hf _ _ hn)
  | .binary op left right, e', he => by
    obtain ⟨l, hl, hr⟩ := bind_eq_ok.1 he
    obtain ⟨r, hr, hn⟩ := bind_eq_ok.1 hr
    exact h.trans (h.binary op (h.mapUpM hf left l hl) (h.mapUpM hf right r hr)) (hf _ _ hn)
  | .conditional test ifTrue ifFalse, e', he => by
    obtain ⟨t, ht, hr⟩ := bind_eq_ok.1 he
    obtain ⟨a, ha, hr⟩ := bind_eq_ok.1 hr
    obtain ⟨b, hb, hn⟩ := bind_eq_ok.1 hr
    exact h.trans (h.conditional (h.mapUpM hf test t ht) (h.mapUpM hf ifTrue a ha)
      (h.mapUpM hf ifFalse b hb)) (hf _ _ hn)
  | .convert operand kind, e', he => by
    obtain ⟨a, ha, hn⟩ := bind_eq_ok.1 he
    exact h.trans (h.convert kind (h.mapUpM hf operand a ha)) (hf _ _ hn)
  | .boosted target boost, e', he => by
    obtain ⟨t, ht, hn⟩ := bind_eq_ok.1 he
    exact h.trans (h.boosted boost (h.mapUpM hf target t ht)) (hf _ _ hn)
  | .constant _, _, he | .captured _, _, he | .source _, _, he | .field _, _, he
  | .predicate _, _, he | .interval _, _, he | .relevance, _, he | .anyField, _, he => hf _ _ he

theorem Congruent.mapAllM {R : Expr → Expr → Prop} (h : Congruent R)
    (hf : ∀ e e', f e = .ok e' → R e e') :
    (es es' : List Expr) → mapAllM f es = .ok es' → List.Forall₂ R es es'
  | [], es', he => by
    obtain rfl := pure_eq_ok.1 he
    exact .nil
  | e :: es, es', he => by
    obtain ⟨a, ha, hr⟩ := bind_eq_ok.1 he
    obtain ⟨as, has, hr⟩ := bind_eq_ok.1 hr
    obtain rfl := pure_eq_ok.1 hr
    exact .cons (h.mapUpM hf e a ha) (h.mapAllM hf es as has)

end

mutual

theorem mapUpM_fixed : (e : Expr) → (∀ n ∈ e.postorder, f n = .ok n) → e.mapUpM f = .ok e
  | .member target name kind, h => by
    rw [mapUpM, mapUpM_fixed target fun n hn => h n (by simp [postorder, hn])]
    exact h _ (by simp [postorder])
  | .call target method args, h => by
    rw [mapUpM, mapUpM_fixed target fun n hn => h n (by simp [postorder, hn]),
      mapAllM_fixed args fun n hn => h n (by simp [postorder, hn])]
    exact h _ (by simp [postorder])
  | .invoke method args, h => by
    rw [mapUpM, mapAllM_fixed args fun n hn => h n (by simp [postorder, hn])]
    exact h _ (by simp [postorder])
  | .unary op operand, h => by
    rw [mapUpM, mapUpM_fixed operand fun n hn => h n (by simp [postorder, hn])]
    exact h _ (by simp [postorder])
  | .binary op left right, h => by
    rw [mapUpM, mapUpM_fixed left fun n hn => h n (by simp [postorder, hn]),
      mapUpM_fixed right fun n hn => h n (by simp [postorder, hn])]
    exact h _ (by simp [postorder])
  | .conditional test ifTrue ifFalse, h => by
    rw [mapUpM, mapUpM_fixed test fun n hn => h n (by simp [postorder, hn]),
      mapUpM_fixed ifTrue fun n hn => h n (by simp [postorder, hn]),
      mapUpM_fixed ifFalse fun n hn => h n (by simp [postorder, hn])]
    exact h _ (by simp [postorder])
  | .convert operand kind, h => by
    rw [mapUpM, mapUpM_fixed operand fun n hn => h n (by simp [postorder, hn])]
    exact h _ (by simp [postorder])
  | .boosted target boost, h => by
    rw [mapUpM, mapUpM_fixed target fun n hn => h n (by simp [postorder, hn])]
    exact h _ (by simp [postorder])
  | .constant _, h | .captured _, h | .source _, h | .field _, h
  | .predicate _, h | .interval _, h | .relevance, h | .anyField, h => h _ (by simp [postorder])

theorem mapAllM_fixed : (es : List Expr) → (∀ n ∈ postorderAll es, f n = .ok n) → mapAllM f es = .ok es
  | [], _ => rfl
  | e :: es, h => by
    rw [mapAllM, mapUpM_fixed e fun n hn => h n (by simp [postorderAll, hn]),
      mapAllM_fixed es fun n hn => h n (by simp [postorderAll, hn])]
    rfl

end

mutual

theorem mapUpM_error {x : ε} : (e : Expr) → e.mapUpM f = .error x → ∃ n, f n = .error x
  | .member target name kind, he => by
    rcases bind_eq_error.1 he with h | ⟨t, _, h⟩
    · exact mapUpM_error target h
    · exact ⟨_, h⟩
  | .call target method args, he => by
    rcases bind_eq_error.1 he with h | ⟨t, _, h⟩
    · exact mapUpM_error target h
    · rcases bind_eq_error.1 h with h | ⟨as, _, h⟩
      · exact mapAllM_error args h
      · exact ⟨_, h⟩
  | .invoke method args, he => by
    rcases bind_eq_error.1 he with h | ⟨as, _, h⟩
    · exact mapAllM_error args h
    · exact ⟨_, h⟩
  | .unary op operand, he => by
    rcases bind_eq_error.1 he with h | ⟨a, _, h⟩
    · exact mapUpM_error operand h
    · exact ⟨_, h⟩
  | .binary op left right, he => by
    rcases bind_eq_error.1 he with h | ⟨l, _, h⟩
    · exact mapUpM_error left h
    · rcases bind_eq_error.1 h with h | ⟨r, _, h⟩
      · exact mapUpM_error right h
      · exact ⟨_, h⟩
  | .conditional test ifTrue ifFalse, he => by
    rcases bind_eq_error.1 he with h | ⟨t, _, h⟩
    · exact mapUpM_error test h
    · rcases bind_eq_error.1 h with h | ⟨a, _, h⟩
      · exact mapUpM_error ifTrue h
      · rcases bind_eq_error.1 h with h | ⟨b, _, h⟩
        · exact mapUpM_error ifFalse h
        · exact ⟨_, h⟩
  | .convert operand kind, he => by
    rcases bind_eq_error.1 he with h | ⟨a, _, h⟩
    · exact mapUpM_error operand h
    · exact ⟨_, h⟩
  | .boosted target boost, he => by
    rcases bind_eq_error.1 he with h | ⟨t, _, h⟩
    · exact mapUpM_error target h
    · exact ⟨_, h⟩
  | .constant _, he | .captured _, he | .source _, he | .field _, he
  | .predicate _, he | .interval _, he | .relevance, he | .anyField, he => ⟨_, he⟩

theorem mapAllM_error {x : ε} : (es : List Expr) → mapAllM f es = .error x → ∃ n, f n = .error x
  | e :: es, he => by
    rcases bind_eq_error.1 he with h | ⟨a, _, h⟩
    · exact mapUpM_error e h
    · rcases bind_eq_error.1 h with h | ⟨as, _, h⟩
      · exact mapAllM_error es h
      · simp [pure, Except.pure] at h

end

end Walk

section Pure

variable {ε : Type} (g : Expr → Expr)

mutual

/-- A step that cannot fail makes a walk that cannot fail. -/
theorem mapUpM_ok : (e : Expr) → e.mapUpM (fun n => (.ok (g n) : Except ε Expr)) = .ok (e.mapUp g)
  | .member target name kind => by
    rw [mapUpM, mapUpM_ok target]
    rfl
  | .call target method args => by
    rw [mapUpM, mapUpM_ok target, mapAllM_ok args]
    rfl
  | .invoke method args => by
    rw [mapUpM, mapAllM_ok args]
    rfl
  | .unary op operand => by
    rw [mapUpM, mapUpM_ok operand]
    rfl
  | .binary op left right => by
    rw [mapUpM, mapUpM_ok left, mapUpM_ok right]
    rfl
  | .conditional test ifTrue ifFalse => by
    rw [mapUpM, mapUpM_ok test, mapUpM_ok ifTrue, mapUpM_ok ifFalse]
    rfl
  | .convert operand kind => by
    rw [mapUpM, mapUpM_ok operand]
    rfl
  | .boosted target boost => by
    rw [mapUpM, mapUpM_ok target]
    rfl
  | .constant _ | .captured _ | .source _ | .field _ | .predicate _ | .interval _ | .relevance | .anyField => rfl

theorem mapAllM_ok : (es : List Expr) → mapAllM (fun n => (.ok (g n) : Except ε Expr)) es =
    .ok (Id.run (mapAllM (fun n => pure (g n)) es))
  | [] => rfl
  | e :: es => by
    rw [mapAllM, mapUpM_ok e, mapAllM_ok es]
    rfl

end

theorem mapUp_unary (op : UnaryOp) (operand : Expr) :
    (unary op operand).mapUp g = g (unary op (operand.mapUp g)) := rfl

theorem mapUp_binary (op : BinaryOp) (left right : Expr) :
    (binary op left right).mapUp g = g (binary op (left.mapUp g) (right.mapUp g)) := rfl

theorem mapUp_fixed {e : Expr} (h : ∀ n ∈ e.postorder, g n = n) : e.mapUp g = e := by
  have hm : e.mapUpM (fun n => (.ok (g n) : Except Unit Expr)) = .ok e :=
    mapUpM_fixed e fun n hn => by rw [h n hn]
  rw [mapUpM_ok] at hm
  exact Except.ok.inj hm

end Pure

theorem postorderAll_eq (es : List Expr) : postorderAll es = es.flatMap postorder := by
  induction es with
  | nil => rfl
  | cons e es ih => rw [postorderAll, ih, List.flatMap_cons]

/-- The nodes of the parts come before the node itself. -/
theorem postorder_eq (e : Expr) : e.postorder = e.children.flatMap postorder ++ [e] := by
  cases e <;> simp [postorder, children, postorderAll_eq]

theorem mem_postorder {e n : Expr} : n ∈ e.postorder ↔ (∃ part ∈ e.children, n ∈ part.postorder) ∨ n = e := by
  rw [postorder_eq, List.mem_append, List.mem_flatMap, List.mem_singleton]

/-- What holds of a node as soon as it holds of its parts holds of every tree. -/
theorem childrenInduction {P : Expr → Prop} (h : ∀ e, (∀ part ∈ e.children, P part) → P e) (e : Expr) : P e := by
  induction hk : e.postorder.length using Nat.strongRecOn generalizing e with
  | ind k ih =>
    subst hk
    refine h e fun part hpart => ih _ ?_ part rfl
    have hsub : part.postorder.Sublist (e.children.flatMap postorder) :=
      List.sublist_flatten_of_mem (List.mem_map_of_mem hpart)
    have hlength := hsub.length_le
    rw [postorder_eq e, List.length_append, List.length_singleton]
    omega

theorem postorder_subset {e n : Expr} (hn : n ∈ e.postorder) : n.postorder ⊆ e.postorder := by
  induction e using childrenInduction with
  | h e ih =>
    rcases mem_postorder.1 hn with ⟨part, hpart, hn⟩ | rfl
    · intro x hx
      exact mem_postorder.2 (.inl ⟨part, hpart, ih part hpart hn hx⟩)
    · exact List.Subset.refl _

section Parts

variable (g : Expr → Expr)

def mapParts : Expr → Expr
  | member target name kind => member (target.mapUp g) name kind
  | call target method args => call (target.mapUp g) method (args.map (mapUp g))
  | invoke method args => invoke method (args.map (mapUp g))
  | unary op operand => unary op (operand.mapUp g)
  | binary op left right => binary op (left.mapUp g) (right.mapUp g)
  | conditional test ifTrue ifFalse => conditional (test.mapUp g) (ifTrue.mapUp g) (ifFalse.mapUp g)
  | convert operand kind => convert (operand.mapUp g) kind
  | boosted target boost => boosted (target.mapUp g) boost
  | leaf => leaf

theorem mapAllM_eq_map (es : List Expr) : Id.run (mapAllM (fun n => pure (g n)) es) = es.map (mapUp g) := by
  induction es with
  | nil => rfl
  | cons e es ih =>
    rw [List.map_cons, ← ih]
    rfl

/-- A walk maps the parts and then the node. -/
theorem mapUp_eq (e : Expr) : e.mapUp g = g (e.mapParts g) := by
  cases e with
  | call target method args =>
    rw [mapParts, ← mapAllM_eq_map]
    rfl
  | invoke method args =>
    rw [mapParts, ← mapAllM_eq_map]
    rfl
  | _ => rfl

variable {R : Expr → Expr → Prop} {g}

theorem Congruent.mapParts (h : Congruent R) {e : Expr} (hparts : ∀ part ∈ e.children, R part (part.mapUp g)) :
    R e (e.mapParts g) := by
  have hargs : ∀ args : List Expr, (∀ arg ∈ args, R arg (arg.mapUp g)) →
      List.Forall₂ R args (args.map (Expr.mapUp g)) := by
    intro args ha
    rw [List.forall₂_map_right_iff, List.forall₂_same]
    exact ha
  cases e with
  | member target name kind => exact h.member name kind (hparts _ (by simp [children]))
  | call target method args =>
    exact h.call method (hparts _ (by simp [children])) (hargs args fun arg ha => hparts _ (by simp [children, ha]))
  | invoke method args => exact h.invoke method (hargs args fun arg ha => hparts _ (by simp [children, ha]))
  | unary op operand => exact h.unary op (hparts _ (by simp [children]))
  | binary op left right => exact h.binary op (hparts _ (by simp [children])) (hparts _ (by simp [children]))
  | conditional test ifTrue ifFalse =>
    exact h.conditional (hparts _ (by simp [children])) (hparts _ (by simp [children]))
      (hparts _ (by simp [children]))
  | convert operand kind => exact h.convert kind (hparts _ (by simp [children]))
  | boosted target boost => exact h.boosted boost (hparts _ (by simp [children]))
  | _ => exact h.refl _

/-- A step that keeps to the relation on the nodes that it meets, each with its parts mapped, makes a walk that does. -/
theorem Congruent.mapUp_visited (h : Congruent R) {e : Expr}
    (hg : ∀ n ∈ e.postorder, R (n.mapParts g) (g (n.mapParts g))) : R e (e.mapUp g) := by
  induction e using childrenInduction with
  | h e ih =>
    rw [mapUp_eq]
    refine h.trans (h.mapParts fun part hpart => ih part hpart fun n hn => ?_) (hg e (mem_postorder.2 (.inr rfl)))
    exact hg n (mem_postorder.2 (.inl ⟨part, hpart, hn⟩))

variable (g) in
theorem Congruent.mapUp (h : Congruent R) (hg : ∀ e, R e (g e)) (e : Expr) : R e (e.mapUp g) :=
  h.mapUp_visited fun _ _ => hg _

end Parts

section Search

variable (test : Expr → Bool)

mutual

/-- A search looks at every node. -/
theorem any_eq : (e : Expr) → e.any test = e.postorder.any test
  | .member target name kind => by simp [any, postorder, any_eq target, Bool.or_comm]
  | .call target method args => by
    simp [any, postorder, any_eq target, anyOf_eq args, Bool.or_assoc, Bool.or_comm, Bool.or_left_comm]
  | .invoke method args => by simp [any, postorder, anyOf_eq args, Bool.or_comm]
  | .unary op operand => by simp [any, postorder, any_eq operand, Bool.or_comm]
  | .binary op left right => by
    simp [any, postorder, any_eq left, any_eq right, Bool.or_assoc, Bool.or_comm, Bool.or_left_comm]
  | .conditional t a b => by
    simp [any, postorder, any_eq t, any_eq a, any_eq b, Bool.or_assoc, Bool.or_comm, Bool.or_left_comm]
  | .convert operand kind => by simp [any, postorder, any_eq operand, Bool.or_comm]
  | .boosted target boost => by simp [any, postorder, any_eq target, Bool.or_comm]
  | .constant _ | .captured _ | .source _ | .field _ | .predicate _ | .interval _ | .relevance | .anyField => by
    simp [any, postorder]

theorem anyOf_eq : (es : List Expr) → anyOf test es = (postorderAll es).any test
  | [] => rfl
  | e :: es => by rw [anyOf, postorderAll, List.any_append, any_eq e, anyOf_eq es]

end

theorem any_eq_false {e : Expr} : e.any test = false ↔ ∀ n ∈ e.postorder, test n = false := by
  simp [any_eq]

end Search

end Expr

end IndexQuery
