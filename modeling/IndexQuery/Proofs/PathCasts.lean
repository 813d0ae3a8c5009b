import IndexQuery.Proofs.Settling

set_option autoImplicit false

/-!
Conversions around paths.

A path is a chain of members that starts at the document. `Recast inner e e'` says that `e'` is `e` with conversions to
the kind `other` around some paths; `inner` allows them inside longer paths, too. Conversions of whole paths make no
difference (`lower_recast`): in the first round the paths become fields, and the conversions around fields are dropped
before any pass looks at what a field is part of, so that from there on the trees are equal. A conversion inside a path
keeps the path from becoming a field until the next round, and what is around it may not wait (`inner_cast_refused`).
-/

namespace IndexQuery

/-- Both computations succeed, with related results, or both fail, perhaps with different errors. -/
inductive Together {α β : Type} (R : α → β → Prop) : Except Error α → Except Error β → Prop where
  | ok {a : α} {b : β} (h : R a b) : Together R (.ok a) (.ok b)
  | error (fault fault' : Error) : Together R (.error fault) (.error fault')

namespace Together

variable {α β γ δ : Type} {R : α → β → Prop} {S : γ → δ → Prop} {x : Except Error α} {y : Except Error β}

theorem of_result {R : α → α → Prop} {x : Except Error α} (h : ∀ a, x = .ok a → R a a) : Together R x x := by
  cases x with
  | ok a => exact .ok (h a rfl)
  | error fault => exact .error fault fault

theorem refl (x : Except Error α) : Together Eq x x := of_result fun _ _ => rfl

theorem bind {f : α → Except Error γ} {g : β → Except Error δ} (h : Together R x y)
    (hf : ∀ {a b}, R a b → Together S (f a) (g b)) : Together S (x >>= f) (y >>= g) := by
  cases h with
  | ok h => exact hf h
  | error fault fault' => exact .error fault fault'

theorem bind_eq {x y : Except Error α} (h : Together Eq x y) (f : α → Except Error γ) :
    Together Eq (x >>= f) (y >>= f) := by
  refine h.bind ?_
  rintro a _ rfl
  exact refl (f a)

/-- Computations that go on alike for either truth value. -/
theorem branch {x y : Except Error Value} {f g : Bool → Except Error γ} (h : Together Eq x y)
    (hf : ∀ b, Together Eq (f b) (g b)) :
    Together Eq (x >>= fun v => v.expectBool >>= f) (y >>= fun v => v.expectBool >>= g) := by
  refine h.bind ?_
  rintro v _ rfl
  refine (refl v.expectBool).bind ?_
  rintro b _ rfl
  exact hf b

theorem eq_ok_iff {x y : Except Error α} (h : Together Eq x y) (a : α) : x = .ok a ↔ y = .ok a := by
  cases h with
  | ok h => rw [h]
  | error fault fault' => simp

end Together

namespace Expr

def isPath : Expr → Bool
  | member (source _) _ _ => true
  | member target _ _ => isPath target
  | _ => false

/-- The second tree is the first with conversions around some paths. Where a member is taken of a path, this path may be
converted only if `inner` holds. -/
inductive Recast (inner : Prop) : Expr → Expr → Prop where
  | refl (e : Expr) : Recast inner e e
  | path {p q : Expr} (hp : p.isPath = true) (h : Recast inner p q) : Recast inner p (convert q .other)
  | member {s t : Expr} (name : String) (kind : ScalarKind) (hs : inner ∨ s.isPath = false) (h : Recast inner s t) :
    Recast inner (member s name kind) (member t name kind)
  | call {s t : Expr} {as bs : List Expr} (method : Method) (h : Recast inner s t)
    (hs : List.Forall₂ (Recast inner) as bs) : Recast inner (call s method as) (call t method bs)
  | invoke {as bs : List Expr} (method : Method) (hs : List.Forall₂ (Recast inner) as bs) :
    Recast inner (invoke method as) (invoke method bs)
  | unary {a b : Expr} (op : UnaryOp) (h : Recast inner a b) : Recast inner (unary op a) (unary op b)
  | binary {a b c d : Expr} (op : BinaryOp) (hl : Recast inner a c) (hr : Recast inner b d) :
    Recast inner (binary op a b) (binary op c d)
  | conditional {a b c x y z : Expr} (ha : Recast inner a x) (hb : Recast inner b y) (hc : Recast inner c z) :
    Recast inner (conditional a b c) (conditional x y z)
  | convert {a b : Expr} (kind : ScalarKind) (h : Recast inner a b) : Recast inner (convert a kind) (convert b kind)
  | boosted {a b : Expr} (boost : Number.Binary32) (h : Recast inner a b) :
    Recast inner (boosted a boost) (boosted b boost)

/-- What becomes of recast trees once members are resolved: conversions around fields. -/
inductive Wrapped : Expr → Expr → Prop where
  | refl (e : Expr) : Wrapped e e
  | field {ref : FieldRef} {e : Expr} (h : Wrapped (field ref) e) : Wrapped (field ref) (convert e .other)
  | member {s t : Expr} (name : String) (kind : ScalarKind) (h : Wrapped s t) :
    Wrapped (member s name kind) (member t name kind)
  | call {s t : Expr} {as bs : List Expr} (method : Method) (h : Wrapped s t)
    (hs : List.Forall₂ Wrapped as bs) : Wrapped (call s method as) (call t method bs)
  | invoke {as bs : List Expr} (method : Method) (hs : List.Forall₂ Wrapped as bs) :
    Wrapped (invoke method as) (invoke method bs)
  | unary {a b : Expr} (op : UnaryOp) (h : Wrapped a b) : Wrapped (unary op a) (unary op b)
  | binary {a b c d : Expr} (op : BinaryOp) (hl : Wrapped a c) (hr : Wrapped b d) :
    Wrapped (binary op a b) (binary op c d)
  | conditional {a b c x y z : Expr} (ha : Wrapped a x) (hb : Wrapped b y) (hc : Wrapped c z) :
    Wrapped (conditional a b c) (conditional x y z)
  | convert {a b : Expr} (kind : ScalarKind) (h : Wrapped a b) : Wrapped (convert a kind) (convert b kind)
  | boosted {a b : Expr} (boost : Number.Binary32) (h : Wrapped a b) : Wrapped (boosted a boost) (boosted b boost)

namespace Wrapped

open IndexQuery.Lowering

/-- Conversions around fields do not change which closed parts have values, nor which. -/
theorem evaluate : {e e' : Expr} → Wrapped e e' → Together Eq e.evaluate e'.evaluate
  | _, _, .refl _ => .refl _
  -- a field has no value, nor has its conversion: the failure goes through
  | _, _, .field h => (evaluate h).bind_eq fun v => v.convert .other
  | _, _, .unary op h => (evaluate h).bind_eq _
  | _, _, .convert kind h => (evaluate h).bind_eq _
  | _, _, .binary op hl hr => by
    have hl := evaluate hl
    have hr := evaluate hr
    cases op with
    | and =>
      refine hl.branch fun b => ?_
      cases b with
      | true => exact hr.bind_eq _
      | false => exact .ok rfl
    | or =>
      refine hl.branch fun b => ?_
      cases b with
      | true => exact .ok rfl
      | false => exact hr.bind_eq _
    | coalesce =>
      refine hl.bind ?_
      rintro v _ rfl
      split
      · exact hr
      · exact .ok rfl
    | _ =>
      refine hl.bind ?_
      rintro v _ rfl
      exact hr.bind_eq _
  | _, _, .conditional ha hb hc => by
    refine (evaluate ha).branch fun b => ?_
    cases b with
    | true => exact evaluate hb
    | false => exact evaluate hc
  | _, _, .call method h hs => by
    cases hs with
    | nil =>
      cases method with
      | toLowercase | toUppercase => exact (evaluate h).bind_eq _
      | _ => exact .error _ _
    | cons => cases method <;> exact .error _ _
  | _, _, .member _ _ _ => .error _ _
  | _, _, .invoke _ _ => .error _ _
  | _, _, .boosted _ _ => .error _ _

/-! ### Markers and redundancies -/

theorem markerNode_call {s t : Expr} {as bs : List Expr} (method : Method) (h : Wrapped s t)
    (hs : List.Forall₂ Wrapped as bs) : Wrapped (markerNode (.call s method as)) (markerNode (.call t method bs)) := by
  have hm := Wrapped.call method h hs
  cases hs with
  | nil =>
    cases h with
    | refl s => exact .refl _
    | _ => exact hm
  | cons =>
    cases h with
    | refl s => cases s <;> exact hm
    | _ => exact hm

theorem markerNode_invoke {as bs : List Expr} (method : Method) (hs : List.Forall₂ Wrapped as bs) :
    Wrapped (markerNode (.invoke method as)) (markerNode (.invoke method bs)) := by
  have hm := Wrapped.invoke method hs
  cases hs with
  | nil => exact hm
  | @cons a _ _ _ h hs =>
    cases hs with
    | nil =>
      cases h with
      | refl => exact .refl _
      | _ => exact hm
    | cons =>
      cases h with
      | refl => cases a <;> exact hm
      | _ => exact hm

mutual

theorem markers : {e e' : Expr} → Wrapped e e' → Wrapped (e.mapUp markerNode) (e'.mapUp markerNode)
  | _, _, .refl _ => .refl _
  | _, _, .field h => .field (markers h)
  | _, _, .member name kind h => .member name kind (markers h)
  | _, _, .call method h hs => markerNode_call method (markers h) (markersAll hs)
  | _, _, .invoke method hs => markerNode_invoke method (markersAll hs)
  | _, _, .unary op h => .unary op (markers h)
  | _, _, .binary op hl hr => .binary op (markers hl) (markers hr)
  | _, _, .conditional ha hb hc => .conditional (markers ha) (markers hb) (markers hc)
  | _, _, .convert kind h => .convert kind (markers h)
  | _, _, .boosted boost h => .boosted boost (markers h)

theorem markersAll : {as bs : List Expr} → List.Forall₂ Wrapped as bs →
    List.Forall₂ Wrapped (Id.run (mapAllM (fun node => pure (markerNode node)) as))
      (Id.run (mapAllM (fun node => pure (markerNode node)) bs))
  | _, _, .nil => .nil
  | _, _, .cons h hs => .cons (markers h) (markersAll hs)

end

mutual

/-- Removing redundancies removes the conversions around fields. -/
theorem redundancies : {e e' : Expr} → Wrapped e e' → e'.mapUp redundantNode = e.mapUp redundantNode
  | _, _, .refl _ => rfl
  | _, _, .field h => congrArg (fun a => redundantNode (.convert a .other)) (redundancies h)
  | _, _, .member name kind h => congrArg (fun a => redundantNode (.member a name kind)) (redundancies h)
  | _, _, .call method h hs =>
    congrArg₂ (fun a as => redundantNode (.call a method as)) (redundancies h) (redundanciesAll hs)
  | _, _, .invoke method hs => congrArg (fun as => redundantNode (.invoke method as)) (redundanciesAll hs)
  | _, _, .unary op h => congrArg (fun a => redundantNode (.unary op a)) (redundancies h)
  | _, _, .binary op hl hr =>
    congrArg₂ (fun a b => redundantNode (.binary op a b)) (redundancies hl) (redundancies hr)
  | _, _, .conditional ha hb hc => by
    have hab := congrArg₂ (fun a b c => redundantNode (.conditional a b c)) (redundancies ha) (redundancies hb)
    have h := congr hab (redundancies hc)
    exact h
  | _, _, .convert kind h => congrArg (fun a => redundantNode (.convert a kind)) (redundancies h)
  | _, _, .boosted boost h => congrArg (fun a => redundantNode (.boosted a boost)) (redundancies h)

theorem redundanciesAll : {as bs : List Expr} → List.Forall₂ Wrapped as bs →
    Id.run (mapAllM (fun node => pure (redundantNode node)) bs) =
      Id.run (mapAllM (fun node => pure (redundantNode node)) as)
  | _, _, .nil => rfl
  | _, _, .cons h hs => congrArg₂ List.cons (redundancies h) (redundanciesAll hs)

end

end Wrapped

end Expr

namespace Lowering

open IndexQuery.Expr

/-! ### Members -/

/-- A path resolves to a field. -/
theorem members_path {p : Expr} (hp : p.isPath = true) : ∃ ref, p.mapUpM memberNode = .ok (field ref) := by
  induction p using isPath.induct with
  | case1 document name kind => exact ⟨_, rfl⟩
  | case2 target name kind hs ih =>
    have htarget : target.isPath = true := by
      cases target with
      | source document => exact (hs document rfl).elim
      | _ => exact hp
    obtain ⟨ref, href⟩ := ih htarget
    refine ⟨.ofName (ref.name ++ "." ++ name) kind, ?_⟩
    rw [Expr.mapUpM, href]
    rfl
  | case3 => simp [isPath] at hp

theorem memberNode_member {target m : Expr} {name : String} {kind : ScalarKind}
    (h : memberNode (member target name kind) = .ok m) : m = member target name kind ∨ ∃ ref, m = field ref := by
  unfold memberNode at h
  split at h
  · exact .inr ⟨_, (Except.ok.inj h).symm⟩
  · exact .inr ⟨_, (Except.ok.inj h).symm⟩
  · exact .inr (namedField_field h)
  · exact .inl (Except.ok.inj h).symm

theorem namedField_wrapped {as bs : List Expr} (h : List.Forall₂ Wrapped as bs) :
    Together Eq (namedField as) (namedField bs) := by
  cases h with
  | nil => exact .error _ _
  | cons h hs =>
    cases hs with
    | nil =>
      refine h.evaluate.bind ?_
      rintro v _ rfl
      exact .refl _
    | cons => exact .error _ _

structure Resolved (e e' m m' : Expr) : Prop where
  wrapped : Wrapped m m'
  /-- Only paths turn into conversions. -/
  bare : e.isPath = false → ∀ ref, m = field ref → m' = field ref
  /-- Only trees without casts can stay as they are. -/
  unchanged : m = e ∨ m' = e' → e' = e

theorem Resolved.refl (e m : Expr) : Resolved e e m m := ⟨.refl m, fun _ _ h => h, fun _ => rfl⟩

theorem Resolved.field {e e' : Expr} (ref : FieldRef) (he : Expr.field ref ≠ e) (he' : Expr.field ref ≠ e') :
    Resolved e e' (.field ref) (.field ref) :=
  ⟨.refl _, fun _ _ h => h, fun h => (h.elim he he').elim⟩

structure ResolvedAll (es es' ms ms' : List Expr) : Prop where
  wrapped : List.Forall₂ Wrapped ms ms'
  unchanged : ms = es ∨ ms' = es' → es' = es

section

variable {s t ms mt : Expr} {as bs mas mbs : List Expr}

theorem memberNode_recast (name : String) (kind : ScalarKind) (hs : s.isPath = false) (h : Resolved s t ms mt) :
    Together (Resolved (member s name kind) (member t name kind)) (memberNode (member ms name kind))
      (memberNode (member mt name kind)) := by
  have hinert : Resolved (member s name kind) (member t name kind) (member ms name kind) (member mt name kind) := by
    refine ⟨.member name kind h.wrapped, fun _ _ => nofun, ?_⟩
    rintro (heq | heq) <;> cases heq <;> simp [h.unchanged]
  cases hw : h.wrapped with
  | refl =>
    refine .of_result fun m hm => ?_
    rcases memberNode_member hm with rfl | ⟨ref, rfl⟩
    · exact hinert
    · exact .field ref nofun nofun
  | field hf => cases h.bare hs _ rfl
  | _ => exact .ok hinert

theorem memberNode_call_recast (method : Method) (h : Resolved s t ms mt) (hs : ResolvedAll as bs mas mbs) :
    Together (Resolved (call s method as) (call t method bs)) (memberNode (call ms method mas))
      (memberNode (call mt method mbs)) := by
  have hinert : Resolved (call s method as) (call t method bs) (call ms method mas) (call mt method mbs) := by
    refine ⟨.call method h.wrapped hs.wrapped, fun _ _ => nofun, ?_⟩
    rintro (heq | heq) <;> cases heq <;> simp [h.unchanged, hs.unchanged]
  cases hw : h.wrapped with
  | refl =>
    cases ms with
    | source document =>
      cases method with
      | getField =>
        have hn := namedField_wrapped hs.wrapped
        change Together _ (namedField mas) (namedField mbs)
        generalize hx : namedField mas = x, namedField mbs = y at hn ⊢
        cases hn with
        | error fault fault' => exact .error fault fault'
        | ok heq =>
          subst heq
          obtain ⟨ref, rfl⟩ := namedField_field hx
          exact .ok (.field ref nofun nofun)
      | _ => exact .ok hinert
    | _ => cases method <;> exact .ok hinert
  | _ => cases method <;> exact .ok hinert

end

mutual

/-- Resolving members in a tree and in the tree recast leaves trees that differ in conversions around fields, or fails
in both. -/
theorem members_recast : {e e' : Expr} → Recast False e e' →
    Together (Resolved e e') (e.mapUpM memberNode) (e'.mapUpM memberNode)
  | _, _, .refl e => .of_result fun m _ => .refl e m
  | _, _, @Recast.path _ p q hp h => by
    obtain ⟨ref, href⟩ := members_path hp
    have hq := members_recast h
    rw [href] at hq ⊢
    rw [Expr.mapUpM]
    generalize q.mapUpM memberNode = y at hq ⊢
    cases hq with
    | ok hq =>
      refine .ok ⟨.field hq.wrapped, fun hn => ?_, ?_⟩
      · rw [hp] at hn
        cases hn
      · rintro (rfl | heq)
        · cases hp
        · cases heq
          obtain rfl := hq.unchanged (.inr rfl)
          cases hq.wrapped <;> cases hp
  | _, _, .member name kind hs h =>
    (members_recast h).bind (memberNode_recast name kind (hs.resolve_left id))
  | _, _, .call method h hs =>
    (members_recast h).bind fun ht => (membersAll_recast hs).bind fun has => memberNode_call_recast method ht has
  | _, _, .invoke method hs => (membersAll_recast hs).bind fun has => .ok
      ⟨.invoke method has.wrapped, fun _ _ => nofun, by rintro (heq | heq) <;> cases heq <;> simp [has.unchanged]⟩
  | _, _, .unary op h => (members_recast h).bind fun ha => .ok
      ⟨.unary op ha.wrapped, fun _ _ => nofun, by rintro (heq | heq) <;> cases heq <;> simp [ha.unchanged]⟩
  | _, _, .binary op hl hr => (members_recast hl).bind fun ha => (members_recast hr).bind fun hb => .ok
      ⟨.binary op ha.wrapped hb.wrapped, fun _ _ => nofun, by
        rintro (heq | heq) <;> cases heq <;> simp [ha.unchanged, hb.unchanged]⟩
  | _, _, .conditional ha hb hc => (members_recast ha).bind fun ha => (members_recast hb).bind fun hb =>
      (members_recast hc).bind fun hc => .ok
      ⟨.conditional ha.wrapped hb.wrapped hc.wrapped, fun _ _ => nofun, by
        rintro (heq | heq) <;> cases heq <;> simp [ha.unchanged, hb.unchanged, hc.unchanged]⟩
  | _, _, .convert kind h => (members_recast h).bind fun ha => .ok
      ⟨.convert kind ha.wrapped, fun _ _ => nofun, by rintro (heq | heq) <;> cases heq <;> simp [ha.unchanged]⟩
  | _, _, .boosted boost h => (members_recast h).bind fun ha => .ok
      ⟨.boosted boost ha.wrapped, fun _ _ => nofun, by rintro (heq | heq) <;> cases heq <;> simp [ha.unchanged]⟩

theorem membersAll_recast : {as bs : List Expr} → List.Forall₂ (Recast False) as bs →
    Together (ResolvedAll as bs) (mapAllM memberNode as) (mapAllM memberNode bs)
  | _, _, .nil => .ok ⟨.nil, fun _ => rfl⟩
  | _, _, .cons h hs => (members_recast h).bind fun ha => (membersAll_recast hs).bind fun has => .ok
      ⟨.cons ha.wrapped has.wrapped, by rintro (heq | heq) <;> cases heq <;> simp [ha.unchanged, has.unchanged]⟩

end

/-! ### Rounds -/

section

variable {role : Role} {e e' : Expr} (h : Recast False e e')

include h

theorem round_recast (role : Role) : Together Eq (round role e) (round role e') := by
  rw [round_eq, round_eq]
  refine (members_recast h).bind fun hm => ?_
  rw [hm.wrapped.markers.redundancies]
  exact .refl _

/-- A tree with a path is not settled, recast or not. -/
theorem recast_settled (hr : round role e = .ok e ∨ round role e' = .ok e') : e' = e := by
  have hm := members_recast h
  rcases hr with hr | hr
  · rw [members_settled hr] at hm
    generalize e'.mapUpM memberNode = y at hm
    cases hm with
    | ok hm => exact hm.unchanged (.inl rfl)
  · rw [members_settled hr] at hm
    generalize e.mapUpM memberNode = x at hm
    cases hm with
    | ok hm => exact hm.unchanged (.inr rfl)

theorem settle?_recast (role : Role) (n : Nat) : Together Eq (settle? role n e) (settle? role n e') := by
  by_cases heq : e' = e
  · rw [heq]
    exact .refl _
  cases n with
  | zero => exact .refl _
  | succ n =>
    rw [settle?, settle?]
    have hround := round_recast h role
    generalize hn : round role e = x, hn' : round role e' = y at hround
    cases hround with
    | error fault fault' => exact .error fault fault'
    | @ok next _ hnext =>
      subst hnext
      -- neither tree is settled, so that both go on, with one tree from now on
      have hgo : ¬ next.same e = true := fun hs => heq (recast_settled h (.inl (round_same hn hs ▸ hn)))
      have hgo' : ¬ next.same e' = true := fun hs => heq (recast_settled h (.inr (round_same hn' hs ▸ hn')))
      rw [ok_bind, ok_bind, if_neg hgo, if_neg hgo']
      exact .refl _

/-- Conversions of whole paths are transparent: with the same limit on rounds, a tree and the tree recast lower to the
same, or neither lowers. -/
theorem lower_recast (settings : CompilerSettings) (role : Role) (r : Expr) :
    lower settings role e = .ok r ↔ lower settings role e' = .ok r :=
  ((settle?_recast h role settings.maxRounds).bind_eq _).eq_ok_iff r

end

def boostedName (name : Expr) : Expr :=
  call (binary .equal name (constant (.text "x"))) .boost [constant (.int 2)]

theorem lower_recast_boost :
    let name := member (member (source "doc") "author" .other) "name" .text
    let flag := member (source "doc") "open" .bool
    let plain := binary .and (boostedName name) (unary .not flag)
    let cast := binary .and (boostedName (convert name .other)) (unary .not (convert flag .other))
    Recast False plain cast ∧
      ∃ r, lower .standard .condition plain = .ok r ∧ lower .standard .condition cast = .ok r := by
  intro name flag plain cast
  have hr : Recast False plain cast :=
    .binary .and (.call .boost (.binary .equal (.path rfl (.refl _)) (.refl _)) (.cons (.refl _) .nil))
      (.unary .not (.path rfl (.refl _)))
  have h : lower .standard .condition plain = _ := lower_settled (k := 1) (by decide) rfl rfl
  rw [if_neg (by decide)] at h
  exact ⟨hr, _, h, (lower_recast hr .standard .condition _).1 h⟩

/-- Inside a path a conversion is not transparent: the boosted test lowers, but with a conversion around the author no
limit on rounds makes it lower. The name is resolved a round later than the author, and by then the boost has been
refused. -/
theorem inner_cast_refused :
    let author := member (source "doc") "author" .other
    let plain := boostedName (member author "name" .text)
    let cast := boostedName (member (convert author .other) "name" .text)
    Recast True plain cast ∧ (∃ r, lower .standard .condition plain = .ok r) ∧
      ∀ settings r, lower settings .condition cast ≠ .ok r := by
  intro author plain cast
  refine ⟨?_, ?_, fun settings r h => ?_⟩
  · exact .call .boost (.binary .equal (.member "name" .text (.inl trivial) (.path rfl (.refl _))) (.refl _))
      (.cons (.refl _) .nil)
  · have h : lower .standard .condition plain = _ := lower_settled (k := 1) (by decide) rfl rfl
    rw [if_neg (by decide)] at h
    exact ⟨_, h⟩
  · have hround : rounds .condition 1 cast = .error _ := rfl
    obtain ⟨o, ho, h⟩ := bind_eq_ok.1 h
    rcases Nat.eq_zero_or_pos settings.maxRounds with hz | hpos
    · rw [hz] at ho
      cases ho
      cases h
    · rw [settle?_failed hpos hround] at ho
      cases ho

end Lowering

end IndexQuery
