import IndexQuery.Proofs.Traversal

set_option autoImplicit false

/-!
The order in which a walk meets the nodes.

A step that leaves every node as it is may still have effects: it may take notes, or fail. Whatever they are, the walk
has the effects of looking at the nodes of the post-order listing one after another (`mapUpM_leaving`). So the walk ends
at the first node of the listing that fails, and has looked at no later one (`inspection_postorder`).
-/

namespace IndexQuery.Expr

section Leaving

variable {m : Type → Type} [Monad m] [LawfulMonad m] (look : Expr → m Unit)

def leaving (n : Expr) : m Expr := do
  look n
  return n

mutual

/-- A walk that leaves all nodes as they are looks at them in post-order. -/
theorem mapUpM_leaving : (e : Expr) → e.mapUpM (leaving look) = do forM e.postorder look; return e
  | .member target name kind => by
    simp [mapUpM, postorder, leaving, mapUpM_leaving target]
  | .call target method args => by
    simp [mapUpM, postorder, leaving, mapUpM_leaving target, mapAllM_leaving args]
  | .invoke method args => by
    simp [mapUpM, postorder, leaving, mapAllM_leaving args]
  | .unary op operand => by
    simp [mapUpM, postorder, leaving, mapUpM_leaving operand]
  | .binary op left right => by
    simp [mapUpM, postorder, leaving, mapUpM_leaving left, mapUpM_leaving right]
  | .conditional test ifTrue ifFalse => by
    simp [mapUpM, postorder, leaving, mapUpM_leaving test, mapUpM_leaving ifTrue, mapUpM_leaving ifFalse]
  | .convert operand kind => by
    simp [mapUpM, postorder, leaving, mapUpM_leaving operand]
  | .boosted target boost => by
    simp [mapUpM, postorder, leaving, mapUpM_leaving target]
  | .constant _ | .captured _ | .source _ | .field _ | .predicate _ | .interval _ | .relevance | .anyField => by
    simp [mapUpM, postorder, leaving]

theorem mapAllM_leaving : (es : List Expr) →
    mapAllM (leaving look) es = do forM (postorderAll es) look; return es
  | [] => by simp [mapAllM, postorderAll]
  | e :: es => by simp [mapAllM, postorderAll, mapUpM_leaving e, mapAllM_leaving es]

end

end Leaving

section Notes

variable {ε α β : Type}

/-- The result, and the nodes met so far with those met before. -/
def notes (action : ExceptT ε (StateM (List Expr)) α) (met : List Expr) : Except ε α × List Expr :=
  action.run.run met

theorem notes_bind (action : ExceptT ε (StateM (List Expr)) α) (next : α → ExceptT ε (StateM (List Expr)) β)
    (met : List Expr) : notes (action >>= next) met =
      match notes action met with
      | (.ok a, met) => notes (next a) met
      | (.error x, met) => (.error x, met) := by
  change ExceptT.bindCont next (notes action met).1 (notes action met).2 = _
  generalize notes action met = result
  obtain ⟨x | a, met⟩ := result <;> rfl

end Notes

section Inspection

variable {ε : Type} (check : List Expr → Expr → Except ε Unit)

/-- Notes that a node has been met, and fails if it does not pass the check, which may depend on the nodes met
before. -/
def inspect (n : Expr) : ExceptT ε (StateM (List Expr)) Unit := do
  let met ← get
  set (met ++ [n])
  liftExcept (check met n)

def inspection (e : Expr) : Except ε Expr × List Expr := notes (e.mapUpM (leaving (inspect check))) []

def AllPass (met : List Expr) : List Expr → Prop
  | [] => True
  | n :: rest => check met n = .ok () ∧ AllPass (met ++ [n]) rest

theorem notes_inspect (n : Expr) (met : List Expr) : notes (inspect check n) met = (check met n, met ++ [n]) := by
  change notes (liftExcept (check met n)) (met ++ [n]) = _
  cases check met n <;> rfl

theorem notes_inspectAll {before : List Expr} (rest : List Expr) {met : List Expr} (h : AllPass check met before) :
    notes (forM (before ++ rest) (inspect check)) met = notes (forM rest (inspect check)) (met ++ before) := by
  induction before generalizing met with
  | nil => rw [List.nil_append, List.append_nil]
  | cons n before ih =>
    have hrest := ih h.2
    rw [List.append_assoc, List.singleton_append] at hrest
    rw [List.cons_append, List.forM_cons, notes_bind, notes_inspect, h.1]
    exact hrest

theorem inspection_eq (e : Expr) : inspection check e =
    notes (do forM e.postorder (inspect check); return e) [] := by
  rw [inspection, mapUpM_leaving]

/-- The nodes are those of the parts, from left to right, and then the node itself; a walk that leaves them as they are
returns the tree, having met them all in this order; and if one fails, then the walk fails as the first does that fails,
and has met no later one. -/
theorem inspection_postorder (e : Expr) :
    e.postorder = e.children.flatMap postorder ++ [e] ∧
    e.mapUp id = e ∧
    (AllPass check [] e.postorder → inspection check e = (.ok e, e.postorder)) ∧
    ∀ before n after x, e.postorder = before ++ n :: after → AllPass check [] before → check before n = .error x →
      inspection check e = (.error x, before ++ [n]) := by
  refine ⟨postorder_eq e, mapUp_fixed id fun _ _ => rfl, fun h => ?_, fun before n after x hnodes hbefore hn => ?_⟩
  · have hall := notes_inspectAll check [] h
    rw [List.append_nil, List.nil_append] at hall
    rw [inspection_eq, notes_bind, hall]
    rfl
  · rw [inspection_eq, notes_bind, hnodes, notes_inspectAll check _ hbefore, List.forM_cons, notes_bind,
      notes_inspect, List.nil_append, hn]

def refuseNull (met : List Expr) : Expr → Except Nat Unit
  | constant .null => .error met.length
  | _ => .ok ()

theorem inspection_postorder_null :
    let sum := binary .add (constant (.int 1)) (captured ⟨"x", 0, .int 2⟩)
    let guard := conditional sum (constant .null) (source "doc")
    inspection refuseNull (call guard .contains [boosted sum (.one .single)]) =
      (.error 3, [constant (.int 1), captured ⟨"x", 0, .int 2⟩, sum, constant .null]) ∧
    inspection refuseNull (call sum .contains [sum]) =
      (.ok (call sum .contains [sum]), [constant (.int 1), captured ⟨"x", 0, .int 2⟩, sum,
        constant (.int 1), captured ⟨"x", 0, .int 2⟩, sum, call sum .contains [sum]]) := by
  intro sum guard
  refine ⟨?_, ?_⟩
  · exact (inspection_postorder refuseNull _).2.2.2
      [constant (.int 1), captured ⟨"x", 0, .int 2⟩, sum] (constant .null) _ _ rfl ⟨rfl, rfl, rfl, trivial⟩ rfl
  · exact (inspection_postorder refuseNull _).2.2.1 ⟨rfl, rfl, rfl, rfl, rfl, rfl, rfl, trivial⟩

end Inspection

end IndexQuery.Expr
