import IndexQuery.Expr.Basic

set_option autoImplicit false

/-!
Walking expressions: post-order listing, search, mapping from the leaves up, and equality.
-/

namespace IndexQuery.Expr

mutual

/-- Every node, the parts of a node from left to right before the node itself. -/
def postorder : Expr → List Expr
  | member target name kind => postorder target ++ [member target name kind]
  | call target method args => postorder target ++ postorderAll args ++ [call target method args]
  | invoke method args => postorderAll args ++ [invoke method args]
  | unary op operand => postorder operand ++ [unary op operand]
  | binary op left right => postorder left ++ postorder right ++ [binary op left right]
  | conditional test ifTrue ifFalse =>
    postorder test ++ postorder ifTrue ++ postorder ifFalse ++ [conditional test ifTrue ifFalse]
  | convert operand kind => postorder operand ++ [convert operand kind]
  | boosted target boost => postorder target ++ [boosted target boost]
  | leaf => [leaf]

def postorderAll : List Expr → List Expr
  | [] => []
  | e :: es => postorder e ++ postorderAll es

end

mutual

def any (test : Expr → Bool) : Expr → Bool
  | member target name kind => test (member target name kind) || any test target
  | call target method args => test (call target method args) || any test target || anyOf test args
  | invoke method args => test (invoke method args) || anyOf test args
  | unary op operand => test (unary op operand) || any test operand
  | binary op left right => test (binary op left right) || any test left || any test right
  | conditional t a b => test (conditional t a b) || any test t || any test a || any test b
  | convert operand kind => test (convert operand kind) || any test operand
  | boosted target boost => test (boosted target boost) || any test target
  | leaf => test leaf

def anyOf (test : Expr → Bool) : List Expr → Bool
  | [] => false
  | e :: es => any test e || anyOf test es

end

def isDocumentNode : Expr → Bool
  | source _ | field _ | predicate _ | interval _ | relevance | anyField | boosted _ _ => true
  | _ => false

def referencesDocument (e : Expr) : Bool := e.any isDocumentNode

/-- A call that annotates a query; it never has a value. -/
def isAnnotation : Expr → Bool
  | call _ .boost _ | call _ .allowSpecial _ | invoke .boost _ | invoke .allowSpecial _ => true
  | _ => false

def isEvaluable (e : Expr) : Bool := !e.referencesDocument && !e.any isAnnotation

section Mapping

variable {m : Type → Type} [Monad m] (f : Expr → m Expr)

mutual

/-- Maps every node once, its parts first and from left to right. -/
def mapUpM : Expr → m Expr
  | member target name kind => do
    let target ← mapUpM target
    f (member target name kind)
  | call target method args => do
    let target ← mapUpM target
    let args ← mapAllM args
    f (call target method args)
  | invoke method args => do
    let args ← mapAllM args
    f (invoke method args)
  | unary op operand => do
    let operand ← mapUpM operand
    f (unary op operand)
  | binary op left right => do
    let left ← mapUpM left
    let right ← mapUpM right
    f (binary op left right)
  | conditional test ifTrue ifFalse => do
    let test ← mapUpM test
    let ifTrue ← mapUpM ifTrue
    let ifFalse ← mapUpM ifFalse
    f (conditional test ifTrue ifFalse)
  | convert operand kind => do
    let operand ← mapUpM operand
    f (convert operand kind)
  | boosted target boost => do
    let target ← mapUpM target
    f (boosted target boost)
  | leaf => f leaf

def mapAllM : List Expr → m (List Expr)
  | [] => pure []
  | e :: es => do
    let e ← mapUpM e
    let es ← mapAllM es
    return e :: es

end

end Mapping

def mapUp (f : Expr → Expr) (e : Expr) : Expr := Id.run (e.mapUpM fun node => pure (f node))

def sameBoost (a b : Option Number.Binary32) : Bool :=
  match a, b with
  | some x, some y => x.same y
  | none, none => true
  | _, _ => false

mutual

/-- Equality as lowering sees it: fields by name, captures by identity, numbers as numbers, so that a
tree holding a not-a-number differs from itself. -/
def same : Expr → Expr → Bool
  | constant a, constant b => a.same b
  | captured a, captured b => a.same b
  | source a, source b => a == b
  | member s n k, member t o l => same s t && n == o && k == l
  | call s m as, call t n bs => same s t && m == n && sameAll as bs
  | invoke m as, invoke n bs => m == n && sameAll as bs
  | unary o a, unary p b => o == p && same a b
  | binary o a b, binary p c d => o == p && same a c && same b d
  | conditional a b c, conditional d e f => same a d && same b e && same c f
  | convert a k, convert b l => same a b && k == l
  | field a, field b => a.same b
  | predicate a, predicate b => samePredicate a b
  | interval a, interval b => sameInterval a b
  | relevance, relevance => true
  | anyField, anyField => true
  | boosted a x, boosted b y => same a b && x.same y
  | _, _ => false

def sameAll : List Expr → List Expr → Bool
  | [], [] => true
  | a :: as, b :: bs => same a b && sameAll as bs
  | _, _ => false

def samePredicate : Predicate Expr → Predicate Expr → Bool
  | ⟨f, p, o, m, b, s, t⟩, ⟨g, q, u, n, c, r, v⟩ =>
    f.same g && same p q && o == u && m == n && b.same c && s == r && sameBoost t v

def sameInterval : Interval Expr → Interval Expr → Bool
  | ⟨f, l, lk, u, uk, o, b⟩, ⟨g, m, mk, v, vk, p, c⟩ =>
    f.same g && sameBound l m && lk == mk && sameBound u v && uk == vk && o == p && b.same c

def sameBound : Option Expr → Option Expr → Bool
  | some a, some b => same a b
  | none, none => true
  | _, _ => false

end

end IndexQuery.Expr
