import Stencil.Evaluation
import Stencil.Proofs.Height

/-!
# Trees of integers

Literals and names of integers with signs, sums, differences, products and quotients make an integer, or
fail at a quotient whose divisor is zero (`Node.eval_overIntegers`). The integer is the exact value of the
tree, reduced to 64 bits: how often what is computed with has been reduced on the way makes no difference,
except below a quotient, where it is part of what is asked for.
-/

namespace Stencil

/-! ## Reduction to 64 bits -/

namespace Integer

/-- An integer as 64 bits hold it: the one among them that differs by a multiple of 2^64. -/
def reduce (i : Int) : Int := i.bmod Int64.size

variable {x y : Int64} {i j : Int}

private theorem reduce_toInt (n : Int64) : reduce n.toInt = n.toInt := Int64.toInt_bmod_size n

/-! Sums, differences, products and opposites do not depend on whether the operands are reduced. -/

private theorem toInt_add (hx : x.toInt = reduce i) (hy : y.toInt = reduce j) :
    (x + y).toInt = reduce (i + j) := by
  have hsum : (x + y).toInt = reduce (x.toInt + y.toInt) := Int64.toInt_add x y
  rw [hsum, hx, hy]
  unfold reduce
  rw [Int.bmod_add_bmod, Int.add_bmod_bmod]

private theorem toInt_sub (hx : x.toInt = reduce i) (hy : y.toInt = reduce j) :
    (x - y).toInt = reduce (i - j) := by
  have hdifference : (x - y).toInt = reduce (x.toInt - y.toInt) := Int64.toInt_sub x y
  rw [hdifference, hx, hy]
  unfold reduce
  rw [Int.bmod_sub_bmod, Int.sub_bmod_bmod]

private theorem toInt_mul (hx : x.toInt = reduce i) (hy : y.toInt = reduce j) :
    (x * y).toInt = reduce (i * j) := by
  have hproduct : (x * y).toInt = reduce (x.toInt * y.toInt) := Int64.toInt_mul x y
  rw [hproduct, hx, hy]
  unfold reduce
  rw [Int.bmod_mul_bmod, Int.mul_bmod_bmod]

private theorem toInt_neg (hx : x.toInt = reduce i) : (-x).toInt = reduce (-i) := by
  have hopposite : (-x).toInt = reduce (-x.toInt) := Int64.toInt_neg x
  rw [hopposite, hx]
  unfold reduce
  rw [Int.bmod_neg_bmod]

/-- A quotient is one of the reduced operands, and goes toward zero. -/
theorem toInt_div (x y : Int64) : (x / y).toInt = reduce (x.toInt.tdiv y.toInt) := Int64.toInt_div x y

end Integer

open Integer (reduce reduce_toInt)

/-! ## One operator -/

/-- The operators that make an integer of integers. -/
def Kind.integral : List Kind := [.plus, .minus, .mul, .div]

/-- What an operator makes of operands without bounds. A quotient is one of reduced operands, toward
zero. -/
def Kind.exact : Kind → Int → Int → Int
  | .plus, i, j => i + j
  | .minus, i, j => i - j
  | .mul, i, j => i * j
  | .div, i, j => (reduce i).tdiv (reduce j)
  | _, _, _ => 0

/-- What a sign makes of an operand without bounds. -/
def Kind.signed : Kind → Int → Int
  | .minus, i => -i
  | _, i => i

namespace Token

variable {op : Token} {x y : Int64} {i j : Int}

/-- **An operator commutes with the reduction to 64 bits**, unless zero is divided by. -/
theorem applyBinary_integers (hop : op.kind ∈ Kind.integral) (hx : x.toInt = reduce i)
    (hy : y.toInt = reduce j) (hzero : ¬ (op.kind = .div ∧ y = 0)) :
    ∃ n, op.applyBinary (.integer x) (.integer y) = .ok (.integer n) ∧
      n.toInt = reduce (op.kind.exact i j) := by
  simp only [Kind.integral, List.mem_cons, List.not_mem_nil, or_false] at hop
  unfold applyBinary
  obtain hkind | hkind | hkind | hkind := hop <;> rw [hkind]
  · exact ⟨x + y, rfl, Integer.toInt_add hx hy⟩
  · exact ⟨x - y, rfl, Integer.toInt_sub hx hy⟩
  · exact ⟨x * y, rfl, Integer.toInt_mul hx hy⟩
  · have hnonzero : y ≠ 0 := fun h => hzero ⟨hkind, h⟩
    refine ⟨x / y, ?_, ?_⟩
    · show Cause.ofFault (if y = 0 then _ else _) = _
      rw [if_neg hnonzero]
      rfl
    · rw [Integer.toInt_div, hx, hy, Kind.exact]

/-- To divide an integer by zero is an error. -/
theorem applyBinary_zero (hop : op.kind = .div) (x : Int64) :
    op.applyBinary (.integer x) (.integer 0) = .error (.fault .divisionByZero) := by
  unfold applyBinary
  rw [hop]
  rfl

/-- And so does a sign, also before the least integer. -/
theorem applyUnary_integer (hop : op.kind = .plus ∨ op.kind = .minus) (hx : x.toInt = reduce i) :
    ∃ n, op.applyUnary (.integer x) = .ok (.integer n) ∧ n.toInt = reduce (op.kind.signed i) := by
  unfold applyUnary
  obtain hkind | hkind := hop <;> rw [hkind]
  · exact ⟨x, rfl, hx⟩
  · exact ⟨-x, rfl, Integer.toInt_neg hx⟩

end Token

/-! ## Trees -/

namespace Node

/-- **A tree of integers**: literals, and names that are bound to integers, below signs and operators. -/
inductive OverIntegers (b : Bindings) : Node → Prop
  | literal {token : Token} {n : Int64} : OverIntegers b (.terminal token (.int n))
  | bare {token : Token} {n : Int64} (h : b.get? token.text = some (.integer n)) :
      OverIntegers b (.access (.bare token) [])
  | read {token : Token} {n : Int64} (h : b.get? token.text = some (.integer n)) :
      OverIntegers b (.access (.read token) [])
  | binary {op : Token} {left right : Node} (hop : op.kind ∈ Kind.integral)
      (hleft : OverIntegers b left) (hright : OverIntegers b right) :
      OverIntegers b (.binary op left right)
  | unary {op : Token} {operand : Node} (hop : op.kind = .plus ∨ op.kind = .minus)
      (hoperand : OverIntegers b operand) : OverIntegers b (.unary op operand)

/-- The value of a tree of integers without bounds, but for the operands of quotients. -/
def exact (b : Bindings) : Node → Int
  | .terminal _ (.int n) => n.toInt
  | .access head _ =>
    match b.get? head.token.text with
    | some (.integer n) => n.toInt
    | _ => 0
  | .binary op left right => op.kind.exact (left.exact b) (right.exact b)
  | .unary op operand => op.kind.signed (operand.exact b)
  | _ => 0

variable {host : Host} {b b' : Bindings} {node left right operand child inner : Node} {op : Token}
  {head : Link} {depth : Nat} {n : Int64} {v w : Value}

/-- A tree of integers has such trees only inside it. -/
theorem OverIntegers.hasAt (h : node.OverIntegers b) (hat : node.HasAt depth inner) :
    inner.OverIntegers b := by
  induction hat with
  | root => exact h
  | inside hchild _ ih =>
    refine ih ?_
    cases h with
    | literal | bare | read => cases hchild
    | binary _ hleft hright =>
      simp only [children, List.mem_cons, List.not_mem_nil, or_false] at hchild
      obtain rfl | rfl := hchild
      · exact hleft
      · exact hright
    | unary _ hoperand =>
      obtain rfl := List.mem_singleton.mp hchild
      exact hoperand

/-! ### One node -/

/-- An operator is applied where both operands have a value and no name is bound on the way. -/
private theorem eval_binary (op : Token) (hleft : left.eval host b = .ok v b)
    (hright : right.eval host b = .ok w b) :
    (binary op left right).eval host b =
      Evaluation.lift "BinaryOperation" op (op.applyBinary v w) b := by
  rw [eval, bind_of_ok hleft, bind_of_ok hright]

private theorem eval_unary (op : Token) (hoperand : operand.eval host b = .ok v b) :
    (unary op operand).eval host b = Evaluation.lift "UnaryOperation" op (op.applyUnary v) b := by
  rw [eval, bind_of_ok hoperand]

private theorem eval_name (hhead : head = .bare op ∨ head = .read op)
    (hname : b.get? op.text = some v) : (access head []).eval host b = .ok v b := by
  have hlookup (name : String) : Evaluation.lookup name op op.text b = .ok v b := by
    rw [Evaluation.lookup, bind_of_ok (get_run b), hname]
    rfl
  obtain rfl | rfl := hhead
  · rw [eval, hlookup]
  · rw [eval, Link.evalHead, bind_of_ok (hlookup _)]
    · rfl
    · exact nofun

/-- Without bounds, a name is worth the integer bound to it. -/
private theorem exact_name (hname : b.get? head.token.text = some (.integer n)) :
    (access head []).exact b = n.toInt := by
  rw [exact, hname]

/-! ### The whole tree -/

/-- A division inside the tree whose divisor comes to zero. -/
def DividesByZero (host : Host) (b : Bindings) (node : Node) (op : Token) : Prop :=
  ∃ depth left right, node.HasAt depth (.binary op left right) ∧ op.kind = .div ∧
    right.eval host b = .ok (.integer 0) b

/-- A division by zero in a child is one in the tree. -/
theorem DividesByZero.of_child (hchild : child ∈ node.children)
    (h : child.DividesByZero host b op) : node.DividesByZero host b op := by
  obtain ⟨depth, left, right, hat, hrest⟩ := h
  exact ⟨depth + 1, left, right, .inside hchild hat, hrest⟩

/-- The error of a division by zero. -/
def divisionError (op : Token) : RuntimeError := ⟨"BinaryOperation", op, .fault .divisionByZero⟩

/-- **A tree of integers makes the reduced exact value, or fails at a division by zero.** -/
theorem OverIntegers.eval_cases (host : Host) (h : node.OverIntegers b) :
    (∃ n, node.eval host b = .ok (.integer n) b ∧ n.toInt = reduce (node.exact b)) ∨
    ∃ op, node.DividesByZero host b op ∧ node.eval host b = .error (divisionError op) b := by
  induction h with
  | @literal token n =>
    refine .inl ⟨n, ?_, (reduce_toInt n).symm⟩
    rw [eval]
    rfl
  | @bare token n hname =>
    refine .inl ⟨n, eval_name (.inl rfl) hname, ?_⟩
    rw [exact_name hname, reduce_toInt]
  | @read token n hname =>
    refine .inl ⟨n, eval_name (.inr rfl) hname, ?_⟩
    rw [exact_name hname, reduce_toInt]
  | @binary op left right hop _ _ ihleft ihright =>
    obtain ⟨x, hleft, hx⟩ | ⟨op', hzero, herror⟩ := ihleft
    · obtain ⟨y, hright, hy⟩ | ⟨op', hzero, herror⟩ := ihright
      · rw [eval_binary op hleft hright]
        by_cases hdivision : op.kind = .div ∧ y = 0
        · obtain ⟨hkind, rfl⟩ := hdivision
          refine .inr ⟨op, ⟨0, left, right, .root, hkind, hright⟩, ?_⟩
          rw [Token.applyBinary_zero hkind]
          rfl
        · obtain ⟨n, happly, hn⟩ := Token.applyBinary_integers hop hx hy hdivision
          refine .inl ⟨n, ?_, hn⟩
          rw [happly]
          rfl
      · refine .inr ⟨op', hzero.of_child (List.mem_cons_of_mem _ List.mem_cons_self), ?_⟩
        rw [eval, bind_of_ok hleft, bind_of_error herror]
    · refine .inr ⟨op', hzero.of_child List.mem_cons_self, ?_⟩
      rw [eval, bind_of_error herror]
  | @unary op operand hop _ ih =>
    obtain ⟨x, hoperand, hx⟩ | ⟨op', hzero, herror⟩ := ih
    · obtain ⟨n, happly, hn⟩ := Token.applyUnary_integer hop hx
      refine .inl ⟨n, ?_, hn⟩
      rw [eval_unary op hoperand, happly]
      rfl
    · refine .inr ⟨op', hzero.of_child List.mem_cons_self, ?_⟩
      rw [eval, bind_of_error herror]

/-- What is made is the reduced exact value, and nothing is bound on the way. -/
theorem OverIntegers.of_eval (h : node.OverIntegers b) (hnode : node.eval host b = .ok v b') :
    b' = b ∧ ∃ n, v = .integer n ∧ n.toInt = reduce (node.exact b) := by
  obtain ⟨n, heval, hn⟩ | ⟨op, -, herror⟩ := h.eval_cases host
  · rw [heval, EStateM.Result.ok.injEq] at hnode
    exact ⟨hnode.2.symm, n, hnode.1.symm, hn⟩
  · rw [herror] at hnode
    cases hnode

/-- An operator makes an integer of integers only, and a division by zero makes none. -/
theorem OverIntegers.of_eval_binary (h : (Node.binary op left right).OverIntegers b)
    (hnode : (Node.binary op left right).eval host b = .ok v b') :
    ∃ x y, left.eval host b = .ok (.integer x) b ∧ right.eval host b = .ok (.integer y) b ∧
      ¬ (op.kind = .div ∧ y = 0) := by
  cases h with
  | binary _ hleft hright =>
    rw [eval, bind_eq_ok] at hnode
    obtain ⟨a, m, hx, hnode⟩ := hnode
    obtain ⟨rfl, x, rfl, -⟩ := hleft.of_eval hx
    obtain ⟨a, m', hy, hnode⟩ := bind_eq_ok.mp hnode
    obtain ⟨rfl, y, rfl, -⟩ := hright.of_eval hy
    refine ⟨x, y, hx, hy, ?_⟩
    rintro ⟨hkind, rfl⟩
    rw [Token.applyBinary_zero hkind] at hnode
    cases hnode

/-- **Where the whole tree makes an integer, everything inside it does.** -/
theorem OverIntegers.eval_inside (h : node.OverIntegers b) (hat : node.HasAt depth inner)
    (hnode : node.eval host b = .ok v b') : ∃ n, inner.eval host b = .ok (.integer n) b := by
  induction hat generalizing v b' with
  | root =>
    obtain ⟨rfl, n, rfl, -⟩ := h.of_eval hnode
    exact ⟨n, hnode⟩
  | inside hchild _ ih =>
    have hinner := h.hasAt (.inside hchild .root)
    cases h with
    | literal | bare | read => cases hchild
    | binary hop hleft hright =>
      obtain ⟨x, y, hx, hy, -⟩ := (OverIntegers.binary hop hleft hright).of_eval_binary hnode
      simp only [children, List.mem_cons, List.not_mem_nil, or_false] at hchild
      obtain rfl | rfl := hchild
      · exact ih hinner hx
      · exact ih hinner hy
    | unary _ hoperand =>
      obtain rfl := List.mem_singleton.mp hchild
      rw [eval, bind_eq_ok] at hnode
      obtain ⟨a, m, hx, -⟩ := hnode
      exact ih hinner hx

/-- **Trees of integers compute modulo 2^64.** A tree fails exactly if a division inside it has a divisor
that comes to zero, and then at such a division; so without a division it never fails. Otherwise it makes
its exact value reduced to 64 bits, and each division inside it is that of what its operands come to,
toward zero and reduced as well. In any case nothing is bound. -/
theorem eval_overIntegers (host : Host) (h : node.OverIntegers b) :
    ((∀ depth op left right, node.HasAt depth (.binary op left right) → op.kind ≠ .div) →
      ∃ n, node.eval host b = .ok (.integer n) b ∧ n.toInt = reduce (node.exact b)) ∧
    ((∃ e b', node.eval host b = .error e b') ↔ ∃ op, node.DividesByZero host b op) ∧
    (∀ e b', node.eval host b = .error e b' →
      b' = b ∧ ∃ op, node.DividesByZero host b op ∧ e = divisionError op) ∧
    ∀ v b', node.eval host b = .ok v b' →
      b' = b ∧ (∃ n, v = .integer n ∧ n.toInt = reduce (node.exact b)) ∧
      ∀ depth op left right, node.HasAt depth (.binary op left right) → op.kind = .div →
        ∃ x y n, left.eval host b = .ok (.integer x) b ∧ right.eval host b = .ok (.integer y) b ∧
          (binary op left right).eval host b = .ok (.integer n) b ∧
          n.toInt = reduce (x.toInt.tdiv y.toInt) := by
  -- either all of the tree has a value, or some division stops it
  have hcases := h.eval_cases host
  refine ⟨fun hnone => ?_, ⟨fun ⟨e, b', he⟩ => ?_, fun ⟨op, hzero⟩ => ?_⟩, fun e b' he => ?_,
    fun v b' hnode => ?_⟩
  · refine hcases.resolve_right ?_
    rintro ⟨op, ⟨depth, left, right, hat, hkind, -⟩, -⟩
    exact hnone depth op left right hat hkind
  · obtain ⟨n, hn, -⟩ | ⟨op, hzero, -⟩ := hcases
    · rw [hn] at he
      cases he
    · exact ⟨op, hzero⟩
  · obtain ⟨n, hn, -⟩ | ⟨op', -, herror⟩ := hcases
    · obtain ⟨depth, left, right, hat, hkind, hdivisor⟩ := hzero
      obtain ⟨m, hm⟩ := h.eval_inside hat hn
      obtain ⟨x, y, -, hy, hnonzero⟩ := (h.hasAt hat).of_eval_binary hm
      rw [hdivisor, EStateM.Result.ok.injEq, Value.integer.injEq] at hy
      exact absurd ⟨hkind, hy.1.symm⟩ hnonzero
    · exact ⟨_, _, herror⟩
  · obtain ⟨n, hn, -⟩ | ⟨op, hzero, herror⟩ := hcases
    · rw [hn] at he
      cases he
    · rw [herror, EStateM.Result.error.injEq] at he
      exact ⟨he.2.symm, op, hzero, he.1.symm⟩
  · obtain ⟨hb, hvalue⟩ := h.of_eval hnode
    refine ⟨hb, hvalue, fun depth op left right hat hkind => ?_⟩
    obtain ⟨m, hm⟩ := h.eval_inside hat hnode
    obtain ⟨x, y, hx, hy, hnonzero⟩ := (h.hasAt hat).of_eval_binary hm
    have hop : op.kind ∈ Kind.integral := hkind ▸ by decide
    obtain ⟨n, happly, hn⟩ := Token.applyBinary_integers hop (reduce_toInt x).symm
      (reduce_toInt y).symm hnonzero
    have heval : (binary op left right).eval host b = .ok (.integer n) b := by
      rw [eval_binary op hx hy, happly]
      rfl
    refine ⟨x, y, n, hx, hy, heval, ?_⟩
    rw [hn, hkind, Kind.exact, reduce_toInt, reduce_toInt]

/-- The least integer over minus one is itself, and over its double a division by zero. -/
theorem eval_overIntegers_least :
    let b : Bindings := [("m", ⟨.integer Int64.minValue, (Value.integer Int64.minValue).fixes?⟩)]
    let m := access (.read ⟨.identifier, "m", 0⟩) []
    let op : Token := ⟨.div, "/", 2⟩
    let overMinusOne := binary op m (.unary ⟨.minus, "-", 4⟩ (.terminal ⟨.integerConst, "1", 5⟩ (.int 1)))
    let overDouble := binary op m (.binary ⟨.plus, "+", 7⟩ m m)
    overMinusOne.OverIntegers b ∧ overDouble.OverIntegers b ∧
    (∃ n, overMinusOne.eval .empty b = .ok (.integer n) b ∧ n.toInt = -9223372036854775808) ∧
    ∃ op', overDouble.DividesByZero .empty b op' ∧
      overDouble.eval .empty b = .error (divisionError op') b := by
  intro b m op overMinusOne overDouble
  have hm : m.OverIntegers b := .read rfl
  have hone : overMinusOne.OverIntegers b := .binary (by decide) hm (.unary (.inr rfl) .literal)
  have hdouble : overDouble.OverIntegers b := .binary (by decide) hm (.binary (by decide) hm hm)
  refine ⟨hone, hdouble, ?_, ?_⟩
  · obtain ⟨-, -, -, hok⟩ := eval_overIntegers .empty hone
    have heval : overMinusOne.eval .empty b = .ok (.integer Int64.minValue) b := rfl
    obtain ⟨-, ⟨n, hn, hreduced⟩, -⟩ := hok _ _ heval
    exact ⟨n, hn ▸ heval, hreduced⟩
  · obtain ⟨-, hfails, herror, -⟩ := eval_overIntegers .empty hdouble
    obtain ⟨e, b', he⟩ := hfails.mpr ⟨op, 0, _, _, .root, rfl, rfl⟩
    obtain ⟨rfl, op', hzero, rfl⟩ := herror e b' he
    exact ⟨op', hzero, he⟩

end Node

end Stencil
