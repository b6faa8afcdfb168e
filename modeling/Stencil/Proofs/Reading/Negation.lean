import Mathlib.Data.List.Basic
import Mathlib.Data.List.Infix
import Stencil.Proofs.Reading.Blanks

/-!
# The word for "not"

The word for "not" has no effect: a program that is read is read as the same tree without the words
for "not" in it (`Node.ofSupply_withoutNot`). Each of them takes a level, so that without them there are
levels enough as well. They do one thing only: behind one of them a loop cannot start. Where one
stands in front of the word that starts a loop, that word is a name there, and would not be one
without it.
-/

namespace Stencil

open Stencil.Parser

/-! ## Tokens -/

namespace Token

/-- The tokens that are no words for "not". -/
def withoutNot (tokens : List Token) : List Token := tokens.filter fun t => decide (t.kind ≠ .not)

/-- Is this a blank or a word for "not"? -/
def isIdle (t : Token) : Bool := t.kind == .not || t.kind == .whitespace

/-- **The word that starts a loop stands behind a word for "not"**, with nothing between them but
further ones and blanks. -/
def NegatesLoop (tokens : List Token) : Prop :=
  ∃ t behind, t :: behind <:+ tokens ∧ t.kind = .not ∧ StartsLoop (behind.dropWhile isIdle)

instance (tokens : List Token) : Decidable (StartsLoop tokens) :=
  inferInstanceAs (Decidable (∃ t ∈ tokens.head?, t.IsWord "each"))

instance (tokens : List Token) : Decidable (NegatesLoop tokens) :=
  decidable_of_iff (∃ ts ∈ tokens.tails, ∃ t ∈ ts.head?, t.kind = .not ∧
      StartsLoop (ts.tail.dropWhile isIdle)) <| by
    constructor
    · rintro ⟨ts, hts, t, ht, hloop⟩
      obtain ⟨behind, rfl⟩ := List.head?_eq_some_iff.mp ht
      exact ⟨t, behind, (List.mem_tails _ _).mp hts, hloop⟩
    · rintro ⟨t, behind, hts, hloop⟩
      exact ⟨t :: behind, (List.mem_tails _ _).mpr hts, t, rfl, hloop⟩

variable {t : Token} {ts us tokens : List Token}

private theorem ne_not_of_kind {kind : Kind} (hkind : t.kind = kind) (h : kind ≠ .not := by decide) :
    t.kind ≠ .not :=
  hkind ▸ h

private theorem withoutNot_append : withoutNot (ts ++ us) = withoutNot ts ++ withoutNot us :=
  List.filter_append ts us

private theorem withoutNot_of_not (h : t.kind = .not) : withoutNot (t :: ts) = withoutNot ts := by
  rw [withoutNot, List.filter_cons_of_neg (by simp [h]), withoutNot]

private theorem withoutNot_cons (h : t.kind ≠ .not) : withoutNot (t :: ts) = t :: withoutNot ts := by
  rw [withoutNot, List.filter_cons_of_pos (by simp [h]), withoutNot]

/-- A token that is none is left where it is. -/
theorem withoutNot_append_cons (h : t.kind ≠ .not) :
    withoutNot (ts ++ t :: us) = withoutNot ts ++ t :: withoutNot us := by
  rw [withoutNot_append, withoutNot_cons h]

/-- Before the end, and but for blanks, the same tokens are left out. -/
theorem solid_front_withoutNot (tokens : List Token) :
    solid (front (withoutNot tokens)) = withoutNot (solid (front tokens)) := by
  have hend (t : Token) (h : t.kind = .eof) : decide (t.kind ≠ .not) = true := by
    rw [h]
    rfl
  rw [withoutNot, front_filter hend, solid, List.filter_comm]
  rfl

/-! ## Loops -/

/-- A part of tokens is as free of it as the whole. -/
theorem NegatesLoop.of_infix (h : NegatesLoop ts) (hsub : ts <:+: tokens) : NegatesLoop tokens := by
  obtain ⟨t, rest, ⟨before, rfl⟩, hnot, u, hu, hword⟩ := h
  obtain ⟨front, behind, rfl⟩ := hsub
  obtain ⟨us, hrest⟩ := List.head?_eq_some_iff.mp hu
  refine ⟨t, rest ++ behind, ⟨front ++ before, by simp⟩, hnot, u, ?_, hword⟩
  rw [List.dropWhile_append, hrest]
  rfl

private theorem not_negatesLoop_parts (h : ¬ NegatesLoop (ts ++ t :: us)) :
    ¬ NegatesLoop ts ∧ ¬ NegatesLoop us :=
  ⟨fun hts => h (hts.of_infix (List.prefix_append _ _).isInfix),
    fun hus => h (hus.of_infix ⟨ts ++ [t], [], by simp⟩)⟩

private theorem not_negatesLoop_drop (n : Nat) (h : ¬ NegatesLoop ts) : ¬ NegatesLoop (ts.drop n) :=
  fun hdrop => h (hdrop.of_infix (List.drop_suffix n ts).isInfix)

/-- Blanks make no difference to it. -/
theorem NegatesLoop.of_solid (h : NegatesLoop (solid tokens)) : NegatesLoop tokens := by
  obtain ⟨t, rest, ⟨before, hsplit⟩, hnot, u, hu, hword⟩ := h
  obtain ⟨front, behind, rfl, -, hbehind⟩ := List.filter_eq_append_iff.mp hsplit.symm
  obtain ⟨blanks, behind, rfl, -, -, rfl⟩ := List.filter_eq_cons_iff.mp hbehind
  refine ⟨t, behind, ⟨front ++ blanks, by simp⟩, hnot, u, ?_, hword⟩
  have hboth : (fun u : Token => !decide (u.kind ≠ .whitespace) || isIdle u) = isIdle := by
    funext u
    by_cases hblank : u.kind = .whitespace <;> simp [isIdle, hblank]
  rw [List.dropWhile_filter, hboth] at hu
  -- the first token behind the idle ones is no blank
  cases hrest : behind.dropWhile isIdle with
  | nil => rwa [hrest] at hu
  | cons v vs =>
    have hv : isIdle v = false := by
      have hstop := List.head?_dropWhile_not isIdle behind
      rwa [hrest] at hstop
    have hsolid : v.kind ≠ .whitespace := by
      intro hblank
      simp [isIdle, hblank] at hv
    rw [hrest, List.filter_cons_of_pos (by simp [hsolid])] at hu
    exact hu

/-- Without the words for "not" no loop starts that did not start with them. -/
theorem not_startsLoop_withoutNot (hloop : ¬ NegatesLoop ts) (h : ¬ StartsLoop ts) :
    ¬ StartsLoop (withoutNot ts) := by
  induction ts with
  | nil => exact h
  | cons t ts ih =>
    by_cases hnot : t.kind = .not
    · rw [withoutNot_of_not hnot]
      refine ih (fun hneg => hloop (hneg.of_infix (List.suffix_cons t ts).isInfix)) fun hstarts => ?_
      refine hloop ⟨t, ts, List.suffix_rfl, hnot, ?_⟩
      obtain ⟨u, hu, hword⟩ := hstarts
      obtain ⟨us, rfl⟩ := List.head?_eq_some_iff.mp hu
      have hidle : isIdle u = false := by simp [isIdle, hword.1]
      rw [List.dropWhile_cons_of_neg (by simp [hidle])]
      exact ⟨u, rfl, hword⟩
    · rw [withoutNot_cons hnot]
      exact h

end Token

/-! ## Derivations -/

open Token in
/-- **What is read is read without the words for "not"**, with no more levels. -/
theorem Parser.Reads.withoutNot {next : Kind} {n : Nat} {tokens : List Token} {phrase : Phrase}
    (h : Reads next n tokens phrase) (hloop : ¬ NegatesLoop tokens) :
    ∃ m ≤ n, Reads next m (withoutNot tokens) phrase := by
  induction h with
  | loop heach hitem hword hsource hmark _ ih =>
    obtain ⟨m, hm, hbody⟩ := ih (not_negatesLoop_drop 5 hloop)
    rw [withoutNot_cons (ne_not_of_kind heach.1), withoutNot_cons (ne_not_of_kind hitem),
      withoutNot_cons (ne_not_of_kind hword.1), withoutNot_cons (ne_not_of_kind hsource),
      withoutNot_cons (ne_not_of_kind hmark)]
    exact ⟨m + 1, Nat.succ_le_succ hm, .loop heach hitem hword hsource hmark hbody⟩
  -- this is where a negated loop would begin to be read as a loop
  | plain _ hstart hnext ih =>
    obtain ⟨m, hm, hnode⟩ := ih hloop
    exact ⟨m + 1, Nat.succ_le_succ hm, .plain hnode (not_startsLoop_withoutNot hloop hstart) hnext⟩
  | oneSided _ hstart hmark _ hnext ih ih' =>
    obtain ⟨hcs, hts⟩ := not_negatesLoop_parts hloop
    obtain ⟨l, hl, hcondition⟩ := ih hcs
    obtain ⟨m, hm, hbody⟩ := ih' hts
    rw [withoutNot_append_cons (ne_not_of_kind hmark)]
    exact ⟨max l m + 1, by omega,
      .oneSided hcondition (not_startsLoop_withoutNot hcs hstart) hmark hbody hnext⟩
  | twoSided _ hstart hmark _ hcolon _ ih ih' ih'' =>
    obtain ⟨hcs, hsides⟩ := not_negatesLoop_parts hloop
    obtain ⟨hts, hus⟩ := not_negatesLoop_parts hsides
    obtain ⟨k, hk, hcondition⟩ := ih hcs
    obtain ⟨l, hl, hbody⟩ := ih' hts
    obtain ⟨m, hm, hother⟩ := ih'' hus
    rw [withoutNot_append_cons (ne_not_of_kind hmark), withoutNot_append_cons (ne_not_of_kind hcolon)]
    exact ⟨max k (max l m) + 1, by omega,
      .twoSided hcondition (not_startsLoop_withoutNot hcs hstart) hmark hbody hcolon hother⟩
  | operand _ ih =>
    obtain ⟨m, hm, hnode⟩ := ih hloop
    exact ⟨m, hm, .operand hnode⟩
  | @operator _ k _ _ _ _ op tier _ _ _ hop _ ih ih' =>
    have hkind : op.kind ≠ .not := by
      intro hnot
      rw [hnot] at hop
      cases tier <;> exact absurd hop (by decide)
    obtain ⟨hts, hus⟩ := not_negatesLoop_parts hloop
    obtain ⟨l, hl, hleft⟩ := ih hts
    obtain ⟨m, hm, hright⟩ := ih' hus
    rw [withoutNot_append_cons hkind]
    exact ⟨max l (k + 1 + m), by omega, .operator hleft hop hright⟩
  | tier _ hnext ih =>
    obtain ⟨m, hm, hnode⟩ := ih hloop
    exact ⟨m, hm, .tier hnode hnext⟩
  | @literal _ t value hvalue =>
    have hkind : t.kind ≠ .not := by
      intro hnot
      have hmem := kind_of_literal? hvalue
      rw [hnot] at hmem
      exact absurd hmem (by decide)
    rw [withoutNot_cons hkind]
    exact ⟨1, Nat.le_refl 1, .literal hvalue⟩
  | null hkind =>
    rw [withoutNot_cons (ne_not_of_kind hkind)]
    exact ⟨1, Nat.le_refl 1, .null hkind⟩
  | @sign _ _ _ op _ hop _ ih =>
    have hkind : op.kind ≠ .not := hop.elim (ne_not_of_kind ·) (ne_not_of_kind ·)
    obtain ⟨m, hm, hnode⟩ := ih (not_negatesLoop_drop 1 hloop)
    rw [withoutNot_cons hkind]
    exact ⟨m + 1, Nat.succ_le_succ hm, .sign hop hnode⟩
  -- the only case where a token goes, and with it the level that was entered for it
  | not hnot _ ih =>
    obtain ⟨m, hm, hnode⟩ := ih (not_negatesLoop_drop 1 hloop)
    rw [withoutNot_of_not hnot]
    exact ⟨m, Nat.le_succ_of_le hm, hnode⟩
  | parens hopening _ hclosing ih =>
    obtain ⟨m, hm, hnode⟩ := ih (not_negatesLoop_parts (not_negatesLoop_drop 1 hloop)).1
    rw [withoutNot_cons (ne_not_of_kind hopening), withoutNot_append_cons (ne_not_of_kind hclosing)]
    exact ⟨m + 1, Nat.succ_le_succ hm, .parens hopening hnode hclosing⟩
  | reference _ ih =>
    obtain ⟨m, hm, haccess⟩ := ih hloop
    exact ⟨m + 1, Nat.succ_le_succ hm, .reference haccess⟩
  | name hkind hnext =>
    rw [withoutNot_cons (ne_not_of_kind hkind)]
    exact ⟨0, Nat.le_refl 0, .name hkind hnext⟩
  | call hkind hopening _ hclosing ih =>
    obtain ⟨m, hm, hargs⟩ := ih (not_negatesLoop_parts (not_negatesLoop_drop 2 hloop)).1
    rw [withoutNot_cons (ne_not_of_kind hkind), withoutNot_cons (ne_not_of_kind hopening),
      withoutNot_append_cons (ne_not_of_kind hclosing)]
    exact ⟨m, hm, .call hkind hopening hargs hclosing⟩
  | lastLink _ hnext ih =>
    obtain ⟨m, hm, hhead⟩ := ih hloop
    exact ⟨m + 1, Nat.succ_le_succ hm, .lastLink hhead hnext⟩
  | dot _ hdot _ ih ih' =>
    obtain ⟨hts, hus⟩ := not_negatesLoop_parts hloop
    obtain ⟨l, hl, hhead⟩ := ih hts
    obtain ⟨m, hm, hmembers⟩ := ih' hus
    rw [withoutNot_append_cons (ne_not_of_kind hdot)]
    exact ⟨max l m + 1, by omega, .dot hhead hdot hmembers⟩
  | noArgs => exact ⟨0, Nat.le_refl 0, .noArgs⟩
  | lastArg _ ih =>
    obtain ⟨m, hm, harg⟩ := ih hloop
    exact ⟨m, hm, .lastArg harg⟩
  | comma _ hcomma _ ih ih' =>
    obtain ⟨hts, hus⟩ := not_negatesLoop_parts hloop
    obtain ⟨l, hl, harg⟩ := ih hts
    obtain ⟨m, hm, hargs⟩ := ih' hus
    rw [withoutNot_append_cons (ne_not_of_kind hcomma)]
    exact ⟨max l m, by omega, .comma harg hcomma hargs⟩

namespace Node

/-- **The word for "not" has no effect.** Tokens that are read as a program are read as the same tree,
with the same tokens in it, without the words for "not" among them, unless one of these stands in front
of the word that starts a loop. -/
theorem ofSupply_withoutNot {tokens : List Token} {node : Node}
    (h : ofSupply .program (.ofTokens tokens) = .ok node) (hloop : ¬ Token.NegatesLoop tokens) :
    ofSupply .program (.ofTokens (Token.withoutNot tokens)) = .ok node := by
  obtain ⟨-, n, hn, hreads⟩ := ofSupply_program_eq_ok.mp h
  have hfront : Token.front tokens <:+: tokens := (List.takeWhile_prefix _).isInfix
  have hfree : ¬ Token.NegatesLoop (Token.solid (Token.front tokens)) :=
    fun hneg => hloop (hneg.of_solid.of_infix hfront)
  obtain ⟨m, hm, hreads⟩ := hreads.withoutNot hfree
  rw [ofSupply_program_eq_ok]
  refine ⟨Token.Supply.ends_ofTokens _, m, hm.trans hn, ?_⟩
  show Reads .eof m (Token.solid (Token.front (Token.withoutNot tokens))) (.statement node)
  rw [Token.solid_front_withoutNot]
  exact hreads

/-- Words for "not" stand in front of a call and one of its arguments, of a sign and of a loop in
parentheses: `!a(! !1, -!2) * !(each x in y ? 3)`. -/
theorem ofSupply_withoutNot_loop :
    let tokens : List Token := [⟨.not, "!", 0⟩, ⟨.identifier, "a", 1⟩, ⟨.lParen, "(", 2⟩,
      ⟨.not, "!", 3⟩, ⟨.whitespace, " ", 4⟩, ⟨.not, "!", 5⟩, ⟨.integerConst, "1", 6⟩,
      ⟨.comma, ",", 7⟩, ⟨.whitespace, " ", 8⟩, ⟨.minus, "-", 9⟩, ⟨.not, "!", 10⟩,
      ⟨.integerConst, "2", 11⟩, ⟨.rParen, ")", 12⟩, ⟨.whitespace, " ", 13⟩, ⟨.mul, "*", 14⟩,
      ⟨.whitespace, " ", 15⟩, ⟨.not, "!", 16⟩, ⟨.lParen, "(", 17⟩, ⟨.identifier, "each", 18⟩,
      ⟨.whitespace, " ", 22⟩, ⟨.identifier, "x", 23⟩, ⟨.whitespace, " ", 24⟩, ⟨.identifier, "in", 25⟩,
      ⟨.whitespace, " ", 27⟩, ⟨.identifier, "y", 28⟩, ⟨.whitespace, " ", 29⟩, ⟨.question, "?", 30⟩,
      ⟨.whitespace, " ", 31⟩, ⟨.integerConst, "3", 32⟩, ⟨.rParen, ")", 33⟩]
    ¬ Token.NegatesLoop tokens ∧ ∃ node, ofSupply .program (.ofTokens tokens) = .ok node ∧
      ofSupply .program (.ofTokens (Token.withoutNot tokens)) = .ok node := by
  intro tokens
  have hloop : ¬ Token.NegatesLoop tokens := by decide +kernel
  have hread : (ofSupply .program (.ofTokens tokens)).isOk = true := by decide +kernel
  cases hnode : ofSupply .program (.ofTokens tokens) with
  | ok node => exact ⟨hloop, node, rfl, ofSupply_withoutNot hnode hloop⟩
  | error e =>
    rw [hnode] at hread
    cases hread

end Node

end Stencil
