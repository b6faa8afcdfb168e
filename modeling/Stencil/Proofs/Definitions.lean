import Stencil.Proofs.Bindings.Growth
import Stencil.Proofs.InBraces
import Stencil.Proofs.Scanning.Slices
import Stencil.Variables

/-!
# Variables in scripts

What a definition takes for a name is one token to a script (`Cursor.scans_of_isName`). The token is a
name there as well, and is read as the variable, unless it is a reserved word, which stands for a value
of its own, or the word that starts a loop (`Engine.evaluate_of_isName`). So a script reads what was
defined, but for four words that can be defined all the same (`Variables.evaluate_of_define`).
-/

namespace Stencil

/-! ## Names as tokens -/

/-- No name starts with a digit. -/
theorem Scan.isDecimal_of_startsName {c : Char} (h : startsName c = true) :
    Unicode.isDecimal c = false := by
  refine Bool.eq_false_iff.mpr fun hdecimal => ?_
  have hall : ∀ n ∈ List.range' 48 10, startsName (Char.ofNat n) = false := by decide +kernel
  have hmem : c.toNat ∈ List.range' 48 10 := by
    obtain ⟨hle, hge⟩ := Bool.and_eq_true_iff.mp hdecimal
    have hle : 48 ≤ c.toNat := UInt32.le_iff_toNat_le.mp (of_decide_eq_true hle)
    have hge : c.toNat ≤ 57 := UInt32.le_iff_toNat_le.mp (of_decide_eq_true hge)
    rw [List.mem_range'_1]
    omega
  have hnone := hall _ hmem
  rw [Char.ofNat_toNat, h] at hnone
  cases hnone

namespace Variables

variable {name : List Char} {v : Value}

/-- A name starts as a word of a script does, and goes on so. -/
theorem exists_cons_of_isName (h : isName name = true) : ∃ c s, name = c :: s ∧
    Scan.startsName c = true ∧ ∀ d ∈ name, Scan.continuesName d = true := by
  cases name with
  | nil => cases h
  | cons c s =>
    obtain ⟨hstarts, hgoes⟩ := Bool.and_eq_true_iff.mp h
    refine ⟨c, s, rfl, hstarts, List.forall_mem_cons.mpr ⟨?_, List.all_eq_true.mp hgoes⟩⟩
    exact Scan.continuesName_of_startsName hstarts

/-- What a script takes a name for: a reserved word, or else a name. -/
def token (name : List Char) : Token :=
  ⟨(Kind.ofSpelling? name).getD .identifier, String.ofList name, 0⟩

/-- The reserved words, with the values that they stand for. -/
def reserved : List (List Char × Value) :=
  [("null".toList, .null), ("true".toList, .boolean true), ("false".toList, .boolean false)]

/-- The word that starts a loop. -/
def loopWord : List Char := "each".toList

/-- **A name that is no reserved word is spelled like no other token.** -/
theorem kind_token (h : isName name = true) (hreserved : ∀ entry ∈ reserved, name ≠ entry.1) :
    (token name).kind = .identifier := by
  obtain ⟨c, s, rfl, hstarts, -⟩ := exists_cons_of_isName h
  cases hspelling : Kind.ofSpelling? (c :: s) with
  | none =>
    rw [token, hspelling]
    rfl
  | some kind =>
    have hwords : ∀ entry ∈ Kind.spellings, entry.1.head?.all Scan.startsName = true →
        entry.1 ∈ reserved.map Prod.fst := by decide +kernel
    have hmem := hwords _ (Kind.mem_spellings hspelling) (by simpa using hstarts)
    obtain ⟨entry, hentry, hname⟩ := List.mem_map.mp hmem
    exact absurd hname.symm (hreserved entry hentry)

end Variables

/-- **A name is one token** from beginning to end. -/
theorem Cursor.scans_of_isName {name : List Char} (h : Variables.isName name = true) :
    ∃ after, Scans (.start .program name) [Variables.token name] after ∧ after.rest = [] := by
  obtain ⟨c, s, rfl, hstarts, hgoes⟩ := Variables.exists_cons_of_isName h
  have hquote : c ≠ '\'' := by
    rintro rfl
    revert hstarts
    decide +kernel
  have hblank := Scan.isBlank_of_continuesName (hgoes c List.mem_cons_self)
  have hdecimal := Scan.isDecimal_of_startsName hstarts
  have hword : Scan.ahead .program c s =
      Scan.verbatim ((Kind.ofSpelling? (c :: s)).getD .identifier) (c :: s) := by
    show Scan.inside c s = _
    unfold Scan.inside Scan.word
    rw [hblank, hdecimal, hstarts, List.takeWhile_eq_self_iff.mpr hgoes]
    simp only [Bool.false_eq_true, ↓reduceIte, hquote]
  refine ⟨Cursor.behind .program 0 c s, .token (List.cons_ne_nil _ _) ?_ .refl, ?_⟩
  · exact next_eq_ok.mpr ⟨_, _, by rw [hword]; rfl, rfl, rfl⟩
  · show (c :: s).drop (Scan.ahead .program c s).width = []
    rw [hword]
    exact List.drop_length

/-! ## Names as expressions -/

open Stencil.Parser

/-- A factor by itself is a statement. -/
theorem Parser.Reads.statement_of_factor {n : Nat} {tokens : List Token} {node : Node}
    (h : Reads .eof n tokens (.factor node)) (hstart : ¬ StartsLoop tokens) :
    Reads .eof (n + 1) tokens (.statement node) := by
  have hterm : Reads .eof n tokens (.tier .multiplicative node) := .tier (.operand h) (by decide)
  have hsimple : Reads .eof n tokens (.tier .additive node) := .tier (.operand hterm) (by decide)
  exact .plain (.tier (.operand hsimple) (by decide)) hstart (by decide)

namespace Engine

variable {name : List Char} {node : Node} {n : Nat}

/-- What a name is read as is what it is evaluated as. -/
theorem evaluate_of_reads (host : Host) (hname : Variables.isName name = true)
    (hreads : Reads .eof n [Variables.token name] (.statement node)) (hn : n ≤ maxDepth) :
    evaluate host .value name = ofEvaluation (node.eval host) := by
  obtain ⟨after, hscans, hend⟩ := Cursor.scans_of_isName hname
  exact evaluate_of_scans host hscans hend hreads hn

/-- **A reserved word stands for its value**, whatever is bound. -/
theorem evaluate_reserved (host : Host) {entry : List Char × Value}
    (h : entry ∈ Variables.reserved) : evaluate host .value entry.1 = pure entry.2 := by
  have hliteral (name : List Char) (value : Literal) (hname : Variables.isName name = true)
      (hvalue : (Variables.token name).literal? = some value)
      (hkind : (Variables.token name).kind ≠ .identifier) :
      evaluate host .value name = pure value.value := by
    have hreads := Reads.statement_of_factor (.literal hvalue) (not_startsLoop_cons hkind)
    rw [evaluate_of_reads host hname hreads (by decide), Node.eval]
    rfl
  simp only [Variables.reserved, List.mem_cons, List.not_mem_nil, or_false] at h
  rcases h with rfl | rfl | rfl
  · have hnull : (Variables.token "null".toList).kind = .null := by decide +kernel
    have hreads := Reads.statement_of_factor (.null hnull) (not_startsLoop_cons (hnull ▸ by decide))
    rw [evaluate_of_reads host (by decide +kernel) hreads (by decide), Node.eval]
    rfl
  · exact hliteral "true".toList (.bool true) (by decide +kernel) (by rfl) (by decide +kernel)
  · exact hliteral "false".toList (.bool false) (by decide +kernel) (by rfl) (by decide +kernel)

/-- The word that starts a loop is not read without a loop. -/
theorem evaluate_loopWord (host : Host) : evaluate host .value Variables.loopWord =
    throw (.parse (.grammatical ⟨.eof 4, .loopVariable⟩)) := by
  have hread : failure? (Node.ofText .program Variables.loopWord) =
      some (.grammatical ⟨.eof 4, .loopVariable⟩) := by decide +kernel
  rw [evaluate, failure?_eq_some.mp hread]
  rfl

/-- **A script reads a name as the variable**, unless it is a reserved word or starts a loop. -/
theorem evaluate_of_isName (host : Host) (hname : Variables.isName name = true)
    (hreserved : ∀ entry ∈ Variables.reserved, name ≠ entry.1) (hloop : name ≠ Variables.loopWord) :
    evaluate host .value name = ofEvaluation
      (Evaluation.lookup "VariableAccess" (Variables.token name) (String.ofList name)) := by
  have hkind := Variables.kind_token hname hreserved
  have hstart : ¬ StartsLoop [Variables.token name] := by
    rintro ⟨t, ht, hword⟩
    obtain rfl := Option.mem_some_iff.mp ht
    have htext : String.ofList name = "each" := hword.2
    exact hloop (by rw [Variables.loopWord, ← htext, String.toList_ofList])
  have hreads : Reads .eof 3 [Variables.token name]
      (.statement (.access (.read (Variables.token name)) [])) :=
    .statement_of_factor (.reference (.lastLink (.name hkind (by decide)) (by decide))) hstart
  rw [evaluate_of_reads host hname hreads (by decide), Node.eval]
  · simp only [Link.evalHead, Link.evalMembers, bind_pure]
    rfl
  · exact nofun

end Engine

/-! ## Definitions -/

/-- The text helper takes the place of nothing that is bound. -/
theorem Bindings.get?_withTextHelper {b : Bindings} {name : String} {v : Value}
    (h : b.get? name = some v) : b.withTextHelper.get? name = some v := by
  unfold withTextHelper
  split
  · exact h
  · obtain ⟨e, hentry, hvalue⟩ := Option.map_eq_some_iff.mp h
    have hlookup : b.lookup name = some e := hentry
    rw [get?, entry?, List.lookup_append, hlookup, Option.some_or, Option.map_some, hvalue]

namespace Variables

variable {b b' : Bindings} {definition : List Char}

/-- What a definition that is accepted defines. -/
theorem define_eq_ok (h : define b definition = .ok b') : ∃ before after v,
    splitAssignment? definition = some (before, after) ∧ isName (Text.trim before) = true ∧
      Written.read (Text.trim after) = .ok v ∧ b.set (String.ofList (Text.trim before)) v = .ok b' := by
  unfold define at h
  cases hsplit : splitAssignment? definition with
  | none =>
    rw [hsplit] at h
    cases h
  | some parts =>
    obtain ⟨before, after⟩ := parts
    simp only [hsplit] at h
    cases hname : isName (Text.trim before) with
    | false =>
      simp only [hname, Bool.not_false, ↓reduceIte, reduceCtorEq] at h
    | true =>
      simp only [hname, Bool.not_true, Bool.false_eq_true, ↓reduceIte] at h
      cases hread : Written.read (Text.trim after) with
      | error e =>
        simp only [hread, reduceCtorEq] at h
      | ok v =>
        simp only [hread] at h
        refine ⟨before, after, v, rfl, hname, hread, ?_⟩
        cases hset : b.set (String.ofList (Text.trim before)) v with
        | error e =>
          rw [hset] at h
          cases h
        | ok b'' =>
          rw [hset] at h
          cases h
          rfl

/-- **What is defined is read back, but for four words.** A definition that is accepted binds a name to the
written value. A script that consists of the name has this value, with the bindings as they are.
But if the name is a reserved word, the script has the word's own value instead; and if it is the word
that starts a loop, the script is refused, since it goes on with no loop. -/
theorem evaluate_of_define (host : Host) (h : define b definition = .ok b') :
    ∃ before after v, splitAssignment? definition = some (before, after) ∧
      Written.read (Text.trim after) = .ok v ∧
      b'.get? (String.ofList (Text.trim before)) = some v ∧
      let name := Text.trim before
      let engine := b'.withTextHelper
      ((∀ entry ∈ reserved, name ≠ entry.1) → name ≠ loopWord →
        Engine.evaluate host .value name engine = .ok v engine) ∧
      (∀ entry ∈ reserved, name = entry.1 →
        Engine.evaluate host .value name engine = .ok entry.2 engine) ∧
      (name = loopWord → Engine.evaluate host .value name engine =
        .error (.parse (.grammatical ⟨.eof 4, .loopVariable⟩)) engine) := by
  obtain ⟨before, after, v, hsplit, hname, hread, hset⟩ := define_eq_ok h
  have hbound := Bindings.get?_of_set hset
  refine ⟨before, after, v, hsplit, hread, hbound, fun hreserved hloop => ?_,
    fun entry hentry hsame => ?_, fun hloop => ?_⟩
  · rw [Engine.evaluate_of_isName host hname hreserved hloop, Engine.ofEvaluation,
      Evaluation.lookup_of_some (Bindings.get?_withTextHelper hbound)]
  · rw [hsame, Engine.evaluate_reserved host hentry]
    rfl
  · rw [hloop, Engine.evaluate_loopWord]
    rfl

/-- The word for truth can be bound to five, and still stands for truth. -/
theorem evaluate_defined_true : ∃ b', define [] "true=5".toList = .ok b' ∧
    b'.get? "true" = some (.integer 5) ∧
      Engine.evaluate .empty .value "true".toList b'.withTextHelper =
        .ok (.boolean true) b'.withTextHelper := by
  have hfive : Written.read (Text.trim ['5']) = .ok (.integer 5) := by with_unfolding_all rfl
  have hsplit : splitAssignment? "true=5".toList = some ("true".toList, ['5']) := by decide +kernel
  have hname : Text.trim "true".toList = "true".toList := by decide +kernel
  have hdefined : (define [] "true=5".toList).isOk = true := by decide +kernel
  cases hdefine : define [] "true=5".toList with
  | error e =>
    rw [hdefine] at hdefined
    cases hdefined
  | ok b' =>
    obtain ⟨before, after, v, hparts, hread, hbound, -, hreserved, -⟩ :=
      evaluate_of_define .empty hdefine
    cases hsplit.symm.trans hparts
    cases hfive.symm.trans hread
    rw [hname, String.ofList_toList] at hbound
    refine ⟨b', rfl, hbound, ?_⟩
    have hmem : ("true".toList, Value.boolean true) ∈ reserved :=
      List.mem_cons_of_mem _ List.mem_cons_self
    have hvalue := hreserved _ hmem hname
    rw [hname] at hvalue
    exact hvalue

end Variables

end Stencil
