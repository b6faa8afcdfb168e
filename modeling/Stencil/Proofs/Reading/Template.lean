import Stencil.Proofs.Reading.Whole

/-!
# Templates

A template is read as exactly those fragments that its tokens make (`Node.ofSupply_text_eq_ok`): text
literals, and programs in their braces. Inside the braces blanks do not count; outside there are none.
-/

namespace Stencil

namespace Parser

/-- **Tokens make the fragments of a template.** -/
inductive ReadsFragments : List Token → List Node → Prop
  | nil : ReadsFragments [] []
  | text {t : Token} {ts : List Token} {nodes : List Node} :
      t.kind = .textLiteral → ReadsFragments ts nodes →
      ReadsFragments (t :: ts) (.terminal t (.text t.text) :: nodes)
  | program {n : Nat} {opening closing : Token} {ts us : List Token} {node : Node}
      {nodes : List Node} :
      opening.kind = .lBrace → n ≤ maxDepth → Reads .rBrace n (Token.solid ts) (.statement node) →
      closing.kind = .rBrace → ReadsFragments us nodes →
      ReadsFragments (opening :: (ts ++ closing :: us)) (node :: nodes)

/-! ## One fragment -/

section
variable {s m s' : State} {node : Node} {nodes : List Node} {ts us : List Token} {n : Nat}

/-- A program in braces, with the blanks that are passed. -/
theorem program_eq : program = (do
    let _ ← eat .lBrace .openBrace
    let node ← settled (statement maxDepth)
    let _ ← eat .rBrace .closeBrace
    return node) := by
  simp only [program, settled, bind_assoc, pure_bind, discard_eq]

/-- What is read as a program in braces is derived from what stands between them. -/
theorem derived_program (hdepth : s.depth = 0) (h : program s = .ok node m) :
    ∃ n ≤ maxDepth, ∃ ts closing, s.current.kind = .lBrace ∧ closing.kind = .rBrace ∧
      Reads .rBrace n (Token.solid ts) (.statement node) ∧
      s.front = s.current :: (ts ++ closing :: m.front) ∧ m.depth = 0 ∧ (m.Ends → s.Ends) := by
  rw [program_eq] at h
  obtain ⟨_, s₁, heat, h⟩ := bind_eq_ok.mp h
  obtain ⟨hopening, -, hstep₁, hdepth₁⟩ := eat_eq_ok.mp heat
  obtain ⟨node', s₂, hrun, h⟩ := bind_eq_ok.mp h
  have hd₁ : s₁.depth = 0 := hdepth₁.trans hdepth
  obtain ⟨n, tokens, hspan, hle, hreads⟩ :=
    (sound_readers maxDepth).1 (hd₁.symm ▸ Nat.zero_le _) hrun
  rw [hd₁, Nat.zero_add] at hle
  obtain ⟨_, s₃, heat, h⟩ := bind_eq_ok.mp h
  obtain ⟨hclosing, -, hstep₃, hdepth₃⟩ := eat_eq_ok.mp heat
  obtain ⟨rfl, rfl⟩ := pure_eq_ok.mp h
  have htokens : ∀ t ∈ tokens, t.kind ≠ .eof := fun t ht => (hreads.insideProgram t ht).not_eof
  obtain ⟨ts, hfront, rfl⟩ := hspan.passes.front htokens
  rw [hclosing] at hreads
  refine ⟨n, hle, ts, s₂.current, hopening, hclosing, hreads, ?_, ?_, fun hends => ?_⟩
  · rw [hstep₁.front_eq (by rw [hopening]; decide), hfront,
      hstep₃.front_eq (by rw [hclosing]; decide)]
  · rw [hdepth₃, hspan.depth, hd₁]
  · exact .inr (hstep₁.ends_iff.mpr (hspan.passes.ends (.inr (hstep₃.ends_iff.mpr hends))))

/-- What is derived from what stands between braces is read. -/
theorem program_eq_ok {opening closing : Token} (hends : s.Ends) (hdepth : s.depth = 0)
    (hfront : s.front = opening :: (ts ++ closing :: us)) (hopening : opening.kind = .lBrace)
    (hclosing : closing.kind = .rBrace) (hn : n ≤ maxDepth)
    (hreads : Reads .rBrace n (Token.solid ts) (.statement node)) :
    ∃ m, program s = .ok node m ∧ m.front = us ∧ m.depth = 0 ∧ m.Ends := by
  obtain ⟨rfl, -, s₁, hstep₁, hdepth₁, hfront₁, hends₁⟩ := exists_steps_of_front hends hfront
  obtain ⟨s₂, hpasses, hfront₂, hdepth₂, hends₂⟩ := exists_passes hends₁ hfront₁
  obtain ⟨rfl, -, s₃, hstep₃, hdepth₃, hfront₃, hends₃⟩ := exists_steps_of_front hends₂ hfront₂
  have hspan : Spans s₁ (Token.solid ts) s₂ :=
    ⟨hpasses, by rw [State.Settled, hclosing]; decide, hdepth₂⟩
  have hd₁ : s₁.depth = 0 := hdepth₁.trans hdepth
  have hanswer := ((complete_readers maxDepth).1 trivial (hd₁.symm ▸ Nat.zero_le _)
    (Nat.le_add_left _ _) (hclosing.symm ▸ hreads) hspan).settled
  rw [hd₁, Nat.zero_add] at hanswer
  refine ⟨s₃, ?_, hfront₃, by rw [hdepth₃, hdepth₂, hd₁], hends₃⟩
  rw [program_eq, bind_of_ok (eat_eq_ok.mpr ⟨hopening, rfl, hstep₁, hdepth₁⟩),
    bind_of_ok (hanswer.within hn), bind_of_ok (eat_eq_ok.mpr ⟨hclosing, rfl, hstep₃, hdepth₃⟩)]
  rfl

/-! ## All fragments -/

/-- One fragment, by the token that it starts with. -/
def fragment : Parser Node := do
  let current := (← get).current
  match current.kind with
  | .lBrace => program
  | .textLiteral => terminal (.text current.text)
  | _ => fail .textOrProgram

private theorem fragment_cases (h : fragment s = .ok node m) :
    s.current.kind = .lBrace ∧ program s = .ok node m ∨
      s.current.kind = .textLiteral ∧ terminal (.text s.current.text) s = .ok node m := by
  unfold fragment at h
  rw [bind_of_ok (get_run s)] at h
  cases hkind : s.current.kind <;> simp only [hkind] at h
  case lBrace => exact .inl ⟨rfl, h⟩
  case textLiteral => exact .inr ⟨rfl, h⟩
  all_goals
    rw [fail_run] at h
    cases h

private theorem fragment_of_program (h : s.current.kind = .lBrace) : fragment s = program s := by
  unfold fragment
  rw [bind_of_ok (get_run s)]
  simp only [h]

private theorem fragment_of_text (h : s.current.kind = .textLiteral) :
    fragment s = terminal (.text s.current.text) s := by
  unfold fragment
  rw [bind_of_ok (get_run s)]
  simp only [h]

/-- At the end there are no more fragments. -/
theorem fragmentsUpTo_of_end {bound : Nat} (h : s.current.kind = .eof) :
    fragmentsUpTo bound s = .ok [] s := by
  cases bound with
  | zero =>
    rw [fragmentsUpTo, bind_of_ok (at?_run .eof s), h]
    rfl
  | succ bound =>
    rw [fragmentsUpTo, bind_of_ok (get_run s)]
    simp only [h, ↓reduceIte]
    rfl

/-- Before it there is one, and then the others. -/
theorem fragmentsUpTo_succ {bound : Nat} (h : s.current.kind ≠ .eof) :
    fragmentsUpTo (bound + 1) s = (do
      let node ← fragment
      return node :: (← fragmentsUpTo bound)) s := by
  unfold fragment
  rw [fragmentsUpTo, bind_assoc, bind_of_ok (get_run s), bind_of_ok (get_run s)]
  simp only [h, ↓reduceIte]
  cases s.current.kind <;> rfl

/-- What is read as the fragments of a template is what the tokens make. -/
theorem derived_fragmentsUpTo {bound : Nat} (hdepth : s.depth = 0)
    (h : fragmentsUpTo bound s = .ok nodes s') : s.Ends ∧ ReadsFragments s.front nodes := by
  induction bound generalizing s nodes with
  | zero =>
    by_cases hend : s.current.kind = .eof
    · rw [fragmentsUpTo_of_end hend] at h
      obtain ⟨rfl, rfl⟩ := EStateM.Result.ok.inj h
      rw [State.front, Token.front_of_eof hend]
      exact ⟨.inl hend, .nil⟩
    · rw [fragmentsUpTo, bind_of_ok (at?_run .eof s), beq_eq_false_iff_ne.mpr hend] at h
      cases h
  | succ bound ih =>
    by_cases hend : s.current.kind = .eof
    · rw [fragmentsUpTo_of_end hend] at h
      obtain ⟨rfl, rfl⟩ := EStateM.Result.ok.inj h
      rw [State.front, Token.front_of_eof hend]
      exact ⟨.inl hend, .nil⟩
    · rw [fragmentsUpTo_succ hend] at h
      obtain ⟨node, m, hfragment, h⟩ := bind_eq_ok.mp h
      obtain ⟨rest, m', hrest, h⟩ := bind_eq_ok.mp h
      obtain ⟨rfl, rfl⟩ := pure_eq_ok.mp h
      obtain ⟨-, hprogram⟩ | ⟨htext, hterminal⟩ := fragment_cases hfragment
      · obtain ⟨n, hle, ts, closing, hopening, hclosing, hreads, hfront, hdepth', hends⟩ :=
          derived_program hdepth hprogram
        obtain ⟨hends', hrest⟩ := ih hdepth' hrest
        rw [hfront]
        exact ⟨hends hends', .program hopening hle hreads hclosing hrest⟩
      · obtain ⟨token, r, hadvance, hpure⟩ := bind_eq_ok.mp hterminal
        obtain ⟨rfl, rfl⟩ := pure_eq_ok.mp hpure
        obtain ⟨rfl, hstep, hdepth'⟩ := advance_eq_ok.mp hadvance
        obtain ⟨hends', hrest⟩ := ih (hdepth'.trans hdepth) hrest
        rw [hstep.front_eq hend]
        exact ⟨.inr (hstep.ends_iff.mpr hends'), .text htext hrest⟩

/-- What the tokens make is read as the fragments of a template. -/
theorem fragmentsUpTo_eq_ok (hreads : ReadsFragments ts nodes) {bound : Nat} (hends : s.Ends)
    (hdepth : s.depth = 0) (hfront : s.front = ts) (hbound : nodes.length ≤ bound) :
    ∃ s', fragmentsUpTo bound s = .ok nodes s' := by
  induction hreads generalizing s bound with
  | nil => exact ⟨s, fragmentsUpTo_of_end (State.kind_of_front hfront)⟩
  | text htext _ ih =>
    obtain ⟨bound, rfl⟩ := Nat.exists_eq_add_one_of_ne_zero (Nat.ne_of_gt (Nat.zero_lt_of_lt hbound))
    obtain ⟨rfl, hend, m, hstep, hdepth', hrest, hends'⟩ := exists_steps_of_front hends hfront
    obtain ⟨s', hfragments⟩ := ih hends' (hdepth'.trans hdepth) hrest (Nat.le_of_succ_le_succ hbound)
    have hterminal : terminal (.text s.current.text) s = .ok _ m :=
      bind_of_ok (advance_eq_ok.mpr ⟨rfl, hstep, hdepth'⟩)
    refine ⟨s', ?_⟩
    rw [fragmentsUpTo_succ hend, bind_of_ok ((fragment_of_text htext).trans hterminal),
      bind_of_ok hfragments]
    rfl
  | program hopening hn hreads hclosing _ ih =>
    obtain ⟨bound, rfl⟩ := Nat.exists_eq_add_one_of_ne_zero (Nat.ne_of_gt (Nat.zero_lt_of_lt hbound))
    obtain ⟨m, hprogram, hrest, hdepth', hends'⟩ :=
      program_eq_ok hends hdepth hfront hopening hclosing hn hreads
    obtain ⟨s', hfragments⟩ := ih hends' hdepth' hrest (Nat.le_of_succ_le_succ hbound)
    obtain ⟨rfl, hend, -⟩ := exists_steps_of_front hends hfront
    refine ⟨s', ?_⟩
    rw [fragmentsUpTo_succ hend, bind_of_ok ((fragment_of_program hopening).trans hprogram),
      bind_of_ok hfragments]
    rfl

/-- Every fragment takes a token at least. -/
theorem ReadsFragments.length_le (h : ReadsFragments ts nodes) : nodes.length ≤ ts.length := by
  induction h with
  | nil => exact Nat.le_refl _
  | text _ _ ih => exact Nat.succ_le_succ ih
  | program _ _ _ _ _ ih =>
    simp only [List.length_cons, List.length_append]
    omega

end

end Parser

namespace Node

open Stencil.Parser

/-- **A template is read as the fragments that its tokens make**, with its first token for its own. -/
theorem ofSupply_text_eq_ok {supply : Token.Supply} {node : Node} :
    ofSupply .text supply = .ok node ↔ supply.Ends ∧ ∃ token nodes, supply.pull.1 = .ok token ∧
      ReadsFragments supply.front nodes ∧ node = .template token nodes := by
  show (Parser.template.run supply).1 = .ok node ↔ _
  rw [run_eq_ok]
  constructor
  · rintro ⟨s, s', hstep, hdepth, h⟩
    obtain ⟨_, _, hget, h⟩ := bind_eq_ok.mp h
    obtain ⟨rfl, rfl⟩ := EStateM.Result.ok.inj hget
    obtain ⟨nodes, m, hfragments, h⟩ := bind_eq_ok.mp h
    obtain ⟨rfl, rfl⟩ := pure_eq_ok.mp h
    obtain ⟨hends, hreads⟩ := derived_fragmentsUpTo hdepth hfragments
    rw [hstep.front] at hreads
    exact ⟨hstep.ends_iff.mpr hends, _, nodes, congrArg Prod.fst hstep, hreads, rfl⟩
  · rintro ⟨hends, token, nodes, htoken, hreads, rfl⟩
    obtain ⟨s, hstep, hdepth⟩ := exists_steps (s := State.before supply) hends
    have hpull : supply.pull.1 = .ok s.current := congrArg Prod.fst hstep
    have hfirst : s.current = token := Except.ok.inj (hpull.symm.trans htoken)
    have hfront : supply.front = s.front := hstep.front.symm
    have hbound : nodes.length ≤ s.supply.ahead.length + 1 :=
      calc nodes.length ≤ s.front.length := hfront ▸ hreads.length_le
        _ ≤ (s.current :: s.supply.ahead).length := (List.takeWhile_sublist _).length_le
        _ = s.supply.ahead.length + 1 := List.length_cons
    obtain ⟨s', hfragments⟩ :=
      fragmentsUpTo_eq_ok hreads (hstep.ends_iff.mp hends) hdepth hstep.front hbound
    refine ⟨s, s', hstep, hdepth, ?_⟩
    rw [Parser.template, bind_of_ok (get_run s), bind_of_ok hfragments, hfirst]
    rfl

end Node

end Stencil
