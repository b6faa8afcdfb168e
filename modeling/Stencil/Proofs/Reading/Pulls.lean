import Stencil.Proofs.Reading.Whole

/-!
# Runs pull by pull

How many tokens a run pulls, and what it knows of them. `Pulls p s n` says of a run of `p` from `s` that it
pulls `n` times, nothing behind the end, that what it looks at or complains of in the end is what the
last pull gave, and that another supply that gives the same so many times leads to the same outcome. Runs
one after the other add up (`Pulls.bind_ok`). A reader is `Lazy` if all its runs from a token are of
this kind, and most readers are so because their parts are.

Where a reader counts the tokens ahead, which it could only do by pulling them all, the count is no
more than a bound on its own recursion: `Lazy.bounded` asks that any bound that is large enough leads to
the same outcome.
-/

namespace Stencil

/-! ## Sources -/

namespace Token

/-- What comes of pulling, one pull after the other. -/
abbrev Source := Nat → Except LexError Token

namespace Supply

variable {supply : Supply} {m n i : Nat}

/-- What comes of pulling from a supply. -/
def source (supply : Supply) : Source := fun i =>
  match supply.ahead[i]? with
  | some t => .ok t
  | none => supply.last.map .eof

/-- The supply after so many pulls. -/
def after (supply : Supply) (n : Nat) : Supply :=
  { supply with ahead := supply.ahead.drop n, pulled := supply.pulled + n }

/-- To pull is to see what comes first and to leave what is after it. -/
theorem pull_eq (supply : Supply) : supply.pull = (supply.source 0, supply.after 1) := by
  obtain ⟨_ | ⟨t, ahead⟩, last, pulled⟩ := supply <;> rfl

/-- What comes after some pulls is what comes later. -/
theorem source_after : (supply.after m).source i = supply.source (m + i) := by
  simp only [source, after, List.getElem?_drop]

/-- Pulls one after the other add up. -/
theorem after_after : (supply.after m).after n = supply.after (m + n) := by
  simp only [after, List.drop_drop, Nat.add_assoc]

end Supply

end Token

namespace Parser

variable {α β : Type} {p : Parser α} {f : α → Parser β} {s s' m : State} {a : α} {n k : Nat}
  {t : Token} {e : ParseError} {supply : Token.Supply}

/-! ## Runs -/

/-- The same state with another supply. -/
def State.on (s : State) (supply : Token.Supply) : State := { s with supply }

/-- The token looked at, and then what comes of pulling. -/
def State.seen (s : State) : Token.Source
  | 0 => .ok s.current
  | i + 1 => s.supply.source i

/-- The same outcome with a state changed in some way. -/
def changed (change : State → State) :
    EStateM.Result ParseError State α → EStateM.Result ParseError State α
  | .ok a s => .ok a (change s)
  | .error e s => .error e (change s)

/-- Where there is one more level, reading on it is reading, and then leaving the level. -/
theorem nested_of_lt (h : s.depth < maxDepth) :
    nested p s = changed State.shallower (p (s.atDepth (s.depth + 1))) := by
  unfold nested
  rw [deepen_of_lt h]
  simp only
  cases p (s.atDepth (s.depth + 1)) <;> rfl

/-- The same outcome with another supply left. -/
def onto (supply : Token.Supply) :
    EStateM.Result ParseError State α → EStateM.Result ParseError State α :=
  changed fun s => s.on supply

/-- The outcome is about this: it is what the reader looks at, or what it complains of. -/
def LooksAt (last : Except LexError Token) : EStateM.Result ParseError State α → Prop
  | .ok _ s => last = .ok s.current
  | .error (.grammatical e) _ => last = .ok e.found
  | .error (.lexical e) _ => last = .error e

/-- **A run that pulls so many times.** -/
structure Pulls (p : Parser α) (s : State) (n : Nat) : Prop where
  /-- Nothing is pulled behind the end, or behind what cannot be read. -/
  short : ∀ i < n, ∃ t, s.seen i = .ok t ∧ t.kind ≠ .eof
  /-- The outcome is about what was pulled last. -/
  looks : LooksAt (s.seen n) (p s)
  leaves : (left (p s)).supply = s.supply.after n
  /-- What is not pulled does not matter. -/
  determined : ∀ supply, (∀ i < n, supply.source i = s.supply.source i) →
    p (s.on supply) = onto (supply.after n) (p s)

namespace Pulls

private theorem supply_eq (h : Pulls p s n) (hp : p s = .ok a m) : m.supply = s.supply.after n := by
  have hleaves := h.leaves
  rwa [hp] at hleaves

/-- After a run the same is to be seen as before, so many pulls on. -/
theorem seen_eq (h : Pulls p s n) (hp : p s = .ok a m) (i : Nat) : m.seen i = s.seen (n + i) := by
  cases i with
  | zero =>
    have hlooks := h.looks
    rw [hp] at hlooks
    exact hlooks.symm
  | succ i =>
    show m.supply.source i = s.supply.source (n + i)
    rw [h.supply_eq hp, Token.Supply.source_after]

/-- A run that answers does so on every supply that begins alike. -/
private theorem determined_ok (h : Pulls p s n) (hp : p s = .ok a m)
    (hsupply : ∀ i < n, supply.source i = s.supply.source i) :
    p (s.on supply) = .ok a (m.on (supply.after n)) := by
  rw [h.determined supply hsupply, hp]
  rfl

/-- **The pulls of two runs in a row add up.** -/
theorem bind_ok (h : Pulls p s n) (hp : p s = .ok a m) (hf : Pulls (f a) m k) :
    Pulls (p >>= f) s (n + k) := by
  have hrun : (p >>= f) s = f a m := bind_of_ok hp
  refine ⟨fun i hi => ?_, ?_, ?_, fun supply hsupply => ?_⟩
  · by_cases hlt : i < n
    · exact h.short i hlt
    · obtain ⟨j, rfl⟩ := Nat.exists_eq_add_of_le (Nat.not_lt.mp hlt)
      rw [← h.seen_eq hp]
      exact hf.short j (by omega)
  · rw [hrun, ← h.seen_eq hp]
    exact hf.looks
  · rw [hrun, hf.leaves, h.supply_eq hp, Token.Supply.after_after]
  · have hfirst := h.determined_ok hp fun i hi => hsupply i (by omega)
    have hrest : ∀ i < k, (supply.after n).source i = m.supply.source i := by
      intro i hi
      rw [h.supply_eq hp, Token.Supply.source_after, Token.Supply.source_after]
      exact hsupply (n + i) (by omega)
    rw [bind_of_ok hfirst, hrun, hf.determined _ hrest, Token.Supply.after_after]

/-- What fails at once pulls no more. -/
theorem bind_error (h : Pulls p s n) (hp : p s = .error e m) : Pulls (p >>= f) s n := by
  have hrun : (p >>= f) s = .error e m := bind_of_error hp
  have hlooks := h.looks
  have hleaves := h.leaves
  rw [hp] at hlooks hleaves
  refine ⟨h.short, ?_, ?_, fun supply hsupply => ?_⟩
  · rw [hrun]
    cases e <;> exact hlooks
  · rw [hrun]
    exact hleaves
  · have hfirst := h.determined supply hsupply
    rw [hp] at hfirst
    rw [bind_of_error hfirst, hrun]
    rfl

/-- Readers that do the same with every supply pull the same. -/
theorem congr {q : Parser α} (hq : Pulls q s n)
    (h : ∀ supply, p (s.on supply) = q (s.on supply)) : Pulls p s n := by
  have hrun : p s = q s := h s.supply
  refine ⟨hq.short, hrun ▸ hq.looks, hrun ▸ hq.leaves, fun supply hsupply => ?_⟩
  rw [h, hq.determined supply hsupply, hrun]

/-- How often a run pulls is known from what it leaves. -/
theorem unique {q : Parser α} (h : Pulls p s n) (hq : Pulls q s k) (hrun : p s = q s) : n = k := by
  have hpulled : (s.supply.after n).pulled = (s.supply.after k).pulled := by
    rw [← h.leaves, ← hq.leaves, hrun]
  exact Nat.add_left_cancel hpulled

/-- What has been pulled stood in front of the end. -/
theorem length_front (h : Pulls p s n) (hp : p s = .ok a m) :
    s.front.length = n + m.front.length := by
  have hseen := h.seen_eq hp 0
  have hsupply := h.supply_eq hp
  have hshort := h.short
  -- the induction is on the pulls alone, and the states between them are no states of the run
  clear h hp
  induction n generalizing s with
  | zero =>
    have hcurrent : m.current = s.current := Except.ok.inj hseen
    have hahead : m.supply.ahead = s.supply.ahead := congrArg Token.Supply.ahead hsupply
    rw [Nat.zero_add, State.front, State.front, hcurrent, hahead]
  | succ n ih =>
    obtain ⟨t, ht, hend⟩ := hshort 0 (Nat.zero_lt_succ n)
    cases ht
    obtain ⟨next, hnext⟩ : ∃ next, s.supply.source 0 = .ok next := by
      cases n with
      | zero => exact ⟨m.current, hseen.symm⟩
      | succ n =>
        obtain ⟨next, hnext, -⟩ := hshort 1 (by omega)
        exact ⟨next, hnext⟩
    have hstep : s.Steps ⟨next, s.supply.after 1, s.depth⟩ := by
      unfold State.Steps
      rw [Token.Supply.pull_eq, hnext]
    have hmoved (i : Nat) :
        State.seen ⟨next, s.supply.after 1, s.depth⟩ i = s.seen (i + 1) := by
      cases i with
      | zero => exact hnext.symm
      | succ i =>
        show (s.supply.after 1).source i = s.supply.source (i + 1)
        rw [Token.Supply.source_after, Nat.add_comm]
    have hrest := ih (s := ⟨next, s.supply.after 1, s.depth⟩)
      (by rw [hmoved, hseen]) (by rw [hsupply, Token.Supply.after_after, Nat.add_comm])
      fun i hi => by rw [hmoved]; exact hshort (i + 1) (by omega)
    rw [hstep.front_eq hend, List.length_cons, hrest]
    omega

/-- Where there is one more level, reading on it pulls as often. -/
theorem nested (h : Pulls p (s.atDepth (s.depth + 1)) n) (hlt : s.depth < maxDepth) :
    Pulls (nested p) s n := by
  have hseen : (s.atDepth (s.depth + 1)).seen = s.seen := by
    funext i
    cases i <;> rfl
  obtain ⟨hshort, hlooks, hleaves, hdetermined⟩ := h
  rw [hseen] at hshort hlooks
  refine ⟨hshort, ?_, ?_, fun supply hsupply => ?_⟩
  · rw [nested_of_lt hlt]
    generalize p (s.atDepth (s.depth + 1)) = outcome at hlooks
    rcases outcome with _ | ⟨_ | _, _⟩ <;> exact hlooks
  · rw [nested_of_lt hlt]
    generalize p (s.atDepth (s.depth + 1)) = outcome at hleaves
    cases outcome <;> exact hleaves
  · have hother := hdetermined supply hsupply
    rw [nested_of_lt hlt, nested_of_lt (s := s.on supply) hlt]
    show changed State.shallower (p ((s.atDepth (s.depth + 1)).on supply)) = _
    rw [hother]
    cases p (s.atDepth (s.depth + 1)) <;> rfl

end Pulls

/-! ## Lazy readers -/

/-- **From a token the reader pulls as many times as it needs to**, and so many times at least where it
succeeds. -/
def Lazy (least : Nat) (t : Token) (p : Parser α) : Prop :=
  ∀ s, s.current = t → ∃ n, Pulls p s n ∧ ∀ a s', p s = .ok a s' → least ≤ n

namespace Lazy

variable {least : Nat}

/-- What pulls so many times at least also pulls any fewer times at least. -/
theorem mono {k : Nat} (h : Lazy least t p) (hle : k ≤ least) : Lazy k t p := by
  intro s hs
  obtain ⟨n, hpulls, hleast⟩ := h s hs
  exact ⟨n, hpulls, fun a s' hp => Nat.le_trans hle (hleast a s' hp)⟩

/-- From every state the reader is like some lazy one, whatever its supply. -/
theorem of_forall (h : ∀ s : State, s.current = t → ∃ q, Lazy least t q ∧
    ∀ supply, p (s.on supply) = q (s.on supply)) : Lazy least t p := by
  intro s hs
  obtain ⟨q, hq, hsame⟩ := h s hs
  obtain ⟨n, hpulls, hleast⟩ := hq s hs
  refine ⟨n, hpulls.congr hsame, fun a s' hp => hleast a s' ?_⟩
  rw [← hp]
  exact (hsame s.supply).symm

/-- What pulls nothing. -/
theorem of_nothing (hlooks : ∀ s : State, LooksAt (.ok s.current) (p s))
    (hleaves : ∀ s : State, (left (p s)).supply = s.supply)
    (hother : ∀ (s : State) supply, p (s.on supply) = onto supply (p s)) : Lazy 0 t p := by
  intro s _
  refine ⟨0, ⟨fun i hi => absurd hi (Nat.not_lt_zero i), hlooks s, hleaves s, ?_⟩,
    fun _ _ _ => Nat.zero_le _⟩
  exact fun supply _ => hother s supply

/-- A value alone takes no pull. -/
theorem pure (a : α) : Lazy 0 t (pure a : Parser α) :=
  of_nothing (fun _ => rfl) (fun _ => rfl) fun _ _ => rfl

/-- What fails pulls nothing, and does not succeed. -/
theorem fail (expected : Expected) : Lazy least t (fail expected : Parser α) := by
  intro s hs
  refine ⟨0, ⟨fun i hi => absurd hi (Nat.not_lt_zero i), rfl, rfl, fun _ _ => rfl⟩, ?_⟩
  intro a s' h
  cases h

/-- A token that is not for the end is taken by pulling the next one. -/
theorem advance (ht : t.kind ≠ .eof) : Lazy 1 t advance := by
  rintro s rfl
  refine ⟨1, ?_, fun _ _ _ => Nat.le_refl 1⟩
  have hshort : ∀ i < 1, ∃ u, s.seen i = .ok u ∧ u.kind ≠ .eof := by
    intro i hi
    obtain rfl := Nat.lt_one_iff.mp hi
    exact ⟨s.current, rfl, ht⟩
  have hother (supply : Token.Supply) (hsupply : ∀ i < 1, supply.source i = s.supply.source i) :
      (s.on supply).supply.pull = (s.supply.source 0, supply.after 1) := by
    rw [← hsupply 0 Nat.one_pos]
    exact supply.pull_eq
  have hpull := s.supply.pull_eq
  cases hfound : s.supply.source 0 with
  | ok next =>
    rw [hfound] at hpull hother
    have hrun := advance_of_pull hpull
    refine ⟨hshort, ?_, ?_, fun supply hsupply => ?_⟩
    · rw [hrun]
      exact hfound
    · rw [hrun]
      rfl
    · rw [advance_of_pull (hother supply hsupply), hrun]
      rfl
  | error e =>
    rw [hfound] at hpull hother
    have hrun := advance_of_pull_error hpull
    refine ⟨hshort, ?_, ?_, fun supply hsupply => ?_⟩
    · rw [hrun]
      exact hfound
    · rw [hrun]
      rfl
    · rw [advance_of_pull_error (hother supply hsupply), hrun]
      rfl

/-- And so is a token of which a reader has seen that its kind is another. -/
theorem advance_of_kind {kind : Kind} (hkind : kind ≠ .eof) (h : (t.kind == kind) = true) :
    Lazy 1 t Parser.advance :=
  advance (beq_iff_eq.mp h ▸ hkind)

/-! ### One after the other -/

/-- Lazy readers in a row are lazy. -/
theorem bind {k : Nat} (hp : Lazy least t p)
    (hf : ∀ s a m, s.current = t → p s = .ok a m → Lazy k m.current (f a)) :
    Lazy (least + k) t (p >>= f) := by
  intro s hs
  obtain ⟨n, hpulls, hleast⟩ := hp s hs
  cases hrun : p s with
  | error e m =>
    refine ⟨n, hpulls.bind_error hrun, fun b s' h => ?_⟩
    rw [bind_of_error hrun] at h
    cases h
  | ok a m =>
    obtain ⟨n', hpulls', hleast'⟩ := hf s a m hs hrun m rfl
    refine ⟨n + n', hpulls.bind_ok hrun hpulls', fun b s' h => ?_⟩
    rw [bind_of_ok hrun] at h
    exact Nat.add_le_add (hleast a m hrun) (hleast' b s' h)

/-- They pull as often as the first of them. -/
theorem bind_left (hp : Lazy least t p) (hf : ∀ a u, Lazy 0 u (f a)) : Lazy least t (p >>= f) :=
  hp.bind fun _ a m _ _ => hf a m.current

/-- They pull as often as the second of them. -/
theorem bind_right (hp : Lazy k t p) (hf : ∀ a u, Lazy least u (f a)) : Lazy least t (p >>= f) :=
  (hp.bind fun _ a m _ _ => hf a m.current).mono (Nat.le_add_left least k)

/-- What follows a lazy reader matters only where it has led: to fewer tokens. -/
theorem bind_congr {f g : α → Parser β} (hp : Lazy least s.current p)
    (h : ∀ a m, m.front.length + least ≤ s.front.length → f a m = g a m) :
    (p >>= f) s = (p >>= g) s := by
  obtain ⟨n, hpulls, hleast⟩ := hp s rfl
  cases hrun : p s with
  | error e m => rw [bind_of_error hrun, bind_of_error hrun]
  | ok a m =>
    have hlength := hpulls.length_front hrun
    have hle := hleast a m hrun
    rw [bind_of_ok hrun, bind_of_ok hrun]
    exact h a m (by omega)

/-- A choice pulls as both sides do. -/
theorem ite {c : Prop} [Decidable c] {q : Parser α} (hp : c → Lazy least t p)
    (hq : ¬ c → Lazy least t q) : Lazy least t (if c then p else q) := by
  by_cases hc : c
  · rw [if_pos hc]
    exact hp hc
  · rw [if_neg hc]
    exact hq hc

/-! ### Looking at the token -/

/-- A look at the kind of the token takes no pull. -/
theorem at? {kind : Kind} {f : Bool → Parser α} (h : Lazy least t (f (t.kind == kind))) :
    Lazy least t (at? kind >>= f) :=
  of_forall fun s hs => ⟨_, h, fun supply => by rw [← hs]; exact bind_of_ok (at?_run kind _)⟩

/-- Nor does one for several kinds. -/
theorem atAny? {kinds : List Kind} {f : Bool → Parser α}
    (h : Lazy least t (f (kinds.contains t.kind))) : Lazy least t (atAny? kinds >>= f) :=
  of_forall fun s hs => ⟨_, h, fun supply => by rw [← hs]; exact bind_of_ok (atAny?_run kinds _)⟩

/-- Nor does one for a word. -/
theorem atWord? {word : String} {f : Bool → Parser α}
    (h : Lazy least t (f (decide (t.IsWord word)))) : Lazy least t (atWord? word >>= f) :=
  of_forall fun s hs => ⟨_, h, fun supply => by rw [← hs]; exact bind_of_ok (atWord?_run word _)⟩

/-- A reader may know its state, but not its supply. -/
theorem state {f : State → Parser α} (hsame : ∀ (s : State) supply, f (s.on supply) = f s)
    (h : ∀ s : State, s.current = t → Lazy least t (f s)) : Lazy least t (get >>= f) := by
  refine of_forall fun s hs => ⟨f s, h s hs, fun supply => ?_⟩
  rw [bind_of_ok (get_run (s.on supply)), hsame]

/-! ### Levels -/

/-- Entering a level keeps the token looked at. -/
theorem deepen (h : Lazy least t p) : Lazy least t (do deepen; p) := by
  have hdeepen : Lazy 0 t Parser.deepen := by
    refine of_forall fun s _ => ?_
    by_cases hlt : s.depth < maxDepth
    · refine ⟨modify fun s : State => s.atDepth (s.depth + 1), ?_,
        fun supply => deepen_of_lt (s := s.on supply) hlt⟩
      exact of_nothing (fun _ => rfl) (fun _ => rfl) fun _ _ => rfl
    · exact ⟨_, fail .fewerLevels, fun supply => deepen_of_le (Nat.not_lt.mp hlt)⟩
  refine (hdeepen.bind fun s _ m hs hrun => ?_).mono (Nat.le_add_left least 0)
  by_cases hlt : s.depth < maxDepth
  · rw [deepen_of_lt hlt] at hrun
    obtain ⟨-, rfl⟩ := EStateM.Result.ok.inj hrun
    exact hs.symm ▸ h
  · rw [deepen_of_le (Nat.not_lt.mp hlt)] at hrun
    cases hrun

/-- Levels take no pull. -/
theorem atDepth (d : Nat) : Lazy 0 t (modify fun s => s.atDepth d) :=
  of_nothing (fun _ => rfl) (fun _ => rfl) fun _ _ => rfl

/-- Reading on a level of its own is as lazy as reading. -/
theorem nested (h : Lazy least t p) : Lazy least t (nested p) := by
  intro s hs
  by_cases hlt : s.depth < maxDepth
  · obtain ⟨n, hpulls, hleast⟩ := h (s.atDepth (s.depth + 1)) hs
    refine ⟨n, hpulls.nested hlt, fun a s' hp => ?_⟩
    obtain ⟨-, m, hrun, -⟩ := nested_eq_ok.mp hp
    exact hleast a m hrun
  · have hfail : Lazy least t (Parser.fail .fewerLevels : Parser α) := fail .fewerLevels
    obtain ⟨n, hpulls, hleast⟩ := hfail s hs
    refine ⟨n, hpulls.congr fun supply => nested_of_le (Nat.not_lt.mp hlt), fun a s' hp => ?_⟩
    rw [nested_of_le (Nat.not_lt.mp hlt)] at hp
    cases hp

end Lazy

/-! ## Blanks -/

/-- A blank is taken, and then those behind it are skipped. -/
theorem skipBlanks_of_blank (h : s.current.kind = .whitespace) :
    skipBlanks s = (do let _ ← advance; skipBlanks) s := by
  cases hadvance : advance s with
  | ok token m =>
    obtain ⟨-, hstep, hdepth⟩ := advance_eq_ok.mp hadvance
    rw [bind_of_ok hadvance, skipBlanks_of_steps h hstep hdepth]
  | error e m => rw [bind_of_error hadvance, skipBlanks_of_error h hadvance]

private theorem exists_pulls_skipBlanks (s : State) : ∃ n, Pulls skipBlanks s n := by
  have hnone (s : State) (hs : s.Settled) : ∃ n, Pulls skipBlanks s n := by
    obtain ⟨n, hpulls, -⟩ := Lazy.pure () s rfl
    exact ⟨n, hpulls.congr fun supply => skipBlanks_of_settled (s := s.on supply) hs⟩
  have hmore (s : State) (hblank : s.current.kind = .whitespace)
      (hrest : ∀ m, s.Steps m → ∃ n, Pulls skipBlanks m n) : ∃ n, Pulls skipBlanks s n := by
    have hend : s.current.kind ≠ .eof := by
      rw [hblank]
      decide
    have hsame (supply : Token.Supply) := skipBlanks_of_blank (s := s.on supply) hblank
    obtain ⟨n, hpulls, -⟩ := Lazy.advance hend s rfl
    cases hadvance : advance s with
    | error e m => exact ⟨n, (hpulls.bind_error hadvance).congr hsame⟩
    | ok token m =>
      obtain ⟨k, hpulls'⟩ := hrest m (advance_eq_ok.mp hadvance).2.1
      exact ⟨n + k, (hpulls.bind_ok hadvance hpulls').congr hsame⟩
  generalize hahead : s.supply.ahead = ahead
  induction ahead generalizing s with
  | nil =>
    by_cases hblank : s.current.kind = .whitespace
    · refine hmore s hblank fun m hstep => hnone m ?_
      rw [State.Settled, hstep.kind_of_nil hahead]
      decide
    · exact hnone s hblank
  | cons next ahead ih =>
    by_cases hblank : s.current.kind = .whitespace
    · exact hmore s hblank fun m hstep => ih m (hstep.of_cons hahead).2
    · exact hnone s hblank

namespace Lazy

variable {least : Nat}

/-- Skipping blanks is lazy. -/
theorem skipBlanks : Lazy 0 t skipBlanks := fun s _ =>
  (exists_pulls_skipBlanks s).imp fun _ h => ⟨h, fun _ _ _ => Nat.zero_le _⟩

/-- A reader with the blanks behind it pulls at least as often. -/
theorem settled (h : Lazy least t p) : Lazy least t (settled p) :=
  h.bind_left fun a _ => skipBlanks.bind_left fun _ _ => pure a

/-- A token of some kind is taken by a pull, if it is not the end. -/
theorem eat {kind : Kind} (hkind : kind ≠ .eof) (expected : Expected) :
    Lazy 1 t (eat kind expected) := by
  exact at? (ite (fun hhere => advance_of_kind hkind hhere) fun _ => fail expected)

/-! ### Counts of tokens -/

/-- A reader may count the tokens ahead, if any greater count comes to the same. -/
theorem bounded {q : Nat → Parser α} (hq : ∀ bound, Lazy least t (q bound))
    (hsame : ∀ s : State, ∀ bound, s.supply.ahead.length < bound →
      q (s.supply.ahead.length + 1) s = q bound s) :
    Lazy least t (do q ((← get).supply.ahead.length + 1)) := by
  intro s hs
  have hrun (s : State) : (do q ((← get).supply.ahead.length + 1) : Parser α) s =
      q (s.supply.ahead.length + 1) s := bind_of_ok (get_run s)
  obtain ⟨n, hpulls, hleast⟩ := hq (s.supply.ahead.length + 1) s hs
  refine ⟨n, ⟨hpulls.short, ?_, ?_, fun supply hsupply => ?_⟩, fun a s' hp => ?_⟩
  · rw [hrun]
    exact hpulls.looks
  · rw [hrun]
    exact hpulls.leaves
  · let bound := max s.supply.ahead.length supply.ahead.length + 1
    obtain ⟨n', hpulls', -⟩ := hq bound s hs
    have hhere := hsame s bound (by omega)
    have hthere := hsame (s.on supply) bound (Nat.lt_succ_of_le (Nat.le_max_right _ _))
    obtain rfl := hpulls.unique hpulls' hhere
    rw [hrun, hrun, hthere, hhere, hpulls'.determined supply hsupply]
  · rw [hrun] at hp
    exact hleast a s' hp

end Lazy

end Parser

end Stencil
