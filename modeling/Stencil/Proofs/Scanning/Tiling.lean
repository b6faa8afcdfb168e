import Stencil.Proofs.Scanning.Flaws

/-!
# Tokens tile their text

The tokens of a text stand in it one after the other, with nothing between them: each starts where the
one before it ends, and covers a slice that fits it (`Token.Tiles`). So it is from the front to the end,
or to the first place where no token can be made out (`Lexer.tiles_of_drain`).
-/

namespace Stencil

variable {source before chars behind : List Char} {mode last : Mode} {ts : List Token} {start stop : Nat}

/-! ## Tilings -/

/-- **Tokens tile a text from one place to another**, and the braces among them lead from one mode to
another. -/
inductive Token.Tiles (source : List Char) : Mode → Nat → List Token → Mode → Nat → Prop
  | nil {mode : Mode} {stop : Nat} : Tiles source mode stop [] mode stop
  | cons {mode last : Mode} {t : Token} {ts : List Token} {next stop : Nat} :
      t.offset < next → next ≤ source.length →
      (Slice.of source t.offset next).Fits mode t.kind t.text.toList →
      Tiles source (mode.after t.kind) next ts last stop →
      Tiles source mode t.offset (t :: ts) last stop

namespace Token.Tiles

/-- The first of the tokens, or of those behind them if there are none, stands at the first place. -/
theorem head (h : Tiles source mode start ts last stop) {more : List Token}
    (hmore : ∀ t ∈ more.head?, t.offset = stop) : ∀ t ∈ (ts ++ more).head?, t.offset = start := by
  cases h with
  | nil => exact hmore
  | cons => exact fun u hu => congrArg Token.offset (Option.some.inj hu).symm

/-- The tokens lie between the two places, in the order of where they start. -/
theorem ascends (h : Tiles source mode start ts last stop) :
    start ≤ stop ∧ (∀ t ∈ ts, start ≤ t.offset ∧ t.offset < stop) ∧
      (ts.map Token.offset).Pairwise (· < ·) := by
  induction h with
  | nil => exact ⟨Nat.le_refl _, List.forall_mem_nil _, .nil⟩
  | cons hlt _ _ _ ih =>
    obtain ⟨hle, hts, hpairwise⟩ := ih
    have hstop := Nat.lt_of_lt_of_le hlt hle
    have hthere := fun u hu => Nat.lt_of_lt_of_le hlt (hts u hu).1
    refine ⟨Nat.le_of_lt hstop, List.forall_mem_cons.mpr ⟨⟨Nat.le_refl _, hstop⟩, ?_⟩, ?_⟩
    · exact fun u hu => ⟨Nat.le_of_lt (hthere u hu), (hts u hu).2⟩
    · exact .cons (List.forall_mem_map.mpr hthere) hpairwise

end Token.Tiles

/-! ## What is scanned -/

/-- A slice is known by what stands before it and behind it. -/
theorem Slice.of_append : of (before ++ (chars ++ behind)) before.length
    (before.length + chars.length) = ⟨before, chars, behind⟩ := by
  rw [of, List.extract_eq_take_drop, Nat.add_sub_cancel_left, List.take_left, List.drop_left,
    List.take_left, ← List.drop_drop, List.drop_left, List.drop_left]

namespace Cursor

variable {here after : Cursor}

/-- **What is scanned tiles the text.** -/
theorem Scans.tiles (h : Scans here ts after) (hoffset : here.offset = before.length)
    (hparted : Scan.Parted before here.rest) :
    Token.Tiles (before ++ here.rest) here.mode here.offset ts after.mode after.offset ∧
      after.rest = (before ++ here.rest).drop after.offset := by
  induction h generalizing before with
  | refl => exact ⟨.nil, by rw [hoffset, List.drop_left]⟩
  | @token here mid after t ts hrest hnext _ ih =>
    have hless := rest_lt_of_next hnext hrest
    obtain ⟨mode, offset, _ | ⟨c, s⟩⟩ := here
    · exact absurd rfl hrest
    obtain rfl : offset = before.length := hoffset
    obtain ⟨kind, text, hfound, rfl, hmid⟩ := next_eq_ok.mp hnext
    obtain ⟨chars, behind, hsplit, hwidth, hfits⟩ := Scan.covers_ahead hparted kind text hfound
    have hmid : mid = ⟨mode.after kind, before.length + chars.length, behind⟩ := by
      rw [hmid, Cursor.behind, hwidth, hsplit, List.drop_left, modeAt_of_ahead hfound]
    subst hmid
    simp only [hsplit, List.length_append] at hless ⊢
    have hpos : 0 < chars.length := by omega
    have hlength : before.length + chars.length = (before ++ chars).length := List.length_append.symm
    have hmore := ih hlength (hfits.parted (List.ne_nil_of_length_pos hpos))
    rw [List.append_assoc] at hmore
    let t : Token := ⟨kind, String.ofList text, before.length⟩
    refine ⟨Token.Tiles.cons (t := t) (Nat.lt_add_of_pos_right hpos) ?_ ?_ hmore.1, hmore.2⟩
    · show before.length + chars.length ≤ _
      simp only [List.length_append]
      omega
    · rw [Slice.of_append, String.toList_ofList]
      exact hfits

/-- Where no token can be made out something is left, and something is wrong with it. -/
theorem error_of_next {e : LexError} (h : here.next = (.error e, after)) :
    here.rest ≠ [] ∧ e.offset = here.offset ∧ here.mode = .program ∧ e.flaw.Fits here.rest := by
  obtain ⟨mode, offset, _ | ⟨c, s⟩⟩ := here
  · cases h
  · rw [next_cons] at h
    cases hfound : (Scan.ahead mode c s).outcome <;> rw [hfound] at h <;> cases h
    exact ⟨List.cons_ne_nil c s, rfl, Scan.flaw_of_ahead hfound⟩

end Cursor

/-- **The tokens of a text tile it**, up to the end or to the first place inside the braces where no token
can be made out. The offsets ascend from zero, and the end stands behind all characters. -/
theorem Lexer.tiles_of_drain (mode : Mode) (source : List Char) :
    let tokens := (Lexer.start mode source).drain.1
    (∀ t ∈ tokens.head?, t.offset = 0) ∧ (tokens.map Token.offset).Pairwise (· < ·) ∧
      match (Lexer.start mode source).drain.2.1 with
      | none => ∃ ts last, tokens = ts ++ [⟨.eof, "", source.length⟩] ∧
          Token.Tiles source mode 0 ts last source.length
      | some e => e.offset < source.length ∧ Token.Tiles source mode 0 tokens .program e.offset ∧
          e.flaw.Fits (source.drop e.offset) := by
  have htiles {ts : List Token} {after : Cursor} (h : (Cursor.start mode source).Scans ts after) :
      Token.Tiles source mode 0 ts after.mode after.offset ∧ after.rest = source.drop after.offset :=
    h.tiles rfl Scan.parted_nil
  have hlength {ts : List Token} {after : Cursor} (h : (Cursor.start mode source).Scans ts after) :
      after.offset + after.rest.length = source.length :=
    h.offset_add_length.trans (Nat.zero_add _)
  rcases hfound : (Cursor.start mode source).drain with ⟨tokens, flaw, after⟩
  have hdrain : (Lexer.start mode source).drain =
      (tokens, flaw, { Lexer.start mode source with cursor := after }) := by
    have hcursor : (Lexer.start mode source).cursor.drain = (tokens, flaw, after) := hfound
    rw [Lexer.drain, hcursor]
  rw [hdrain]
  -- the tokens reach the end, or stop at a place where none can be made out
  obtain ⟨rfl, hend, ts, rfl, hscans⟩ | ⟨e, mid, rfl, hscans, hstop⟩ := Cursor.scans_of_drain hfound
  · have hlength := hlength hscans
    have htiles := (htiles hscans).1
    rw [hend, List.length_nil, Nat.add_zero] at hlength
    rw [hlength] at htiles ⊢
    obtain ⟨-, hts, hpairwise⟩ := htiles.ascends
    have hhead : ∀ t ∈ [Token.eof source.length].head?, t.offset = source.length :=
      fun t ht => congrArg Token.offset (Option.some.inj ht).symm
    refine ⟨htiles.head hhead, ?_, ts, after.mode, rfl, htiles⟩
    rw [List.map_append, List.pairwise_append]
    refine ⟨hpairwise, List.pairwise_singleton _ _, fun offset hmem offset' hmem' => ?_⟩
    obtain ⟨t, ht, rfl⟩ := List.mem_map.mp hmem
    rw [List.mem_singleton.mp hmem']
    exact (hts t ht).2
  · obtain ⟨hrest, hoffset, hmode, hflaw⟩ := Cursor.error_of_next hstop
    have hpos := List.length_pos_iff.mpr hrest
    have hlength := hlength hscans
    obtain ⟨htiles, hdrop⟩ := htiles hscans
    rw [hdrop] at hflaw
    rw [← hoffset] at htiles hlength hflaw
    rw [hmode] at htiles
    have hnone : ∀ t ∈ ([] : List Token).head?, t.offset = e.offset :=
      fun t ht => absurd ht (Option.not_mem_none t)
    have hhead := htiles.head hnone
    rw [List.append_nil] at hhead
    exact ⟨hhead, htiles.ascends.2.2, by omega, htiles, hflaw⟩

end Stencil
