import Stencil.Proofs.Written.Scalars

/-!
# Lists in writing

A list is written with brackets around the written forms of its items, and commas between them. Where a
list is taken apart, a backslash in quotes takes the meaning from whatever stands behind it, while to
what is read from quotes it means something before a quote only. So a text may be taken to end where it
does not (`Written.staysWhole`). A list is read back exactly if none of its texts is, and otherwise
nothing is read (`Scalar.read_writeList_iff`).
-/

namespace Stencil

namespace Written

variable {s text before rest item more : List Char} {items : List (List Char)} {c : Char}
  {inQuotes inQuotes' : Bool}

/-- Does a text that is put in quotes stay in one piece where a list is taken apart? A quote of the text
that an odd number of backslashes stand before is taken for the closing one, and the next quote for an
opening one. Between these two a comma separates items, and at the end the quotes have to be open. -/
def staysWhole : (inQuotes : Bool) → (text : List Char) → Bool
  | inQuotes, [] => inQuotes
  | true, '\\' :: '\'' :: s => staysWhole false s
  | true, '\\' :: _ :: s => staysWhole true s
  | true, _ :: s => staysWhole true s
  | false, '\'' :: s => staysWhole true s
  | false, ',' :: _ => false
  | false, _ :: s => staysWhole false s

/-- A text with no quote directly behind a backslash stays in one piece. -/
theorem staysWhole_of_no_backslash_quote (h : ¬ ['\\', '\''] <:+: text) : staysWhole true text = true := by
  generalize hquotes : true = inQuotes
  induction inQuotes, text using staysWhole.induct with
  | case1 inQuotes => exact hquotes ▸ rfl
  | case2 s ih => exact absurd (List.prefix_append ['\\', '\''] s).isInfix h
  | case3 c s hquote ih =>
    rw [staysWhole]
    · exact ih (fun hs => h (List.infix_cons (List.infix_cons hs))) rfl
    · exact hquote
  | case4 c s hescaped hpair ih =>
    rw [staysWhole.eq_4 c s hescaped hpair]
    exact ih (fun hs => h (List.infix_cons hs)) rfl
  | case5 s ih => cases hquotes
  | case6 s => cases hquotes
  | case7 c s hquote hcomma ih => cases hquotes

/-! ## One character after the other -/

private theorem splitItems?_quote :
    splitItems? inQuotes before ('\'' :: s) = splitItems? (!inQuotes) ('\'' :: before) s := by
  rw [splitItems?]

private theorem splitItems?_comma :
    splitItems? false before (',' :: s) = (splitItems? false [] s).map (Text.trim before.reverse :: ·) := by
  rw [splitItems?, if_neg Bool.false_ne_true]

private theorem splitItems?_backslash :
    splitItems? true before ('\\' :: c :: s) = splitItems? true (c :: '\\' :: before) s := by
  rw [splitItems?, if_pos rfl]

private theorem splitItems?_inside (hquote : c ≠ '\'') (hbackslash : c ≠ '\\') :
    splitItems? true before (c :: s) = splitItems? true (c :: before) s := by
  by_cases hcomma : c = ','
  · rw [hcomma, splitItems?, if_pos rfl]
  · rw [splitItems?.eq_5 _ _ _ _ hquote hcomma fun _ _ h => absurd h hbackslash]

private theorem splitItems?_outside (hquote : c ≠ '\'') (hcomma : c ≠ ',') :
    splitItems? false before (c :: s) = splitItems? false (c :: before) s := by
  by_cases hbackslash : c = '\\'
  · cases s with
    | nil => rw [splitItems?.eq_5 _ _ _ _ hquote hcomma fun _ _ _ h => by cases h]
    | cons d s => rw [hbackslash, splitItems?, if_neg Bool.false_ne_true]
  · rw [splitItems?.eq_5 _ _ _ _ hquote hcomma fun _ _ h => absurd h hbackslash]

/-- **Characters of one item**: no comma among them separates. What is said of both ends is whether they
are in quotes. -/
inductive InOneItem : Bool → List Char → Bool → Prop
  | nil {inQuotes : Bool} : InOneItem inQuotes [] inQuotes
  | quote {inQuotes after : Bool} {s : List Char} :
      InOneItem (!inQuotes) s after → InOneItem inQuotes ('\'' :: s) after
  | backslash {after : Bool} {c : Char} {s : List Char} :
      InOneItem true s after → InOneItem true ('\\' :: c :: s) after
  | inside {after : Bool} {c : Char} {s : List Char} :
      c ≠ '\'' → c ≠ '\\' → InOneItem true s after → InOneItem true (c :: s) after
  | outside {after : Bool} {c : Char} {s : List Char} :
      c ≠ '\'' → c ≠ ',' → InOneItem false s after → InOneItem false (c :: s) after

/-- Characters of one item and then more of it. -/
theorem InOneItem.append {mid after : Bool} {t : List Char} (h : InOneItem inQuotes s mid)
    (h' : InOneItem mid t after) : InOneItem inQuotes (s ++ t) after := by
  induction h with
  | nil => exact h'
  | quote _ ih => exact .quote (ih h')
  | backslash _ ih => exact .backslash (ih h')
  | inside hquote hbackslash _ ih => exact .inside hquote hbackslash (ih h')
  | outside hquote hcomma _ ih => exact .outside hquote hcomma (ih h')

/-- The characters of one item are read one after the other. -/
theorem splitItems?_of_inOneItem {after : Bool} (h : InOneItem inQuotes s after) :
    splitItems? inQuotes before (s ++ rest) = splitItems? after (s.reverse ++ before) rest := by
  induction h generalizing before with
  | nil => rfl
  | quote _ ih => rw [List.cons_append, splitItems?_quote, ih, List.reverse_cons, List.append_assoc]; rfl
  | backslash _ ih =>
    rw [List.cons_append, List.cons_append, splitItems?_backslash, ih]
    simp only [List.reverse_cons, List.append_assoc, List.cons_append, List.nil_append]
  | inside hquote hbackslash _ ih =>
    rw [List.cons_append, splitItems?_inside hquote hbackslash, ih, List.reverse_cons, List.append_assoc]
    rfl
  | outside hquote hcomma _ ih =>
    rw [List.cons_append, splitItems?_outside hquote hcomma, ih, List.reverse_cons, List.append_assoc]
    rfl

/-- The first item begins with what was read of it before. -/
theorem exists_head_of_splitItems? (h : splitItems? inQuotes before s = some items) :
    ∃ front others, items = Text.trim (before.reverse ++ front) :: others := by
  have hstep {c : Char} {before : List Char} (h : ∃ front others,
      items = Text.trim ((c :: before).reverse ++ front) :: others) :
      ∃ front others, items = Text.trim (before.reverse ++ front) :: others := by
    obtain ⟨front, others, rfl⟩ := h
    exact ⟨c :: front, others, by simp⟩
  induction inQuotes, before, s using splitItems?.induct with
  | case1 before =>
    rw [splitItems?, if_pos rfl] at h
    cases h
  | case2 inQuotes before hquotes =>
    rw [splitItems?, if_neg hquotes] at h
    cases h
    exact ⟨[], [], by rw [List.append_nil]⟩
  | case3 inQuotes before s ih =>
    rw [splitItems?_quote] at h
    exact hstep (ih h)
  | case4 before s ih =>
    rw [splitItems?_inside (by decide) (by decide)] at h
    exact hstep (ih h)
  | case5 inQuotes before s hquotes ih =>
    rw [Bool.eq_false_iff.mpr hquotes, splitItems?_comma, Option.map_eq_some_iff] at h
    obtain ⟨others, -, rfl⟩ := h
    exact ⟨[], others, by rw [List.append_nil]⟩
  | case6 before c s ih =>
    rw [splitItems?_backslash] at h
    exact hstep (hstep (ih h))
  | case7 inQuotes before c s hquotes ih =>
    rw [Bool.eq_false_iff.mpr hquotes, splitItems?_outside (by decide) (by decide)] at h
    exact hstep (ih h)
  | case8 inQuotes before c s hquote hcomma hbackslash ih =>
    rw [splitItems?.eq_5 _ _ _ _ hquote hcomma hbackslash] at h
    exact hstep (ih h)

/-! ## Texts -/

/-- A text that stays whole belongs to one item together with its closing quote. One that does not is
taken to go on behind the closing quote, or to end at a comma inside. -/
def Parted (inQuotes : Bool) (text : List Char) : Prop :=
  if staysWhole inQuotes text then InOneItem inQuotes (escape text ++ ['\'']) false
  else InOneItem inQuotes (escape text ++ ['\'']) true ∨
    ∃ front behind, escape text = front ++ ',' :: behind ∧ InOneItem inQuotes front false

/-- More characters of the item in front do not change that. -/
theorem Parted.of_append {front text text' : List Char} (h : Parted inQuotes' text')
    (hfront : InOneItem inQuotes front inQuotes') (hescape : escape text = front ++ escape text')
    (hwhole : staysWhole inQuotes text = staysWhole inQuotes' text') : Parted inQuotes text := by
  unfold Parted at h ⊢
  rw [hescape, hwhole, List.append_assoc]
  split at h
  · next hwhole' => rw [if_pos hwhole']; exact hfront.append h
  · next hwhole' =>
    rw [if_neg hwhole']
    rcases h with hopen | ⟨front', behind, hcomma, hinside⟩
    · exact .inl (hfront.append hopen)
    · exact .inr ⟨front ++ front', behind, by rw [hcomma, List.append_assoc], hfront.append hinside⟩

/-- A text that can be put in quotes stays whole or is parted, as the quotes in it are counted. -/
private theorem parted_of_quotable (hquotable : Quotable text) : Parted inQuotes text := by
  induction inQuotes, text using staysWhole.induct with
  | case1 inQuotes =>
    cases inQuotes with
    | true => exact .quote .nil
    | false => exact .inl (.quote .nil)
  | case2 s ih =>
    have hs := (quotable_cons.mp (quotable_cons.mp hquotable).1).1
    have hfront : InOneItem true ['\\', '\\', '\''] false := .backslash (.quote .nil)
    apply (ih hs).of_append hfront
    · rw [escape_cons (by decide), escape_quote]
      rfl
    · rw [staysWhole]
  | case3 c s hquote ih =>
    have hs := (quotable_cons.mp (quotable_cons.mp hquotable).1).1
    have hfront : InOneItem true ['\\', c] true := .backslash .nil
    apply (ih hs).of_append hfront
    · rw [escape_cons (by decide), escape_cons hquote]
      rfl
    · rw [staysWhole]
      exact hquote
  | case4 c s hescaped hpair ih =>
    obtain ⟨hs, hlast⟩ := quotable_cons.mp hquotable
    have hbackslash : c ≠ '\\' := by
      intro hc
      cases s with
      | nil => exact hlast rfl hc
      | cons d s => exact hpair d s hc rfl
    have hwhole : staysWhole true (c :: s) = staysWhole true s :=
      staysWhole.eq_4 c s hescaped hpair
    by_cases hquote : c = '\''
    · subst hquote
      have hfront : InOneItem true ['\\', '\''] true := .backslash .nil
      exact (ih hs).of_append hfront (escape_quote s) hwhole
    · have hfront : InOneItem true [c] true := .inside hquote hbackslash .nil
      exact (ih hs).of_append hfront (escape_cons hquote) hwhole
  | case5 s ih =>
    have hs := (quotable_cons.mp hquotable).1
    have hfront : InOneItem false ['\\', '\''] true :=
      .outside (by decide) (by decide) (.quote .nil)
    apply (ih hs).of_append hfront (escape_quote s)
    rw [staysWhole]
  | case6 s => exact .inr ⟨[], escape s, escape_cons (by decide), .nil⟩
  | case7 c s hquote hcomma ih =>
    have hs := (quotable_cons.mp hquotable).1
    have hfront : InOneItem false [c] false := .outside hquote hcomma .nil
    exact (ih hs).of_append hfront (escape_cons hquote) (staysWhole.eq_7 c s hquote hcomma)

/-! ## Items -/

/-- A text and what follows its closing quote can be told from the characters. -/
theorem eq_of_escape_append {text' behind behind' : List Char} (htext : Quotable text)
    (htext' : Quotable text')
    (h : escape text ++ '\'' :: behind = escape text' ++ '\'' :: behind') : behind = behind' := by
  have hread := Scan.quoted?_escape htext behind
  rw [h, Scan.quoted?_escape htext' behind'] at hread
  obtain rfl : text' = text := congrArg Prod.fst (Option.some.inj hread)
  exact (List.cons.inj (List.append_cancel_left h)).2

/-- An item that begins with a quote is read only up to its closing quote, with blanks behind it. -/
theorem exists_of_readItem_quote {v : Value} (h : readItem (Text.trim ('\'' :: s)) = .ok v) :
    ∃ text back, Quotable text ∧ s = escape text ++ '\'' :: back ∧
      ∀ c ∈ back, Unicode.isBlank c = true := by
  have hquote : Unicode.isBlank '\'' = false := by decide +kernel
  obtain ⟨inner, back, htrim, rfl, hback⟩ := Text.exists_trim_cons hquote s
  rw [htrim, readItem, if_neg (by simp)] at h
  obtain ⟨text, -, hquotable, rfl⟩ := readScalar_quote_cons_eq_ok.mp h
  exact ⟨text.toList, back, hquotable, by simp, hback⟩

/-- An item that goes on behind its closing quote is not read. -/
theorem readItem_behind_quote {v : Value} (htext : Quotable text) :
    readItem (Text.trim ('\'' :: (escape text ++ '\'' :: ',' :: s))) ≠ .ok v := by
  intro hread
  obtain ⟨text', back, htext', hsame, hback⟩ := exists_of_readItem_quote hread
  obtain rfl : ',' :: s = back := eq_of_escape_append htext htext' hsame
  exact absurd (hback ',' List.mem_cons_self) (by decide +kernel)

/-- An item that ends before a comma in quotes is not read. -/
theorem readItem_before_comma {behind : List Char} {v : Value} (htext : Quotable text)
    (hescape : escape text = s ++ ',' :: behind) : readItem (Text.trim ('\'' :: s)) ≠ .ok v := by
  intro hread
  obtain ⟨text', back, htext', rfl, -⟩ := exists_of_readItem_quote hread
  have hsame : escape text ++ ['\''] = escape text' ++ '\'' :: (back ++ ',' :: (behind ++ ['\''])) := by
    simp [hescape]
  have hnil : [] = back ++ ',' :: (behind ++ ['\'']) := eq_of_escape_append htext htext' hsame
  exact List.append_ne_nil_of_right_ne_nil back (List.cons_ne_nil _ _) hnil.symm

/-- Nothing is read if one of the items is not. -/
theorem mapM_readItem_cons {vs : List Value} : (item :: items).mapM readItem = .ok vs ↔
    ∃ v others, readItem item = .ok v ∧ items.mapM readItem = .ok others ∧ vs = v :: others := by
  rw [List.mapM_cons]
  cases readItem item with
  | error e => simp [bind, Except.bind]
  | ok v =>
    cases items.mapM readItem with
    | error e => simp [bind, Except.bind]
    | ok others => simp [bind, Except.bind, pure, Except.pure, eq_comm]

/-- The items of a list that is not blank. -/
theorem readItems_eq_ok {inner : List Char} {vs : List Value} (h : Text.trim inner ≠ []) :
    readItems inner = .ok vs ↔
      ∃ items, splitItems? false [] inner = some items ∧ items.mapM readItem = .ok vs := by
  have hne : ¬ (Text.trim inner).isEmpty = true := fun hempty => h (List.isEmpty_iff.mp hempty)
  rw [readItems, if_neg hne]
  cases splitItems? false [] inner with
  | none => simp
  | some items => simp

private theorem read_brackets (inner : List Char) :
    read ('[' :: (inner ++ [']'])) = (readItems inner).map .list := by
  simp [Written.read]

end Written

/-! ## Lists -/

namespace Scalar

open Stencil.Written

variable {p : Scalar} {ps : List Scalar} {before rest : List Char} {items : List (List Char)}

/-- Does the value stay in one piece where a list is taken apart? -/
def StaysWhole : Scalar → Prop
  | text s _ => staysWhole true s.toList = true
  | _ => True

/-- The written forms of values with commas between them. -/
def writeItems (ps : List Scalar) : List Char := [',', ' '].intercalate (ps.map write)

/-- A list of values in writing. -/
def writeList (ps : List Scalar) : List Char := '[' :: (writeItems ps ++ [']'])

private theorem inOneItem_of_isBare {s : List Char} (h : ∀ c ∈ s, isBare c = true) :
    InOneItem false s false := by
  induction s with
  | nil => exact .nil
  | cons c s ih =>
    rw [List.forall_mem_cons] at h
    have hquote : c ≠ '\'' := ne_of_isBare h.1 (by decide)
    have hcomma : c ≠ ',' := ne_of_isBare h.1 (by decide)
    exact .outside hquote hcomma (ih h.2)

/-- A value that stays whole is one item. -/
theorem inOneItem_write (h : p.StaysWhole) : InOneItem false p.write false := by
  rcases write_cases p with ⟨s, quotable, rfl⟩ | ⟨-, hbare⟩
  · have hwhole : staysWhole true s.toList = true := h
    have hparted : Parted true s.toList := parted_of_quotable quotable
    rw [Parted, if_pos hwhole] at hparted
    exact .quote hparted
  · exact inOneItem_of_isBare hbare

private theorem readItem_write (p : Scalar) : readItem p.write = .ok p.value := by
  obtain ⟨-, hhead, -⟩ := ends_write p
  have hbracket : p.write.head? ≠ some '[' := by
    intro h
    rcases hhead '[' h with hquote | hbare
    · exact absurd hquote (by decide)
    · exact absurd hbare (by decide)
  rw [readItem, if_neg hbracket]
  exact (read_write p).1

private theorem mapM_readItem_write_cons {vs : List Value} : (p.write :: items).mapM readItem = .ok vs ↔
    ∃ others, items.mapM readItem = .ok others ∧ vs = p.value :: others := by
  rw [mapM_readItem_cons, readItem_write]
  constructor
  · rintro ⟨v, others, hv, hothers, rfl⟩
    cases hv
    exact ⟨others, hothers, rfl⟩
  · rintro ⟨others, hothers, rfl⟩
    exact ⟨p.value, others, rfl, hothers, rfl⟩

/-- Only texts do not. -/
theorem exists_text_of_not_staysWhole (h : ¬ p.StaysWhole) :
    ∃ s quotable, p = text s quotable ∧ ¬ staysWhole true s.toList = true := by
  cases p with
  | null => exact absurd trivial h
  | boolean b => exact absurd trivial h
  | integer n => exact absurd trivial h
  | text s quotable => exact ⟨s, quotable, rfl, h⟩

/-- The first of the items is not read if its value does not stay whole. -/
theorem exists_head_of_not_staysWhole (hp : ¬ p.StaysWhole)
    (hbefore : ∀ c ∈ before, Unicode.isBlank c = true) (hrest : ∀ c ∈ rest.head?, c = ',')
    (hsplit : splitItems? false before (p.write ++ rest) = some items) :
    ∃ item others, items = item :: others ∧ ∀ v, readItem item ≠ .ok v := by
  obtain ⟨s, quotable, rfl, hwhole⟩ := exists_text_of_not_staysWhole hp
  have hparted : Parted true s.toList := parted_of_quotable quotable
  rw [Parted, if_neg hwhole] at hparted
  rcases hparted with hopen | ⟨front, behind, hescape, hinside⟩
  · -- The closing quote opens, and the item has no end or goes on at the comma.
    have hwrite : InOneItem false (write (text s quotable)) true := .quote hopen
    rw [splitItems?_of_inOneItem hwrite] at hsplit
    cases rest with
    | nil =>
      rw [splitItems?, if_pos rfl] at hsplit
      cases hsplit
    | cons c rest =>
      obtain rfl : c = ',' := hrest c rfl
      rw [splitItems?_inside (by decide) (by decide)] at hsplit
      obtain ⟨more, others, rfl⟩ := exists_head_of_splitItems? hsplit
      have hitem : (',' :: ((write (text s quotable)).reverse ++ before)).reverse ++ more =
          before.reverse ++ '\'' :: (escape s.toList ++ '\'' :: ',' :: more) := by
        simp [write, quote]
      rw [hitem, Text.trim_reverse_append hbefore]
      exact ⟨_, others, rfl, fun v => readItem_behind_quote quotable⟩
  · -- A comma of the text separates.
    have hfront : InOneItem false ('\'' :: front) false := .quote hinside
    have hwrite : write (text s quotable) ++ rest =
        ('\'' :: front) ++ ',' :: (behind ++ '\'' :: rest) := by
      simp [write, quote, hescape]
    rw [hwrite, splitItems?_of_inOneItem hfront, splitItems?_comma, Option.map_eq_some_iff] at hsplit
    obtain ⟨others, -, rfl⟩ := hsplit
    have hitem : (('\'' :: front).reverse ++ before).reverse = before.reverse ++ '\'' :: front := by
      simp
    rw [hitem, Text.trim_reverse_append hbefore]
    exact ⟨_, others, rfl, fun v => readItem_before_comma quotable hescape⟩

private theorem writeItems_cons_cons (p q : Scalar) (ps : List Scalar) :
    writeItems (p :: q :: ps) = p.write ++ ',' :: ' ' :: writeItems (q :: ps) := by
  simp [writeItems, List.intercalate_cons_cons]

private theorem exists_writeItems_cons (p : Scalar) (ps : List Scalar) :
    ∃ rest, writeItems (p :: ps) = p.write ++ rest ∧ ∀ c ∈ rest.head?, c = ',' := by
  cases ps with
  | nil => exact ⟨[], by simp [writeItems], nofun⟩
  | cons q ps => exact ⟨_, writeItems_cons_cons p q ps, fun c hc => (Option.some.inj hc).symm⟩

/-- The next item comes behind the comma after an item that stays whole. -/
theorem splitItems?_writeItems_cons (hp : p.StaysWhole)
    (hbefore : ∀ c ∈ before, Unicode.isBlank c = true) :
    splitItems? false before (writeItems (p :: ps)) =
      if ps = [] then some [p.write]
      else (splitItems? false [' '] (writeItems ps)).map (p.write :: ·) := by
  have htrim : Text.trim (p.write.reverse ++ before).reverse = p.write := by
    rw [List.reverse_append, List.reverse_reverse, Text.trim_reverse_append hbefore, trim_write]
  cases ps with
  | nil =>
    have hone : writeItems [p] = p.write ++ [] := by simp [writeItems]
    rw [hone, splitItems?_of_inOneItem (inOneItem_write hp), splitItems?, if_neg Bool.false_ne_true,
      htrim, if_pos rfl]
  | cons q ps =>
    rw [writeItems_cons_cons, splitItems?_of_inOneItem (inOneItem_write hp), splitItems?_comma,
      splitItems?_outside (by decide) (by decide), htrim, if_neg (List.cons_ne_nil q ps)]

/-- **The items are read exactly if the values stay whole**, and then as these values. -/
theorem exists_items_iff (hps : ps ≠ []) (hbefore : ∀ c ∈ before, Unicode.isBlank c = true)
    {vs : List Value} :
    (∃ items, splitItems? false before (writeItems ps) = some items ∧ items.mapM readItem = .ok vs) ↔
      (∀ p ∈ ps, p.StaysWhole) ∧ vs = ps.map value := by
  induction ps generalizing before vs with
  | nil => exact absurd rfl hps
  | cons p ps ih =>
    have hbehind : ∀ c ∈ [' '], Unicode.isBlank c = true :=
      List.forall_mem_singleton.mpr (by decide +kernel)
    rw [List.forall_mem_cons, List.map_cons]
    constructor
    · rintro ⟨items, hsplit, hread⟩
      -- a first value that does not stay whole gives an item that is not read
      have hp : p.StaysWhole := by
        by_contra hp
        obtain ⟨rest, hrest, hcomma⟩ := exists_writeItems_cons p ps
        rw [hrest] at hsplit
        obtain ⟨item, others, rfl, hitem⟩ := exists_head_of_not_staysWhole hp hbefore hcomma hsplit
        obtain ⟨v, _, hv, -, -⟩ := mapM_readItem_cons.mp hread
        exact hitem v hv
      rw [splitItems?_writeItems_cons hp hbefore] at hsplit
      split at hsplit
      · next hnil =>
        subst hnil
        cases hsplit
        obtain ⟨others, hothers, rfl⟩ := mapM_readItem_write_cons.mp hread
        cases hothers
        exact ⟨⟨hp, nofun⟩, rfl⟩
      · next hne =>
        obtain ⟨items', hsplit', rfl⟩ := Option.map_eq_some_iff.mp hsplit
        obtain ⟨others, hothers, rfl⟩ := mapM_readItem_write_cons.mp hread
        obtain ⟨hwhole, rfl⟩ := (ih hne hbehind).mp ⟨items', hsplit', hothers⟩
        exact ⟨⟨hp, hwhole⟩, rfl⟩
    · rintro ⟨⟨hp, hwhole⟩, rfl⟩
      rw [splitItems?_writeItems_cons hp hbefore]
      by_cases hnil : ps = []
      · subst hnil
        exact ⟨_, if_pos rfl, mapM_readItem_write_cons.mpr ⟨[], rfl, rfl⟩⟩
      · obtain ⟨items, hsplit, hread⟩ := (ih hnil hbehind).mpr ⟨hwhole, rfl⟩
        rw [if_neg hnil, hsplit]
        exact ⟨_, rfl, mapM_readItem_write_cons.mpr ⟨_, hread, rfl⟩⟩

/-- What stands between the brackets is not blank. -/
theorem trim_writeItems_ne_nil (hps : ps ≠ []) : Text.trim (writeItems ps) ≠ [] := by
  cases ps with
  | nil => exact absurd rfl hps
  | cons p ps =>
    obtain ⟨rest, hrest, -⟩ := exists_writeItems_cons p ps
    obtain ⟨hne, hhead, -⟩ := ends_write p
    rw [hrest]
    cases hwrite : p.write with
    | nil => exact absurd hwrite hne
    | cons c s =>
      have hblank : Unicode.isBlank c = false := isBlank_of_end (hhead c (by rw [hwrite]; rfl))
      obtain ⟨t, -, htrim, -⟩ := Text.exists_trim_cons hblank (s ++ rest)
      rw [List.cons_append, htrim]
      exact List.cons_ne_nil c t

private theorem staysWhole_of_text
    (h : ∀ s quotable, p = text s quotable → ¬ ['\\', '\''] <:+: s.toList) :
    p.StaysWhole := by
  by_contra hp
  obtain ⟨s, quotable, rfl, hwhole⟩ := exists_text_of_not_staysWhole hp
  exact hwhole (staysWhole_of_no_backslash_quote (h s quotable rfl))

/-- A written list is read as its values exactly where each of them stays whole. -/
private theorem read_writeList_eq_ok (hps : ps ≠ []) {v : Value} : Written.read (writeList ps) = .ok v ↔
    (∀ p ∈ ps, p.StaysWhole) ∧ v = .list (ps.map value) := by
  have hitems {vs : List Value} : readItems (writeItems ps) = .ok vs ↔
      (∀ p ∈ ps, p.StaysWhole) ∧ vs = ps.map value := by
    rw [readItems_eq_ok (trim_writeItems_ne_nil hps), exists_items_iff hps (List.forall_mem_nil _)]
  rw [writeList, read_brackets]
  constructor
  · intro hread
    cases hvs : readItems (writeItems ps) with
    | error e =>
      rw [hvs] at hread
      cases hread
    | ok vs =>
      rw [hvs] at hread
      cases hread
      obtain ⟨hwhole, rfl⟩ := hitems.mp hvs
      exact ⟨hwhole, rfl⟩
  · rintro ⟨hwhole, rfl⟩
    rw [hitems.mpr ⟨hwhole, rfl⟩]
    rfl

/-- **A list in writing is read back exactly if its values stay whole**, and nothing is read otherwise,
although each of the values is read back by itself. All values but texts stay whole, and so do texts
with no quote directly behind a backslash. -/
theorem read_writeList_iff (hps : ps ≠ []) :
    (∀ p ∈ ps, Written.read p.write = .ok p.value) ∧
    (∀ v, Written.read (writeList ps) = .ok v ↔
      (∀ p ∈ ps, p.StaysWhole) ∧ v = .list (ps.map value)) ∧
    ((∀ s quotable, text s quotable ∈ ps → ¬ ['\\', '\''] <:+: s.toList) →
      Written.read (writeList ps) = .ok (.list (ps.map value))) := by
  refine ⟨fun p _ => (read_write p).2, fun v => read_writeList_eq_ok hps, fun htexts => ?_⟩
  apply (read_writeList_eq_ok hps).mpr
  refine ⟨fun p hp => ?_, rfl⟩
  apply staysWhole_of_text
  rintro s quotable rfl
  exact htexts s quotable hp

/-- The text of a backslash and a quote is not read back in a list, while quotes, commas and brackets
are. -/
theorem read_writeList_backslash_quote :
    let ps := [text "\\'" (by decide)]
    let qs := [null, text "'], [" (by decide)]
    ps ≠ [] ∧ qs ≠ [] ∧ (∀ p ∈ ps, Written.read p.write = .ok p.value) ∧
      (∀ v, Written.read (writeList ps) ≠ .ok v) ∧
      Written.read (writeList qs) = .ok (.list [.null, .text "'], ["]) := by
  intro ps qs
  have hps : ps ≠ [] := List.cons_ne_nil _ _
  have hqs : qs ≠ [] := List.cons_ne_nil _ _
  obtain ⟨halone, hlist, -⟩ := read_writeList_iff hps
  refine ⟨hps, hqs, halone, fun v hread => ?_, ?_⟩
  · have hwhole : ∀ p ∈ ps, p.StaysWhole := ((hlist v).mp hread).1
    have hfirst : staysWhole true "\\'".toList = true := hwhole _ List.mem_cons_self
    exact absurd hfirst (by decide)
  · obtain ⟨-, -, hread⟩ := read_writeList_iff hqs
    apply hread
    rintro s quotable hmem
    obtain rfl : s = "'], [" := by simpa [qs] using hmem
    decide

end Scalar

end Stencil
