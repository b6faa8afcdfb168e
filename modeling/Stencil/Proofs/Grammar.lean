import Stencil.Proofs.Reading.Template
import Mathlib.Data.List.Chain

/-!
# The grammar

The documented grammar as data (`Grammar.rule`), and which tokens it derives (`Form.Derives`). The
reader keeps to it but for one thing: it takes a comma behind the last argument of a call. So there
are two grammars here, one of which allows for that comma. Whatever is read is derived in the lenient
one, and in the documented one exactly if no comma stands in front of a closing parenthesis
(`Grammar.derives_of_ofSupply`).

That a text of the documented grammar has no such comma is read off the rules: which kinds of token a
form can start and end with (`Form.starts`, `Form.ends`) tells which of them can meet (`Form.apart`).
-/

namespace Stencil.Grammar

/-! ## Forms -/

/-- What the rules of the grammar are about. -/
inductive Symbol where
  | template | program | statement | eachLoop | expression | simple | term | factor | access
deriving DecidableEq, Repr

/-- What stands on the right side of a rule. -/
inductive Form where
  /-- A token of one of these kinds. -/
  | oneOf (kinds : List Kind)
  /-- The name with this text. -/
  | word (text : String)
  | symbol (s : Symbol)
  | seq (first second : Form)
  | alt (first second : Form)
  /-- The form or nothing. -/
  | opt (form : Form)
  /-- The form any number of times. -/
  | many (form : Form)

namespace Form

instance : Append Form := ⟨seq⟩

instance : OrOp Form := ⟨alt⟩

/-- A token of this kind. -/
def kind (k : Kind) : Form := oneOf [k]

/-- **Under the rules tokens have a form.** -/
inductive Derives (rule : Symbol → Form) : Form → List Token → Prop
  | oneOf {kinds : List Kind} {t : Token} : t.kind ∈ kinds → Derives rule (.oneOf kinds) [t]
  | word {text : String} {t : Token} : t.IsWord text → Derives rule (.word text) [t]
  | symbol {s : Symbol} {ts : List Token} : Derives rule (rule s) ts → Derives rule (.symbol s) ts
  | seq {first second : Form} {ts us : List Token} :
      Derives rule first ts → Derives rule second us → Derives rule (.seq first second) (ts ++ us)
  | left {first second : Form} {ts : List Token} :
      Derives rule first ts → Derives rule (.alt first second) ts
  | right {first second : Form} {ts : List Token} :
      Derives rule second ts → Derives rule (.alt first second) ts
  | none {form : Form} : Derives rule (.opt form) []
  | some {form : Form} {ts : List Token} : Derives rule form ts → Derives rule (.opt form) ts
  | nil {form : Form} : Derives rule (.many form) []
  | cons {form : Form} {ts us : List Token} :
      Derives rule form ts → Derives rule (.many form) us → Derives rule (.many form) (ts ++ us)

namespace Derives

variable {rule : Symbol → Form} {form first second : Form} {ts us : List Token} {t : Token}

/-- A token of some kind alone is derived by that kind. -/
theorem kind {k : Kind} (h : t.kind = k) : Derives rule (.kind k) [t] :=
  .oneOf (List.mem_singleton.mpr h)

/-- A sequence that starts with one token. -/
theorem tokenThen (hfirst : Derives rule first [t]) (hsecond : Derives rule second us) :
    Derives rule (first ++ second) (t :: us) :=
  .seq hfirst hsecond

/-- An option not taken. -/
theorem seqNone (h : Derives rule first ts) : Derives rule (first ++ opt form) ts := by
  rw [← List.append_nil ts]
  exact .seq h .none

/-- A repetition left out. -/
theorem seqNil (h : Derives rule first ts) : Derives rule (first ++ many form) ts := by
  rw [← List.append_nil ts]
  exact .seq h .nil

/-- One more time at the end. -/
theorem snoc (h : Derives rule (.many form) ts) (hlast : Derives rule form us) :
    Derives rule (.many form) (ts ++ us) := by
  generalize hmany : Form.many form = all at h
  induction h with
  | nil =>
    cases hmany
    have hone : Derives rule (.many form) (us ++ []) := .cons hlast .nil
    rwa [List.append_nil] at hone
  | cons hfirst _ _ ih =>
    cases hmany
    rw [List.append_assoc]
    exact .cons hfirst (ih rfl)
  | _ => cases hmany

end Derives

end Form

/-! ## The rules -/

open Form Stencil.Parser

/-- The arguments of a call, which may be allowed to end in a comma. -/
def arguments (trailing : Bool) : Form :=
  let separated := symbol .statement ++ many (kind .comma ++ symbol .statement)
  if trailing then separated ++ opt (kind .comma) else separated

/-- A name, which is a call if arguments follow. -/
def link (trailing : Bool) : Form :=
  kind .identifier ++ opt (kind .lParen ++ (opt (arguments trailing) ++ kind .rParen))

/-- Operands with operators between them. -/
def row (operators : List Kind) (operand : Form) : Form := operand ++ many (oneOf operators ++ operand)

/-- **The documented grammar**, if arguments may not end in a comma. -/
def rule (trailing : Bool) : Symbol → Form
  | .template => many (kind .textLiteral ||| symbol .program)
  | .program => kind .lBrace ++ (symbol .statement ++ kind .rBrace)
  | .statement =>
    symbol .eachLoop |||
    symbol .expression ++ opt (kind .question ++ (symbol .statement ++
      opt (kind .colon ++ symbol .statement)))
  | .eachLoop =>
    word "each" ++ (kind .identifier ++ (word "in" ++ (kind .identifier ++
      (kind .question ++ symbol .statement))))
  | .expression => row [.eq, .neq, .gt, .lt, .gte, .lte] (symbol .simple)
  | .simple => row [.plus, .minus, .or] (symbol .term)
  | .term => row [.mul, .div, .and] (symbol .factor)
  | .factor =>
    oneOf [.plus, .minus] ++ symbol .factor |||
    kind .not ++ symbol .factor |||
    oneOf [.integerConst, .realConst, .textLiteral, .null, .true, .false] |||
    kind .lParen ++ (symbol .statement ++ kind .rParen) |||
    symbol .access
  | .access => link trailing ++ opt (kind .dot ++ symbol .access)

/-! ## What is read has a form -/

/-- No comma stands in front of a closing parenthesis. -/
def Tidy (tokens : List Token) : Prop :=
  tokens.IsChain fun a b => ¬ (a.kind = .comma ∧ b.kind = .rParen)

instance (tokens : List Token) : Decidable (Tidy tokens) :=
  inferInstanceAs (Decidable (List.IsChain _ _))

/-- The tokens need not be tidy if arguments may end in a comma. -/
def Allows (trailing : Bool) (tokens : List Token) : Prop := trailing = true ∨ Tidy tokens

namespace Allows

variable {trailing : Bool} {t : Token} {ts us : List Token}

/-- What allows a row allows its beginning. -/
theorem left (h : Allows trailing (ts ++ us)) : Allows trailing ts :=
  h.imp id fun htidy => (List.isChain_append.mp htidy).1

/-- And its end. -/
theorem right (h : Allows trailing (ts ++ us)) : Allows trailing us :=
  h.imp id fun htidy => (List.isChain_append.mp htidy).2.1

/-- And the row without its first token. -/
theorem tail (h : Allows trailing (t :: ts)) : Allows trailing ts :=
  right (show Allows trailing ([t] ++ ts) from h)

end Allows

/-- The form of an operand of a tier. -/
def operand : Tier → Form
  | .relational => symbol .simple
  | .additive => symbol .term
  | .multiplicative => symbol .factor

/-- The form of a whole row of a tier. -/
def whole : Tier → Form
  | .relational => symbol .expression
  | .additive => symbol .simple
  | .multiplicative => symbol .term

/-- The form that belongs to a phrase. -/
def form (trailing : Bool) : Phrase → Form
  | .statement _ => symbol .statement
  | .row tier _ _ => row tier.operators (operand tier)
  | .tier tier _ => whole tier
  | .factor _ => symbol .factor
  | .link _ => link trailing
  | .access _ _ => symbol .access
  | .args _ => opt (arguments trailing)

/-- The tokens have the form that belongs to the phrase. In arguments the parenthesis behind them
counts. -/
def Formed (trailing : Bool) (tokens : List Token) : Phrase → Prop
  | .args nodes => ∀ closing : Token, closing.kind = .rParen →
      Allows trailing (tokens ++ [closing]) →
      Derives (rule trailing) (form trailing (.args nodes)) tokens
  | phrase => Allows trailing tokens → Derives (rule trailing) (form trailing phrase) tokens

/-- An operand has the form of operands of its tier. -/
theorem Formed.operand_of {trailing : Bool} {tokens : List Token} {tier : Tier} {node : Node}
    (h : Formed trailing tokens (tier.operand node)) (hallows : Allows trailing tokens) :
    Derives (rule trailing) (operand tier) tokens := by
  cases tier <;> exact h hallows

/-- One more argument in front, with its comma. -/
theorem derives_arguments_cons {trailing : Bool} {ts us : List Token} {comma : Token}
    (harg : Derives (rule trailing) (symbol .statement) ts) (hcomma : comma.kind = .comma)
    (hargs : Derives (rule trailing) (arguments trailing) us) :
    Derives (rule trailing) (arguments trailing) (ts ++ comma :: us) := by
  have hseparated {us : List Token}
      (h : Derives (rule trailing) (symbol .statement ++ many (kind .comma ++ symbol .statement)) us) :
      Derives (rule trailing) (symbol .statement ++ many (kind .comma ++ symbol .statement))
        (ts ++ comma :: us) := by
    cases h with
    | seq hfirst hmore => exact .seq harg (.cons (.tokenThen (.kind hcomma) hfirst) hmore)
  cases trailing with
  | false => exact hseparated hargs
  | true =>
    cases hargs with
    | @seq _ _ vs ws hargs htrailing =>
      have hall := Derives.seq (hseparated hargs) htrailing
      rwa [List.append_assoc, List.cons_append] at hall

/-- One argument and no comma behind it. -/
theorem derives_arguments_of_statement {trailing : Bool} {ts : List Token}
    (h : Derives (rule trailing) (symbol .statement) ts) :
    Derives (rule trailing) (arguments trailing) ts := by
  cases trailing with
  | false => exact .seqNil h
  | true => exact .seqNone (.seqNil h)

/-- One argument and a comma behind it. -/
theorem derives_arguments_of_comma {ts : List Token} {comma : Token}
    (h : Derives (rule true) (symbol .statement) ts) (hcomma : comma.kind = .comma) :
    Derives (rule true) (arguments true) (ts ++ [comma]) :=
  .seq (.seqNil h) (.some (.kind hcomma))

/-- A row of a tier is what the rule of the tier says. -/
theorem derives_whole {trailing : Bool} {ts : List Token} {tier : Tier}
    (h : Derives (rule trailing) (row tier.operators (operand tier)) ts) :
    Derives (rule trailing) (whole tier) ts := by
  cases tier <;> exact .symbol h

/-- **What is read has the form that belongs to it.** -/
theorem formed_of_reads {trailing : Bool} {next : Kind} {n : Nat} {tokens : List Token}
    {phrase : Phrase} (h : Reads next n tokens phrase) : Formed trailing tokens phrase := by
  induction h with
  | loop heach hitem hword hsource hmark _ ih =>
    intro hallows
    have hbody := ih hallows.tail.tail.tail.tail.tail
    exact .symbol (.left (.symbol (.tokenThen (.word heach) (.tokenThen (.kind hitem)
      (.tokenThen (.word hword) (.tokenThen (.kind hsource) (.tokenThen (.kind hmark) hbody)))))))
  | plain _ _ _ ih => exact fun hallows => .symbol (.right (.seqNone (ih hallows)))
  | oneSided _ _ hmark _ _ ih ih' =>
    intro hallows
    have hbody := ih' hallows.right.tail
    exact .symbol (.right (.seq (ih hallows.left) (.some (.tokenThen (.kind hmark) (.seqNone hbody)))))
  | twoSided _ _ hmark _ hcolon _ ih ih' ih'' =>
    intro hallows
    have hsides := hallows.right.tail
    have hother := ih'' hsides.right.tail
    have hbody := Derives.seq (ih' hsides.left) (.some (.tokenThen (.kind hcolon) hother))
    exact .symbol (.right (.seq (ih hallows.left) (.some (.tokenThen (.kind hmark) hbody))))
  | operand _ ih => exact fun hallows => .seqNil (Formed.operand_of ih hallows)
  -- the rule adds an operand at the end of the row, and the form has the first operand apart
  | operator _ hop _ ih ih' =>
    intro hallows
    have hright := Formed.operand_of ih' hallows.right.tail
    cases ih hallows.left with
    | seq hfirst hmore =>
      rw [List.append_assoc]
      exact .seq hfirst (.snoc hmore (.tokenThen (.oneOf hop) hright))
  | tier _ _ ih => exact fun hallows => derives_whole (ih hallows)
  | literal hvalue =>
    intro _
    have hkind := Token.kind_of_literal? hvalue
    refine .symbol (.left (.left (.right (.oneOf ?_))))
    revert hkind
    simp only [List.mem_cons]
    grind
  | null hkind => exact fun _ => .symbol (.left (.left (.right (.oneOf (by rw [hkind]; decide)))))
  | sign hkind _ ih =>
    intro hallows
    have hsign : _ ∈ [Kind.plus, .minus] := List.mem_pair.mpr hkind
    exact .symbol (.left (.left (.left (.left (.tokenThen (.oneOf hsign) (ih hallows.tail))))))
  | not hkind _ ih =>
    intro hallows
    exact .symbol (.left (.left (.left (.right (.tokenThen (.kind hkind) (ih hallows.tail))))))
  | parens hopening _ hclosing ih =>
    intro hallows
    have hbody := Derives.seq (ih hallows.tail.left) (.kind hclosing)
    exact .symbol (.left (.right (.tokenThen (.kind hopening) hbody)))
  | reference _ ih => exact fun hallows => .symbol (.right (ih hallows))
  | name hkind => exact fun _ => .tokenThen (.kind hkind) .none
  | call hkind hopening _ hclosing ih =>
    intro hallows
    have hargs := Derives.seq (ih _ hclosing hallows.tail.tail) (.kind hclosing)
    exact .tokenThen (.kind hkind) (.some (.tokenThen (.kind hopening) hargs))
  | lastLink _ _ ih => exact fun hallows => .symbol (.seqNone (ih hallows))
  | dot _ hdot _ ih ih' =>
    intro hallows
    have hmember := ih' hallows.right.tail
    exact .symbol (.seq (ih hallows.left) (.some (.tokenThen (.kind hdot) hmember)))
  | noArgs => exact fun _ _ _ => .none
  | lastArg _ ih =>
    intro closing _ hallows
    exact .some (derives_arguments_of_statement (ih hallows.left))
  -- without another argument behind it the comma is one before the parenthesis, which only the wider
  -- grammar allows
  | comma _ hcomma _ ih ih' =>
    intro closing hclosing hallows
    rw [List.append_assoc, List.cons_append] at hallows
    have harg := ih hallows.left
    have hargs := ih' closing hclosing hallows.right.tail
    cases hargs with
    | some hargs => exact .some (derives_arguments_cons harg hcomma hargs)
    | none =>
      obtain rfl | htidy := hallows.right
      · exact .some (derives_arguments_of_comma harg hcomma)
      · exact absurd ⟨hcomma, hclosing⟩ (List.isChain_cons_cons.mp htidy).1

/-! ## Which tokens can meet -/

namespace Form

/-- Does nothing at all have the form, too? -/
def nullable : Form → Bool
  | oneOf _ | word _ => false
  | symbol s => s == .template
  | seq first second => first.nullable && second.nullable
  | alt first second => first.nullable || second.nullable
  | opt _ | many _ => true

/-- Can the form start with a token of this kind? Symbols are taken not to. -/
def starts (k : Kind) : Form → Bool
  | oneOf kinds => kinds.contains k
  | word _ => k == .identifier
  | symbol _ => false
  | seq first second => first.starts k || first.nullable && second.starts k
  | alt first second => first.starts k || second.starts k
  | opt form | many form => form.starts k

/-- Can the form end with a token of this kind? Symbols are taken not to. -/
def ends (k : Kind) : Form → Bool
  | oneOf kinds => kinds.contains k
  | word _ => k == .identifier
  | symbol _ => false
  | seq first second => second.ends k || second.nullable && first.ends k
  | alt first second => first.ends k || second.ends k
  | opt form | many form => form.ends k

/-- Is it certain that no token of the kind `j` meets one of the kind `k` behind it in the form, unless
both come from one symbol? -/
def apart (j k : Kind) : Form → Bool
  | oneOf _ | word _ | symbol _ => true
  | seq first second => first.apart j k && second.apart j k && !(first.ends j && second.starts k)
  | alt first second => first.apart j k && second.apart j k
  | opt form => form.apart j k
  | many form => form.apart j k && !(form.ends j && form.starts k)

/-- Nothing in the rules speaks against what is taken for granted about symbols. -/
structure Separates (rule : Symbol → Form) (j k : Kind) : Prop where
  nullable : ∀ s, (rule s).nullable = true → (symbol s).nullable = true
  starts : ∀ s, (rule s).starts k = false
  ends : ∀ s, (rule s).ends j = false
  apart : ∀ s, (rule s).apart j k = true

namespace Derives

variable {rule : Symbol → Form} {form : Form} {ts : List Token} {j k : Kind}

/-- A rule that separates two kinds derives the empty row only from a form that is marked so. -/
private theorem nullable (hrule : Separates rule j k) (h : Derives rule form ts) (hnil : ts = []) :
    form.nullable = true := by
  induction h with
  | oneOf | word => cases hnil
  | symbol _ ih => exact hrule.nullable _ (ih hnil)
  | seq _ _ ih ih' =>
    obtain ⟨hfirst, hsecond⟩ := List.append_eq_nil_iff.mp hnil
    rw [Form.nullable, ih hfirst, ih' hsecond, Bool.and_self]
  | left _ ih => rw [Form.nullable, ih hnil, Bool.true_or]
  | right _ ih => rw [Form.nullable, ih hnil, Bool.or_true]
  | none | some | nil | cons => rfl

/-- It begins with the later kind only where the form is marked so. -/
theorem starts (hrule : Separates rule j k) (h : Derives rule form ts) {t : Token}
    (ht : t ∈ ts.head?) (hkind : t.kind = k) : form.starts k = true := by
  induction h with
  | oneOf hmem =>
    obtain rfl := Option.mem_some_iff.mp ht
    exact List.contains_iff_mem.mpr (hkind ▸ hmem)
  | word hword =>
    obtain rfl := Option.mem_some_iff.mp ht
    rw [Form.starts, ← hkind, hword.1, beq_self_eq_true]
  | symbol _ ih => exact absurd (ih ht) (by rw [hrule.starts]; exact Bool.false_ne_true)
  | @seq _ _ ts us hfirst _ ih ih' =>
    rw [Form.starts, Bool.or_eq_true, Bool.and_eq_true]
    cases ts with
    | nil => exact .inr ⟨hfirst.nullable hrule rfl, ih' ht⟩
    | cons => exact .inl (ih ht)
  | left _ ih => rw [Form.starts, ih ht, Bool.true_or]
  | right _ ih => rw [Form.starts, ih ht, Bool.or_true]
  | none | nil => cases ht
  | some _ ih => exact ih ht
  | @cons _ ts us _ _ ih ih' =>
    cases ts with
    | nil => exact ih' ht
    | cons => exact ih ht

/-- And it ends with the earlier kind only where the form is marked so. -/
theorem ends (hrule : Separates rule j k) (h : Derives rule form ts) {t : Token}
    (ht : t ∈ ts.getLast?) (hkind : t.kind = j) : form.ends j = true := by
  induction h with
  | oneOf hmem =>
    rw [List.getLast?_singleton] at ht
    obtain rfl := Option.mem_some_iff.mp ht
    exact List.contains_iff_mem.mpr (hkind ▸ hmem)
  | word hword =>
    rw [List.getLast?_singleton] at ht
    obtain rfl := Option.mem_some_iff.mp ht
    rw [Form.ends, ← hkind, hword.1, beq_self_eq_true]
  | symbol _ ih => exact absurd (ih ht) (by rw [hrule.ends]; exact Bool.false_ne_true)
  | @seq _ _ ts us _ hsecond ih ih' =>
    rw [Form.ends, Bool.or_eq_true, Bool.and_eq_true]
    cases us with
    | nil => exact .inr ⟨hsecond.nullable hrule rfl, ih (by rwa [List.append_nil] at ht)⟩
    | cons => exact .inl (ih' (by rwa [List.getLast?_append_cons] at ht))
  | left _ ih => rw [Form.ends, ih ht, Bool.true_or]
  | right _ ih => rw [Form.ends, ih ht, Bool.or_true]
  | none | nil => cases ht
  | some _ ih => exact ih ht
  | @cons _ ts us _ _ ih ih' =>
    cases us with
    | nil => exact ih (by rwa [List.append_nil] at ht)
    | cons => exact ih' (by rwa [List.getLast?_append_cons] at ht)

/-- **Tokens that are kept apart by the rules do not meet.** -/
theorem isChain (hrule : Separates rule j k) (h : Derives rule form ts)
    (hapart : form.apart j k = true) : ts.IsChain fun a b => ¬ (a.kind = j ∧ b.kind = k) := by
  induction h with
  | oneOf | word => exact .singleton _
  | symbol _ ih => exact ih (hrule.apart _)
  | seq hfirst hsecond ih ih' =>
    simp only [Form.apart, Bool.and_eq_true, Bool.not_eq_true'] at hapart
    refine List.isChain_append.mpr ⟨ih hapart.1.1, ih' hapart.1.2, fun a ha b hb hmeet => ?_⟩
    rw [hfirst.ends hrule ha hmeet.1, hsecond.starts hrule hb hmeet.2] at hapart
    exact absurd hapart.2 (by decide)
  | left _ ih =>
    rw [Form.apart, Bool.and_eq_true] at hapart
    exact ih hapart.1
  | right _ ih =>
    rw [Form.apart, Bool.and_eq_true] at hapart
    exact ih hapart.2
  | none | nil => exact .nil
  | some _ ih => exact ih hapart
  | @cons form _ _ hfirst hmore ih ih' =>
    have hapart' := hapart
    simp only [Form.apart, Bool.and_eq_true, Bool.not_eq_true'] at hapart
    refine List.isChain_append.mpr ⟨ih hapart.1, ih' hapart', fun a ha b hb hmeet => ?_⟩
    have hstarts : (many form).starts k = true := hmore.starts hrule hb hmeet.2
    rw [hfirst.ends hrule ha hmeet.1, show form.starts k = true from hstarts] at hapart
    exact absurd hapart.2 (by decide)

end Derives

end Form

/-- The documented rules keep commas away from closing parentheses. -/
theorem separates_rule : Separates (rule false) .comma .rParen where
  nullable s := by cases s <;> decide
  starts s := by cases s <;> decide
  ends s := by cases s <;> decide
  apart s := by cases s <;> decide

/-- **In the documented grammar no comma stands in front of a closing parenthesis.** -/
theorem tidy_of_derives {s : Symbol} {ts : List Token} (h : Derives (rule false) (symbol s) ts) :
    Tidy ts :=
  h.isChain separates_rule rfl

/-! ## What is accepted -/

/-- The fragments of a template have the form of one. -/
theorem derives_of_readsFragments {trailing : Bool} {tokens : List Token} {nodes : List Node}
    (h : ReadsFragments tokens nodes) (hallows : Allows trailing (Token.solid tokens)) :
    Derives (rule trailing) (symbol .template) (Token.solid tokens) := by
  refine .symbol ?_
  induction h with
  | nil => exact .nil
  | text htext _ ih =>
    rw [Token.solid_cons (by rw [htext]; decide)] at hallows ⊢
    exact .cons (.left (.kind htext)) (ih hallows.tail)
  | @program _ opening closing ts us _ _ hopening _ hreads hclosing _ ih =>
    have hsolid : Token.solid (opening :: (ts ++ closing :: us)) =
        (opening :: (Token.solid ts ++ [closing])) ++ Token.solid us := by
      rw [Token.solid_cons (by rw [hopening]; decide), Token.solid_append,
        Token.solid_cons (by rw [hclosing]; decide)]
      simp only [List.cons_append, List.append_assoc, List.nil_append]
    rw [hsolid] at hallows ⊢
    have hbody := (formed_of_reads hreads) hallows.left.tail.left
    have hprogram := Derives.seq hbody (.kind hclosing)
    exact .cons (.right (.symbol (.tokenThen (.kind hopening) hprogram))) (ih hallows.right)

/-- The symbol of what is read in a mode. -/
def start : Mode → Symbol
  | .text => .template
  | .program => .statement

/-- **What is accepted is derived in the grammar that allows for a comma behind the arguments, and in
the documented one exactly if there is none.** -/
theorem derives_of_ofSupply {mode : Mode} {supply : Token.Supply} {node : Node}
    (h : Node.ofSupply mode supply = .ok node) :
    Derives (rule true) (symbol (start mode)) supply.significant ∧
      (Derives (rule false) (symbol (start mode)) supply.significant ↔ Tidy supply.significant) := by
  have hall (trailing : Bool) (hallows : Allows trailing supply.significant) :
      Derives (rule trailing) (symbol (start mode)) supply.significant := by
    cases mode with
    | text =>
      obtain ⟨-, _, _, -, hreads, -⟩ := Node.ofSupply_text_eq_ok.mp h
      exact derives_of_readsFragments hreads hallows
    | program =>
      obtain ⟨-, _, -, hreads⟩ := Node.ofSupply_program_eq_ok.mp h
      exact formed_of_reads hreads hallows
  exact ⟨hall true (.inl rfl), tidy_of_derives, fun htidy => hall false (.inr htidy)⟩

/-- A text that is accepted though the documented grammar does not derive it. -/
theorem exists_accepted_not_derived : ∃ node,
    Node.ofText .program ['f', '(', '1', ',', ')'] = .ok node ∧
      ¬ Derives (rule false) (symbol .statement)
        (Token.Supply.ofText .program ['f', '(', '1', ',', ')']).significant := by
  have hok : (Node.ofText .program ['f', '(', '1', ',', ')']).isOk = true := by decide +kernel
  have huntidy : ¬ Tidy (Token.Supply.ofText .program ['f', '(', '1', ',', ')']).significant := by
    decide +kernel
  cases h : Node.ofText .program ['f', '(', '1', ',', ')'] with
  | error e =>
    rw [h] at hok
    cases hok
  | ok node => exact ⟨node, rfl, fun hderives => huntidy ((derives_of_ofSupply h).2.mp hderives)⟩

end Stencil.Grammar
