import Stencil.CommandLine.Arguments
import Mathlib.Data.List.Basic

/-!
# What a command line says

The arguments of a command line say things, one after the other: letters, options with what they take,
and arguments that are no options (`CommandLine.Spells`). Reading takes in one thing after the other
(`Arguments.add`), so that it finds what all things together ask for (`Arguments.ofItems`), and it fails for
arguments that spell nothing, or things that do not go together.

Conversely all that is asked for can be said in front of two hyphens (`Arguments.options`), so that
reading and spelling are the same (`Arguments.read_spelled`).
-/

namespace Stencil.CommandLine

/-! ## Things to say -/

/-- An option that takes nothing. -/
inductive Flag where
  | debug | substitute | tree
deriving DecidableEq, Repr

/-- The letter of an option that takes nothing. -/
def Flag.letter : Flag → Char
  | debug => 'd'
  | substitute => 's'
  | tree => 't'

/-- One thing that a command line says. -/
inductive Item where
  | flag (flag : Flag)
  /-- A variables file is named, or none is wanted. -/
  | file (path? : Option String)
  | define (definition : String)
  | expression (source : String)
  /-- An argument that is no option and belongs to none. -/
  | other (arg : String)
deriving DecidableEq, Repr

namespace Item

/-- The variables file, or that there is none. -/
def file? : Item → Option VariablesFile
  | file path? => some (path?.elim .skip .file)
  | _ => none

/-- The definition. -/
def define? : Item → Option String
  | define definition => some definition
  | _ => none

/-- The expression. -/
def expression? : Item → Option String
  | expression source => some source
  | _ => none

/-- The argument that is no option. -/
def other? : Item → Option String
  | other arg => some arg
  | _ => none

/-- The letters of the options that have to take something. -/
inductive Asks : Char → (String → Item) → Prop
  | define : Asks 'D' define
  | expression : Asks 'e' expression

end Item

/-- **A row of letters** in front of some arguments, with what it says and the arguments that it leaves. -/
inductive Row : List Char → List String → List Item → List String → Prop
  | nothing {rest : List String} : Row [] rest [] rest
  | flag (flag : Flag) {letters : List Char} {rest left : List String} {items : List Item} :
      Row letters rest items left → Row (flag.letter :: letters) rest (.flag flag :: items) left
  | inside {c : Char} {item : String → Item} {value : List Char} {rest : List String} :
      Item.Asks c item → value ≠ [] → Row (c :: value) rest [item (String.ofList value)] rest
  /-- Whatever the next argument is, it is taken. -/
  | next {c : Char} {item : String → Item} {value : String} {rest : List String} :
      Item.Asks c item → Row [c] (value :: rest) [item value] rest
  | fileInside {path : List Char} {rest : List String} :
      path ≠ [] → Row ('f' :: path) rest [.file (some (String.ofList path))] rest
  | fileNext {path : String} {rest : List String} :
      Arguments.isHyphened path = false → Row ['f'] (path :: rest) [.file (some path)] rest
  | noFile {rest : List String} :
      (∀ next ∈ rest.head?, Arguments.isHyphened next = true) → Row ['f'] rest [.file none] rest

/-- **The arguments of a command line say these things**, in this order. -/
inductive Spells : List String → List Item → Prop
  | nil : Spells [] []
  /-- A hyphen alone is no option. -/
  | other {arg : String} {rest : List String} {items : List Item} :
      Arguments.isHyphened arg = false ∨ arg = "-" → Spells rest items →
      Spells (arg :: rest) (.other arg :: items)
  /-- Behind two hyphens there are no options. -/
  | hyphens {rest : List String} : Spells ("--" :: rest) (rest.map .other)
  | options {letters : List Char} {rest left : List String} {said items : List Item} :
      letters ≠ [] → Row letters rest said left → Spells left items →
      Spells (String.ofList ('-' :: letters) :: rest) (said ++ items)

/-- The things go together: no more than one is no option, and then there is no expression. -/
def Compatible (items : List Item) : Prop :=
  (items.filterMap Item.other?).length ≤ 1 ∧
    (items.filterMap Item.other? = [] ∨ items.filterMap Item.expression? = [])

/-- **What is asked for by all things together.** Of variables files and of expressions the last one
counts. -/
def Arguments.ofItems (items : List Item) : Arguments where
  debug := decide (.flag .debug ∈ items)
  substitute := decide (.flag .substitute ∈ items)
  tree := decide (.flag .tree ∈ items)
  variablesFile := (items.filterMap Item.file?).getLast?.getD .search
  defines := items.filterMap Item.define?
  expression? := (items.filterMap Item.expression?).getLast?
  template? := (items.filterMap Item.other?).head?

namespace Arguments

/-! ## One thing after the other -/

/-- What is asked for with one thing more. -/
def add (args : Arguments) : Item → Arguments
  | .flag .debug => { args with debug := true }
  | .flag .substitute => { args with substitute := true }
  | .flag .tree => { args with tree := true }
  | .file path? => { args with variablesFile := path?.elim .skip .file }
  | .define definition => args.take 'D' definition
  | .expression source => args.take 'e' source
  | .other _ => args

/-- One thing after the other, starting with what is asked for already. -/
theorem foldl_add (args : Arguments) (items : List Item) :
    items.foldl add args =
      { debug := args.debug || (ofItems items).debug
        substitute := args.substitute || (ofItems items).substitute
        tree := args.tree || (ofItems items).tree
        variablesFile := (items.filterMap Item.file?).getLast?.getD args.variablesFile
        defines := args.defines ++ (ofItems items).defines
        expression? := (ofItems items).expression?.or args.expression?
        template? := args.template? } := by
  induction items generalizing args with
  | nil => simp [ofItems]
  | cons item items ih =>
    rw [List.foldl_cons, ih]
    cases item with
    | flag flag =>
      cases flag <;>
        simp [ofItems, add, Item.file?, Item.define?, Item.expression?, List.filterMap_cons]
    | file path? =>
      simp [ofItems, add, Item.file?, Item.define?, Item.expression?, List.filterMap_cons,
        List.getLast?_cons]
    | define definition =>
      simp [ofItems, add, take, Item.file?, Item.define?, Item.expression?, List.filterMap_cons]
    | expression source =>
      simp only [ofItems, add, take, Item.file?, Item.define?, Item.expression?, List.filterMap_cons,
        List.getLast?_cons]
      cases (items.filterMap Item.expression?).getLast? <;> simp
    | other arg =>
      simp [ofItems, add, Item.file?, Item.define?, Item.expression?, List.filterMap_cons]

/-! ## A row of letters -/

section Rows

variable {letters : List Char} {rest left : List String} {said : List Item}

private theorem others_eq_nil_of_row (h : Row letters rest said left) :
    said.filterMap Item.other? = [] := by
  induction h with
  | flag flag _ ih => simpa [List.filterMap_cons, Item.other?] using ih
  | inside asks | next asks => cases asks <;> rfl
  | _ => rfl

/-- The letters of a row are not a second hyphen, which would end the options. -/
private theorem ne_hyphen_of_row (h : Row letters rest said left) : letters ≠ ['-'] := by
  intro hl
  cases h with
  | flag flag => cases flag <;> simp [Flag.letter] at hl
  | inside asks | next asks => cases asks <;> simp at hl
  | _ => simp at hl

/-- What a row says is read, and the next argument is taken where the row takes it. -/
theorem readOptions_of_row (h : Row letters rest said left) (args : Arguments) :
    ∃ takes, readOptions args rest.head? letters = .ok (said.foldl add args, takes) ∧
      left = rest.drop (if takes then 1 else 0) := by
  induction h generalizing args with
  | nothing => exact ⟨false, rfl, rfl⟩
  | flag flag _ ih =>
    cases flag
    all_goals exact ih _
  | @inside _ _ _ rest asks hv =>
    refine ⟨false, ?_, rfl⟩
    cases rest.head? <;> cases asks <;> simp [readOptions, hv, add]
  | next asks => exact ⟨true, by cases asks <;> simp [readOptions, add], by simp⟩
  | @fileInside _ rest hp =>
    refine ⟨false, ?_, rfl⟩
    cases rest.head? <;> simp [readOptions, hp, add]
  | fileNext hp => exact ⟨true, by simp [readOptions, hp, add], by simp⟩
  | @noFile rest hh =>
    refine ⟨false, ?_, rfl⟩
    cases rest with
    | nil => simp [readOptions, add]
    | cons next rest => simp [readOptions, add, hh next (by simp)]

/-- A letter other than the two with values asks for one item, which it is then taken for. -/
private theorem exists_asks {c : Char} (h : ¬(decide (c ≠ 'D') && decide (c ≠ 'e')) = true) :
    ∃ item, Item.Asks c item ∧
      ∀ (args : Arguments) value, args.take c value = args.add (item value) := by
  have hc : c = 'D' ∨ c = 'e' := by simpa [Decidable.or_iff_not_imp_left] using h
  rcases hc with rfl | rfl
  · exact ⟨_, .define, fun _ _ => rfl⟩
  · exact ⟨_, .expression, fun _ _ => rfl⟩

/-- Letters that are read are a row. -/
theorem exists_row_of_readOptions {args args' : Arguments} {takes : Bool}
    (h : readOptions args rest.head? letters = .ok (args', takes)) :
    ∃ said, Row letters rest said (rest.drop (if takes then 1 else 0)) ∧
      args' = said.foldl add args := by
  generalize hnext : rest.head? = next? at h
  have hrest {next : String} (hn : next? = some next) : rest = next :: rest.tail :=
    List.eq_cons_of_mem_head? (hnext.trans hn)
  fun_induction readOptions args next? letters with
  | case1 args => cases h; exact ⟨[], .nothing, rfl⟩
  | case2 args options ih =>
    obtain ⟨said, hrow, rfl⟩ := ih h
    exact ⟨_, .flag .debug hrow, rfl⟩
  | case3 args options ih =>
    obtain ⟨said, hrow, rfl⟩ := ih h
    exact ⟨_, .flag .substitute hrow, rfl⟩
  | case4 args options ih =>
    obtain ⟨said, hrow, rfl⟩ := ih h
    exact ⟨_, .flag .tree hrow, rfl⟩
  -- the letter that asks for a file takes what is left of the argument, or else the next one
  | case5 args options hpath =>
    cases h
    exact ⟨_, .fileInside (by simpa using hpath), rfl⟩
  | case6 args options hpath next hn hhyphen =>
    cases h
    obtain rfl : options = [] := by simpa using hpath
    exact ⟨_, .noFile (by rw [hnext, hn]; simpa using hhyphen), rfl⟩
  | case7 args options hpath next hn hhyphen =>
    cases h
    obtain rfl : options = [] := by simpa using hpath
    rw [hrest hn]
    exact ⟨_, .fileNext (by simpa using hhyphen), rfl⟩
  | case8 args options hpath hn =>
    cases h
    obtain rfl : options = [] := by simpa using hpath
    exact ⟨_, .noFile (by simp [hnext, hn]), rfl⟩
  | case9 => cases h
  -- and so does either letter that asks for a value, but that may start with a hyphen
  | case10 args option options _ _ _ _ hoption hvalue =>
    obtain ⟨item, asks, htake⟩ := exists_asks hoption
    cases h
    exact ⟨_, .inside asks (by simpa using hvalue), htake ..⟩
  | case11 args option options _ _ _ _ hoption hvalue next hn =>
    obtain ⟨item, asks, htake⟩ := exists_asks hoption
    cases h
    obtain rfl : options = [] := by simpa using hvalue
    rw [hrest hn]
    exact ⟨_, .next asks, htake ..⟩
  | case12 => cases h

end Rows

/-! ## All arguments -/

private theorem foldl_add_others (args : Arguments) (others : List String) :
    (others.map Item.other).foldl add args = args := by
  induction others with
  | nil => rfl
  | cons other others ih => exact ih

private theorem others_map_other (others : List String) :
    (others.map Item.other).filterMap Item.other? = others := by
  rw [List.filterMap_map]
  exact List.filterMap_some

private theorem isHyphened_ofList (letters : List Char) :
    isHyphened (String.ofList ('-' :: letters)) = true := by
  simp [isHyphened]

private theorem eq_ofList_of_isHyphened {arg : String} (h : isHyphened arg = true) :
    arg = String.ofList ('-' :: arg.toList.tail) := by
  have hhead : arg.toList.head? = some '-' := by simpa [isHyphened] using h
  rw [← List.eq_cons_of_mem_head? hhead, String.ofList_toList]

/-- Arguments that spell some items are read as these items. -/
private theorem readAll_of_spells {argv : List String} {items : List Item} (h : Spells argv items)
    (args : Arguments) :
    readAll args argv = .ok (items.foldl add args, items.filterMap Item.other?) := by
  induction h generalizing args with
  | nil => rw [readAll]; rfl
  | @other arg rest items hother _ ih =>
    have hne : arg ≠ "--" := by
      rintro rfl
      revert hother
      decide
    have hplain : (!isHyphened arg || arg = "-") = true := by simpa using hother
    rw [readAll, if_neg hne, if_pos hplain, ih]
    rfl
  | hyphens => rw [readAll, if_pos rfl, foldl_add_others, others_map_other]
  | @options letters rest left said items hletters hrow _ ih =>
    obtain ⟨takes, hread, rfl⟩ := readOptions_of_row hrow args
    -- No row starts with a hyphen, so this argument does not end the options.
    have hne : String.ofList ('-' :: letters) ≠ "--" := by
      intro h
      exact ne_hyphen_of_row hrow (by simpa [← String.toList_inj] using h)
    have hplain : ¬(!isHyphened (String.ofList ('-' :: letters)) ||
        String.ofList ('-' :: letters) = "-") = true := by
      rw [isHyphened_ofList]
      simpa [← String.toList_inj] using hletters
    rw [readAll, if_neg hne, if_neg hplain]
    simp only [String.toList_ofList, List.tail_cons, hread, ih, List.foldl_append,
      List.filterMap_append, others_eq_nil_of_row hrow, List.nil_append]

private theorem exists_spells_of_readAll {argv : List String} {args args' : Arguments}
    {others : List String}
    (h : readAll args argv = .ok (args', others)) :
    ∃ items, Spells argv items ∧ args' = items.foldl add args ∧
      others = items.filterMap Item.other? := by
  fun_induction readAll args argv generalizing args' others with
  | case1 args => cases h; exact ⟨[], .nil, rfl, rfl⟩
  | case2 args rest =>
    cases h
    exact ⟨_, .hyphens, (foldl_add_others ..).symm, (others_map_other _).symm⟩
  | case3 args arg rest hne hplain ih =>
    cases hrest : readAll args rest with
    | error e => simp [hrest, Except.map] at h
    | ok found =>
      obtain ⟨items, hspells, hargs, hothers⟩ := ih hrest
      rw [hrest] at h
      cases h
      exact ⟨_, .other (by simpa using hplain) hspells, hargs, by rw [hothers]; rfl⟩
  | case4 args arg rest hne hplain e hread => cases h
  | case5 args arg rest hne hplain args' takes hread ih =>
    obtain ⟨said, hrow, rfl⟩ := exists_row_of_readOptions hread
    obtain ⟨items, hspells, rfl, rfl⟩ := ih h
    have hhyphen : isHyphened arg = true ∧ arg ≠ "-" := by simpa using hplain
    have harg := eq_ofList_of_isHyphened hhyphen.1
    refine ⟨said ++ items, ?_, by rw [List.foldl_append], ?_⟩
    · rw [harg]
      exact .options (fun hnil => hhyphen.2 (by rw [harg, hnil])) hrow hspells
    · rw [List.filterMap_append, others_eq_nil_of_row hrow, List.nil_append]

private theorem foldl_add_default (items : List Item) :
    items.foldl add {} = { ofItems items with template? := none } := by
  rw [foldl_add]
  simp [ofItems]

/-- What is spelled is read, unless the things do not go together. -/
theorem read_of_spells {argv : List String} {items : List Item} (h : Spells argv items) :
    (Compatible items → read argv = .ok (ofItems items)) ∧
      (¬Compatible items → ∃ e, read argv = .error e) := by
  have hread := readAll_of_spells h {}
  rw [foldl_add_default] at hread
  have hexpression : (ofItems items).expression?.isSome = true ↔
      items.filterMap Item.expression? ≠ [] := by simp [ofItems, Option.isSome_iff_ne_none]
  have htemplate {others : List String} (hothers : items.filterMap Item.other? = others) :
      { ofItems items with template? := others.head? } = ofItems items := hothers ▸ rfl
  match hothers : items.filterMap Item.other? with
  | [] =>
    rw [hothers] at hread
    refine ⟨fun _ => ?_, fun hnot => absurd ⟨by simp [hothers], .inl hothers⟩ hnot⟩
    rw [read, hread]
    exact congrArg Except.ok (htemplate hothers)
  | [template] =>
    have hcompatible : Compatible items ↔ items.filterMap Item.expression? = [] := by
      simp [Compatible, hothers]
    rw [hothers] at hread
    rw [hcompatible, read, hread]
    dsimp only
    by_cases hnone : items.filterMap Item.expression? = []
    · rw [if_neg (by simpa [hexpression] using hnone)]
      exact ⟨fun _ => congrArg Except.ok (htemplate hothers), fun hnot => absurd hnone hnot⟩
    · rw [if_pos (hexpression.mpr hnone)]
      exact ⟨fun h => absurd h hnone, fun _ => ⟨_, rfl⟩⟩
  | first :: second :: others =>
    refine ⟨fun hall => by simp [Compatible, hothers] at hall, fun _ => ?_⟩
    rw [read, hread, hothers]
    exact ⟨_, rfl⟩

/-- A command line is accepted exactly where it spells items that go together. -/
private theorem read_eq_ok_iff {argv : List String} {args : Arguments} : read argv = .ok args ↔
    ∃ items, Spells argv items ∧ Compatible items ∧ args = ofItems items := by
  constructor
  · intro h
    have hall : ∃ found, readAll {} argv = .ok found := by
      cases hread : readAll {} argv with
      | error e => simp [read, hread] at h
      | ok found => exact ⟨found, rfl⟩
    obtain ⟨found, hread⟩ := hall
    obtain ⟨items, hspells, -⟩ := exists_spells_of_readAll hread
    obtain ⟨hok, hfails⟩ := read_of_spells hspells
    by_cases hcompatible : Compatible items
    · exact ⟨items, hspells, hcompatible, Except.ok.inj (h.symm.trans (hok hcompatible))⟩
    · obtain ⟨e, he⟩ := hfails hcompatible
      cases h.symm.trans he
  · rintro ⟨items, hspells, hcompatible, rfl⟩
    exact (read_of_spells hspells).1 hcompatible

/-! ## All that can be asked for -/

/-- A thing that is an option can be said in a row of letters, as long as an option follows. -/
theorem exists_row {item : Item} (h : item.other? = none) {argv : List String}
    (hhyphen : ∀ next ∈ argv.head?, isHyphened next = true) :
    ∃ c letters rest, Row (c :: letters) rest [item] argv := by
  cases item with
  | flag flag => exact ⟨_, _, _, .flag flag .nothing⟩
  | define definition => exact ⟨_, _, _, .next .define⟩
  | expression source => exact ⟨_, _, _, .next .expression⟩
  | other arg => cases h
  | file path? =>
    cases path? with
    | none => exact ⟨_, _, _, .noFile hhyphen⟩
    | some path =>
      by_cases hpath : path = ""
      · exact ⟨_, _, _, .fileNext (by rw [hpath]; rfl)⟩
      · have hrow : Row ('f' :: path.toList) argv _ argv := .fileInside (by simpa using hpath)
        rw [String.ofList_toList] at hrow
        exact ⟨_, _, _, hrow⟩

/-- Things that are options can be said in any order, with two hyphens behind them. -/
theorem exists_spells {said : List Item} (h : said.filterMap Item.other? = []) (others : List String) :
    ∃ argv, (∀ next ∈ argv.head?, isHyphened next = true) ∧
      Spells argv (said ++ others.map .other) := by
  induction said with
  | nil => exact ⟨_, by simp [isHyphened], .hyphens⟩
  | cons item said ih =>
    have hitem : item.other? = none := List.filterMap_eq_nil_iff.mp h item (by simp)
    have hsaid : said.filterMap Item.other? = [] := by rwa [List.filterMap_cons_none hitem] at h
    obtain ⟨argv, hhyphen, hspells⟩ := ih hsaid
    obtain ⟨c, letters, rest, hrow⟩ := exists_row hitem hhyphen
    have hall := Spells.options (List.cons_ne_nil c letters) hrow hspells
    exact ⟨_, by rintro _ ⟨⟩; exact isHyphened_ofList _, hall⟩

/-- Is this option wanted? -/
def wants (args : Arguments) : Flag → Bool
  | .debug => args.debug
  | .substitute => args.substitute
  | .tree => args.tree

/-- The options that ask for all this. -/
def options (args : Arguments) : List Item :=
  ([Flag.debug, .substitute, .tree].filter args.wants).map .flag ++
    (match args.variablesFile with
      | .search => []
      | .skip => [.file none]
      | .file path => [.file (some path)]) ++
    args.defines.map .define ++ args.expression?.toList.map .expression

/-- The options that describe some arguments are options. -/
private theorem others_options (args : Arguments) : args.options.filterMap Item.other? = [] := by
  unfold options
  cases args.variablesFile <;>
    simp only [List.filterMap_append, List.filterMap_map, Function.comp_def, Item.other?,
      List.filterMap_cons, List.filterMap_nil, List.filterMap_none, List.append_nil]

private theorem ofItems_options (args : Arguments) :
    ofItems (args.options ++ args.template?.toList.map .other) = args := by
  obtain ⟨debug, substitute, tree, variablesFile, defines, expression?, template?⟩ := args
  cases variablesFile <;> cases expression? <;>
    simp [ofItems, options, wants, Item.file?, Item.define?, Item.expression?, Item.other?,
      List.filterMap_cons, List.filterMap_map, Function.comp_def, -List.getLast?_filterMap,
      -List.head?_filterMap]

/-- **What is read is what is spelled.** A command line is accepted exactly if it spells things that go
together, and then it asks for all of them together. All that can be asked for is asked for by some
command line, unless it is an expression and a template at once. -/
theorem read_spelled :
    (∀ argv args, read argv = .ok args ↔
      ∃ items, Spells argv items ∧ Compatible items ∧ args = ofItems items) ∧
    (∀ args, (∃ argv, read argv = .ok args) ↔ args.expression? = none ∨ args.template? = none) := by
  refine ⟨fun argv args => read_eq_ok_iff, fun args => ⟨?_, fun hone => ?_⟩⟩
  · rintro ⟨argv, hread⟩
    obtain ⟨items, -, ⟨-, hnone | hnone⟩, rfl⟩ := read_eq_ok_iff.mp hread
    · exact .inr (by simp only [ofItems, hnone, List.head?_nil])
    · exact .inl (by simp only [ofItems, hnone, List.getLast?_nil])
  · obtain ⟨argv, -, hspells⟩ := exists_spells (others_options args) args.template?.toList
    have hothers : (args.options ++ args.template?.toList.map Item.other).filterMap Item.other? =
        args.template?.toList := by
      rw [List.filterMap_append, others_options, others_map_other, List.nil_append]
    have hexpression := congrArg Arguments.expression? (ofItems_options args)
    refine ⟨argv, read_eq_ok_iff.mpr ⟨_, hspells, ⟨?_, ?_⟩, (ofItems_options args).symm⟩⟩
    · rw [hothers]
      exact Option.length_toList_le
    · rcases hone with hone | hone
      · exact .inr (List.getLast?_eq_none_iff.mp (hexpression.trans hone))
      · exact .inl (by rw [hothers, hone, Option.toList_none])

/-- The second `f` counts and takes nothing, while `D` takes what looks like an option. -/
example : read ["-dfa", "-f", "-D", "-s", "--", "-t"] =
    .ok { debug := true, variablesFile := .skip, defines := ["-s"], template? := some "-t" } := by
  cbv

end Arguments

end Stencil.CommandLine
